-- SUMMARY: What each variable does to the configuration (`Config.settings_exact`): a number setting is the number that its variable spells, or its default, and a setting is read from its own variable and from nothing else.
import GitHubReconciler.Config
import GitHubReconciler.Proofs.Text.Numeral
import Mathlib.Data.List.Nodup
import Mathlib.Logic.Function.Basic

/-!
# Settings and their variables

`Setting` names the parts of a configuration, with the variable that each is read from and the part
itself, so that what holds of every setting can be said once. All of it rests on
`Setting.of_ofLookup`: a setting is a function of what its variable is set to. Since no two settings
have the same variable, setting a variable changes one setting at most.
-/

namespace GitHubReconciler.Config

/-! ## Numbers -/

variable {setting : Option String} {default : UInt64} {n : Nat}

/-- A variable gives a number of 64 bits: it is set to a text that spells it. -/
def Gives (setting : Option String) (n : Nat) : Prop :=
  n < 2 ^ 64 ∧ ∃ text, setting = some text ∧ Text.SpellsNumber text n

theorem toNat_numberOr (h : Gives setting n) : (numberOr default setting).toNat = n := by
  obtain ⟨hfits, text, rfl, hspells⟩ := h
  have hvalue : (UInt64.ofNat n).toNat = n := UInt64.toNat_ofNat_of_lt' hfits
  have hread : Text.unsigned? text = some (UInt64.ofNat n) :=
    Text.unsigned?_eq_some_iff.mpr (hvalue.symm ▸ hspells)
  rw [numberOr, Option.bind_some, hread, Option.getD_some, hvalue]

theorem numberOr_of_not_gives (h : ¬ ∃ n, Gives setting n) :
    numberOr default setting = default := by
  cases hread : setting.bind Text.unsigned? with
  | none => rw [numberOr, hread, Option.getD_none]
  | some v =>
    obtain ⟨text, hset, htext⟩ := Option.bind_eq_some_iff.mp hread
    exact absurd ⟨v.toNat, v.toNat_lt, text, hset, Text.unsigned?_eq_some_iff.mp htext⟩ h

/-- No minus sign, point or other stranger is in a number. -/
theorem not_gives_of_mem {text : String} {c : Char} (hc : c ∈ text.toList)
    (hblank : Text.isBlank c = false) (hplus : c ≠ '+') (hdigit : c.isDigit = false) :
    ¬ ∃ n, Gives (some text) n := by
  rintro ⟨n, -, _, ⟨⟩, hspells⟩
  rcases hspells.mem hc with h | h | h
  · cases hblank.symm.trans h
  · exact hplus h
  · cases hdigit.symm.trans h

/-- Of a number that does not fit, nothing is taken. -/
theorem not_gives_of_le {text : String} (hspells : Text.SpellsNumber text n) (hn : 2 ^ 64 ≤ n) :
    ¬ ∃ m, Gives (some text) m := by
  rintro ⟨m, hfits, _, ⟨⟩, hother⟩
  exact absurd hfits (by rw [hother.unique hspells]; omega)

/-- The settings that are numbers. -/
inductive Amount where
  | errorRequeue
  | permanentRequeue
  | backoffMin
  | backoffMax
  | poll
  deriving DecidableEq

namespace Amount

/-- The variable that a number is read from. -/
def variableName : Amount → String
  | errorRequeue => "RECONCILIATION_ERROR_REQUEUE_SECS"
  | permanentRequeue => "PERMANENT_ERROR_REQUEUE_SECS"
  | backoffMin => "BACKOFF_MIN_MINUTES"
  | backoffMax => "BACKOFF_MAX_MINUTES"
  | poll => "POLL_INTERVAL_SECS"

/-- The number in a configuration. -/
def of : Amount → Config → UInt64
  | errorRequeue, c => c.errorRequeueSeconds
  | permanentRequeue, c => c.permanentRequeueSeconds
  | backoffMin, c => c.backoffMinMinutes
  | backoffMax, c => c.backoffMaxMinutes
  | poll, c => c.pollSeconds

theorem of_ofLookup (a : Amount) (lookup : String → Option String) :
    a.of (ofLookup lookup) = numberOr (a.of {}) (lookup a.variableName) := by
  cases a <;> rfl

end Amount

/-! ## All settings -/

/-- The settings of a configuration. -/
inductive Setting where
  | amount (a : Amount)
  | logLevel
  | logFormat
  | logColor
  | metricsEnabled
  deriving DecidableEq

namespace Setting

/-- What kind of value a setting has. -/
def Value : Setting → Type
  | amount _ => UInt64
  | logLevel | logFormat => String
  | logColor | metricsEnabled => Bool

/-- The variable that a setting is read from. -/
def variableName : Setting → String
  | amount a => a.variableName
  | logLevel => "LOG_LEVEL"
  | logFormat => "LOG_FORMAT"
  | logColor => "LOG_ENABLE_COLOR"
  | metricsEnabled => "ENABLE_METRICS"

/-- The setting in a configuration. -/
def of : (s : Setting) → Config → s.Value
  | amount a, c => a.of c
  | logLevel, c => c.logLevel
  | logFormat, c => c.logFormat
  | logColor, c => c.logColor
  | metricsEnabled, c => c.metricsEnabled

/-- How a setting is read from what its variable is set to. -/
def read : (s : Setting) → Option String → s.Value
  | amount a, setting => numberOr (a.of {}) setting
  | logLevel, setting => setting.getD ({} : Config).logLevel
  | logFormat, setting => setting.getD ({} : Config).logFormat
  | logColor, setting => switchOr ({} : Config).logColor setting
  | metricsEnabled, setting => switchOr ({} : Config).metricsEnabled setting

theorem of_ofLookup (s : Setting) (lookup : String → Option String) :
    s.of (ofLookup lookup) = s.read (lookup s.variableName) := by
  cases s with
  | amount a => exact a.of_ofLookup lookup
  | _ => rfl

/-- Every setting. -/
def all : List Setting :=
  [amount .errorRequeue, amount .permanentRequeue, amount .backoffMin, amount .backoffMax,
   amount .poll, logLevel, logFormat, logColor, metricsEnabled]

theorem mem_all (s : Setting) : s ∈ all := by
  cases s with
  | amount a => cases a <;> decide
  | _ => decide

/-- No two settings are read from the same variable. -/
theorem variableName_injective : Function.Injective variableName := by
  have hnodup : (all.map variableName).Nodup := by decide
  exact fun s t h => List.inj_on_of_nodup_map hnodup (mem_all s) (mem_all t) h

/-- The settings are all that there is to a configuration. -/
theorem eq_of_forall_of {c d : Config} (h : ∀ s : Setting, s.of c = s.of d) : c = d := by
  obtain ⟨_, _, _, _, _, _, _, _, _⟩ := c
  obtain ⟨_, _, _, _, _, _, _, _, _⟩ := d
  rw [Config.mk.injEq]
  exact ⟨h (amount .errorRequeue), h (amount .permanentRequeue), h (amount .backoffMin),
    h (amount .backoffMax), h (amount .poll), h logLevel, h logFormat, h logColor,
    h metricsEnabled⟩

end Setting

/-- A number setting is the number that its variable gives, and its default if the variable gives
    none. A setting depends on its own variable only, so that setting another setting's variable
    does nothing to it, and a configuration depends on the variables of its settings only. -/
theorem settings_exact :
    (∀ (lookup : String → Option String) (a : Amount),
      (∀ n, Gives (lookup a.variableName) n → (a.of (ofLookup lookup)).toNat = n) ∧
      ((¬ ∃ n, Gives (lookup a.variableName) n) → a.of (ofLookup lookup) = a.of {})) ∧
    (∀ (lookup lookup' : String → Option String) (s : Setting),
      lookup s.variableName = lookup' s.variableName →
        s.of (ofLookup lookup) = s.of (ofLookup lookup')) ∧
    (∀ (lookup : String → Option String) (s t : Setting) (setting : Option String), s ≠ t →
      s.of (ofLookup (Function.update lookup t.variableName setting)) = s.of (ofLookup lookup)) ∧
    ∀ lookup lookup' : String → Option String,
      (∀ s : Setting, lookup s.variableName = lookup' s.variableName) →
        ofLookup lookup = ofLookup lookup' := by
  have hown (lookup lookup' : String → Option String) (s : Setting)
      (h : lookup s.variableName = lookup' s.variableName) :
      s.of (ofLookup lookup) = s.of (ofLookup lookup') := by
    rw [s.of_ofLookup, s.of_ofLookup, h]
  refine ⟨fun lookup a => ?_, hown, fun lookup s t setting hne => ?_, fun lookup lookup' h => ?_⟩
  · rw [a.of_ofLookup]
    exact ⟨fun _ => toNat_numberOr, numberOr_of_not_gives⟩
  · have hother : s.variableName ≠ t.variableName := fun h => hne (Setting.variableName_injective h)
    exact hown _ _ s (Function.update_of_ne hother setting lookup)
  · exact Setting.eq_of_forall_of fun s => hown lookup lookup' s (h s)

/-- Variables that are set to a number with all that is allowed around it, to a negative one, and to
    the first that does not fit. -/
def tuned (name : String) : Option String :=
  if name = "POLL_INTERVAL_SECS" then some "\u00a0+0300\n"
  else if name = "BACKOFF_MIN_MINUTES" then some "-3"
  else if name = "BACKOFF_MAX_MINUTES" then some "18446744073709551616"
  else none

/-- The first of them is read and the others are not, whatever else is set. -/
theorem settings_exact_tuned :
    (Gives (tuned Amount.poll.variableName) 300 ∧ (ofLookup tuned).pollSeconds.toNat = 300) ∧
    ((¬ ∃ n, Gives (tuned Amount.backoffMin.variableName) n) ∧
      (ofLookup tuned).backoffMinMinutes = 1) ∧
    ((¬ ∃ n, Gives (tuned Amount.backoffMax.variableName) n) ∧
      (ofLookup tuned).backoffMaxMinutes = 10) ∧
    (tuned Setting.logLevel.variableName = none ∧
      (ofLookup tuned).logLevel = (ofLookup fun _ => none).logLevel) ∧
    (Setting.amount .poll ≠ Setting.amount .backoffMin ∧
      (ofLookup (Function.update tuned Amount.backoffMin.variableName none)).pollSeconds =
        (ofLookup tuned).pollSeconds) ∧
    (∀ s : Setting,
      tuned s.variableName = Function.update tuned "PATH" (some "/bin") s.variableName) ∧
    ofLookup tuned = ofLookup (Function.update tuned "PATH" (some "/bin")) := by
  have hpoll : Gives (tuned Amount.poll.variableName) 300 :=
    ⟨by decide, _, rfl, Text.natural?_trim_eq_some_iff.mp (by decide)⟩
  have hnegative : ¬ ∃ n, Gives (tuned Amount.backoffMin.variableName) n := by
    have hset : tuned Amount.backoffMin.variableName = some "-3" := rfl
    rw [hset]
    exact not_gives_of_mem (c := '-') (by decide) (by decide) (by decide) (by decide)
  have hlarge : ¬ ∃ n, Gives (tuned Amount.backoffMax.variableName) n := by
    have hset : tuned Amount.backoffMax.variableName = some "18446744073709551616" := rfl
    have hspells : Text.SpellsNumber "18446744073709551616" (2 ^ 64) :=
      Text.natural?_trim_eq_some_iff.mp (by decide)
    rw [hset]
    exact not_gives_of_le hspells (Nat.le_refl _)
  have hlevel : tuned Setting.logLevel.variableName = none := by decide
  have hne : Setting.amount .poll ≠ Setting.amount .backoffMin := by decide
  have hpath (s : Setting) :
      tuned s.variableName = Function.update tuned "PATH" (some "/bin") s.variableName := by
    refine (Function.update_of_ne ?_ _ _).symm
    cases s with
    | amount a => cases a <;> decide
    | _ => decide
  obtain ⟨hnumbers, hown, hother, hwhole⟩ := settings_exact
  exact ⟨⟨hpoll, (hnumbers tuned .poll).1 300 hpoll⟩,
    ⟨hnegative, (hnumbers tuned .backoffMin).2 hnegative⟩,
    ⟨hlarge, (hnumbers tuned .backoffMax).2 hlarge⟩,
    ⟨hlevel, hown tuned (fun _ => none) .logLevel hlevel⟩,
    ⟨hne, hother tuned (.amount .poll) (.amount .backoffMin) none hne⟩,
    hpath, hwhole tuned _ hpath⟩

end GitHubReconciler.Config
