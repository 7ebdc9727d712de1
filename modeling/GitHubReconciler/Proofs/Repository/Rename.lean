-- SUMMARY: A rename takes one observation, one edit and one observation (`rename_completes`).
import GitHubReconciler.Proofs.Repository.Absence
import GitHubReconciler.Proofs.Repository.Directory
import GitHubReconciler.Proofs.Repository.Drift
import GitHubReconciler.Proofs.Repository.Writing

/-!
# Renames

Between the change of a name in the specification and the edit that applies it, the desired name
is free and the repository has the recorded one. An observation then finds the repository by its
second look-up, and records the old name once more; the edit is addressed to the old name and
carries the new one; the observation after it needs one look-up only and records the new name.

What an observation finds out in a directory depends on where the repository is, and on nothing
else (`observing_of_held`, `observing_of_recorded`), provided that the cluster stores what it is
given. So the first observation leaves a rename as it is (`Renaming.observing`); the edit moves the
repository to the desired name (`Renaming.updating`), where the next observation finds it
(`Edited.observing`).
-/

namespace GitHubReconciler.Repository

open Operation

variable {now : String} {o : RepositoryObject} {found : Remote.Repository}

/-! ## What is recorded -/

theorem fill_snd_name {d : Desired} {ready : Option Condition} :
    (d.fill found ready).2.name = found.name := by
  unfold Desired.fill
  dsimp only
  split
  · rfl
  · rfl

theorem desiredPlace_settled : desiredPlace (settled now o found) = desiredPlace o := by
  change (⟨(filling o found).1.owner, (filling o found).1.name⟩ : FullName) = _
  rw [filling, Desired.fill_fst]
  rfl

/-- The name that GitHub reports is recorded. -/
theorem recordedName_settled : recordedName (settled now o found) = found.name.getD "" := by
  change (filling o found).2.name.getD "" = _
  rw [filling, fill_snd_name]

theorem recordedPlace_settled :
    recordedPlace (settled now o found) = ⟨o.desired.owner, found.name.getD ""⟩ := by
  rw [recordedPlace, recordedName_settled]
  change (⟨(filling o found).1.owner, _⟩ : FullName) = _
  rw [filling, Desired.fill_fst]

/-! ## What is edited -/

theorem Settings.lasting_carries {s : Settings} : s.lasting.Carries s := by
  simp [Settings.carries_iff, Settings.lasting]

theorem Desired.applyTo_name {d : Desired} (hname : d.name ≠ "") :
    (d.applyTo found).name = some d.name :=
  if_neg hname

/-- A repository with another name is not as desired. -/
theorem Desired.isMetBy_eq_false {d : Desired} (hname : d.name ≠ "")
    (hother : found.name ≠ some d.name) : d.isMetBy found = false := by
  rw [Bool.eq_false_iff]
  intro h
  rcases (Desired.isMetBy_iff.mp h).1 with hempty | hsame
  · exact hname hempty
  · exact hother hsame

theorem Edited.name_eq {changes edited : Remote.Repository} {name : String}
    (h : Edited found changes name edited) : edited.name = some name := by
  obtain ⟨fullName, rfl⟩ := h
  rfl

/-- A repository that was edited to be as desired is as desired. -/
theorem Edited.isMetBy {d : Desired} {edited : Remote.Repository} (hname : d.name ≠ "")
    (h : Edited found (d.applyTo found) d.name edited) : d.isMetBy edited = true := by
  obtain ⟨fullName, rfl⟩ := h
  have hsettings : (d.applyTo found).settings.lasting.Carries (d.applyTo found).settings :=
    Settings.lasting_carries
  refine Desired.isMetBy_of_carries ?_ hsettings
  rw [Desired.applyTo_name hname]
  exact kept_refl

/-! ## Runs in a directory -/

section

variable {σ : Type} {world : Dialogue.World Call Call.Answer σ} {held : σ → Directory} {w : σ}

/-- An observation that looks in some places and finds a repository. -/
theorem observing_of_looking (now : String) {looked : List FullName}
    (hkept : Directory.KeptBy world held)
    (hstore : ∀ q s, (world (.persist q) s).1 = Except.ok q)
    (hlooking : ∀ xs answer,
      LookingUp o.desired.owner o.desired.name (recordedName o) xs answer →
      (∀ x ∈ xs, (held w).Answers x (held w)) → places xs = looked ∧ answer = .ok found) :
    let run := (client.converse .observe now (.repository o)).run world w
    held run.world = held w ∧ places run.exchanges = looked ∧
      ∃ filledIn, run.value = (.ok (.observed ⟨true, o.desired.isMetBy found, filledIn⟩),
        .repository (settled now o found)) := by
  intro run
  obtain ⟨result, hvalue, hobserving⟩ :=
    observing_of_generates (Dialogue.generates_run world _ w : Dialogue.Generates _ _ run.value)
  have hwalk : Dialogue.Walk world w run.exchanges run.world := Dialogue.walk_run world _ w
  obtain ⟨hsame, hanswers⟩ := hkept.answers_of_walk hwalk
    fun x hx => hobserving.isMutation_eq_false hx
  refine ⟨hsame, ?_⟩
  obtain ⟨ys, zs, answer, hsplit, hlook, hwrites, hsettling⟩ := hobserving.exists_lookingUp
  rw [hsplit] at hanswers hwalk ⊢
  obtain ⟨hplaces, rfl⟩ := hlooking ys answer hlook
    fun x hx => hanswers x (List.mem_append_left _ hx)
  obtain ⟨s, -, hrest⟩ := hwalk.split
  obtain ⟨⟨filledIn, hresult⟩, hresource⟩ := (hsettling found rfl).eq_of_stores
    fun q answer hmem => by
      obtain ⟨t, heq⟩ := hrest.exists_answer hmem
      rw [heq, hstore]
  constructor
  · rw [places_append, hplaces, places_eq_nil hwrites, List.append_nil]
  · refine ⟨filledIn, Prod.ext ?_ hresource⟩
    rw [hvalue, hresult, filling, Desired.isMetBy_fill]
    rfl

/-- What is at the desired place is found there. -/
theorem observing_of_held (now : String) (hkept : Directory.KeptBy world held)
    (hstore : ∀ q s, (world (.persist q) s).1 = Except.ok q)
    (hheld : held w (desiredPlace o) = some found) :
    let run := (client.converse .observe now (.repository o)).run world w
    held run.world = held w ∧ places run.exchanges = [desiredPlace o] ∧
      ∃ filledIn, run.value = (.ok (.observed ⟨true, o.desired.isMetBy found, filledIn⟩),
        .repository (settled now o found)) := by
  refine observing_of_looking now hkept hstore fun xs answer hlook hanswers => ?_
  obtain ⟨rfl, rfl⟩ := hlook.eq_of_held hanswers hheld
  exact ⟨rfl, rfl⟩

/-- What is at the recorded place only is found there. -/
theorem observing_of_recorded (now : String) (hkept : Directory.KeptBy world held)
    (hstore : ∀ q s, (world (.persist q) s).1 = Except.ok q) (hrecorded : recordedName o ≠ "")
    (hfree : held w (desiredPlace o) = none) (hheld : held w (recordedPlace o) = some found) :
    let run := (client.converse .observe now (.repository o)).run world w
    held run.world = held w ∧ places run.exchanges = [desiredPlace o, recordedPlace o] ∧
      ∃ filledIn, run.value = (.ok (.observed ⟨true, o.desired.isMetBy found, filledIn⟩),
        .repository (settled now o found)) := by
  refine observing_of_looking now hkept hstore fun xs answer hlook hanswers => ?_
  obtain ⟨hcalls, rfl⟩ := hlook.eq_of_recorded hanswers hfree hheld hrecorded
  rw [places, hcalls]
  exact ⟨rfl, rfl⟩

end

/-! ## Stages -/

/-- A rename is pending: a repository has the recorded name, and the desired one is free. -/
structure Renaming (d : Directory) (old new : FullName) (found : Remote.Repository)
    (o : RepositoryObject) : Prop where
  recordedPlace_eq : recordedPlace o = old
  desiredPlace_eq : desiredPlace o = new
  old_ne : old.name ≠ ""
  new_ne : new.name ≠ ""
  new_ne_old : new.name ≠ old.name
  held_eq : d old = some found
  name_eq : found.name = some old.name
  free : d new = none

/-- What an observation fills in and records leaves the rename pending. -/
theorem Renaming.settled {d : Directory} {old new : FullName} (h : Renaming d old new found o)
    (now : String) : Renaming d old new found (Repository.settled now o found) :=
  { h with
    recordedPlace_eq := by
      rw [recordedPlace_settled, h.name_eq, ← h.recordedPlace_eq]
      rfl
    desiredPlace_eq := desiredPlace_settled.trans h.desiredPlace_eq }

section

variable {σ : Type} {world : Dialogue.World Call Call.Answer σ} {held : σ → Directory} {w : σ}
  {old new : FullName}

/-- While a rename is pending, an observation finds the repository and that it has drifted. -/
theorem Renaming.observing (h : Renaming (held w) old new found o) (now : String)
    (hkept : Directory.KeptBy world held)
    (hstore : ∀ q s, (world (.persist q) s).1 = Except.ok q) :
    let run := (client.converse .observe now (.repository o)).run world w
    held run.world = held w ∧
      ∃ filledIn, run.value = (.ok (.observed ⟨true, false, filledIn⟩),
        .repository (Repository.settled now o found)) := by
  obtain ⟨rfl, rfl, hold, hnew, hother, hheld, hname, hfree⟩ := h
  intro run
  have hdrift : o.desired.isMetBy found = false := by
    refine Desired.isMetBy_eq_false hnew ?_
    rw [hname, Ne, Option.some_inj]
    exact hother.symm
  obtain ⟨hsame, -, filledIn, hvalue⟩ := observing_of_recorded now hkept hstore hold hfree hheld
  rw [hdrift] at hvalue
  exact ⟨hsame, filledIn, hvalue⟩

/-- While a rename is pending, an edit moves the repository to the desired place. -/
theorem Renaming.updating {r : Resource} (h : Renaming (held w) old new found o) (now : String)
    (hkept : Directory.KeptBy world held) (hr : r = .repository o) :
    let run := (client.converse .update now r).run world w
    run.value = (.ok .updated, .repository o) ∧
      calls run.exchanges =
        [.getRepository new.owner new.name, .getRepository old.owner old.name,
          .editRepository old.owner old.name (o.desired.applyTo found)] ∧
      ∃ edited, Edited found (o.desired.applyTo found) new.name edited ∧
        held run.world = (held w).move old new edited := by
  obtain ⟨rfl, rfl, hold, hnew, -, hheld, -, hfree⟩ := h
  subst hr
  intro run
  obtain ⟨result, hvalue, hupdating, hresource⟩ :=
    updating_of_generates (Dialogue.generates_run world _ w : Dialogue.Generates _ _ run.value)
  have hwalk : Dialogue.Walk world w run.exchanges run.world := Dialogue.walk_run world _ w
  obtain ⟨ys, zs, answer, hsplit, hlook, hediting⟩ := hupdating.exists_lookingUp
  rw [hsplit] at hwalk
  obtain ⟨s, hlooking, hrest⟩ := hwalk.split
  -- The look-ups change nothing, so the edit meets the directory as it was.
  obtain ⟨hsame, hanswers⟩ := hkept.answers_of_walk hlooking
    fun x hx => hlook.isMutation_eq_false hx
  obtain ⟨hcalls, rfl⟩ := hlook.eq_of_recorded hanswers hfree hheld hold
  obtain ⟨reply, rfl, hresult⟩ := hediting found rfl
  have htarget : (o.desired.applyTo found).name = some o.desired.name :=
    Desired.applyTo_name hnew
  rw [editedName_eq_recorded hold] at hrest hsplit
  have hreply := hkept.answers_of_single hrest
  rw [hsame] at hreply
  obtain ⟨edited, hmade, rfl, hmoved⟩ := hreply.edits hheld
  rw [htarget, Option.getD_some] at hmade hmoved
  refine ⟨Prod.ext ?_ hresource, ?_, edited, hmade, hmoved⟩
  · rw [hvalue, hresult]
    rfl
  · rw [hsplit, calls_append, hcalls]
    rfl

/-- After the edit, an observation finds the repository at the desired place, and that it is as
    desired. -/
theorem Edited.observing {r : Resource} {edited : Remote.Repository}
    (h : Edited found (o.desired.applyTo found) new.name edited) (now : String)
    (hkept : Directory.KeptBy world held)
    (hstore : ∀ q s, (world (.persist q) s).1 = Except.ok q) (hr : r = .repository o)
    (hplace : desiredPlace o = new) (hname : new.name ≠ "") (hheld : held w new = some edited) :
    let run := (client.converse .observe now r).run world w
    ∃ filledIn p, run.value = (.ok (.observed ⟨true, true, filledIn⟩), .repository p) ∧
      recordedName p = new.name ∧ places run.exchanges = [new] := by
  subst hplace hr
  intro run
  obtain ⟨-, hplaces, filledIn, hvalue⟩ := observing_of_held now hkept hstore hheld
  rw [h.isMetBy hname] at hvalue
  have hrecorded : recordedName (settled now o edited) = o.desired.name := by
    rw [recordedName_settled, h.name_eq]
    rfl
  exact ⟨filledIn, _, hvalue, hrecorded, hplaces⟩

end

/-! ## The lifecycle -/

/-- While the desired name is free and the repository has the recorded name: an observation finds
    it and reports that it is not as desired; an edit moves it, and nothing else, to the desired
    name; an observation then finds it there at once and reports that it is as desired. -/
theorem rename_completes {σ : Type} (world : Dialogue.World Call Call.Answer σ)
    (held : σ → Directory) (w : σ) (o : RepositoryObject) (found : Remote.Repository)
    (first second third : String) :
    let observing := (client.converse .observe first (.repository o)).run world w
    let updating := (client.converse .update second observing.value.2).run world observing.world
    let again := (client.converse .observe third updating.value.2).run world updating.world
    let old := recordedPlace o
    let new := desiredPlace o
    Directory.KeptBy world held →
    (∀ q s, (world (.persist q) s).1 = Except.ok q) →
    old.name ≠ "" → new.name ≠ "" → new.name ≠ old.name →
    held w old = some found → found.name = some old.name → held w new = none →
    (∃ filledIn p, observing.value = (.ok (.observed ⟨true, false, filledIn⟩), .repository p) ∧
      recordedName p = old.name ∧ held observing.world = held w) ∧
    (∃ body edited, updating.value.1 = .ok .updated ∧ body.name = some new.name ∧
      Edited found body new.name edited ∧
      calls updating.exchanges =
        [.getRepository new.owner new.name, .getRepository old.owner old.name,
          .editRepository old.owner old.name body] ∧
      held updating.world new = some edited ∧ held updating.world old = none ∧
      ∀ other, other ≠ old → other ≠ new → held updating.world other = held w other) ∧
    ∃ filledIn p, again.value = (.ok (.observed ⟨true, true, filledIn⟩), .repository p) ∧
      recordedName p = new.name ∧ places again.exchanges = [new] := by
  intro observing updating again old new hkept hstore hold hnew hother hheld hname hfree
  have hrenaming : Renaming (held w) old new found o :=
    ⟨rfl, rfl, hold, hnew, hother, hheld, hname, hfree⟩
  obtain ⟨hkeeps, filledIn, hobserved⟩ := hrenaming.observing first hkept hstore
  have hstill : Renaming (held observing.world) old new found (settled first o found) :=
    hkeeps ▸ hrenaming.settled first
  obtain ⟨hupdated, hcalls, edited, hedited, hmoved⟩ :=
    hstill.updating second hkept (congrArg Prod.snd hobserved)
  have harrived : held updating.world new = some edited := by
    rw [hmoved, Directory.move_target]
  have hfound := hedited.observing third hkept hstore (congrArg Prod.snd hupdated)
    hstill.desiredPlace_eq hnew harrived
  have hbody : ((settled first o found).desired.applyTo found).name = some new.name := by
    rw [← hstill.desiredPlace_eq] at hnew ⊢
    exact Desired.applyTo_name hnew
  have hplace : old ≠ new := fun heq => hother (congrArg FullName.name heq).symm
  refine ⟨⟨filledIn, _, hobserved, congrArg FullName.name hstill.recordedPlace_eq, hkeeps⟩,
    ⟨_, edited, congrArg Prod.fst hupdated, hbody, hedited, hcalls, harrived, ?_, ?_⟩, hfound⟩
  · rw [hmoved, Directory.move_source hplace]
  · intro other hold hnew
    rw [hmoved, Directory.move_of_ne hold hnew, hkeeps]

/-- A repository with issues is renamed; that it has issues is filled in on the way. -/
theorem rename_completes_renamed :
    let pending : Directory :=
      .only ⟨"acme", "old"⟩ { name := some "old", settings := { hasIssues := some true } }
    let observing := (client.converse .observe "first" (.repository renamed)).run
      Directory.keeping pending
    let updating := (client.converse .update "second" observing.value.2).run
      Directory.keeping observing.world
    let again := (client.converse .observe "third" updating.value.2).run
      Directory.keeping updating.world
    ∃ filledIn p, again.value = (.ok (.observed ⟨true, true, filledIn⟩), .repository p) ∧
      recordedName p = "new" ∧ places again.exchanges = [⟨"acme", "new"⟩] := by
  intro pending observing updating again
  have hfree : pending ⟨"acme", "new"⟩ = none := Directory.only_of_ne (by decide)
  have hlifecycle := rename_completes Directory.keeping id pending renamed _ "first" "second"
    "third" Directory.keptBy_keeping (fun _ _ => rfl) (by decide) (by decide) (by decide)
    Directory.only_self rfl hfree
  exact hlifecycle.2.2

end GitHubReconciler.Repository
