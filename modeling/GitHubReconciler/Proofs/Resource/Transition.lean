-- SUMMARY: What is left of any number of conditions put into a list (`Condition.putAll_exact`): one for each type, with the time at which it entered the state that it was last reported in (`Condition.Began`).
import GitHubReconciler.Proofs.Resource.Condition
import Mathlib.Data.List.Induction
import Mathlib.Data.List.Nodup
import Mathlib.Tactic.MkIffOfInductiveProp

/-!
# Transitions of conditions

The conditions of one type, those that stood in the list and those that were put into it since, are
a history. It ends in an unbroken run of conditions of one state, and the condition that began this
run is the one that is found: later ones of its state did not replace it, and it replaced what was
there before. The histories of different types do not bear on each other.

The step lemma is `Tracks.put`. A history has one last run (`Began.unique`), so the history of a
type determines what is found (`find?_putAll_iff`).
-/

namespace GitHubReconciler.Condition

/-! ## First appearances -/

section

variable {α : Type} [BEq α] [LawfulBEq α]

theorem eraseDups_concat (l : List α) (x : α) :
    (l ++ [x]).eraseDups = if x ∈ l then l.eraseDups else l.eraseDups ++ [x] := by
  rw [List.eraseDups_append]
  by_cases h : x ∈ l
  · simp [List.removeAll, h]
  · simp [List.removeAll, h, List.eraseDups_cons]

theorem nodup_eraseDups (l : List α) : l.eraseDups.Nodup := by
  induction l using List.reverseRecOn with
  | nil => simp
  | append_singleton l x ih =>
    rw [eraseDups_concat]
    split
    next => exact ih
    next h =>
      rw [← List.concat_eq_append]
      exact ih.concat (mt List.mem_eraseDups.mp h)

theorem eraseDups_of_nodup {l : List α} (h : l.Nodup) : l.eraseDups = l := by
  induction l using List.reverseRecOn with
  | nil => simp
  | append_singleton l x ih =>
    obtain ⟨hl, -, hx⟩ := List.nodup_append.mp h
    rw [eraseDups_concat, if_neg fun hmem => hx x hmem x (List.mem_singleton_self x) rfl, ih hl]

end

variable {c d e : Condition} {conditions updates history : List Condition} {type : String}

/-! ## States -/

/-- Two conditions describe the same state, whenever they entered it. -/
@[mk_iff]
structure Alike (c d : Condition) : Prop where
  type_eq : c.type = d.type
  status_eq : c.status = d.status
  reason_eq : c.reason = d.reason
  message_eq : c.message = d.message

theorem sameState_iff_alike : c.sameState d = true ↔ c.Alike d := by
  simp [sameState, alike_iff, and_assoc]

namespace Alike

theorem refl (c : Condition) : c.Alike c :=
  ⟨rfl, rfl, rfl, rfl⟩

theorem symm (h : c.Alike d) : d.Alike c :=
  ⟨h.type_eq.symm, h.status_eq.symm, h.reason_eq.symm, h.message_eq.symm⟩

theorem trans (h : c.Alike d) (h' : d.Alike e) : c.Alike e :=
  ⟨h.type_eq.trans h'.type_eq, h.status_eq.trans h'.status_eq, h.reason_eq.trans h'.reason_eq,
    h.message_eq.trans h'.message_eq⟩

end Alike

/-! ## Histories -/

/-- The condition began the last unbroken run of one state in a history: those after it are of its
    state, and the one before it, if there is one, is not. -/
def Began (history : List Condition) (c : Condition) : Prop :=
  ∃ before after, history = before ++ c :: after ∧ (∀ d ∈ after, d.Alike c) ∧
    ∀ d ∈ before.getLast?, ¬ d.Alike c

theorem began_singleton : Began [c] c :=
  ⟨[], [], rfl, by simp, by simp⟩

namespace Began

/-- The run is of the state that the history ends in. -/
theorem alike_getLast (h : Began history c) (hd : d ∈ history.getLast?) : c.Alike d := by
  obtain ⟨before, after, rfl, hafter, -⟩ := h
  cases after using List.reverseRecOn with
  | nil =>
    rw [List.getLast?_concat] at hd
    cases hd
    exact .refl c
  | append_singleton after e =>
    rw [← List.cons_append, ← List.append_assoc, List.getLast?_concat] at hd
    cases hd
    exact (hafter d (List.mem_append_right _ (List.mem_singleton_self d))).symm

/-- A condition of the same state continues the run. -/
theorem continued (h : Began history c) (hd : c.Alike d) : Began (history ++ [d]) c := by
  obtain ⟨before, after, rfl, hafter, hbefore⟩ := h
  refine ⟨before, after ++ [d], by simp, ?_, hbefore⟩
  intro e he
  rcases List.mem_append.mp he with he | he
  · exact hafter e he
  · rw [List.mem_singleton.mp he]
    exact hd.symm

/-- A condition of another state begins a new run. -/
theorem broken (h : Began history c) (hd : ¬ c.Alike d) : Began (history ++ [d]) d := by
  refine ⟨history, [], rfl, by simp, ?_⟩
  intro e he hsame
  exact hd ((h.alike_getLast he).trans hsame)

/-- A run does not begin within another one. -/
theorem eq_of_append_eq {before between after after' : List Condition}
    (hafter : ∀ e ∈ after, e.Alike c) (hbefore : ∀ e ∈ (before ++ between).getLast?, ¬ e.Alike d)
    (h : c :: after = between ++ d :: after') : c = d := by
  cases between using List.reverseRecOn with
  | nil => exact (List.cons.inj h).1
  | append_singleton between e =>
    -- Both `d` and the condition before it would stand in the run of `c`.
    have hrun : ∀ x ∈ c :: after, x.Alike c := List.forall_mem_cons.mpr ⟨.refl c, hafter⟩
    rw [h] at hrun
    have hd : d.Alike c := hrun d (by simp)
    have he : e.Alike c := hrun e (by simp)
    exact absurd (he.trans hd.symm) (hbefore e (by simp))

/-- A history has one last run. -/
theorem unique (h : Began history c) (h' : Began history d) : c = d := by
  obtain ⟨before, after, rfl, hafter, hbefore⟩ := h
  obtain ⟨before', after', heq, hafter', hbefore'⟩ := h'
  rcases List.append_eq_append_iff.mp heq with ⟨between, rfl, hrest⟩ | ⟨between, rfl, hrest⟩
  · exact eq_of_append_eq hafter hbefore' hrest
  · exact (eq_of_append_eq hafter' hbefore hrest).symm

end Began

/-! ## The conditions of one type -/

/-- The conditions of a type among others. -/
def reports (type : String) (conditions : List Condition) : List Condition :=
  conditions.filter (·.type == type)

theorem find?_eq_head? : find? type conditions = (reports type conditions).head? :=
  List.head?_filter.symm

theorem reports_append :
    reports type (conditions ++ updates) = reports type conditions ++ reports type updates :=
  List.filter_append ..

theorem reports_singleton : reports type [c] = if c.type = type then [c] else [] := by
  simp [reports, List.filter_singleton]

/-- Conditions of other types stay. -/
theorem reports_put_of_ne (h : c.type ≠ type) :
    reports type (c.put conditions) = reports type conditions := by
  have hfilter : ∀ l : List Condition,
      reports type l = (l.filter (·.type != c.type)).filter (·.type == type) := by
    intro l
    rw [List.filter_filter, reports]
    refine List.filter_congr fun d _ => ?_
    by_cases hd : d.type = type
    · simp [hd, Ne.symm h]
    · simp [hd]
  rw [hfilter, filter_put, ← hfilter]

/-- In a list of conditions of different types there is at most one of each. -/
theorem length_reports_le_one (h : (conditions.map (·.type)).Nodup) :
    (reports type conditions).length ≤ 1 := by
  have hcount := List.nodup_iff_count_le_one.mp h type
  rwa [List.count, List.countP_map, List.countP_eq_length_filter] at hcount

/-! ## What is found -/

/-- What is found of a type began the last run of its history, if it has one. -/
def Tracks (type : String) (conditions history : List Condition) : Prop :=
  match find? type conditions with
  | some d => Began history d
  | none => history = []

theorem tracks_of_nodup (h : (conditions.map (·.type)).Nodup) :
    Tracks type conditions (reports type conditions) := by
  have hlength : (reports type conditions).length ≤ 1 := length_reports_le_one h
  rw [Tracks, find?_eq_head?]
  cases hreports : reports type conditions with
  | nil => rfl
  | cons d rest =>
    rw [hreports] at hlength
    obtain rfl : rest = [] := by simpa using hlength
    exact began_singleton

namespace Tracks

theorem put (h : Tracks type conditions history) (hc : c.type = type) :
    Tracks type (c.put conditions) (history ++ [c]) := by
  subst hc
  rw [Tracks] at h
  rw [Tracks, find?_put_eq]
  cases hfound : find? c.type conditions with
  | none =>
    rw [hfound] at h
    obtain rfl : history = [] := h
    exact began_singleton
  | some d =>
    rw [hfound] at h
    by_cases hsame : d.sameState c = true
    · rw [Option.filter_some, if_pos hsame]
      exact h.continued (sameState_iff_alike.mp hsame)
    · rw [Option.filter_some, if_neg hsame]
      exact h.broken (mt sameState_iff_alike.mpr hsame)

theorem put_of_ne (h : Tracks type conditions history) (hc : c.type ≠ type) :
    Tracks type (c.put conditions) history := by
  rw [Tracks, find?_eq_head?, reports_put_of_ne hc, ← find?_eq_head?]
  exact h

/-- The history and what is found determine each other. -/
theorem find?_eq_some_iff (h : Tracks type conditions history) :
    find? type conditions = some d ↔ Began history d := by
  unfold Tracks at h
  constructor
  · intro hfound
    rwa [hfound] at h
  · intro hbegan
    cases hfound : find? type conditions with
    | none =>
      rw [hfound] at h
      obtain ⟨before, after, heq, -⟩ := hbegan
      simp [heq] at h
    | some e =>
      rw [hfound] at h
      rw [h.unique hbegan]

theorem exists_of_ne_nil (h : Tracks type conditions history) (hne : history ≠ []) :
    ∃ d, find? type conditions = some d := by
  unfold Tracks at h
  cases hfound : find? type conditions with
  | none =>
    rw [hfound] at h
    exact absurd h hne
  | some d => exact ⟨d, rfl⟩

end Tracks

/-! ## Any number of conditions -/

/-- The list after conditions were put into it one after another. -/
def putAll (conditions updates : List Condition) : List Condition :=
  updates.foldl (fun l c => c.put l) conditions

@[simp] theorem putAll_concat :
    putAll conditions (updates ++ [c]) = c.put (putAll conditions updates) :=
  List.foldl_concat ..

theorem map_type_putAll (h : (conditions.map (·.type)).Nodup) :
    (putAll conditions updates).map (·.type) =
      ((conditions ++ updates).map (·.type)).eraseDups := by
  induction updates using List.reverseRecOn with
  | nil => simp [putAll, eraseDups_of_nodup h]
  | append_singleton updates c ih =>
    have hconcat : (conditions ++ (updates ++ [c])).map (·.type) =
        (conditions ++ updates).map (·.type) ++ [c.type] := by simp
    rw [putAll_concat, map_type_put, ih, hconcat, eraseDups_concat]
    simp only [List.mem_eraseDups]

theorem reports_putAll_of_not_mem (h : type ∉ updates.map (·.type)) :
    reports type (putAll conditions updates) = reports type conditions := by
  induction updates using List.reverseRecOn with
  | nil => rfl
  | append_singleton updates c ih =>
    rw [List.map_append, List.mem_append, not_or] at h
    rw [putAll_concat, reports_put_of_ne (by simpa [eq_comm] using h.2), ih h.1]

theorem tracks_putAll (h : (conditions.map (·.type)).Nodup) :
    Tracks type (putAll conditions updates) (reports type (conditions ++ updates)) := by
  induction updates using List.reverseRecOn with
  | nil => simpa [putAll] using tracks_of_nodup h
  | append_singleton updates c ih =>
    rw [putAll_concat, ← List.append_assoc, reports_append, reports_singleton]
    by_cases hc : c.type = type
    · rw [if_pos hc]
      exact ih.put hc
    · rw [if_neg hc, List.append_nil]
      exact ih.put_of_ne hc

theorem find?_putAll_iff (h : (conditions.map (·.type)).Nodup) :
    find? type (putAll conditions updates) = some d ↔
      Began (reports type (conditions ++ updates)) d :=
  (tracks_putAll h).find?_eq_some_iff

/-- The history of a type that was put ends in what was put last. -/
theorem exists_last (h : type ∈ updates.map (·.type)) :
    ∃ last, (reports type updates).getLast? = some last ∧
      last ∈ (reports type (conditions ++ updates)).getLast? := by
  obtain ⟨c, hc, rfl⟩ := List.mem_map.mp h
  have hne : reports c.type updates ≠ [] :=
    List.ne_nil_of_mem (List.mem_filter.mpr ⟨hc, beq_self_eq_true c.type⟩)
  refine ⟨(reports c.type updates).getLast hne, List.getLast?_eq_some_getLast hne, ?_⟩
  rw [reports_append, List.getLast?_append_of_ne_nil _ hne, List.getLast?_eq_some_getLast hne]
  rfl

/-- After any conditions were put into a list of conditions of different types, the types still
    differ and stand in the order of their first appearance, and types that were not put keep their
    condition. Of a type that was put, the condition is found that began the last unbroken run of
    one state among all conditions of this type, the initial one included. So it is of the state
    that was put last, and conditions of other types do not matter. -/
theorem putAll_exact (conditions updates : List Condition)
    (hdistinct : (conditions.map (·.type)).Nodup) :
    let result := putAll conditions updates
    (result.map (·.type)).Nodup ∧
    result.map (·.type) = ((conditions ++ updates).map (·.type)).eraseDups ∧
    (∀ type, type ∉ updates.map (·.type) → reports type result = reports type conditions) ∧
    (∀ type, type ∈ updates.map (·.type) →
      ∃ last d, (reports type updates).getLast? = some last ∧ find? type result = some d ∧
        d.Alike last ∧ Began (reports type (conditions ++ updates)) d) ∧
    ∀ type updates', reports type updates' = reports type updates →
      find? type (putAll conditions updates') = find? type result := by
  intro result
  have htypes : result.map (·.type) = ((conditions ++ updates).map (·.type)).eraseDups :=
    map_type_putAll hdistinct
  refine ⟨htypes ▸ nodup_eraseDups _, htypes, fun type h => reports_putAll_of_not_mem h, ?_, ?_⟩
  · intro type h
    obtain ⟨last, hput, hlast⟩ : ∃ last, (reports type updates).getLast? = some last ∧
        last ∈ (reports type (conditions ++ updates)).getLast? := exists_last h
    have hne : reports type (conditions ++ updates) ≠ [] := by
      intro hnil
      simp [hnil] at hlast
    obtain ⟨d, hfound⟩ := (tracks_putAll hdistinct).exists_of_ne_nil hne
    have hbegan := (find?_putAll_iff hdistinct).mp hfound
    exact ⟨last, d, hput, hfound, hbegan.alike_getLast hlast, hbegan⟩
  · intro type updates' hsame
    have hreports :
        reports type (conditions ++ updates') = reports type (conditions ++ updates) := by
      rw [reports_append, hsame, ← reports_append]
    refine Option.ext fun d => ?_
    rw [find?_putAll_iff hdistinct, find?_putAll_iff hdistinct, hreports]

/-- A resource becomes available and stays so, while a condition of another type changes. The time
    at which it became available is kept. -/
theorem putAll_exact_interleaved :
    let synced : Condition :=
      { type := "Synced", status := "True", lastTransitionTime := none, reason := none,
        message := none }
    let conditions := [synced, ready .creating "0"]
    let updates := [ready .available "1", { synced with status := "False" }, ready .available "2"]
    (putAll conditions updates).map (·.type) = ["Synced", readyType] ∧
      find? readyType (putAll conditions updates) = some (ready .available "1") := by
  intro synced conditions updates
  obtain ⟨-, htypes, -, hput, -⟩ := putAll_exact conditions updates (by decide)
  obtain ⟨last, d, -, hfound, -, hbegan⟩ := hput readyType (by decide)
  have hfirst : Began (reports readyType (conditions ++ updates)) (ready .available "1") := by
    refine ⟨[ready .creating "0"], [ready .available "2"], by decide, ?_, ?_⟩
    · simp [ready, alike_iff]
    · simp [ready, alike_iff, ReadyReason.status]
  rw [hbegan.unique hfirst] at hfound
  exact ⟨htypes.trans (by decide), hfound⟩

end GitHubReconciler.Condition
