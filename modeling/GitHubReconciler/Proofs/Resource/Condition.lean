-- SUMMARY: What looking a condition up finds after another was put into the list (`Condition.find?_put`), what marking does to `Ready` (`Condition.mark`) and what it leaves alone (`Condition.Marked`).
import GitHubReconciler.Resource.Condition

/-!
# Conditions put into a list

A condition that was put into a list is found there, in the state that was put: a condition of
that state that stood in the list already is kept, with the time at which it entered the state.
-/

namespace GitHubReconciler.Condition

@[simp] theorem sameState_self (c : Condition) : c.sameState c = true := by
  simp [sameState]

/-- What is found after a condition was put: one of the same state that was found before, and the
    condition itself otherwise. -/
theorem find?_put_eq (c : Condition) (conditions : List Condition) :
    find? c.type (c.put conditions) =
      some (((find? c.type conditions).filter (·.sameState c)).getD c) := by
  induction conditions with
  | nil => simp [find?, put]
  | cons d rest ih =>
    by_cases htype : d.type = c.type
    · by_cases hstate : d.sameState c = true
      · simp [find?, put, htype, hstate, Option.filter_some]
      · simp [find?, put, htype, hstate, Option.filter_some]
    · simpa [find?, put, htype] using ih

/-- What is found under the type of a condition that was put is of its state. -/
theorem find?_put (c : Condition) (conditions : List Condition) :
    ∃ d, find? c.type (c.put conditions) = some d ∧ d.sameState c = true := by
  refine ⟨_, find?_put_eq c conditions, ?_⟩
  cases hfound : (find? c.type conditions).filter (·.sameState c) with
  | none => exact sameState_self c
  | some d => exact (Option.filter_eq_some_iff.mp hfound).2

/-- A condition that is put is one more of its type only if there was none. -/
theorem countP_put (c : Condition) (conditions : List Condition) :
    (c.put conditions).countP (·.type == c.type) =
      max 1 (conditions.countP (·.type == c.type)) := by
  induction conditions with
  | nil => simp [put]
  | cons d rest ih =>
    by_cases htype : d.type = c.type
    · by_cases hstate : d.sameState c = true
      · simp [put, htype, hstate]
      · simp [put, htype, hstate]
    · simpa [put, htype] using ih

/-- Conditions of other types stay as they are, in the same order. -/
theorem filter_put (c : Condition) (conditions : List Condition) :
    (c.put conditions).filter (·.type != c.type) = conditions.filter (·.type != c.type) := by
  induction conditions with
  | nil => simp [put]
  | cons d rest ih =>
    by_cases htype : d.type = c.type
    · by_cases hstate : d.sameState c = true
      · simp [put, htype, hstate]
      · simp [put, htype, hstate]
    · simpa [put, htype] using ih

/-- A condition that is put takes the place of the first one of its type, or comes to the end. -/
theorem map_type_put (c : Condition) (conditions : List Condition) :
    (c.put conditions).map (·.type) =
      if c.type ∈ conditions.map (·.type) then conditions.map (·.type)
      else conditions.map (·.type) ++ [c.type] := by
  induction conditions with
  | nil => simp [put]
  | cons d rest ih =>
    by_cases htype : d.type = c.type
    · by_cases hstate : d.sameState c = true
      · simp [put, htype, hstate]
      · simp [put, htype, hstate]
    · simp only [put, if_neg htype, List.map_cons, ih, List.mem_cons, Ne.symm htype, false_or]
      split
      · rfl
      · rfl

/-! ## The states of `Ready` -/

/-- A condition of type `Ready` is in the state that goes with a reason. -/
structure IsReady (c : Condition) (reason : ReadyReason) : Prop where
  type_eq : c.type = readyType
  status_eq : c.status = reason.status
  reason_eq : c.reason = some reason.text
  message_eq : c.message = none

theorem isReady_ready (reason : ReadyReason) (now : String) : (ready reason now).IsReady reason :=
  ⟨rfl, rfl, rfl, rfl⟩

/-- A condition is in one state only. -/
theorem IsReady.eq {c : Condition} {reason reason' : ReadyReason} (h : c.IsReady reason)
    (h' : c.IsReady reason') : reason = reason' := by
  have htext : reason.text = reason'.text :=
    Option.some.inj (h.reason_eq.symm.trans h'.reason_eq)
  cases reason with
  | _ => cases reason' with
    | _ => first | rfl | exact absurd htext (by decide)

theorem sameState_ready_iff {c : Condition} {reason : ReadyReason} {now : String} :
    c.sameState (ready reason now) = true ↔ c.IsReady reason := by
  simp only [sameState, ready, Bool.and_eq_true, beq_iff_eq]
  constructor
  · rintro ⟨⟨⟨htype, hstatus⟩, hreason⟩, hmessage⟩
    exact ⟨htype, hstatus, hreason, hmessage⟩
  · intro h
    exact ⟨⟨⟨h.type_eq, h.status_eq⟩, h.reason_eq⟩, h.message_eq⟩

/-- Put the `Ready` condition of a reason, if there is a reason. -/
def mark (reason? : Option ReadyReason) (now : String) (conditions : List Condition) :
    List Condition :=
  match reason? with
  | some reason => (ready reason now).put conditions
  | none => conditions

variable {reason : ReadyReason} {now : String} {conditions : List Condition}

/-- A `Ready` condition that is in the state already stays as it is. -/
theorem find?_mark_of_isReady {c : Condition} (hfound : find? readyType conditions = some c)
    (hready : c.IsReady reason) : find? readyType (mark (some reason) now conditions) = some c := by
  refine (find?_put_eq (ready reason now) conditions).trans ?_
  change some (((find? readyType conditions).filter _).getD _) = _
  rw [hfound, Option.filter_some, if_pos (sameState_ready_iff.mpr hready), Option.getD_some]

/-- A `Ready` condition in any other state is replaced by a new one. -/
theorem find?_mark_of_not_isReady
    (hother : ∀ c, find? readyType conditions = some c → ¬ c.IsReady reason) :
    find? readyType (mark (some reason) now conditions) = some (ready reason now) := by
  refine (find?_put_eq (ready reason now) conditions).trans ?_
  change some (((find? readyType conditions).filter _).getD _) = _
  cases hfound : find? readyType conditions with
  | none => rfl
  | some c =>
    have hstate : ¬ c.sameState (ready reason now) = true :=
      fun h => hother c hfound (sameState_ready_iff.mp h)
    rw [Option.filter_some, if_neg hstate, Option.getD_none]

/-- After marking, `Ready` has the reason that was put. -/
theorem reason_find?_mark :
    (find? readyType (mark (some reason) now conditions)).bind (·.reason) = some reason.text := by
  obtain ⟨c, hfound, hstate⟩ := find?_put (ready reason now) conditions
  have hmarked : find? readyType (mark (some reason) now conditions) = some c := hfound
  rw [hmarked, Option.bind_some, (sameState_ready_iff.mp hstate).reason_eq]

theorem countP_mark_le_one (reason? : Option ReadyReason)
    (h : conditions.countP (·.type == readyType) ≤ 1) :
    (mark reason? now conditions).countP (·.type == readyType) ≤ 1 := by
  cases reason? with
  | none => exact h
  | some reason =>
    have hcount : (mark (some reason) now conditions).countP (·.type == readyType) =
        max 1 (conditions.countP (·.type == readyType)) := countP_put (ready reason now) conditions
    rw [hcount]
    exact Nat.max_le.mpr ⟨Nat.le_refl 1, h⟩

/-! ## Marked lists -/

/-- What marking makes of a list of conditions, any number of times: the conditions of other types
    stay, and one of type `Ready` comes to stand at the end if there was none. -/
structure Marked (before after : List Condition) : Prop where
  others : after.filter (·.type != readyType) = before.filter (·.type != readyType)
  types : after.map (·.type) = before.map (·.type) ∨
    readyType ∉ before.map (·.type) ∧ after.map (·.type) = before.map (·.type) ++ [readyType]

theorem Marked.refl (conditions : List Condition) : Marked conditions conditions :=
  ⟨rfl, .inl rfl⟩

/-- Once there is a condition of type `Ready`, no other one is added. -/
theorem Marked.trans {before middle after : List Condition} (h : Marked before middle)
    (h' : Marked middle after) : Marked before after := by
  refine ⟨h'.others.trans h.others, ?_⟩
  rcases h.types with heq | ⟨hnone, heq⟩
  · rw [← heq]
    exact h'.types
  · rcases h'.types with heq' | ⟨hnone', -⟩
    · exact .inr ⟨hnone, heq'.trans heq⟩
    · simp [heq] at hnone'

theorem marked_mark (reason? : Option ReadyReason) :
    Marked conditions (mark reason? now conditions) := by
  cases reason? with
  | none => exact .refl conditions
  | some reason =>
    refine ⟨filter_put (ready reason now) conditions, ?_⟩
    have htypes := map_type_put (ready reason now) conditions
    by_cases hmem : readyType ∈ conditions.map (·.type)
    · exact .inl (htypes.trans (if_pos hmem))
    · exact .inr ⟨hmem, htypes.trans (if_neg hmem)⟩

end GitHubReconciler.Condition
