-- SUMMARY: What happens to something in GitHub while operations go on and others act (`History`), incident by incident with the state after each.
import GitHubReconciler.Proofs.Operation

/-!
# Histories

Between any two calls of an operation others may act on the same thing in GitHub. A history is what
happens to that thing, incident by incident, each with the state that it leaves. `Follows` says
that a history can begin in a state, given what the single incidents can do; the exchanges among
its incidents are those of the operations that go on.
-/

namespace GitHubReconciler

/-- What happens to something in GitHub: a call is answered, or someone else acts. -/
inductive Incident (Act : Type) where
  | answered (x : Exchange)
  | foreign (act : Act)

/-- The exchange of a call that is answered. -/
def Incident.exchange? {Act : Type} : Incident Act → Option Exchange
  | answered x => some x
  | foreign _ => none

/-- An incident with the state after it. -/
structure Moment (Act S : Type) where
  incident : Incident Act
  after : S

abbrev History (Act S : Type) := List (Moment Act S)

namespace History

variable {Act S : Type} {s : S} {h k : History Act S} {xs ys : List Exchange} {x : Exchange}

/-- The exchanges of operations in a history. -/
def exchanges (h : History Act S) : List Exchange :=
  h.filterMap fun m => m.incident.exchange?

/-- The state that a history from some state on ends in. -/
def last (s : S) (h : History Act S) : S :=
  h.foldl (fun _ m => m.after) s

/-- Each incident of a history from some state on leads from the state before it to the one after
    it. -/
def Follows (leads : S → Incident Act → S → Prop) : S → History Act S → Prop
  | _, [] => True
  | s, m :: rest => leads s m.incident m.after ∧ Follows leads m.after rest

@[simp] theorem exchanges_append : exchanges (h ++ k) = exchanges h ++ exchanges k :=
  List.filterMap_append

@[simp] theorem last_nil : last s ([] : History Act S) = s := rfl

@[simp] theorem last_cons {m : Moment Act S} : last s (m :: h) = last m.after h := rfl

@[simp] theorem last_append : last s (h ++ k) = last (last s h) k :=
  List.foldl_append

variable {leads : S → Incident Act → S → Prop}

@[simp] theorem follows_append :
    Follows leads s (h ++ k) ↔ Follows leads s h ∧ Follows leads (last s h) k := by
  induction h generalizing s with
  | nil => simp [Follows]
  | cons m h ih => simp [Follows, ih, and_assoc]

/-- Where an exchange stands in a history. -/
theorem exists_of_exchanges_eq (xs : List Exchange) (heq : exchanges h = xs ++ x :: ys) :
    ∃ before m after, h = before ++ m :: after ∧ exchanges before = xs ∧
      m.incident = .answered x ∧ exchanges after = ys := by
  obtain ⟨front, back, rfl, hfront, hback⟩ := List.filterMap_eq_append_iff.mp heq
  obtain ⟨quiet, m, after, rfl, hquiet, hm, hafter⟩ := List.filterMap_eq_cons_iff.mp hback
  refine ⟨front ++ quiet, m, after, by simp, ?_, ?_, hafter⟩
  · rw [exchanges_append, show exchanges quiet = [] from List.filterMap_eq_nil_iff.mpr hquiet,
      List.append_nil]
    exact hfront
  · cases hincident : m.incident with
    | answered y => simpa [hincident, Incident.exchange?] using hm
    | foreign act => simp [hincident, Incident.exchange?] at hm

/-- An exchange in a history that can begin in a state, with what it leads from and to. -/
theorem Follows.exists_answered (xs : List Exchange) (hfollows : Follows leads s h)
    (heq : exchanges h = xs ++ x :: ys) :
    ∃ before t after, h = before ++ ⟨.answered x, t⟩ :: after ∧ exchanges before = xs ∧
      leads (last s before) (.answered x) t := by
  obtain ⟨before, ⟨incident, t⟩, after, rfl, hbefore, rfl, -⟩ := exists_of_exchanges_eq xs heq
  obtain ⟨-, hleads, -⟩ := follows_append.mp hfollows
  exact ⟨before, t, after, rfl, hbefore, hleads⟩

end History

end GitHubReconciler
