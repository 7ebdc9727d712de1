-- SUMMARY: Keys tell resources apart (`Subject.eq_of_key_eq`), and laws of what a policy remembers under keys (`Policy.find?`, `Policy.keys`).
import GitHubReconciler.Requeue.Policy
import Mathlib.Data.List.Basic

/-!
# Laws of requeue policies

A policy remembers resources under keys. A key joins the kind and the name of a resource with a
slash, so it can be taken apart again if the kind has none (`Subject.ofKey_key`), whatever is in
the name.

What is remembered is a finite map from keys: each law says what erasing and inserting do to what
is found under a key, and to the list of the keys.
-/

namespace GitHubReconciler.Requeue

/-! ## Keys -/

/-- A resource, as a policy is told of it. -/
structure Subject where
  kind : String
  name : String
  deriving DecidableEq, Repr

namespace Subject

variable {s t : Subject}

def key (s : Subject) : String :=
  Requeue.key s.kind s.name

/-- The kind has no slash. -/
def Plain (s : Subject) : Prop :=
  '/' ∉ s.kind.toList

/-- The resource that is remembered under a key. -/
def ofKey (k : String) : Subject where
  kind := String.ofList (k.toList.takeWhile (· != '/'))
  name := String.ofList ((k.toList.dropWhile (· != '/')).drop 1)

theorem ofKey_key (h : s.Plain) : ofKey s.key = s := by
  have hkind : ∀ c ∈ s.kind.toList, (c != '/') = true := by
    intro c hc
    rw [bne_iff_ne]
    rintro rfl
    exact h hc
  have hkey : s.key.toList = s.kind.toList ++ '/' :: s.name.toList := by
    simp [key, Requeue.key]
  rw [ofKey, hkey, List.takeWhile_append_of_pos hkind, List.dropWhile_append_of_pos hkind]
  simp

theorem eq_of_key_eq (hs : s.Plain) (ht : t.Plain) (h : s.key = t.key) : s = t := by
  rw [← ofKey_key hs, h, ofKey_key ht]

end Subject

/-! ## Erasing and inserting -/

namespace Policy

variable {p : Policy} {k k' : String} {t : Tracked}

/-- The keys under which something is remembered. -/
def keys (p : Policy) : List String :=
  p.tracked.map (·.1)

theorem mem_keys : k ∈ p.keys ↔ p.find? k ≠ none := by
  rw [find?, Ne, List.lookup_eq_none_iff]
  constructor
  · intro h hnone
    obtain ⟨entry, hentry, rfl⟩ := List.mem_map.mp h
    exact bne_iff_ne.mp (hnone entry hentry) rfl
  · intro h
    by_contra hmissing
    refine h fun entry hentry => bne_iff_ne.mpr ?_
    rintro rfl
    exact hmissing (List.mem_map_of_mem hentry)

theorem length_keys : p.keys.length = p.size :=
  List.length_map _

theorem keys_erase : (p.erase k).keys = p.keys.filter (· ≠ k) := by
  simp [keys, erase, List.filter_map, Function.comp_def]

theorem keys_insert : (p.insert k t).keys = k :: p.keys.filter (· ≠ k) := by
  rw [← keys_erase]
  rfl

theorem find?_erase_self : (p.erase k).find? k = none := by
  by_contra h
  simpa [keys_erase] using mem_keys.mpr h

theorem find?_erase_of_ne (h : k' ≠ k) : (p.erase k).find? k' = p.find? k' := by
  unfold find? erase
  dsimp only
  induction p.tracked with
  | nil => rfl
  | cons entry rest ih =>
    by_cases hentry : entry.1 = k
    · have hskipped : (k' == entry.1) = false := by simpa [hentry] using h
      rw [List.filter_cons_of_neg (by simpa using hentry), ih, List.lookup_cons, hskipped]
    · rw [List.filter_cons_of_pos (by simpa using hentry), List.lookup_cons, List.lookup_cons, ih]

theorem find?_insert_self : (p.insert k t).find? k = some t :=
  List.lookup_cons_self

theorem find?_insert_of_ne (h : k' ≠ k) : (p.insert k t).find? k' = p.find? k' := by
  have hskipped : (k' == k) = false := by simpa using h
  change List.lookup k' ((k, t) :: (p.erase k).tracked) = _
  rw [List.lookup_cons, hskipped]
  exact find?_erase_of_ne h

/-- There is nothing to erase where nothing is remembered. -/
theorem erase_of_find?_eq_none (h : p.find? k = none) : p.erase k = p := by
  have hkept : p.tracked.filter (fun entry => entry.1 ≠ k) = p.tracked := by
    rw [List.filter_eq_self]
    intro entry hentry
    have hne := bne_iff_ne.mp (List.lookup_eq_none_iff.mp h entry hentry)
    exact decide_eq_true hne.symm
  rw [erase, hkept]

/-- Forgetting a resource erases what is remembered of it. -/
theorem forget_fst {kind name : String} : (p.forget kind name).1 = p.erase (key kind name) := by
  unfold forget
  dsimp only
  split
  next h => exact (erase_of_find?_eq_none h).symm
  next => rfl

end Policy

end GitHubReconciler.Requeue
