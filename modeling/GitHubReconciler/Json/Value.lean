-- SUMMARY: JSON documents (`Json`), whether two are the same, and objects with fields left out (`Json.record`).
/-!
# JSON documents

An object is a list of fields in the order in which they stand. Integers of 64 bits are kept apart
from all other numbers, of which the text is kept that shows them in the shortest way.
-/

namespace GitHubReconciler

/-- A JSON document. -/
inductive Json where
  | null
  | bool (value : Bool)
  | int (value : Int)
  /-- A floating-point number, as it is shown. -/
  | real (shown : String)
  | string (value : String)
  | array (items : List Json)
  | object (fields : List (String × Json))
  deriving Inhabited, Repr

namespace Json

/-- Whether a document is `null`. -/
def isNull : Json → Bool
  | .null => true
  | _ => false

/-! ## Comparison -/

mutual

/-- Whether two documents are the same. -/
def same : Json → Json → Bool
  | .null, .null => true
  | .bool a, .bool b => a == b
  | .int a, .int b => a == b
  | .real a, .real b => a == b
  | .string a, .string b => a == b
  | .array xs, .array ys => sameItems xs ys
  | .object fs, .object gs => sameFields fs gs
  | _, _ => false

def sameItems : List Json → List Json → Bool
  | [], [] => true
  | x :: xs, y :: ys => same x y && sameItems xs ys
  | _, _ => false

def sameFields : List (String × Json) → List (String × Json) → Bool
  | [], [] => true
  | (name, x) :: fs, (name', y) :: gs => name == name' && same x y && sameFields fs gs
  | _, _ => false

end

mutual

theorem same_iff : (a b : Json) → (a.same b = true ↔ a = b)
  | .null, b => by cases b <;> simp [same]
  | .bool _, b => by cases b <;> simp [same]
  | .int _, b => by cases b <;> simp [same]
  | .real _, b => by cases b <;> simp [same]
  | .string _, b => by cases b <;> simp [same]
  | .array xs, b => by
      cases b with
      | array ys => simp [same, sameItems_iff xs ys]
      | _ => simp [same]
  | .object fs, b => by
      cases b with
      | object gs => simp [same, sameFields_iff fs gs]
      | _ => simp [same]

theorem sameItems_iff : (xs ys : List Json) → (sameItems xs ys = true ↔ xs = ys)
  | [], ys => by cases ys <;> simp [sameItems]
  | x :: xs, ys => by
      cases ys with
      | nil => simp [sameItems]
      | cons y ys => simp [sameItems, same_iff x y, sameItems_iff xs ys]

theorem sameFields_iff : (fs gs : List (String × Json)) → (sameFields fs gs = true ↔ fs = gs)
  | [], gs => by cases gs <;> simp [sameFields]
  | (name, x) :: fs, gs => by
      cases gs with
      | nil => simp [sameFields]
      | cons g gs => simp [sameFields, same_iff x g.2, sameFields_iff fs gs, Prod.ext_iff]

end

instance : DecidableEq Json := fun a b => decidable_of_iff (a.same b = true) (same_iff a b)

/-! ## Objects -/

/-- The fields that have a value. -/
def present (fields : List (String × Option Json)) : List (String × Json) :=
  fields.filterMap fun f => f.2.map (f.1, ·)

/-- An object of the fields that have a value. -/
def record (fields : List (String × Option Json)) : Json :=
  .object (present fields)

/-- The value of a field of an object. -/
def field? (name : String) : Json → Option Json
  | .object fields => fields.lookup name
  | _ => none

end Json

end GitHubReconciler
