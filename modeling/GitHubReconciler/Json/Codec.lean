-- SUMMARY: Typed values as JSON: `Codec` for plain values, `Record` for records built field by field, and the faults of reading (`DecodeFault`).
import GitHubReconciler.Json.Reading

/-!
# Typed values as JSON

A `Codec` writes the values of a type as documents and reads them back, from documents and from
text. A `Record` describes an object field by field: every field is named once, and all
directions follow from that.

A record is read from an object, or from an array of its fields in the order of the
description. Reading goes through all fields that are present, in the order in which they
stand, before it looks for those that are absent. So a fault inside a field that is present is
reported rather than a missing field, and of the missing fields the first of the description
is.

A text that is read is first read as a document of the expected form, so that whatever is wrong
with it is reported where it stands, and then this document is read as a value.
-/

namespace GitHubReconciler

/-- Why a document does not hold a value of the expected type. -/
inductive DecodeFault where
  /-- An object lacks a field that has no default. -/
  | missingField (name : String)
  /-- Any other departure from the expected shape. -/
  | mismatch
  deriving DecidableEq, Repr

/-- What reading gives. -/
abbrev Decoded (α : Type) := Except DecodeFault α

/-- How the values of a type are written and read. -/
structure Codec (α : Type) where
  encode : α → Json
  decode : Json → Decoded α
  /-- How a document that holds a value is read from text. -/
  read : Json.Reader Json := Json.Reader.any Json.Reader.maxDepth

namespace Codec

/-- Read a value from a text. -/
def parse (c : Codec α) (text : String) : Except Json.Fault α := do
  match c.decode (← c.read.run text) with
  | .ok x => .ok x
  | .error (.missingField name) => .error ⟨.missingField name, text.utf8ByteSize⟩
  | .error .mismatch => .error ⟨.noValue, text.utf8ByteSize⟩

/-! ## Plain values -/

def text : Codec String where
  encode := .string
  decode
    | .string s => .ok s
    | _ => .error .mismatch
  read := Json.Reader.text

/-- A truth value. -/
def flag : Codec Bool where
  encode := .bool
  decode
    | .bool b => .ok b
    | _ => .error .mismatch
  read := Json.Reader.flag

/-- A signed integer of 64 bits. -/
def integer : Codec Int64 where
  encode n := .int n.toInt
  decode
    | .int n =>
        if Int64.minValue.toInt ≤ n ∧ n ≤ Int64.maxValue.toInt then .ok (Int64.ofInt n)
        else .error .mismatch
    | _ => .error .mismatch
  read := Json.Reader.integer Int64.minValue.toInt Int64.maxValue.toInt "i64"

/-- A list of values. -/
def list (c : Codec α) : Codec (List α) where
  encode xs := .array (xs.map c.encode)
  decode
    | .array items => items.mapM c.decode
    | _ => .error .mismatch
  read := Json.Reader.list c.read

/-- Values under names. -/
def map (c : Codec α) : Codec (List (String × α)) where
  encode fields := .object (fields.map fun f => (f.1, c.encode f.2))
  decode
    | .object fields => fields.mapM fun f => return (f.1, ← c.decode f.2)
    | _ => .error .mismatch
  read := Json.Reader.map c.read

/-- A value that is written as a text, and why a text may stand for none. -/
def textOf (expected : String) (write : α → String) (value : String → Except ε α)
    (message : ε → String) : Codec α where
  encode x := .string (write x)
  decode
    | .string s =>
        match value s with
        | .ok x => .ok x
        | .error _ => .error .mismatch
    | _ => .error .mismatch
  read := Json.Reader.textWhich expected fun s =>
    match value s with
    | .ok _ => .ok ()
    | .error fault => .error (.refused (message fault))

/-- A value or `null`. -/
def nullable (c : Codec α) : Codec (Option α) where
  encode
    | some x => c.encode x
    | none => .null
  decode
    | .null => .ok none
    | x => return some (← c.decode x)
  read := Json.Reader.nullable c.read

/-- A value that `null` stands for, too, if it is the default. -/
def orDefault (c : Codec α) (default : α) : Codec α where
  encode := c.encode
  decode document := (·.getD default) <$> c.nullable.decode document
  read := c.nullable.read

end Codec

/-! ## Documents -/

/-- A document other than `null`, which stands for none. -/
structure Json.Given where
  document : Json
  isNull_eq : document.isNull = false
  deriving DecidableEq, Repr

/-- Documents of any form as themselves, nested at most `depth` deep in a text. -/
def Codec.given (depth : Nat) : Codec Json.Given where
  encode x := x.document
  decode document :=
    if h : document.isNull = false then .ok ⟨document, h⟩ else .error .mismatch
  read := Json.Reader.any depth

/-! ## Records -/

/-- The fields of a record as they stand in a document. -/
structure Fields where
  present : List (String × Json)
  /-- What is reported for a required field that is absent. -/
  absent : String → DecodeFault

/-- A description of fields: `σ` is what they are written from, `α` what reading them gives. -/
structure Record (σ α : Type) where
  /-- What the fields are expected to be in a text, in order. -/
  fields : List Json.Reader.Field
  /-- What each field is written as, if it is written. -/
  entries : σ → List (String × Option Json)
  /-- Whether the value of a field can be read; fields of other names are not looked at. -/
  check : String → Json → Decoded Unit
  /-- The value of all fields. -/
  build : Fields → Decoded α

namespace Record

/-- The names of the fields, in order. -/
def names (r : Record σ α) : List String :=
  r.fields.map (·.name)

/-- No fields. -/
def nothing (x : α) : Record σ α where
  fields := []
  entries _ := []
  check _ _ := .ok ()
  build _ := .ok x

/-- The fields of one description followed by those of another. -/
def followedBy (r : Record σ (α → β)) (s : Record σ α) : Record σ β where
  fields := r.fields ++ s.fields
  entries x := r.entries x ++ s.entries x
  check name value := do
    r.check name value
    s.check name value
  build fields := do
    let f ← r.build fields
    let x ← s.build fields
    return f x

instance : Pure (Record σ) := ⟨nothing⟩

instance : Functor (Record σ) where
  map f r := (nothing f).followedBy r

instance : Seq (Record σ) := ⟨fun r s => r.followedBy (s ())⟩

/-- Describe fields that are written from a part of a value. -/
def within (part : τ → σ) (r : Record σ α) : Record τ α where
  fields := r.fields
  entries x := r.entries (part x)
  check := r.check
  build := r.build

/-- One field, from what it is expected to be in a text, how it is written and read, and what
    stands for it when it is absent. -/
def field (expected : Json.Reader.Field) (write : σ → Option Json) (read : Json → Decoded α)
    (absent : DecodeFault → Decoded α) : Record σ α where
  fields := [expected]
  entries x := [(expected.name, write x)]
  check n value := if n = expected.name then do let _ ← read value else .ok ()
  build fields :=
    match fields.present.lookup expected.name with
    | some value => read value
    | none => absent (fields.absent expected.name)

/-- A field that has to be present. -/
def required (name : String) (c : Codec α) (get : σ → α) : Record σ α :=
  field { name, read := c.read, presence := .required } (fun x => some (c.encode (get x)))
    c.decode .error

/-- A field that is always written and has a default when it is absent. -/
def defaulted (name : String) (c : Codec α) (default : α) (get : σ → α) : Record σ α :=
  field { name, read := c.read } (fun x => some (c.encode (get x))) c.decode
    fun _ => .ok default

/-- A list that is left out when it is empty. -/
def elements (name : String) (c : Codec α) (get : σ → List α) : Record σ (List α) :=
  field { name, read := c.list.read }
    (fun x => if (get x).isEmpty then none else some (c.list.encode (get x)))
    c.list.decode fun _ => .ok []

/-- A field that is left out when it has no value; `null` reads as no value too. -/
def optional (name : String) (c : Codec α) (get : σ → Option α) : Record σ (Option α) :=
  field { name, read := c.nullable.read } (fun x => (get x).map c.encode) c.nullable.decode
    fun _ => .ok none

/-- A field that is left out of objects when it has no value. In an array of fields its place has
    to be taken, by `null` if it has no value. -/
def placed (name : String) (c : Codec α) (get : σ → Option α) : Record σ (Option α) :=
  field { name, read := c.nullable.read, presence := .placed } (fun x => (get x).map c.encode)
    c.nullable.decode fun
      | .missingField _ => .ok none
      | .mismatch => .error .mismatch

/-- A field that is written as `null` when it has no value. -/
def explicit (name : String) (c : Codec α) (get : σ → Option α) : Record σ (Option α) :=
  defaulted name c.nullable none get

/-- Write one more field in front, which reading ignores. -/
def stamped (name value : String) (r : Record σ α) : Record σ α :=
  { r with entries := fun x => (name, some (.string value)) :: r.entries x }

/-- Read fields, those that are present first. -/
def read (r : Record σ α) (fields : Fields) : Decoded α := do
  fields.present.forM fun f => r.check f.1 f.2
  r.build fields

/-- The record as an object. -/
def encode (r : Record σ α) (x : σ) : Json :=
  Json.record (r.entries x)

/-- Read the record from an object. -/
def decodeObject (r : Record σ α) : Json → Decoded α
  | .object fields => r.read ⟨fields, .missingField⟩
  | _ => .error .mismatch

/-- Read the record from an object or from an array of its fields in order. Of an array fields
    may be left out at the end if they have defaults. -/
def decode (r : Record σ α) : Json → Decoded α
  | .array items => do
      let x ← r.read ⟨r.names.zip items, fun _ => .mismatch⟩
      if items.length ≤ r.names.length then return x else .error .mismatch
  | document => r.decodeObject document

/-- A record that is written as an object and read from an object or an array. In a text each
    field may stand only once. -/
def codec (r : Record α α) : Codec α where
  encode := r.encode
  decode := r.decode
  read := Json.Reader.record
    { expected := "an object", fields := r.fields, distinct := true, positional := true }

/-- A record that is written as an object and read from nothing else. In a text the last of the
    fields of one name counts. -/
def objectCodec (expected : String) (r : Record α α) : Codec α where
  encode := r.encode
  decode := r.decodeObject
  read := Json.Reader.record
    { expected, fields := r.fields, distinct := false, positional := false }

end Record

end GitHubReconciler
