-- SUMMARY: Reading documents of an expected form from text (`Json.Reader.record` and its parts) and any document at all (`Json.parse?`).
import GitHubReconciler.Json.Scanner

/-!
# Reading documents

A document is read from text with an expectation of what it is. The text is refused at the first
place where the expectation fails. So of two faults the one that stands first counts, and what
stands behind it need not even be well formed. What nothing is expected of is skipped.

An object of expected fields is a record. Its fields may stand in any order, and other fields are
skipped. Some records refuse a field that stands twice; in all others, and in maps, the later one
counts, but every one of them has to be as expected.
-/

namespace GitHubReconciler.Json

namespace Reader

/-! ## Unexpected values -/

/-- Refuse the value that begins here, because another one is expected. Numbers, strings and words
    are read first, arrays and objects are not. -/
def unexpected (expected : String) : Reader α := do
  match ← peek with
  | some 'n' => skip *> word ['u', 'l', 'l'] *> fail (.wrongType .null expected)
  | some 't' => skip *> word ['r', 'u', 'e'] *> fail (.wrongType (.bool true) expected)
  | some 'f' => skip *> word ['a', 'l', 's', 'e'] *> fail (.wrongType (.bool false) expected)
  | some '"' => do
      skip
      let s ← string
      fail (.wrongType (.text s) expected)
  | some '[' => fail (.wrongType .array expected)
  | some '\x7b' => fail (.wrongType .object expected)
  | some c =>
      if startsNumber c then do
        let n ← number
        fail (.wrongType n.found expected)
      else failNext .noValue
  | none => failNext .noValue

/-- Drop white space before a value and look at its first character. -/
def start : Reader Char := do
  skipSpace
  match ← peek with
  | some c => pure c
  | none => fail .endInValue

/-! ## Plain values -/

/-- Read a string, which may be refused for a reason of its own. -/
def textWhich (expected : String) (accept : String → Except Reason Unit) : Reader Json := do
  if (← start) = '"' then
    skip
    let s ← string
    match accept s with
    | .ok () => return .string s
    | .error reason => fail reason
  else unexpected expected

def text : Reader Json := textWhich "a string" fun _ => .ok ()

/-- Read a truth value. -/
def flag : Reader Json := do
  match ← start with
  | 't' => skip *> word ['r', 'u', 'e'] *> pure (.bool true)
  | 'f' => skip *> word ['a', 'l', 's', 'e'] *> pure (.bool false)
  | _ => unexpected "a boolean"

/-- Read an integer between two bounds. -/
def integer (low high : Int) (expected : String) : Reader Json := do
  if startsNumber (← start) then
    let n ← number
    match n.integer? with
    | some value =>
        if low ≤ value ∧ value ≤ high then return .int value
        else fail (.wrongValue (.integer value) expected)
    | none => fail (.wrongType n.found expected)
  else unexpected expected

/-- Read a value or `null`. -/
def nullable (r : Reader Json) : Reader Json := do
  skipSpace
  match ← peek with
  | some 'n' => skip *> word ['u', 'l', 'l'] *> pure .null
  | _ => r

/-! ## Arrays -/

/-- Go to the next item of an array, if there is one. -/
def nextItem (first : Bool) : Reader Bool := do
  skipSpace
  match ← peek with
  | none => fail .endInArray
  | some ']' => pure false
  | some c =>
      if first then pure true
      else if c = ',' then do
        skip
        skipSpace
        match ← peek with
        | none => fail .endInValue
        | some ']' => failNext .trailingComma
        | some _ => pure true
      else failNext .noItemEnd

/-- Read items up to the end of their array. -/
def itemsFrom (r : Reader Json) : Nat → Bool → Reader (List Json)
  | 0, _ => fail .endInArray
  | fuel + 1, first => do
      if ← nextItem first then
        let x ← r
        (x :: ·) <$> itemsFrom r fuel false
      else pure []

/-- Read items from behind the opening bracket, with the closing one. -/
def items (r : Reader Json) : Reader Json := do
  skip
  let xs ← itemsFrom r (← steps) true
  skip
  return .array xs

/-- Read an array. -/
def list (r : Reader Json) : Reader Json := do
  if (← start) = '[' then items r else unexpected "a sequence"

/-! ## Objects -/

/-- Put a field in place of an earlier one of its name, or behind all. -/
def putField (name : String) (value : Json) : List (String × Json) → List (String × Json)
  | [] => [(name, value)]
  | f :: rest => if f.1 = name then (name, value) :: rest else f :: putField name value rest

/-- Go to the next field of an object, if there is one. -/
def nextField (first : Bool) : Reader Bool := do
  skipSpace
  match ← peek with
  | none => fail .endInObject
  | some '\x7d' => pure false
  | some c =>
      if first then if c = '"' then pure true else failNext .noName
      else if c = ',' then do
        skip
        skipSpace
        match ← peek with
        | none => fail .endInValue
        | some '"' => pure true
        | some '\x7d' => failNext .trailingComma
        | some _ => failNext .noName
      else failNext .noFieldEnd

/-- Drop the colon between a name and its value. -/
def colon : Reader Unit := do
  skipSpace
  match ← peek with
  | none => fail .endInObject
  | some ':' => skip
  | some _ => failNext .noColon

/-- Read fields up to the end of their object. From behind the name of a field, `r` reads the rest
    of it, knowing the fields before it, and gives its value unless it is to be left out. -/
def fieldsFrom (r : List (String × Json) → String → Reader (Option Json)) :
    Nat → Bool → List (String × Json) → Reader (List (String × Json))
  | 0, _, _ => fail .endInObject
  | fuel + 1, first, known => do
      if ← nextField first then
        skip
        let name ← string
        match ← r known name with
        | some value => fieldsFrom r fuel false (putField name value known)
        | none => fieldsFrom r fuel false known
      else pure known

/-- Read fields from behind the opening brace to the closing one. -/
def fields (r : List (String × Json) → String → Reader (Option Json)) :
    Reader (List (String × Json)) := do
  skip
  fieldsFrom r (← steps) true []

/-- Read an object with any names of fields. -/
def map (r : Reader Json) : Reader Json := do
  if (← start) = '\x7b' then
    let fs ← fields fun _ _ => colon *> some <$> r
    skip
    return .object fs
  else unexpected "a map"

/-! ## Anything -/

/-- Read any document in which arrays and objects are nested at most `depth` deep. -/
def any (depth : Nat) : Reader Json := do
  match ← start with
  | 'n' => skip *> word ['u', 'l', 'l'] *> pure .null
  | 't' | 'f' => flag
  | '"' => text
  | '[' =>
      match depth with
      | 0 => failNext .tooDeep
      | depth + 1 => items (any depth)
  | '\x7b' =>
      match depth with
      | 0 => failNext .tooDeep
      | depth + 1 => map (any depth)
  | c => if startsNumber c then Numeral.json <$> number else failNext .noValue

/-- How deep arrays and objects may be nested where any document is read. -/
def maxDepth : Nat := 127

/-! ## Skipping -/

/-- An array or an object that is being skipped. -/
inductive Enclosing where
  | array
  | object
  deriving DecidableEq, Repr

/-- The character that closes it. -/
def Enclosing.closing : Enclosing → Char
  | .array => ']'
  | .object => '\x7d'

/-- The reason to refuse the end of the text in it. -/
def Enclosing.atEnd : Enclosing → Reason
  | .array => .endInArray
  | .object => .endInObject

/-- The reason to refuse what is neither a comma nor its end. -/
def Enclosing.atOther : Enclosing → Reason
  | .array => .noItemEnd
  | .object => .noFieldEnd

/-- Skip the name of a field with its colon. -/
def skipName : Reader Unit := do
  skipSpace
  match ← peek with
  | none => fail .endInObject
  | some '"' => skip *> skipString *> colon
  | some _ => failNext .noName

/-- What comes next when a value is skipped. -/
inductive Skipping where
  /-- A value. -/
  | value
  /-- An item or a field, which may not be missing. -/
  | member
  /-- A first item or field, or the end. -/
  | first
  /-- A comma or the end. -/
  | more
  deriving DecidableEq, Repr

/-- Skip on inside of arrays and objects, the innermost first, to the end of the outermost. There
    is no bound on how deep they are nested. -/
def skipFrom : Nat → Skipping → List Enclosing → Reader Unit
  | 0, _, _ => fail .endInValue
  | fuel + 1, .value, outer => do
      match ← start with
      | 'n' => skip *> word ['u', 'l', 'l'] *> skipFrom fuel .more outer
      | 't' => skip *> word ['r', 'u', 'e'] *> skipFrom fuel .more outer
      | 'f' => skip *> word ['a', 'l', 's', 'e'] *> skipFrom fuel .more outer
      | '"' => skip *> skipString *> skipFrom fuel .more outer
      | '[' => skip *> skipFrom fuel .first (.array :: outer)
      | '\x7b' => skip *> skipFrom fuel .first (.object :: outer)
      | c => if startsNumber c then skipNumber *> skipFrom fuel .more outer else failNext .noValue
  | _ + 1, _, [] => pure ()
  | fuel + 1, .member, inner :: outer => do
      if inner = .object then skipName
      skipFrom fuel .value (inner :: outer)
  | fuel + 1, .first, inner :: outer => do
      skipSpace
      match ← peek with
      | none => fail inner.atEnd
      | some c =>
          if c = inner.closing then skip *> skipFrom fuel .more outer
          else skipFrom fuel .member (inner :: outer)
  | fuel + 1, .more, inner :: outer => do
      skipSpace
      match ← peek with
      | none => fail inner.atEnd
      | some c =>
          if c = inner.closing then skip *> skipFrom fuel .more outer
          else if c = ',' then skip *> skipFrom fuel .member (inner :: outer)
          else failNext inner.atOther

/-- Skip a value. For each character there are at most three steps. -/
def skipValue : Reader Unit := do
  skipFrom (3 * (← steps)) .value []

/-! ## Records -/

/-- Whether a field may be missing. -/
inductive Presence where
  | required
  /-- It may be missing in objects, but in arrays its place has to be taken. -/
  | placed
  | optional
  deriving DecidableEq, Repr

/-- A field that is expected in a record. -/
structure Field where
  name : String
  read : Reader Json
  presence : Presence := .optional
  /-- The reason to refuse a value that has been read. -/
  refuse? : Json → Option Reason := fun _ => none

/-- What is expected of a record. -/
structure Shape where
  /-- What people are told to write. -/
  expected : String
  fields : List Field
  /-- Whether a field that stands twice is refused. -/
  distinct : Bool
  /-- Whether an array of the fields in order may stand for the object. -/
  positional : Bool

/-- Refuse the fields of an object as a whole. The place is behind the object, if it ends here. -/
def failObject (reason : Reason) : Reader α := do
  skipSpace
  let _ ← dropOne (· == '\x7d')
  fail reason

/-- Refuse the items of an array as a whole. The place is behind the array, if it ends here, or
    behind the comma. -/
def failArray (reason : Reason) : Reader α := do
  skipSpace
  match ← dropOne (fun c => c == ']' || c == ',') with
  | some ',' => skipSpace *> fail reason
  | _ => fail reason

/-- Read the rest of a field of a record from behind its name. -/
def member (shape : Shape) (known : List (String × Json)) (name : String) :
    Reader (Option Json) := do
  match shape.fields.find? fun f => f.name == name with
  | none => colon *> skipValue *> pure none
  | some field =>
      if shape.distinct && (known.lookup name).isSome then failObject (.repeatedField name)
      else
        colon
        let value ← field.read
        match field.refuse? value with
        | some reason => failObject reason
        | none => return some value

/-- Read a record from an object. -/
def recordFields (shape : Shape) : Reader Json := do
  let fs ← fields (member shape)
  let missing := shape.fields.find? fun f =>
    f.presence = .required && (fs.lookup f.name).isNone
  match missing with
  | some field => failObject (.missingField field.name)
  | none => skip *> pure (.object fs)

/-- Read the items that stand for fields, of which `n` have been read. -/
def placesFrom (expected : String) : List Field → Nat → Reader (List Json)
  | [], _ => pure []
  | field :: rest, n => do
      if ← nextItem (n == 0) then
        let x ← field.read
        (x :: ·) <$> placesFrom expected rest (n + 1)
      else if (field :: rest).any (·.presence ≠ .optional) then failArray (.tooShort n expected)
      else pure []

/-- Drop the end of an array. -/
def closeArray : Reader Unit := do
  skipSpace
  match ← peek with
  | none => fail .endInArray
  | some ']' => skip
  | some ',' => do
      skip
      skipSpace
      match ← peek with
      | some ']' => failNext .trailingComma
      | _ => failNext .trailingText
  | some _ => failNext .trailingText

def record (shape : Shape) : Reader Json := do
  match ← start with
  | '\x7b' => recordFields shape
  | '[' =>
      if shape.positional then
        skip
        let xs ← placesFrom shape.expected shape.fields 0
        closeArray
        return .array xs
      else skip *> failArray (.wrongType .array shape.expected)
  | _ => unexpected shape.expected

/-! ## Texts -/

/-- Read a whole text. -/
def run (r : Reader α) (text : String) : Except Fault α :=
  let whole : Reader α := do
    let x ← r
    skipSpace
    match ← peek with
    | none => return x
    | some _ => failNext .trailingText
  (whole (Cursor.ofText text)).map (·.1)

end Reader

/-- Read a text that is one document. -/
def parse? (text : String) : Option Json :=
  ((Reader.any Reader.maxDepth).run text).toOption

end GitHubReconciler.Json
