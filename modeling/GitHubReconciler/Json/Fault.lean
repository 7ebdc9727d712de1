-- SUMMARY: Why a text is not the expected document (`Json.Fault`): the reason, the place and their text.
import GitHubReconciler.Text.Quoted

/-!
# Faults

A text that is not the expected document is refused for a reason and at a place. The place is the
number of bytes before it; people are told its line, counted from one, and its column, which is the
number of bytes before it in the line.
-/

namespace GitHubReconciler.Json

/-- What stands where something else is expected. -/
inductive Found where
  | null
  | bool (value : Bool)
  | integer (value : Int)
  /-- A number that is no integer, as it is shown. -/
  | real (shown : String)
  | text (value : String)
  | array
  | object
  deriving DecidableEq, Repr

/-- How the thing is called. -/
def Found.describe : Found → String
  | .null => "null"
  | .bool true => "boolean `true`"
  | .bool false => "boolean `false`"
  | .integer value => "integer `" ++ toString value ++ "`"
  | .real shown => "floating point `" ++ shown ++ "`"
  | .text value => "string " ++ Text.quoted value
  | .array => "sequence"
  | .object => "map"

/-- Why a text is refused. -/
inductive Reason where
  /-- The text ends inside an array. -/
  | endInArray
  /-- The text ends inside an object. -/
  | endInObject
  /-- The text ends inside a string. -/
  | endInString
  /-- The text ends where a value is expected. -/
  | endInValue
  /-- No colon follows the name of a field. -/
  | noColon
  /-- An item of an array is followed neither by a comma nor by the end. -/
  | noItemEnd
  /-- A field of an object is followed neither by a comma nor by the end. -/
  | noFieldEnd
  /-- What begins like `null`, `true` or `false` goes on otherwise. -/
  | noWord
  /-- No value begins here. -/
  | noValue
  /-- The name of a field is no string. -/
  | noName
  /-- A backslash is followed by something that it does not escape. -/
  | badEscape
  | badNumber
  /-- A number exceeds all floating-point numbers. -/
  | numberTooLarge
  | controlCharacter
  /-- Half of a surrogate pair that is not the first half of one. -/
  | loneSurrogate
  /-- The first half of a surrogate pair that no escape follows. -/
  | openSurrogate
  /-- A comma is followed by the end of the array or object. -/
  | trailingComma
  /-- Something follows the document. -/
  | trailingText
  /-- Arrays and objects are nested too deep. -/
  | tooDeep
  /-- The value is of another type than the expected one. -/
  | wrongType (found : Found) (expected : String)
  /-- The value is of the expected type but not the expected one. -/
  | wrongValue (found : Found) (expected : String)
  /-- An array in place of an object has too few items. -/
  | tooShort (length : Nat) (expected : String)
  | missingField (name : String)
  | repeatedField (name : String)
  /-- The value cannot be read for a reason of its own. -/
  | refused (why : String)
  deriving DecidableEq, Repr

def Reason.text : Reason → String
  | .endInArray => "EOF while parsing a list"
  | .endInObject => "EOF while parsing an object"
  | .endInString => "EOF while parsing a string"
  | .endInValue => "EOF while parsing a value"
  | .noColon => "expected `:`"
  | .noItemEnd => "expected `,` or `]`"
  | .noFieldEnd => "expected `,` or `\x7d`"
  | .noWord => "expected ident"
  | .noValue => "expected value"
  | .noName => "key must be a string"
  | .badEscape => "invalid escape"
  | .badNumber => "invalid number"
  | .numberTooLarge => "number out of range"
  | .controlCharacter =>
      "control character (\\u0000-\\u001F) found while parsing a string"
  | .loneSurrogate => "lone leading surrogate in hex escape"
  | .openSurrogate => "unexpected end of hex escape"
  | .trailingComma => "trailing comma"
  | .trailingText => "trailing characters"
  | .tooDeep => "recursion limit exceeded"
  | .wrongType found expected =>
      "invalid type: " ++ found.describe ++ ", expected " ++ expected
  | .wrongValue found expected =>
      "invalid value: " ++ found.describe ++ ", expected " ++ expected
  | .tooShort length expected =>
      "invalid length " ++ toString length ++ ", expected " ++ expected
  | .missingField name => "missing field `" ++ name ++ "`"
  | .repeatedField name => "duplicate field `" ++ name ++ "`"
  | .refused why => why

/-- Why and where a text is refused. -/
structure Fault where
  reason : Reason
  /-- The number of bytes before the place. -/
  offset : Nat
  deriving DecidableEq, Repr

/-- The line and the column after a number of bytes, where the first character stands in a line
    and a column. -/
def position (line column : Nat) : List Char → Nat → Nat × Nat
  | _, 0 => (line, column)
  | [], _ => (line, column)
  | c :: rest, bytes =>
      if c = '\n' then position (line + 1) 0 rest (bytes - 1)
      else if bytes ≤ c.utf8Size then (line, column + bytes)
      else position line (column + c.utf8Size) rest (bytes - c.utf8Size)

def Fault.describe (f : Fault) (text : String) : String :=
  let (line, column) := position 1 0 text.toList f.offset
  f.reason.text ++ " at line " ++ toString line ++ " column " ++ toString column

end GitHubReconciler.Json
