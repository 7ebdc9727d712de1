-- SUMMARY: Reading the parts of JSON text from a place in it (`Json.Cursor`, `Json.Reader`): space, words, strings and numbers.
import GitHubReconciler.Json.Numeral
import GitHubReconciler.Text.Hex

/-!
# Parts of JSON text

A reader takes something from the front of what is left of a text, or refuses the text at a place.
The grammar is that of RFC 8259.

Strings and numbers are read in two ways. What is kept is read strictly: halves of surrogate pairs
have no meaning, and a number must not be too large. What is skipped has to follow the grammar
only.
-/

namespace GitHubReconciler.Json

/-! ## Places -/

/-- A place in a text. -/
structure Cursor where
  /-- What is left of the text. -/
  rest : List Char
  /-- The number of bytes before the place. -/
  offset : Nat
  /-- The number of characters of the whole text, which bounds the steps of every reader. -/
  size : Nat
  deriving DecidableEq, Repr

namespace Cursor

/-- The beginning of a text. -/
def ofText (text : String) : Cursor :=
  { rest := text.toList, offset := 0, size := text.length }

/-- The place behind the next character, if there is one. -/
def next (c : Cursor) : Cursor :=
  match c.rest with
  | [] => c
  | x :: rest => { c with rest, offset := c.offset + x.utf8Size }

/-- The offset behind a number of bytes, or the end if there are fewer. -/
def offsetAfter (c : Cursor) (bytes : Nat) : Nat :=
  c.offset + min bytes (String.ofList (c.rest.take bytes)).utf8ByteSize

end Cursor

/-- Takes something from the front of a text, or refuses the text. -/
abbrev Reader (α : Type) := StateT Cursor (Except Fault) α

namespace Reader

/-- The next character. -/
def peek : Reader (Option Char) := fun c => .ok (c.rest.head?, c)

/-- Drop the next character. -/
def skip : Reader Unit := fun c => .ok ((), c.next)

/-- A number of steps that is enough to take every character and to stop behind the last one. -/
def steps : Reader Nat := fun c => .ok (c.size + 1, c)

/-- Refuse the text at this place. -/
def fail (reason : Reason) : Reader α := fun c => .error ⟨reason, c.offset⟩

/-- Refuse the text behind the next byte, if there is one. -/
def failNext (reason : Reason) : Reader α := fun c => .error ⟨reason, c.offsetAfter 1⟩

/-! ## Space and words -/

/-- White space between the parts. -/
def isSpace (c : Char) : Bool :=
  c == ' ' || c == '\t' || c == '\n' || c == '\r'

/-- Take characters of a class. -/
def takeWhile (p : Char → Bool) : Reader (List Char) := fun c =>
  let (taken, rest) := c.rest.span p
  .ok (taken, { c with rest, offset := c.offset + (String.ofList taken).utf8ByteSize })

/-- Drop white space. -/
def skipSpace : Reader Unit := do
  let _ ← takeWhile isSpace

/-- Drop the characters of a word. -/
def word : List Char → Reader Unit
  | [] => pure ()
  | x :: rest => do
      match ← peek with
      | none => fail .endInValue
      | some c => if c = x then skip *> word rest else failNext .noWord

/-! ## Strings -/

/-- The number of a hexadecimal digit of either case. -/
def hexValue? (c : Char) : Option Nat :=
  Text.Hex.digitValue? c.toLower

/-- The number that four hexadecimal digits denote. -/
def unit? (a b c d : Char) : Option Nat := do
  return 4096 * (← hexValue? a) + 256 * (← hexValue? b) + 16 * (← hexValue? c) + (← hexValue? d)

/-- The character that a single letter after a backslash stands for. -/
def escaped? : Char → Option Char
  | '"' => some '"'
  | '\\' => some '\\'
  | '/' => some '/'
  | 'b' => some '\x08'
  | 'f' => some '\x0c'
  | 'n' => some '\n'
  | 'r' => some '\r'
  | 't' => some '\t'
  | _ => none

/-- Refuse four bytes that are not hexadecimal digits. -/
def failUnit : Reader α := fun c =>
  .error ⟨if c.offsetAfter 4 < c.offset + 4 then .endInString else .badEscape, c.offsetAfter 4⟩

/-- Read four hexadecimal digits. -/
def unit : Reader Nat := fun c =>
  match c.rest with
  | x :: y :: z :: w :: rest =>
      match unit? x y z w with
      | some n => .ok (n, { c with rest, offset := c.offset + 4 })
      | none => failUnit c
  | _ => failUnit c

/-- Whether a code is the first half of a surrogate pair. -/
def isHigh (n : Nat) : Bool := 0xD800 ≤ n && n < 0xDC00

/-- Whether a code is the second half of a surrogate pair. -/
def isLow (n : Nat) : Bool := 0xDC00 ≤ n && n < 0xE000

/-- Drop an expected character inside an escape of a surrogate pair. -/
def pairMark (x : Char) : Reader Unit := do
  match ← peek with
  | none => fail .endInString
  | some c => if c = x then skip else failNext .openSurrogate

/-- Read the character that an escape stands for, from behind its backslash. -/
def escape : Reader Char := do
  match ← peek with
  | none => fail .endInString
  | some 'u' => do
      skip
      let high ← unit
      if isLow high then fail .loneSurrogate
      else if isHigh high then
        pairMark '\\'
        pairMark 'u'
        let low ← unit
        if isLow low then
          return Char.ofNat (0x10000 + 1024 * (high - 0xD800) + (low - 0xDC00))
        else fail .loneSurrogate
      else return Char.ofNat high
  | some c =>
      match escaped? c with
      | some x => skip *> pure x
      | none => failNext .badEscape

/-- Skip an escape from behind its backslash. -/
def skipEscape : Reader Unit := do
  match ← peek with
  | none => fail .endInString
  | some 'u' => skip *> unit *> pure ()
  | some c => if (escaped? c).isSome then skip else failNext .badEscape

/-- Read the rest of a string, of which some characters have been read in reverse. Every step
    takes a character, so the number of characters is fuel enough. -/
def stringFrom : Nat → List Char → Reader String
  | 0, _ => fail .endInString
  | fuel + 1, taken => do
      match ← peek with
      | none => fail .endInString
      | some '"' => skip *> pure (String.ofList taken.reverse)
      | some '\\' => do
          skip
          let c ← escape
          stringFrom fuel (c :: taken)
      | some c =>
          if c.toNat < 0x20 then failNext .controlCharacter
          else skip *> stringFrom fuel (c :: taken)

/-- Read a string from behind its opening quote. -/
def string : Reader String := do
  stringFrom (← steps) []

/-- Skip the rest of a string. -/
def skipStringFrom : Nat → Reader Unit
  | 0 => fail .endInString
  | fuel + 1 => do
      match ← peek with
      | none => fail .endInString
      | some '"' => skip
      | some '\\' => skip *> skipEscape *> skipStringFrom fuel
      | some c =>
          if c.toNat < 0x20 then fail .controlCharacter else skip *> skipStringFrom fuel

/-- Skip a string from behind its opening quote. -/
def skipString : Reader Unit := do
  skipStringFrom (← steps)

/-! ## Numbers -/

/-- Whether a number can begin with a character. -/
def startsNumber (c : Char) : Bool := c == '-' || c.isDigit

/-- Drop the next character if it is one of some. -/
def dropOne (p : Char → Bool) : Reader (Option Char) := do
  match ← peek with
  | some c => if p c then skip *> pure (some c) else pure none
  | none => pure none

/-- Read one or more digits; `atEnd` is the reason to refuse the end of the text. -/
def digits (atEnd : Reason) : Reader (List Char) := do
  match ← peek with
  | none => fail atEnd
  | some c => if c.isDigit then takeWhile Char.isDigit else failNext .badNumber

/-- Read the digits before the point, of which the first is zero only if it is the only one. -/
def wholeDigits (atEnd : Reason) : Reader (List Char) := do
  match ← dropOne (· == '0') with
  | some zero => do
      match ← peek with
      | some c => if c.isDigit then failNext .badNumber else pure [zero]
      | none => pure [zero]
  | none => digits atEnd

/-- Read a number; `atEnd` is the reason to refuse the end of the text inside it. -/
def numeral (atEnd : Reason) : Reader Numeral := do
  let negative := (← dropOne (· == '-')).isSome
  let whole ← wholeDigits atEnd
  let fraction ← match ← dropOne (· == '.') with
    | some _ => some <$> digits atEnd
    | none => pure none
  let exponent ← match ← dropOne (fun c => c == 'e' || c == 'E') with
    | some _ => do
        let sign ← dropOne fun c => c == '+' || c == '-'
        let expo ← digits atEnd
        pure (some (sign == some '-', expo))
    | none => pure none
  return { negative, whole, fraction, exponent }

def skipNumber : Reader Unit := do
  let _ ← numeral .badNumber

/-- Refuse a number that has just been read as too large: behind the digit of its exponent that
    makes it so, or behind the number. -/
def failTooLarge (n : Numeral) : Reader α := fun c =>
  match n.exponent with
  | some (_, expo) =>
      let unread := match Numeral.excess? expo with
        | some read => expo.length - read
        | none => 0
      .error ⟨.numberTooLarge, c.offset - unread⟩
  | none => .error ⟨.numberTooLarge, c.offset⟩

/-- Read a number that is not too large. -/
def number : Reader Numeral := do
  let n ← numeral .endInValue
  if n.integer?.isSome || n.magnitude?.isSome then return n else failTooLarge n

end Reader

end GitHubReconciler.Json
