-- SUMMARY: Modes in which patterns are read (`Logging.Pattern.Mode`) and escapes in them (`Logging.Pattern.escape?`).
import GitHubReconciler.Text.Blank
import GitHubReconciler.Text.Hex

/-!
# Modes and escapes

A pattern is about characters or, where the flag `u` is off, about bytes. Where the flag `x` is on,
white space and comments in it do not count.

Patterns are for text. So in a part about bytes nothing may stand for bytes outside ASCII. Elsewhere
boundaries of words cannot be used, since the machine that a pattern becomes knows them for ASCII
only.
-/

namespace GitHubReconciler.Logging.Pattern

/-! ## Modes -/

/-- How a part of a pattern is read. -/
structure Mode where
  /-- Whether it is about characters, not bytes. -/
  unicode : Bool := true
  /-- Whether white space and comments are dropped. -/
  spaced : Bool := false
  deriving DecidableEq, Repr

/-- Drop white space and comments, which go from a number sign to the end of the line. -/
def dropSpace : List Char → List Char
  | [] => []
  | c :: rest =>
      if Text.isBlank c then dropSpace rest
      else if c = '#' then dropComment rest
      else c :: rest
where
  /-- Drop the rest of a comment and what space follows it. -/
  dropComment : List Char → List Char
    | [] => []
    | c :: rest => if c = '\n' then dropSpace rest else dropComment rest

/-- Drop what does not count in a mode. -/
def Mode.dropSpace (m : Mode) (cs : List Char) : List Char :=
  if m.spaced then Pattern.dropSpace cs else cs

/-! ## Escapes -/

/-- What an escape stands for. -/
inductive Piece where
  | char (c : Char)
  | charClass
  | boundary
  deriving DecidableEq, Repr

/-- The characters that stand for themselves behind a backslash: all of ASCII that is neither a
    letter nor a digit nor an angle bracket. -/
def isEscapable (c : Char) : Bool :=
  c.toNat < 0x80 && !c.isAlphanum && c != '<' && c != '>'

/-- Read some hexadecimal digits, of which `n` have the value `value` so far. Between them there may
    be what does not count. -/
def code? (m : Mode) : Nat → Nat → List Char → Option (Nat × List Char)
  | 0, value, cs => some (value, cs)
  | n + 1, value, cs =>
      match cs with
      | [] => none
      | c :: rest =>
          match Text.Hex.digitValue? c.toLower with
          | some digit => code? m n (16 * value + digit) (m.dropSpace rest)
          | none => none

/-- Read a character code of some digits. A byte outside ASCII is no text. -/
def coded? (m : Mode) (digits : Nat) (cs : List Char) : Option (Piece × List Char) := do
  let (value, rest) ← code? m digits 0 (m.dropSpace cs)
  if value.isValidChar ∧ (m.unicode ∨ 2 < digits ∨ value < 0x80) then
    return (.char (Char.ofNat value), rest)
  else none

/-- Read the letter of a class of characters with a Unicode property. -/
def property? (m : Mode) (cs : List Char) : Option (Piece × List Char) :=
  match m.dropSpace cs with
  | c :: rest =>
      if m.unicode ∧ "clmnpsz".contains c.toLower then some (.charClass, m.dropSpace rest) else none
  | [] => none

/-- Read an escape from behind its backslash. -/
def escape? (m : Mode) : List Char → Option (Piece × List Char)
  | [] => none
  | 'x' :: rest => coded? m 2 rest
  | 'u' :: rest => coded? m 4 rest
  | 'U' :: rest => coded? m 8 rest
  | 'p' :: rest | 'P' :: rest => property? m rest
  | c :: rest =>
      if "dsw".contains c then some (.charClass, rest)
      else if "DSW".contains c then if m.unicode then some (.charClass, rest) else none
      else if "bB<>".contains c then if m.unicode then none else some (.boundary, rest)
      else if c = 'A' ∨ c = 'z' then some (.boundary, rest)
      else if c = 'a' then some (.char '\x07', rest)
      else if c = 'f' then some (.char '\x0c', rest)
      else if c = 't' then some (.char '\t', rest)
      else if c = 'n' then some (.char '\n', rest)
      else if c = 'r' then some (.char '\r', rest)
      else if c = 'v' then some (.char '\x0b', rest)
      else if isEscapable c then some (.char c, rest)
      else none

end GitHubReconciler.Logging.Pattern
