-- SUMMARY: Timestamps whose date is in bounds (`Instant`), and reading them from text (`Instant.parse`), in a form of RFC 3339 that allows more than it.
import GitHubReconciler.Time.Timestamp

/-!
# Reading timestamps

Dates reach from the year -262143 to the year 262142, and only timestamps with such a date can be
read.

A timestamp is written as a date, a separator, a time of day and an offset from UTC. More is read
than RFC 3339 allows: white space around numbers, numbers with fewer digits, a year of any size if
it has a sign, a space as the separator, and an offset without a colon or by the name `UTC`.

Every number is held to its bounds as soon as it is read. Whether the day is one of its month, and
whether the offset is less than a day, is looked at in the end.
-/

namespace GitHubReconciler

/-! ## Days of dates -/

namespace Date

/-- Whether a year has a day more. -/
def isLeapYear (year : Int) : Bool :=
  year % 4 == 0 && (year % 100 != 0 || year % 400 == 0)

/-- The number of days of a month from 1 to 12. -/
def monthLength (year : Int) (month : Nat) : Nat :=
  if month = 2 then if isLeapYear year then 29 else 28
  else if month = 4 ∨ month = 6 ∨ month = 9 ∨ month = 11 then 30
  else 31

/-- The number of days from the first of January 1970 to a date, counting years from the first of
    March. -/
def toDays (d : Date) : Int :=
  let year := if d.month ≤ 2 then d.year - 1 else d.year
  let monthFromMarch := if d.month ≤ 2 then d.month + 9 else d.month - 3
  let dayOfYear := (153 * monthFromMarch + 2) / 5 + d.day - 1
  365 * year + year / 4 - year / 100 + year / 400 + dayOfYear - 719468

/-- The first day that counts as a date. -/
def first : Date := { year := -262143, month := 1, day := 1 }

/-- The last day that counts as a date. -/
def last : Date := { year := 262142, month := 12, day := 31 }

/-- Whether a date with a month from 1 to 12 and a positive day exists and is in bounds. -/
def isValid (d : Date) : Bool :=
  first.year ≤ d.year && d.year ≤ last.year && d.day ≤ monthLength d.year d.month

end Date

/-- A timestamp whose date in UTC is in bounds. -/
structure Instant extends Timestamp where
  first_le : 86400 * Date.first.toDays ≤ seconds
  lt_last : seconds < 86400 * (Date.last.toDays + 1)
  deriving DecidableEq, Repr

namespace Timestamp

/-! ## Faults -/

/-- Why a text is no timestamp. -/
inductive Fault where
  | tooShort
  | malformed
  | outOfRange
  | tooLong
  /-- In UTC it is no date. -/
  | impossible
  deriving DecidableEq, Repr

def Fault.message : Fault → String
  | .tooShort => "premature end of input"
  | .malformed => "input contains invalid characters"
  | .outOfRange => "input is out of range"
  | .tooLong => "trailing input"
  | .impossible => "no possible date and time matching input"

/-- Takes something from the front of a text, or refuses the text. -/
abbrev Reader (α : Type) := StateT (List Char) (Except Fault) α

namespace Reader

/-! ## Parts -/

/-- Drop white space. -/
def skipBlank : Reader Unit :=
  modify (·.dropWhile Text.isBlank)

/-- Read at least one digit and at most as many as allowed. -/
def digits (most : Nat) : Reader (List Char) := do
  let cs ← get
  let taken := (cs.take most).takeWhile Char.isDigit
  if taken.isEmpty then throw (if cs.isEmpty then .tooShort else .malformed)
  else
    set (cs.drop taken.length)
    return taken

/-- Read a number of one or two digits between two bounds. -/
def number (low high : Nat) : Reader Nat := do
  skipBlank
  let value := Text.digitsValue (← digits 2)
  if low ≤ value ∧ value ≤ high then return value else throw .outOfRange

/-- Read the digits of a year, as many as there are behind a sign and else up to four. -/
def signedYear : Reader Int := do
  match ← get with
  | '-' :: rest => do
      set rest
      return -(Text.digitsValue (← digits rest.length) : Int)
  | '+' :: rest => do
      set rest
      return Text.digitsValue (← digits rest.length)
  | _ => return Text.digitsValue (← digits 4)

/-- Read a year that fits in 32 bits. -/
def year : Reader Int := do
  skipBlank
  let year ← signedYear
  if Int32.minValue.toInt ≤ year ∧ year ≤ Int32.maxValue.toInt then return year
  else throw .outOfRange

/-- Read one of some characters. -/
def oneOf (allowed : List Char) : Reader Unit := do
  match ← get with
  | [] => throw .tooShort
  | c :: rest => if allowed.contains c then set rest else throw .malformed

/-- Read a character with white space before it. -/
def mark (c : Char) : Reader Unit := do
  skipBlank
  oneOf [c]

def date : Reader Date := do
  let year ← year
  mark '-'
  let month ← number 1 12
  mark '-'
  return { year, month, day := ← number 1 31 }

/-- Read what follows the second: maybe a point and digits. The first nine of them count. Gives
    nanoseconds. -/
def fraction : Reader Nat := do
  match ← get with
  | '.' :: rest => do
      set rest
      let counted ← digits 9
      modify (·.dropWhile Char.isDigit)
      return Text.digitsValue counted * Nat.pow 10 (9 - counted.length)
  | _ => return 0

/-- Read a time of day as seconds and nanoseconds. A leap second is the one before it with as many
    nanoseconds more as a second has. -/
def timeOfDay : Reader (Nat × Nat) := do
  let hour ← number 0 23
  mark ':'
  let minute ← number 0 59
  mark ':'
  let second ← number 0 60
  let nanos ← fraction
  return (3600 * hour + 60 * minute + min second 59,
    if second = 60 then 1000000000 + nanos else nanos)

/-- Read the two digits of an offset. What is too short has fewer than two bytes. -/
def twoDigits : Reader (Nat × Nat) := do
  match ← get with
  | c :: d :: rest =>
      if c.isDigit ∧ d.isDigit then
        set rest
        return (Text.digitsValue [c], Text.digitsValue [d])
      else throw .malformed
  | [c] => throw (if c.utf8Size < 2 then .tooShort else .malformed)
  | [] => throw .tooShort

/-- Read the hours and minutes of an offset as seconds. -/
def hoursAndMinutes : Reader Int := do
  let (h, h') ← twoDigits
  modify (·.dropWhile fun c => c == ':' || Text.isBlank c)
  let (m, m') ← twoDigits
  if m < 6 then return 60 * (60 * (10 * h + h') + 10 * m + m' : Nat) else throw .outOfRange

/-- Read an offset from UTC in seconds: the name of UTC or a signed number of hours and minutes. -/
def offset : Reader Int := do
  skipBlank
  let cs ← get
  if (cs.take 3).map Char.toLower = ['u', 't', 'c'] then
    set (cs.drop 3)
    return 0
  else
    match cs with
    | [] => throw .tooShort
    | c :: rest =>
        set rest
        if c = 'Z' ∨ c = 'z' then return 0
        else if c = '+' then hoursAndMinutes
        else if c = '-' ∨ c = '−' then return -(← hoursAndMinutes)
        else throw .malformed

/-- Read a date, the seconds and nanoseconds of a time of day, and an offset from UTC. -/
def parts : Reader (Date × (Nat × Nat) × Int) := do
  let date ← date
  oneOf ['t', 'T', ' ']
  let time ← timeOfDay
  return (date, time, ← offset)

end Reader

end Timestamp

/-! ## Texts -/

namespace Instant

open Timestamp

/-- The instant of a date, seconds and nanoseconds in it, and an offset from UTC. -/
def ofLocal (date : Date) (seconds nanos : Nat) (offset : Int) : Except Fault Instant :=
  if !date.isValid || 86400 ≤ offset.natAbs then .error .outOfRange
  else
    match ofParts? (86400 * date.toDays + seconds - offset) nanos with
    | none => .error .outOfRange
    | some t =>
        if h : 86400 * Date.first.toDays ≤ t.seconds ∧ t.seconds < 86400 * (Date.last.toDays + 1)
        then .ok { t with first_le := h.1, lt_last := h.2 }
        else .error .impossible

def parse (text : String) : Except Fault Instant := do
  let ((date, (seconds, nanos), offset), rest) ← Reader.parts text.toList
  if rest.all Text.isBlank then ofLocal date seconds nanos offset else .error .tooLong

end Instant

end GitHubReconciler
