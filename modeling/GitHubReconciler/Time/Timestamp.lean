-- SUMMARY: Instants with leap seconds (`Timestamp`), their civil fields in UTC (`Date.ofDays`, `Timestamp.civil`) and RFC 3339 text, to the second (`Timestamp.format`) or in full (`Timestamp.formatExact`).
import GitHubReconciler.Text.Decimal

/-!
# Timestamps

A timestamp counts seconds from the beginning of 1970 in UTC and the nanoseconds after them.
A leap second is the second after a minute's last one: it keeps that second's count, and its
nanoseconds go on from `10 ^ 9`.

The text of a timestamp has the precision of a second, or shows the nanoseconds too. Dates are
those of the proleptic Gregorian calendar. A year from 0 to 9999 has four digits; any other has a
sign and at least four.
-/

namespace GitHubReconciler

/-! ## Instants -/

/-- An instant in UTC. -/
structure Timestamp where
  /-- Whole seconds since the beginning of 1970. -/
  seconds : Int
  /-- Nanoseconds after them; `10 ^ 9` and more lie in a leap second. -/
  nanos : Nat
  nanos_lt : nanos < 2000000000
  /-- A leap second follows the last second of a minute. -/
  leap_ends_minute : 1000000000 ≤ nanos → seconds % 60 = 59
  deriving DecidableEq, Repr

namespace Timestamp

/-- The instant of a count of seconds and nanoseconds, if there is one. -/
def ofParts? (seconds : Int) (nanos : Nat) : Option Timestamp :=
  if h : nanos < 2000000000 ∧ (1000000000 ≤ nanos → seconds % 60 = 59) then
    some ⟨seconds, nanos, h.1, h.2⟩
  else none

instance : Inhabited Timestamp := ⟨⟨0, 0, by decide, by decide⟩⟩

/-- Whether the instant lies in a leap second. -/
def isLeap (t : Timestamp) : Bool :=
  decide (1000000000 ≤ t.nanos)

end Timestamp

/-! ## Civil fields -/

/-- A date of the proleptic Gregorian calendar. -/
structure Date where
  year : Int
  month : Nat
  day : Nat
  deriving DecidableEq, Repr

/-- The date that is `days` days after the first of January 1970.

    Years are counted from the first of March, so that the leap day ends a year, in eras of
    400 years, which have 146097 days each. -/
def Date.ofDays (days : Int) : Date :=
  let sinceEpoch := days + 719468
  let era := sinceEpoch / 146097
  let dayOfEra := (sinceEpoch % 146097).toNat
  let yearOfEra :=
    (dayOfEra - dayOfEra / 1460 + dayOfEra / 36524 - dayOfEra / 146096) / 365
  let dayOfYear := dayOfEra - (365 * yearOfEra + yearOfEra / 4 - yearOfEra / 100)
  let monthFromMarch := (5 * dayOfYear + 2) / 153
  let day := dayOfYear - (153 * monthFromMarch + 2) / 5 + 1
  let month := if monthFromMarch < 10 then monthFromMarch + 3 else monthFromMarch - 9
  let year := era * 400 + yearOfEra + (if month ≤ 2 then 1 else 0)
  { year, month, day }

/-- The fields of a clock and calendar in UTC. -/
structure CivilTime where
  date : Date
  hour : Nat
  minute : Nat
  /-- From 0 to 59, or 60 in a leap second. -/
  second : Nat
  deriving DecidableEq, Repr

/-- The civil fields of a timestamp. -/
def Timestamp.civil (t : Timestamp) : CivilTime :=
  let secondOfDay := (t.seconds % 86400).toNat
  { date := Date.ofDays (t.seconds / 86400)
    hour := secondOfDay / 3600
    minute := secondOfDay / 60 % 60
    second := secondOfDay % 60 + (if t.isLeap then 1 else 0) }

/-! ## Text -/

/-- Write a year. -/
def Date.formatYear (year : Int) : String :=
  if 0 ≤ year ∧ year ≤ 9999 then Text.padded 4 year.toNat
  else if 0 ≤ year then "+" ++ Text.padded 4 year.toNat
  else "-" ++ Text.padded 4 year.natAbs

/-- Write civil fields without an offset from UTC. -/
def CivilTime.formatFields (c : CivilTime) : String :=
  Date.formatYear c.date.year ++ "-" ++ Text.padded 2 c.date.month ++ "-"
    ++ Text.padded 2 c.date.day ++ "T" ++ Text.padded 2 c.hour ++ ":"
    ++ Text.padded 2 c.minute ++ ":" ++ Text.padded 2 c.second

/-- Write civil fields as RFC 3339 in UTC. -/
def CivilTime.format (c : CivilTime) : String :=
  c.formatFields ++ "Z"

namespace Timestamp

/-- Write a timestamp as RFC 3339 in UTC, to the second. -/
def format (t : Timestamp) : String :=
  t.civil.format

/-- The nanoseconds after the second that is shown, a leap second being a second of its own. -/
def subsecond (t : Timestamp) : Nat :=
  t.nanos % 1000000000

/-- Write nanoseconds as a fraction of a second: not at all if there are none, else with three
    digits, or six, or nine. -/
def formatFraction (nanos : Nat) : String :=
  if nanos = 0 then ""
  else if nanos % 1000000 = 0 then "." ++ Text.padded 3 (nanos / 1000000)
  else if nanos % 1000 = 0 then "." ++ Text.padded 6 (nanos / 1000)
  else "." ++ Text.padded 9 nanos

/-- Write a timestamp as RFC 3339 in UTC, with its nanoseconds. -/
def formatExact (t : Timestamp) : String :=
  t.civil.formatFields ++ formatFraction t.subsecond ++ "Z"

end Timestamp

end GitHubReconciler
