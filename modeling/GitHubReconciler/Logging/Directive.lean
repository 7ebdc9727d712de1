-- SUMMARY: Directives of a filter (`Logging.Directive`): which events they are about and how much of them they let through.
import GitHubReconciler.Logging.Event
import GitHubReconciler.Logging.Pattern
import GitHubReconciler.Text.Decimal

/-!
# Directives

A directive names a level, a target or both: `warn`, `store`, `store=debug`. Without a level it lets
all through. Between the two it may name a span in brackets, and in it a field in braces, which may
be given a value: `store[sync]=debug`, `store[{id}]`, `[sync{id=7}]=trace`.

A directive applies to events whose target begins with its own and that have its field. One that
names a span, or gives a value, is well formed but says nothing about events outside of spans.

The parts of a directive are found in its text without the white space around it, and are then taken
from the same places of its whole text. So white space in front shifts every part, and a level can
only follow where there is none.
-/

namespace GitHubReconciler.Logging

structure Directive where
  /-- What the target of an event begins with. -/
  target : Option String := none
  /-- A field that an event has. -/
  field : Option String := none
  /-- Whether the directive is about spans alone. -/
  spanned : Bool := false
  /-- How much is let through: from zero for nothing to five for all. -/
  verbosity : Nat
  deriving DecidableEq, Repr

namespace Directive

/-! ## Levels -/

/-- What the name of a level lets through, in any case of its letters. -/
def named? (name : String) : Option Nat :=
  match name.map Char.toLower with
  | "off" => some 0
  | "error" => some 1
  | "warn" => some 2
  | "info" => some 3
  | "debug" => some 4
  | "trace" => some 5
  | _ => none

/-- What a level lets through, which is given by name or by number. -/
def verbosity? (level : List Char) : Option Nat :=
  match Text.natural? (Text.dropPlus level) with
  | some n => if n ≤ 5 then some n else none
  | none => named? (String.ofList level)

/-- What is let through by what follows an equals sign: without a level, all. -/
def verbosityOrAll? (level : List Char) : Option Nat :=
  if level.isEmpty then some 5 else verbosity? level

/-! ## Places -/

/-- The number of bytes of a text. -/
def bytes (cs : List Char) : Nat :=
  (String.ofList cs).utf8ByteSize

/-- Cut a text behind some bytes; none if it is shorter or a character stands across the cut. -/
def splitAt? : Nat → List Char → Option (List Char × List Char)
  | 0, cs => some ([], cs)
  | _ + 1, [] => none
  | n + 1, c :: rest =>
      if c.utf8Size ≤ n + 1 then do
        let (before, behind) ← splitAt? (n + 1 - c.utf8Size) rest
        return (c :: before, behind)
      else none

/-- The part of a text from one place to another, both given in bytes. -/
def between? (text : List Char) (start stop : Nat) : Option (List Char) := do
  let (_, behind) ← splitAt? start text
  return (← splitAt? (stop - start) behind).1

/-- The part of a text from a place on. -/
def behind? (text : List Char) (start : Nat) : Option (List Char) :=
  Prod.snd <$> splitAt? start text

/-! ## Values of fields -/

/-- Drop one leading sign. -/
def dropSign : List Char → List Char
  | '+' :: cs | '-' :: cs => cs
  | cs => cs

/-- Whether a text is empty or the exponent of a number. -/
def isExponent : List Char → Bool
  | [] => true
  | c :: rest => (c == 'e' || c == 'E') && (Text.natural? (dropSign rest)).isSome

/-- Whether a text is a number: digits with at most one point and maybe an exponent, or one of the
    names of infinity and of what is no number. -/
def isNumber (cs : List Char) : Bool :=
  let unsigned := dropSign cs
  let (whole, rest) := unsigned.span Char.isDigit
  let (part, rest) := match rest with
    | '.' :: rest => rest.span Char.isDigit
    | rest => ([], rest)
  ["inf", "infinity", "nan"].contains (String.ofList (unsigned.map Char.toLower))
    || (!(whole ++ part).isEmpty && isExponent rest)

/-- Whether a text can be the value of a field: a number or a pattern. -/
def isValue (cs : List Char) : Bool :=
  isNumber cs || Pattern.isWellFormed cs

/-! ## Reading -/

/-- What stands between the brackets of a directive. -/
structure Scope where
  field : Option String := none
  spanned : Bool
  deriving DecidableEq, Repr

/-- Read a field and, from behind an equals sign up to a second one, its value. -/
def Scope.ofField? (named : Bool) (text : List Char) : Option Scope :=
  match text.span (· != '=') with
  | ([], []) => none
  | (name, []) => some { field := some (String.ofList name), spanned := named }
  | (name, _ :: rest) =>
      if isValue (rest.takeWhile (· != '=')) then
        some { field := some (String.ofList name), spanned := true }
      else none

/-- Read what follows an opening bracket up to its closing one, from a place of the whole text.
    Gives the rest and its place. -/
def scope? (whole : List Char) (start : Nat) (text : List Char) :
    Option (Scope × Nat × List Char) := do
  let (name, rest) := text.span (fun c => c != ']' && c != '\x7b')
  let stop := start + bytes name
  let name ← between? whole start stop
  match rest with
  | ']' :: rest => return ({ spanned := true }, stop + 1, rest)
  | _ :: rest =>
      let (field, rest) := rest.span (· != '\x7d')
      let fieldStop := stop + 1 + bytes field
      match rest with
      | _ :: ']' :: rest =>
          let scope ← Scope.ofField? (!name.isEmpty) (← between? whole (stop + 1) fieldStop)
          return (scope, fieldStop + 2, rest)
      | _ => none
  | [] => none

/-- Read what follows the target of a directive: brackets, a level or both. -/
def afterTarget? (whole : List Char) (target : Option String) (start : Nat) :
    List Char → Option Directive
  | '[' :: text => do
      let (scope, stop, rest) ← scope? whole (start + 1) text
      let verbosity ← match rest with
        | [] => some 5
        | '=' :: _ => behind? whole (stop + 1) >>= verbosityOrAll?
        | _ => none
      return { target, field := scope.field, spanned := scope.spanned, verbosity }
  | '=' :: _ => do
      return { target, verbosity := ← behind? whole (start + 1) >>= verbosityOrAll? }
  | _ => none

/-- Read a directive that is a level or, if it is none, a target. -/
def bare (text : List Char) : Directive :=
  match verbosity? text with
  | some verbosity => { verbosity }
  | none => { target := some (String.ofList text), verbosity := 5 }

/-- Whether a target or a level can begin with a character: a letter or a numeral of any script, a
    hyphen, a colon or a low line. -/
def isInitial (c : Char) : Bool :=
  c == '-' || c == ':' || c == '_' || Text.isAlphabetic c || Text.isNumeric c

/-- Read a directive. -/
def parse? (text : String) : Option Directive :=
  let whole := text.toList
  match (Text.trim whole).span (fun c => c != '=' && c != '[') with
  | ([], rest) => if rest.head? = some '[' then afterTarget? whole none 0 rest else none
  | (initial :: others, rest) =>
      if !isInitial initial then none
      else if rest.isEmpty then some (bare whole)
      else do
        let stop := bytes (initial :: others)
        let target ← between? whole 0 stop
        afterTarget? whole (some (String.ofList target)) stop rest

/-! ## Deciding -/

/-- Whether the directive applies to events of a target that have some fields. -/
def appliesTo (d : Directive) (target : String) (fields : List String) : Bool :=
  !d.spanned
    && d.target.all (·.toList.isPrefixOf target.toList)
    && d.field.all fields.contains

/-- How narrow the target of the directive is: the number of its bytes. -/
def narrowness (d : Directive) : Nat :=
  match d.target with
  | none => 0
  | some own => own.utf8ByteSize + 1

/-- Whether a directive yields to a later one: the later target is longer, or as long while the
    later field does not come first. Having no field comes before all fields. -/
def yieldsTo (d e : Directive) : Bool :=
  if e.narrowness = d.narrowness then
    match d.field, e.field with
    | none, _ => true
    | some _, none => false
    | some name, some name' => name ≤ name'
  else d.narrowness < e.narrowness

end Directive

end GitHubReconciler.Logging
