-- SUMMARY: Classes of characters in brackets (`Logging.Pattern.bracketed?`).
import GitHubReconciler.Logging.Pattern.Escape
import GitHubReconciler.Logging.Pattern.Nesting

/-!
# Classes in brackets

A class lists characters, ranges of them, escapes, names of classes and further classes. Lists can
be joined by operators: `&&` for what is in both, `--` for what is in the first alone, `~~` for what
is in one of them.
-/

namespace GitHubReconciler.Logging.Pattern

/-- A class that is being read. -/
structure OpenClass where
  /-- The depth of what stands before the last operator. -/
  operand : Option Nat := none
  /-- The members behind it. -/
  members : Series := {}
  deriving DecidableEq, Repr

namespace OpenClass

/-- Add a member. -/
def push (c : OpenClass) (depth : Nat) : OpenClass :=
  { c with members := c.members.push depth }

/-- The depth of what stands in the class. -/
def contents (c : OpenClass) : Nat :=
  match c.operand with
  | none => c.members.depth
  | some depth => max depth c.members.depth + 1

/-- Go behind an operator. -/
def operate (c : OpenClass) : OpenClass :=
  { operand := some c.contents }

def depth (c : OpenClass) : Nat :=
  c.contents + 1

end OpenClass

/-! ## Members -/

/-- The names of classes of ASCII characters. -/
def classNames : List String :=
  ["alnum", "alpha", "ascii", "blank", "cntrl", "digit", "graph", "lower", "print", "punct",
   "space", "upper", "word", "xdigit"]

/-- Read the name of a class of ASCII characters from behind `[`. Gives whether it is negated. -/
def named? (cs : List Char) : Option (Bool × List Char) :=
  match cs with
  | ':' :: rest =>
      let (negated, rest) := match rest with
        | '^' :: rest => (true, rest)
        | rest => (false, rest)
      match rest.span (· != ':') with
      | (name, ':' :: ']' :: rest) =>
          if classNames.contains (String.ofList name) then some (negated, rest) else none
      | _ => none
  | _ => none

/-- Read a character or an escape in a class. -/
def member? (m : Mode) : List Char → Option (Piece × List Char)
  | [] => none
  | '\\' :: rest => do
      match ← escape? m rest with
      | (.boundary, _) => none
      | (.charClass, rest) => return (.charClass, rest)
      | (.char c, rest) => own c rest
  | c :: rest => own c rest
where
  /-- A character that stands for itself, which is a byte where a class is about bytes. -/
  own (c : Char) (rest : List Char) : Option (Piece × List Char) :=
    if m.unicode ∨ c.toNat < 0x80 then some (.char c, rest) else none

/-- The character that decides whether the hyphen before a text stands for itself. Where white space
    does not count, it is found behind that and behind one number sign, but not behind the comment
    which that begins. -/
def ahead? (m : Mode) (cs : List Char) : Option Char :=
  if m.spaced then
    let rest := match cs.dropWhile Text.isBlank with
      | '#' :: rest => rest.dropWhile Text.isBlank
      | rest => rest
    rest.head?.or cs.head?
  else cs.head?

/-- Read a member of a class, or a range of characters. -/
def range? (m : Mode) (cs : List Char) : Option (List Char) := do
  let (first, rest) ← member? m cs
  let rest := m.dropSpace rest
  match rest with
  | '-' :: behind =>
      if ahead? m behind = some ']' ∨ ahead? m behind = some '-' then return rest
      else
        match first, ← member? m (m.dropSpace behind) with
        | .char low, (.char high, rest) => if low ≤ high then return rest else none
        | _, _ => none
  | _ => return rest

/-! ## Classes -/

/-- Read hyphens at the beginning of a class, which stand for themselves. -/
def hyphens (m : Mode) : Nat → OpenClass → List Char → OpenClass × List Char
  | fuel + 1, c, '-' :: rest => hyphens m fuel (c.push 0) (m.dropSpace rest)
  | _, c, cs => (c, cs)

/-- Read the beginning of a class from behind `[`: a caret that negates it, and a bracket or hyphens
    that stand for themselves. -/
def opening? (m : Mode) (cs : List Char) : Option (OpenClass × List Char) := do
  let cs ← match m.dropSpace cs with
    | '^' :: rest => if m.unicode then some (m.dropSpace rest) else none
    | cs => some cs
  match cs with
  | ']' :: rest => return (({} : OpenClass).push 0, m.dropSpace rest)
  | cs => return hyphens m cs.length {} cs

/-- Read on in a class and in those around it, to the end of the outermost. Gives its depth. -/
def classes? (m : Mode) :
    Nat → OpenClass → List OpenClass → List Char → Option (Nat × List Char)
  | 0, _, _, _ => none
  | fuel + 1, inner, outer, cs =>
      match m.dropSpace cs with
      | [] => none
      | ']' :: rest =>
          match outer with
          | [] => some (inner.depth, rest)
          | next :: outer => classes? m fuel (next.push inner.depth) outer rest
      | '[' :: rest =>
          match named? rest with
          | some (negated, rest) =>
              if negated ∧ !m.unicode then none else classes? m fuel (inner.push 0) outer rest
          | none => do
              let (opened, rest) ← opening? m rest
              classes? m fuel opened (inner :: outer) rest
      | '&' :: '&' :: rest | '-' :: '-' :: rest | '~' :: '~' :: rest =>
          classes? m fuel inner.operate outer rest
      | cs => do classes? m fuel (inner.push 0) outer (← range? m cs)

/-- Read a class from behind `[`. Gives its depth. -/
def bracketed? (m : Mode) (cs : List Char) : Option (Nat × List Char) := do
  let (opened, rest) ← opening? m cs
  classes? m (cs.length + 1) opened [] rest

end GitHubReconciler.Logging.Pattern
