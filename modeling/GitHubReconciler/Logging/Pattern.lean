-- SUMMARY: Which texts are patterns for the values of fields (`Logging.Pattern.isWellFormed`).
import GitHubReconciler.Logging.Pattern.Bracketed
import GitHubReconciler.Text.Alphabetic
import GitHubReconciler.Text.Numeric

/-!
# Patterns

The value of a field can be given by a pattern, a regular expression. Nothing is matched here: a
filter only needs to know which texts are patterns.

A value ends at the first closing brace, so a pattern holds none. Whatever would need one is not
closed: a counted repetition, a named class or a character code in braces.
-/

namespace GitHubReconciler.Logging.Pattern

/-! ## Groups -/

/-- Whether the name of a group may have a character, which may be its first one. -/
def isNameChar (first : Bool) (c : Char) : Bool :=
  c == '_' || Text.isAlphabetic c
    || (!first && (c == '.' || c == '[' || c == ']' || Text.isNumeric c))

/-- Read the name of a group up to its closing bracket. -/
def groupName? (cs : List Char) : Option (String × List Char) :=
  match cs.span (· != '>') with
  | (first :: others, _ :: rest) =>
      if isNameChar true first ∧ others.all (isNameChar false) then
        some (String.ofList (first :: others), rest)
      else none
  | _ => none

/-- Read flags up to a colon or a closing parenthesis. No flag may stand twice, nor the hyphen that
    switches the flags behind it off, and something has to follow it. -/
def flags? (seen : List Char) : List Char → Option (List Char × List Char)
  | [] => none
  | c :: rest =>
      if c = ':' ∨ c = ')' then
        if seen.head? = some '-' then none else some (seen.reverse, c :: rest)
      else if "-imsUuRx".contains c ∧ !seen.contains c then flags? (c :: seen) rest
      else none

/-- Switch flags on, or off from a hyphen on. -/
def Mode.withFlags (m : Mode) (flags : List Char) : Mode :=
  let (on, off) := flags.span (· != '-')
  { unicode := (m.unicode || on.contains 'u') && !off.contains 'u'
    spaced := (m.spaced || on.contains 'x') && !off.contains 'x' }

/-- What a parenthesis opens. -/
inductive Opening where
  /-- A group, read in a mode. -/
  | group (mode : Mode)
  /-- A group with a name. -/
  | named (name : String)
  /-- No group: flags for the rest of the group around. -/
  | setting (mode : Mode)
  deriving DecidableEq, Repr

/-- Read what follows a parenthesis. Patterns do not look ahead or behind. -/
def group? (m : Mode) (cs : List Char) : Option (Opening × List Char) :=
  match m.dropSpace cs with
  | '?' :: '=' :: _ | '?' :: '!' :: _ | '?' :: '<' :: '=' :: _ | '?' :: '<' :: '!' :: _ => none
  | '?' :: 'P' :: '<' :: rest | '?' :: '<' :: rest => do
      let (name, rest) ← groupName? rest
      return (.named name, rest)
  | '?' :: rest => do
      match ← flags? [] rest with
      | (flags, ':' :: rest) => return (.group (m.withFlags flags), rest)
      | ([], _) => none
      | (flags, _ :: rest) => return (.setting (m.withFlags flags), rest)
      | _ => none
  | rest => some (.group m, rest)

/-! ## Patterns -/

/-- A group that is being read; the whole pattern is the outermost. -/
structure Level where
  mode : Mode := {}
  /-- The branches before the current one. -/
  branches : Series := {}
  /-- The parts of the current branch. -/
  parts : Series := {}
  deriving DecidableEq, Repr

namespace Level

/-- Add a part. -/
def push (l : Level) (depth : Nat) : Level :=
  { l with parts := l.parts.push depth }

/-- Begin another branch. -/
def branch (l : Level) : Level :=
  { l with branches := l.branches.push l.parts.depth, parts := {} }

/-- The depth of what stands in the group. -/
def contents (l : Level) : Nat :=
  (l.branches.push l.parts.depth).depth

end Level

/-- What has been read of a pattern. -/
structure State where
  inner : Level := {}
  /-- The groups around it, the innermost first. -/
  outer : List Level := []
  /-- Whether there is something that can be repeated. -/
  repeatable : Bool := false
  /-- The names of groups. -/
  names : List String := []
  deriving DecidableEq, Repr

namespace State

/-- Add a part that can be repeated. -/
def push (s : State) (depth : Nat) : State :=
  { s with inner := s.inner.push depth, repeatable := true }

/-- Begin a group. -/
def opened (s : State) (mode : Mode) : State :=
  { s with inner := { mode }, outer := s.inner :: s.outer, repeatable := false }

/-- End a group. -/
def closed? (s : State) : Option State :=
  match s.outer with
  | [] => none
  | next :: outer => some ({ s with inner := next, outer }.push (s.inner.contents + 1))

/-- Repeat the last part. -/
def repeated? (s : State) : Option State :=
  if s.repeatable then some { s with inner.parts := s.inner.parts.wrapLast } else none

end State

/-- Read one part of a pattern, from behind what does not count. -/
def part? (s : State) : List Char → Option (State × List Char)
  | [] => none
  | '(' :: rest => do
      match ← group? s.inner.mode rest with
      | (.setting mode, rest) =>
          return ({ s with inner := { s.inner.push 0 with mode }, repeatable := false }, rest)
      | (.group mode, rest) => return (s.opened mode, rest)
      | (.named name, rest) =>
          if s.names.contains name then none
          else return ({ s with names := name :: s.names }.opened s.inner.mode, rest)
  | ')' :: rest => do return (← s.closed?, rest)
  | '|' :: rest => some ({ s with inner := s.inner.branch, repeatable := false }, rest)
  | '[' :: rest => do
      let (depth, rest) ← bracketed? s.inner.mode rest
      return (s.push depth, rest)
  | '\x7b' :: _ => none
  | '\\' :: rest => do return (s.push 0, (← escape? s.inner.mode rest).2)
  | c :: rest =>
      if c = '?' ∨ c = '*' ∨ c = '+' then
        match rest with
        | '?' :: rest => do return (← s.repeated?, rest)
        | rest => do return (← s.repeated?, rest)
      else if c = '.' ∧ !s.inner.mode.unicode then none
      else some (s.push 0, rest)

/-- Read a pattern to its end, where no group may be open. Every step takes a character. -/
def readsAll : Nat → State → List Char → Bool
  | 0, _, _ => false
  | fuel + 1, s, cs =>
      match s.inner.mode.dropSpace cs with
      | [] => s.outer.isEmpty && s.inner.contents ≤ maxDepth
      | cs =>
          match part? s cs with
          | some (s, rest) => readsAll fuel s rest
          | none => false

/-- Whether a text without closing braces is a pattern. -/
def isWellFormed (cs : List Char) : Bool :=
  readsAll (cs.length + 1) {} cs

end GitHubReconciler.Logging.Pattern
