-- SUMMARY: How deep patterns are nested (`Logging.Pattern.Series`, `Logging.Pattern.maxDepth`).
/-!
# Nesting

What has no parts, such as a character, has depth zero. What has parts is one level deeper than the
deepest of them. Several parts in a row are a level of their own, and so are several branches; one
alone is not.
-/

namespace GitHubReconciler.Logging.Pattern

/-- How deep a pattern may be nested. -/
def maxDepth : Nat := 250

/-- The depths of things that stand in a row. -/
structure Series where
  length : Nat := 0
  deepest : Nat := 0
  /-- The depth of the last of them. -/
  last : Nat := 0
  deriving DecidableEq, Repr

namespace Series

/-- Add one thing. -/
def push (s : Series) (depth : Nat) : Series :=
  { length := s.length + 1, deepest := max s.deepest depth, last := depth }

/-- Put the last thing into another one. -/
def wrapLast (s : Series) : Series :=
  { s with deepest := max s.deepest (s.last + 1), last := s.last + 1 }

/-- The depth of the row itself. -/
def depth (s : Series) : Nat :=
  if s.length ≤ 1 then s.deepest else s.deepest + 1

end Series

end GitHubReconciler.Logging.Pattern
