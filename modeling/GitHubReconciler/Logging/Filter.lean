-- SUMMARY: Filters of log events (`Filter`): directives that let events of a target through up to a level.
import GitHubReconciler.Logging.Directive

/-!
# Filters

A filter is a list of directives, separated by commas. Of those that apply to an event the narrowest
decides, and of two for one target and one field the later.

A filter without any directive lets nothing through.
-/

namespace GitHubReconciler.Logging

structure Filter where
  directives : List Directive
  deriving DecidableEq, Repr

namespace Filter

/-- The directives of a text, in which empty ones are skipped. -/
def pieces (text : String) : List String :=
  (text.splitOn ",").filter (· ≠ "")

/-- Read a filter; none if one of the directives is not well formed. -/
def parse? (text : String) : Option Filter :=
  Filter.mk <$> (pieces text).mapM Directive.parse?

/-- A filter that lets errors through if it would otherwise be without directives. -/
def orErrors (f : Filter) : Filter :=
  if f.directives.isEmpty then { directives := [{ verbosity := 1 }] } else f

/-- Read a filter, leaving out directives that are not well formed. Without a well-formed one
    it lets errors through. -/
def parseLossy (text : String) : Filter :=
  orErrors { directives := (pieces text).filterMap Directive.parse? }

/-- The narrower of two directives, the later one if they are equally narrow. -/
def narrower (d e : Directive) : Directive :=
  if d.yieldsTo e then e else d

/-- How much is let through of the events of a target that have some fields. -/
def verbosity (f : Filter) (target : String) (fields : List String) : Nat :=
  match f.directives.filter (·.appliesTo target fields) with
  | [] => 0
  | d :: rest => (rest.foldl narrower d).verbosity

/-- Whether an event of a target, with some fields and of a level, is let through. -/
def admits (f : Filter) (target : String) (fields : List String) (level : Level) : Bool :=
  decide (level.verbosity ≤ f.verbosity target fields)

end Filter

end GitHubReconciler.Logging
