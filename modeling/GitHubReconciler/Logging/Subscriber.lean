-- SUMMARY: What log events become (`Logging.Subscriber`): filtered, as JSON or as plain text with or without colour.
import GitHubReconciler.Config
import GitHubReconciler.Logging.Filter

/-!
# The subscriber

The subscriber lets events through a filter and writes them. There is one for the whole
program; installing a second one fails. A filter given for the whole environment, if it is well
formed, goes before the configured level.
-/

namespace GitHubReconciler.Logging

/-- How events are written. -/
inductive Format where
  | json
  | text (colour : Bool)
  deriving DecidableEq, Repr

/-- The subscriber to log events. -/
structure Subscriber where
  filter : Filter
  format : Format
  deriving DecidableEq, Repr

namespace Subscriber

/-- The subscriber of a configuration and of a filter given for the environment. -/
def ofConfig (config : Config) (environment : Option String) : Subscriber where
  filter := (environment.bind Filter.parse?).getD (.parseLossy config.logLevel)
  format :=
    if config.logFormat.map Char.toLower = "json" then .json else .text config.logColor

/-- Install a subscriber, if none is installed. -/
def install (installed : Option Subscriber) (s : Subscriber) : Except String Subscriber :=
  match installed with
  | none => .ok s
  | some _ =>
      .error ("Failed to install tracing subscriber: "
        ++ "a global default trace dispatcher has already been set")

/-- The levels of which events of a target that have some fields are let through. -/
def levels (s : Subscriber) (target : String) (fields : List String) : List Level :=
  Level.all.filter (s.filter.admits target fields)

end Subscriber

end GitHubReconciler.Logging
