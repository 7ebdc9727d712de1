-- SUMMARY: The configuration (`Config`), read from environment variables with a default for each (`Config.ofLookup`).
import GitHubReconciler.Text.Decimal

/-!
# Configuration

Every setting has a variable of its own and a default. A number that cannot be read gives its
default; a switch that is set to anything but a word for "on" is off.
-/

namespace GitHubReconciler

/-- The configuration. -/
structure Config where
  /-- Seconds until the next attempt when there is no backoff to go by. -/
  errorRequeueSeconds : UInt64 := 60
  /-- Seconds until the next attempt after a permanent failure. -/
  permanentRequeueSeconds : UInt64 := 600
  /-- The first delay of the backoff, in minutes. -/
  backoffMinMinutes : UInt64 := 1
  /-- The longest delay of the backoff, in minutes. -/
  backoffMaxMinutes : UInt64 := 10
  /-- Seconds between observations of a resource that is as desired. -/
  pollSeconds : UInt64 := 60
  logLevel : String := "INFO"
  logFormat : String := "json"
  logColor : Bool := false
  metricsEnabled : Bool := true
  deriving DecidableEq, Repr

namespace Config

/-- The words that switch something on, in any case. -/
def onWords : List String := ["true", "1", "yes", "on"]

/-- Whether a text switches something on. Only ASCII letters occur in the words, and no letter
    outside ASCII has one of theirs as its lower case, so it is enough to map those. -/
def isOn (text : String) : Bool :=
  onWords.contains (text.map Char.toLower)

/-- A number, or its default. -/
def numberOr (default : UInt64) (setting : Option String) : UInt64 :=
  (setting.bind Text.unsigned?).getD default

/-- A switch, or its default. -/
def switchOr (default : Bool) (setting : Option String) : Bool :=
  match setting with
  | some text => isOn text
  | none => default

/-- The configuration that variables give. -/
def ofLookup (lookup : String → Option String) : Config :=
  let defaults : Config := {}
  { errorRequeueSeconds :=
      numberOr defaults.errorRequeueSeconds (lookup "RECONCILIATION_ERROR_REQUEUE_SECS")
    permanentRequeueSeconds :=
      numberOr defaults.permanentRequeueSeconds (lookup "PERMANENT_ERROR_REQUEUE_SECS")
    backoffMinMinutes := numberOr defaults.backoffMinMinutes (lookup "BACKOFF_MIN_MINUTES")
    backoffMaxMinutes := numberOr defaults.backoffMaxMinutes (lookup "BACKOFF_MAX_MINUTES")
    pollSeconds := numberOr defaults.pollSeconds (lookup "POLL_INTERVAL_SECS")
    logLevel := (lookup "LOG_LEVEL").getD defaults.logLevel
    logFormat := (lookup "LOG_FORMAT").getD defaults.logFormat
    logColor := switchOr defaults.logColor (lookup "LOG_ENABLE_COLOR")
    metricsEnabled := switchOr defaults.metricsEnabled (lookup "ENABLE_METRICS") }

end Config

end GitHubReconciler
