-- SUMMARY: The target that a request is sent to (`Cluster.Target.ofText`) and the faults of texts that are none.
/-!
# Targets of requests

A request is sent to a path, which a query may follow behind a question mark. Whatever follows a
number sign is not sent. Names are put into targets as they are, so a name can hold a character that
no target may have; the request is then not made at all.
-/

namespace GitHubReconciler.Cluster

/-- Why a text is no target. -/
inductive TargetFault where
  | invalidCharacter
  | tooLong
  deriving DecidableEq, Repr

def TargetFault.text : TargetFault → String
  | .invalidCharacter => "invalid uri character"
  | .tooLong => "uri too long"

namespace Target

/-- The number of bytes that a target may have at most. -/
def maxLength : Nat := 65534

/-- Whether a path may have a character. -/
def isPathChar (c : Char) : Bool :=
  c.isAlphanum || 0x80 ≤ c.toNat || "!\"$%&'()*+,-./:;=@[\\]^_\x7b|\x7d~".contains c

/-- Whether a query may have a character. -/
def isQueryChar (c : Char) : Bool :=
  isPathChar c && c != '"' || c == '?' || c == '\x60'

/-- Read a query up to its end or to a number sign. -/
def query? : List Char → Option (List Char)
  | [] => some []
  | '#' :: _ => some []
  | c :: rest => if isQueryChar c then (c :: ·) <$> query? rest else none

/-- Read a path, and the query behind it, up to their end or to a number sign. -/
def path? : List Char → Option (List Char)
  | [] => some []
  | '#' :: _ => some []
  | '?' :: rest => ('?' :: ·) <$> query? rest
  | c :: rest => if isPathChar c then (c :: ·) <$> path? rest else none

/-- The target that a text names. -/
def ofText (text : String) : Except TargetFault String :=
  if maxLength < text.utf8ByteSize then .error .tooLong
  else
    match path? text.toList with
    | some target => .ok (String.ofList target)
    | none => .error .invalidCharacter

end Target

end GitHubReconciler.Cluster
