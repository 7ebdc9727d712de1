-- SUMMARY: Writing documents as JSON text (`Json.render`).
import GitHubReconciler.Json.Value
import GitHubReconciler.Text.Hex

/-!
# Writing documents

Text is written without blanks and with characters outside ASCII as they are.
-/

namespace GitHubReconciler.Json

/-- The characters that write `c` inside a string. -/
def escape (c : Char) : List Char :=
  if c == '"' then ['\\', '"']
  else if c == '\\' then ['\\', '\\']
  else if c == '\n' then ['\\', 'n']
  else if c == '\r' then ['\\', 'r']
  else if c == '\t' then ['\\', 't']
  else if c == '\x08' then ['\\', 'b']
  else if c == '\x0c' then ['\\', 'f']
  else if c.toNat < 0x20 then
    ['\\', 'u', '0', '0', Text.Hex.digit (c.toNat / 16), Text.Hex.digit (c.toNat % 16)]
  else [c]

/-- Write a string with its quotes. -/
def renderString (s : String) : String :=
  String.ofList ('"' :: s.toList.flatMap escape ++ ['"'])

mutual

/-- Write a document. -/
def render : Json → String
  | .null => "null"
  | .bool true => "true"
  | .bool false => "false"
  | .int n => toString n
  | .real shown => shown
  | .string s => renderString s
  | .array items => "[" ++ ",".intercalate (renderItems items) ++ "]"
  | .object fields => "\x7b" ++ ",".intercalate (renderFields fields) ++ "\x7d"

/-- Write each item of an array. -/
def renderItems : List Json → List String
  | [] => []
  | x :: xs => render x :: renderItems xs

/-- Write each field of an object. -/
def renderFields : List (String × Json) → List String
  | [] => []
  | (name, x) :: fs => (renderString name ++ ":" ++ render x) :: renderFields fs

end

end GitHubReconciler.Json
