-- SUMMARY: Text between quotes with escapes, as diagnostics show it (`Text.quoted`).
import GitHubReconciler.Text.Extending
import GitHubReconciler.Text.Invisible

/-!
# Quoted text

Diagnostics show a text between double quotes. Inside, the quote and the backslash are escaped, so
that the end of the text can be seen, and so is every character that cannot be seen by itself: one
that shows nothing, and one that would be drawn onto the character before it.
-/

namespace GitHubReconciler.Text

/-- A character code in hexadecimal digits without leading zeros. -/
def hexCode (n : Nat) : List Char :=
  (Nat.toDigits 16 n)

/-- Whether a character can be seen by itself. -/
def isVisible (c : Char) : Bool :=
  !isExtending c && !isInvisible c

/-- The characters that show `c` inside quotes. -/
def quotedChar (c : Char) : List Char :=
  if c == '"' then ['\\', '"']
  else if c == '\\' then ['\\', '\\']
  else if c == '\n' then ['\\', 'n']
  else if c == '\r' then ['\\', 'r']
  else if c == '\t' then ['\\', 't']
  else if c.toNat == 0 then ['\\', '0']
  else if isVisible c then [c]
  else ['\\', 'u', '\x7b'] ++ hexCode c.toNat ++ ['\x7d']

/-- Show a text between quotes. -/
def quoted (text : String) : String :=
  String.ofList (['"'] ++ text.toList.flatMap quotedChar ++ ['"'])

end GitHubReconciler.Text
