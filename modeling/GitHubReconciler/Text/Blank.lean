-- SUMMARY: White space (`Text.isBlank`), trimming (`Text.trim`) and the white space dropped from wrapped text (`Text.isWrapping`).
/-!
# White space

Two classes of white space occur. Settings are trimmed of everything Unicode calls
white space; wrapped text loses only the five ASCII characters that wrapping puts in.
-/

namespace GitHubReconciler.Text

/-- Whether a character has the Unicode property `White_Space`. -/
def isBlank (c : Char) : Bool :=
  let n := c.toNat
  (0x09 ≤ n && n ≤ 0x0D) || n == 0x20 || n == 0x85 || n == 0xA0 || n == 0x1680
    || (0x2000 ≤ n && n ≤ 0x200A) || n == 0x2028 || n == 0x2029 || n == 0x202F
    || n == 0x205F || n == 0x3000

/-- Drop white space at both ends. -/
def trim (cs : List Char) : List Char :=
  ((cs.dropWhile isBlank).reverse.dropWhile isBlank).reverse

/-- The characters that wrapping a long line puts in: space, tab, line feed, form feed and
    carriage return. A vertical tab is not among them. -/
def isWrapping (c : Char) : Bool :=
  c == ' ' || c == '\t' || c == '\n' || c == '\x0c' || c == '\r'

end GitHubReconciler.Text
