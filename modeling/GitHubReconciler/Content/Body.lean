-- SUMMARY: The body of a file that GitHub reports (`Content.body?`) and whether it is the desired one (`Content.Desired.isMetBy`).
import GitHubReconciler.Content.Desired
import GitHubReconciler.Text.Base64
import GitHubReconciler.Text.Blank

/-!
# Bodies of files

GitHub reports the body of a file in base64, wrapped into lines. The body of a large file comes
in another encoding and empty; it cannot be compared.
-/

namespace GitHubReconciler.Content

/-- Whether the body is reported in the encoding that can be compared. -/
def isInlined (f : Remote.File) : Bool :=
  match f.encoding with
  | none => true
  | some encoding => encoding == "base64"

/-- Take out the white space that wrapping puts in. -/
def unwrap (text : String) : String :=
  String.ofList (text.toList.filter fun c => !Text.isWrapping c)

/-- The text of the UTF-8 encoding `bytes`. -/
def text? (bytes : Bytes) : Option String :=
  String.fromUTF8? bytes.toByteArray

/-- The body of a file, if it is inlined, well encoded and text. -/
def body? (f : Remote.File) : Option String :=
  if isInlined f then
    match f.content with
    | none => none
    | some content =>
        match Text.Base64.decode (unwrap content) with
        | .ok bytes => text? bytes
        | .error _ => none
  else none

/-- Whether a file holds the desired body. A body that is not inlined is taken to be the
    desired one, so that large files are not written again and again. -/
def Desired.isMetBy (d : Desired) (f : Remote.File) : Bool :=
  !isInlined f || body? f == some d.content

end GitHubReconciler.Content
