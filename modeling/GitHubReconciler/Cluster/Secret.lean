-- SUMMARY: Reading a key of a cluster secret (`Cluster.extract`), and which selectors are complete (`Cluster.checkSelector`).
import GitHubReconciler.Cluster.Interface
import GitHubReconciler.Failure
import GitHubReconciler.Resource.Metadata
import GitHubReconciler.Secret.Desired
import GitHubReconciler.Text.Base64

/-!
# Secrets in the cluster

A secret in the cluster holds values in base64 under keys. A selector is complete if it names a
secret, its namespace and a key.
-/

namespace GitHubReconciler.Cluster

open GitHubReconciler.Secret (Selector)

def incompleteSelector : Failure :=
  .secretExtraction "cannot extract from secret key when none specified"

/-- Refuse an incomplete selector. -/
def checkSelector (s : Selector) : Except Failure Unit :=
  if s.name = "" ∨ s.space = "" ∨ s.key = "" then .error incompleteSelector else .ok ()

/-! ## Documents -/

/-- Bytes in base64; `null` reads as no bytes at all. -/
def bytesCodec : Codec Bytes :=
  let shown : Codec Bytes :=
    .textOf "a base64-encoded string" Text.Base64.encode Text.Base64.decode (·.message)
  shown.orDefault []

/-- A text that has to be the expected one, if it is there. -/
def fixed (name expected : String) (get : σ → String) : Record σ String :=
  let refuse? : Json → Option Json.Reason
    | .string text =>
        if text = expected then none else some (.wrongValue (.text text) expected)
    | _ => none
  .field { name, read := Json.Reader.text, refuse? } (fun x => some (.string (get x)))
    (fun
      | .string text => if text = expected then .ok text else .error .mismatch
      | _ => .error .mismatch)
    fun _ => .ok expected

/-- A cluster secret, of which only the values matter. -/
structure StoredSecret where
  apiVersion : String
  kind : String
  values : Option (List (String × Bytes))
  deriving DecidableEq, Repr

def StoredSecret.record : Record StoredSecret StoredSecret :=
  StoredSecret.mk
    <$> fixed "apiVersion" "v1" (·.apiVersion)
    <*> fixed "kind" "Secret" (·.kind)
    <*> .optional "data" (.map bytesCodec) (·.values)

/-- Cluster secrets as JSON. What does not matter in them has to be as expected, too, when they are
    read from text; of a field that stands twice the last counts. -/
def StoredSecret.codec : Codec StoredSecret where
  encode := record.encode
  decode := record.decodeObject
  read :=
    let others : List (String × Json.Reader Json) :=
      [("immutable", Json.Reader.flag), ("metadata", Metadata.codec.read),
       ("stringData", Json.Reader.map Json.Reader.text), ("type", Json.Reader.text)]
    Json.Reader.record
      { expected := "Secret"
        fields := record.fields ++ others.map fun (name, read) =>
          { name, read := Json.Reader.nullable read }
        distinct := false
        positional := false }

/-! ## Extraction -/

def secretRequest (s : Selector) : Request where
  method := "GET"
  path := "/api/v1/namespaces/" ++ s.space ++ "/secrets/" ++ s.name

/-- The value under the selected key of a secret. -/
def valueOf (s : Selector) (secret : Except AccessError StoredSecret) : Except Failure Bytes :=
  match secret with
  | .error e =>
      .error (.secretExtraction
        ("cannot get secret " ++ s.space ++ "/" ++ s.name ++ ": " ++ e.text))
  | .ok secret =>
      match secret.values.bind (·.lookup s.key) with
      | some value => .ok value
      | none =>
          .error (.secretExtraction
            ("key " ++ s.key ++ " not found in secret " ++ s.space ++ "/" ++ s.name))

/-- Read the value that a selector points at. -/
def extract (s : Selector) : Exchange (Except Failure Bytes) :=
  match checkSelector s with
  | .error failure => .done (.error failure)
  | .ok () => valueOf s <$> request (secretRequest s) StoredSecret.codec

/-- How the reader is shown in diagnostics, with its parts left out. -/
def extractorText : String := "KubeSecretExtractor \x7b .. \x7d"

end GitHubReconciler.Cluster
