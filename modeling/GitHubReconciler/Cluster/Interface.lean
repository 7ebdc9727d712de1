-- SUMMARY: Requests to the cluster (`Cluster.Request`), their answers, and the errors that answers turn into (`Cluster.AccessError`).
import GitHubReconciler.Cluster.Target
import GitHubReconciler.Dialogue
import GitHubReconciler.Json.Codec

/-!
# The interface of the cluster

The cluster answers a request with a status and a body, or the connection fails. An answer with
a status from 400 to 599 is an error; its body describes it, and one that does not is described
by its status and text. The body of any other answer is the text of a document. A request whose
path is no target is not made.
-/

namespace GitHubReconciler.Cluster

structure Request where
  method : String
  path : String
  body : Option Json := none
  deriving Inhabited, Repr

/-- What becomes of a request. -/
inductive Reply where
  | answer (status : UInt16) (body : String)
  | unreachable (reason : String)
  deriving DecidableEq, Repr

/-- A computation that makes requests. -/
abbrev Exchange (α : Type) := Dialogue Request (fun _ => Reply) Empty α

/-- The description of an error that the cluster answers with. -/
structure Trouble where
  status : String
  message : String
  reason : String
  code : UInt16
  deriving DecidableEq, Repr

namespace Trouble

/-- A number below `2 ^ 16`. -/
def codeCodec : Codec UInt16 where
  encode n := .int n.toNat
  decode
    | .int n => if 0 ≤ n ∧ n < 65536 then .ok (UInt16.ofNat n.toNat) else .error .mismatch
    | _ => .error .mismatch
  read := Json.Reader.integer 0 65535 "u16"

/-- Descriptions as JSON. -/
def record : Record Trouble Trouble :=
  Trouble.mk
    <$> .required "status" .text (·.status)
    <*> .defaulted "message" .text "" (·.message)
    <*> .defaulted "reason" .text "" (·.reason)
    <*> .required "code" codeCodec (·.code)

/-- The phrase that goes with a status. -/
def phrase : Nat → String
  | 400 => "Bad Request"
  | 401 => "Unauthorized"
  | 402 => "Payment Required"
  | 403 => "Forbidden"
  | 404 => "Not Found"
  | 405 => "Method Not Allowed"
  | 406 => "Not Acceptable"
  | 407 => "Proxy Authentication Required"
  | 408 => "Request Timeout"
  | 409 => "Conflict"
  | 410 => "Gone"
  | 411 => "Length Required"
  | 412 => "Precondition Failed"
  | 413 => "Payload Too Large"
  | 414 => "URI Too Long"
  | 415 => "Unsupported Media Type"
  | 416 => "Range Not Satisfiable"
  | 417 => "Expectation Failed"
  | 418 => "I'm a teapot"
  | 421 => "Misdirected Request"
  | 422 => "Unprocessable Entity"
  | 423 => "Locked"
  | 424 => "Failed Dependency"
  | 425 => "Too Early"
  | 426 => "Upgrade Required"
  | 428 => "Precondition Required"
  | 429 => "Too Many Requests"
  | 431 => "Request Header Fields Too Large"
  | 451 => "Unavailable For Legal Reasons"
  | 500 => "Internal Server Error"
  | 501 => "Not Implemented"
  | 502 => "Bad Gateway"
  | 503 => "Service Unavailable"
  | 504 => "Gateway Timeout"
  | 505 => "HTTP Version Not Supported"
  | 506 => "Variant Also Negotiates"
  | 507 => "Insufficient Storage"
  | 508 => "Loop Detected"
  | 510 => "Not Extended"
  | 511 => "Network Authentication Required"
  | _ => "<unknown status code>"

/-- The description of an error whose body does not describe it. -/
def undescribed (status : UInt16) (body : String) : Trouble where
  status := toString status.toNat ++ " " ++ phrase status.toNat
  message := Text.quoted body
  reason := "Failed to parse error data"
  code := status

/-- The description of an error from the status and the body of an answer. -/
def ofAnswer (status : UInt16) (body : String) : Trouble :=
  match record.codec.parse body with
  | .ok trouble => trouble
  | .error _ => undescribed status body

/-- The text of a description, with its fields. -/
def text (t : Trouble) : String :=
  t.message ++ ": " ++ t.reason ++ " (ErrorResponse \x7b status: " ++ Text.quoted t.status
    ++ ", message: " ++ Text.quoted t.message ++ ", reason: " ++ Text.quoted t.reason
    ++ ", code: " ++ toString t.code.toNat ++ " \x7d)"

end Trouble

/-- Why a request does not give what it should. -/
inductive AccessError where
  | refused (trouble : Trouble)
  | unreachable (reason : String)
  /-- The path of the request is no target. -/
  | unsendable (fault : TargetFault)
  /-- The body of the answer is not the expected document. -/
  | unreadable (detail : String)
  deriving DecidableEq, Repr

def AccessError.text : AccessError → String
  | .refused trouble => "ApiError: " ++ trouble.text
  | .unreachable reason => "ServiceError: " ++ reason
  | .unsendable fault => "Failed to build request: failed to build request: " ++ fault.text
  | .unreadable detail => "Error deserializing response: " ++ detail

/-- Whether a status says that the request is refused. -/
def refuses (status : UInt16) : Bool :=
  400 ≤ status && status < 600

def Reply.value (c : Codec α) : Reply → Except AccessError α
  | .unreachable reason => .error (.unreachable reason)
  | .answer status body =>
      if refuses status then .error (.refused (Trouble.ofAnswer status body))
      else (c.parse body).mapError fun fault => .unreadable (fault.describe body)

/-- Make a request and read the value in the reply. -/
def request (r : Request) (c : Codec α) : Exchange (Except AccessError α) :=
  match Target.ofText r.path with
  | .ok target => .ask { r with path := target } fun reply => .done (reply.value c)
  | .error fault => .done (.error (.unsendable fault))

end GitHubReconciler.Cluster
