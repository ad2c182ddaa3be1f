import NodePressure.Cluster.Address
import NodePressure.Cluster.Fault
import NodePressure.Json.Decode
import NodePressure.Program

/-!
# NodePressure.Cluster.Exchange - requests to the API server and its answers

A *call* is a task whose questions are requests. An answer with the code of an error is a refusal,
in the server's own words if it gives them; every other answer has to decode.
-/

namespace NodePressure

/-- What a request does. -/
inductive Method
  | get
  | patch
  | post
  deriving DecidableEq, Repr

/-- The name of a method. -/
def Method.name : Method → String
  | .get => "GET"
  | .patch => "PATCH"
  | .post => "POST"

/-- A request as it is sent. -/
structure Request where
  method : Method
  address : String
  contentType : Option String
  body : Option Json

/-- What comes back for a request. -/
inductive Reply
  /-- The server could not be reached. -/
  | unreachable (text : String)
  | answer (code : Nat) (bytes : List Nat)
  deriving Repr

/-- Requests and their answers. -/
abbrev web : Interface where
  Note := Empty
  Question := Request
  Answer := fun _ => Reply

/-- A task that talks to the API server and may fail. -/
abbrev Call (α : Type) := Program web (Except ClusterFault α)

/-- The words for the codes of errors. -/
def errorPhrases : List (Nat × String) := [
  (400, "Bad Request"), (401, "Unauthorized"), (402, "Payment Required"), (403, "Forbidden"),
  (404, "Not Found"), (405, "Method Not Allowed"), (406, "Not Acceptable"),
  (407, "Proxy Authentication Required"), (408, "Request Timeout"), (409, "Conflict"),
  (410, "Gone"), (411, "Length Required"), (412, "Precondition Failed"),
  (413, "Payload Too Large"), (414, "URI Too Long"), (415, "Unsupported Media Type"),
  (416, "Range Not Satisfiable"), (417, "Expectation Failed"), (418, "I'm a teapot"),
  (421, "Misdirected Request"), (422, "Unprocessable Entity"), (423, "Locked"),
  (424, "Failed Dependency"), (426, "Upgrade Required"), (428, "Precondition Required"),
  (429, "Too Many Requests"), (431, "Request Header Fields Too Large"),
  (451, "Unavailable For Legal Reasons"), (500, "Internal Server Error"), (501, "Not Implemented"),
  (502, "Bad Gateway"), (503, "Service Unavailable"), (504, "Gateway Timeout"),
  (505, "HTTP Version Not Supported"), (506, "Variant Also Negotiates"),
  (507, "Insufficient Storage"), (508, "Loop Detected"), (510, "Not Extended"),
  (511, "Network Authentication Required")]

/-- A code with its words. -/
def codeText (code : Nat) : String :=
  Number.text code ++ " " ++
    (match errorPhrases.find? (·.1 == code) with
      | some (_, phrase) => phrase
      | none => "<unknown status code>")

namespace Refusal

/-- Reads a refusal in the server's own words. -/
def ofJson? : Json.Decoder Refusal := fun j => do
  let r ← Json.fields ["status", "message", "reason", "code"] j
  return ⟨← r.required 0 "status" Json.asString, ← r.orElse 1 "message" "" Json.asString,
    ← r.orElse 2 "reason" "" Json.asString, ← r.required 3 "code" (Json.asNat Number.max16)⟩

/-- The refusal that an answer with the code of an error is. -/
def ofAnswer (code : Nat) (text : String) : Refusal :=
  match (Json.parse text.toList).bind ofJson? with
  | some r => r
  | none => ⟨codeText code, Text.quoted text, "Failed to parse error data", code⟩

end Refusal

/-- Whether a code is one of an error. -/
def isErrorCode (code : Nat) : Bool :=
  400 ≤ code && code < 600

namespace Reply

/-- The text of an answer that is not a refusal. -/
def text : Reply → Except RequestFault String
  | .unreachable s => .error (.unreachable s)
  | .answer code bytes =>
    match Text.decode bytes with
    | .error f => .error (.notUtf8 f)
    | .ok s => if isErrorCode code then .error (.refused (.ofAnswer code s)) else .ok s

/-- What an answer holds. -/
def content (read : Json.Decoder α) (r : Reply) : Except ClusterFault α :=
  match r.text with
  | .error f => .error (.request f)
  | .ok s =>
    match (Json.parse s.toList).bind read with
    | some a => .ok a
    | none => .error (.request .undecodable)

end Reply

namespace Call

/-- Goes on with a result, or ends with the fault. -/
def andThen (c : Call α) (f : α → Call β) : Call β :=
  c.bind fun r =>
    match r with
    | .ok a => f a
    | .error e => .done (.error e)

/-- Sends a request, if its address can be built, and takes what the answer holds. -/
def send (read : Json.Decoder α) (method : Method) (address : String)
    (contentType : Option String) (body : Option Json) : Call α :=
  match Address.ofText? address with
  | none => .done (.error (.request .unbuildable))
  | some a => .ask ⟨method, a, contentType, body⟩ fun reply => .done (reply.content read)

end Call

end NodePressure
