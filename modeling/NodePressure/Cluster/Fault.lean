import NodePressure.Text.Quoted
import NodePressure.Text.Utf8

/-!
# NodePressure.Cluster.Fault - how calls to the cluster fail

A call fails before its request is sent, on the way, by the answer of the API server, or because
the answer cannot be understood. A crash is no fault: it ends the task at once, and nobody gets a
result from it.
-/

namespace NodePressure

/-- The answer of an API server that refuses a request. -/
structure Refusal where
  status : String
  message : String
  reason : String
  code : Nat
  deriving DecidableEq, Repr

/-- The wording of a refusal: what it says and, in parentheses, all its fields. -/
def Refusal.text (r : Refusal) : String :=
  "ApiError: " ++ r.message ++ ": " ++ r.reason ++ " (ErrorResponse \x7b status: " ++
    Text.quoted r.status ++ ", message: " ++ Text.quoted r.message ++ ", reason: " ++
    Text.quoted r.reason ++ ", code: " ++ Number.text r.code ++ " \x7d)"

/-- How a request to the API server fails. -/
inductive RequestFault
  | refused (r : Refusal)
  /-- The server could not be reached. -/
  | unreachable (text : String)
  /-- The answer is not what was asked for. -/
  | undecodable
  /-- The answer is no text. -/
  | notUtf8 (f : Text.Utf8Fault)
  /-- The address holds characters that no address has. -/
  | unbuildable
  deriving DecidableEq, Repr

/-- The wording of a fault. -/
def RequestFault.message : RequestFault → String
  | .refused r => r.text
  | .unreachable text => "ServiceError: " ++ text
  | .undecodable => "Error deserializing response"
  | .notUtf8 f => "UTF-8 Error: " ++ f.message
  | .unbuildable => "Failed to build request: failed to build request: invalid uri character"

/-- How a call to the cluster fails. -/
inductive ClusterFault
  | request (f : RequestFault)
  /-- A text that should be JSON ends too early. -/
  | truncated
  | noSpec (node : String)
  | noSpace (workload : String)
  | other (text : String)
  deriving DecidableEq, Repr

/-- What ends a task at once. -/
inductive Crash
  /-- A sum does not fit into its word. -/
  | overflow
  deriving DecidableEq, Repr

/-- The wording of a fault. -/
def ClusterFault.message : ClusterFault → String
  | .request f => "Kubernetes API error: " ++ f.message
  | .truncated => "Serialization error: EOF while parsing a value at line 1 column 0"
  | .noSpec node => "Node " ++ node ++ " has no spec"
  | .noSpace workload => "Workload " ++ workload ++ " has no namespace"
  | .other text => text

end NodePressure
