import NodePressure.Cluster.Fault
import NodePressure.Cluster.Shape.Node
import NodePressure.Cluster.Shape.Pod
import NodePressure.Taint.Form
import NodePressure.Workload.Policy
import NodePressure.Workload.Quantity

/-!
# NodePressure.Cluster.Objects - what is read of nodes and pods

Of an object that has its shape, only what the agent uses is taken up. A pod without a name or a
namespace is no workload. A pod whose containers together request more than 64 bits hold crashes the
task that takes it for a candidate.
-/

namespace NodePressure

namespace Json

/-- The text of a member, if there is one. -/
def text? (name : String) (j : Json) : Option String :=
  (j.present? name).bind asString

/-- The items of a member that is a list; none if it is missing. -/
def items (name : String) (j : Json) : List Json :=
  match j.present? name with
  | some (.arr items) => items
  | _ => []

/-- The members of a member that is an object; none if it is missing. -/
def entries (name : String) (j : Json) : List (String × Json) :=
  match j.present? name with
  | some (.obj members) => members
  | _ => []

end Json

/-- A node, of which only the taints matter. -/
structure Node where
  /-- The taints, if the node has a specification. -/
  taints : Option (List Taint)
  deriving DecidableEq

/-- Reads a node. -/
def Node.ofJson? : Json.Decoder Node := fun j =>
  if Shape.fits 0 j Shape.node then
    match j.present? "spec" with
    | none => some ⟨none⟩
    | some spec => ((spec.items "taints").mapM Taint.ofJson?).map fun ts => ⟨some ts⟩
  else none

/-- What the containers of a pod request, as written. -/
structure Requests where
  cpu : Option String
  memory : Option String
  deriving DecidableEq, Repr

/-- What is read of a pod. -/
structure Pod where
  name : Option String
  space : Option String
  uid : Option String
  labels : List (String × String)
  annotations : List String
  /-- The kinds of the owners. -/
  owners : List String
  priorityClass : Option String
  containers : List Requests
  qos : Option String
  phase : Option String
  started : Option Utc
  deriving DecidableEq

namespace Pod

/-- The requests of a container. -/
def requestsOf (container : Json) : Requests :=
  match container.present? "resources" with
  | none => ⟨none, none⟩
  | some r =>
    match r.present? "requests" with
    | none => ⟨none, none⟩
    | some q => ⟨q.text? "cpu", q.text? "memory"⟩

/-- Takes up a pod that has its shape. -/
def ofObject (j : Json) : Pod :=
  let head := (j.present? "metadata").getD .null
  let spec := (j.present? "spec").getD .null
  let status := (j.present? "status").getD .null
  { name := head.text? "name"
    space := head.text? "namespace"
    uid := head.text? "uid"
    labels := (head.entries "labels").filterMap fun (k, v) => (Json.asString v).map fun s => (k, s)
    annotations := (head.entries "annotations").map (·.1)
    owners := (head.items "ownerReferences").map fun o => (o.text? "kind").getD ""
    priorityClass := spec.text? "priorityClassName"
    containers := (spec.items "containers").map requestsOf
    qos := status.text? "qosClass"
    phase := status.text? "phase"
    started := (status.text? "startTime").bind fun s => Utc.parse? s.toList }

/-- Reads a pod that is an item of a list of pods. -/
def ofJson? : Json.Decoder Pod := fun j =>
  if Shape.fits 2 j Shape.pod then some (ofObject j) else none

/-- Reads a list of pods. -/
def listOfJson? : Json.Decoder (List Pod) := fun j => do
  let r ← Json.fields ["metadata", "items"] j
  let listMeta ← r.at? 0 "metadata"
  if !Shape.fits 1 listMeta Shape.listMetadata then none
  else
    match ← r.at? 1 "items" with
    | .null => some []
    | items => Json.asList ofJson? items

/-- The workload that a pod is. -/
def workload? (p : Pod) : Option Workload :=
  match p.name, p.space with
  | some name, some space => some ⟨name, space, p.uid⟩
  | _, _ => none

/-- The last value of a label. -/
def label? (p : Pod) (key : String) : Option String :=
  (p.labels.reverse.find? (·.1 == key)).map (·.2)

/-- The annotation of pods that the node itself keeps running. -/
def mirrorAnnotation : String := "kubernetes.io/config.mirror"

/-- The sum of what containers request, if it fits into 64 bits; what cannot be read counts as
nothing. -/
def total (amount : Requests → Option Nat) (cs : List Requests) : Except Crash Nat :=
  match cs.foldlM (fun sum c => Number.add64? sum ((amount c).getD 0)) 0 with
  | some sum => .ok sum
  | none => .error .overflow

/-- A workload as a candidate, by what is read of its pod and what that requests. -/
def asCandidate (labelKey : String) (p : Pod) (w : Workload) (cpuMillis memoryBytes : Nat) :
    Candidate where
  workload := w
  qos := (p.qos.map Qos.ofName).getD .burstable
  cpuMillis := cpuMillis
  memoryBytes := memoryBytes
  priority := (p.label? labelKey).bind fun s => (Number.readUnsigned Number.max32 s.toList).toOption
  started := p.started
  daemon := p.owners.contains "DaemonSet"
  mirror := p.annotations.contains mirrorAnnotation
  critical := (p.priorityClass.map fun c => Text.startsWith "system-".toList c.toList).getD false
  terminated := (p.phase.map fun s => s == "Succeeded" || s == "Failed").getD false

/-- The candidate that a pod is, if it is a workload, given the key of the priority label. -/
def candidate? (labelKey : String) (p : Pod) : Except Crash (Option Candidate) :=
  p.workload?.mapM fun w => do
    let cpuMillis ← total (fun c => c.cpu.bind Quantity.cpuMillis) p.containers
    let memoryBytes ← total (fun c => c.memory.bind Quantity.memoryBytes) p.containers
    return p.asCandidate labelKey w cpuMillis memoryBytes

/-- The candidates among pods, in their order. -/
def candidates (labelKey : String) (ps : List Pod) : Except Crash (List Candidate) :=
  ps.filterMapM (candidate? labelKey)

end Pod

/-- What the server says about an eviction; nothing of it matters but that it can be read. -/
def readVerdict : Json.Decoder Unit := fun j => do
  let r ← Json.fields ["status", "code", "message", "reason", "details"] j
  let _ ← r.orElse 0 "status" none
    (Json.asOption (Json.asName [("Success", ()), ("Failure", ())]))
  let _ ← r.orElse 1 "code" 0 (Json.asNat Number.max16)
  let _ ← r.orElse 2 "message" "" Json.asString
  let _ ← r.orElse 3 "reason" "" Json.asString
  let _ ← r.orElse 4 "details" none (Json.asOption readDetails)
  return ()
where
  /-- Further words about a failure. -/
  readDetails : Json.Decoder Unit := fun j => do
    let r ← Json.fields ["name", "group", "kind", "uid", "causes", "retryAfterSeconds"] j
    let _ ← r.orElse 0 "name" "" Json.asString
    let _ ← r.orElse 1 "group" "" Json.asString
    let _ ← r.orElse 2 "kind" "" Json.asString
    let _ ← r.orElse 3 "uid" "" Json.asString
    let _ ← r.orElse 4 "causes" [] (Json.asList readCause)
    let _ ← r.orElse 5 "retryAfterSeconds" 0 (Json.asNat Number.max32)
    return ()
  /-- A cause of a failure. -/
  readCause : Json.Decoder Unit := fun j => do
    let r ← Json.fields ["reason", "message", "field"] j
    let _ ← r.orElse 0 "reason" "" Json.asString
    let _ ← r.orElse 1 "message" "" Json.asString
    let _ ← r.orElse 2 "field" "" Json.asString
    return ()

end NodePressure
