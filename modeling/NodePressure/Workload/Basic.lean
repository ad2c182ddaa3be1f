import NodePressure.Time.Utc
import NodePressure.Node.Resource

/-!
# NodePressure.Workload.Basic - workloads and what is decided about them

A workload is a pod on the node; a candidate adds what ranking the workloads for eviction needs.
-/

namespace NodePressure

/-- A pod on the node. -/
structure Workload where
  name : String
  space : String
  uid : Option String
  deriving DecidableEq, Repr

/-- The namespace and the name with a slash between them. -/
def Workload.path (w : Workload) : String :=
  w.space ++ "/" ++ w.name

/-- The quality of service of a pod, from the first to the last to be evicted. -/
inductive Qos
  | bestEffort
  | burstable
  | guaranteed
  deriving DecidableEq, Repr

namespace Qos

/-- The name of a class. -/
def name : Qos → String
  | bestEffort => "BestEffort"
  | burstable => "Burstable"
  | guaranteed => "Guaranteed"

/-- The class of a name; a name that is none counts as burstable. -/
def ofName (s : String) : Qos :=
  if s == "BestEffort" then bestEffort
  else if s == "Guaranteed" then guaranteed
  else burstable

/-- The place of a class in the order of eviction. -/
def place : Qos → Nat
  | bestEffort => 0
  | burstable => 1
  | guaranteed => 2

end Qos

/-- A workload with what ranks it among the candidates for eviction. -/
structure Candidate where
  workload : Workload
  qos : Qos
  /-- Requested CPU in thousandths of a core. -/
  cpuMillis : Nat
  /-- Requested memory in bytes. -/
  memoryBytes : Nat
  /-- The value of the priority label, if it has a readable one. -/
  priority : Option Nat
  started : Option Utc
  /-- Owned by a daemon set, which would only start it here again. -/
  daemon : Bool
  /-- A static pod that the node itself keeps running. -/
  mirror : Bool
  /-- Of a priority class of the system. -/
  critical : Bool
  /-- Has ended already. -/
  terminated : Bool
  deriving DecidableEq

/-- What to do about a signal: the workload to act on, and how. -/
structure Decision where
  workload : Workload
  /-- Evict the workload now instead of labeling it. -/
  evictNow : Bool
  /-- The value of the priority label. -/
  priority : Nat
  deriving DecidableEq, Repr

end NodePressure
