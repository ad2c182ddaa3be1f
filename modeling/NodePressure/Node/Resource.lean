/-!
# NodePressure.Node.Resource - what a node can run short of

Five *resources* can signal pressure. A node is tainted for four *dimensions*: receiving and
sending share the one for the network. The order of the constructors is the order in which
dimensions are evaluated and in which the first one in need gives the signal.
-/

namespace NodePressure

/-- A dimension that a node can be tainted for. -/
inductive Dimension
  | cpu
  | memory
  | diskIo
  | network
  deriving DecidableEq, Repr, Inhabited

namespace Dimension

/-- All dimensions, in the order of evaluation. -/
def all : List Dimension := [cpu, memory, diskIo, network]

/-- The name of a dimension in taint keys, metrics and logs. -/
def name : Dimension → String
  | cpu => "CPUBusy"
  | memory => "MemoryBusy"
  | diskIo => "DiskIOBusy"
  | network => "NetworkIOBusy"

/-- The dimension of a name. -/
def ofName? (s : String) : Option Dimension :=
  all.find? (·.name == s)

theorem mem_all (d : Dimension) : d ∈ all := by cases d <;> decide

end Dimension

/-- A resource that can signal pressure. -/
inductive Resource
  | cpu
  | memory
  | diskIo
  | networkRx
  | networkTx
  deriving DecidableEq, Repr, Inhabited

namespace Resource

/-- All resources. -/
def all : List Resource := [cpu, memory, diskIo, networkRx, networkTx]

/-- The name of a resource. -/
def name : Resource → String
  | cpu => "CPUBusy"
  | memory => "MemoryBusy"
  | diskIo => "DiskIOBusy"
  | networkRx => "NetworkRxBusy"
  | networkTx => "NetworkTxBusy"

/-- The resource of a name. -/
def ofName? (s : String) : Option Resource :=
  all.find? (·.name == s)

/-- The dimension that the node is tainted for when the resource is short. -/
def dimension : Resource → Dimension
  | cpu => .cpu
  | memory => .memory
  | diskIo => .diskIo
  | networkRx => .network
  | networkTx => .network

end Resource

/-- A change of one taint of the node. -/
inductive TaintChange
  | taint
  | untaint
  deriving DecidableEq, Repr

namespace TaintChange

/-- Whether the node is tainted after the change. -/
def flag : TaintChange → Bool
  | taint => true
  | untaint => false

/-- The name of a change. -/
def name : TaintChange → String
  | taint => "Taint"
  | untaint => "UnTaint"

/-- The name of a change in metrics. -/
def label : TaintChange → String
  | taint => "taint"
  | untaint => "untaint"

end TaintChange

/-- A change of the priority label of a workload. -/
inductive LabelChange
  | add
  | remove
  deriving DecidableEq, Repr

/-- The name of a change. -/
def LabelChange.name : LabelChange → String
  | add => "Add"
  | remove => "Remove"

end NodePressure
