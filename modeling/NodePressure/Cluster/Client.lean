import NodePressure.Cluster.Exchange
import NodePressure.Cluster.Objects
import NodePressure.Node.Form

/-!
# NodePressure.Cluster.Client - acting on the node and its pods

Taints are read, changed and written back as a whole list; foreign taints stay. The priority of a
pod is a label, whose key begins with the agent's prefix. Each action is a call: a task that sends
requests and goes on with the answers.
-/

namespace NodePressure

/-- The node that the agent manages, and what the keys of its taints and labels begin with. -/
structure Client where
  node : String
  keyPrefix : String
  deriving DecidableEq, Repr

namespace Client

/-- The key of the label with the priority of a workload. -/
def priorityKey (c : Client) : String :=
  c.keyPrefix ++ "/priority"

/-- The taints of the node. -/
def taints (c : Client) : Call (List Taint) :=
  (Call.send Node.ofJson? .get (Address.node c.node) none none).andThen fun n =>
    match n.taints with
    | some ts => .done (.ok ts)
    | none => .done (.error (.noSpec c.node))

/-- The dimensions that the node is tainted for. -/
def readFlags (c : Client) : Call TaintFlags :=
  c.taints.andThen fun ts => .done (.ok (Taint.flagsOf c.keyPrefix ts))

/-- The patch that replaces the taints of a node. -/
def taintPatch (ts : List Taint) : Json :=
  .obj [("spec", .obj [("taints", .arr (ts.map Taint.toJson))])]

/-- Replaces the taints of the node. -/
def writeTaints (c : Client) (ts : List Taint) : Call Unit :=
  (Call.send Node.ofJson? .patch (Address.node c.node ++ "?") (some "application/merge-patch+json")
    (some (taintPatch ts))).andThen fun _ => .done (.ok ())

/-- Taints or untaints the node for a dimension; nothing is written if it is so already. -/
def changeTaint (c : Client) (d : Dimension) (change : TaintChange) : Call Unit :=
  c.taints.andThen fun ts =>
    match Taint.edit c.keyPrefix ts d change with
    | none => .done (.ok ())
    | some updated => c.writeTaints updated

/-- Evicts a workload. -/
def evict (_ : Client) (w : Workload) : Call Unit :=
  Call.send readVerdict .post (Address.pod w.space w.name ++ "/eviction?") (some "application/json")
    (some (.obj [("delete_options", .null), ("metadata", .obj [("name", .str w.name)])]))

/-- The patch that sets a label, or takes it away. -/
def labelPatch (key : String) (priority : Nat) : LabelChange → Json
  | .add => .obj [("metadata", .obj [("labels", .obj [(key, .str (Number.text priority))])])]
  | .remove => .obj [("metadata", .obj [("labels", .obj [(key, .null)])])]

/-- Sets the priority label of a workload, or takes it away. -/
def label (c : Client) (w : Workload) (priority : Nat) (change : LabelChange) : Call Unit :=
  (Call.send Pod.ofJson? .patch (Address.pod w.space w.name ++ "?")
    (some "application/merge-patch+json")
    (some (labelPatch c.priorityKey priority change))).andThen fun _ => .done (.ok ())

/-- The pods on the node, or those among them that carry a label. -/
def pods (c : Client) (labelKey : Option String) : Call (List Pod) :=
  Call.send Pod.listOfJson? .get (Address.podsOn c.node labelKey) none none

/-- Takes the label off each workload in turn, whatever becomes of the others; the first fault is
the result. -/
def unlabelAll (c : Client) : List Workload → Option ClusterFault → Call Unit
  | [], none => .done (.ok ())
  | [], some f => .done (.error f)
  | w :: r, first =>
    (c.label w 0 .remove).bind fun result =>
      match result with
      | .ok _ => c.unlabelAll r first
      | .error f => c.unlabelAll r (some (first.getD f))

/-- Takes the priority label off every pod that carries one. -/
def clearLabels (c : Client) : Call Unit :=
  (c.pods (some c.priorityKey)).andThen fun ps => c.unlabelAll (ps.filterMap Pod.workload?) none

/-- The workloads on the node, as candidates for eviction. -/
def candidates (c : Client) : Call (Except Crash (List Candidate)) :=
  (c.pods none).andThen fun ps => .done (.ok (Pod.candidates c.priorityKey ps))

end Client

end NodePressure
