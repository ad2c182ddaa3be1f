import NodePressure.Condition.Fault
import NodePressure.Node.Availability
import NodePressure.Node.TaintFlags
import NodePressure.Program
import NodePressure.Telemetry.Basic
import NodePressure.Time.Span

/-!
# NodePressure.Agent.Ask - what the agent asks of the world

The condition source tells what the node can spare and chooses workloads; the cluster reads and
changes taints and acts on workloads. The tasks of the agent reach both only by asking, and tell
telemetry by notes.
-/

namespace NodePressure

/-- A question of the agent. -/
inductive Ask
  /-- Start the condition source. -/
  | start
  /-- How long does a dimension have to stay available before the node is untainted? -/
  | grace
  /-- What can the node spare? -/
  | availability
  /-- For which dimensions is the node tainted? -/
  | readTaints
  | changeTaint (d : Dimension) (c : TaintChange)
  /-- Take the priority label off all workloads. -/
  | clearLabels
  /-- Which workload should a signal act on? -/
  | choose (r : Resource)
  | evict (w : Workload)
  | label (w : Workload) (priority : Nat) (c : LabelChange)
  deriving DecidableEq, Repr

/-- What an answer looks like. -/
abbrev Ask.Answer : Ask → Type
  | .start => Except ConditionFault Unit
  | .grace => Span
  | .availability => Availability
  | .readTaints => Except ClusterFault TaintFlags
  | .changeTaint .. => Except ClusterFault Unit
  | .clearLabels => Except ClusterFault Unit
  | .choose _ => Except ConditionFault Decision
  | .evict _ => Except ClusterFault Unit
  | .label .. => Except ClusterFault Unit

/-- Notes to telemetry, and questions to the world. -/
abbrev world : Interface where
  Note := Note
  Question := Ask
  Answer := Ask.Answer

/-- A task of the agent. -/
abbrev Task (α : Type) := Program world α

/-- The answer when there is nobody to give one. -/
def Ask.silence : (q : Ask) → q.Answer
  | .start => .error .alreadyStarted
  | .grace => Nat.zero
  | .availability => Availability.full
  | .readTaints => .error (.other "no answer")
  | .changeTaint .. => .error (.other "no answer")
  | .clearLabels => .error (.other "no answer")
  | .choose _ => .error (.cluster (.other "no answer"))
  | .evict _ => .error (.other "no answer")
  | .label .. => .error (.other "no answer")

/-- The answer to one question, for use where any could be asked. -/
def Ask.answers (q : Ask) (a : q.Answer) (r : Ask) : r.Answer :=
  if h : q = r then h ▸ a else r.silence

/-- Whether a question goes to the cluster, and not to the condition source. -/
def Ask.isClusterCall : Ask → Bool
  | .readTaints | .changeTaint .. | .clearLabels | .evict _ | .label .. => true
  | .start | .grace | .availability | .choose _ => false

/-- The text of the fault of an answer, if it is one. -/
def faultText (message : ε → String) : Except ε α → Option String
  | .ok _ => none
  | .error f => some (message f)

end NodePressure
