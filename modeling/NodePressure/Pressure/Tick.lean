import NodePressure.Agent.Ask
import NodePressure.Pressure.State

/-!
# NodePressure.Pressure.Tick - one evaluation of the node

A tick reads what the node can spare and brings one taint for each dimension in step with it. A
dimension that is short is tainted at once; it is untainted only after it has been available for
longer than the grace period. A flag changes only if its call succeeded, so a call that failed is
made again at the next tick.
-/

namespace NodePressure.Pressure

/-- Whether the taints of the node are read again at the tick with a given number. -/
def isResyncDue (resync : Option Nat) (number : Nat) : Bool :=
  match resync with
  | none => false
  | some every => 0 < every && number % every == 0

/-- Reads the taints of the node and takes them over if they differ. If they cannot be read, the
state stays as it is. -/
def resyncWith (now : Moment) (s : State) : Task State :=
  .ask .readTaints fun answer =>
    match answer with
    | .error _ => .done s
    | .ok live =>
      if live = s.flags then .done s
      else
        (Program.tellAll (Dimension.all.map fun d => Note.found d (live.get d))).bind fun _ =>
          .done (s.adopt live now)

/-- A state, and the fault of the call that was made, if it failed. -/
abbrev Step := State × Option ClusterFault

/-- Taints or untaints the node for a dimension; the flag follows only if that succeeded. -/
def transition (d : Dimension) (c : TaintChange) (s : State) : Task Step :=
  .ask (.changeTaint d c) fun answer =>
    .note (.taintCall d c (faultText ClusterFault.message answer)) <|
      match answer with
      | .ok _ => .done (s.setFlag d c.flag, none)
      | .error f => .done (s, some f)

/-- A dimension that is short: notes the moment and taints the node if it is not tainted. -/
def press (now : Moment) (d : Dimension) (s : State) : Task Step :=
  let s := s.setBusy d now
  if s.flags.get d then .done (s, none) else transition d .taint s

/-- A dimension that is available: untaints the node if it has been so for longer than the grace
period. -/
def relieve (grace : Span) (now : Moment) (d : Dimension) (s : State) : Task Step :=
  if !s.flags.get d then .done (s, none)
  else
    let last := (s.lastBusy d).getD now
    let s := if (s.lastBusy d).isNone then s.setBusy d now else s
    if Span.between last now ≤ grace then .done (s, none) else transition d .untaint s

/-- Evaluates one dimension. -/
def visit (a : Availability) (grace : Span) (now : Moment) (d : Dimension) (s : State) :
    Task Step :=
  if a.has d then relieve grace now d s else press now d s

/-- Evaluates dimensions one after the other; the last fault stays. -/
def sweep (a : Availability) (grace : Span) (now : Moment) :
    List Dimension → State → Option ClusterFault → Task Step
  | [], s, fault => .done (s, fault)
  | d :: r, s, fault =>
    (visit a grace now d s).bind fun (s, f) => sweep a grace now r s (f.or fault)

/-- The signal for what the node can spare: that of the first dimension that is short. -/
def signalOf (a : Availability) : Option Resource :=
  (Dimension.all.find? fun d => !a.has d).map a.signal

/-- The report of the loop about a tick. -/
def report (fault : Option ClusterFault) : Note :=
  .report loopPart (.ofResult (fault.map ClusterFault.message))

/-- Takes the labels off all workloads, for nothing is short and nothing is tainted. -/
def idle (s : State) : Task (State × Option Resource) :=
  .note (.count .idleTicks) <| .ask .clearLabels fun answer =>
    match answer with
    | .ok _ => .note (report none) (.done (s, none))
    | .error f => .note (.count .clearErrors) <| .note (report (some f)) (.done (s, none))

/-- Evaluates the node, given what it can spare. -/
def evaluate (a : Availability) (grace : Span) (now : Moment) (s : State) :
    Task (State × Option Resource) :=
  if a.isFull && !s.flags.any then idle s
  else
    (sweep a grace now Dimension.all s none).bind fun (s, fault) =>
      .note (report fault) (.done (s, signalOf a))

/-- The tick with a given number: the new state, and the signal if there is one. -/
def tick (resync : Option Nat) (number : Nat) (now : Moment) (s : State) :
    Task (State × Option Resource) :=
  (if isResyncDue resync number then resyncWith now s else .done s).bind fun s =>
    .ask .grace fun grace => .ask .availability fun a => evaluate a grace now s

end NodePressure.Pressure
