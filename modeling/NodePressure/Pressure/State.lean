import NodePressure.Node.TaintFlags
import NodePressure.Time.Span

/-!
# NodePressure.Pressure.State - what the pressure loop remembers

For each dimension, whether the node is tainted for it and when it was last seen short. A node found
tainted counts as short at the moment it was found so.
-/

namespace NodePressure.Pressure

/-- What is remembered between ticks. -/
structure State where
  flags : TaintFlags
  /-- When a dimension was last seen short, if it ever was. -/
  lastBusy : Dimension → Option Moment

namespace State

/-- Nothing is tainted, and nothing was ever short. -/
def fresh : State := ⟨TaintFlags.clear, fun _ => none⟩

instance : Inhabited State := ⟨fresh⟩

/-- The state of a node that was found with given taints. -/
def reconciled (live : TaintFlags) (now : Moment) : State :=
  ⟨live, fun d => if live.get d then some now else none⟩

/-- Notes that a dimension is short now. -/
def setBusy (s : State) (d : Dimension) (now : Moment) : State :=
  { s with lastBusy := fun e => if d = e then some now else s.lastBusy e }

/-- Notes whether the node is tainted for a dimension. -/
def setFlag (s : State) (d : Dimension) (b : Bool) : State :=
  { s with flags := s.flags.set d b }

/-- Takes over the taints found on the node. Those that are new count as short now. -/
def adopt (s : State) (live : TaintFlags) (now : Moment) : State where
  flags := live
  lastBusy d := if live.get d && !s.flags.get d then some now else s.lastBusy d

@[simp] theorem flags_setBusy (s : State) (d : Dimension) (now : Moment) :
    (s.setBusy d now).flags = s.flags := rfl

@[simp] theorem lastBusy_setBusy (s : State) (d e : Dimension) (now : Moment) :
    (s.setBusy d now).lastBusy e = if d = e then some now else s.lastBusy e := rfl

@[simp] theorem flags_setFlag (s : State) (d : Dimension) (b : Bool) :
    (s.setFlag d b).flags = s.flags.set d b := rfl

@[simp] theorem lastBusy_setFlag (s : State) (d e : Dimension) (b : Bool) :
    (s.setFlag d b).lastBusy e = s.lastBusy e := rfl

end State

end NodePressure.Pressure
