import NodePressure.Agent.Fault
import NodePressure.Dispatch.Basic
import NodePressure.Pressure.Loop

/-!
# NodePressure.Controller.System - the controller and its two tasks

The controller starts the condition source, reads the taints of the node and starts the pressure
loop; then it dispatches signals until it is told to stop, and waits for the loop to end. Loop and
dispatcher meet in a channel that holds one signal. `System.step` says what each event does, and
that an event which is not possible does not happen; every interleaving is a list of events.
-/

namespace NodePressure.Controller

/-- What the controller is doing. -/
inductive Phase
  /-- Waiting for the condition source to start. -/
  | starting
  /-- Waiting for the taints of the node, since a moment. -/
  | reading (since : Moment)
  /-- Waiting for a signal. -/
  | idle
  /-- Handling a signal, and waiting for an answer. -/
  | handling (q : Ask) (next : q.Answer → Task Outcome)
  /-- Waiting for the pressure loop to end. -/
  | stopping
  | ended (fault : Option ControllerFault)

/-- The controller, the pressure loop once it runs, and the channel between them. -/
structure System where
  pace : Pace
  clock : Moment
  phase : Phase
  loop : Option Pressure.Loop
  /-- The signal in the channel. -/
  slot : Option Resource
  /-- Whether the controller was told to stop. -/
  shutdown : Bool
  telemetry : Telemetry

/-- What can happen. An answer is given for every question, and the one that is waited for counts.
-/
inductive Event
  /-- Time passes. -/
  | pass (s : Span)
  /-- The question of the controller is answered. -/
  | answer (f : (q : Ask) → q.Answer)
  /-- The question of the loop is answered. -/
  | answerLoop (f : (q : Ask) → q.Answer)
  /-- The loop wakes from its sleep. -/
  | wake
  /-- The channel takes the signal that the loop offers. -/
  | accept
  /-- The loop notices that nobody takes signals any more. -/
  | refuse
  /-- The dispatcher takes the signal in the channel. -/
  | take
  /-- The controller is told to stop. -/
  | request
  /-- The dispatcher notices that the controller was told to stop. -/
  | stop
  /-- The loop notices that it is told to end. -/
  | halt
  /-- The controller notices that the loop has ended. -/
  | join

namespace System

/-- Takes up notes. -/
def tell (s : System) (notes : List Note) : System :=
  { s with telemetry := s.telemetry.takeAll 0 notes }

/-- A controller that begins to run. -/
def start (pace : Pace) (t : Telemetry) (now : Moment) : System :=
  { pace, clock := now, phase := .starting, loop := none, slot := none, shutdown := false,
    telemetry := t : System }.tell [.report loopPart .healthy, .report dispatcherPart .healthy]

/-- The question that the controller waits for. -/
def asking (s : System) : Option Ask :=
  match s.phase with
  | .starting => some .start
  | .reading _ => some .readTaints
  | .handling q _ => some q
  | _ => none

/-- Replaces the loop by what became of it. -/
def withLoop (s : System) (r : Pressure.Loop × List Note) : System :=
  { s with loop := some r.1 }.tell r.2

/-- Goes on with handling a signal, up to the next question or the end. -/
def proceed (s : System) (t : Task Outcome) : System :=
  match t.settle with
  | (notes, .waiting q next) => { s with phase := .handling q next }.tell notes
  | (notes, .done _) => { s with phase := .idle }.tell notes

/-- The condition source has started, or not. -/
def started (s : System) : Except ConditionFault Unit → System
  | .ok _ => { s with phase := .reading s.clock }
  | .error f =>
    { s with phase := .ended (some (.notStarted f)) }.tell
      [.report conditionPart (.unhealthy f.message)]

/-- Starts the loop, with the taints that were found at a moment. -/
def launch (s : System) (since : Moment) (answer : Except ClusterFault TaintFlags) : System :=
  let (state, notes) : Pressure.State × List Note :=
    match answer with
    | .ok live => (.reconciled live since, Dimension.all.map fun d => .found d (live.get d))
    | .error _ => (.fresh, [])
  let loop := Pressure.Loop.start s.pace state s.clock
  { s with phase := .idle, loop := some loop }.tell (notes ++ [Note.running true])

/-- The question of the controller is answered. -/
def answered (s : System) (f : (q : Ask) → q.Answer) : Option System :=
  match s.phase with
  | .starting => some (s.started (f .start))
  | .reading since => some (s.launch since (f .readTaints))
  | .handling q next => some (s.proceed (next (f q)))
  | _ => none

/-- Whether the receiving end of the channel is gone. -/
def isClosed (s : System) : Bool :=
  match s.phase with
  | .stopping | .ended _ => true
  | _ => false

/-- What an event does; nothing if it is not possible. -/
def step (s : System) : Event → Option System
  | .pass span => some { s with clock := s.clock + span }
  | .answer f => s.answered f
  | .answerLoop f =>
    s.loop.bind fun l =>
      if l.asking.isSome then some (s.withLoop (l.resume f s.clock)) else none
  | .wake =>
    s.loop.bind fun l =>
      match l.wakes with
      | some m => if m ≤ s.clock then some (s.withLoop (l.wake s.clock)) else none
      | none => none
  | .accept =>
    s.loop.bind fun l =>
      match l.offered, s.slot with
      | some r, none =>
        if s.isClosed then none
        else some ({ s with slot := some r }.withLoop (l.accepted s.clock))
      | _, _ => none
  | .refuse =>
    s.loop.bind fun l =>
      if s.isClosed && l.offered.isSome then some (s.withLoop (l.halt, [])) else none
  | .take =>
    match s.phase, s.slot with
    | .idle, some r => some ({ s with slot := none }.proceed (Dispatch.handle r))
    | _, _ => none
  | .request => some { s with shutdown := true }
  | .stop =>
    match s.phase with
    | .idle =>
      if s.shutdown then some ({ s with phase := .stopping, slot := none }.tell [.running false])
      else none
    | _ => none
  | .halt =>
    match s.phase with
    | .stopping =>
      s.loop.bind fun l => if l.isStoppable then some (s.withLoop (l.halt, [])) else none
    | _ => none
  | .join =>
    match s.phase with
    | .stopping =>
      s.loop.bind fun l => if l.isOver then some { s with phase := .ended none } else none
    | _ => none

/-- What a list of events does; nothing if one of them is not possible. -/
def run (s : System) : List Event → Option System
  | [] => some s
  | e :: es => (s.step e).bind fun s => s.run es

/-- What kept the controller from running, if it is over. -/
def result? (s : System) : Option (Option ControllerFault) :=
  match s.phase with
  | .ended fault => some fault
  | _ => none

end System

end NodePressure.Controller
