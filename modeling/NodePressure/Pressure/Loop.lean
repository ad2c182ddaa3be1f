import NodePressure.Pressure.Tick
import NodePressure.Settings.Basic

/-!
# NodePressure.Pressure.Loop - ticking at a pace

The loop sleeps for a period, ticks, and offers the signal of the tick if there is one. The next
period begins only when the signal is taken, so a slow receiver holds up the loop. It ends when it
is told to, or when nobody takes signals any more.
-/

namespace NodePressure.Pressure

/-- What the loop is doing. -/
inductive Phase
  | sleeping (wakes : Moment)
  /-- In a tick that began at a moment and waits for an answer. -/
  | ticking (started : Moment) (q : Ask) (next : q.Answer → Task (State × Option Resource))
  /-- Waiting for a signal to be taken, since a moment. -/
  | offering (r : Resource) (since : Moment)
  | ended

/-- The loop: its pace, the number of ticks begun, the state after the last tick, and its phase. -/
structure Loop where
  pace : Pace
  ticks : Nat
  state : State
  phase : Phase

namespace Loop

/-- A loop that begins with a period of sleep. -/
def start (pace : Pace) (s : State) (now : Moment) : Loop :=
  ⟨pace, 0, s, .sleeping (now + pace.period)⟩

/-- Begins the next period of sleep. -/
def rest (l : Loop) (now : Moment) : Loop :=
  { l with phase := .sleeping (now + l.pace.period) }

/-- The end of a tick: its signal is offered, or else the loop sleeps again. -/
def finish (l : Loop) (started now : Moment) (s : State) : Option Resource → Loop × List Note
  | none => ({ l with state := s }.rest now, [.tickTook (Span.between started now)])
  | some r =>
    ({ l with state := s, phase := .offering r now },
      [.tickTook (Span.between started now), .count (.signals r)])

/-- Goes on with a tick up to its next question or its end. -/
def proceed (l : Loop) (started now : Moment) (t : Task (State × Option Resource)) :
    Loop × List Note :=
  match t.settle with
  | (notes, .waiting q next) => ({ l with phase := .ticking started q next }, notes)
  | (notes, .done (s, signal)) =>
    let (l, more) := l.finish started now s signal
    (l, notes ++ more)

/-- Begins the next tick. -/
def wake (l : Loop) (now : Moment) : Loop × List Note :=
  let number := l.ticks + 1
  { l with ticks := number }.proceed now now (tick l.pace.resync number now l.state)

/-- Takes the answer to the question that the tick waits for. -/
def resume (l : Loop) (answer : (q : Ask) → q.Answer) (now : Moment) : Loop × List Note :=
  match l.phase with
  | .ticking started q next => l.proceed started now (next (answer q))
  | _ => (l, [])

/-- The signal that is offered has been taken. -/
def accepted (l : Loop) (now : Moment) : Loop × List Note :=
  match l.phase with
  | .offering r since =>
    let waited := Span.between since now
    (l.rest now, .signalWaited waited ::
      if l.pace.period ≤ waited then [.log (.backpressure r waited)] else [])
  | _ => (l, [])

/-- Ends the loop. -/
def halt (l : Loop) : Loop :=
  { l with phase := .ended }

/-- The question that the loop waits for. -/
def asking (l : Loop) : Option Ask :=
  match l.phase with
  | .ticking _ q _ => some q
  | _ => none

/-- The signal that the loop offers. -/
def offered (l : Loop) : Option Resource :=
  match l.phase with
  | .offering r _ => some r
  | _ => none

/-- When the loop wakes from its sleep. -/
def wakes (l : Loop) : Option Moment :=
  match l.phase with
  | .sleeping m => some m
  | _ => none

/-- Whether the loop notices at once that it is told to end. -/
def isStoppable (l : Loop) : Bool :=
  match l.phase with
  | .sleeping _ | .offering .. => true
  | .ticking .. | .ended => false

/-- Whether the loop is over. -/
def isOver (l : Loop) : Bool :=
  match l.phase with
  | .ended => true
  | _ => false

end Loop

end NodePressure.Pressure
