import NodePressure.Controller.System
import NodePressure.Rehearsal.World

/-!
# NodePressure.Rehearsal.Play - a controller in virtual time

Time stands still while anything can happen, and then jumps to the next moment at which something
does: a call ends, the loop wakes or the manager takes a sample. What happens is an event of the
system each time, so a play is one of its runs.
-/

namespace NodePressure.Rehearsal

open NodePressure.Controller

/-- A controller in a world, and the calls under way. -/
structure Play where
  world : World
  system : System
  /-- The call of the controller or its dispatcher. -/
  call : Option Engagement
  /-- The call of the pressure loop. -/
  loopCall : Option Engagement
  /-- Whether the dispatcher takes signals by itself. -/
  dispatching : Bool

namespace Play

/-- A controller that begins to run. -/
def ofController (world : World) (pace : Pace) (t : Telemetry) : Play :=
  ⟨world, System.start pace t 0, none, none, true⟩

/-- The pressure loop alone; its signals are taken by hand. -/
def ofLoop (world : World) (pace : Pace) (t : Telemetry) : Play where
  world
  system :=
    { pace, clock := 0, phase := .idle, slot := none, shutdown := false, telemetry := t
      loop := some (Pressure.Loop.start pace .fresh 0) }
  call := none
  loopCall := none
  dispatching := false

/-- The moment that has been reached. -/
def now (p : Play) : Moment := p.system.clock

/-- What an event makes of the play, if it is possible. -/
def event (p : Play) (e : Event) : Option Play :=
  (p.system.step e).map fun system => { p with system }

/-- Begins the call that the controller waits for. -/
def begin? (p : Play) : Option Play :=
  match p.call, p.system.asking with
  | none, some q =>
    let (world, e) := p.world.start p.now q
    some { p with world, call := some e }
  | _, _ => none

/-- Begins the call that the loop waits for. -/
def beginLoop? (p : Play) : Option Play :=
  match p.loopCall, p.system.loop.bind Pressure.Loop.asking with
  | none, some q =>
    let (world, e) := p.world.start p.now q
    some { p with world, loopCall := some e }
  | _, _ => none

/-- Ends the call of the controller if it is due. -/
def end? (p : Play) : Option Play :=
  match p.call, p.system.asking with
  | some e, some q =>
    if e.due ≤ p.now then
      let (_, world, notes) := p.world.answer p.now e.fails q
      let p := { p with system := p.system.tell notes }
      (p.event (.answer fun q => (p.world.answer p.now e.fails q).1)).map fun p =>
        { p with world, call := none }
    else none
  | _, _ => none

/-- Ends the call of the loop if it is due. -/
def endLoop? (p : Play) : Option Play :=
  match p.loopCall, p.system.loop.bind Pressure.Loop.asking with
  | some e, some q =>
    if e.due ≤ p.now then
      let (_, world, notes) := p.world.answer p.now e.fails q
      let p := { p with system := p.system.tell notes }
      (p.event (.answerLoop fun q => (p.world.answer p.now e.fails q).1)).map fun p =>
        { p with world, loopCall := none }
    else none
  | _, _ => none

/-- Lets the sampling loop go on, if it can. -/
def sample? (p : Play) : Option Play :=
  if p.world.isDue p.now then
    let (world, notes) := p.world.settle p.now
    some { p with world, system := p.system.tell notes }
  else none

/-- Whether the dispatcher has been left to itself, and takes a signal. -/
def take? (p : Play) : Option Play :=
  if p.dispatching then p.event .take else none

/-- What happens next without time passing. -/
def next? (p : Play) : Option Play :=
  p.begin? <|> p.beginLoop? <|> p.end? <|> p.endLoop? <|> p.event .stop <|> p.event .halt <|>
    p.event .join <|> p.event .refuse <|> p.event .accept <|> p.take? <|> p.sample? <|>
    p.event .wake

/-- The moments at which something is due. -/
def moments (p : Play) : List Moment :=
  (p.call.map (·.due)).toList ++ (p.loopCall.map (·.due)).toList ++
    (p.system.loop.bind Pressure.Loop.wakes).toList ++ p.world.wakes.toList

/-- The moment at which something is due next. -/
def due? (p : Play) : Option Moment :=
  p.moments.min?

/-- Moves the clock to a moment that has not passed. -/
def jump (p : Play) (t : Moment) : Play :=
  (p.event (.pass (Span.between p.now t))).getD p

/-- Plays until nothing is left to happen before a moment, at most as many events as the fuel
allows. -/
def playTo : Nat → Play → Moment → Play
  | 0, p, _ => p
  | fuel + 1, p, target =>
    match p.next? with
    | some p => playTo fuel p target
    | none =>
      match p.due? with
      | some t => if t ≤ target then playTo fuel (p.jump t) target else p.jump target
      | none => p.jump target

/-- More events than happen up to a moment: few can happen in one millisecond, since no period is
shorter. -/
def eventsUpTo (p : Play) (target : Moment) : Nat :=
  1000 * (Span.between p.now target / Span.millis 1 + 1)

/-- Plays up to a moment. -/
def upTo (p : Play) (target : Moment) : Play :=
  playTo (p.eventsUpTo target) p target

/-- Lets everything happen that can without time passing. -/
def rest (p : Play) : Play :=
  p.upTo p.now

/-- Plays until the controller is over, at most as many events as the fuel allows. -/
def playOut : Nat → Play → Play
  | 0, p => p
  | fuel + 1, p =>
    if p.system.result?.isSome then p
    else
      match p.next? with
      | some p => playOut fuel p
      | none =>
        match p.due? with
        | some t => playOut fuel (p.jump t)
        | none => p

/-- Tells the controller to stop and waits for its end. Calls are still under way then, and the last
tick and the last dispatch have few of them. -/
def close (p : Play) : Play :=
  playOut 100000 ((p.event .request).getD p)

/-! ### Signals taken by hand -/

/-- Takes the signal in the channel. -/
def drain (p : Play) : Play × Option Resource :=
  ({ p with system := { p.system with slot := none } }, p.system.slot)

/-- Takes no signals any more. -/
def abandon (p : Play) : Play :=
  { p with system := { p.system with slot := none, phase := .ended none } }

/-- Whether the loop is over. -/
def isOver (p : Play) : Bool :=
  p.system.loop.any Pressure.Loop.isOver

/-- Tells the loop to end and waits for its end. -/
def halt (p : Play) : Play :=
  if p.isOver then p
  else playOut 100000 { p with system := { p.system with phase := .stopping } }

end Play

end NodePressure.Rehearsal
