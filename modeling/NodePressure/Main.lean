import NodePressure.Cluster.Client
import NodePressure.Command.Launch
import NodePressure.Controller.System

/-!
# NodePressure.Main - the program

Reads files and the environment of the host, writes the log and lets the controller run in real
time. What happens is decided elsewhere: here questions are answered and events are passed on. There
is no transport to the API server in this build, so it counts as unreachable, and nothing is served.
-/

namespace NodePressure.Main

open NodePressure.Command NodePressure.Controller

/-- The variables of the environment. -/
def readVariables : IO (List (String × String)) := do
  let bytes ← IO.FS.readBinFile "/proc/self/environ"
  let text := (Text.decode (bytes.toList.map UInt8.toNat)).toOption.getD ""
  return (Text.pieces (· == Char.ofNat 0) text.toList).filterMap fun entry =>
    match entry.span (· != '=') with
    | (name, _ :: value) => some (String.ofList name, String.ofList value)
    | _ => none

/-- Adds what lies at a path of the host; nothing if it cannot be read. -/
def addPath (t : FileTree) (path : String) : IO FileTree := do
  try
    let m ← (← IO.FS.realPath path).metadata
    match m.type with
    | .dir => return t.put path .directory
    | _ =>
      let bytes ← IO.FS.readBinFile path
      return t.put path
        (.file (bytes.toList.map UInt8.toNat) (m.modified.sec * 1000000000 + m.modified.nsec.toNat))
  catch _ => return t

/-- What lies at paths of the host. -/
def readPaths (paths : List String) : IO FileTree :=
  paths.foldlM addPath FileTree.empty

/-- The paths that settings can come from. -/
def settingsPaths (config : String) : List String :=
  config :: (Settings.siblings config).map (·.1)

/-- The paths of the counters below a root. -/
def counterPaths (root : String) : List String :=
  [Host.Source.stat, .meminfo, .diskstats, .netDev].map fun s => FileTree.join root s.path

/-- The moment on the monotonic clock. -/
def readClock : IO Moment := do
  return (← IO.monoNanosNow : Nat)

/-- The program while the controller runs. -/
structure Session where
  agent : Agent
  vars : List (String × String)
  system : System
  manager : Manager

namespace Session

/-- The surroundings of the host as they are now. -/
def surroundings (s : Session) : IO Surroundings := do
  let roots := [s.manager.settings.procRoot] ++
    (s.manager.loop.map fun l => l.sampler.root).toList
  let paths := settingsPaths s.agent.arguments.config ++ roots.flatMap counterPaths
  return ⟨← readPaths paths, s.vars⟩

/-- The API server, as far as it can be reached. -/
def client (s : Session) : Client :=
  ⟨s.agent.arguments.nodeName, s.agent.settings.keyPrefix⟩

/-- The result of a call without a transport. -/
def call (c : Call α) : Except ClusterFault α :=
  (c.run (fun (_ : Unit) _ => (Reply.unreachable "no transport to the API server", ())) ()).1

/-- What came of a call that may crash; a crash ends the program. -/
def survive : Except ClusterFault (Except Crash α) → IO (Except ClusterFault α)
  | .error f => return .error f
  | .ok (.ok a) => return .ok a
  | .ok (.error .overflow) => throw <| IO.userError "Controller task panicked"

/-- Answers a question of the controller. -/
def answer (s : Session) (q : Ask) : IO (((r : Ask) → r.Answer) × Session) := do
  match q with
  | .start =>
    let (m, r, notes) := s.manager.start (← s.surroundings) s.system.clock
    return (Ask.answers .start r, { s with manager := m, system := s.system.tell notes })
  | .grace => return (Ask.answers .grace s.manager.settings.grace, s)
  | .availability => return (Ask.answers .availability s.manager.availability, s)
  | .readTaints => return (Ask.answers .readTaints (call s.client.readFlags), s)
  | .changeTaint d c => return (Ask.answers (.changeTaint d c) (call (s.client.changeTaint d c)), s)
  | .clearLabels => return (Ask.answers .clearLabels (call s.client.clearLabels), s)
  | .choose r =>
    let listed ← survive (call s.client.candidates)
    return (Ask.answers (.choose r) (s.manager.choose r listed), s)
  | .evict w => return (Ask.answers (.evict w) (call (s.client.evict w)), s)
  | .label w p c => return (Ask.answers (.label w p c) (call (s.client.label w p c)), s)

/-- Passes an event on, if it is possible. -/
def event (s : Session) (e : Event) : Option Session :=
  (s.system.step e).map fun system => { s with system }

/-- A step of the sampling loop. -/
def sample (s : Session) : IO Session := do
  let (m, notes) := s.manager.step (← s.surroundings) s.system.clock
  return { s with manager := m, system := s.system.tell notes }

/-- Moves on to the present moment. -/
def catchUp (s : Session) : IO Session := do
  return (s.event (.pass (Span.between s.system.clock (← readClock)))).getD s

/-- Goes on by one event; waits a moment if none is possible. -/
def advance (s : Session) : IO Session := do
  let s ← s.catchUp
  match s.system.asking, s.system.loop.bind Pressure.Loop.asking with
  | some q, _ =>
    let (f, s) ← s.answer q
    return (s.event (.answer f)).getD s
  | none, some q =>
    let (f, s) ← s.answer q
    return (s.event (.answerLoop f)).getD s
  | none, none =>
    if s.manager.isDue s.system.clock then s.sample
    else
      match [Event.stop, .halt, .join, .refuse, .accept, .take, .wake].findSome? s.event with
      | some s => return s
      | none => IO.sleep 10; return s

end Session

/-- Writes those lines that pass. -/
def writeLines (f : LogFilter) (format : LogFormat) (lines : List LogLine) : IO Unit :=
  (lines.filter (LogLine.passes f)).forM fun l => do
    IO.println (l.write format)
    (← IO.getStdout).flush

/-- Ends the program. -/
def conclude (vars : List (String × String)) (e : Ending) : IO UInt32 := do
  (e.output vars).forM (IO.println ·)
  e.errors.forM (IO.eprintln ·)
  return e.code.toUInt32

/-- Lets the controller run until it is over. -/
def serve (write : List LogLine → IO Unit) (vars : List (String × String)) (a : Agent) :
    IO Ending := do
  let system := System.start a.settings.pace (Telemetry.fresh a.arguments.nodeName) (← readClock)
  let mut s : Session := ⟨a, vars, system, a.manager⟩
  while s.system.result?.isNone do
    s ← s.advance
    write (s.system.telemetry.records.reverse.map .event)
    let telemetry := { s.system.telemetry with records := [] }
    s := { s with system := { s.system with telemetry } }
  let (lines, ending) := finish (fun _ => false) a <|
    match s.system.result? with
    | some (some f) => .error f
    | _ => .ok "controller ended"
  write lines
  return ending

end NodePressure.Main

open NodePressure NodePressure.Main in
def main (words : List String) : IO UInt32 := do
  let vars ← readVariables
  match Command.Arguments.read words vars with
  | .error (.inquiry i) => conclude vars (.inquiry i)
  | .error (.misuse f) => conclude vars (.misuse f)
  | .ok arguments =>
    let write := writeLines (Command.LogFilter.ofVariables vars) arguments.logFormat
    let files ← readPaths (settingsPaths arguments.config ++ Command.connectionFiles vars)
    let (lines, agent) := Command.prepare arguments ⟨files, vars⟩
    write lines
    match agent with
    | .error f => conclude vars (.failed f)
    | .ok a => conclude vars (← serve write vars a)
