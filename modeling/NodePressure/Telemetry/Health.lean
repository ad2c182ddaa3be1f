import NodePressure.NameMap
import NodePressure.Number.Digits

/-!
# NodePressure.Telemetry.Health - how the components of the agent fare

Each component reports how its last operation went. The registry keeps the last report of each and
whether the controller runs; the verdict on the agent is the worst of its components.
-/

namespace NodePressure

/-- How a component fares, from best to worst. -/
inductive Status
  | healthy
  | degraded
  | unhealthy
  deriving DecidableEq, Repr

namespace Status

/-- The name of a status. -/
def name : Status → String
  | healthy => "healthy"
  | degraded => "degraded"
  | unhealthy => "unhealthy"

/-- All statuses. -/
def all : List Status := [healthy, degraded, unhealthy]

/-- Whether the component can still do its work. -/
def isOperational : Status → Bool
  | unhealthy => false
  | _ => true

/-- The worse of two statuses. -/
def worse : Status → Status → Status
  | unhealthy, _ => unhealthy
  | _, unhealthy => unhealthy
  | degraded, _ => degraded
  | _, degraded => degraded
  | healthy, healthy => healthy

/-- The worst of the statuses; healthy if there are none. -/
def worst (statuses : List Status) : Status :=
  statuses.foldl worse healthy

end Status

/-- The last report of a component. -/
structure Health where
  status : Status
  message : Option String
  /-- Failures since the last success. -/
  failures : Nat
  /-- When the report was made, in seconds of universal time. -/
  checked : Int
  deriving DecidableEq, Repr

/-- What a component reports. -/
inductive Report
  | healthy
  /-- The last operation failed; the next one may succeed. -/
  | failed (message : String)
  /-- The component cannot run at all. -/
  | unhealthy (message : String)
  deriving DecidableEq, Repr

/-- The entry that a report leaves, given the one before it. -/
def Report.entry (before : Option Health) (moment : Int) : Report → Health
  | .healthy => ⟨.healthy, none, 0, moment⟩
  | .failed message =>
    ⟨.degraded, some message, Number.next32 ((before.map (·.failures)).getD 0), moment⟩
  | .unhealthy message => ⟨.unhealthy, some message, 0, moment⟩

/-- The report of an operation that went well, or failed with a message. -/
def Report.ofResult : Option String → Report
  | none => .healthy
  | some message => .failed message

/-- The agent as a whole: the worst status and the last report of each component. -/
structure Checkup where
  status : Status
  components : NameMap Health

/-- Whether the agent is ready, and why not. -/
structure Readiness where
  ready : Bool
  reason : Option String
  deriving DecidableEq, Repr

/-- The last report of each component, and whether the controller runs. -/
structure Registry where
  components : NameMap Health
  running : Bool

namespace Registry

/-- No component has reported and the controller does not run. -/
def empty : Registry := ⟨NameMap.empty, false⟩

instance : Inhabited Registry := ⟨empty⟩

/-- Takes up the report of a component. -/
def report (g : Registry) (moment : Int) (name : String) (r : Report) : Registry :=
  { g with components := g.components.insert name (r.entry (g.components.get? name) moment) }

/-- Notes whether the controller runs. -/
def setRunning (g : Registry) (running : Bool) : Registry :=
  { g with running }

/-- The worst status of the components. -/
def status (g : Registry) : Status :=
  Status.worst (g.components.values.map (·.status))

/-- The agent as a whole. -/
def checkup (g : Registry) : Checkup :=
  ⟨g.status, g.components⟩

/-- The names of the components that are unhealthy. -/
def failing (g : Registry) : List String :=
  (g.components.entries.filter fun e => !e.2.status.isOperational).map (·.1)

/-- Whether the agent is ready: the controller runs and no component is unhealthy. -/
def readiness (g : Registry) : Readiness :=
  if !g.running then ⟨false, some "Controller not yet started"⟩
  else if !g.status.isOperational then
    ⟨false, some ("Unhealthy components: " ++ ", ".intercalate g.failing)⟩
  else ⟨true, none⟩

end Registry

/-- The name under which the condition source reports. -/
def conditionPart : String := "condition_source"

/-- The name under which the pressure loop reports. -/
def loopPart : String := "pressure_loop"

/-- The name under which the dispatcher reports. -/
def dispatcherPart : String := "dispatcher"

end NodePressure
