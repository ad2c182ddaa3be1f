import NodePressure.Telemetry.Health
import NodePressure.Telemetry.LogRecord
import NodePressure.Telemetry.Metrics

/-!
# NodePressure.Telemetry.Basic - what the agent tells about itself

The parts of the agent say what they did in *notes*. Telemetry takes each note up where it belongs:
in the metrics, in the log or in the registry of health.
-/

namespace NodePressure

/-- Something that a part of the agent tells. -/
inductive Note
  | count (c : Counter)
  /-- A call that taints or untaints the node succeeded or failed. -/
  | taintCall (d : Dimension) (c : TaintChange) (error : Option String)
  /-- The node was found tainted or not. -/
  | found (d : Dimension) (tainted : Bool)
  | tickTook (s : Span)
  | signalWaited (s : Span)
  | log (e : LogEvent)
  | report (component : String) (r : Report)
  /-- The controller runs from now on, or no longer. -/
  | running (b : Bool)
  deriving DecidableEq, Repr

/-- Metrics, log and health of one agent. -/
structure Telemetry where
  node : String
  metrics : Metrics
  /-- The records of the log, the last one first. -/
  records : List LogRecord
  health : Registry

namespace Telemetry

/-- Nothing has been told about a node. -/
def fresh (node : String) : Telemetry :=
  ⟨node, Metrics.zero, [], Registry.empty⟩

/-- Adds a record to the log. -/
def log (t : Telemetry) (e : LogEvent) : Telemetry :=
  { t with records := ⟨t.node, e⟩ :: t.records }

/-- Takes up a note, given the time for the registry. -/
def take (t : Telemetry) (moment : Int) : Note → Telemetry
  | .count c => { t with metrics := t.metrics.increment c }
  | .taintCall d c error =>
    { t with metrics := t.metrics.recordTaint d c error.isNone }.log (.taint d c error)
  | .found d tainted => { t with metrics := t.metrics.setTainted d tainted }
  | .tickTook s => { t with metrics := t.metrics.observeTick s }
  | .signalWaited s => { t with metrics := t.metrics.observeBlocked s }
  | .log e => t.log e
  | .report component r => { t with health := t.health.report moment component r }
  | .running b => { t with health := t.health.setRunning b }

/-- Takes up notes in order. -/
def takeAll (t : Telemetry) (moment : Int) (notes : List Note) : Telemetry :=
  notes.foldl (fun t n => t.take moment n) t

end Telemetry

end NodePressure
