import NodePressure.Node.Resource
import NodePressure.Time.Span
import NodePressure.Workload.Basic

/-!
# NodePressure.Telemetry.LogRecord - what the agent logs

Every record names its event and the node, so that records of a fleet can be gathered. Whatever
failed is a warning with the error's text.
-/

namespace NodePressure

/-- How urgent a record is. -/
inductive Level
  | info
  | warn
  | error
  deriving DecidableEq, Repr

/-- The name of a level. -/
def Level.name : Level → String
  | .info => "INFO"
  | .warn => "WARN"
  | .error => "ERROR"

/-- What happened. -/
inductive LogEvent
  | started (version : String)
  | shutdown (reason : String)
  | taint (d : Dimension) (c : TaintChange) (error : Option String)
  /-- A signal waited at least a whole period to be taken. -/
  | backpressure (r : Resource) (waited : Span)
  | evicted (r : Resource) (w : Workload) (error : Option String)
  | labeled (r : Resource) (w : Workload) (priority : Nat) (error : Option String)
  deriving DecidableEq, Repr

/-- The value of a field of a record. -/
inductive LogValue
  | text (s : String)
  | number (n : Nat)
  deriving DecidableEq, Repr

namespace LogEvent

/-- The name of an event. -/
def name : LogEvent → String
  | started _ => "agent_started"
  | shutdown _ => "agent_shutdown"
  | taint _ .taint _ => "node_tainted"
  | taint _ .untaint _ => "node_untainted"
  | backpressure .. => "signal_backpressure"
  | evicted .. => "workload_evicted"
  | labeled .. => "workload_labeled"

/-- The text of an error that belongs to an event. -/
def error? : LogEvent → Option String
  | taint _ _ e => e
  | evicted _ _ e => e
  | labeled _ _ _ e => e
  | _ => none

/-- How urgent an event is. -/
def level (e : LogEvent) : Level :=
  match e with
  | backpressure .. => .warn
  | e => if e.error?.isSome then .warn else .info

/-- The sentence that describes an event. -/
def message : LogEvent → String
  | started _ => "Eviction agent started"
  | shutdown _ => "Eviction agent shutting down"
  | taint _ _ none => "Node taint updated"
  | taint _ _ (some _) => "Node taint update failed, retrying next tick"
  | backpressure .. => "Pressure loop stalled waiting for the dispatcher"
  | evicted _ _ none => "Evicted workload to relieve pressure"
  | evicted _ _ (some _) => "Failed to evict workload"
  | labeled _ _ _ none => "Labeled workload as eviction candidate"
  | labeled _ _ _ (some _) => "Failed to label workload"

/-- The fields of an event that only events of its kind have. -/
def details : LogEvent → List (String × LogValue)
  | started version => [("agent_version", .text version)]
  | shutdown reason => [("reason", .text reason)]
  | taint d _ _ => [("kind", .text d.name)]
  | backpressure r waited => [("kind", .text r.name), ("blocked_ms", .number waited.toMillis)]
  | evicted r w _ =>
    [("kind", .text r.name), ("namespace", .text w.space), ("pod_name", .text w.name)]
  | labeled r w priority _ =>
    [("kind", .text r.name), ("namespace", .text w.space), ("pod_name", .text w.name),
      ("priority", .number priority)]

end LogEvent

/-- A record of the log. -/
structure LogRecord where
  node : String
  event : LogEvent
  deriving DecidableEq, Repr

/-- All fields of a record, its message included. -/
def LogRecord.fields (r : LogRecord) : List (String × LogValue) :=
  [("event", .text r.event.name), ("node", .text r.node)] ++ r.event.details ++
    (match r.event.error? with
      | some e => [("error", .text e)]
      | none => []) ++
    [("message", .text r.event.message)]

end NodePressure
