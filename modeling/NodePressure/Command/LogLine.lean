import NodePressure.Command.Arguments
import NodePressure.Command.LogFilter
import NodePressure.Telemetry.Form

/-!
# NodePressure.Command.LogLine - what the program writes to its log

The program tells how it comes up and goes down; the records of the agent stand between. Every line
has a source, by which it can be filtered, and is written as an object or as text.
-/

namespace NodePressure.Command

/-- A line of the log. -/
inductive LogLine
  | starting
  | configured (nodeName config : String) (tickSeconds : Nat)
  | event (r : LogRecord)
  | serverFailed (error : String)
  | stopped
  deriving DecidableEq, Repr

namespace LogLine

/-- Where lines of the program itself come from. -/
def programSource : String := "eviction_agent"

/-- Where the records of the agent come from. -/
def recordSource : String := "eviction_lib::observability"

/-- Where a line comes from. -/
def source : LogLine → String
  | event _ => recordSource
  | _ => programSource

/-- How urgent a line is. -/
def level : LogLine → Level
  | event r => r.event.level
  | serverFailed _ => .warn
  | _ => .info

/-- The fields of a line; one of them is its message. -/
def fields : LogLine → List (String × LogValue)
  | starting => [("message", .text "Starting eviction-agent")]
  | configured nodeName config tickSeconds =>
    [("message", .text "Agent configured"), ("node_name", .text nodeName),
      ("config_path", .text config), ("taint_update_period_secs", .number tickSeconds)]
  | event r => r.fields
  | serverFailed error =>
    [("message", .text "Health and metrics server failed"), ("error", .text error)]
  | stopped => [("message", .text "Shutdown complete")]

/-- The fields of a line as an object. -/
def object (l : LogLine) : Json :=
  .obj (l.fields.map fun (name, value) => (name, value.toJson))

/-- The message of a line with its other fields behind. -/
def text (l : LogLine) : String :=
  let write : LogValue → String
    | .text s => s
    | .number n => Number.text n
  let (messages, others) := l.fields.partition (·.1 == "message")
  " ".intercalate <|
    messages.map (write ·.2) ++ others.map fun (name, value) => name ++ "=" ++ write value

/-- The level at which a line is written. -/
def verbosity (l : LogLine) : Verbosity :=
  match l.level with
  | .info => .info
  | .warn => .warn
  | .error => .error

/-- Whether a filter lets a line through. -/
def passes (f : LogFilter) (l : LogLine) : Bool :=
  f.allows l.source (l.fields.map (·.1)) l.verbosity

/-- A line as it is written. -/
def write (format : LogFormat) (l : LogLine) : String :=
  match format with
  | .json =>
    let members := [("level", .str l.level.name), ("fields", l.object), ("target", .str l.source)]
    (Json.obj members).render
  | .text => " ".intercalate [l.level.name, l.source ++ ":", l.text]

end LogLine

end NodePressure.Command
