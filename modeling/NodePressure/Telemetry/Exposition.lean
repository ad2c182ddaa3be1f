import NodePressure.Number.Decimal
import NodePressure.Telemetry.Metrics

/-!
# NodePressure.Telemetry.Exposition - writing metrics for a scraper

Metrics are written by families: two lines that describe the family, and a line for each sample.
The buckets of a histogram count the spans up to a bound.
-/

namespace NodePressure

/-- A bound of a bucket, in nanoseconds, with its text in seconds. -/
abbrev Bound := Span × String

/-- The bounds of the buckets for ticks. -/
def tickBounds : List Bound :=
  [(1000000, "0.001"), (5000000, "0.005"), (10000000, "0.01"), (50000000, "0.05"),
    (100000000, "0.1"), (250000000, "0.25"), (500000000, "0.5"), (1000000000, "1"),
    (2500000000, "2.5"), (5000000000, "5"), (10000000000, "10")]

/-- The bounds of the buckets for waiting signals. -/
def blockedBounds : List Bound :=
  [(100000, "0.0001"), (1000000, "0.001"), (10000000, "0.01"), (100000000, "0.1"),
    (1000000000, "1"), (5000000000, "5"), (10000000000, "10"), (30000000000, "30"),
    (60000000000, "60"), (120000000000, "120")]

/-- The number of spans up to a bound. -/
def countUpTo (spans : List Span) (b : Bound) : Nat :=
  (spans.filter (· ≤ b.1)).length

/-- The families of metrics, in the order of their names. -/
inductive Family
  | dispatchActions
  | dispatchErrors
  | idleTicks
  | clearErrors
  | nodeTainted
  | signalBlocked
  | signals
  | taintErrors
  | transitions
  | tickDuration
  deriving DecidableEq, Repr

namespace Family

/-- All families. -/
def all : List Family :=
  [dispatchActions, dispatchErrors, idleTicks, clearErrors, nodeTainted, signalBlocked, signals,
    taintErrors, transitions, tickDuration]

/-- The name of a family, without the beginning that all of them share. -/
def name : Family → String
  | dispatchActions => "dispatch_actions_total"
  | dispatchErrors => "dispatch_errors_total"
  | idleTicks => "fast_path_ticks_total"
  | clearErrors => "label_clear_errors_total"
  | nodeTainted => "node_tainted"
  | signalBlocked => "signal_blocked_seconds"
  | signals => "signals_emitted_total"
  | taintErrors => "taint_errors_total"
  | transitions => "taint_transitions_total"
  | tickDuration => "tick_duration_seconds"

/-- The whole name of a family. -/
def fullName (f : Family) : String :=
  "eviction_agent_" ++ f.name

/-- What a family measures. -/
def help : Family → String
  | dispatchActions => "Successful workload actions taken by the dispatcher"
  | dispatchErrors => "Dispatcher failures by stage"
  | idleTicks => "Ticks where every resource was available and nothing was tainted"
  | clearErrors => "Failed attempts to clear eviction labels"
  | nodeTainted => "Whether the node is currently tainted for a resource (1 or 0)"
  | signalBlocked => "Time the pressure loop waited for the dispatcher to accept a signal"
  | signals => "Eviction signals emitted by the pressure loop"
  | taintErrors => "Failed taint and untaint calls"
  | transitions => "Successful taint and untaint calls"
  | tickDuration => "Time spent evaluating one pressure tick, facade calls included"

/-- The type of a family. -/
def type : Family → String
  | nodeTainted => "gauge"
  | signalBlocked | tickDuration => "histogram"
  | _ => "counter"

/-- The lines that describe a family. -/
def headings (f : Family) : List String :=
  ["# HELP " ++ f.fullName ++ " " ++ f.help, "# TYPE " ++ f.fullName ++ " " ++ f.type]

end Family

/-- The family that a counter belongs to. -/
def Counter.family : Counter → Family
  | .transitions .. => .transitions
  | .taintErrors .. => .taintErrors
  | .signals _ => .signals
  | .actions .. => .dispatchActions
  | .dispatchErrors .. => .dispatchErrors
  | .idleTicks => .idleTicks
  | .clearErrors => .clearErrors

/-- The labels of a counter, in the order of their names. -/
def Counter.labels : Counter → List (String × String)
  | .transitions d c => [("action", c.label), ("kind", d.name)]
  | .taintErrors d c => [("action", c.label), ("kind", d.name)]
  | .signals r => [("kind", r.name)]
  | .actions r action => [("action", action), ("kind", r.name)]
  | .dispatchErrors r stage => [("kind", r.name), ("stage", stage)]
  | .idleTicks => []
  | .clearErrors => []

/-- A number of a family with its labels. -/
structure Sample where
  family : Family
  labels : List (String × String)
  value : Nat
  deriving DecidableEq, Repr

/-- The family and its labels in braces, if it has any. -/
def Sample.key (s : Sample) : String :=
  if s.labels.isEmpty then s.family.name
  else
    s.family.name ++ "\x7b" ++
      ",".intercalate (s.labels.map fun (name, value) => name ++ "=" ++ value)
      ++ "\x7d"

namespace Metrics

/-- The samples of counters and gauges. -/
def samples (m : Metrics) : List Sample :=
  m.counts.map (fun (c, n) => ⟨c.family, c.labels, n⟩) ++
    Dimension.all.map fun d =>
      ⟨.nodeTainted, [("kind", d.name)], if m.tainted.get d then 1 else 0⟩

/-- The bounds and the spans of a histogram. -/
def histogram? (m : Metrics) : Family → Option (List Bound × List Span)
  | .tickDuration => some (tickBounds, m.ticks)
  | .signalBlocked => some (blockedBounds, m.blocked)
  | _ => none

/-- A sample as a line, with its labels in quotation marks. -/
def line (name : String) (labels : List (String × String)) (value : String) : String :=
  let escape (c : Char) : List Char :=
    if c == '\\' || c == '"' then ['\\', c] else if c == '\n' then ['\\', 'n'] else [c]
  let label (l : String × String) : String :=
    l.1 ++ "=\"" ++ String.ofList (l.2.toList.flatMap escape) ++ "\""
  if labels.isEmpty then name ++ " " ++ value
  else name ++ "\x7b" ++ ",".intercalate (labels.map label) ++ "\x7d " ++ value

/-- The lines of the samples of a family. -/
def sampleLines (m : Metrics) (f : Family) : List String :=
  match m.histogram? f with
  | some (bounds, spans) =>
    let total := Number.text spans.length
    let sum := Number.ofNat (Span.total spans) / 1000000000.0
    bounds.map (fun b =>
        line (f.fullName ++ "_bucket") [("le", b.2)] (Number.text (countUpTo spans b))) ++
      [line (f.fullName ++ "_bucket") [("le", "+Inf")] total,
        line (f.fullName ++ "_sum") [] (Number.floatText sum),
        line (f.fullName ++ "_count") [] total]
  | none =>
    (m.samples.filter (·.family == f)).map fun s => line f.fullName s.labels (Number.text s.value)

/-- All metrics, line by line. -/
def exposition (m : Metrics) : List String :=
  Family.all.flatMap fun f => f.headings ++ m.sampleLines f

end Metrics

end NodePressure
