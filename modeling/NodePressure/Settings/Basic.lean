import NodePressure.Host.Usage
import NodePressure.Taint.Basic
import NodePressure.Workload.Policy

/-!
# NodePressure.Settings.Basic - what can be set

Two sections: one for sampling the host and choosing workloads, which may change while the agent
runs, and one for the agent itself. Every setting has a default.
-/

namespace NodePressure

/-- The settings of the condition source. -/
structure ConditionSettings where
  /-- How long a dimension has to stay available before the node is untainted, in seconds. -/
  graceSeconds : Nat
  /-- The time between two samples, in seconds. -/
  sampleSeconds : Nat
  /-- The directory with the counters of the host. -/
  procRoot : String
  thresholds : Thresholds
  policy : Policy

namespace ConditionSettings

/-- The settings unless others are configured. -/
def default : ConditionSettings :=
  ⟨300, 5, "/proc", Thresholds.default, Policy.default⟩

instance : Inhabited ConditionSettings := ⟨default⟩

/-- How long a dimension has to stay available before the node is untainted. -/
def grace (s : ConditionSettings) : Span :=
  Span.seconds s.graceSeconds

/-- The time between two samples: at least a second, for else sampling would never rest. -/
def interval (s : ConditionSettings) : Span :=
  Span.seconds (max s.sampleSeconds 1)

end ConditionSettings

/-- How often the pressure loop ticks, and after how many ticks it reads the taints of the node
again. -/
structure Pace where
  period : Span
  resync : Option Nat
  deriving DecidableEq, Repr

/-- The pace unless another one is configured. -/
def Pace.default : Pace := ⟨Span.seconds 10, none⟩

/-- The settings of the agent. -/
structure AgentSettings where
  /-- The time between two ticks, in seconds. -/
  tickSeconds : Nat
  resyncTicks : Option Nat
  /-- The TCP port for health and metrics; nothing is served without one. -/
  metricsPort : Option Nat
  /-- What the keys of taints and labels begin with. -/
  keyPrefix : String
  deriving DecidableEq, Repr

namespace AgentSettings

/-- The settings unless others are configured. -/
def default : AgentSettings :=
  ⟨10, none, none, Taint.defaultPrefix⟩

instance : Inhabited AgentSettings := ⟨default⟩

/-- The pace of the pressure loop: at least a second between ticks. -/
def pace (s : AgentSettings) : Pace :=
  ⟨Span.seconds (max s.tickSeconds 1), s.resyncTicks⟩

end AgentSettings

end NodePressure
