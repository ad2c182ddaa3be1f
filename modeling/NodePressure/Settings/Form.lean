import NodePressure.Settings.Basic
import NodePressure.Workload.Form

/-!
# NodePressure.Settings.Form - the JSON form of settings

Settings that are missing have their defaults, and lists may end early.
-/

namespace NodePressure

open Json

namespace Thresholds

/-- The names of the fields of thresholds. -/
def fieldNames : List String :=
  ["cpu_busy_percent", "memory_min_available_percent", "disk_io_busy_percent",
    "network_rx_bytes_per_sec", "network_tx_bytes_per_sec"]

/-- Reads thresholds. -/
def ofJson? : Decoder Thresholds := fun j => do
  let r ← fields fieldNames j
  return {
    cpuBusyPercent := ← r.orElse 0 "cpu_busy_percent" default.cpuBusyPercent asFloat
    memoryMinPercent := ← r.orElse 1 "memory_min_available_percent" default.memoryMinPercent asFloat
    diskBusyPercent := ← r.orElse 2 "disk_io_busy_percent" default.diskBusyPercent asFloat
    receivedPerSecond :=
      ← r.orElse 3 "network_rx_bytes_per_sec" default.receivedPerSecond (asNat Number.max64)
    sentPerSecond :=
      ← r.orElse 4 "network_tx_bytes_per_sec" default.sentPerSecond (asNat Number.max64) }

end Thresholds

namespace ConditionSettings

/-- The names of the fields of the condition source's settings. -/
def fieldNames : List String :=
  ["untaint_grace_period_secs", "sample_interval_secs", "proc_root", "thresholds", "victim"]

/-- Reads the settings of the condition source. -/
def ofJson? : Decoder ConditionSettings := fun j => do
  let r ← fields fieldNames j
  return {
    graceSeconds :=
      ← r.orElse 0 "untaint_grace_period_secs" default.graceSeconds (asNat Number.max64)
    sampleSeconds := ← r.orElse 1 "sample_interval_secs" default.sampleSeconds (asNat Number.max64)
    procRoot := ← r.orElse 2 "proc_root" default.procRoot asString
    thresholds := ← r.orElse 3 "thresholds" default.thresholds Thresholds.ofJson?
    policy := ← r.orElse 4 "victim" default.policy Policy.ofJson? }

end ConditionSettings

namespace AgentSettings

/-- The names of the fields of the agent's settings. -/
def fieldNames : List String :=
  ["taint_update_period_secs", "taint_resync_ticks", "metrics_port", "taint_key_prefix"]

/-- Reads the settings of the agent. -/
def ofJson? : Decoder AgentSettings := fun j => do
  let r ← fields fieldNames j
  return {
    tickSeconds := ← r.orElse 0 "taint_update_period_secs" default.tickSeconds (asNat Number.max64)
    resyncTicks := ← r.orElse 1 "taint_resync_ticks" none (asOption (asNat Number.max32))
    metricsPort := ← r.orElse 2 "metrics_port" none (asOption (asNat Number.max16))
    keyPrefix := ← r.orElse 3 "taint_key_prefix" default.keyPrefix asString }

end AgentSettings

end NodePressure
