import NodePressure.Host.Counters
import NodePressure.Node.Availability
import NodePressure.Time.Span

/-!
# NodePressure.Host.Usage - how busy the host is

Processor, disk and network figures are rates, so they come from the difference to an earlier
sample; without one they are zero. Thresholds say which figures leave a resource available.
-/

namespace NodePressure

namespace Host

/-- How busy the host is. -/
structure Usage where
  cpuBusyPercent : Float
  memoryAvailablePercent : Float
  /-- The highest share of time among the disks. -/
  diskBusyPercent : Float
  receivedPerSecond : Float
  sentPerSecond : Float

/-- A span in seconds. -/
def seconds (s : Span) : Float :=
  Number.ofNat (s / 1000000000) + Number.ofNat (s % 1000000000) / 1000000000.0

/-- The larger of two floats; one that is no number gives way. -/
def larger (x y : Float) : Float :=
  if x.isNaN then y else if y.isNaN then x else if x < y then y else x

/-- The smaller of two floats; one that is no number gives way. -/
def smaller (x y : Float) : Float :=
  if x.isNaN then y else if y.isNaN then x else if y < x then y else x

/-- The share of processor time between two samples that was busy, if any time passed. -/
def cpuPercent (before now : CpuTimes) : Float :=
  let total := now.total - before.total
  let busy := now.busy - before.busy
  if 0 < total then Number.ofNat busy / Number.ofNat total * 100.0 else 0.0

/-- The highest share of the elapsed milliseconds that a disk known from both samples was busy. -/
def diskPercent (before now : NameMap Nat) (elapsedMillis : Float) : Float :=
  now.entries.foldl
    (fun highest (device, ticks) =>
      match before.get? device with
      | some earlier =>
        larger highest (smaller (Number.ofNat (ticks - earlier) / elapsedMillis * 100.0) 100.0)
      | none => highest)
    0.0

/-- The usage between two samples, given the share of memory available. -/
def Usage.between (before now : Counters) (elapsed : Span) (memory : Float) : Usage :=
  let secs := seconds elapsed
  let cpu := cpuPercent before.cpu now.cpu
  if secs ≤ 0.0 then ⟨cpu, memory, 0.0, 0.0, 0.0⟩
  else
    { cpuBusyPercent := cpu
      memoryAvailablePercent := memory
      diskBusyPercent := diskPercent before.disks now.disks (secs * 1000.0)
      receivedPerSecond := Number.ofNat (now.traffic.received - before.traffic.received) / secs
      sentPerSecond := Number.ofNat (now.traffic.sent - before.traffic.sent) / secs }

/-- The usage of a first sample: only memory needs no earlier one. -/
def Usage.first (memory : Float) : Usage :=
  ⟨0.0, memory, 0.0, 0.0, 0.0⟩

end Host

/-- The figures beyond which a resource is short. -/
structure Thresholds where
  cpuBusyPercent : Float
  memoryMinPercent : Float
  diskBusyPercent : Float
  receivedPerSecond : Nat
  sentPerSecond : Nat

namespace Thresholds

/-- The thresholds unless others are configured; a gigabit per second for the network. -/
def default : Thresholds := ⟨90.0, 10.0, 90.0, 125000000, 125000000⟩

instance : Inhabited Thresholds := ⟨default⟩

/-- Which resources are available at a usage. A figure that is no number leaves its resource
short. -/
def evaluate (t : Thresholds) (u : Host.Usage) : Availability where
  networkRx := u.receivedPerSecond < Number.ofNat t.receivedPerSecond
  networkTx := u.sentPerSecond < Number.ofNat t.sentPerSecond
  diskIo := u.diskBusyPercent < t.diskBusyPercent
  cpu := u.cpuBusyPercent < t.cpuBusyPercent
  memory := t.memoryMinPercent ≤ u.memoryAvailablePercent

end Thresholds

end NodePressure
