import NodePressure.Node.Form
import NodePressure.Workload.Policy

/-!
# NodePressure.Workload.Form - the JSON form of workloads and decisions

Instants are written in the form of RFC 3339; what is missing is written as `null`.
-/

namespace NodePressure

open Json

namespace Workload

/-- Reads a workload. -/
def ofJson? : Decoder Workload := fun j => do
  let r ← fields ["name", "namespace", "uid"] j
  return ⟨← r.required 0 "name" asString, ← r.required 1 "namespace" asString,
    ← r.optional 2 "uid" asString⟩

/-- Writes a workload. -/
def toJson (w : Workload) : Json :=
  .obj [("name", .str w.name), ("namespace", .str w.space), ("uid", ofOption .str w.uid)]

end Workload

namespace Decision

/-- Reads a decision. -/
def ofJson? : Decoder Decision := fun j => do
  let r ← fields ["workload", "hard_evict", "priority"] j
  return ⟨← r.required 0 "workload" Workload.ofJson?, ← r.required 1 "hard_evict" asBool,
    ← r.required 2 "priority" (asNat Number.max32)⟩

/-- Writes a decision. -/
def toJson (d : Decision) : Json :=
  .obj [("workload", d.workload.toJson), ("hard_evict", .bool d.evictNow),
    ("priority", .nat d.priority)]

end Decision

namespace Qos

/-- Reads a class. -/
def ofJson? : Decoder Qos :=
  asName ([bestEffort, burstable, guaranteed].map fun q => (q.name, q))

/-- Writes a class. -/
def toJson (q : Qos) : Json :=
  .str q.name

end Qos

namespace Utc

/-- Reads an instant. -/
def ofJson? : Decoder Utc := fun j => do
  parse? (← asString j).toList

/-- Writes an instant. -/
def toJson (t : Utc) : Json :=
  .str t.text

end Utc

namespace Candidate

/-- The names of the fields of a candidate. -/
def fieldNames : List String :=
  ["workload", "qos", "cpu_request_millicores", "memory_request_bytes", "eviction_priority",
    "started_at", "daemon_set", "mirror", "critical", "terminated"]

/-- Reads a candidate. -/
def ofJson? : Decoder Candidate := fun j => do
  let r ← fields fieldNames j
  return {
    workload := ← r.required 0 "workload" Workload.ofJson?
    qos := ← r.required 1 "qos" Qos.ofJson?
    cpuMillis := ← r.required 2 "cpu_request_millicores" (asNat Number.max64)
    memoryBytes := ← r.required 3 "memory_request_bytes" (asNat Number.max64)
    priority := ← r.optional 4 "eviction_priority" (asNat Number.max32)
    started := ← r.optional 5 "started_at" Utc.ofJson?
    daemon := ← r.required 6 "daemon_set" asBool
    mirror := ← r.required 7 "mirror" asBool
    critical := ← r.required 8 "critical" asBool
    terminated := ← r.required 9 "terminated" asBool }

/-- Writes a candidate. -/
def toJson (c : Candidate) : Json :=
  .obj [("workload", c.workload.toJson), ("qos", c.qos.toJson),
    ("cpu_request_millicores", .nat c.cpuMillis), ("memory_request_bytes", .nat c.memoryBytes),
    ("eviction_priority", ofOption .nat c.priority), ("started_at", ofOption Utc.toJson c.started),
    ("daemon_set", .bool c.daemon), ("mirror", .bool c.mirror), ("critical", .bool c.critical),
    ("terminated", .bool c.terminated)]

end Candidate

namespace Policy

/-- The names of the fields of a policy. -/
def fieldNames : List String :=
  ["hard_evict_priority", "hard_evict_kinds", "protected_namespaces"]

/-- Reads a policy; fields that are missing have their defaults. -/
def ofJson? : Decoder Policy := fun j => do
  let r ← fields fieldNames j
  return {
    evictAbove := ← r.orElse 0 "hard_evict_priority" default.evictAbove (asNat Number.max32)
    evictFor := ← r.orElse 1 "hard_evict_kinds" default.evictFor (asList Resource.ofJson?)
    protectedSpaces :=
      ← r.orElse 2 "protected_namespaces" default.protectedSpaces (asList asString) }

/-- Writes a policy. -/
def toJson (p : Policy) : Json :=
  .obj [("hard_evict_priority", .nat p.evictAbove),
    ("hard_evict_kinds", .arr (p.evictFor.map Resource.toJson)),
    ("protected_namespaces", .arr (p.protectedSpaces.map .str))]

end Policy

end NodePressure
