import NodePressure.Json.Decode
import NodePressure.Node.Availability
import NodePressure.Node.TaintFlags

/-!
# NodePressure.Node.Form - the JSON form of what is known of the node

Names stand for resources, dimensions and changes; snapshots and flags are records.
-/

namespace NodePressure

open Json

/-- Resources with their names. -/
def Resource.named : List (String × Resource) :=
  Resource.all.map fun r => (r.name, r)

/-- Reads a resource. -/
def Resource.ofJson? : Decoder Resource :=
  asName Resource.named

/-- Writes a resource. -/
def Resource.toJson (r : Resource) : Json :=
  .str r.name

/-- Reads a dimension. -/
def Dimension.ofJson? : Decoder Dimension :=
  asName (Dimension.all.map fun d => (d.name, d))

/-- Writes a dimension. -/
def Dimension.toJson (d : Dimension) : Json :=
  .str d.name

/-- Reads a change of a taint. -/
def TaintChange.ofJson? : Decoder TaintChange :=
  asName ([.taint, .untaint].map fun c => (TaintChange.name c, c))

/-- Writes a change of a taint. -/
def TaintChange.toJson (c : TaintChange) : Json :=
  .str c.name

/-- Reads a change of a label. -/
def LabelChange.ofJson? : Decoder LabelChange :=
  asName ([.add, .remove].map fun c => (LabelChange.name c, c))

/-- Writes a change of a label. -/
def LabelChange.toJson (c : LabelChange) : Json :=
  .str c.name

namespace Availability

/-- The names of the fields of a snapshot. -/
def fieldNames : List String :=
  ["network_rx_available", "network_tx_available", "disk_io_available", "cpu_available",
    "memory_available"]

/-- Reads a snapshot. -/
def ofJson? : Decoder Availability := fun j => do
  let r ← fields fieldNames j
  return ⟨← r.required 0 "network_rx_available" asBool,
    ← r.required 1 "network_tx_available" asBool,
    ← r.required 2 "disk_io_available" asBool, ← r.required 3 "cpu_available" asBool,
    ← r.required 4 "memory_available" asBool⟩

/-- Writes a snapshot. -/
def toJson (a : Availability) : Json :=
  .obj [("network_rx_available", .bool a.networkRx), ("network_tx_available", .bool a.networkTx),
    ("disk_io_available", .bool a.diskIo), ("cpu_available", .bool a.cpu),
    ("memory_available", .bool a.memory)]

end Availability

namespace TaintFlags

/-- Reads the four flags in the order of the dimensions. -/
def ofList? : Decoder TaintFlags := fun j => do
  match ← asList asBool j with
  | [cpu, memory, diskIo, network] => return ⟨cpu, memory, diskIo, network⟩
  | _ => none

/-- Reads flags. -/
def ofJson? : Decoder TaintFlags := fun j => do
  let r ← fields ["flags"] j
  r.required 0 "flags" ofList?

/-- Writes flags. -/
def toJson (f : TaintFlags) : Json :=
  .obj [("flags", .arr (Dimension.all.map fun d => .bool (f.get d)))]

end TaintFlags

end NodePressure
