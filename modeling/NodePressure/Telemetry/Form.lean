import NodePressure.Json.Decode
import NodePressure.Telemetry.LogRecord
import NodePressure.Telemetry.Health

/-!
# NodePressure.Telemetry.Form - the JSON form of health and of log records

A message or reason that is not there is left out.
-/

namespace NodePressure

open Json

/-- A member that is left out if there is nothing to write. -/
def Json.optionalMember (name : String) : Option String → List (String × Json)
  | some s => [(name, .str s)]
  | none => []

/-- Reads a status. -/
def Status.ofJson? : Decoder Status :=
  asName (Status.all.map fun s => (s.name, s))

/-- Writes a status. -/
def Status.toJson (s : Status) : Json :=
  .str s.name

namespace Health

/-- Reads the last report of a component. -/
def ofJson? : Decoder Health := fun j => do
  let r ← fields ["status", "message", "consecutive_failures", "last_check_timestamp"] j
  return ⟨← r.required 0 "status" Status.ofJson?, ← r.optional 1 "message" asString,
    ← r.required 2 "consecutive_failures" (asNat Number.max32),
    ← r.required 3 "last_check_timestamp" asInt⟩

/-- Writes the last report of a component. -/
def toJson (h : Health) : Json :=
  .obj ([("status", h.status.toJson)] ++ optionalMember "message" h.message ++
    [("consecutive_failures", .nat h.failures), ("last_check_timestamp", .int h.checked)])

/-- Reads the reports of components by their names; of reports under one name the last one
counts. -/
def mapOfJson? : Decoder (NameMap Health)
  | .obj members => do
    let es ← members.mapM fun (name, j) => do
      let h ← ofJson? j
      return (name, h)
    return NameMap.ofList es
  | _ => none

/-- Writes the reports of components. -/
def mapToJson (m : NameMap Health) : Json :=
  .obj (m.entries.map fun (name, h) => (name, h.toJson))

end Health

namespace Checkup

/-- Reads a checkup. -/
def ofJson? : Decoder Checkup := fun j => do
  let r ← fields ["status", "components"] j
  return ⟨← r.required 0 "status" Status.ofJson?, ← r.required 1 "components" Health.mapOfJson?⟩

/-- Writes a checkup. -/
def toJson (c : Checkup) : Json :=
  .obj [("status", c.status.toJson), ("components", Health.mapToJson c.components)]

end Checkup

namespace Readiness

/-- Reads whether the agent is ready. -/
def ofJson? : Decoder Readiness := fun j => do
  let r ← fields ["ready", "reason"] j
  return ⟨← r.required 0 "ready" asBool, ← r.optional 1 "reason" asString⟩

/-- Writes whether the agent is ready. -/
def toJson (r : Readiness) : Json :=
  .obj ([("ready", .bool r.ready)] ++ optionalMember "reason" r.reason)

end Readiness

/-- Writes the value of a field. -/
def LogValue.toJson : LogValue → Json
  | .text s => .str s
  | .number n => .nat n

/-- Writes a record with its level. -/
def LogRecord.toJson (r : LogRecord) : Json :=
  .obj (r.fields.map (fun (name, v) => (name, v.toJson)) ++ [("level", .str r.event.level.name)])

end NodePressure
