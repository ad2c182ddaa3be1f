import NodePressure.Json.Decode
import NodePressure.Taint.Basic

/-!
# NodePressure.Taint.Form - the JSON form of taints

The API server leaves out what is empty: a missing key or effect is the empty text. Times are
written to the second.
-/

namespace NodePressure

open Json

namespace Taint

/-- A member that may be missing or `null`. -/
def orNull (name : String) (f : Decoder α) (j : Json) : Option (Option α) :=
  match j.present? name with
  | none => some none
  | some k => (f k).map some

/-- Reads a taint. -/
def ofJson? : Decoder Taint
  | .obj members => do
    let j := Json.obj members
    return ⟨(← orNull "key" asString j).getD "", (← orNull "effect" asString j).getD "",
      ← orNull "value" asString j,
      ← orNull "timeAdded" (fun k => do Utc.parse? (← asString k).toList) j⟩
  | _ => none

/-- Writes a taint. -/
def toJson (t : Taint) : Json :=
  .obj ([("effect", .str t.effect), ("key", .str t.key)] ++
    (match t.added with
      | some u => [("timeAdded", .str u.textToSecond)]
      | none => []) ++
    (match t.value with
      | some v => [("value", .str v)]
      | none => []))

end Taint

end NodePressure
