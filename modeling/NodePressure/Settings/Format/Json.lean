import NodePressure.Json.Reader
import NodePressure.Settings.Tree

/-!
# NodePressure.Settings.Format.Json - settings in JSON

An integer of more than 64 bits becomes a float, and of members with one name the last one counts.
-/

namespace NodePressure.Settings

/-- A number as a scalar. -/
def Scalar.ofNumeral (n : Json.Numeral) : Scalar :=
  match n.toInt? with
  | some i => .int i
  | none => .float ((n.toFloat?).getD 0.0)

mutual

/-- A JSON value as untyped settings; a garbled text has none. -/
def Tree.ofJson? : Json → Option Tree
  | .null => some (.leaf none .nil)
  | .garbled => none
  | .bool b => some (.leaf none (.bool b))
  | .num n => some (.leaf none (.ofNumeral n))
  | .str s => some (.leaf none (.text s))
  | .arr items => (itemsOfJson? items).map (.list none)
  | .obj members => (membersOfJson? [] members).map (.table none)

/-- The items of a list. -/
def Tree.itemsOfJson? : List Json → Option (List Tree)
  | [] => some []
  | j :: r => do
    let t ← Tree.ofJson? j
    return t :: (← Tree.itemsOfJson? r)

/-- The members of an object, put to those already there. -/
def Tree.membersOfJson? (done : List (String × Tree)) :
    List (String × Json) → Option (List (String × Tree))
  | [] => some done
  | (name, j) :: r => do
    let t ← Tree.ofJson? j
    Tree.membersOfJson? (Tree.putMember name t done) r

end

/-- Reads settings in JSON. -/
def readJson (s : List Char) : Option Tree :=
  (Json.parseBounded s).bind Tree.ofJson?

end NodePressure.Settings
