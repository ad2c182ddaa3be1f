import NodePressure.Json.Reader
import NodePressure.Json.Writer

/-!
# NodePressure.Json.Decode - reading typed values

A decoder takes a value to a typed one or refuses it. A record comes as an object, where unknown
members are ignored and a known one may stand only once, or as a list of its fields in order.
-/

namespace NodePressure.Json

/-- A decoder of values of a type. -/
abbrev Decoder (α : Type) := Json → Option α

/-- A text. -/
def asString : Decoder String
  | .str s => some s
  | _ => none

/-- A truth value. -/
def asBool : Decoder Bool
  | .bool b => some b
  | _ => none

/-- A natural number up to `limit`, written without fraction, exponent and sign. -/
def asNat (limit : Nat) : Decoder Nat
  | .num n => n.toNat? limit
  | _ => none

/-- An integer of 64 bits, written without fraction and exponent. -/
def asInt : Decoder Int
  | .num n => n.toInt?
  | _ => none

/-- A float; every number in range is one. -/
def asFloat : Decoder Float
  | .num n => n.toFloat?
  | _ => none

/-- A list of values. -/
def asList (f : Decoder α) : Decoder (List α)
  | .arr items => items.mapM f
  | _ => none

/-- Nothing, for `null`, or a value. -/
def asOption (f : Decoder α) : Decoder (Option α)
  | .null => some none
  | j => (f j).map some

/-- One of the named values: its name as a text, or an object with that name as its only member,
holding `null`. -/
def asName (names : List (String × α)) : Decoder α
  | .str s => (names.find? (·.1 == s)).map (·.2)
  | .obj [(s, .null)] => (names.find? (·.1 == s)).map (·.2)
  | _ => none

/-- The given fields of a record. -/
structure Fields where
  /-- The value of the field with the given number and name. -/
  at? : Nat → String → Option Json
  /-- Whether the record came as a list. -/
  listed : Bool

/-- The fields of a record with the given names. An object with a repeated known name is refused,
as is a list with more items than there are names. -/
def fields (names : List String) : Json → Option Fields
  | .obj members =>
    let known := (members.map (·.1)).filter names.contains
    if known.length == known.eraseDups.length then
      some ⟨fun _ name => (members.find? (·.1 == name)).map (·.2), false⟩
    else none
  | .arr items =>
    if items.length ≤ names.length then some ⟨fun i _ => items[i]?, true⟩ else none
  | _ => none

namespace Fields

/-- A field that has to be there. -/
def required (r : Fields) (i : Nat) (name : String) (f : Decoder α) : Option α :=
  (r.at? i name).bind f

/-- A field that may be `null`, and in an object also missing. -/
def optional (r : Fields) (i : Nat) (name : String) (f : Decoder α) : Option (Option α) :=
  match r.at? i name with
  | some j => asOption f j
  | none => if r.listed then none else some none

/-- A field with a default for when it is missing, also from the end of a list. -/
def orElse (r : Fields) (i : Nat) (name : String) (default : α) (f : Decoder α) : Option α :=
  match r.at? i name with
  | some j => f j
  | none => some default

end Fields

end NodePressure.Json
