import NodePressure.Json.Decode
import NodePressure.Time.Utc

/-!
# NodePressure.Cluster.Shape - shapes of the objects of a cluster

An object of a cluster is accepted if each field that is known has a value of its kind. A field may
be missing or `null`; items of lists and values of maps may not be `null`.
-/

namespace NodePressure

/-- A kind of values. -/
inductive Shape
  /-- Any value of sound numbers and texts that does not lie too deep. -/
  | anything
  | text
  | flag
  /-- A whole number of that many bits. -/
  | number (bits : Nat)
  /-- A whole number of that many bits, or a text. -/
  | numberOrText (bits : Nat)
  | time
  /-- A text that has to be the given one. -/
  | exactly (s : String)
  | listOf (s : Shape)
  | mapOf (s : Shape)
  | record (fields : List (String × Shape))

namespace Shape

/-- Whether a value that is `null` stands for one that is missing. -/
def isNullable : Shape → Bool
  | exactly _ => false
  | _ => true

/-- Whether a number literal is a whole number of so many bits. -/
def isWord (bits : Nat) (n : Json.Numeral) : Bool :=
  match n.toInt? with
  | some i => -(Number.twoTo (bits - 1) : Int) ≤ i && i < (Number.twoTo (bits - 1) : Int)
  | none => false

mutual

/-- Whether a value that lies in so many lists and objects is of a kind. -/
def fits (depth : Nat) : Json → Shape → Bool
  | j, anything => j.isPlain (127 - depth)
  | .str _, text => true
  | .bool _, flag => true
  | .num n, number bits => isWord bits n
  | .num n, numberOrText bits => isWord bits n
  | .str _, numberOrText _ => true
  | .str s, time => (Utc.parse? s.toList).isSome
  | .str s, exactly t => s == t
  | .arr items, listOf s => allFit (depth + 1) items s
  | .obj members, mapOf s => membersFit (depth + 1) members s
  | .obj members, record fields => fieldsFit (depth + 1) members fields
  | _, _ => false

/-- Whether all items are of a kind. -/
def allFit (depth : Nat) : List Json → Shape → Bool
  | [], _ => true
  | j :: r, s => fits depth j s && allFit depth r s

/-- Whether the values of all members are of a kind. -/
def membersFit (depth : Nat) : List (String × Json) → Shape → Bool
  | [], _ => true
  | (_, j) :: r, s => fits depth j s && membersFit depth r s

/-- Whether the known members have values of their kinds. -/
def fieldsFit (depth : Nat) : List (String × Json) → List (String × Shape) → Bool
  | [], _ => true
  | (name, j) :: r, fields =>
    (match fields.find? (·.1 == name) with
      | none => true
      | some (_, s) => (s.isNullable && (match j with
          | .null => true
          | _ => false)) || fits depth j s) && fieldsFit depth r fields

end

/-- Fields of one kind. -/
def all (s : Shape) (names : List String) : List (String × Shape) :=
  names.map fun n => (n, s)

/-- Fields that are texts. -/
def texts (names : List String) : List (String × Shape) :=
  all text names

/-- A record of texts. -/
def ofTexts (names : List String) : Shape :=
  record (texts names)

/-- A map of texts. -/
def textMap : Shape := mapOf text

/-- A reference to an owner. -/
def ownerReference : Shape :=
  record (texts ["apiVersion", "kind", "name", "uid"] ++
    all flag ["blockOwnerDeletion", "controller"])

/-- What all objects carry. -/
def metadata : Shape :=
  record (texts ["generateName", "name", "namespace", "resourceVersion", "selfLink", "uid"] ++
    all textMap ["annotations", "labels"] ++ all time ["creationTimestamp", "deletionTimestamp"] ++
    all (number 64) ["deletionGracePeriodSeconds", "generation"] ++
    [("finalizers", listOf text), ("ownerReferences", listOf ownerReference),
      ("managedFields", listOf (record (texts ["apiVersion", "fieldsType", "manager", "operation",
        "subresource"] ++ [("time", time), ("fieldsV1", anything)])))])

/-- What a list carries. -/
def listMetadata : Shape :=
  record (texts ["continue", "resourceVersion", "selfLink"] ++ [("remainingItemCount", number 64)])

/-- An object of a kind, given its specification and its status. -/
def object (kind : String) (spec status : Shape) : Shape :=
  record [("apiVersion", exactly "v1"), ("kind", exactly kind), ("metadata", metadata),
    ("spec", spec), ("status", status)]

/-- A state that something is in or not. -/
def condition (times : List String) : Shape :=
  record (texts ["message", "reason", "status", "type"] ++ all time times)

/-- A name in a record of its own. -/
def nameOnly : Shape := ofTexts ["name"]

/-- A name and a value. -/
def nameValue : Shape := ofTexts ["name", "value"]

/-- A requirement on labels. -/
def requirement : Shape :=
  record (texts ["key", "operator"] ++ [("values", listOf text)])

/-- A choice of objects by their labels. -/
def labelSelector : Shape :=
  record [("matchExpressions", listOf requirement), ("matchLabels", textMap)]

end Shape

end NodePressure
