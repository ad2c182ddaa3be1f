import NodePressure.Text.FormValue

/-!
# NodePressure.Cluster.Address - addresses of requests

Names are put into an address as they are. An address with a character that no address has cannot
be built; one with a number sign ends before it.
-/

namespace NodePressure.Address

/-- Whether a byte may stand in the path of an address. -/
def isPathByte (b : Nat) : Bool :=
  b == 0x21 || b == 0x22 || (0x24 ≤ b && b ≤ 0x3B) || b == 0x3D || (0x40 ≤ b && b ≤ 0x5F) ||
    (0x61 ≤ b && b ≤ 0x7E)

/-- Whether a byte may stand in the query of an address. -/
def isQueryByte (b : Nat) : Bool :=
  b == 0x21 || (0x24 ≤ b && b ≤ 0x3B) || b == 0x3D || (0x3F ≤ b && b ≤ 0x7E)

/-- The query behind its question mark, up to a number sign. -/
def readQuery : List Char → Option (List Char)
  | [] => some []
  | c :: r =>
    if c == '#' then some []
    else if isQueryByte c.toNat then (readQuery r).map (c :: ·)
    else none

/-- The path, and the query behind a question mark, up to a number sign. -/
def read : List Char → Option (List Char)
  | [] => some []
  | c :: r =>
    if c == '#' then some []
    else if c == '?' then (readQuery r).map (c :: ·)
    else if isPathByte c.toNat then (read r).map (c :: ·)
    else none

/-- The address that a text is, if it can be built. -/
def ofText? (s : String) : Option String :=
  (read s.toList).map String.ofList

/-- The address of a node. -/
def node (name : String) : String :=
  "/api/v1/nodes/" ++ name

/-- The address of a pod. -/
def pod (space name : String) : String :=
  "/api/v1/namespaces/" ++ space ++ "/pods/" ++ name

/-- The address of the pods on a node, or of those among them that carry a label. -/
def podsOn (node : String) (label : Option String) : String :=
  "/api/v1/pods?&fieldSelector=" ++ Text.formValue ("spec.nodeName=" ++ node) ++
    (match label with
      | some l => "&labelSelector=" ++ Text.formValue l
      | none => "")

end NodePressure.Address
