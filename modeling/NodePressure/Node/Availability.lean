import NodePressure.Node.Resource

/-!
# NodePressure.Node.Availability - which resources a node has to spare

A snapshot says of each resource whether it is available. A dimension is available if all of its
resources are; of the network's two, receiving gives the signal before sending.
-/

namespace NodePressure

/-- Which resources are available. -/
structure Availability where
  networkRx : Bool
  networkTx : Bool
  diskIo : Bool
  cpu : Bool
  memory : Bool
  deriving DecidableEq, Repr

namespace Availability

/-- Every resource is available. -/
def full : Availability := ⟨true, true, true, true, true⟩

instance : Inhabited Availability := ⟨full⟩

/-- Whether a resource is available. -/
def of (a : Availability) : Resource → Bool
  | .cpu => a.cpu
  | .memory => a.memory
  | .diskIo => a.diskIo
  | .networkRx => a.networkRx
  | .networkTx => a.networkTx

/-- Exactly the given resources are short. -/
def without (busy : List Resource) : Availability where
  networkRx := !busy.contains .networkRx
  networkTx := !busy.contains .networkTx
  diskIo := !busy.contains .diskIo
  cpu := !busy.contains .cpu
  memory := !busy.contains .memory

/-- Whether every resource is available. -/
def isFull (a : Availability) : Bool :=
  a.networkRx && a.networkTx && a.diskIo && a.cpu && a.memory

/-- Whether a dimension is available. -/
def has (a : Availability) : Dimension → Bool
  | .cpu => a.cpu
  | .memory => a.memory
  | .diskIo => a.diskIo
  | .network => a.networkRx && a.networkTx

/-- The resource that signals for a dimension that is short. -/
def signal (a : Availability) : Dimension → Resource
  | .cpu => .cpu
  | .memory => .memory
  | .diskIo => .diskIo
  | .network => if a.networkRx then .networkTx else .networkRx

theorem isFull_iff {a : Availability} : a.isFull = true ↔ ∀ d, a.has d = true := by
  constructor
  · intro h d
    cases d <;> simp_all [isFull, has]
  · intro h
    have h1 := h .cpu
    have h2 := h .memory
    have h3 := h .diskIo
    have h4 := h .network
    simp_all [isFull, has]

theorem isFull_iff_of {a : Availability} : a.isFull = true ↔ ∀ r, a.of r = true := by
  constructor
  · intro h r
    cases r <;> simp_all [isFull, of]
  · intro h
    have h1 := h .networkRx
    have h2 := h .networkTx
    have h3 := h .diskIo
    have h4 := h .cpu
    have h5 := h .memory
    simp_all [isFull, of]

end Availability

end NodePressure
