import NodePressure.Node.Resource

/-!
# NodePressure.Node.TaintFlags - the dimensions a node is tainted for

One flag for each dimension. The view is `get`: `get_set` says what setting a flag does to it, and
`ext_get` that flags with the same view are equal.
-/

namespace NodePressure

/-- Which dimensions the node is tainted for. -/
structure TaintFlags where
  cpu : Bool
  memory : Bool
  diskIo : Bool
  network : Bool
  deriving DecidableEq, Repr

namespace TaintFlags

/-- No dimension is tainted. -/
def clear : TaintFlags := ⟨false, false, false, false⟩

instance : Inhabited TaintFlags := ⟨clear⟩

/-- The flag of a dimension. -/
def get (f : TaintFlags) : Dimension → Bool
  | .cpu => f.cpu
  | .memory => f.memory
  | .diskIo => f.diskIo
  | .network => f.network

/-- The flags with that of one dimension replaced. -/
def set (f : TaintFlags) (d : Dimension) (b : Bool) : TaintFlags :=
  match d with
  | .cpu => { f with cpu := b }
  | .memory => { f with memory := b }
  | .diskIo => { f with diskIo := b }
  | .network => { f with network := b }

/-- Whether any dimension is tainted. -/
def any (f : TaintFlags) : Bool :=
  Dimension.all.any f.get

/-- The tainted dimensions, in the order of evaluation. -/
def raised (f : TaintFlags) : List Dimension :=
  Dimension.all.filter f.get

/-- The flags with exactly the given dimensions tainted. -/
def ofList (ds : List Dimension) : TaintFlags :=
  ds.foldl (fun f d => f.set d true) clear

@[simp] theorem get_clear (d : Dimension) : clear.get d = false := by cases d <;> rfl

@[simp] theorem get_set (f : TaintFlags) (d e : Dimension) (b : Bool) :
    (f.set d b).get e = if d = e then b else f.get e := by
  cases d <;> cases e <;> rfl

@[simp] theorem set_get (f : TaintFlags) (d : Dimension) : f.set d (f.get d) = f := by
  cases d <;> rfl

theorem ext_get {f g : TaintFlags} (h : ∀ d, f.get d = g.get d) : f = g := by
  cases f; cases g
  have h1 := h .cpu
  have h2 := h .memory
  have h3 := h .diskIo
  have h4 := h .network
  simp_all [get]

theorem any_eq_false_iff {f : TaintFlags} : f.any = false ↔ ∀ d, f.get d = false := by
  constructor
  · intro h d
    have := List.any_eq_false.1 h d (Dimension.mem_all d)
    simpa using this
  · intro h
    exact List.any_eq_false.2 fun d _ => by simp [h d]

end TaintFlags

end NodePressure
