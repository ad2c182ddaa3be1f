import NodePressure.Telemetry.Basic

/-!
# NodePressure.Proofs.Telemetry.Totals - what notes do to the metrics

The total of some counters is the sum of their counts. Taking up a note counts the counter of the
note, if it has one, and no other, so notes add to a count or a total as many as have a counter of
it (`count_takeAll`, `total_takeAll`). The gauges go by the last note about each of them
(`tainted_takeAll`).
-/

namespace NodePressure

/-- A counter of the signals that ticks return. -/
def Counter.isSignal : Counter → Bool
  | .signals _ => true
  | _ => false

/-- A counter of dispatches by how they ended. -/
def Counter.isVerdict : Counter → Bool
  | .actions .. | .dispatchErrors .. => true
  | _ => false

/-- A counter of what ticks do, other than the signals that they return. -/
def Counter.isOfCalls : Counter → Bool
  | .transitions .. | .taintErrors .. | .idleTicks | .clearErrors => true
  | .signals _ | .actions .. | .dispatchErrors .. => false

/-- The sum of the counts of some counters in a list of counts. -/
def Metrics.sumOf (p : Counter → Bool) : List (Counter × Nat) → Nat
  | [] => 0
  | (c, n) :: r => (if p c then n else 0) + sumOf p r

/-- The sum of the counts of some counters. -/
def Metrics.total (p : Counter → Bool) (m : Metrics) : Nat :=
  Metrics.sumOf p m.counts

/-- The counter that a note counts. -/
def Note.counter? : Note → Option Counter
  | .count c => some c
  | .taintCall d c error => some (if error.isNone then .transitions d c else .taintErrors d c)
  | _ => none

/-- A note counts one of some counters. -/
def Note.counts (p : Counter → Bool) (n : Note) : Bool :=
  n.counter?.any p

variable (p : Counter → Bool)

theorem countP_counts (notes : List Note) :
    notes.countP (Note.counts p) = (notes.filterMap Note.counter?).countP p := by
  induction notes with
  | nil => rfl
  | cons n notes ih =>
    rw [List.countP_cons, List.filterMap_cons, ih, Note.counts]
    cases n.counter? with
    | none => rfl
    | some c => exact List.countP_cons.symm

theorem Metrics.sumOf_bump (c : Counter) (es : List (Counter × Nat)) :
    sumOf p (bump c es) = sumOf p es + (p c).toNat := by
  induction es with
  | nil => cases hp : p c <;> simp [bump, sumOf, hp]
  | cons e r ih =>
    obtain ⟨d, n⟩ := e
    by_cases hd : d = c
    · subst hd
      rw [bump, if_pos rfl, sumOf, sumOf]
      cases p d with
      | true => exact Nat.add_right_comm n 1 _
      | false => rfl
    · rw [bump, if_neg hd, sumOf, sumOf, ih, Nat.add_assoc]

/-- Counters that have counted nothing add up to nothing. -/
theorem Metrics.total_eq_zero {m : Metrics} (h : ∀ e ∈ m.counts, e.2 = 0) : m.total p = 0 := by
  rw [total]
  generalize m.counts = es at h
  induction es with
  | nil => rfl
  | cons e r ih =>
    obtain ⟨hzero, hrest⟩ := List.forall_mem_cons.mp h
    rw [sumOf, ih hrest, hzero, ite_self]

theorem Telemetry.counts_take (t : Telemetry) (moment : Int) (n : Note) :
    (t.take moment n).metrics.counts =
      match n.counter? with
      | some c => Metrics.bump c t.metrics.counts
      | none => t.metrics.counts := by
  cases n with
  | taintCall d c error =>
    rcases error with - | e
    · rfl
    · rfl
  | _ => rfl

theorem Telemetry.total_take (t : Telemetry) (moment : Int) (n : Note) :
    (t.take moment n).metrics.total p = t.metrics.total p + (n.counts p).toNat := by
  rw [Metrics.total, counts_take, Metrics.total, Note.counts]
  cases n.counter? with
  | none => rfl
  | some c => exact Metrics.sumOf_bump p c _

/-- Notes add to a total as many as count one of its counters. -/
theorem Telemetry.total_takeAll (t : Telemetry) (moment : Int) (notes : List Note) :
    (t.takeAll moment notes).metrics.total p =
      t.metrics.total p + notes.countP (Note.counts p) := by
  induction notes generalizing t with
  | nil => rfl
  | cons n notes ih =>
    have hrest := ih (t.take moment n)
    rw [total_take] at hrest
    rw [takeAll, List.foldl_cons, ← takeAll, hrest, List.countP_cons]
    cases n.counts p with
    | true => exact Nat.add_right_comm _ _ _
    | false => rfl

/-- Notes add to a count as many as count it. -/
theorem Telemetry.count_takeAll (k : Counter) (t : Telemetry) (moment : Int) (notes : List Note) :
    (t.takeAll moment notes).metrics.count k =
      t.metrics.count k + notes.countP (Note.counts (· == k)) := by
  induction notes generalizing t with
  | nil => rfl
  | cons n notes ih =>
    have hfirst : (t.take moment n).metrics.count k =
        t.metrics.count k + (n.counts (· == k)).toNat := by
      rw [Metrics.count, counts_take, Metrics.count, Note.counts]
      cases n.counter? with
      | none => rfl
      | some c => by_cases hc : c = k <;> simp [hc]
    rw [takeAll, List.foldl_cons, ← takeAll, ih, hfirst, List.countP_cons]
    cases n.counts (· == k) with
    | true => exact Nat.add_right_comm _ _ _
    | false => rfl

/-! ## Gauges -/

/-- The flags that the gauges show after a note. -/
def Note.shown (f : TaintFlags) : Note → TaintFlags
  | .taintCall d c none => f.set d c.flag
  | .found d tainted => f.set d tainted
  | _ => f

theorem Telemetry.tainted_takeAll (t : Telemetry) (moment : Int) (notes : List Note) :
    (t.takeAll moment notes).metrics.tainted = notes.foldl Note.shown t.metrics.tainted := by
  induction notes generalizing t with
  | nil => rfl
  | cons n notes ih =>
    have hfirst : (t.take moment n).metrics.tainted = Note.shown t.metrics.tainted n := by
      cases n with
      | taintCall d c error => cases error <;> rfl
      | _ => rfl
    rw [takeAll, List.foldl_cons, ← takeAll, ih, hfirst, List.foldl_cons]

end NodePressure
