import NodePressure.Node.TaintFlags
import NodePressure.Number.Digits
import NodePressure.Time.Span

/-!
# NodePressure.Telemetry.Metrics - counters, gauges and histograms

Counters are typed by what they count, gauges are the flags of the node, and a histogram keeps the
spans it observed. The view is `count`: `count_increment` says what counting does to it.
-/

namespace NodePressure

/-- What is counted. -/
inductive Counter
  /-- Taints and untaints that succeeded. -/
  | transitions (d : Dimension) (c : TaintChange)
  /-- Taints and untaints that failed. -/
  | taintErrors (d : Dimension) (c : TaintChange)
  | signals (r : Resource)
  /-- Actions on workloads that succeeded, by their name. -/
  | actions (r : Resource) (action : String)
  /-- Signals whose handling failed, by the stage at which it did. -/
  | dispatchErrors (r : Resource) (stage : String)
  /-- Ticks with every resource available and no taint. -/
  | idleTicks
  | clearErrors
  deriving DecidableEq, Repr

/-- Everything that is measured. -/
structure Metrics where
  counts : List (Counter × Nat)
  tainted : TaintFlags
  /-- How long ticks took, the last one first. -/
  ticks : List Span
  /-- How long signals waited to be taken, the last one first. -/
  blocked : List Span

namespace Metrics

/-- Nothing is measured yet. -/
def zero : Metrics := ⟨[], TaintFlags.clear, [], []⟩

instance : Inhabited Metrics := ⟨zero⟩

/-- The count of `c` in a list of counts. -/
def lookup (c : Counter) : List (Counter × Nat) → Nat
  | [] => 0
  | (d, n) :: r => if d = c then n else lookup c r

/-- Counts `c` once more; a counter that is not there yet comes last. -/
def bump (c : Counter) : List (Counter × Nat) → List (Counter × Nat)
  | [] => [(c, 1)]
  | (d, n) :: r => if d = c then (d, n + 1) :: r else (d, n) :: bump c r

/-- The count of `c`. -/
def count (m : Metrics) (c : Counter) : Nat :=
  lookup c m.counts

/-- Counts `c` once more. -/
def increment (m : Metrics) (c : Counter) : Metrics :=
  { m with counts := bump c m.counts }

/-- Takes up the outcome of a call that taints or untaints the node. -/
def recordTaint (m : Metrics) (d : Dimension) (c : TaintChange) (succeeded : Bool) : Metrics :=
  if succeeded then { m.increment (.transitions d c) with tainted := m.tainted.set d c.flag }
  else m.increment (.taintErrors d c)

/-- Shows whether the node is tainted, without counting a transition. -/
def setTainted (m : Metrics) (d : Dimension) (tainted : Bool) : Metrics :=
  { m with tainted := m.tainted.set d tainted }

/-- Takes up how long a tick took. -/
def observeTick (m : Metrics) (s : Span) : Metrics :=
  { m with ticks := s :: m.ticks }

/-- Takes up how long a signal waited to be taken. -/
def observeBlocked (m : Metrics) (s : Span) : Metrics :=
  { m with blocked := s :: m.blocked }

@[simp] theorem lookup_bump (c d : Counter) (es : List (Counter × Nat)) :
    lookup d (bump c es) = lookup d es + if c = d then 1 else 0 := by
  induction es with
  | nil => simp [bump, lookup]
  | cons e r ih =>
    obtain ⟨k, n⟩ := e
    by_cases hk : k = c
    · subst hk
      by_cases hd : k = d <;> simp [bump, lookup, hd]
    · by_cases hd : k = d
      · subst hd
        simp [bump, lookup, hk, Ne.symm hk]
      · simp [bump, lookup, hk, hd, ih]

@[simp] theorem count_increment (m : Metrics) (c d : Counter) :
    (m.increment c).count d = m.count d + if c = d then 1 else 0 :=
  lookup_bump c d m.counts

end Metrics

end NodePressure
