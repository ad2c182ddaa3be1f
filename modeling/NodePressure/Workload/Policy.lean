import NodePressure.Workload.Basic

/-!
# NodePressure.Workload.Policy - which workload a signal acts on

Candidates are ordered by `rank`: a workload labeled in an earlier round comes first, so signals
escalate on it until its priority exceeds the threshold of the policy and it is evicted.
-/

namespace NodePressure

/-- How candidates are chosen and when they are evicted. -/
structure Policy where
  /-- A priority above this one evicts instead of labeling. -/
  evictAbove : Nat
  /-- The resources whose signals always evict. -/
  evictFor : List Resource
  /-- The namespaces whose workloads are never chosen. -/
  protectedSpaces : List String
  deriving DecidableEq, Repr

namespace Policy

/-- The policy unless another one is configured. -/
def default : Policy := ⟨3, [.memory], ["kube-system"]⟩

instance : Inhabited Policy := ⟨default⟩

/-- Whether a workload may be chosen at all. -/
def isEligible (p : Policy) (c : Candidate) : Bool :=
  !c.terminated && !c.daemon && !c.mirror && !c.critical &&
    !p.protectedSpaces.contains c.workload.space

end Policy

/-- Compares values that may be missing; a missing one is the least. -/
def compareOption (f : α → α → Ordering) : Option α → Option α → Ordering
  | none, none => .eq
  | none, some _ => .lt
  | some _, none => .gt
  | some a, some b => f a b

namespace Candidate

/-- The comparison that depends on the resource that signals: the larger request of CPU or memory
goes first, and for the others the workload started last. -/
def rankFor (r : Resource) (a b : Candidate) : Ordering :=
  match r with
  | .cpu => compare b.cpuMillis a.cpuMillis
  | .memory => compare b.memoryBytes a.memoryBytes
  | .diskIo | .networkRx | .networkTx => compareOption Utc.order b.started a.started

/-- The order of candidates, the first one to be evicted being the least: by label, class, the
resource's own key and the path. -/
def rank (r : Resource) (a b : Candidate) : Ordering :=
  (compareOption compare b.priority a.priority).then <|
    (compare a.qos.place b.qos.place).then <|
      (rankFor r a b).then <|
        compare a.workload.path b.workload.path

/-- The first least element of a list. -/
def leastBy (f : α → α → Ordering) : List α → Option α
  | [] => none
  | a :: r => some (r.foldl (fun m x => if f m x == .gt then x else m) a)

/-- The priority that the next signal gives a candidate. -/
def nextPriority (c : Candidate) : Nat :=
  match c.priority with
  | some p => Number.next32 p
  | none => 1

end Candidate

namespace Policy

/-- The decision about one candidate. -/
def decide (p : Policy) (r : Resource) (c : Candidate) : Decision where
  workload := c.workload
  evictNow := p.evictFor.contains r || p.evictAbove < c.nextPriority
  priority := c.nextPriority

/-- The decision about a signal: the least eligible candidate, if there is one. -/
def choose (p : Policy) (r : Resource) (candidates : List Candidate) : Option Decision :=
  (Candidate.leastBy (Candidate.rank r) (candidates.filter p.isEligible)).map (p.decide r)

end Policy

end NodePressure
