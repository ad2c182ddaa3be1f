import NodePressure.Cluster.Objects
import NodePressure.Proofs.Number.Sums
import NodePressure.Proofs.Workload.Quantity

/-!
# NodePressure.Proofs.Cluster.Requests - what the containers of a pod request together

`Pod.requests` is the exact sum of what the containers of a pod request, and `Pod.weighed?` the
candidate that is weighed by it. A pod is converted to that candidate, unless it is a workload and
one of its sums does not fit into 64 bits (`candidate?_eq_ok_iff`): then the conversion crashes, and
with it that of every list of pods which has this one in it (`candidates_eq`,
`conversion_crashes_iff_overflows`).
-/

namespace NodePressure

/-- What containers request and candidates are weighed by. -/
inductive Demand
  | cpu
  | memory
  deriving DecidableEq

/-- The resource whose signal weighs candidates by a request. -/
def Demand.resource : Demand → Resource
  | .cpu => .cpu
  | .memory => .memory

/-- The request of a container; what cannot be read counts as nothing. -/
def Requests.amount (c : Requests) : Demand → Nat
  | .cpu => (c.cpu.bind Quantity.cpuMillis).getD 0
  | .memory => (c.memory.bind Quantity.memoryBytes).getD 0

/-- What a candidate is weighed by. -/
def Candidate.requested (y : Candidate) : Demand → Nat
  | .cpu => y.cpuMillis
  | .memory => y.memoryBytes

theorem getD_le_of_forall {o : Option Nat} {m : Nat} (h : ∀ n, o = some n → n ≤ m) :
    o.getD 0 ≤ m := by
  cases o with
  | none => exact Nat.zero_le m
  | some n => exact h n rfl

/-- A request fits into 64 bits. -/
theorem Requests.amount_le_max64 (c : Requests) (q : Demand) : c.amount q ≤ Number.max64 := by
  cases q with
  | cpu =>
    refine getD_le_of_forall fun n hn => ?_
    obtain ⟨text, -, hn⟩ := Option.bind_eq_some_iff.mp hn
    exact Quantity.cpuMillisOf_le hn
  | memory =>
    refine getD_le_of_forall fun n hn => ?_
    obtain ⟨text, -, hn⟩ := Option.bind_eq_some_iff.mp hn
    exact Quantity.withUnit_le hn

/-- The exact sum of the requests of a pod. -/
def Pod.requests (x : Pod) (q : Demand) : Nat :=
  (x.containers.map (·.amount q)).sum

/-- A workload whose requests do not fit into 64 bits. -/
def Pod.Overflows (x : Pod) : Prop :=
  (∃ w, x.workload? = some w) ∧ ∃ q, Number.max64 < x.requests q

/-- The candidate that a pod is, weighed by the exact sums of its requests. -/
def Pod.weighed? (key : String) (x : Pod) : Option Candidate :=
  x.workload?.map fun w => x.asCandidate key w (x.requests .cpu) (x.requests .memory)

/-- The candidates among pods, given the key of the priority label. -/
def candidatesOf (key : String) (ps : List Pod) : List Candidate :=
  ps.filterMap (Pod.weighed? key)

theorem candidatesOf_cons (key : String) (x : Pod) (ps : List Pod) :
    candidatesOf key (x :: ps) = (x.weighed? key).toList ++ candidatesOf key ps := by
  rw [candidatesOf, List.filterMap_cons]
  cases x.weighed? key <;> rfl

namespace Pod

variable {x x' : Pod} {y y' : Candidate} {ps : List Pod} {cs : List Candidate} {key : String}
  {q : Demand}

/-! ## Conversion -/

theorem total_eq (amount : Requests → Option Nat) (cs : List Requests) :
    total amount cs =
      if (cs.map fun c => (amount c).getD 0).sum ≤ Number.max64 then
        .ok (cs.map fun c => (amount c).getD 0).sum
      else .error .overflow := by
  have hsum := Number.foldlM_add64? (Nat.zero_le _) (cs.map fun c => (amount c).getD 0)
  rw [List.foldlM_map, Nat.zero_add] at hsum
  rw [total, hsum]
  split_ifs <;> rfl

theorem total_cpuMillis (x : Pod) :
    total (fun c => c.cpu.bind Quantity.cpuMillis) x.containers =
      if x.requests .cpu ≤ Number.max64 then .ok (x.requests .cpu) else .error .overflow :=
  total_eq _ x.containers

theorem total_memoryBytes (x : Pod) :
    total (fun c => c.memory.bind Quantity.memoryBytes) x.containers =
      if x.requests .memory ≤ Number.max64 then .ok (x.requests .memory) else .error .overflow :=
  total_eq _ x.containers

theorem candidate?_of_overflows (h : x.Overflows) : x.candidate? key = .error .overflow := by
  obtain ⟨⟨w, hw⟩, q, hq⟩ := h
  rw [candidate?, hw, Option.mapM_some, total_cpuMillis, total_memoryBytes]
  by_cases hcpu : x.requests .cpu ≤ Number.max64
  · have hmemory : ¬ x.requests .memory ≤ Number.max64 := by
      cases q with
      | cpu => omega
      | memory => omega
    rw [if_pos hcpu, if_neg hmemory]
    rfl
  · rw [if_neg hcpu]
    rfl

theorem candidate?_of_not_overflows (h : ¬ x.Overflows) :
    x.candidate? key = .ok (x.weighed? key) := by
  rw [candidate?, weighed?]
  cases hw : x.workload? with
  | none => rfl
  | some w =>
    have fits (q : Demand) : x.requests q ≤ Number.max64 :=
      Nat.le_of_not_lt fun hq => h ⟨⟨w, hw⟩, q, hq⟩
    rw [Option.mapM_some, total_cpuMillis, total_memoryBytes, if_pos (fits .cpu),
      if_pos (fits .memory)]
    rfl

theorem candidate?_eq_error_iff : x.candidate? key = .error .overflow ↔ x.Overflows := by
  refine ⟨fun h => ?_, candidate?_of_overflows⟩
  by_contra hfits
  rw [candidate?_of_not_overflows hfits] at h
  cases h

theorem candidate?_eq_ok_iff {o : Option Candidate} :
    x.candidate? key = .ok o ↔ ¬ x.Overflows ∧ o = x.weighed? key := by
  by_cases h : x.Overflows
  · simp [candidate?_of_overflows h, h]
  · simp [candidate?_of_not_overflows h, h, eq_comm]

/-- The first pod is converted, and then the others are. -/
theorem candidates_cons (key : String) (x : Pod) (ps : List Pod) :
    candidates key (x :: ps) = (x.candidate? key).bind fun o =>
      (candidates key ps).map (o.toList ++ ·) := by
  rw [candidates, List.filterMapM_cons]
  rcases x.candidate? key with f | - | y
  · rfl
  · show candidates key ps = (candidates key ps).map ([] ++ ·)
    cases candidates key ps <;> rfl
  · show (candidates key ps).bind _ = (candidates key ps).map ([y] ++ ·)
    cases candidates key ps <;> rfl

/-- One pod that crashes is enough, and otherwise all pods that are workloads are candidates. -/
theorem candidates_eq (key : String) (ps : List Pod) :
    ((∃ x ∈ ps, x.Overflows) ∧ candidates key ps = .error .overflow) ∨
    ((∀ x ∈ ps, ¬ x.Overflows) ∧ candidates key ps = .ok (candidatesOf key ps)) := by
  induction ps with
  | nil => exact .inr ⟨by simp, rfl⟩
  | cons x ps ih =>
    rw [candidates_cons, candidatesOf_cons]
    by_cases hx : x.Overflows
    · exact .inl ⟨⟨x, by simp, hx⟩, by rw [candidate?_of_overflows hx]; rfl⟩
    · rw [candidate?_of_not_overflows hx]
      rcases ih with ⟨⟨z, hz, hover⟩, hrest⟩ | ⟨hfits, hrest⟩
      · exact .inl ⟨⟨z, List.mem_cons_of_mem _ hz, hover⟩, by rw [hrest]; rfl⟩
      · exact .inr ⟨List.forall_mem_cons.mpr ⟨hx, hfits⟩, by rw [hrest]; rfl⟩

theorem candidates_eq_error_iff :
    candidates key ps = .error .overflow ↔ ∃ x ∈ ps, x.candidate? key = .error .overflow := by
  simp only [candidate?_eq_error_iff]
  rcases candidates_eq key ps with ⟨h, hps⟩ | ⟨h, hps⟩
  · exact iff_of_true hps h
  · rw [hps]
    exact ⟨fun h => (by cases h), fun ⟨x, hx, hover⟩ => absurd hover (h x hx)⟩

theorem eq_candidatesOf (h : candidates key ps = .ok cs) : cs = candidatesOf key ps := by
  rcases candidates_eq key ps with ⟨-, hps⟩ | ⟨-, hps⟩
  · rw [hps] at h
    cases h
  · exact Except.ok.inj (h.symm.trans hps)

/-! ## Weighing -/

/-- The requests of one container fit. -/
theorem two_le_length_of_overflows (h : x.Overflows) : 2 ≤ x.containers.length := by
  obtain ⟨-, q, hq⟩ := h
  by_contra hlength
  have hsum : x.requests q ≤ Number.max64 := by
    match hcs : x.containers with
    | [] => simp [requests, hcs]
    | [c] => simpa [requests, hcs] using c.amount_le_max64 q
    | _ :: _ :: _ => simp [hcs] at hlength
  omega

/-- One more container adds its requests. -/
theorem requests_of_more {c : Requests} (more : x'.containers.Perm (c :: x.containers)) :
    x'.requests q = x.requests q + c.amount q := by
  rw [requests, (more.map _).sum_nat, List.map_cons, List.sum_cons, Nat.add_comm, requests]

theorem exists_weighed? {w : Workload} (key : String) (h : x.workload? = some w) :
    ∃ y, x.weighed? key = some y :=
  ⟨_, by rw [weighed?, h, Option.map_some]⟩

theorem requested_of_weighed? (h : x.weighed? key = some y) (q : Demand) :
    y.requested q = x.requests q := by
  obtain ⟨w, -, rfl⟩ := Option.map_eq_some_iff.mp h
  cases q <;> rfl

/-- A candidate is weighed by the exact sums of its pod, and these fit. -/
theorem requested_of_candidate? (h : x.candidate? key = .ok (some y)) (q : Demand) :
    y.requested q = x.requests q :=
  requested_of_weighed? (candidate?_eq_ok_iff.mp h).2.symm q

/-- A candidate comes before another one by the request that the resource asks for. -/
theorem rankFor_eq_lt_iff_requested :
    Candidate.rankFor q.resource y y' = .lt ↔ y'.requested q < y.requested q := by
  cases q <;> exact Nat.compare_eq_lt

/-- With one more container, a candidate crashes or weighs more by just what that requests. -/
theorem candidate?_of_more {c : Requests} (h : x.candidate? key = .ok (some y))
    (hw : x'.workload? = x.workload?) (more : x'.containers.Perm (c :: x.containers)) :
    (∃ q, Number.max64 < y.requested q + c.amount q) ∧ x'.candidate? key = .error .overflow ∨
    ∃ y', x'.candidate? key = .ok (some y') ∧
      ∀ q, y'.requested q = y.requested q + c.amount q := by
  have hsum (q : Demand) : x'.requests q = y.requested q + c.amount q := by
    rw [requests_of_more more, requested_of_candidate? h]
  by_cases hover : x'.Overflows
  · obtain ⟨q, hq⟩ := hover.2
    exact .inl ⟨⟨q, hsum q ▸ hq⟩, candidate?_of_overflows hover⟩
  · have hweighed := (candidate?_eq_ok_iff.mp h).2
    obtain ⟨w, hworkload, -⟩ := Option.map_eq_some_iff.mp hweighed.symm
    obtain ⟨y', hy'⟩ := exists_weighed? key (hw.trans hworkload)
    refine .inr ⟨_, by rw [candidate?_of_not_overflows hover, hy'], fun q => ?_⟩
    rw [requested_of_weighed? hy', hsum]

/-- **Requests that overflow crash the conversion.** They are added up in words of 64 bits, and a
workload crashes its conversion exactly if one of its sums does not fit, which takes two containers
at least. Every other workload is weighed by its exact sums. So one more container crashes the
conversion or adds just what it requests, and of two candidates the one that asks for more goes
first. A list of pods crashes exactly if one of its pods does. -/
theorem conversion_crashes_iff_overflows (key : String) :
    (∀ x : Pod,
      (x.candidate? key = .error .overflow ↔
        (∃ w, x.workload? = some w) ∧ ∃ q, Number.max64 < x.requests q) ∧
      (x.candidate? key = .error .overflow → 2 ≤ x.containers.length) ∧
      (x.candidate? key = .ok none ↔ x.workload? = none) ∧
      ∀ y, x.candidate? key = .ok (some y) →
        (∀ q, y.requested q = x.requests q) ∧
        (∀ (c : Requests) (x' : Pod), x'.workload? = x.workload? →
          x'.containers.Perm (c :: x.containers) →
          (∃ q, Number.max64 < y.requested q + c.amount q) ∧
            x'.candidate? key = .error .overflow ∨
          ∃ y', x'.candidate? key = .ok (some y') ∧
            ∀ q, y'.requested q = y.requested q + c.amount q) ∧
        ∀ (x' : Pod) (y' : Candidate) (q : Demand), x'.candidate? key = .ok (some y') →
          (Candidate.rankFor q.resource y y' = .lt ↔ x'.requests q < x.requests q)) ∧
    ∀ ps : List Pod, candidates key ps = .error .overflow ↔
      ∃ x ∈ ps, x.candidate? key = .error .overflow := by
  refine ⟨fun x => ⟨candidate?_eq_error_iff, fun h => ?_, ?_, fun y h => ⟨?_, ?_, ?_⟩⟩, fun ps =>
    candidates_eq_error_iff⟩
  · exact two_le_length_of_overflows (candidate?_eq_error_iff.mp h)
  · rw [candidate?_eq_ok_iff, eq_comm, weighed?, Option.map_eq_none_iff]
    exact ⟨And.right, fun hw => ⟨fun ⟨⟨w, hw'⟩, _⟩ => by simp [hw] at hw', hw⟩⟩
  · exact requested_of_candidate? h
  · exact fun c x' => candidate?_of_more h
  · intro x' y' q h'
    rw [rankFor_eq_lt_iff_requested, requested_of_candidate? h, requested_of_candidate? h']

/-- A pod of containers that request amounts of the processor. -/
def requesting (name : String) (cpus : List String) : Pod :=
  ⟨some name, some "web", none, [], [], [], none, cpus.map fun text => ⟨some text, none⟩,
    none, none, none⟩

/-- A pod of two containers, the same one with a third, and one that asks for less. -/
theorem three_containers_weigh_more :
    ∃ two three other : Candidate,
      (requesting "a" ["250m", "750m"]).candidate? "p" = .ok (some two) ∧
      (requesting "a" ["300m", "250m", "750m"]).candidate? "p" = .ok (some three) ∧
      (requesting "b" ["900m"]).candidate? "p" = .ok (some other) ∧
      three.requested .cpu = two.requested .cpu + 300 ∧
      Candidate.rankFor .cpu two other = .lt ∧
      candidates "p" [requesting "a" ["250m", "750m"], requesting "b" ["900m"]] ≠
        .error .overflow := by
  have hthree : (requesting "a" ["300m", "250m", "750m"]).candidate? "p" =
      .ok (some ((requesting "a" ["300m", "250m", "750m"]).asCandidate "p" ⟨"a", "web", none⟩
        1300 0)) := by decide +kernel
  have htwo : (requesting "a" ["250m", "750m"]).candidate? "p" =
      .ok (some ((requesting "a" ["250m", "750m"]).asCandidate "p" ⟨"a", "web", none⟩ 1000 0)) := by
    decide +kernel
  have hother : (requesting "b" ["900m"]).candidate? "p" =
      .ok (some ((requesting "b" ["900m"]).asCandidate "p" ⟨"b", "web", none⟩ 900 0)) := by
    decide +kernel
  obtain ⟨hpods, hlists⟩ := conversion_crashes_iff_overflows "p"
  obtain ⟨-, -, -, hconverted⟩ := hpods (requesting "a" ["250m", "750m"])
  obtain ⟨-, hmore, hfirst⟩ := hconverted _ htwo
  have hthird : (⟨some "300m", none⟩ : Requests).amount .cpu = 300 := by decide +kernel
  have hless : (requesting "b" ["900m"]).requests .cpu <
      (requesting "a" ["250m", "750m"]).requests .cpu := by decide +kernel
  refine ⟨_, _, _, htwo, hthree, hother, ?_, (hfirst _ _ .cpu hother).mpr hless, ?_⟩
  · rcases hmore ⟨some "300m", none⟩ (requesting "a" ["300m", "250m", "750m"]) rfl (.refl _) with
      ⟨-, hcrash⟩ | ⟨y, hy, hplus⟩
    · rw [hthree] at hcrash
      cases hcrash
    · obtain rfl := Option.some.inj (Except.ok.inj (hthree.symm.trans hy))
      rw [hplus, hthird]
  · exact mt (hlists _).mp (by simp [htwo, hother])

/-- **A pod can crash the list of all.** The first container alone requests all that 64 bits hold.
The second one requests next to nothing, and with it the pod crashes its conversion instead of
weighing as much as 64 bits hold. No other pod on the node is a candidate then. -/
theorem heavy_pod_crashes_the_list :
    ∃ first : Candidate,
      (requesting "a" ["18446744073709551615m"]).candidate? "p" = .ok (some first) ∧
      first.cpuMillis = Number.max64 ∧
      (requesting "a" ["18446744073709551615m", "1m"]).requests .cpu = Number.max64 + 1 ∧
      (requesting "a" ["18446744073709551615m", "1m"]).candidate? "p" = .error .overflow ∧
      candidates "p" [requesting "b" ["10m"], requesting "a" ["18446744073709551615m", "1m"]] =
        .error .overflow :=
  ⟨(requesting "a" ["18446744073709551615m"]).asCandidate "p" ⟨"a", "web", none⟩ Number.max64 0,
    by decide +kernel, rfl, by decide +kernel, by decide +kernel, by decide +kernel⟩

end Pod

end NodePressure
