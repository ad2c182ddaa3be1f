import NodePressure.Proofs.Workload.Contest

/-!
# NodePressure.Proofs.Workload.Rank - who comes first

`rank` is a lexicographic order of comparisons, each of which is a total preorder, so it is one,
too. `leastBy` takes a candidate that comes before all others, hence the decision of a policy is
about an eligible candidate that does so among the eligible ones (`Policy.choose_spec`).
-/

namespace NodePressure

open Std

variable {α : Type} {f : α → α → Ordering}

/-! ## The order -/

instance [h : OrientedCmp f] : OrientedCmp (compareOption f) where
  eq_swap {a b} := by
    rcases a with - | a <;> rcases b with - | b
    · rfl
    · rfl
    · rfl
    · exact h.eq_swap

instance [h : TransCmp f] : TransCmp (compareOption f) where
  isLE_trans {a b c} hab hbc := by
    rcases a with - | a
    · cases c <;> rfl
    · rcases b with - | b
      · exact absurd hab Bool.false_ne_true
      · rcases c with - | c
        · exact absurd hbc Bool.false_ne_true
        · exact h.isLE_trans hab hbc

instance : TransCmp Utc.order :=
  inferInstanceAs <| TransCmp <| compareLex (compareOn fun t : Utc => t.date.year) <|
    compareLex (compareOn fun t : Utc => t.date.month) <|
      compareLex (compareOn fun t : Utc => t.date.day) <|
        compareLex (compareOn fun t : Utc => t.second) (compareOn fun t : Utc => t.nanos)

/-- Comparing what is read off two values, the greater one first. -/
theorem transCmp_descending {β : Type} (g : β → α) [h : TransCmp f] :
    TransCmp fun a b => f (g b) (g a) :=
  { eq_swap := h.eq_swap, isLE_trans := fun hab hbc => h.isLE_trans hbc hab }

namespace Candidate

/-- Comparing candidates by their priorities, the highest one first. -/
def byPriority (a b : Candidate) : Ordering :=
  compareOption compare b.priority a.priority

instance : TransCmp byPriority :=
  transCmp_descending (f := compareOption compare) priority

instance (r : Resource) : TransCmp (rankFor r) :=
  match r with
  | .cpu => transCmp_descending (f := compare) cpuMillis
  | .memory => transCmp_descending (f := compare) memoryBytes
  | .diskIo | .networkRx | .networkTx => transCmp_descending (f := compareOption Utc.order) started

/-- The order of candidates is a total preorder, whatever resource signals. -/
instance (r : Resource) : TransCmp (rank r) :=
  inferInstanceAs <| TransCmp <| compareLex byPriority <|
    compareLex (compareOn fun c => c.qos.place) <|
      compareLex (rankFor r) (compareOn fun c => c.workload.path)

/-- A missing priority lies below all others. -/
def place (c : Candidate) : Nat :=
  (c.priority.map (· + 1)).getD 0

variable {a b m : Candidate} {r : Resource} {cs : List Candidate}

theorem isLE_byPriority_iff : (byPriority a b).isLE = true ↔ b.place ≤ a.place := by
  rw [byPriority, place, place]
  rcases a.priority with - | m <;> rcases b.priority with - | n <;>
    simp [compareOption, Nat.isLE_compare]

/-- Who comes first has the higher priority, or the same. -/
theorem place_le_of_isLE (h : (rank r a b).isLE = true) : b.place ≤ a.place := by
  rw [← isLE_byPriority_iff]
  exact (Ordering.isLE_then_iff_and.mp h).1

end Candidate

namespace Policy

variable {p : Policy} {r : Resource} {cs : List Candidate} {d : Decision}

theorem isEligible_iff {c : Candidate} :
    p.isEligible c = true ↔ c.terminated = false ∧ c.daemon = false ∧ c.mirror = false ∧
      c.critical = false ∧ c.workload.space ∉ p.protectedSpaces := by
  simp [isEligible, and_assoc]

theorem choose_eq_none_iff : p.choose r cs = none ↔ ∀ c ∈ cs, p.isEligible c = false := by
  simp [choose, Candidate.leastBy_eq_none_iff]

/-- The decision is about an eligible candidate that comes before all others. -/
theorem choose_spec (h : p.choose r cs = some d) :
    ∃ c ∈ cs, p.isEligible c = true ∧ d = p.decide r c ∧
      ∀ x ∈ cs, p.isEligible x = true → (Candidate.rank r c x).isLE = true := by
  obtain ⟨c, hc, rfl⟩ := Option.map_eq_some_iff.mp h
  obtain ⟨hmem, hle⟩ := (Candidate.contest_of_leastBy hc).foremost
  obtain ⟨hcs, heligible⟩ := List.mem_filter.mp hmem
  exact ⟨c, hcs, heligible, rfl, fun x hx hx' => hle x (List.mem_filter.mpr ⟨hx, hx'⟩)⟩

end Policy

end NodePressure
