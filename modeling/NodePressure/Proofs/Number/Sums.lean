import Mathlib.Algebra.Ring.Nat
import NodePressure.Number.Digits

/-!
# NodePressure.Proofs.Number.Sums - sums of 64 bits

Adding up with a cap gives the exact sum, capped once (`foldl_capAdd`); adding up as long as it fits
gives the exact sum if that fits, and nothing otherwise (`foldlM_add64?`).
-/

namespace NodePressure.Number

theorem capAdd_le_max64 (a b : Nat) : capAdd a b ≤ max64 :=
  Nat.min_le_right _ _

theorem foldl_capAdd {a : Nat} (h : a ≤ max64) (ns : List Nat) :
    ns.foldl capAdd a = min (a + ns.sum) max64 := by
  induction ns generalizing a with
  | nil => simp [h]
  | cons n ns ih =>
    rw [List.foldl_cons, ih (capAdd_le_max64 a n), List.sum_cons, capAdd]
    omega

/-- A sum that has left the 64 bits does not come back. -/
theorem foldlM_add64? {a : Nat} (h : a ≤ max64) (ns : List Nat) :
    ns.foldlM add64? a = if a + ns.sum ≤ max64 then some (a + ns.sum) else none := by
  induction ns generalizing a with
  | nil => simp [h]
  | cons n ns ih =>
    rw [List.foldlM_cons, List.sum_cons, add64?]
    by_cases hn : a + n ≤ max64
    · rw [if_pos hn, Option.bind_eq_bind, Option.bind_some, ih hn, Nat.add_assoc]
    · rw [if_neg hn, if_neg (by omega)]
      rfl

end NodePressure.Number
