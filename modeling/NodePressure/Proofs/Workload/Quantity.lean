import NodePressure.Proofs.Number.Digits
import NodePressure.Workload.Quantity

/-!
# NodePressure.Proofs.Workload.Quantity - amounts that can be read

Whatever text an amount is read of, it fits into 64 bits (`cpuMillisOf_le`, `withUnit_le`).
-/

namespace NodePressure

theorem Number.Parts.roundToWord_le_max64 (x : Parts) : x.roundToWord ≤ max64 := by
  match x with
  | .nan => exact Nat.zero_le _
  | .infinite negative => cases negative <;> simp [roundToWord]
  | .finite true _ _ => exact Nat.zero_le _
  | .finite false m (.ofNat q) =>
    rw [roundToWord]
    by_cases hm : m = 0
    · rw [if_pos hm]
      exact Nat.zero_le _
    · rw [if_neg hm]
      by_cases hq : 64 ≤ q
      · exact Nat.le_of_eq (if_pos hq)
      · rw [if_neg hq]
        exact Nat.min_le_right _ _
  | .finite false m (.negSucc q) => exact Nat.min_le_right _ _

theorem Number.roundToWord_le_max64 (x : Float) : roundToWord x ≤ max64 :=
  (parts x).roundToWord_le_max64

namespace Quantity

variable {s : List Char} {n : Nat}

theorem word?_le (h : word? s = some n) : n ≤ Number.max64 := by
  rw [word?] at h
  cases hread : Number.readUnsigned Number.max64 s with
  | error f => simp [hread, Except.toOption] at h
  | ok m =>
    obtain rfl : m = n := by simpa [hread, Except.toOption] using h
    exact Number.readUnsigned_le hread

theorem map_word?_le {unit : Nat} (h : (word? s).map (· / unit) = some n) : n ≤ Number.max64 := by
  obtain ⟨m, hm, rfl⟩ := Option.map_eq_some_iff.mp h
  exact Nat.le_trans (Nat.div_le_self m unit) (word?_le hm)

theorem cpuMillisOf_le (h : cpuMillisOf s = some n) : n ≤ Number.max64 := by
  rw [cpuMillisOf] at h
  cases hm : Text.dropSuffix? ['m'] (Text.trim s) with
  | some millis =>
    simp only [hm] at h
    exact word?_le h
  | none =>
    cases hu : Text.dropSuffix? ['u'] (Text.trim s) with
    | some micros =>
      simp only [hm, hu] at h
      exact map_word?_le h
    | none =>
      cases hn : Text.dropSuffix? ['n'] (Text.trim s) with
      | some nanos =>
        simp only [hm, hu, hn] at h
        exact map_word?_le h
      | none =>
        simp only [hm, hu, hn] at h
        obtain ⟨cores, -, h⟩ := Option.bind_eq_some_iff.mp h
        by_cases hnegative : cores < 0.0
        · rw [if_pos hnegative] at h
          cases h
        · rw [if_neg hnegative] at h
          exact Option.some_inj.mp h ▸ Number.roundToWord_le_max64 _

theorem scaled_le {value multiplier : Float} (h : scaled value multiplier = some n) :
    n ≤ Number.max64 := by
  simp only [scaled] at h
  split at h
  · cases h
  · exact Option.some_inj.mp h ▸ Number.roundToWord_le_max64 _

theorem withUnit_le {units : List (List Char × Nat)} (h : withUnit s units = some n) :
    n ≤ Number.max64 := by
  induction units with
  | nil =>
    obtain ⟨value, -, h⟩ := Option.bind_eq_some_iff.mp h
    exact scaled_le h
  | cons unit units ih =>
    obtain ⟨suffix, multiplier⟩ := unit
    rw [withUnit] at h
    cases hsuffix : Text.dropSuffix? suffix s with
    | some amount =>
      rw [hsuffix] at h
      obtain ⟨value, -, h⟩ := Option.bind_eq_some_iff.mp h
      exact scaled_le h
    | none =>
      rw [hsuffix] at h
      exact ih h

end Quantity

end NodePressure
