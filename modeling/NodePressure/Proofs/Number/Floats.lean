import Mathlib
import NodePressure.Number.Binary

/-!
# NodePressure.Proofs.Number.Floats - signs and sizes of products

Floats are multiplied and compared unpacked, while `parts` reads their bits; `parts_eq` says that
both see the same number. Rounding keeps a number away from zero and below what is infinite
(`packed_round`). So a factor of at least one keeps signs, infinities and NaN (`grows_mul`), and
whole numbers of 64 bits are finite (`parts_ofNat`).
-/

namespace NodePressure.Number

open Float.Model (Format UnpackedFloat totalExponent)
open Float.Model.UnpackedFloat

variable {x y : Float} {m : Nat} {e : Int}

/-! ## What the bits stand for -/

/-- The number behind an unpacked float. -/
def Parts.ofUnpacked : UnpackedFloat → Parts
  | .notANumber => .nan
  | .infinity s => .infinite (s == .negative)
  | .zero s => .finite (s == .negative) 0 (-1074)
  | .finite s m e _ => .finite (s == .negative) m e

/-- The number behind the three fields of a float. -/
def Parts.ofFields (negative : Bool) (exponent mantissa : Nat) : Parts :=
  if exponent = 2047 then (if mantissa = 0 then .infinite negative else .nan)
  else if exponent = 0 then .finite negative mantissa (-1074)
  else .finite negative (mantissa + twoTo 52) ((exponent : Int) - 1075)

theorem sign_ofBitVec (b : BitVec 1) : (Sign.ofBitVec b == .negative) = (b.toNat == 1) := by
  revert b
  decide

theorem toNat_one_append (b : BitVec 52) : (1#1 ++ b).toNat = b.toNat + twoTo 52 := by
  have hsum := Nat.two_pow_add_eq_or_of_lt b.isLt 1
  rw [BitVec.toNat_append, Nat.add_comm]
  simpa [twoTo, Nat.one_shiftLeft] using hsum.symm

theorem ofUnpacked_unpack (b : BitVec 64) :
    Parts.ofUnpacked (unpack .binary64 b) =
      .ofFields (Sign.ofBitVec (@unpackSign .binary64 b) == .negative)
        (@unpackExponent .binary64 b).toNat (@unpackMantissa .binary64 b).toNat := by
  have hzero (k : Nat) (v : BitVec k) : v = 0#k ↔ v.toNat = 0 := by simp [← BitVec.toNat_inj]
  have hones :
      @unpackExponent .binary64 b = -1#_ ↔ (@unpackExponent .binary64 b).toNat = 2047 := by
    simp [← BitVec.toNat_inj]
  simp only [unpack, Parts.ofFields, hones, hzero]
  by_cases h1 : (@unpackExponent .binary64 b).toNat = 2047
  · rw [if_pos h1, if_pos h1]
    split <;> rfl
  · rw [if_neg h1, if_neg h1]
    by_cases h0 : (@unpackExponent .binary64 b).toNat = 0
    · rw [if_pos h0, if_pos h0]
      split <;> simp_all [Parts.ofUnpacked, Format.exponentBias]
    · rw [if_neg h0, if_neg h0]
      simp [Parts.ofUnpacked, toNat_one_append, Format.exponentBias]

theorem partsOfBits_eq (b : BitVec 64) :
    partsOfBits b.toNat = .ofUnpacked (unpack .binary64 b) := by
  have hmantissa : b.toNat % twoTo 52 = (@unpackMantissa .binary64 b).toNat := by
    simp [unpackMantissa_def, twoTo]
  have hexponent : b.toNat / twoTo 52 % twoTo 11 = (@unpackExponent .binary64 b).toNat := by
    simp [unpackExponent_def, twoTo, Nat.shiftRight_eq_div_pow]
  have hsign : b.toNat / twoTo 63 % 2 = (@unpackSign .binary64 b).toNat := by
    simp [unpackSign_def, twoTo, Nat.shiftRight_eq_div_pow]
  simp only [ofUnpacked_unpack, partsOfBits, Parts.ofFields, hmantissa, hexponent, hsign,
    sign_ofBitVec, beq_iff_eq]

/-- Bits and arithmetic see the same number. -/
theorem parts_eq (x : Float) : parts x = .ofUnpacked x.toModel.unpack :=
  partsOfBits_eq x.toBits.toBitVec

theorem le_exponent_of_parts {negative : Bool} (h : parts x = .finite negative m e) :
    -1074 ≤ e := by
  simp only [parts, partsOfBits] at h
  split at h
  · split at h <;> cases h
  · split at h
    · cases h
      exact Int.le_refl _
    · rename_i hzero
      cases h
      simp at hzero
      omega

theorem unpack_of_ofUnpacked {u : UnpackedFloat} (h : Parts.ofUnpacked u = .finite false m e)
    (hm : 0 < m) : u = .finite .positive m e hm := by
  cases u with
  | notANumber => cases h
  | infinity s => cases h
  | zero s =>
    injection h with _ hzero _
    omega
  | finite s n q hn =>
    cases s with
    | negative => cases h
    | positive =>
      cases h
      rfl

/-! ## Rounding -/

theorem shiftRight_mantissa (n : ExtendedMantissa) (k : Nat) :
    (n >>> k).mantissa = n.mantissa / 2 ^ k := by
  induction k with
  | zero => exact (Nat.div_one _).symm
  | succ k ih =>
    show (n >>> k).mantissa / 2 = _
    rw [ih, Nat.div_div_eq_div_mul, Nat.pow_succ]

theorem le_roundedMantissa (n : ExtendedMantissa) : n.mantissa ≤ n.roundedMantissa := by
  obtain ⟨n, r, s⟩ := n
  cases r <;> cases s <;> simp [ExtendedMantissa.roundedMantissa, ExtendedMantissa.accuracy,
    Accuracy.roundToNearestEven]

theorem roundedMantissa_le (n : ExtendedMantissa) : n.roundedMantissa ≤ n.mantissa + 1 := by
  obtain ⟨n, r, s⟩ := n
  cases r <;> cases s <;> simp [ExtendedMantissa.roundedMantissa, ExtendedMantissa.accuracy,
    Accuracy.roundToNearestEven]
  omega

/-- How many bits of a mantissa are rounded away: all but 53, and those below `2 ^ -1074`. -/
def excessBits (m : Nat) (e : Int) : Nat :=
  (max ((m.log2 : Int) - 52) (-1074 - e)).toNat

theorem shiftToTargetExponent_mantissa (m : Nat) (e : Int) :
    (shiftToTargetExponent .binary64 m e .exact).1.mantissa = m / 2 ^ excessBits m e := by
  have hshift :
      (Format.binary64.targetExponent (totalExponent m e) - e).toNat = excessBits m e := by
    simp only [Format.targetExponent, totalExponent, Format.mantissaBits, Format.minExponent,
      excessBits]
    omega
  rw [shiftToTargetExponent, shiftToExponent, hshift, shiftRight_mantissa]
  rfl

theorem shiftToTargetExponent_exponent (m : Nat) (e : Int) :
    (shiftToTargetExponent .binary64 m e .exact).2 = e + excessBits m e := by
  simp only [shiftToTargetExponent, shiftToExponent, Format.targetExponent, totalExponent,
    Format.mantissaBits, Format.minExponent, excessBits]
  omega

theorem div_two_pow_pos {k : Nat} (hm : m ≠ 0) (h : k ≤ m.log2) : 0 < m / 2 ^ k := by
  have hle : 2 ^ k ≤ m := (Nat.le_log2 hm).mp h
  exact Nat.div_pos hle (Nat.two_pow_pos k)

theorem div_two_pow_lt {k l : Nat} (hm : m ≠ 0) (h : m.log2 < k + l) : m / 2 ^ k < 2 ^ l := by
  have hlt : m < 2 ^ (k + l) := (Nat.log2_lt hm).mp h
  rw [Nat.pow_add] at hlt
  exact Nat.div_lt_of_lt_mul hlt

/-- What is at least `2 ^ -1074` is not rounded to zero, and rounding adds at most one bit. -/
theorem roundWithAccuracy_finite (s : Sign) (hm : m ≠ 0) (hlow : -1074 ≤ m.log2 + e) :
    ∃ n q hn, roundWithAccuracy .binary64 s m e .exact = .finite s n q hn ∧
      n < 2 ^ 53 ∧ -1074 ≤ q ∧ q ≤ max e (max (m.log2 + e - 51) (-1074)) := by
  have hkeep : excessBits m e ≤ m.log2 := by unfold excessBits; omega
  set first := shiftToTargetExponent .binary64 m e .exact with hfirst
  have hmantissa : first.1.mantissa = m / 2 ^ excessBits m e :=
    shiftToTargetExponent_mantissa m e
  have hexponent : first.2 = e + excessBits m e := shiftToTargetExponent_exponent m e
  set r := first.1.roundedMantissa with hr
  have hpos : 0 < r := by
    have hquotient := div_two_pow_pos hm hkeep
    have hle := le_roundedMantissa first.1
    omega
  have hlog : r.log2 ≤ m.log2 - excessBits m e + 1 := by
    have hquotient : m / 2 ^ excessBits m e < 2 ^ (m.log2 - excessBits m e + 1) :=
      div_two_pow_lt hm (by omega)
    have hle := roundedMantissa_le first.1
    have hlt : r < 2 ^ (m.log2 - excessBits m e + 2) := by
      rw [Nat.pow_succ]
      omega
    have := (Nat.log2_lt hpos.ne').mpr hlt
    omega
  -- only a carry can be left to the second shift
  have hq : -1074 ≤ first.2 := by rw [hexponent]; unfold excessBits; omega
  have hagain : excessBits r first.2 = r.log2 - 52 := by unfold excessBits; omega
  have hn : 0 < r / 2 ^ excessBits r first.2 := div_two_pow_pos hpos.ne' (by omega)
  refine ⟨r / 2 ^ excessBits r first.2, first.2 + excessBits r first.2, hn, ?_, ?_, ?_, ?_⟩
  · simp only [roundWithAccuracy, ← hfirst, ← hr, shiftToTargetExponent_mantissa,
      shiftToTargetExponent_exponent, hn.ne', dif_neg, not_false_eq_true]
  · exact div_two_pow_lt hpos.ne' (by omega)
  · omega
  · rw [hexponent] at *
    unfold excessBits at *
    omega

/-! ## Packing -/

/-- What is left of an unpacked float in 64 bits. -/
def Parts.packed (u : UnpackedFloat) : Parts :=
  .ofUnpacked (unpack .binary64 (pack .binary64 u))

theorem parts_ofModel_pack (u : UnpackedFloat) : parts (.ofModel (.pack u)) = .packed u :=
  parts_eq _

theorem packed_notANumber : Parts.packed .notANumber = .nan := by
  simp [Parts.packed, pack, Parts.ofUnpacked]

theorem packed_zero (s : Sign) : Parts.packed (.zero s) = .finite (s == .negative) 0 (-1074) := by
  simp [Parts.packed, pack, Parts.ofUnpacked]

theorem packed_infinity (s : Sign) : Parts.packed (.infinity s) = .infinite (s == .negative) := by
  simp [Parts.packed, pack, unpack, packedInfinity, Parts.ofUnpacked]

theorem ofUnpacked_packComponents (s : Sign) (exponent : BitVec 11) (mantissa : BitVec 52) :
    Parts.ofUnpacked (unpack .binary64 (packComponents .binary64 s exponent mantissa)) =
      .ofFields (s == .negative) exponent.toNat mantissa.toNat := by
  simp [ofUnpacked_unpack]

theorem pack_finite (s : Sign) (hm : 0 < m) (he : -1074 ≤ e) :
    pack .binary64 (.finite s m e hm) =
      if 971 < e then packComponents .binary64 s (-1#_) 0
      else if m.log2 = 52 then
        packComponents .binary64 s (BitVec.ofNat 11 (e + 1075).toNat) (BitVec.ofNat 52 m)
      else packComponents .binary64 s 0 (BitVec.ofNat 52 m) := by
  have hbias : e + Format.binary64.exponentBias + Format.binary64.mantissaBitsWithoutImplicit =
      e + 1075 := by
    show e + 1023 + 52 = _
    omega
  have hlarge : 2 ^ 11 ≤ (e + 1075).toNat + 1 ↔ 971 < e := by omega
  have hnormal : m.log2 + 1 = 1 + 52 ↔ m.log2 = 52 := by omega
  simp only [pack, hbias, hlarge, hnormal, Format.mantissaBits, packedInfinity]
  rfl

/-- A rounded number keeps its sign and stays away from zero; it is infinite from `2 ^ 1024` on. -/
theorem packed_finite (s : Sign) (hm : 0 < m) (hbound : m < 2 ^ 53) (he : -1074 ≤ e) :
    971 < e ∧ Parts.packed (.finite s m e hm) = .infinite (s == .negative) ∨
    e ≤ 971 ∧ ∃ n q, Parts.packed (.finite s m e hm) = .finite (s == .negative) n q ∧
      n ≠ 0 ∧ n < 2 ^ 53 ∧ -1074 ≤ q ∧ q ≤ e := by
  have hlog : m.log2 < 53 := (Nat.log2_lt hm.ne').mpr hbound
  rw [Parts.packed, pack_finite s hm he]
  by_cases hlarge : 971 < e
  · rw [if_pos hlarge, ofUnpacked_packComponents]
    exact .inl ⟨hlarge, rfl⟩
  · rw [if_neg hlarge]
    refine .inr ⟨Int.not_lt.mp hlarge, ?_⟩
    by_cases hnormal : m.log2 = 52
    · have hfield : (BitVec.ofNat 11 (e + 1075).toNat).toNat = (e + 1075).toNat := by
        rw [BitVec.toNat_ofNat]
        omega
      have hrest := (BitVec.ofNat 52 m).isLt
      have hone : twoTo 52 = 2 ^ 52 := rfl
      rw [if_pos hnormal, ofUnpacked_packComponents, hfield, Parts.ofFields, if_neg (by omega),
        if_neg (by omega)]
      refine ⟨_, _, rfl, ?_, ?_, by omega, by omega⟩ <;> omega
    · have hsmall : m < 2 ^ 52 := (Nat.log2_lt hm.ne').mp (by omega)
      rw [if_neg hnormal, ofUnpacked_packComponents, BitVec.toNat_ofNat, Nat.mod_eq_of_lt hsmall]
      exact ⟨m, -1074, rfl, hm.ne', hbound, Int.le_refl _, he⟩

/-- What is at least `2 ^ -1074` and well below `2 ^ 1024` stays a finite number. -/
theorem packed_round (s : Sign) (hm : m ≠ 0) (hlow : -1074 ≤ m.log2 + e) (he : e ≤ 971)
    (hhigh : m.log2 + e ≤ 1022) :
    ∃ n q, Parts.packed (roundWithAccuracy .binary64 s m e .exact) =
        .finite (s == .negative) n q ∧
      n ≠ 0 ∧ n < 2 ^ 53 ∧ -1074 ≤ q ∧ q ≤ max e (max (m.log2 + e - 51) (-1074)) := by
  obtain ⟨k, r, hk, hround, hbound, hr, hle⟩ := roundWithAccuracy_finite s hm hlow
  rw [hround]
  rcases packed_finite s hk hbound hr with ⟨hlarge, -⟩ | ⟨-, n, q, h, hn, hsmall, hleast, hq⟩
  · omega
  · exact ⟨n, q, h, hn, hsmall, hleast, by omega⟩

/-! ## Signs -/

/-- A number other than zero of the given sign. -/
def Parts.HasSign (negative : Bool) : Parts → Prop
  | .nan => False
  | .infinite s => s = negative
  | .finite s m _ => s = negative ∧ m ≠ 0

/-- A number of at least one. -/
def Parts.IsFactor : Parts → Prop
  | .finite negative m q => negative = false ∧ m ≠ 0 ∧ 0 ≤ m.log2 + q
  | _ => False

instance (x : Parts) : Decidable x.IsFactor :=
  match x with
  | .nan => isFalse id
  | .infinite _ => isFalse id
  | .finite negative m q =>
    inferInstanceAs (Decidable (negative = false ∧ m ≠ 0 ∧ 0 ≤ m.log2 + q))

/-- What a factor of at least one makes of a number: its sign stays, and what is zero, infinite or
undefined stays so. -/
def Parts.Grows : Parts → Parts → Prop
  | .finite negative m _, y => if m = 0 then y = .finite negative 0 (-1074) else y.HasSign negative
  | x, y => y = x

theorem lt_zero_iff : x < 0.0 ↔ (parts x).HasSign true := by
  have hzero : (0.0 : Float).toModel.unpack = .zero .positive := rfl
  have hlt : x < 0.0 ↔ x.toModel.unpack.lt (.zero .positive) = true := by
    rw [← hzero]
    exact decide_eq_true_iff
  rw [hlt, parts_eq]
  cases x.toModel.unpack with
  | notANumber => simp [UnpackedFloat.lt, UnpackedFloat.compare, Parts.ofUnpacked, Parts.HasSign]
  | infinity s =>
    cases s <;> simp [UnpackedFloat.lt, UnpackedFloat.compare, Parts.ofUnpacked, Parts.HasSign]
  | zero s => simp [UnpackedFloat.lt, UnpackedFloat.compare, Parts.ofUnpacked, Parts.HasSign]
  | finite s m e hm =>
    cases s <;>
      simp [UnpackedFloat.lt, UnpackedFloat.compare, Parts.ofUnpacked, Parts.HasSign, hm.ne']

theorem mul_positive (s : Sign) : s * .positive = s := by
  cases s <;> rfl

theorem log2_le_log2_mul {n : Nat} (hn : n ≠ 0) (hm : m ≠ 0) : m.log2 ≤ (n * m).log2 := by
  have hle : 2 ^ m.log2 ≤ n * m :=
    (Nat.log2_self_le hm).trans (Nat.le_mul_of_pos_left m (Nat.pos_of_ne_zero hn))
  exact (Nat.le_log2 (Nat.mul_ne_zero hn hm)).mpr hle

theorem hasSign_packed_round (s : Sign) (hm : m ≠ 0) (hlow : -1074 ≤ m.log2 + e) :
    (Parts.packed (roundWithAccuracy .binary64 s m e .exact)).HasSign (s == .negative) := by
  obtain ⟨k, r, hk, hround, hbound, hr, -⟩ := roundWithAccuracy_finite s hm hlow
  rw [hround]
  rcases packed_finite s hk hbound hr with ⟨-, h⟩ | ⟨-, n, q, h, hn, -⟩
  · rw [h]
    rfl
  · rw [h]
    exact ⟨rfl, hn⟩

theorem exists_unpack_of_isFactor (h : (parts y).IsFactor) :
    ∃ m q hm, y.toModel.unpack = .finite .positive m q hm ∧ 0 ≤ m.log2 + q := by
  cases hy : parts y with
  | nan | infinite _ =>
    rw [hy] at h
    exact h.elim
  | finite negative m q =>
    rw [hy] at h
    obtain ⟨rfl, hm, hone⟩ := h
    have hpos := Nat.pos_of_ne_zero hm
    exact ⟨m, q, hpos, unpack_of_ofUnpacked ((parts_eq y).symm.trans hy) hpos, hone⟩

theorem grows_mul (x : Float) (hy : (parts y).IsFactor) : (parts x).Grows (parts (x * y)) := by
  obtain ⟨m, q, hm, hy, hone⟩ := exists_unpack_of_isFactor hy
  have hproduct : parts (x * y) =
      .packed (mul .binary64 x.toModel.unpack (.finite .positive m q hm)) := by
    rw [← hy]
    exact parts_ofModel_pack _
  rw [hproduct, parts_eq]
  cases hx : x.toModel.unpack with
  | notANumber => exact packed_notANumber
  | infinity s =>
    show Parts.packed (.infinity (s * .positive)) = _
    rw [mul_positive, packed_infinity]
    rfl
  | zero s =>
    show Parts.packed (.zero (s * .positive)) = _
    rw [mul_positive, packed_zero]
  | finite s n e hn =>
    have he : -1074 ≤ e := by
      have hparts : parts x = .ofUnpacked (.finite s n e hn) := by rw [parts_eq, hx]
      exact le_exponent_of_parts hparts
    have hlog := log2_le_log2_mul hn.ne' hm.ne'
    simp only [Parts.ofUnpacked, Parts.Grows, if_neg hn.ne', mul, mul_positive]
    exact hasSign_packed_round s (Nat.mul_ne_zero hn.ne' hm.ne') (by omega)

/-! ## Whole numbers -/

theorem log2_mul_two_pow (hm : m ≠ 0) (k : Nat) : (m * 2 ^ k).log2 = m.log2 + k := by
  induction k with
  | zero => simp
  | succ k ih =>
    have hdouble : m * 2 ^ (k + 1) = 2 * (m * 2 ^ k) := by ring
    rw [hdouble, Nat.log2_two_mul (Nat.mul_ne_zero hm (Nat.two_pow_pos k).ne'), ih, Nat.add_assoc]

theorem round_of_lt (hm : m < 2 ^ 53) (hne : m ≠ 0) :
    round .binary64 .positive m 0 = roundWithAccuracy .binary64 .positive
      (m * 2 ^ (52 - m.log2)) (-(52 - m.log2 : Nat)) .exact := by
  have hlog : m.log2 < 53 := (Nat.log2_lt hne).mpr hm
  have hshift :
      (0 - Format.binary64.targetExponent (totalExponent m 0)).toNat = 52 - m.log2 := by
    simp only [Format.targetExponent, totalExponent, Format.mantissaBits, Format.minExponent]
    omega
  rw [UnpackedFloat.round, decreaseExponent, hshift, Nat.shiftLeft_eq, Int.zero_sub]

theorem toFloat_eq (hm : m ≠ 0) (h : m < 2 ^ 64) :
    m.toUInt64.toFloat = .ofModel (.pack (round .binary64 .positive m 0)) := by
  have hword : m.toUInt64.toNat = m := Nat.mod_eq_of_lt h
  have hsign : compare (m : Int) 0 = .gt := Int.compare_eq_gt.mpr (by omega)
  show Float.ofModel (.pack (UnpackedFloat.normalize .binary64 m.toUInt64.toNat 0 .positive)) = _
  rw [hword, UnpackedFloat.normalize, hsign]
  rfl

theorem ofScientific_zero (hm : m ≠ 0) :
    ofScientific .binary64 m 0 =
      roundWithAccuracy .binary64 .positive (m * 2 ^ 53) (-53) .exact := by
  have hlow : ¬ (0 : Int) < -((2 ^ 11 : Int) + m.log2) := by omega
  rw [ofScientific, dif_neg hm, if_neg (by decide), if_neg hlow, if_pos (by decide)]
  show roundWithAccuracy .binary64 .positive (m <<< 53 * 1) (-53 + 0) .exact = _
  rw [Nat.mul_one, Int.add_zero, Nat.shiftLeft_eq]

/-- Whole numbers of 64 bits are finite. -/
theorem parts_ofNat (hm : m ≠ 0) (h : m < 2 ^ 64) :
    ∃ n q, parts (ofNat m) = .finite false n q := by
  by_cases hsmall : m < 2 ^ 53
  · -- small ones are converted and then multiplied by one
    have hone : (1.0 : Float).toModel.unpack = .finite .positive (2 ^ 52) (-52) (by decide) := rfl
    have hof : ofNat m = m.toUInt64.toFloat * 1.0 := by
      rw [ofNat, Float.ofScientific, dif_pos ⟨hsmall, by decide⟩]
      rfl
    have hproduct : parts (ofNat m) = .packed (mul .binary64
        (unpack .binary64 (pack .binary64 (round .binary64 .positive m 0)))
        (.finite .positive (2 ^ 52) (-52) (by decide))) := by
      rw [hof, toFloat_eq hm h, ← hone]
      exact parts_ofModel_pack _
    have hlog : m.log2 < 53 := (Nat.log2_lt hm).mpr hsmall
    have hshifted := log2_mul_two_pow hm (52 - m.log2)
    have hlow : -1074 ≤ ((m * 2 ^ (52 - m.log2)).log2 : Int) + -((52 - m.log2 : Nat) : Int) := by
      omega
    obtain ⟨n, q, hfirst, hn, hlt, hleast, hq⟩ := packed_round .positive
      (Nat.mul_ne_zero hm (Nat.two_pow_pos (52 - m.log2)).ne') hlow (by omega) (by omega)
    rw [← round_of_lt hsmall hm] at hfirst
    have hnlog : n.log2 < 53 := (Nat.log2_lt hn).mpr hlt
    have hscaled := log2_mul_two_pow hn 52
    obtain ⟨k, r, hsecond, -⟩ := packed_round .positive
      (Nat.mul_ne_zero hn (Nat.two_pow_pos 52).ne')
      (by omega : -1074 ≤ (n * 2 ^ 52).log2 + (q + -52)) (by omega) (by omega)
    rw [hproduct, unpack_of_ofUnpacked hfirst (Nat.pos_of_ne_zero hn)]
    exact ⟨k, r, hsecond⟩
  · have hof : ofNat m = .ofModel (.pack (ofScientific .binary64 m 0)) := by
      rw [ofNat, Float.ofScientific, dif_neg fun hfast => hsmall hfast.1]
      rfl
    have hlog : m.log2 < 64 := (Nat.log2_lt hm).mpr h
    have hshifted := log2_mul_two_pow hm 53
    obtain ⟨k, r, hround, -⟩ := packed_round .positive
      (Nat.mul_ne_zero hm (Nat.two_pow_pos 53).ne')
      (by omega : -1074 ≤ (m * 2 ^ 53).log2 + -53) (by omega) (by omega)
    rw [hof, ofScientific_zero hm, parts_ofModel_pack]
    exact ⟨k, r, hround⟩

end NodePressure.Number
