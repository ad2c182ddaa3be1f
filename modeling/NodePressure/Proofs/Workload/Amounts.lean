import NodePressure.Proofs.Number.Digits
import NodePressure.Proofs.Number.Floats
import NodePressure.Workload.Quantity

/-!
# NodePressure.Proofs.Workload.Amounts - which texts are amounts

An amount is a number in front of a unit (`Parted`), finite and not negative (`Fit`). Memory keeps
to that, and to what is still finite in bytes. CPU without a unit does not: it takes NaN for zero
and infinity for the greatest amount (`unfit_amounts`).
-/

namespace NodePressure

/-- A finite number that is not negative; minus zero counts as zero. -/
def Number.Parts.IsAmount : Parts → Prop
  | .finite negative m _ => negative = true → m = 0
  | _ => False

namespace Quantity

variable {s number : List Char} {unit : Option Nat}

/-! ## Numbers and units -/

/-- The suffixes of amounts of CPU with the parts of a thousandth of a core they stand for. -/
def smallUnits : List (List Char × Nat) :=
  [(['m'], 1), (['u'], 1000), (['n'], 1000000)]

/-- A text is a number with a unit behind it, or ends in none of the units. -/
inductive Parted (units : List (List Char × Nat)) : List Char → List Char → Option Nat → Prop
  | unit {number suffix : List Char} {k : Nat} (h : (suffix, k) ∈ units) :
    Parted units (number ++ suffix) number (some k)
  | plain {number : List Char} (h : ∀ u ∈ units, ¬ u.1 <:+ number) :
    Parted units number number none

/-- The number that a text stands for, if it is one. -/
def value (number : List Char) : Option Number.Parts :=
  (Number.readFloat number).map Number.parts

/-- A text stands for a number that can be an amount. -/
def Fit (number : List Char) : Prop :=
  ∃ x, value number = some x ∧ x.IsAmount

/-- A number of the given unit is too large for a float. -/
def Overflows (number : List Char) (unit : Nat) : Prop :=
  ∃ x, Number.readFloat number = some x ∧ Number.isFinite (x * Number.ofNat unit) = false

/-- Every text has a number and a unit. -/
theorem exists_parted (units : List (List Char × Nat)) (s : List Char) :
    ∃ number unit, Parted units s number unit := by
  by_cases h : ∃ u ∈ units, u.1 <:+ s
  · obtain ⟨⟨suffix, k⟩, hu, number, rfl⟩ := h
    exact ⟨number, some k, .unit hu⟩
  · exact ⟨s, none, .plain fun u hu hs => h ⟨u, hu, hs⟩⟩

theorem dropSuffix?_eq_some_iff {p : List Char} :
    Text.dropSuffix? p s = some number ↔ s = number ++ p := by
  rw [Text.dropSuffix?, Option.map_eq_some_iff]
  simp only [Text.dropPrefix?_eq_some_iff]
  constructor
  · rintro ⟨r, hr, rfl⟩
    rw [← List.reverse_reverse s, hr, List.reverse_append, List.reverse_reverse]
  · rintro rfl
    exact ⟨number.reverse, List.reverse_append, List.reverse_reverse number⟩

theorem dropSuffix?_eq_none {p : List Char} (h : ¬ p <:+ s) : Text.dropSuffix? p s = none := by
  rw [Option.eq_none_iff_forall_ne_some]
  intro r hr
  exact h ⟨r, (dropSuffix?_eq_some_iff.mp hr).symm⟩

/-! ## Memory -/

/-- No suffix of a table ends another one, so a text ends in one of them at most. -/
def Apart (units : List (List Char × Nat)) : Prop :=
  units.Pairwise fun u v => ¬ u.1 <:+ v.1 ∧ ¬ v.1 <:+ u.1

theorem apart_units : Apart units := by
  unfold Apart
  decide

theorem withUnit_of_parted {units : List (List Char × Nat)} (hapart : Apart units)
    (h : Parted units s number unit) :
    withUnit s units =
      (Number.readFloat number).bind fun x => scaled x (Number.ofNat (unit.getD 1)) := by
  induction units with
  | nil =>
    cases h with
    | unit h => cases h
    | plain h => rfl
  | cons u units ih =>
    obtain ⟨suffix, multiplier⟩ := u
    obtain ⟨hhead, htail⟩ := List.pairwise_cons.mp hapart
    rw [withUnit]
    cases h with
    | plain h =>
      rw [dropSuffix?_eq_none (h _ List.mem_cons_self)]
      exact ih htail (.plain fun v hv => h v (List.mem_cons_of_mem _ hv))
    | @unit number other k h =>
      rcases List.mem_cons.mp h with h | h
      · cases h
        rw [dropSuffix?_eq_some_iff.mpr rfl]
        rfl
      · -- of two suffixes of one text the shorter one would end the other
        have hnot : ¬ suffix <:+ number ++ other := by
          intro hends
          have hown := List.suffix_append number other
          rcases List.suffix_or_suffix_of_suffix hends hown with hs | hs
          · exact (hhead _ h).1 hs
          · exact (hhead _ h).2 hs
        rw [dropSuffix?_eq_none hnot]
        exact ih htail (.unit h)

theorem isFactor_unit (h : Parted units s number unit) :
    (Number.parts (Number.ofNat (unit.getD 1))).IsFactor := by
  have hall : ∀ u ∈ units, (Number.parts (Number.ofNat u.2)).IsFactor := by decide +kernel
  cases h with
  | @unit _ suffix k h =>
    rw [Option.getD_some]
    exact hall (suffix, k) h
  | plain =>
    rw [Option.getD_none]
    decide +kernel

theorem isFinite_iff {x : Float} :
    Number.isFinite x = true ↔ ∃ negative m q, Number.parts x = .finite negative m q := by
  unfold Number.isFinite
  cases Number.parts x <;> simp

theorem scaled_eq_none_iff {x k : Float} (hk : (Number.parts k).IsFactor) :
    scaled x k = none ↔ ¬ (Number.parts x).IsAmount ∨ Number.isFinite (x * k) = false := by
  have hgrows := Number.grows_mul x hk
  have hnone : scaled x k = none ↔
      (Number.parts (x * k)).HasSign true ∨ Number.isFinite (x * k) = false := by
    rw [← Number.lt_zero_iff]
    cases hfinite : Number.isFinite (x * k) <;> simp [scaled, hfinite]
  rw [hnone]
  by_cases hfinite : Number.isFinite (x * k) = true
  · obtain ⟨negative, m, q, hproduct⟩ := isFinite_iff.mp hfinite
    simp only [hfinite, Bool.true_eq_false, or_false, hproduct]
    rw [hproduct] at hgrows
    cases hx : Number.parts x with
    | nan =>
      rw [hx] at hgrows
      cases hgrows
    | infinite s =>
      rw [hx] at hgrows
      cases hgrows
    | finite s n e =>
      rw [hx, Number.Parts.Grows] at hgrows
      by_cases hn : n = 0
      · rw [if_pos hn] at hgrows
        cases hgrows
        simp [Number.Parts.HasSign, Number.Parts.IsAmount, hn]
      · rw [if_neg hn] at hgrows
        obtain ⟨rfl, hm⟩ := hgrows
        simp [Number.Parts.HasSign, Number.Parts.IsAmount, hn, hm]
  · simp [hfinite]

theorem fit_iff {x : Float} (h : Number.readFloat number = some x) :
    Fit number ↔ (Number.parts x).IsAmount := by
  simp [Fit, value, h]

theorem memoryBytesOf_eq_none_iff (h : Parted units (Text.trim s) number unit) :
    memoryBytesOf s = none ↔ ¬ Fit number ∨ Overflows number (unit.getD 1) := by
  rw [memoryBytesOf, withUnit_of_parted apart_units h]
  cases hread : Number.readFloat number with
  | none => simp [Fit, value, hread]
  | some x =>
    rw [Option.bind_some, scaled_eq_none_iff (isFactor_unit h), fit_iff hread]
    simp [Overflows, hread]

/-! ## CPU -/

theorem readMagnitude_of_digits (hne : number ≠ []) (h : ∀ c ∈ number, Number.isDigit c = true) :
    Number.readMagnitude number = some (.decimal (Number.ofDigits 0 number) 0) := by
  have htake : number.takeWhile Number.isDigit = number := List.takeWhile_eq_self_iff.mpr h
  have hdrop : number.dropWhile Number.isDigit = [] := List.dropWhile_eq_nil_iff.mpr h
  have hword (w : List Char) (hw : ∀ d < 10, w.head? ≠ some (Number.digitChar d).toLower) :
      (number.map Char.toLower == w) = false := by
    obtain ⟨c, r, rfl⟩ := List.exists_cons_of_ne_nil hne
    obtain ⟨d, hd, rfl⟩ := Number.exists_digitChar (h c List.mem_cons_self)
    rw [beq_eq_false_iff_ne]
    rintro rfl
    exact hw d hd rfl
  have hinf := hword "inf".toList (by decide)
  have hinfinity := hword "infinity".toList (by decide)
  have hnan := hword "nan".toList (by decide)
  have hnumber : number.isEmpty = false := List.isEmpty_eq_false_iff.mpr hne
  unfold Number.readMagnitude
  simp only [hinf, hinfinity, hnan, htake, hdrop, hnumber]
  rfl

theorem readFloat_of_digits (hne : number ≠ []) (h : ∀ c ∈ number, Number.isDigit c = true) :
    Number.readFloat number = some (Number.ofDecimal (Number.ofDigits 0 number) 0) := by
  have hsign : ∀ d < 10, Number.digitChar d ≠ '-' ∧ Number.digitChar d ≠ '+' := by decide
  have hmagnitude := readMagnitude_of_digits hne h
  obtain ⟨c, r, rfl⟩ := List.exists_cons_of_ne_nil hne
  obtain ⟨d, hd, rfl⟩ := Number.exists_digitChar (h c List.mem_cons_self)
  unfold Number.readFloat
  split
  · rename_i heq
    exact absurd (List.cons.inj heq).1 (hsign d hd).1
  · rename_i heq
    exact absurd (List.cons.inj heq).1 (hsign d hd).2
  · rw [hmagnitude]
    rfl

theorem parts_ofDecimal {n : Nat} (h : n ≤ Number.max64) :
    ∃ m q, Number.parts (Number.ofDecimal n 0) = .finite false m q := by
  by_cases hn : n = 0
  · subst hn
    exact ⟨0, -1074, rfl⟩
  · have hlength : (Number.digits n).length ≤ 20 :=
      Number.length_digits_le (Nat.lt_of_le_of_lt h (by decide))
    have hlarge : ¬ (0 : Int) + (Number.digits n).length > 310 := by omega
    have hsmall : ¬ (0 : Int) + (Number.digits n).length < -330 := by omega
    have hof : Number.ofDecimal n 0 = Number.ofNat n := by
      simp only [Number.ofDecimal, if_neg hn, if_neg hlarge, if_neg hsmall]
      rfl
    rw [hof]
    exact Number.parts_ofNat hn (Nat.lt_of_le_of_lt h (by decide))

/-- Natural numbers of 64 bits can be amounts. -/
theorem fit_of_spells {n : Nat} (h : Number.Spells Number.max64 number n) : Fit number := by
  obtain ⟨ds, hnumber, hne, hdigits, rfl⟩ := h.digits
  have hread : Number.readFloat number = some (Number.ofDecimal (Number.ofDigits 0 ds) 0) := by
    rcases hnumber with rfl | rfl
    · exact readFloat_of_digits hne hdigits
    · rw [Number.readFloat, readMagnitude_of_digits hne hdigits]
      rfl
  obtain ⟨m, q, hparts⟩ := parts_ofDecimal h.le
  rw [fit_iff hread, hparts]
  exact nofun

theorem word?_eq_none (h : ¬ Fit number) : word? number = none := by
  cases hread : Number.readUnsigned Number.max64 number with
  | error f =>
    rw [word?, hread]
    rfl
  | ok n => exact absurd (fit_of_spells (Number.readUnsigned_eq_ok_iff.mp hread)) h

theorem cpuMillisOf_of_unit {suffix : List Char} {k : Nat} (h : (suffix, k) ∈ smallUnits)
    (hs : Text.trim s = number ++ suffix) : cpuMillisOf s = (word? number).map (· / k) := by
  have hself (c : Char) : Text.dropSuffix? [c] (number ++ [c]) = some number :=
    dropSuffix?_eq_some_iff.mpr rfl
  have hother (c d : Char) (hcd : c ≠ d) : Text.dropSuffix? [d] (number ++ [c]) = none := by
    refine dropSuffix?_eq_none fun ⟨r, hr⟩ => hcd ?_
    have hlast := congrArg List.getLast? hr
    simpa using hlast.symm
  simp only [smallUnits, List.mem_cons, List.not_mem_nil, or_false, Prod.mk.injEq] at h
  rcases h with ⟨rfl, rfl⟩ | ⟨rfl, rfl⟩ | ⟨rfl, rfl⟩
  · simp [cpuMillisOf, hs, hself]
  · simp [cpuMillisOf, hs, hself, hother]
  · simp [cpuMillisOf, hs, hself, hother]

theorem cpuMillisOf_of_plain (h : ∀ u ∈ smallUnits, ¬ u.1 <:+ Text.trim s) :
    cpuMillisOf s = (Number.readFloat (Text.trim s)).bind fun x =>
      if x < 0.0 then none else some (Number.roundToWord (x * 1000.0)) := by
  simp only [smallUnits, List.forall_mem_cons] at h
  obtain ⟨hm, hu, hn, -⟩ := h
  simp only [cpuMillisOf, dropSuffix?_eq_none hm, dropSuffix?_eq_none hu, dropSuffix?_eq_none hn]
  rfl

/-- What a text is taken for that is no amount of CPU. -/
def unfitMillis : Option Nat → Option Number.Parts → Option Nat
  | none, some .nan => some 0
  | none, some (.infinite false) => some Number.max64
  | _, _ => none

theorem cpuMillisOf_of_unfit (h : Parted smallUnits (Text.trim s) number unit)
    (hunfit : ¬ Fit number) : cpuMillisOf s = unfitMillis unit (value number) := by
  generalize htrim : Text.trim s = t at h
  cases h with
  | @unit _ suffix k h =>
    rw [cpuMillisOf_of_unit h htrim, word?_eq_none hunfit]
    rfl
  | plain h =>
    subst htrim
    rw [cpuMillisOf_of_plain h]
    cases hread : Number.readFloat (Text.trim s) with
    | none => simp [value, hread, unfitMillis]
    | some x =>
      -- the thousandfold is NaN, infinite or negative exactly if the number is
      have hgrows := Number.grows_mul x (by decide +kernel : (Number.parts 1000.0).IsFactor)
      have hsign : x < 0.0 ↔ (Number.parts x).HasSign true := Number.lt_zero_iff
      rw [fit_iff hread] at hunfit
      simp only [Option.bind_some, value, hread, Option.map_some, Number.roundToWord]
      cases hx : Number.parts x with
      | nan =>
        rw [hx] at hgrows hsign
        have hproduct : Number.parts (x * 1000.0) = .nan := hgrows
        rw [if_neg hsign.mp, hproduct]
        rfl
      | infinite negative =>
        rw [hx] at hgrows hsign
        have hproduct : Number.parts (x * 1000.0) = .infinite negative := hgrows
        cases negative with
        | false =>
          rw [if_neg fun hlt => Bool.false_ne_true (hsign.mp hlt), hproduct]
          rfl
        | true =>
          rw [if_pos (hsign.mpr rfl)]
          rfl
      | finite negative m q =>
        rw [hx] at hunfit hsign
        have hnegative : negative = true ∧ m ≠ 0 := by
          simpa [Number.Parts.IsAmount] using hunfit
        rw [if_pos (hsign.mpr hnegative)]
        rfl

/-! ## What is no amount -/

/-- **Memory that is no amount is refused, CPU only with a unit or a sign.** A text has no amount of
memory exactly if its number is missing, NaN, infinite or negative or its bytes are too many for a
float. With such a number it has no amount of CPU either, unless no unit ends it: then NaN counts
as zero and infinity as the greatest amount. This says something about every text, since each one
has a number and a unit (`exists_parted`). -/
theorem unfit_amounts {text : String} {bytes millis : List Char} {unit part : Option Nat}
    (hbytes : Parted units (Text.trim text.toList) bytes unit)
    (hmillis : Parted smallUnits (Text.trim text.toList) millis part) :
    (memoryBytes text = none ↔ ¬ Fit bytes ∨ Overflows bytes (unit.getD 1)) ∧
      (¬ Fit millis → cpuMillis text = unfitMillis part (value millis)) :=
  ⟨memoryBytesOf_eq_none_iff hbytes, cpuMillisOf_of_unfit hmillis⟩

/-- The bytes of `2e300Ei` are too many, though the number in front of the unit is not. -/
theorem unfit_amounts_of_exbibytes :
    memoryBytes " 2e300Ei" = none ∧ cpuMillis " 2e300Ei" = none := by
  have htrim : Text.trim " 2e300Ei".toList = "2e300".toList ++ ['E', 'i'] := by decide
  have hbytes : Parted units (Text.trim " 2e300Ei".toList) "2e300".toList
      (some (Number.twoTo 60)) := by
    rw [htrim]
    exact .unit (by decide)
  have hmillis : Parted smallUnits (Text.trim " 2e300Ei".toList) "2e300Ei".toList none :=
    .plain (by decide)
  obtain ⟨hmemory, hcpu⟩ := unfit_amounts hbytes hmillis
  refine ⟨hmemory.mpr (.inr ⟨_, rfl, by decide +kernel⟩), hcpu ?_⟩
  rintro ⟨x, hx, -⟩
  cases hx

theorem endless_cpu_is_accepted :
    value "inf".toList = some (.infinite false) ∧ cpuMillis "inf" = some Number.max64 ∧
      memoryBytes "inf" = none ∧ value "NaN".toList = some .nan ∧ cpuMillis "NaN" = some 0 := by
  decide +kernel

end Quantity

end NodePressure
