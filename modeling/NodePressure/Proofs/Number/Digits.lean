import NodePressure.Number.Digits

/-!
# NodePressure.Proofs.Number.Digits - numbers are read as they are written

`readUnsigned` undoes `digits` up to its limit (`readUnsigned_digits`). The induction is that of
`digits`, from the front, so reading has to be told what one more digit at the end does
(`readBounded_append_singleton`). What is read at all are the texts that spell a number up to the
limit (`readUnsigned_eq_ok_iff`), so nothing that is read lies above it (`readUnsigned_le`).
-/

namespace NodePressure.Number

variable {limit n : Nat} {excess : Fault}

theorem digit?_digitChar : ∀ n < 10, digit? (digitChar n) = some n := by decide

theorem exists_digitChar {c : Char} (h : isDigit c = true) : ∃ d < 10, c = digitChar d := by
  by_cases hrange : '0' ≤ c ∧ c ≤ '9'
  · have hlow : 48 ≤ c.toNat := hrange.1
    have hhigh : c.toNat ≤ 57 := hrange.2
    have hvalue : '0'.toNat + (c.toNat - 48) = c.toNat := by
      show 48 + (c.toNat - 48) = c.toNat
      omega
    refine ⟨c.toNat - 48, by omega, ?_⟩
    rw [digitChar, hvalue, Char.ofNat_toNat]
  · simp [isDigit, digit?, hrange] at h

theorem isDigit_of_mem_digits {c : Char} (h : c ∈ digits n) : isDigit c = true := by
  fun_induction digits n with
  | case1 n hn =>
    obtain rfl := List.mem_singleton.mp h
    simp [isDigit, digit?_digitChar n hn]
  | case2 n hn ih =>
    rcases List.mem_append.mp h with h | h
    · exact ih h
    · obtain rfl := List.mem_singleton.mp h
      simp [isDigit, digit?_digitChar (n % 10) (Nat.mod_lt n (by decide))]

theorem digits_ne_nil (n : Nat) : digits n ≠ [] := by
  unfold digits
  split <;> simp

theorem length_digits_le {k : Nat} (h : n < tenTo (k + 1)) : (digits n).length ≤ k + 1 := by
  fun_induction digits n generalizing k with
  | case1 n hn => exact Nat.le_add_left 1 k
  | case2 n hn ih =>
    rw [List.length_append, List.length_singleton]
    cases k with
    | zero => exact absurd h hn
    | succ k =>
      have hten : tenTo (k + 1 + 1) = tenTo (k + 1) * 10 := rfl
      rw [hten] at h
      have hrest : (digits (n / 10)).length ≤ k + 1 := ih (Nat.div_lt_of_lt_mul (by omega))
      omega

/-- What one more digit at the end does. -/
theorem readBounded_append_singleton {acc : Nat} {s : List Char} {c : Char} :
    readBounded limit excess acc (s ++ [c]) =
      (readBounded limit excess acc s).bind fun m => readBounded limit excess m [c] := by
  induction s generalizing acc with
  | nil => rfl
  | cons b s ih =>
    rw [List.cons_append, readBounded, readBounded]
    cases digit? b with
    | none => rfl
    | some d =>
      by_cases hd : acc * 10 + d ≤ limit
      · simp only [hd, if_true]
        exact ih
      · simp only [hd, if_false]
        rfl

theorem readBounded_digits (h : n ≤ limit) : readBounded limit excess 0 (digits n) = .ok n := by
  fun_induction digits n with
  | case1 n hn => simp [readBounded, digit?_digitChar n hn, h]
  | case2 n hn ih =>
    have hdigit : digit? (digitChar (n % 10)) = some (n % 10) :=
      digit?_digitChar (n % 10) (Nat.mod_lt n (by decide))
    have hsum : n / 10 * 10 + n % 10 = n := Nat.div_add_mod' n 10
    rw [readBounded_append_singleton, ih (by omega)]
    simp [Except.bind, readBounded, hdigit, hsum, h]

theorem readUnsigned_plus {s : List Char} (h : s ≠ []) :
    readUnsigned limit ('+' :: s) = readBounded limit .tooLarge 0 s := by
  cases s with
  | nil => exact absurd rfl h
  | cons c s => rfl

theorem readUnsigned_of_digits {s : List Char} (h : s ≠ []) (hs : ∀ c ∈ s, isDigit c = true) :
    readUnsigned limit s = readBounded limit .tooLarge 0 s := by
  have hplus : isDigit '+' = false := by decide
  unfold readUnsigned
  split <;> simp_all

/-- A number is read as it is written. -/
theorem readUnsigned_digits (h : n ≤ limit) : readUnsigned limit (digits n) = .ok n := by
  rw [readUnsigned_of_digits (digits_ne_nil n) fun c => isDigit_of_mem_digits,
    readBounded_digits h]

/-! ## What is read -/

/-- A text spells a number up to a limit: it has at least one digit, and nothing else but a plus
sign that may stand in front. -/
structure Spells (limit : Nat) (s : List Char) (n : Nat) : Prop where
  digits : ∃ ds, (s = ds ∨ s = '+' :: ds) ∧ ds ≠ [] ∧ (∀ c ∈ ds, isDigit c = true) ∧
    ofDigits 0 ds = n
  le : n ≤ limit

theorem le_ofDigits (acc : Nat) (s : List Char) : acc ≤ ofDigits acc s := by
  induction s generalizing acc with
  | nil => exact Nat.le_refl acc
  | cons c s ih =>
    refine Nat.le_trans ?_ (ih (acc * 10 + (digit? c).getD 0))
    omega

/-- Digits are read to the end, as long as the number stays below the limit. -/
theorem readBounded_eq_ok_iff {acc : Nat} {s : List Char} (hacc : acc ≤ limit) :
    readBounded limit excess acc s = .ok n ↔
      (∀ c ∈ s, isDigit c = true) ∧ ofDigits acc s = n ∧ n ≤ limit := by
  induction s generalizing acc with
  | nil =>
    simp only [readBounded, ofDigits, List.foldl_nil, Except.ok.injEq]
    constructor
    · rintro rfl
      exact ⟨nofun, rfl, hacc⟩
    · exact fun h => h.2.1
  | cons c s ih =>
    have hfirst : ofDigits acc (c :: s) = ofDigits (acc * 10 + (digit? c).getD 0) s := rfl
    rw [readBounded, List.forall_mem_cons, hfirst, isDigit]
    cases digit? c with
    | none => simp
    | some d =>
      by_cases hd : acc * 10 + d ≤ limit
      · simp [hd, ih hd]
      · -- what is too large with some digits stays so with more of them
        have hlarge := le_ofDigits (acc * 10 + d) s
        simp only [hd, if_false, Option.isSome_some, Option.getD_some, true_and]
        refine iff_of_false nofun ?_
        rintro ⟨-, rfl, hle⟩
        exact hd (Nat.le_trans hlarge hle)

/-- The numbers that are read are those that are spelled. -/
theorem readUnsigned_eq_ok_iff {s : List Char} :
    readUnsigned limit s = .ok n ↔ Spells limit s n := by
  have hbounded {r : List Char} : readBounded limit .tooLarge 0 r = .ok n ↔ _ :=
    readBounded_eq_ok_iff (Nat.zero_le limit)
  constructor
  · intro h
    unfold readUnsigned at h
    split at h
    · cases h
    · cases h
    · rename_i r hr
      obtain ⟨hdigits, hvalue, hle⟩ := hbounded.mp h
      exact ⟨⟨r, .inr rfl, fun hnil => hr (by rw [hnil]), hdigits, hvalue⟩, hle⟩
    · rename_i hnil _ _
      obtain ⟨hdigits, hvalue, hle⟩ := hbounded.mp h
      exact ⟨⟨s, .inl rfl, hnil, hdigits, hvalue⟩, hle⟩
  · rintro ⟨⟨ds, rfl | rfl, hne, hdigits, hvalue⟩, hle⟩
    · rw [readUnsigned_of_digits hne hdigits]
      exact hbounded.mpr ⟨hdigits, hvalue, hle⟩
    · rw [readUnsigned_plus hne]
      exact hbounded.mpr ⟨hdigits, hvalue, hle⟩

theorem readUnsigned_le {s : List Char} (h : readUnsigned limit s = .ok n) : n ≤ limit :=
  (readUnsigned_eq_ok_iff.mp h).le

/-- The digits of a number stand for it. -/
theorem ofDigits_digits (n : Nat) : ofDigits 0 (digits n) = n := by
  have hread : readBounded n .tooLarge 0 (digits n) = .ok n := readBounded_digits (Nat.le_refl n)
  exact ((readBounded_eq_ok_iff (Nat.zero_le n)).mp hread).2.1

theorem tenTo_add (m n : Nat) : tenTo (m + n) = tenTo m * tenTo n :=
  Nat.pow_add 10 m n

theorem digit?_le {c : Char} {d : Nat} (h : digit? c = some d) : d ≤ 9 := by
  unfold digit? at h
  split at h
  · rename_i hrange
    have hhigh : c.toNat ≤ 57 := hrange.2
    obtain rfl := Option.some.inj h
    show c.toNat - 48 ≤ 9
    omega
  · cases h

/-- So many digits do not get beyond so many nines. -/
theorem ofDigits_lt (acc : Nat) (s : List Char) : ofDigits acc s < (acc + 1) * tenTo s.length := by
  induction s generalizing acc with
  | nil =>
    show acc < (acc + 1) * 1
    omega
  | cons c s ih =>
    have hdigit : (digit? c).getD 0 ≤ 9 := by
      cases hc : digit? c with
      | none => exact Nat.zero_le 9
      | some d => exact digit?_le hc
    have hnext : acc * 10 + (digit? c).getD 0 + 1 ≤ (acc + 1) * 10 := by omega
    calc ofDigits acc (c :: s) = ofDigits (acc * 10 + (digit? c).getD 0) s := rfl
      _ < (acc * 10 + (digit? c).getD 0 + 1) * tenTo s.length := ih _
      _ ≤ (acc + 1) * 10 * tenTo s.length := Nat.mul_le_mul_right _ hnext
      _ = (acc + 1) * (tenTo s.length * 10) := by rw [Nat.mul_assoc, Nat.mul_comm 10]

/-- No digit follows a leading zero. -/
theorem eq_nil_of_digits {s : List Char} (h : digits n = '0' :: s) : s = [] := by
  fun_induction digits n generalizing s with
  | case1 n hn => exact (List.cons.inj h).2.symm
  | case2 n hn ih =>
    obtain ⟨c, t, ht⟩ := List.exists_cons_of_ne_nil (digits_ne_nil (n / 10))
    have hvalue := ofDigits_digits (n / 10)
    rw [ht, List.cons_append] at h
    obtain ⟨rfl, -⟩ := List.cons.inj h
    obtain rfl : t = [] := ih ht
    have hzero : ofDigits 0 (digits (n / 10)) = 0 := by rw [ht]; rfl
    omega

/-! ## Digits in front of a text -/

section Front

variable {ds r : List Char}

theorem takeWhile_digits_append (hds : ∀ c ∈ ds, isDigit c = true)
    (hr : ∀ c ∈ r.head?, isDigit c = false) : (ds ++ r).takeWhile isDigit = ds := by
  rw [List.takeWhile_append_of_pos hds]
  cases r with
  | nil => simp
  | cons c r => simp [hr c rfl]

theorem dropWhile_digits_append (hds : ∀ c ∈ ds, isDigit c = true)
    (hr : ∀ c ∈ r.head?, isDigit c = false) : (ds ++ r).dropWhile isDigit = r := by
  rw [List.dropWhile_append_of_pos hds]
  cases r with
  | nil => rfl
  | cons c r => simp [hr c rfl]

end Front

/-! ## Digits filled up with zeros -/

theorem isDigit_of_mem_padded {width : Nat} {c : Char} (h : c ∈ padded width n) :
    isDigit c = true := by
  rcases List.mem_append.mp h with h | h
  · obtain rfl := List.eq_of_mem_replicate h
    rfl
  · exact isDigit_of_mem_digits h

theorem ofDigits_padded (width n : Nat) : ofDigits 0 (padded width n) = n := by
  have hzeros (k : Nat) (s : List Char) :
      ofDigits 0 (List.replicate k '0' ++ s) = ofDigits 0 s := by
    induction k with
    | zero => rfl
    | succ k ih => exact ih
  exact (hzeros _ _).trans (ofDigits_digits n)

theorem length_padded {k : Nat} (h : n < tenTo (k + 1)) : (padded (k + 1) n).length = k + 1 := by
  have hle := length_digits_le h
  simp only [padded, List.length_append, List.length_replicate]
  omega

theorem padded_ne_nil (width n : Nat) : padded width n ≠ [] := by
  simp [padded, digits_ne_nil]

end NodePressure.Number
