import Mathlib.Data.String.Basic
import NodePressure.Text.Utf8

/-!
# NodePressure.Proofs.Text.Utf8 - texts and their bytes

UTF-8 keeps order: texts compare by their characters as they do by their bytes
(`encode_lt_encode_iff`). Between two characters the first byte that differs decides, and it is
the smaller one of the smaller code point (`encodeChar_append_lt`). And a text is read back from its
bytes (`decode_encode`), one character after the other (`decodeOne_encodeChar`).
-/

namespace NodePressure.Text

variable {c d : Char} {s t : List Char}

theorem toNat_lt_of_lt (h : c < d) : c.toNat < d.toNat :=
  h

/-- The bytes of the smaller character come first, whatever follows on either side. -/
theorem encodeChar_append_lt (h : c < d) (x y : List Nat) :
    encodeChar c ++ x < encodeChar d ++ y := by
  have hcd := toNat_lt_of_lt h
  unfold encodeChar
  dsimp only
  generalize c.toNat = m at *
  generalize d.toNat = n at *
  split_ifs <;> simp only [List.cons_append, List.nil_append, List.cons_lt_cons_iff] <;> omega

theorem encode_cons (c : Char) (s : List Char) : encode (c :: s) = encodeChar c ++ encode s :=
  rfl

theorem encodeChar_ne_nil (c : Char) : encodeChar c ≠ [] := by
  unfold encodeChar
  dsimp only
  split_ifs <;> simp

/-- The smaller text has the smaller bytes. -/
theorem encode_lt_encode (h : s < t) : encode s < encode t := by
  induction s generalizing t with
  | nil =>
    obtain - | ⟨d, t⟩ := t
    · exact absurd h (List.not_lt_nil [])
    · rw [encode_cons]
      obtain ⟨b, r, hbr⟩ := List.exists_cons_of_ne_nil (encodeChar_ne_nil d)
      rw [hbr]
      exact List.nil_lt_cons b _
  | cons c s ih =>
    obtain - | ⟨d, t⟩ := t
    · exact absurd h (List.not_lt_nil (c :: s))
    · rw [encode_cons, encode_cons]
      obtain hcd | ⟨rfl, hst⟩ := List.cons_lt_cons_iff.mp h
      · exact encodeChar_append_lt hcd _ _
      · exact List.append_left_lt (ih hst)

/-- **Texts and their bytes are in the same order.** -/
theorem encode_lt_encode_iff : encode s < encode t ↔ s < t := by
  refine ⟨fun h => ?_, encode_lt_encode⟩
  rcases lt_trichotomy s t with hst | rfl | hts
  · exact hst
  · exact absurd h (lt_irrefl _)
  · exact absurd (encode_lt_encode hts) h.asymm

theorem lt_iff_encode_lt {a b : String} : a < b ↔ encode a.toList < encode b.toList := by
  rw [String.lt_iff_toList_lt, encode_lt_encode_iff]

/-! ## Reading back -/

theorem continuation?_add {p : Nat} (h : p < 64) : continuation? (0x80 + p) = some p := by
  rw [continuation?, if_pos (by omega), Nat.add_sub_cancel_left]

section DecodeOne

variable {b b₁ p₂ p₃ low high n : Nat} {r : List Nat}

theorem decodeOne_two (hb : ¬ b < 0x80) (hlead : leading? b = some (low, high, 2))
    (h₁ : ¬ (b₁ < low ∨ high < b₁)) :
    decodeOne (b :: b₁ :: r) = .ok (Char.ofNat (codePoint b 2 [b₁ - 0x80]), 2, r) := by
  simp only [decodeOne, if_neg hb, hlead, if_neg h₁, if_true]

theorem decodeOne_three (hb : ¬ b < 0x80) (hlead : leading? b = some (low, high, 3))
    (h₁ : ¬ (b₁ < low ∨ high < b₁)) (h₂ : p₂ < 64) :
    decodeOne (b :: b₁ :: (0x80 + p₂) :: r) =
      .ok (Char.ofNat (codePoint b 3 [b₁ - 0x80, p₂]), 3, r) := by
  have hsize : ¬ 3 = 2 := by decide
  simp only [decodeOne, if_neg hb, hlead, if_neg h₁, if_neg hsize, continuation?_add h₂, if_true]

theorem decodeOne_four (hb : ¬ b < 0x80) (hlead : leading? b = some (low, high, 4))
    (h₁ : ¬ (b₁ < low ∨ high < b₁)) (h₂ : p₂ < 64) (h₃ : p₃ < 64) :
    decodeOne (b :: b₁ :: (0x80 + p₂) :: (0x80 + p₃) :: r) =
      .ok (Char.ofNat (codePoint b 4 [b₁ - 0x80, p₂, p₃]), 4, r) := by
  have htwo : ¬ 4 = 2 := by decide
  have hthree : ¬ 4 = 3 := by decide
  simp only [decodeOne, if_neg hb, hlead, if_neg h₁, if_neg htwo, if_neg hthree,
    continuation?_add h₂, continuation?_add h₃]

/-- Three bytes are not overlong and no surrogate, so the second one is within its bounds. -/
theorem leading?_three (hlow : 0x800 ≤ n) (hhigh : n < 0x10000) (hvalid : n < 0xD800 ∨ 0xDFFF < n) :
    ∃ low high, leading? (0xE0 + n / 4096) = some (low, high, 3) ∧
      ¬ (0x80 + n / 64 % 64 < low ∨ high < 0x80 + n / 64 % 64) := by
  rw [leading?, if_neg (by omega)]
  by_cases hfirst : 0xE0 + n / 4096 = 0xE0
  · exact ⟨_, _, if_pos hfirst, by omega⟩
  · rw [if_neg hfirst]
    by_cases hsurrogate : 0xE0 + n / 4096 = 0xED
    · exact ⟨_, _, if_pos hsurrogate, by omega⟩
    · rw [if_neg hsurrogate]
      exact ⟨_, _, if_pos (by omega), by omega⟩

/-- Four bytes are not overlong and not beyond the last code point. -/
theorem leading?_four (hlow : 0x10000 ≤ n) (hhigh : n < 0x110000) :
    ∃ low high, leading? (0xF0 + n / 262144) = some (low, high, 4) ∧
      ¬ (0x80 + n / 4096 % 64 < low ∨ high < 0x80 + n / 4096 % 64) := by
  rw [leading?, if_neg (by omega), if_neg (by omega), if_neg (by omega), if_neg (by omega)]
  by_cases hfirst : 0xF0 + n / 262144 = 0xF0
  · exact ⟨_, _, if_pos hfirst, by omega⟩
  · rw [if_neg hfirst]
    by_cases hlast : 0xF0 + n / 262144 = 0xF4
    · exact ⟨_, _, if_pos hlast, by omega⟩
    · rw [if_neg hlast]
      exact ⟨_, _, if_pos (by omega), by omega⟩

end DecodeOne

/-- A character is read back from its bytes, whatever stands behind them. -/
theorem decodeOne_encodeChar (c : Char) (r : List Nat) :
    decodeOne (encodeChar c ++ r) = .ok (c, (encodeChar c).length, r) := by
  have hvalid : c.toNat < 0xD800 ∨ 0xDFFF < c.toNat ∧ c.toNat < 0x110000 := c.valid
  have hback : Char.ofNat c.toNat = c := Char.ofNat_toNat c
  unfold encodeChar
  dsimp only
  generalize c.toNat = n at hvalid hback
  split_ifs with h₁ h₂ h₃
  · rw [List.singleton_append, decodeOne, if_pos h₁, hback]
    rfl
  · have hlead : leading? (0xC0 + n / 64) = some (0x80, 0xBF, 2) := if_pos (by omega)
    have hcode : codePoint (0xC0 + n / 64) 2 [0x80 + n % 64 - 0x80] = n := by
      simp only [codePoint, if_true, List.foldl_cons, List.foldl_nil]
      omega
    rw [List.cons_append, List.singleton_append, decodeOne_two (by omega) hlead (by omega), hcode,
      hback]
    rfl
  · obtain ⟨low, high, hlead, hsecond⟩ := leading?_three (n := n) (by omega) h₃ (by omega)
    have hcode : codePoint (0xE0 + n / 4096) 3 [0x80 + n / 64 % 64 - 0x80, n % 64] = n := by
      have hsize : ¬ 3 = 2 := by decide
      simp only [codePoint, if_neg hsize, if_true, List.foldl_cons, List.foldl_nil]
      omega
    rw [List.cons_append, List.cons_append, List.singleton_append,
      decodeOne_three (by omega) hlead hsecond (Nat.mod_lt _ (by decide)), hcode, hback]
    rfl
  · obtain ⟨low, high, hlead, hsecond⟩ := leading?_four (n := n) (by omega) (by omega)
    have hcode : codePoint (0xF0 + n / 262144) 4
        [0x80 + n / 4096 % 64 - 0x80, n / 64 % 64, n % 64] = n := by
      have htwo : ¬ 4 = 2 := by decide
      have hthree : ¬ 4 = 3 := by decide
      simp only [codePoint, if_neg htwo, if_neg hthree, List.foldl_cons, List.foldl_nil]
      omega
    rw [List.cons_append, List.cons_append, List.cons_append, List.singleton_append,
      decodeOne_four (by omega) hlead hsecond (Nat.mod_lt _ (by decide))
        (Nat.mod_lt _ (by decide)), hcode, hback]
    rfl

theorem decodeFrom_succ {bytes rest : List Nat} {c : Char} {size : Nat}
    (h : decodeOne bytes = .ok (c, size, rest)) (fuel index : Nat) :
    decodeFrom (fuel + 1) index bytes = (decodeFrom fuel (index + size) rest).map (c :: ·) := by
  cases bytes with
  | nil => cases h
  | cons b bytes => simp only [decodeFrom, h]

theorem decodeFrom_encode (s : List Char) {fuel : Nat} (h : s.length ≤ fuel) (index : Nat) :
    decodeFrom fuel index (encode s) = .ok s := by
  induction s generalizing fuel index with
  | nil => cases fuel <;> rfl
  | cons c s ih =>
    obtain ⟨fuel, rfl⟩ := Nat.exists_eq_add_of_le' (Nat.le_trans (Nat.succ_pos _) h)
    rw [encode_cons, decodeFrom_succ (decodeOne_encodeChar c _), ih (Nat.le_of_succ_le_succ h)]
    rfl

theorem length_le_length_encode (s : List Char) : s.length ≤ (encode s).length := by
  induction s with
  | nil => simp
  | cons c s ih =>
    have hc := List.length_pos_iff.mpr (encodeChar_ne_nil c)
    rw [encode_cons, List.length_append, List.length_cons]
    omega

/-- **A text is read back from its bytes.** -/
theorem decode_encode (s : List Char) : decode (encode s) = .ok (String.ofList s) := by
  rw [decode, decodeFrom_encode s (length_le_length_encode s) 0]
  rfl

end NodePressure.Text
