import NodePressure.Proofs.Number.Digits
import NodePressure.Time.Utc

/-!
# NodePressure.Proofs.Time.Utc - instants are read as they are written

The text of an instant is read back part by part, whatever number of fraction digits it has
(`parse?_text`). That takes an instant in reach whose leap second, if it is in one, ends a minute;
every instant that is read is such (`regular_of_parse?`).
-/

namespace NodePressure.Utc

variable {t : Utc} {ds r : List Char} {n : Nat}

/-- An instant that a text can stand for: its year is in reach, and nanoseconds beyond a second
belong to the last second of a minute. -/
structure Regular (t : Utc) : Prop where
  reach : yearInReach t.date.year = true
  leap : t.nanos < 1000000000 ∨ t.second % 60 = 59

/-- The years of four digits are in reach. -/
theorem regular_of_year (hlow : 0 ≤ t.date.year) (hhigh : t.date.year ≤ 9999)
    (hleap : t.nanos < 1000000000) : t.Regular where
  reach := by
    simp only [yearInReach, Bool.and_eq_true, decide_eq_true_eq]
    omega
  leap := .inl hleap

/-! ## Digits -/

theorem isBlank_of_isDigit {c : Char} (h : Number.isDigit c = true) : Text.isBlank c = false := by
  obtain ⟨d, hd, rfl⟩ := Number.exists_digitChar h
  have hall : ∀ d < 10, Text.isBlank (Number.digitChar d) = false := by decide
  exact hall d hd

theorem trimStart_cons {c : Char} (h : Text.isBlank c = false) :
    Text.trimStart (c :: r) = c :: r := by
  simp [Text.trimStart, h]

theorem exists_padded_eq (width n : Nat) :
    ∃ c s, Number.padded width n = c :: s ∧ Number.isDigit c = true := by
  obtain ⟨c, s, hs⟩ := List.exists_cons_of_ne_nil (Number.padded_ne_nil width n)
  exact ⟨c, s, hs, Number.isDigit_of_mem_padded (hs ▸ List.mem_cons_self)⟩

theorem trimStart_padded (width n : Nat) :
    Text.trimStart (Number.padded width n ++ r) = Number.padded width n ++ r := by
  obtain ⟨c, s, hs, hdigit⟩ := exists_padded_eq width n
  rw [hs]
  exact trimStart_cons (isBlank_of_isDigit hdigit)

theorem readDigits_of_take {width : Nat} (hne : ds ≠ [])
    (h : ((ds ++ r).take width).takeWhile Number.isDigit = ds) :
    readDigits width (ds ++ r) = some (Number.ofDigits 0 ds, r) := by
  simp [readDigits, h, hne]

/-- As many digits are read as are allowed. -/
theorem readDigits_padded {k : Nat} (h : n < Number.tenTo (k + 1)) :
    readDigits (k + 1) (Number.padded (k + 1) n ++ r) = some (n, r) := by
  have hdigits : ∀ c ∈ Number.padded (k + 1) n, Number.isDigit c = true :=
    fun _ => Number.isDigit_of_mem_padded
  have htake : (Number.padded (k + 1) n ++ r).take (k + 1) = Number.padded (k + 1) n :=
    List.take_left' (Number.length_padded h)
  have hall := Number.takeWhile_digits_append hdigits (r := []) nofun
  rw [List.append_nil] at hall
  rw [readDigits_of_take (Number.padded_ne_nil _ n) (by rw [htake, hall]), Number.ofDigits_padded]

/-- Digits are read up to the next mark. -/
theorem readDigits_length (width : Nat) (hr : ∀ c ∈ r.head?, Number.isDigit c = false) :
    readDigits (Number.padded width n ++ r).length (Number.padded width n ++ r) = some (n, r) := by
  have hdigits : ∀ c ∈ Number.padded width n, Number.isDigit c = true :=
    fun _ => Number.isDigit_of_mem_padded
  have hall := Number.takeWhile_digits_append hdigits hr
  rw [readDigits_of_take (Number.padded_ne_nil _ n) (by rw [List.take_length, hall]),
    Number.ofDigits_padded]

/-! ## Dates -/

theorem readYear_yearText (y : Int) : readYear (yearText y ++ '-' :: r) = some (y, '-' :: r) := by
  have hmark : ∀ c ∈ ('-' :: r).head?, Number.isDigit c = false := by
    rintro c ⟨⟩
    rfl
  have hsigned (n : Nat) := readDigits_length (n := n) 4 hmark
  cases y with
  | negSucc n =>
    rw [yearText, List.cons_append, readYear, trimStart_cons rfl]
    simp only [hsigned]
    rfl
  | ofNat n =>
    by_cases h : n ≤ 9999
    · have hsmall : n < Number.tenTo 4 := Nat.lt_succ_of_le h
      have hread : readDigits 4 (Number.padded 4 n ++ '-' :: r) = some (n, '-' :: r) :=
        readDigits_padded hsmall
      obtain ⟨c, s, hs, hdigit⟩ := exists_padded_eq 4 n
      rw [yearText, if_pos h, readYear, trimStart_padded]
      rw [hs] at hread ⊢
      split
      · rename_i heq
        obtain ⟨rfl, -⟩ := List.cons.inj heq
        cases hdigit
      · rename_i heq
        obtain ⟨rfl, -⟩ := List.cons.inj heq
        cases hdigit
      · rw [hread]
        rfl
    · rw [yearText, if_neg h, List.cons_append, readYear, trimStart_cons rfl]
      simp only [hsigned]
      rfl

theorem readPair_padded (h : n < 100) : readPair (Number.padded 2 n ++ r) = some (n, r) := by
  rw [readPair, trimStart_padded]
  exact readDigits_padded h

theorem skipMark_self {c : Char} (h : Text.isBlank c = false) : skipMark c (c :: r) = some r := by
  simp [skipMark, trimStart_cons h]

/-! ## The fraction of the second -/

theorem readFraction_padded {k : Nat} (h : n < Number.tenTo (k + 1)) (hk : k < 9) :
    readFraction ('.' :: Number.padded (k + 1) n ++ ['Z']) =
      some (n * Number.tenTo (9 - (k + 1)), ['Z']) := by
  have hdigits : ∀ c ∈ Number.padded (k + 1) n, Number.isDigit c = true :=
    fun _ => Number.isDigit_of_mem_padded
  have hmark : ∀ c ∈ ['Z'].head?, Number.isDigit c = false := by
    rintro c ⟨⟩
    rfl
  have hall := Number.takeWhile_digits_append hdigits hmark
  have hlength := Number.length_padded h
  have htake : (Number.padded (k + 1) n).take 9 = Number.padded (k + 1) n :=
    List.take_of_length_le (by omega)
  simp [readFraction, hall, Number.padded_ne_nil, htake, hlength, Number.ofDigits_padded]

theorem readFraction_fractionText (t : Utc) :
    readFraction (fractionText t ++ ['Z']) = some (t.nanos % 1000000000, ['Z']) := by
  unfold fractionText
  dsimp only
  split
  · rename_i h
    rw [h]
    rfl
  split
  · rename_i h
    have hlt : t.nanos % 1000000000 / 1000000 < Number.tenTo 3 := by
      show _ < 1000
      omega
    have hvalue : t.nanos % 1000000000 / 1000000 * Number.tenTo 6 = t.nanos % 1000000000 := by
      show _ * 1000000 = _
      omega
    rw [readFraction_padded hlt (by decide), hvalue]
  split
  · rename_i h
    have hlt : t.nanos % 1000000000 / 1000 < Number.tenTo 6 := by
      show _ < 1000000
      omega
    have hvalue : t.nanos % 1000000000 / 1000 * Number.tenTo 3 = t.nanos % 1000000000 := by
      show _ * 1000 = _
      omega
    rw [readFraction_padded hlt (by decide), hvalue]
  · have hlt : t.nanos % 1000000000 < Number.tenTo 9 := Nat.mod_lt _ (by decide)
    rw [readFraction_padded hlt (by decide)]
    exact congrArg (fun n => some (n, ['Z'])) (Nat.mul_one _)

/-! ## Instants -/

theorem ofFields?_eq {hour minute second nanos : Nat} (hreach : yearInReach t.date.year = true)
    (hhour : hour < 24) (hminute : minute < 60) (hsecond : second ≤ 60)
    (hs : hour * 3600 + minute * 60 + (if second == 60 then 59 else second) = t.second)
    (hn : nanos + (if second == 60 then 1000000000 else 0) = t.nanos) :
    ofFields? t.date.year t.date.month t.date.day hour minute second nanos = some t := by
  obtain ⟨date, s, n, hdate, hs', hn'⟩ := t
  dsimp only at hs hn hreach ⊢
  subst hs hn
  rw [ofFields?, dif_pos ⟨hdate, hhour, hminute, hsecond, hs', hn', hreach⟩]

/-- The fields that are written give the instant back. -/
theorem ofFields?_written (h : t.Regular) :
    ofFields? t.date.year t.date.month t.date.day (t.second / 3600) (t.second / 60 % 60)
      (t.second % 60 + if t.nanos < 1000000000 then 0 else 1) (t.nanos % 1000000000) = some t := by
  have hsecond := t.second_lt
  have hnanos := t.nanos_lt
  -- a leap second is written as second 60, which is read as the last second of its minute again
  by_cases hplain : t.nanos < 1000000000
  · have hnot : (t.second % 60 == 60) = false := beq_eq_false_iff_ne.mpr (by omega)
    rw [if_pos hplain, Nat.add_zero]
    refine ofFields?_eq h.reach (by omega) (by omega) (by omega) ?_ ?_ <;>
      simp only [hnot, Bool.false_eq_true, if_false] <;> omega
  · have hlast : t.second % 60 = 59 := h.leap.resolve_left hplain
    rw [if_neg hplain, hlast]
    refine ofFields?_eq h.reach (by omega) (by omega) (by omega) ?_ ?_ <;>
      simp only [Nat.reduceAdd, beq_self_eq_true, if_true] <;> omega

theorem shift_zero (t : Utc) : t.shift (-0) = t := by
  have hday : (0 : Int) ≤ t.second + -0 ∧ (t.second : Int) + -0 < 86400 := by
    have := t.second_lt
    omega
  obtain ⟨date, s, n, hdate, hs, hn⟩ := t
  rw [shift]
  simp only [dif_pos hday]
  simp

theorem day_le_of_valid {d : Date} (h : d.Valid) : d.day ≤ 31 := by
  have hlast : daysIn d.year d.month ≤ 31 := by
    unfold daysIn
    split
    · split <;> decide
    all_goals decide
  exact Nat.le_trans h.2.2.2 hlast

/-- **An instant is read as it is written.** -/
theorem parse?_text (h : t.Regular) : parse? t.text.toList = some t := by
  have hsecond := t.second_lt
  have hmonth : t.date.month < 100 := Nat.lt_of_le_of_lt t.date_valid.2.1 (by decide)
  have hday : t.date.day < 100 := Nat.lt_of_le_of_lt (day_le_of_valid t.date_valid) (by decide)
  have hhour : t.second / 3600 < 100 := by omega
  have hminute : t.second / 60 % 60 < 100 := by omega
  have hlast : t.second % 60 + (if t.nanos < 1000000000 then 0 else 1) < 100 := by
    split <;> omega
  have hdash : Text.isBlank '-' = false := rfl
  have hcolon : Text.isBlank ':' = false := rfl
  rw [text, String.toList_ofList]
  simp only [wholeText, List.append_assoc, List.cons_append]
  refine Option.bind_eq_some_iff.mpr ⟨_, readYear_yearText t.date.year, ?_⟩
  refine Option.bind_eq_some_iff.mpr ⟨_, skipMark_self hdash, ?_⟩
  refine Option.bind_eq_some_iff.mpr ⟨_, readPair_padded hmonth, ?_⟩
  refine Option.bind_eq_some_iff.mpr ⟨_, skipMark_self hdash, ?_⟩
  refine Option.bind_eq_some_iff.mpr ⟨_, readPair_padded hday, ?_⟩
  refine Option.bind_eq_some_iff.mpr ⟨_, readPair_padded hhour, ?_⟩
  refine Option.bind_eq_some_iff.mpr ⟨_, skipMark_self hcolon, ?_⟩
  refine Option.bind_eq_some_iff.mpr ⟨_, readPair_padded hminute, ?_⟩
  refine Option.bind_eq_some_iff.mpr ⟨_, skipMark_self hcolon, ?_⟩
  refine Option.bind_eq_some_iff.mpr ⟨_, readPair_padded hlast, ?_⟩
  refine Option.bind_eq_some_iff.mpr ⟨_, readFraction_fractionText t, ?_⟩
  -- nothing but the mark of universal time is left
  refine Option.bind_eq_some_iff.mpr ⟨(0, []), rfl, ?_⟩
  refine Option.bind_eq_some_iff.mpr ⟨t, ofFields?_written h, ?_⟩
  show (if yearInReach (t.shift (-0)).date.year = true then some (t.shift (-0)) else none) = some t
  rw [shift_zero, if_pos h.reach]

/-! ## What is read -/

theorem nanos_lt_of_readFraction {s : List Char} (h : readFraction s = some (n, r)) :
    n < 1000000000 := by
  unfold readFraction at h
  split at h
  · rename_i r
    dsimp only at h
    split at h
    · cases h
    · obtain ⟨rfl, -⟩ := Prod.mk.inj (Option.some.inj h)
      generalize hused : (r.takeWhile Number.isDigit).take 9 = used
      have hlength : used.length ≤ 9 := hused ▸ List.length_take_le 9 _
      have hvalue : Number.ofDigits 0 used < 1 * Number.tenTo used.length :=
        Number.ofDigits_lt 0 used
      have hpos : 0 < Number.tenTo (9 - used.length) := Nat.pow_pos (by decide)
      have hten : Number.tenTo used.length * Number.tenTo (9 - used.length) = Number.tenTo 9 := by
        have hsum : used.length + (9 - used.length) = 9 := by omega
        rw [← Number.tenTo_add, hsum]
      rw [Nat.one_mul] at hvalue
      calc Number.ofDigits 0 used * Number.tenTo (9 - used.length)
          < Number.tenTo used.length * Number.tenTo (9 - used.length) :=
            Nat.mul_lt_mul_of_pos_right hvalue hpos
        _ = 1000000000 := hten
  · obtain ⟨rfl, -⟩ := Prod.mk.inj (Option.some.inj h)
    decide

theorem offset_of_readClock {s : List Char} {negative : Bool} {offset : Int}
    (h : (do
        let (hours, r) ← readTwo s
        let (minutes, r) ← readTwo (r.dropWhile fun c => c == ':' || Text.isBlank c)
        if minutes < 60 ∧ hours < 24 then
          let n : Int := hours * 3600 + minutes * 60
          return (if negative then -n else n, r)
        else none) = some (offset, r)) :
    offset % 60 = 0 ∧ -86400 < offset ∧ offset < 86400 := by
  simp only [Option.bind_eq_bind, Option.bind_eq_some_iff] at h
  obtain ⟨⟨hours, a⟩, -, ⟨minutes, b⟩, -, h⟩ := h
  dsimp only at h
  split at h
  · rename_i hrange
    obtain ⟨rfl, -⟩ := Prod.mk.inj (Option.some.inj h)
    cases negative <;> simp only [Bool.false_eq_true, if_true, if_false] <;> omega
  · cases h

/-- Offsets are whole minutes of less than a day. -/
theorem offset_of_readOffset {s : List Char} {offset : Int} (h : readOffset s = some (offset, r)) :
    offset % 60 = 0 ∧ -86400 < offset ∧ offset < 86400 := by
  have hzero {r' : List Char} (h : some ((0 : Int), r') = some (offset, r)) :
      offset % 60 = 0 ∧ -86400 < offset ∧ offset < 86400 := by
    cases h
    decide
  unfold readOffset at h
  split at h
  · exact hzero h
  · exact hzero h
  split at h
  · exact hzero h
  split at h
  · cases h
  -- the sign only says how the hours and the minutes count
  dsimp only [Option.bind_eq_bind] at h
  split at h
  · exact offset_of_readClock h
  split at h
  · exact offset_of_readClock h
  · cases h

theorem shift_second {offset : Int} (h : offset % 60 = 0) (hlow : -86400 < offset)
    (hhigh : offset < 86400) : (t.shift offset).second % 60 = t.second % 60 := by
  have hsecond := t.second_lt
  unfold shift
  dsimp only
  split
  · dsimp only
    omega
  · split
    · dsimp only
      omega
    · dsimp only
      omega

theorem shift_nanos {offset : Int} : (t.shift offset).nanos = t.nanos := by
  unfold shift
  dsimp only
  split
  · rfl
  · split <;> rfl

theorem leap_of_ofFields? {year : Int} {month day hour minute second : Nat}
    (h : ofFields? year month day hour minute second n = some t) (hn : n < 1000000000) :
    t.nanos < 1000000000 ∨ t.second % 60 = 59 := by
  simp only [ofFields?, Option.dite_none_right_eq_some, Option.some.injEq] at h
  obtain ⟨-, rfl⟩ := h
  dsimp only
  by_cases hleap : second = 60
  · right
    simp only [hleap, beq_self_eq_true, if_true]
    omega
  · left
    simpa [hleap] using hn

/-- What is read can be written. -/
theorem regular_of_parse? {s : List Char} (h : parse? s = some t) : t.Regular := by
  obtain ⟨⟨year, s1⟩, -, h⟩ := Option.bind_eq_some_iff.mp h
  obtain ⟨s2, -, h⟩ := Option.bind_eq_some_iff.mp h
  obtain ⟨⟨month, s3⟩, -, h⟩ := Option.bind_eq_some_iff.mp h
  obtain ⟨s4, -, h⟩ := Option.bind_eq_some_iff.mp h
  obtain ⟨⟨day, s5⟩, -, h⟩ := Option.bind_eq_some_iff.mp h
  dsimp only at h
  split at h
  · split at h
    · obtain ⟨s6, -, h⟩ := Option.bind_eq_some_iff.mp h
      obtain ⟨⟨hour, s7⟩, -, h⟩ := Option.bind_eq_some_iff.mp h
      obtain ⟨s8, -, h⟩ := Option.bind_eq_some_iff.mp h
      obtain ⟨⟨minute, s9⟩, -, h⟩ := Option.bind_eq_some_iff.mp h
      obtain ⟨s10, -, h⟩ := Option.bind_eq_some_iff.mp h
      obtain ⟨⟨second, s11⟩, -, h⟩ := Option.bind_eq_some_iff.mp h
      obtain ⟨⟨nanos, s12⟩, hnanos, h⟩ := Option.bind_eq_some_iff.mp h
      obtain ⟨⟨offset, s13⟩, hoffset, h⟩ := Option.bind_eq_some_iff.mp h
      obtain ⟨-, h⟩ := Option.ite_none_left_eq_some.mp h
      obtain ⟨u, hu, h⟩ := Option.bind_eq_some_iff.mp h
      obtain ⟨hreach, h⟩ := Option.ite_none_right_eq_some.mp h
      obtain rfl := Option.some.inj h
      -- moving it by whole minutes keeps an instant in the last second of its minute
      obtain ⟨hminutes, hlow, hhigh⟩ := offset_of_readOffset hoffset
      have hleap := leap_of_ofFields? hu (nanos_lt_of_readFraction hnanos)
      refine ⟨hreach, ?_⟩
      rwa [shift_nanos, shift_second (by omega) (by omega) (by omega)]
    · cases h
  · cases h

end NodePressure.Utc
