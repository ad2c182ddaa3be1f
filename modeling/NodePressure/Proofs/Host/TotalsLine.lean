import NodePressure.Proofs.Host.ProcessorTime
import NodePressure.Proofs.Host.Traffic

/-!
# NodePressure.Proofs.Host.TotalsLine - the line for all processors together

Processor times are taken of one line, the first that begins with `cpu` and a blank, and of the
first eight counters in it (`columns`): the ninth and the tenth are in the first two already. They
cannot be read exactly if the line is missing or `Unreadable`. Otherwise the total is the sum of
the counters, capped once however large they are, and busy time is what idle time leaves of it
(`times_of_totals_line`).
-/

namespace NodePressure.Host

open Number (Spells max64)

variable {text text' line rest rest' : List Char} {fields fields' : List Nat} {t t' : CpuTimes}

/-! ## The line -/

/-- What stands behind the name in the first line for all processors. -/
structure TotalsLine (text rest : List Char) : Prop where
  first : ∃ above below, Text.lines text = above ++ ("cpu ".toList ++ rest) :: below ∧
    ∀ line ∈ above, ¬ "cpu ".toList <+: line

theorem totalsLine?_eq_some_iff :
    totalsLine? text = some line ↔ ∃ rest, TotalsLine text rest ∧ line = "cpu ".toList ++ rest := by
  have htotals (l : List Char) :
      Text.startsWith ['c', 'p', 'u', ' '] l = true ↔ "cpu ".toList <+: l := Text.startsWith_iff
  rw [totalsLine?, List.find?_eq_some_iff_append, htotals]
  constructor
  · rintro ⟨⟨rest, hrest⟩, above, below, hlines, habove⟩
    refine ⟨rest, ⟨above, below, by rw [hlines, hrest], fun l hl hstarts => ?_⟩, hrest.symm⟩
    have hnot := habove l hl
    rw [(htotals l).mpr hstarts] at hnot
    exact Bool.false_ne_true hnot
  · rintro ⟨rest, ⟨above, below, hlines, habove⟩, rfl⟩
    refine ⟨⟨rest, rfl⟩, above, below, hlines, fun l hl => ?_⟩
    rw [Bool.not_eq_true']
    exact Bool.eq_false_iff.mpr fun hstarts => habove l hl ((htotals l).mp hstarts)

theorem TotalsLine.unique (h : TotalsLine text rest) (h' : TotalsLine text rest') :
    rest = rest' := by
  have hline := totalsLine?_eq_some_iff.mpr ⟨rest, h, rfl⟩
  have hline' := totalsLine?_eq_some_iff.mpr ⟨rest', h', rfl⟩
  exact List.append_cancel_left (Option.some_inj.mp (hline.symm.trans hline'))

theorem totalsLine?_eq_none_iff : totalsLine? text = none ↔ ¬ ∃ rest, TotalsLine text rest := by
  constructor
  · rintro hnone ⟨rest, h⟩
    cases hnone.symm.trans (totalsLine?_eq_some_iff.mpr ⟨rest, h, rfl⟩)
  · intro h
    refine Option.eq_none_iff_forall_ne_some.mpr fun line hline => h ?_
    obtain ⟨rest, hrest, -⟩ := totalsLine?_eq_some_iff.mp hline
    exact ⟨rest, hrest⟩

/-! ## The counters -/

/-- The counters that count: the first eight behind the name. -/
def columns (rest : List Char) : List (List Char) :=
  (Text.words rest).take 8

/-- Counters that cannot be read: they are fewer than four, or one of the first eight is no number
of 64 bits. -/
def Unreadable (rest : List Char) : Prop :=
  (Text.words rest).length < 4 ∨ ∃ w ∈ columns rest, ∀ n, ¬ Spells max64 w n

theorem words_totals (rest : List Char) :
    Text.words ("cpu ".toList ++ rest) = "cpu".toList :: Text.words rest := by
  have hpieces : Text.pieces Text.isBlank ("cpu ".toList ++ rest) =
      "cpu".toList :: Text.pieces Text.isBlank rest := by
    have hletters : Text.isBlank 'c' = false ∧ Text.isBlank 'p' = false ∧
        Text.isBlank 'u' = false ∧ Text.isBlank ' ' = true := by decide
    simp [Text.pieces, hletters]
  rw [Text.words, hpieces]
  rfl

theorem readCpuTimes_of_line (h : TotalsLine text rest) :
    readCpuTimes text = (do
      let fields ← (columns rest).mapM counter
      if fields.length < 4 then throw .tooFewTimes
      return CpuTimes.ofFields fields) := by
  have hline := totalsLine?_eq_some_iff.mpr ⟨rest, h, rfl⟩
  have hcolumns : ((Text.words ("cpu ".toList ++ rest)).drop 1).take 8 = columns rest := by
    rw [words_totals]
    rfl
  rw [readCpuTimes, hline]
  simp only [hcolumns]

theorem readCpuTimes_of_no_line (h : ¬ ∃ rest, TotalsLine text rest) :
    readCpuTimes text = .error .noTotals := by
  rw [readCpuTimes, totalsLine?_eq_none_iff.mpr h]
  rfl

/-- The first eight counters of a line, of which there are at least four. -/
structure Columns (rest : List Char) (fields : List Nat) : Prop where
  spelled : List.Forall₂ (Spells max64) (columns rest) fields
  enough : 4 ≤ fields.length

theorem mapM_counter_eq_ok_iff {ws : List (List Char)} :
    ws.mapM counter = .ok fields ↔ List.Forall₂ (Spells max64) ws fields := by
  simp only [mapM_eq_ok_iff, counter_eq_ok_iff]

theorem row_iff : Row text fields ↔ ∃ rest, TotalsLine text rest ∧ Columns rest fields := by
  constructor
  · rintro ⟨⟨line, hline, hfields⟩, henough⟩
    obtain ⟨rest, hrest, rfl⟩ := totalsLine?_eq_some_iff.mp hline
    rw [words_totals] at hfields
    exact ⟨rest, hrest, mapM_counter_eq_ok_iff.mp hfields, henough⟩
  · rintro ⟨rest, hrest, hfields, henough⟩
    refine ⟨⟨_, totalsLine?_eq_some_iff.mpr ⟨rest, hrest, rfl⟩, ?_⟩, henough⟩
    rw [words_totals]
    exact mapM_counter_eq_ok_iff.mpr hfields

theorem exists_columns_iff : (∃ fields, Columns rest fields) ↔ ¬ Unreadable rest := by
  have hlength : (columns rest).length = min 8 (Text.words rest).length := List.length_take
  constructor
  · rintro ⟨fields, hspelled, henough⟩ (hshort | ⟨w, hw, hnone⟩)
    · have hsame := hspelled.length_eq
      omega
    · obtain ⟨k, hk, rfl⟩ := List.getElem_of_mem hw
      exact hnone _ (hspelled.get hk (hspelled.length_eq ▸ hk))
  · intro h
    obtain ⟨hmany, hspelled⟩ := not_or.mp h
    have hall : ∀ w ∈ columns rest, ∃ n, Spells max64 w n := by
      intro w hw
      by_contra hnone
      exact hspelled ⟨w, hw, fun n hn => hnone ⟨n, hn⟩⟩
    -- every word spells one number, so together they spell a list
    choose! value hvalue using hall
    have hfields : List.Forall₂ (Spells max64) (columns rest) ((columns rest).map value) :=
      List.forall₂_map_right_iff.mpr (List.forall₂_same.mpr hvalue)
    refine ⟨_, hfields, ?_⟩
    rw [← hfields.length_eq]
    omega

theorem exists_readCpuTimes_eq_error_iff :
    (∃ f, readCpuTimes text = .error f) ↔
      (¬ ∃ rest, TotalsLine text rest) ∨ ∃ rest, TotalsLine text rest ∧ Unreadable rest := by
  have hok : (∃ f, readCpuTimes text = .error f) ↔ ¬ ∃ t, readCpuTimes text = .ok t := by
    cases readCpuTimes text <;> simp
  have hread : (∃ t, readCpuTimes text = .ok t) ↔
      ∃ rest, TotalsLine text rest ∧ ∃ fields, Columns rest fields := by
    simp only [readCpuTimes_eq_ok_iff, row_iff]
    constructor
    · rintro ⟨t, fields, ⟨rest, hrest, hfields⟩, -⟩
      exact ⟨rest, hrest, fields, hfields⟩
    · rintro ⟨rest, hrest, fields, hfields⟩
      exact ⟨_, fields, ⟨rest, hrest, hfields⟩, rfl⟩
  rw [hok, hread]
  simp only [exists_columns_iff]
  constructor
  · intro h
    by_cases hline : ∃ rest, TotalsLine text rest
    · obtain ⟨rest, hrest⟩ := hline
      exact .inr ⟨rest, hrest, by_contra fun hbad => h ⟨rest, hrest, hbad⟩⟩
    · exact .inl hline
  · rintro (hnone | ⟨rest, hrest, hbad⟩) ⟨rest', hrest', hgood⟩
    · exact hnone ⟨rest', hrest'⟩
    · obtain rfl := hrest.unique hrest'
      exact hgood hbad

/-! ## The sums -/

theorem partial_sum (fields : List Nat) (k : Nat) :
    (fields.take k).foldl Number.capAdd 0 = min (fields.take k).sum max64 := by
  rw [Number.foldl_capAdd (Nat.zero_le _), Nat.zero_add]

theorem readCpuTimes_eq_ok_iff_columns :
    readCpuTimes text = .ok t ↔ ∃ rest fields, TotalsLine text rest ∧ Columns rest fields ∧
      t.total = min fields.sum max64 ∧ t.busy = t.total - idleTime fields := by
  have hsums (fields : List Nat) : t = CpuTimes.ofFields fields ↔
      t.total = min fields.sum max64 ∧ t.busy = t.total - idleTime fields := by
    have htotal : (CpuTimes.ofFields fields).total = min fields.sum max64 := total_ofFields
    constructor
    · rintro rfl
      exact ⟨htotal, rfl⟩
    · rintro ⟨h, h'⟩
      obtain ⟨busy, total⟩ := t
      obtain rfl : total = (CpuTimes.ofFields fields).total := h.trans htotal.symm
      obtain rfl : busy = (CpuTimes.ofFields fields).busy := h'
      rfl
  rw [readCpuTimes_eq_ok_iff]
  simp only [row_iff, hsums]
  constructor
  · rintro ⟨fields, ⟨rest, hrest, hfields⟩, h⟩
    exact ⟨rest, fields, hrest, hfields, h⟩
  · rintro ⟨rest, fields, hrest, hfields, h⟩
    exact ⟨fields, ⟨rest, hrest, hfields⟩, h⟩

theorem total_le_total (h : List.Forall₂ (· ≤ ·) fields fields') :
    (CpuTimes.ofFields fields).total ≤ (CpuTimes.ofFields fields').total := by
  have hsum : fields.sum ≤ fields'.sum := h.sum_le_sum
  rw [total_ofFields, total_ofFields]
  omega

theorem readCpuTimes_of_columns (h : TotalsLine text rest) (hfields : Columns rest fields) :
    readCpuTimes text = .ok (CpuTimes.ofFields fields) :=
  readCpuTimes_eq_ok_iff.mpr ⟨fields, row_iff.mpr ⟨rest, h, hfields⟩, rfl⟩

theorem readCpuTimes_of_same_line
    (h : ∀ rest, TotalsLine text' rest ↔ TotalsLine text rest) :
    readCpuTimes text' = readCpuTimes text := by
  by_cases hline : ∃ rest, TotalsLine text rest
  · obtain ⟨rest, hrest⟩ := hline
    rw [readCpuTimes_of_line hrest, readCpuTimes_of_line ((h rest).mpr hrest)]
  · have hline' : ¬ ∃ rest, TotalsLine text' rest := by simpa only [h] using hline
    rw [readCpuTimes_of_no_line hline, readCpuTimes_of_no_line hline']

/-- **Processor times come of the first line for all processors, at every magnitude.** They hang on
the first eight counters of that line alone, and cannot be read exactly if it is missing, has fewer
than four counters, or has one among the eight that is no number of 64 bits. Otherwise the total is
the sum of the eight as far as 64 bits go, and so is every sum on the way to it; idle time never
exceeds it, and busy time is the rest. Where no counter goes back, the total does not either. -/
theorem times_of_totals_line (text : List Char) :
    ((∃ f, readCpuTimes text = .error f) ↔
      (¬ ∃ rest, TotalsLine text rest) ∨ ∃ rest, TotalsLine text rest ∧ Unreadable rest) ∧
    (∀ t, readCpuTimes text = .ok t ↔
      ∃ rest fields, TotalsLine text rest ∧ Columns rest fields ∧
        t.total = min fields.sum max64 ∧ t.busy = t.total - idleTime fields) ∧
    (∀ t rest fields, readCpuTimes text = .ok t → TotalsLine text rest → Columns rest fields →
      t.busy + idleTime fields = t.total ∧ t.busy ≤ t.total ∧ t.total ≤ max64 ∧
      ∀ k, (fields.take k).foldl Number.capAdd 0 = min (fields.take k).sum max64) ∧
    (∀ text', (∀ rest, TotalsLine text' rest ↔ TotalsLine text rest) →
      readCpuTimes text' = readCpuTimes text) ∧
    (∀ text' rest rest', TotalsLine text rest → TotalsLine text' rest' →
      columns rest' = columns rest → readCpuTimes text' = readCpuTimes text) ∧
    ∀ text' rest rest' fields fields' t t', TotalsLine text rest → Columns rest fields →
      TotalsLine text' rest' → Columns rest' fields' → List.Forall₂ (· ≤ ·) fields fields' →
      readCpuTimes text = .ok t → readCpuTimes text' = .ok t' → t.total ≤ t'.total := by
  refine ⟨exists_readCpuTimes_eq_error_iff, fun t => readCpuTimes_eq_ok_iff_columns, ?_,
    fun text' => readCpuTimes_of_same_line, ?_, ?_⟩
  · intro t rest fields ht hrest hfields
    obtain rfl := Except.ok.inj (ht.symm.trans (readCpuTimes_of_columns hrest hfields))
    have hidle := busy_add_idleTime fields
    have htotal : (CpuTimes.ofFields fields).total = min fields.sum max64 := total_ofFields
    exact ⟨hidle, by omega, by omega, partial_sum fields⟩
  · intro text' rest rest' hrest hrest' hcolumns
    rw [readCpuTimes_of_line hrest, readCpuTimes_of_line hrest', hcolumns]
  · intro text' rest rest' fields fields' t t' hrest hfields hrest' hfields' hle ht ht'
    obtain rfl := Except.ok.inj (ht.symm.trans (readCpuTimes_of_columns hrest hfields))
    obtain rfl := Except.ok.inj (ht'.symm.trans (readCpuTimes_of_columns hrest' hfields'))
    exact total_le_total hle

/-- The line of one processor, the line for all of them and one more of the kind. -/
def statText (totals : String) : List Char :=
  ("cpu0 1 1 1 1\ncpu " ++ totals ++ "\ncpu 5 5 5 5\n").toList

/-- One of the counters is all that 64 bits hold. The total stays there when time goes on, and does
not ask what stands behind the eighth counter. -/
theorem full_counter_and_guests :
    ∃ t, readCpuTimes (statText " 18446744073709551615 0 1 3 4 0 0 0 8 9") = .ok t ∧
      t.total = max64 ∧ t.busy + 7 = t.total ∧
      readCpuTimes (statText "18446744073709551615 0 1 3 4 0 0 0 guest -9") = .ok t ∧
      ∃ t', readCpuTimes (statText "18446744073709551615 2 1 3 +4 0 0 1 8 9") = .ok t' ∧
        t.total ≤ t'.total := by
  have hline : TotalsLine (statText " 18446744073709551615 0 1 3 4 0 0 0 8 9")
      " 18446744073709551615 0 1 3 4 0 0 0 8 9".toList :=
    ⟨["cpu0 1 1 1 1".toList], ["cpu 5 5 5 5".toList], rfl, by decide⟩
  have hguests : TotalsLine (statText "18446744073709551615 0 1 3 4 0 0 0 guest -9")
      "18446744073709551615 0 1 3 4 0 0 0 guest -9".toList :=
    ⟨["cpu0 1 1 1 1".toList], ["cpu 5 5 5 5".toList], rfl, by decide⟩
  have hlater : TotalsLine (statText "18446744073709551615 2 1 3 +4 0 0 1 8 9")
      "18446744073709551615 2 1 3 +4 0 0 1 8 9".toList :=
    ⟨["cpu0 1 1 1 1".toList], ["cpu 5 5 5 5".toList], rfl, by decide⟩
  have hfields : Columns " 18446744073709551615 0 1 3 4 0 0 0 8 9".toList
      [max64, 0, 1, 3, 4, 0, 0, 0] := ⟨mapM_counter_eq_ok_iff.mp rfl, by decide⟩
  have hfields' : Columns "18446744073709551615 2 1 3 +4 0 0 1 8 9".toList
      [max64, 2, 1, 3, 4, 0, 0, 1] := ⟨mapM_counter_eq_ok_iff.mp rfl, by decide⟩
  have hread := readCpuTimes_of_columns hline hfields
  have hread' := readCpuTimes_of_columns hlater hfields'
  obtain ⟨-, -, hsums, -, hsame, hmono⟩ :=
    times_of_totals_line (statText " 18446744073709551615 0 1 3 4 0 0 0 8 9")
  obtain ⟨hidle, -, -, -⟩ := hsums _ _ _ hread hline hfields
  have hcolumns : columns "18446744073709551615 0 1 3 4 0 0 0 guest -9".toList =
      columns " 18446744073709551615 0 1 3 4 0 0 0 8 9".toList := by decide
  have hle : List.Forall₂ (· ≤ ·) [max64, 0, 1, 3, 4, 0, 0, 0] [max64, 2, 1, 3, 4, 0, 0, 1] := by
    decide
  exact ⟨_, hread, rfl, hidle, (hsame _ _ _ hline hguests hcolumns).trans hread, _, hread',
    hmono _ _ _ _ _ _ _ hline hfields hlater hfields' hle hread hread'⟩

end NodePressure.Host
