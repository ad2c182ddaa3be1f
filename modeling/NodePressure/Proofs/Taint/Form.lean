import Mathlib.Data.List.Forall2
import NodePressure.Proofs.Time.Utc
import NodePressure.Taint.Form

/-!
# NodePressure.Proofs.Taint.Form - taints as the API writes them

`Taint.WrittenAs` says how a taint stands in a request or in an answer. A taint is read as it is
written (`ofJson?_of_writtenAs`), so what is written stands for one taint only. The taints that an
edit makes of written ones can be written, too (`writtenAs_toJson`, `isWhole_of_edit`).
-/

namespace NodePressure

/-- An instant as the API has it: in a year of four digits, and without a fraction of a second. -/
structure Utc.IsWhole (u : Utc) : Prop where
  low : 0 ≤ u.date.year
  high : u.date.year ≤ 9999
  nanos : u.nanos = 0

theorem Utc.isWhole_iff {u : Utc} :
    u.IsWhole ↔ 0 ≤ u.date.year ∧ u.date.year ≤ 9999 ∧ u.nanos = 0 :=
  ⟨fun h => ⟨h.low, h.high, h.nanos⟩, fun h => ⟨h.1, h.2.1, h.2.2⟩⟩

instance (u : Utc) : Decidable u.IsWhole :=
  decidable_of_iff _ Utc.isWhole_iff.symm

theorem Utc.parse?_textToSecond {u : Utc} (h : u.IsWhole) :
    parse? u.textToSecond.toList = some u := by
  have htext : u.textToSecond = u.text := by
    simp [textToSecond, text, fractionText, h.nanos]
  rw [htext]
  exact parse?_text (regular_of_year h.low h.high (by rw [h.nanos]; decide))

namespace Taint

variable {pre : String} {t u : Taint} {ts ts' us : List Taint} {j : Json} {items : List Json}

/-- The taint was added at a whole second, if its time is known. -/
def IsWhole (t : Taint) : Prop :=
  ∀ u ∈ t.added, u.IsWhole

instance (t : Taint) : Decidable t.IsWhole :=
  inferInstanceAs (Decidable (∀ u ∈ t.added, u.IsWhole))

/-- A taint as it stands in a request or in an answer. -/
structure WrittenAs (t : Taint) (j : Json) : Prop where
  key : j.present? "key" = some (.str t.key)
  effect : j.present? "effect" = some (.str t.effect)
  value : j.present? "value" = t.value.map .str
  added : j.present? "timeAdded" = t.added.map fun u => .str u.textToSecond
  whole : t.IsWhole

theorem writtenAs_toJson (h : t.IsWhole) : t.WrittenAs t.toJson := by
  rcases t with ⟨key, effect, - | value, - | added⟩ <;> exact ⟨rfl, rfl, rfl, rfl, h⟩

/-- A taint is read as it is written. -/
theorem ofJson?_of_writtenAs (h : t.WrittenAs j) : ofJson? j = some t := by
  obtain ⟨key, effect, value, added⟩ := t
  cases j with
  | obj members =>
    have hvalue : orNull "value" Json.asString (.obj members) = some value := by
      rw [orNull, h.value]
      cases value <;> rfl
    have hadded : orNull "timeAdded" (fun k => do Utc.parse? (← Json.asString k).toList)
        (.obj members) = some added := by
      rw [orNull, h.added]
      cases added with
      | none => rfl
      | some u => simp [Json.asString, Utc.parse?_textToSecond (h.whole u rfl)]
    rw [ofJson?, hvalue, hadded, orNull, h.key, orNull, h.effect]
    rfl
  | _ => exact absurd h.key nofun

/-! ## Lists of taints -/

theorem forall₂_writtenAs_toJson (h : ∀ t ∈ ts, t.IsWhole) :
    List.Forall₂ WrittenAs ts (ts.map toJson) :=
  List.forall₂_map_right_iff.mpr (List.forall₂_same.mpr fun t ht => writtenAs_toJson (h t ht))

theorem mapM_ofJson?_of_writtenAs (h : List.Forall₂ WrittenAs ts items) :
    items.mapM ofJson? = some ts := by
  induction h with
  | nil => rfl
  | cons ht _ ih => simp [List.mapM_cons, ofJson?_of_writtenAs ht, ih]

theorem isWhole_of_writtenAs (h : List.Forall₂ WrittenAs ts items) : ∀ t ∈ ts, t.IsWhole := by
  induction h with
  | nil => simp
  | cons ht _ ih => exact List.forall_mem_cons.mpr ⟨ht.whole, ih⟩

/-- What is written stands for one list of taints only. -/
theorem eq_of_writtenAs (h : List.Forall₂ WrittenAs ts items)
    (h' : List.Forall₂ WrittenAs us items) : ts = us :=
  Option.some.inj ((mapM_ofJson?_of_writtenAs h).symm.trans (mapM_ofJson?_of_writtenAs h'))

/-- The agent adds its taints without a time. -/
theorem isWhole_of_edit {d : Dimension} {c : TaintChange} (h : edit pre ts d c = some ts')
    (hwhole : ∀ t ∈ ts, t.IsWhole) : ∀ t ∈ ts', t.IsWhole := by
  cases c with
  | taint =>
    simp only [edit, Option.ite_none_left_eq_some, Option.some.injEq] at h
    obtain ⟨-, rfl⟩ := h
    have hown : (own pre d).IsWhole := by simp [IsWhole, own]
    simpa only [List.forall_mem_append, List.forall_mem_singleton] using ⟨hwhole, hown⟩
  | untaint =>
    simp only [edit, Option.ite_none_right_eq_some, Option.some.injEq] at h
    obtain ⟨-, rfl⟩ := h
    exact fun t ht => hwhole t (List.mem_of_mem_filter ht)

end Taint

end NodePressure
