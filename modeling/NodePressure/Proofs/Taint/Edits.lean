import Mathlib.Data.List.Induction
import NodePressure.Taint.Basic

/-!
# NodePressure.Proofs.Taint.Edits - what the flags see of the taints of a node

The agent's taint for a dimension is known by its key alone, and each dimension has a key of its
own. So `flagsOf` says which keys are in the list (`get_flagsOf`), and an edit sets one flag and
keeps every taint with another key (`flagsOf_of_edit`, `filter_of_edit`). Hence edits of the list do
what setting a flag does to the flags, a second one of the same kind does nothing, and removing what
was added gives the first list again (`edit_mirrors_flags`).
-/

namespace NodePressure

theorem Dimension.ofName?_eq_some_iff {name : String} {d : Dimension} :
    ofName? name = some d ↔ name = d.name := by
  constructor
  · intro h
    have hname := List.find?_some h
    exact (beq_iff_eq.mp hname).symm
  · rintro rfl
    cases d <;> decide

theorem Dimension.name_injective {d e : Dimension} (h : d.name = e.name) : d = e := by
  have hd : ofName? d.name = some d := ofName?_eq_some_iff.mpr rfl
  exact Option.some_inj.mp (hd.symm.trans (ofName?_eq_some_iff.mpr h))

namespace Taint

variable {pre k : String} {t : Taint} {ts ts' : List Taint} {d e : Dimension} {c : TaintChange}

/-! ## Keys -/

theorem toList_keyOf (pre : String) (d : Dimension) :
    (keyOf pre d).toList = pre.toList ++ '/' :: d.name.toList := by
  simp [keyOf]

theorem keyOf_inj : keyOf pre d = keyOf pre e ↔ d = e := by
  constructor
  · intro h
    have hlist := congrArg String.toList h
    rw [toList_keyOf, toList_keyOf, List.append_cancel_left_eq, List.cons.injEq] at hlist
    exact Dimension.name_injective (String.toList_injective hlist.2)
  · rintro rfl
    rfl

/-- A key is read as the dimension whose key it is, and as no other. -/
theorem dimension?_eq_some_iff : dimension? pre k = some d ↔ k = keyOf pre d := by
  simp only [dimension?, bind, Option.bind_eq_some_iff, Text.dropPrefix?_eq_some_iff,
    Dimension.ofName?_eq_some_iff]
  constructor
  · rintro ⟨r, hk, r', rfl, hname⟩
    rw [← String.toList_inj, hk, toList_keyOf, ← hname]
    simp
  · rintro rfl
    exact ⟨_, toList_keyOf pre d, d.name.toList, rfl, String.ofList_toList⟩

/-! ## Flags -/

theorem flagsOf_append_singleton :
    flagsOf pre (ts ++ [t]) =
      (dimension? pre t.key).elim (flagsOf pre ts) fun d => (flagsOf pre ts).set d true := by
  cases h : dimension? pre t.key <;> simp [flagsOf, h]

/-- The flag of a dimension is raised if its key is in the list. -/
theorem get_flagsOf : (flagsOf pre ts).get d = ts.any (·.key == keyOf pre d) := by
  induction ts using List.reverseRecOn with
  | nil => simp [flagsOf]
  | append_singleton ts t ih =>
    rw [flagsOf_append_singleton, List.any_append, ← ih]
    cases hdim : dimension? pre t.key with
    | none =>
      have hne : t.key ≠ keyOf pre d := fun h => by simp [dimension?_eq_some_iff.mpr h] at hdim
      simp [hne]
    | some e =>
      have hkey := dimension?_eq_some_iff.mp hdim
      by_cases hed : e = d <;> simp [hkey, hed, keyOf_inj]

/-! ## Edits -/

/-- An edit is left out if the flag is as wanted already, and only then. -/
theorem edit_eq_none_iff : edit pre ts d c = none ↔ (flagsOf pre ts).get d = c.flag := by
  rw [get_flagsOf]
  cases c <;> cases h : ts.any (·.key == keyOf pre d) <;> simp [edit, h, TaintChange.flag]

/-- An edit sets the flag of its dimension and no other one. -/
theorem flagsOf_of_edit (h : edit pre ts d c = some ts') :
    flagsOf pre ts' = (flagsOf pre ts).set d c.flag := by
  refine TaintFlags.ext_get fun e => ?_
  rw [get_flagsOf, TaintFlags.get_set, get_flagsOf]
  cases c with
  | taint =>
    simp only [edit, Option.ite_none_left_eq_some, Option.some.injEq] at h
    obtain ⟨-, rfl⟩ := h
    by_cases hde : d = e
    · simp [own, TaintChange.flag, hde]
    · simp [own, hde, keyOf_inj]
  | untaint =>
    simp only [edit, Option.ite_none_right_eq_some, Option.some.injEq] at h
    obtain ⟨-, rfl⟩ := h
    rw [List.any_filter]
    by_cases hde : d = e
    · simp [TaintChange.flag, hde]
    · have hne : keyOf pre e ≠ keyOf pre d := fun h => hde (keyOf_inj.mp h).symm
      simp only [hde, if_false]
      congr 1
      funext t
      by_cases ht : t.key = keyOf pre e <;> simp [ht, hne]

/-- An edit keeps the taints with other keys, as they are and in their order. -/
theorem filter_of_edit (h : edit pre ts d c = some ts') :
    ts'.filter (·.key != keyOf pre d) = ts.filter (·.key != keyOf pre d) := by
  cases c with
  | taint =>
    simp only [edit, Option.ite_none_left_eq_some, Option.some.injEq] at h
    obtain ⟨-, rfl⟩ := h
    simp [own]
  | untaint =>
    simp only [edit, Option.ite_none_right_eq_some, Option.some.injEq] at h
    obtain ⟨-, rfl⟩ := h
    simp

/-! ## Edits one after the other -/

/-- The list after a change: what the edit gives, or the same list if there is nothing to edit. -/
def changed (pre : String) (ts : List Taint) (d : Dimension) (c : TaintChange) : List Taint :=
  (edit pre ts d c).getD ts

theorem flagsOf_changed : flagsOf pre (changed pre ts d c) = (flagsOf pre ts).set d c.flag := by
  rw [changed]
  cases h : edit pre ts d c with
  | none => rw [Option.getD_none, ← edit_eq_none_iff.mp h, TaintFlags.set_get]
  | some ts' => exact flagsOf_of_edit h

theorem filter_changed :
    (changed pre ts d c).filter (·.key != keyOf pre d) = ts.filter (·.key != keyOf pre d) := by
  rw [changed]
  cases h : edit pre ts d c with
  | none => rfl
  | some ts' => exact filter_of_edit h

/-- After a change there is nothing to edit for the same one. -/
theorem edit_changed : edit pre (changed pre ts d c) d c = none := by
  rw [edit_eq_none_iff, flagsOf_changed, TaintFlags.get_set, if_pos rfl]

/-- Removing the taint that was added gives the list as it was. -/
theorem edit_untaint_of_edit_taint (h : edit pre ts d .taint = some ts') :
    edit pre ts' d .untaint = some ts := by
  simp only [edit, Option.ite_none_left_eq_some, Option.some.injEq] at h
  obtain ⟨habsent, rfl⟩ := h
  have hkept : ∀ t ∈ ts, (t.key != keyOf pre d) = true := by simpa using habsent
  have hadded : (ts ++ [own pre d]).any (·.key == keyOf pre d) = true := by simp [own]
  rw [edit, if_pos hadded, List.filter_append, List.filter_eq_self.mpr hkept]
  simp [own]

/-- **Edits of the list mirror edits of the flags and touch nothing else.** After a change the flags
are as before with that of the dimension set, and the taints with other keys are as before. The list
is edited unless the flag is as wanted already, so the same change finds nothing to edit afterwards;
and removing a taint that was added gives back the list. -/
theorem edit_mirrors_flags (pre : String) (ts : List Taint) (d : Dimension) (c : TaintChange) :
    flagsOf pre (changed pre ts d c) = (flagsOf pre ts).set d c.flag ∧
    (changed pre ts d c).filter (·.key != keyOf pre d) = ts.filter (·.key != keyOf pre d) ∧
    (edit pre ts d c = none ↔ (flagsOf pre ts).get d = c.flag) ∧
    edit pre (changed pre ts d c) d c = none ∧
    ∀ added, edit pre ts d .taint = some added → edit pre added d .untaint = some ts :=
  ⟨flagsOf_changed, filter_changed, edit_eq_none_iff, edit_changed,
    fun _ => edit_untaint_of_edit_taint⟩

/-- A prefix that ends with a slash, a key that is there twice and one that only looks like it. -/
theorem duplicates_go_together :
    let ts : List Taint := [⟨"a//CPUBusy", "NoSchedule", some "true", none⟩,
      ⟨"a/CPUBusy", "NoSchedule", none, none⟩, ⟨"a//CPUBusy", "NoExecute", none, none⟩]
    changed "a/" ts .cpu .untaint = [⟨"a/CPUBusy", "NoSchedule", none, none⟩] ∧
    flagsOf "a/" (changed "a/" ts .cpu .untaint) = .clear ∧
    (∃ added, edit "a/" ts .memory .taint = some added ∧
      edit "a/" added .memory .untaint = some ts) := by
  intro ts
  have hflags : flagsOf "a/" ts = TaintFlags.clear.set .cpu true := by decide +kernel
  have hadded : edit "a/" ts .memory .taint = some (ts ++ [own "a/" .memory]) := by decide +kernel
  refine ⟨by decide +kernel, ?_, _, hadded,
    (edit_mirrors_flags "a/" ts .memory .taint).2.2.2.2 _ hadded⟩
  rw [(edit_mirrors_flags "a/" ts .cpu .untaint).1, hflags]
  rfl

end Taint

end NodePressure
