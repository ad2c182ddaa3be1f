import Mathlib.Data.List.DropRight
import Mathlib.Data.List.Induction
import NodePressure.Proofs.Telemetry.Totals

/-!
# NodePressure.Proofs.Telemetry.Reports - what notes do to the health of a part

Notes are heard one by one, each at a time of its own. The entry of a part goes by the reports of
that part, whatever the others tell meanwhile (`entry_hear`). If it reports once in each of several
stretches, it has failed in a row as often as the stretches at the end that failed
(`failuresOf_hear_stretches`), and its status is that of the last one
(`statusOf?_hear_stretches`).
-/

namespace NodePressure

namespace Report

variable {before : Option Health} {moment : Int} {fault : Option String}

/-- An operation that failed leaves its part degraded, any other one healthy. -/
theorem status_entry_ofResult : ((ofResult fault).entry before moment).status =
    if fault.isSome then .degraded else .healthy := by
  cases fault <;> rfl

/-- Only a failure goes on counting. -/
theorem failures_entry_ofResult : ((ofResult fault).entry before moment).failures =
    if fault.isSome then Number.next32 ((before.map (·.failures)).getD 0) else 0 := by
  cases fault <;> rfl

end Report

/-- The report of a part that a note makes. -/
def Note.reportOf? (part : String) : Note → Option Report
  | .report component r => if component = part then some r else none
  | _ => none

/-- The reports of a part among some notes. -/
def reportsOf (part : String) (notes : List Note) : List Report :=
  notes.filterMap (Note.reportOf? part)

theorem reportsOf_append {part : String} {notes notes' : List Note} :
    reportsOf part (notes ++ notes') = reportsOf part notes ++ reportsOf part notes' :=
  List.filterMap_append

theorem reportsOf_flatMap {part : String} {α : Type} {f : α → List Note} {xs : List α} :
    reportsOf part (xs.flatMap f) = xs.flatMap fun x => reportsOf part (f x) :=
  List.filterMap_flatMap

/-- The reports of a part among some notes, each with its time. -/
def datedReportsOf (part : String) (ns : List (Int × Note)) : List (Int × Report) :=
  ns.filterMap fun n => (n.2.reportOf? part).map (n.1, ·)

theorem snd_datedReportsOf {part : String} {ns : List (Int × Note)} :
    (datedReportsOf part ns).map Prod.snd = reportsOf part (ns.map Prod.snd) := by
  simp [datedReportsOf, reportsOf, List.map_filterMap, List.filterMap_map, Function.comp_def]

/-- What some reports make of the entry of their part. -/
def entryAfter (before : Option Health) (rs : List (Int × Report)) : Option Health :=
  rs.foldl (fun before r => some (r.2.entry before r.1)) before

namespace Registry

/-- How often a part has failed in a row. -/
def failuresOf (g : Registry) (part : String) : Nat :=
  ((g.components.get? part).map (·.failures)).getD 0

/-- How a part fares, if it has reported. -/
def statusOf? (g : Registry) (part : String) : Option Status :=
  (g.components.get? part).map (·.status)

/-- A report is taken up in the entry of its part, and in no other one. -/
theorem get?_report {g : Registry} {part name : String} {moment : Int} {r : Report} :
    (g.report moment name r).components.get? part =
      if name = part then some (r.entry (g.components.get? name) moment)
      else g.components.get? part :=
  NameMap.get?_insert ..

end Registry

namespace Telemetry

variable {t : Telemetry} {part : String} {moment : Int} {ns : List (Int × Note)} {n : Note}

/-- Takes up notes, each at a time of its own. -/
def hear (t : Telemetry) (ns : List (Int × Note)) : Telemetry :=
  ns.foldl (fun t n => t.take n.1 n.2) t

theorem hear_append {ns' : List (Int × Note)} : t.hear (ns ++ ns') = (t.hear ns).hear ns' :=
  List.foldl_append

/-! ## Counters -/

/-- Counters do not ask for the time. -/
theorem metrics_take_congr {t' : Telemetry} {moment' : Int} (h : t.metrics = t'.metrics) :
    (t.take moment n).metrics = (t'.take moment' n).metrics := by
  cases n <;> simp [take, log, h]

theorem metrics_hear_congr {t' : Telemetry} (moment : Int) (h : t.metrics = t'.metrics) :
    (t.hear ns).metrics = (t'.takeAll moment (ns.map Prod.snd)).metrics := by
  induction ns generalizing t t' with
  | nil => exact h
  | cons n ns ih => exact ih (metrics_take_congr h)

theorem count_hear (k : Counter) :
    (t.hear ns).metrics.count k =
      t.metrics.count k + (ns.map Prod.snd).countP (Note.counts (· == k)) := by
  rw [metrics_hear_congr 0 rfl, count_takeAll]

theorem total_hear (p : Counter → Bool) :
    (t.hear ns).metrics.total p =
      t.metrics.total p + (ns.map Prod.snd).countP (Note.counts p) := by
  rw [metrics_hear_congr 0 rfl, total_takeAll]

/-! ## Health -/

/-- A note changes the entry of the part that it is a report of, and no other one. -/
theorem entry_take (t : Telemetry) (part : String) (moment : Int) (n : Note) :
    (t.take moment n).health.components.get? part =
    match n.reportOf? part with
    | some r => some (r.entry (t.health.components.get? part) moment)
    | none => t.health.components.get? part := by
  cases n with
  | report component r =>
    by_cases hpart : component = part
    · subst hpart
      simp [take, Registry.get?_report, Note.reportOf?]
    · simp [take, Registry.get?_report, Note.reportOf?, hpart]
  | _ => rfl

/-- The entry of a part goes by the reports of that part. -/
theorem entry_hear : (t.hear ns).health.components.get? part =
    entryAfter (t.health.components.get? part) (datedReportsOf part ns) := by
  induction ns generalizing t with
  | nil => rfl
  | cons n ns ih =>
    rw [hear, List.foldl_cons, ← hear, ih, entry_take, datedReportsOf, datedReportsOf,
      List.filterMap_cons]
    cases n.2.reportOf? part <;> rfl

theorem entry_hear_of_silent (h : reportsOf part (ns.map Prod.snd) = []) :
    (t.hear ns).health.components.get? part = t.health.components.get? part := by
  rw [entry_hear, List.map_eq_nil_iff.mp (snd_datedReportsOf.trans h)]
  rfl

/-- A part that makes one report has the entry of that report. -/
theorem entry_hear_of_single {r : Report} (h : reportsOf part (ns.map Prod.snd) = [r]) :
    ∃ moment, (t.hear ns).health.components.get? part =
      some (r.entry (t.health.components.get? part) moment) := by
  obtain ⟨⟨moment, r⟩, hdated, rfl⟩ := List.map_eq_singleton_iff.mp (snd_datedReportsOf.trans h)
  exact ⟨moment, by rw [entry_hear, hdated]; rfl⟩

theorem statusOf?_hear {fault : Option String}
    (h : reportsOf part (ns.map Prod.snd) = [.ofResult fault]) :
    (t.hear ns).health.statusOf? part = some (if fault.isSome then .degraded else .healthy) := by
  obtain ⟨moment, hentry⟩ := entry_hear_of_single (t := t) h
  rw [Registry.statusOf?, hentry, Option.map_some, Report.status_entry_ofResult]

theorem failuresOf_hear {fault : Option String}
    (h : reportsOf part (ns.map Prod.snd) = [.ofResult fault]) :
    (t.hear ns).health.failuresOf part =
      if fault.isSome then Number.next32 (t.health.failuresOf part) else 0 := by
  obtain ⟨moment, hentry⟩ := entry_hear_of_single (t := t) h
  rw [Registry.failuresOf, hentry, Option.map_some, Option.getD_some,
    Report.failures_entry_ofResult]
  rfl

/-! ## Stretches -/

/-- Where the reports can be cut, so can the notes. -/
theorem exists_of_reportsOf_eq_append {rs rs' : List Report}
    (h : reportsOf part (ns.map Prod.snd) = rs ++ rs') :
    ∃ ns₁ ns₂, ns = ns₁ ++ ns₂ ∧ reportsOf part (ns₁.map Prod.snd) = rs ∧
      reportsOf part (ns₂.map Prod.snd) = rs' := by
  obtain ⟨l₁, l₂, hl, h₁, h₂⟩ := List.filterMap_eq_append_iff.mp h
  obtain ⟨ns₁, ns₂, rfl, rfl, rfl⟩ := List.map_eq_append_iff.mp hl
  exact ⟨ns₁, ns₂, rfl, h₁, h₂⟩

variable {α : Type} {reports : α → List Report} {fails : α → Bool} {xs : List α} {x : α}

/-- In each of several stretches there is one report, of an operation that fails in some of them. -/
def ReportsOnce (reports : α → List Report) (fails : α → Bool) (xs : List α) : Prop :=
  ∀ x ∈ xs, ∃ fault, reports x = [.ofResult fault] ∧ fault.isSome = fails x

/-- A part has failed in a row as often as the stretches at the end that failed. -/
theorem failuresOf_hear_stretches (h : ReportsOnce reports fails xs)
    (hns : reportsOf part (ns.map Prod.snd) = xs.flatMap reports)
    (hstart : t.health.failuresOf part = 0) :
    (t.hear ns).health.failuresOf part = min (xs.rtakeWhile fails).length Number.max32 := by
  induction xs using List.reverseRecOn generalizing ns with
  | nil => rw [Registry.failuresOf, entry_hear_of_silent hns, ← Registry.failuresOf, hstart]; rfl
  | append_singleton xs x ih =>
    rw [List.flatMap_append, List.flatMap_singleton] at hns
    obtain ⟨ns, ns', rfl, hbefore, hlast⟩ := exists_of_reportsOf_eq_append hns
    obtain ⟨fault, hreport, hfails⟩ := h x (List.mem_append_right _ (List.mem_singleton.mpr rfl))
    rw [hear_append, failuresOf_hear (hlast.trans hreport), hfails,
      ih (fun y hy => h y (List.mem_append_left _ hy)) hbefore, List.rtakeWhile_concat]
    split
    · rw [List.length_append, List.length_singleton, Number.next32]
      omega
    · rfl

/-- The status of a part is that of the last stretch. -/
theorem statusOf?_hear_stretches (h : ReportsOnce reports fails (xs ++ [x]))
    (hns : reportsOf part (ns.map Prod.snd) = (xs ++ [x]).flatMap reports) :
    (t.hear ns).health.statusOf? part = some (if fails x then .degraded else .healthy) := by
  rw [List.flatMap_append, List.flatMap_singleton] at hns
  obtain ⟨ns, ns', rfl, -, hlast⟩ := exists_of_reportsOf_eq_append hns
  obtain ⟨fault, hreport, hfails⟩ := h x (List.mem_append_right _ (List.mem_singleton.mpr rfl))
  rw [hear_append, statusOf?_hear (hlast.trans hreport), hfails]

end Telemetry

end NodePressure
