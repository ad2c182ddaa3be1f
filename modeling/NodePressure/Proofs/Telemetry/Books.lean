import NodePressure.Proofs.Telemetry.Verdict

/-!
# NodePressure.Proofs.Telemetry.Books - what the registry keeps of all reports

The entry of a part sums up the reports of that part: the last one, and how many failures stand at
the end of them (`Health.Sums`). Every report of the part goes on summing up (`Summary.report`), and
a report of another part leaves the entry as it is. So reports of two parts commute, but for the
times that they leave (`alike_report_comm`), and the books of the registry follow from what each
part has reported (`registry_keeps_the_books`).
-/

namespace NodePressure

/-- The message of a report. -/
def Report.message? : Report → Option String
  | healthy => none
  | failed message => some message
  | unhealthy message => some message

/-- A report that an operation failed. -/
def Report.isFailure : Report → Bool
  | failed _ => true
  | healthy | unhealthy _ => false

/-- An entry sums up the reports of a part, of which there is at least one. The last one says how
the part fares and why; the failures at the end of them are counted, as far as 32 bits go. -/
structure Health.Sums (h : Health) (rs : List Report) : Prop where
  last : ∃ r, rs.getLast? = some r ∧ h.status = r.status ∧ h.message = r.message?
  failures : h.failures = min (rs.rtakeWhile Report.isFailure).length Number.max32

/-- What some reports of a part have left: an entry that sums them up, or none if there are no
reports. -/
def Summary (rs : List Report) : Option Health → Prop
  | none => rs = []
  | some h => h.Sums rs

/-- What an entry tells, but for the time of its report. -/
def Health.undated (h : Health) : Status × Option String × Nat :=
  (h.status, h.message, h.failures)

section Summary

variable {rs : List Report} {before before' : Option Health} {r : Report} {moment moment' : Int}

theorem Summary.failures_eq (h : Summary rs before) : (before.map (·.failures)).getD 0 =
    min (rs.rtakeWhile Report.isFailure).length Number.max32 := by
  cases before with
  | none =>
    obtain rfl : rs = [] := h
    rfl
  | some h' => exact h.failures

theorem Summary.report (h : Summary rs before) :
    Summary (rs ++ [r]) (some (r.entry before moment)) := by
  refine ⟨⟨r, List.getLast?_concat, r.status_entry before moment, ?_⟩, ?_⟩
  · cases r <;> rfl
  · rw [List.rtakeWhile_concat]
    cases r with
    | failed message =>
      simp only [Report.entry, Report.isFailure, if_true, List.length_append, List.length_singleton,
        h.failures_eq, Number.next32]
      omega
    | _ => rfl

theorem Summary.entryAfter {dated : List (Int × Report)} (h : Summary rs before) :
    Summary (rs ++ dated.map Prod.snd) (entryAfter before dated) := by
  induction dated generalizing rs before with
  | nil => exact (List.append_nil rs).symm ▸ h
  | cons r dated ih =>
    have hfirst : Summary (rs ++ [r.2]) (some (r.2.entry before r.1)) := h.report
    have hrest := ih hfirst
    rwa [List.append_assoc] at hrest

/-- A report tells the same on top of entries that tell the same. -/
theorem Report.undated_entry (h : before.map Health.undated = before'.map Health.undated) :
    (r.entry before moment).undated = (r.entry before' moment').undated := by
  cases r with
  | failed message =>
    have hfailures : before.map (·.failures) = before'.map (·.failures) := by
      have := congrArg (Option.map fun told : Status × Option String × Nat => told.2.2) h
      rwa [Option.map_map, Option.map_map] at this
    rw [entry, entry, hfailures]
    rfl
  | _ => rfl

end Summary

/-! ## Histories -/

section Histories

variable {part : String} {ns : List (Int × Note)}

theorem Note.reportOf?_eq_some_iff {n : Note} {r : Report} :
    n.reportOf? part = some r ↔ n = .report part r := by
  cases n with
  | report component r' =>
    by_cases h : component = part
    · simp [Note.reportOf?, h]
    · simp [Note.reportOf?, h]
  | _ => simp [Note.reportOf?]

theorem reportsOf_eq_nil_iff : reportsOf part (ns.map Prod.snd) = [] ↔
    ¬ ∃ moment r, (moment, Note.report part r) ∈ ns := by
  simp only [reportsOf, List.filterMap_eq_nil_iff, List.forall_mem_map,
    Option.eq_none_iff_forall_ne_some, ne_eq, Note.reportOf?_eq_some_iff, not_exists]
  constructor
  · exact fun h moment r hmem => h _ hmem r rfl
  · rintro h ⟨moment, n⟩ hmem r rfl
    exact h moment r hmem

theorem Telemetry.summary_hear (t : Telemetry) (rs : List Report)
    (h : Summary rs (t.health.components.get? part)) :
    Summary (rs ++ reportsOf part (ns.map Prod.snd))
      ((t.hear ns).health.components.get? part) := by
  rw [entry_hear, ← snd_datedReportsOf]
  exact h.entryAfter

end Histories

namespace Registry

/-- Two registries that differ at most in when their parts reported. -/
structure Alike (g g' : Registry) : Prop where
  entries : ∀ part, (g.components.get? part).map Health.undated =
    (g'.components.get? part).map Health.undated
  running : g.running = g'.running

variable {g : Registry} {part name name' : String} {moment : Int} {r r' : Report}

theorem get?_report_of_ne (h : part ≠ name) :
    (g.report moment name r).components.get? part = g.components.get? part := by
  rw [get?_report, if_neg (Ne.symm h)]

theorem get?_report_self : (g.report moment name r).components.get? name =
    some (r.entry (g.components.get? name) moment) := by
  rw [get?_report, if_pos rfl]

/-- Reports of two parts commute, whenever they are made. -/
theorem alike_report_comm (h : name ≠ name') (m₁ m₂ m₃ m₄ : Int) :
    Alike ((g.report m₁ name r).report m₂ name' r') ((g.report m₃ name' r').report m₄ name r) := by
  refine ⟨fun part => ?_, rfl⟩
  -- what a part tells goes by its own report, if it makes one of the two
  by_cases hname : part = name
  · subst hname
    rw [get?_report_of_ne h, get?_report_self, get?_report_self, get?_report_of_ne h]
    exact congrArg some (Report.undated_entry rfl)
  · rw [get?_report_of_ne hname]
    by_cases hname' : part = name'
    · subst hname'
      rw [get?_report_self, get?_report_self, get?_report_of_ne hname]
      exact congrArg some (Report.undated_entry rfl)
    · rw [get?_report_of_ne hname', get?_report_of_ne hname', get?_report_of_ne hname]

/-! ## The books -/

/-- The verdict is the worst status of the parts. -/
theorem isWorst_status (g : Registry) :
    g.status.IsWorst fun s => ∃ part, g.statusOf? part = some s := by
  have hsame : (· ∈ g.components.values.map (·.status)) =
      fun s => ∃ part, g.statusOf? part = some s := by
    funext s
    simp [NameMap.values, statusOf?_eq_some_iff]
  rw [← hsame]
  exact Status.isWorst_worst _

/-- The parts may be gone through in any order. -/
theorem worst_of_perm {es : List (String × Health)} (h : es.Perm g.components.entries) :
    Status.worst (es.map (·.2.status)) = g.status := by
  have hsame (s : Status) : Status.worst (es.map (·.2.status)) ≤ s ↔ g.status ≤ s := by
    simp [status, NameMap.values, Status.worst_le_iff, h.mem_iff]
  exact eq_of_forall_ge_iff hsame

/-- **The books of the registry.** Whatever is reported, in any order: the parts listed are those
that have reported; the entry of a part sums up all its reports; no report touches the entry of
another part, so that reports of two parts commute, but for their times; and the verdict is the
worst status of the parts, in whatever order they are gone through. -/
theorem registry_keeps_the_books (node : String) (ns : List (Int × Note)) :
    let g := ((Telemetry.fresh node).hear ns).health
    (∀ part, part ∈ g.components.names ↔ ∃ moment r, (moment, Note.report part r) ∈ ns) ∧
    (∀ part h, g.components.get? part = some h → h.Sums (reportsOf part (ns.map Prod.snd))) ∧
    (∀ name moment r part, part ≠ name →
      (g.report moment name r).components.get? part = g.components.get? part) ∧
    (∀ name name' r r' m₁ m₂ m₃ m₄, name ≠ name' →
      Alike ((g.report m₁ name r).report m₂ name' r') ((g.report m₃ name' r').report m₄ name r)) ∧
    (g.status.IsWorst fun s => ∃ part, g.statusOf? part = some s) ∧
    ∀ es : List (String × Health), es.Perm g.components.entries →
      Status.worst (es.map (·.2.status)) = g.status := by
  intro g
  have hsummary (part : String) : Summary (reportsOf part (ns.map Prod.snd))
      (g.components.get? part) :=
    Telemetry.summary_hear (Telemetry.fresh node) [] rfl
  refine ⟨fun part => ?_, fun part h hpart => ?_, fun _ _ _ _ => get?_report_of_ne,
    fun _ _ _ _ _ _ _ _ hname => alike_report_comm hname _ _ _ _, g.isWorst_status,
    fun _ => worst_of_perm⟩
  · have hpart := hsummary part
    rw [NameMap.mem_names_iff, ← not_iff_not, ← reportsOf_eq_nil_iff]
    cases hentry : g.components.get? part with
    | none =>
      rw [hentry] at hpart
      exact iff_of_true (by simp) hpart
    | some h =>
      rw [hentry] at hpart
      obtain ⟨r, hlast, -⟩ := hpart.last
      refine iff_of_false (by simp) fun hnil => ?_
      rw [hnil] at hlast
      cases hlast
  · have hentry := hsummary part
    rwa [hpart] at hentry

/-- The loop fails, goes well, and fails twice more, while the dispatcher cannot run at all. -/
def mixedReports : List (Int × Note) :=
  [(0, .report loopPart (.failed "first")), (1, .report dispatcherPart (.unhealthy "gone")),
    (2, .report loopPart .healthy), (3, .report loopPart (.failed "second")),
    (4, .report dispatcherPart (.unhealthy "still gone")), (5, .report loopPart (.failed "third"))]

/-- The loop has failed twice in a row and says why, and the dispatcher makes the verdict. -/
theorem books_of_mixed_reports :
    ∃ h, ((Telemetry.fresh "n").hear mixedReports).health.components.get? loopPart = some h ∧
      h.failures = 2 ∧ h.message = some "third" ∧
      conditionPart ∉ ((Telemetry.fresh "n").hear mixedReports).health.components.names ∧
      ((Telemetry.fresh "n").hear mixedReports).health.status = .unhealthy := by
  obtain ⟨hlisted, hsums, -, -, hworst, -⟩ := registry_keeps_the_books "n" mixedReports
  have hmem := (hlisted loopPart).mpr ⟨5, .failed "third", by decide⟩
  obtain ⟨h, hentry⟩ := NameMap.mem_names_iff.mp hmem
  have hloop := hsums _ _ hentry
  have hreports : reportsOf loopPart (mixedReports.map Prod.snd) =
      [.failed "first", .healthy, .failed "second", .failed "third"] := by decide
  rw [hreports] at hloop
  obtain ⟨r, hlast, -, hmessage⟩ := hloop.last
  obtain rfl := Option.some.inj hlast
  refine ⟨h, hentry, hloop.failures, hmessage, fun hmem => ?_, ?_⟩
  · obtain ⟨moment, r, hmem⟩ := (hlisted _).mp hmem
    revert hmem
    simp [mixedReports, conditionPart, loopPart, dispatcherPart]
  · exact le_antisymm (Status.le_unhealthy _) (hworst.le _ ⟨dispatcherPart, rfl⟩)

end Registry

end NodePressure
