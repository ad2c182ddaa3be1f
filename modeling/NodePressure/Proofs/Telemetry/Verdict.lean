import Mathlib.Order.Basic
import NodePressure.Proofs.NameMap
import NodePressure.Proofs.Telemetry.Reports

/-!
# NodePressure.Proofs.Telemetry.Verdict - the worst status of the parts

The verdict on the agent is a least upper bound: it is no worse than a status exactly if no part is
(`Registry.status_le_iff`). Whether the agent is ready hangs on the parts that are unhealthy, and on
nothing else but the controller (`Registry.ready_iff`).

The last report of a part counts, whatever the part reported before. So a failure makes the verdict
better just if its part was unhealthy, and none of the others is (`failure_betters_iff`).
-/

namespace NodePressure

namespace Status

/-- How bad a status is. -/
def severity : Status → Nat
  | healthy => 0
  | degraded => 1
  | unhealthy => 2

theorem severity_injective : Function.Injective severity := fun a b => by
  cases a <;> cases b <;> decide

/-- A status lies above those that are better. -/
instance : PartialOrder Status := PartialOrder.lift severity severity_injective

instance (a b : Status) : Decidable (a ≤ b) :=
  inferInstanceAs (Decidable (a.severity ≤ b.severity))

instance (a b : Status) : Decidable (a < b) :=
  inferInstanceAs (Decidable (a.severity < b.severity))

variable {a b s : Status} {ss : List Status}

theorem healthy_le (s : Status) : healthy ≤ s := by
  cases s <;> decide

theorem le_unhealthy (s : Status) : s ≤ unhealthy := by
  cases s <;> decide

theorem le_degraded_iff : s ≤ degraded ↔ s ≠ unhealthy := by
  cases s <;> decide

theorem lt_iff_of_degraded_le (h : degraded ≤ a) : a < b ↔ b = unhealthy ∧ a = degraded := by
  revert h
  cases a <;> cases b <;> decide

theorem isOperational_eq_false_iff : s.isOperational = false ↔ s = unhealthy := by
  cases s <;> decide

theorem worse_le_iff : worse a b ≤ s ↔ a ≤ s ∧ b ≤ s := by
  cases a <;> cases b <;> cases s <;> decide

theorem worse_eq_or (a b : Status) : worse a b = a ∨ worse a b = b := by
  cases a <;> cases b <;> decide

/-- The worst of some statuses is their least upper bound. -/
theorem worst_le_iff : worst ss ≤ s ↔ ∀ t ∈ ss, t ≤ s := by
  -- the fold starts from any status, so that it goes on behind the first one
  have hfold (a : Status) : ss.foldl worse a ≤ s ↔ a ≤ s ∧ ∀ t ∈ ss, t ≤ s := by
    induction ss generalizing a with
    | nil => simp
    | cons b ss ih => rw [List.foldl_cons, ih, worse_le_iff, List.forall_mem_cons, and_assoc]
  rw [worst, hfold]
  exact and_iff_right (healthy_le s)

theorem worst_eq_healthy_or_mem (ss : List Status) :
    worst ss = healthy ∨ worst ss ∈ ss := by
  have hfold (a : Status) : ss.foldl worse a = a ∨ ss.foldl worse a ∈ ss := by
    induction ss generalizing a with
    | nil => exact .inl rfl
    | cons b ss ih =>
      rw [List.foldl_cons, List.mem_cons]
      rcases ih (worse a b) with h | h
      · rw [h]
        exact (worse_eq_or a b).imp_right .inl
      · exact .inr (.inr h)
  exact hfold healthy

/-- A status is the worst one of some, and healthy if there are none. -/
structure IsWorst (s : Status) (among : Status → Prop) : Prop where
  le : ∀ t, among t → t ≤ s
  attained : among s ∨ s = healthy ∧ ∀ t, ¬ among t

theorem isWorst_worst (ss : List Status) : (worst ss).IsWorst (· ∈ ss) := by
  have hle : ∀ t ∈ ss, t ≤ worst ss := worst_le_iff.mp le_rfl
  refine ⟨hle, ?_⟩
  cases ss with
  | nil => exact .inr ⟨rfl, fun t => List.not_mem_nil⟩
  | cons t ss =>
    refine .inl ?_
    rcases worst_eq_healthy_or_mem (t :: ss) with hhealthy | hmem
    · have ht := hle t List.mem_cons_self
      rw [hhealthy] at ht ⊢
      exact le_antisymm ht (healthy_le t) ▸ List.mem_cons_self
    · exact hmem

end Status

/-- The status that a report tells. -/
def Report.status : Report → Status
  | healthy => .healthy
  | failed _ => .degraded
  | unhealthy _ => .unhealthy

theorem Report.status_entry (r : Report) (before : Option Health) (moment : Int) :
    (r.entry before moment).status = r.status := by
  cases r <;> rfl

theorem Report.degraded_le_status {r : Report} (h : r ≠ .healthy) : .degraded ≤ r.status := by
  cases r with
  | healthy => exact absurd rfl h
  | failed m => exact le_rfl
  | unhealthy m => exact Status.le_unhealthy _

namespace Registry

variable {g : Registry} {part name : String} {moment : Int} {r : Report} {s : Status}

theorem statusOf?_eq_some_iff :
    g.statusOf? part = some s ↔ ∃ h, (part, h) ∈ g.components.entries ∧ h.status = s := by
  simp [statusOf?, NameMap.get?_eq_some_iff]

/-- A report is the status of its part from then on, and of no other part. -/
theorem statusOf?_report : (g.report moment name r).statusOf? part =
    if name = part then some r.status else g.statusOf? part := by
  rw [statusOf?, get?_report]
  split
  · rw [Option.map_some, Report.status_entry]
  · rfl

theorem status_le_iff : g.status ≤ s ↔ ∀ part t, g.statusOf? part = some t → t ≤ s := by
  simp only [status, Status.worst_le_iff, NameMap.values, List.map_map, List.forall_mem_map,
    statusOf?_eq_some_iff, Prod.forall]
  constructor
  · rintro h part t ⟨e, he, rfl⟩
    exact h part e he
  · exact fun h part e he => h part _ ⟨e, he, rfl⟩

/-- Some part is unhealthy. -/
def Down (g : Registry) : Prop :=
  ∃ part, g.statusOf? part = some .unhealthy

theorem status_eq_unhealthy_iff : g.status = .unhealthy ↔ g.Down := by
  rw [← not_iff_not, ← ne_eq, ← Status.le_degraded_iff, status_le_iff, Down, not_exists]
  simp only [Status.le_degraded_iff]
  exact ⟨fun h part hpart => h part _ hpart rfl, fun h part t ht hunhealthy =>
    h part (hunhealthy ▸ ht)⟩

/-- The agent is ready if its controller runs and no part is unhealthy. -/
theorem ready_iff : g.readiness.ready = true ↔ g.running = true ∧ ¬ g.Down := by
  rw [← status_eq_unhealthy_iff, ← Status.isOperational_eq_false_iff, readiness]
  cases g.running <;> cases g.status.isOperational <;> simp

/-! ## What a failure makes better -/

/-- A part that was unhealthy reports a failure. So it works again, if badly. -/
def Revives (g : Registry) (name : String) (r : Report) : Prop :=
  g.statusOf? name = some .unhealthy ∧ r.status = .degraded

/-- No part but the given one is unhealthy. -/
def FineBut (g : Registry) (name : String) : Prop :=
  ∀ part, part ≠ name → g.statusOf? part ≠ some .unhealthy

/-- A part fares better in the second registry than in the first one. -/
def BetterAt (part : String) (g g' : Registry) : Prop :=
  ∃ s s', g.statusOf? part = some s ∧ g'.statusOf? part = some s' ∧ s' < s

/-- A failure betters no part but its own, and that one only if it was unhealthy. -/
theorem betterAt_report_iff (hr : r ≠ .healthy) :
    BetterAt part g (g.report moment name r) ↔ part = name ∧ g.Revives name r := by
  simp only [BetterAt, statusOf?_report]
  by_cases hpart : name = part
  · subst hpart
    simp only [if_true, Option.some.injEq, true_and, Revives]
    constructor
    · rintro ⟨s, s', hs, rfl, hlt⟩
      obtain ⟨rfl, hfailed⟩ := (Status.lt_iff_of_degraded_le (Report.degraded_le_status hr)).mp hlt
      exact ⟨hs, hfailed⟩
    · rintro ⟨hdown, hfailed⟩
      exact ⟨_, _, hdown, hfailed, by decide⟩
  · rw [if_neg hpart]
    refine iff_of_false ?_ fun h => hpart h.1.symm
    rintro ⟨s, s', hs, hs', hlt⟩
    obtain rfl := Option.some.inj (hs.symm.trans hs')
    exact lt_irrefl _ hlt

theorem FineBut.down_iff (h : g.FineBut name) :
    g.Down ↔ g.statusOf? name = some .unhealthy := by
  constructor
  · rintro ⟨part, hpart⟩
    by_cases hname : part = name
    · exact hname ▸ hpart
    · exact absurd hpart (h part hname)
  · exact fun hname => ⟨name, hname⟩

theorem down_report_iff :
    (g.report moment name r).Down ↔ r.status = .unhealthy ∨ ¬ g.FineBut name := by
  simp only [Down, statusOf?_report, FineBut, not_forall, not_not]
  constructor
  · rintro ⟨part, hpart⟩
    by_cases hname : name = part
    · rw [if_pos hname] at hpart
      exact .inl (Option.some.inj hpart)
    · rw [if_neg hname] at hpart
      exact .inr ⟨part, Ne.symm hname, hpart⟩
  · rintro (hr | ⟨part, hname, hpart⟩)
    · exact ⟨name, by rw [if_pos rfl, hr]⟩
    · exact ⟨part, by rw [if_neg (Ne.symm hname), hpart]⟩

theorem down_and_not_down_report_iff (g : Registry) (moment : Int) (name : String)
    (hr : r ≠ .healthy) :
    g.Down ∧ ¬ (g.report moment name r).Down ↔ g.Revives name r ∧ g.FineBut name := by
  have hfailed : ¬ r.status = .unhealthy ↔ r.status = .degraded := by
    rw [← ne_eq, ← Status.le_degraded_iff]
    exact ⟨fun h => le_antisymm h (Report.degraded_le_status hr), le_of_eq⟩
  rw [down_report_iff, not_or, not_not, hfailed, Revives]
  constructor
  · rintro ⟨hdown, hr, hfine⟩
    exact ⟨⟨hfine.down_iff.mp hdown, hr⟩, hfine⟩
  · rintro ⟨⟨hname, hr⟩, hfine⟩
    exact ⟨hfine.down_iff.mpr hname, hr, hfine⟩

theorem degraded_le_status_report (g : Registry) (moment : Int) (name : String)
    (hr : r ≠ .healthy) :
    .degraded ≤ (g.report moment name r).status :=
  (Report.degraded_le_status hr).trans
    (status_le_iff.mp le_rfl name _ (by rw [statusOf?_report, if_pos rfl]))

/-- **A failure makes nothing look better, but for a part that was unhealthy.** The last report of a
part counts, so a part that was unhealthy is degraded once it reports a failure. No other part fares
better for it, and the report that a part is unhealthy makes nothing better. The verdict gets better
just if the part was the only unhealthy one, and then the agent becomes ready just if its controller
runs. -/
theorem failure_betters_iff (g : Registry) (moment : Int) (name : String) (hr : r ≠ .healthy) :
    (∀ part, BetterAt part g (g.report moment name r) ↔ part = name ∧ g.Revives name r) ∧
    (g.Revives name r → (g.report moment name r).statusOf? name = some .degraded) ∧
    ((g.report moment name r).status < g.status ↔ g.Revives name r ∧ g.FineBut name) ∧
    (g.readiness.ready = false ∧ (g.report moment name r).readiness.ready = true ↔
      g.running = true ∧ g.Revives name r ∧ g.FineBut name) := by
  have hgone := down_and_not_down_report_iff g moment name hr
  refine ⟨fun part => betterAt_report_iff hr, fun h => ?_, ?_, ?_⟩
  · rw [statusOf?_report, if_pos rfl, h.2]
  · have hdegraded := degraded_le_status_report g moment name hr
    -- the verdict is not healthy after a failure, so it can only have been unhealthy before
    rw [Status.lt_iff_of_degraded_le hdegraded, ← hgone, ← status_eq_unhealthy_iff,
      ← status_eq_unhealthy_iff, ← ne_eq, ← Status.le_degraded_iff]
    exact and_congr_right fun _ => ⟨le_of_eq, fun h => le_antisymm h hdegraded⟩
  · have hrunning : (g.report moment name r).running = g.running := rfl
    rw [← hgone, ← Bool.not_eq_true, ready_iff, ready_iff, hrunning]
    constructor
    · rintro ⟨hbefore, hruns, hafter⟩
      exact ⟨hruns, not_not.mp fun hdown => hbefore ⟨hruns, hdown⟩, hafter⟩
    · rintro ⟨hruns, hdown, hafter⟩
      exact ⟨fun hbefore => hbefore.2 hdown, hruns, hafter⟩

/-- The controller runs, and two parts are unhealthy. -/
def twoDown : Registry :=
  ((empty.setRunning true).report 0 conditionPart (.unhealthy "no stat")).report 0 dispatcherPart
    (.unhealthy "no cluster")

/-- A sample fails, so the condition source can work. The dispatcher still cannot, so the agent is
as bad as before. -/
theorem one_of_two_revived :
    Report.failed "sample failed" ≠ .healthy ∧
    BetterAt conditionPart twoDown (twoDown.report 1 conditionPart (.failed "sample failed")) ∧
    ¬ BetterAt dispatcherPart twoDown (twoDown.report 1 conditionPart (.failed "sample failed")) ∧
    ¬ (twoDown.report 1 conditionPart (.failed "sample failed")).status < twoDown.status ∧
    ¬ (twoDown.report 1 conditionPart (.failed "sample failed")).readiness.ready = true := by
  have hfailed : Report.failed "sample failed" ≠ .healthy := nofun
  have hrevives : twoDown.Revives conditionPart (.failed "sample failed") := ⟨rfl, rfl⟩
  have hother : ¬ twoDown.FineBut conditionPart := fun h => h dispatcherPart (by decide) rfl
  obtain ⟨hparts, -, hverdict, hready⟩ := failure_betters_iff twoDown 1 conditionPart hfailed
  refine ⟨hfailed, (hparts _).mpr ⟨rfl, hrevives⟩, fun h => ?_, fun h => hother (hverdict.mp h).2,
    fun h => hother (hready.mp ⟨rfl, h⟩).2.2⟩
  exact absurd ((hparts _).mp h).1 (by decide)

/-- **A failure can make the agent ready.** The condition source is the only unhealthy part. With a
failed sample it is degraded, and so is the verdict, and the agent is ready. -/
theorem failed_sample_makes_ready :
    ∃ g g' : Registry,
      g = (empty.setRunning true).report 0 conditionPart (.unhealthy "no stat") ∧
      g' = g.report 1 conditionPart (.failed "sample failed") ∧
      BetterAt conditionPart g g' ∧ g'.status < g.status ∧
      g.readiness.ready = false ∧ g'.readiness.ready = true :=
  ⟨_, _, rfl, rfl, ⟨.unhealthy, .degraded, rfl, rfl, by decide⟩, by decide, rfl, rfl⟩

end Registry

end NodePressure
