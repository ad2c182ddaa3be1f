import NodePressure.Proofs.Pressure.Accounts
import NodePressure.Proofs.Pressure.Ticks
import NodePressure.Proofs.Telemetry.Reports

/-!
# NodePressure.Proofs.Pressure.Health - what ticks report of their calls

A tick makes one report, when its calls are over. It is the report of a failure if a call failed
that was to change something (`reports_tick`), so the entry of the loop follows from which ticks had
such a call. Taints that could not be read are no part of the report.
-/

namespace NodePressure

/-- An answer that is a fault. -/
def Ask.isFault : (q : Ask) → q.Answer → Bool
  | .start, answer => !answer.isOk
  | .grace, _ | .availability, _ => false
  | .readTaints, answer => !answer.isOk
  | .changeTaint .., answer => !answer.isOk
  | .clearLabels, answer => !answer.isOk
  | .choose _, answer => !answer.isOk
  | .evict _, answer => !answer.isOk
  | .label .., answer => !answer.isOk

/-- A call that is to change something in the cluster. -/
def Ask.isChange (q : Ask) : Bool :=
  q.isClusterCall && q != .readTaints

/-- Some of the given questions was answered by a fault. -/
def failsAmong (p : Ask → Bool) : List (Happening world) → Bool
  | [] => false
  | .noted _ :: hs => failsAmong p hs
  | .answered q answer :: hs => p q && q.isFault answer || failsAmong p hs

section FailsAmong

variable {p : Ask → Bool} {hs hs' : List (Happening world)}

theorem failsAmong_append :
    failsAmong p (hs ++ hs') = (failsAmong p hs || failsAmong p hs') := by
  fun_induction failsAmong p hs with
  | case1 => rfl
  | case2 n hs ih => exact ih
  | case3 q answer hs ih => rw [List.cons_append, failsAmong, ih, Bool.or_assoc]

/-- A call that failed is a reading of the taints, or was to change something. -/
theorem failsAmong_isClusterCall : failsAmong Ask.isClusterCall hs =
    (failsAmong (· == .readTaints) hs || failsAmong Ask.isChange hs) := by
  fun_induction failsAmong Ask.isClusterCall hs with
  | case1 => rfl
  | case2 n hs ih => exact ih
  | case3 q answer hs ih =>
    have hcall : q.isClusterCall = (q == .readTaints || q.isChange) := by cases q <;> rfl
    rw [failsAmong, failsAmong, ih, hcall]
    cases q == Ask.readTaints <;> cases q.isChange <;> cases q.isFault answer <;> simp

end FailsAmong

namespace Pressure

variable {σ : Type} {W : Replies world σ} {e e' : σ} {hs : List (Happening world)} {s s' : State}
  {now : Moment} {a : Availability} {grace : Span}

/-! ## The parts of a tick -/

/-- A visit makes no report; it hands on the fault of its call. -/
theorem silent_visit {d : Dimension} {r : Step}
    (h : Program.Exec W (visit a grace now d s) e hs r e') :
    reportsOf loopPart (notesOf hs) = [] ∧ r.2.isSome = failsAmong Ask.isChange hs := by
  rw [visit_eq] at h
  split at h
  · obtain ⟨rfl, rfl, -⟩ := Program.exec_done_iff.mp h
    exact ⟨rfl, rfl⟩
  · obtain ⟨answer, -, rfl, rfl⟩ := exec_transition_iff.mp h
    cases answer with
    | error f => exact ⟨rfl, rfl⟩
    | ok u => exact ⟨rfl, rfl⟩

/-- A sweep makes no report; it hands on the last fault. -/
theorem silent_sweep {ds : List Dimension} {fault : Option ClusterFault} {r : Step}
    (h : Program.Exec W (sweep a grace now ds s fault) e hs r e') :
    reportsOf loopPart (notesOf hs) = [] ∧
      r.2.isSome = (fault.isSome || failsAmong Ask.isChange hs) := by
  induction ds generalizing s fault e hs with
  | nil =>
    obtain ⟨rfl, rfl, -⟩ := Program.exec_done_iff.mp h
    exact ⟨rfl, (Bool.or_false _).symm⟩
  | cons d ds ih =>
    simp only [sweep, Program.exec_bind_iff] at h
    obtain ⟨step, e₁, hs₁, hs₂, hvisit, hsweep, rfl⟩ := h
    obtain ⟨hsilent, hstep⟩ := silent_visit hvisit
    obtain ⟨hsilent', hfault⟩ := ih hsweep
    constructor
    · rw [notesOf_append, reportsOf_append, hsilent, hsilent', List.append_nil]
    · rw [hfault, Option.isSome_or, hstep, failsAmong_append]
      cases failsAmong Ask.isChange hs₁ <;> cases fault <;> rfl

/-- The report of an idle tick is about its only call. -/
theorem reports_idle {r : State × Option Resource} (h : Program.Exec W (idle s) e hs r e') :
    ∃ fault, reportsOf loopPart (notesOf hs) = [.ofResult fault] ∧
      fault.isSome = failsAmong Ask.isChange hs := by
  simp only [idle, Program.exec_note_iff, Program.exec_ask_iff] at h
  obtain ⟨hs₁, rfl, answer, e₁, hs₂, -, rfl, h⟩ := h
  rcases answer with f | u
  · simp only [Program.exec_note_iff, Program.exec_done_iff] at h
    obtain ⟨hs₃, rfl, hs₄, rfl, rfl, -⟩ := h
    exact ⟨some f.message, rfl, rfl⟩
  · simp only [Program.exec_note_iff, Program.exec_done_iff] at h
    obtain ⟨hs₃, rfl, rfl, -⟩ := h
    exact ⟨none, rfl, rfl⟩

theorem reports_evaluate {r : State × Option Resource}
    (h : Program.Exec W (evaluate a grace now s) e hs r e') :
    ∃ fault, reportsOf loopPart (notesOf hs) = [.ofResult fault] ∧
      fault.isSome = failsAmong Ask.isChange hs := by
  unfold evaluate at h
  split at h
  · exact reports_idle h
  · simp only [Program.exec_bind_iff, Program.exec_note_iff, Program.exec_done_iff] at h
    obtain ⟨⟨s₁, fault⟩, e₁, hs₁, hs₂, hsweep, ⟨hs₃, rfl, rfl, -⟩, rfl⟩ := h
    obtain ⟨hsilent, hfault⟩ := silent_sweep hsweep
    refine ⟨fault.map ClusterFault.message, ?_, ?_⟩
    · rw [notesOf_append, reportsOf_append, hsilent]
      rfl
    · rw [Option.isSome_map, hfault, failsAmong_append]
      exact (Bool.or_false _).symm

/-- The reading of the taints makes no report, whether it fails or not. -/
theorem silent_resyncWith (h : Program.Exec W (resyncWith now s) e hs s' e') :
    reportsOf loopPart (notesOf hs) = [] ∧ failsAmong Ask.isChange hs = false := by
  obtain ⟨answer, e₁, hs₁, -, rfl, hnext⟩ := Program.exec_ask_iff.mp h
  rcases answer with fault | live
  · obtain ⟨rfl, -, -⟩ := Program.exec_done_iff.mp hnext
    exact ⟨rfl, rfl⟩
  · by_cases hl : live = s.flags
    · simp only [if_pos hl] at hnext
      obtain ⟨rfl, -, -⟩ := Program.exec_done_iff.mp hnext
      exact ⟨rfl, rfl⟩
    · simp only [if_neg hl, Program.exec_bind_iff, Program.exec_tellAll_iff,
        Program.exec_done_iff] at hnext
      obtain ⟨u, e₂, hs₂, hs₃, ⟨rfl, -⟩, ⟨rfl, -, -⟩, rfl⟩ := hnext
      exact ⟨rfl, rfl⟩

/-- A tick makes one report, of a failure if a call failed that was to change something. -/
theorem reports_tick {resync : Option Nat} {number : Nat} {r : State × Option Resource}
    (h : Program.Exec W (tick resync number now s) e hs r e') :
    ∃ fault, reportsOf loopPart (notesOf hs) = [.ofResult fault] ∧
      fault.isSome = failsAmong Ask.isChange hs := by
  simp only [tick, Program.exec_bind_iff, Program.exec_ask_iff] at h
  obtain ⟨s₁, e₁, hs₁, hs₂, hread, ⟨grace, e₂, hs₃, -, rfl, a, e₃, hs₄, -, rfl, heval⟩, rfl⟩ := h
  have hsilent : reportsOf loopPart (notesOf hs₁) = [] ∧ failsAmong Ask.isChange hs₁ = false := by
    split at hread
    · exact silent_resyncWith hread
    · obtain ⟨rfl, -, -⟩ := Program.exec_done_iff.mp hread
      exact ⟨rfl, rfl⟩
  obtain ⟨fault, hreport, hfault⟩ := reports_evaluate heval
  refine ⟨fault, ?_, ?_⟩
  · rw [notesOf_append, reportsOf_append, hsilent.1]
    exact hreport
  · rw [failsAmong_append, hsilent.2, hfault]
    rfl

/-! ## Runs -/

namespace Ticked

variable (t : Ticked)

/-- Some call of the tick failed. -/
def callFailed : Bool := failsAmong Ask.isClusterCall t.happenings

/-- The taints were to be read, and could not be. -/
def readFailed : Bool := failsAmong (· == .readTaints) t.happenings

/-- Some call of the tick that was to change something failed. -/
def changeFailed : Bool := failsAmong Ask.isChange t.happenings

end Ticked

variable {resync : Option Nat} {s₀ : State} {e₀ : σ} {ts earlier : List Ticked} {t : Ticked}
  {before : Telemetry} {notes : List (Int × Note)}

theorem reportsOnce_ticks (run : Ticking W resync s₀ e₀ ts s e) :
    Telemetry.ReportsOnce (fun t : Ticked => reportsOf loopPart (notesOf t.happenings))
      Ticked.changeFailed ts := by
  intro t ht
  obtain ⟨before, after, rfl⟩ := List.append_of_mem ht
  rw [List.append_cons] at run
  obtain ⟨s₁, e₁, run₁⟩ := run.take
  obtain ⟨-, -, e₂, -, hexec⟩ := run₁.last
  exact reports_tick hexec

/-- **The health of the loop.** After every tick of a run, whatever the calls are answered and
whatever else is told meanwhile, the loop is degraded if a call of that tick failed that was to
change a taint or to clear the labels, and healthy otherwise. It has failed in a row as often as the
ticks at the end that had such a call, each of them counted once. So it is degraded just if some
call of the tick failed, but for the ticks of which only the reading of the taints failed. -/
theorem health_after_ticks (run : Ticking W resync s₀ e₀ (earlier ++ [t]) s e)
    (hstart : before.health.failuresOf loopPart = 0)
    (hnotes : reportsOf loopPart (notes.map Prod.snd) =
      reportsOf loopPart (notesOf ((earlier ++ [t]).flatMap Ticked.happenings))) :
    (before.hear notes).health.statusOf? loopPart =
      some (if t.changeFailed then .degraded else .healthy) ∧
    (before.hear notes).health.failuresOf loopPart =
      min ((earlier ++ [t]).rtakeWhile Ticked.changeFailed).length Number.max32 ∧
    (((before.hear notes).health.statusOf? loopPart = some .degraded ↔ t.callFailed = true) ↔
      ¬ (t.readFailed = true ∧ t.changeFailed = false)) := by
  rw [notesOf_flatMap, reportsOf_flatMap] at hnotes
  have honce := reportsOnce_ticks run
  have hstatus := Telemetry.statusOf?_hear_stretches (t := before) honce hnotes
  refine ⟨hstatus, Telemetry.failuresOf_hear_stretches honce hnotes hstart, ?_⟩
  have hcalls : t.callFailed = (t.readFailed || t.changeFailed) := failsAmong_isClusterCall
  rw [hstatus, hcalls]
  cases t.readFailed <;> cases t.changeFailed <;> decide

/-- The processor is short. A node cannot be tainted at two ticks; at the third one the taints
cannot be read, but the node can be tainted. The loop has failed twice, and then it is healthy. -/
theorem two_ticks_fail :
    ∃ t u v : Ticked, Ticking anyReply (some 3) .fresh () ([t, u] ++ [v]) v.after () ∧
      t.changeFailed = true ∧ u.changeFailed = true ∧ v.callFailed = true ∧
      ∀ notes : List (Int × Note),
        (reportsOf loopPart (notes.map Prod.snd) =
            reportsOf loopPart (notesOf (([t] ++ [u]).flatMap Ticked.happenings)) →
          ((Telemetry.fresh "n").hear notes).health.statusOf? loopPart = some .degraded ∧
          ((Telemetry.fresh "n").hear notes).health.failuresOf loopPart = 2) ∧
        (reportsOf loopPart (notes.map Prod.snd) =
            reportsOf loopPart (notesOf (([t, u] ++ [v]).flatMap Ticked.happenings)) →
          ((Telemetry.fresh "n").hear notes).health.statusOf? loopPart = some .healthy ∧
          ((Telemetry.fresh "n").hear notes).health.failuresOf loopPart = 0) := by
  let reply (taint : Except ClusterFault Unit) : (q : Ask) → q.Answer
    | .grace => Span.seconds 30
    | .availability => .without [.cpu]
    | .changeTaint .. => taint
    | q => q.silence
  let refused : (q : Ask) → q.Answer := reply (.error (.other "refused"))
  let s₁ : State := State.fresh.setBusy .cpu 0
  let s₂ : State := s₁.setBusy .cpu (Span.seconds 10)
  let t : Ticked := .play (some 3) refused 1 0 .fresh
  let u : Ticked := .play (some 3) refused 2 (Span.seconds 10) s₁
  let v : Ticked := .play (some 3) (reply (.ok ())) 3 (Span.seconds 20) s₂
  have first : Ticking anyReply (some 3) .fresh () [t] s₁ () := Ticking.start.play refused 0
  have second : Ticking anyReply (some 3) .fresh () ([t] ++ [u]) s₂ () := first.play refused _
  have third : Ticking anyReply (some 3) .fresh () ([t, u] ++ [v]) v.after () :=
    second.play (reply (.ok ())) _
  have ht : t.changeFailed = true := rfl
  have hu : u.changeFailed = true := rfl
  have hv : v.changeFailed = false := rfl
  have hfresh : (Telemetry.fresh "n").health.failuresOf loopPart = 0 := rfl
  refine ⟨t, u, v, third, ht, hu, rfl, fun notes => ⟨fun hnotes => ?_, fun hnotes => ?_⟩⟩
  · obtain ⟨hstatus, hfailures, -⟩ := health_after_ticks second hfresh hnotes
    rw [hstatus, hfailures, hu]
    exact ⟨rfl, by simp [List.rtakeWhile, ht, hu, Number.max32]⟩
  · obtain ⟨hstatus, hfailures, -⟩ := health_after_ticks third hfresh hnotes
    rw [hstatus, hfailures, hv]
    exact ⟨rfl, by simp [List.rtakeWhile, hv]⟩

/-- **A failed reading is not reported.** At the first tick the taints are read, which fails, and
the loop is healthy. -/
theorem failed_reading_is_not_reported :
    ∃ t : Ticked, Ticking anyReply (some 1) .fresh () [t] t.after () ∧
      t.callFailed = true ∧
      (((Telemetry.fresh "n").hear ((notesOf t.happenings).map (Prod.mk 0))).health.statusOf?
        loopPart = some .healthy) ∧
      ((Telemetry.fresh "n").hear ((notesOf t.happenings).map (Prod.mk 0))).health.failuresOf
        loopPart = 0 := by
  let reply : (q : Ask) → q.Answer
    | .readTaints => .error (.other "injected get failure")
    | .clearLabels => .ok ()
    | q => q.silence
  refine ⟨.play (some 1) reply 1 0 .fresh, Ticking.start.play reply 0, rfl, rfl, rfl⟩

end Pressure

end NodePressure
