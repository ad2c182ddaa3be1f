import NodePressure.Proofs.Conduct
import NodePressure.Proofs.Controller.Steps

/-!
# NodePressure.Proofs.Controller.Conduct - loop and dispatcher keep to their tasks

What the loop still has to do of a tick is a task of ticks, and what the controller still has to do
of a signal is the task of a dispatch (`System.Proper`). So neither of them ever asks or tells what
is for the other one.
-/

namespace NodePressure

/-- The tick under way is one. -/
def Pressure.Loop.Proper (l : Pressure.Loop) : Prop :=
  match l.phase with
  | .ticking _ q next => q.OfTick ∧ ∀ b, TickLike (next b)
  | .sleeping _ | .offering .. | .ended => True

/-- A tick that goes on stays one. -/
theorem Pressure.Loop.proper_proceed {l : Pressure.Loop} {started now : Moment}
    {t : Task (Pressure.State × Option Resource)} (h : TickLike t) :
    (l.proceed started now t).1.Proper := by
  have hsettle := (Program.within_settle h).2
  unfold proceed
  rcases ht : t.settle with ⟨notes, ⟨state, signal⟩ | ⟨q, next⟩⟩
  · cases signal <;> trivial
  · rw [ht] at hsettle
    exact hsettle

/-- A tick that goes on tells what ticks tell, and at its end how long it took and its signal. -/
theorem Pressure.Loop.notes_proceed {l : Pressure.Loop} {started now : Moment}
    {t : Task (Pressure.State × Option Resource)} {n : Note} (h : TickLike t)
    (hn : n ∈ (l.proceed started now t).2) :
    n.OfTick ∨ (∃ span, n = .tickTook span) ∨ ∃ r, n = .count (.signals r) := by
  have hsettle := (Program.within_settle h).1
  unfold proceed at hn
  rcases ht : t.settle with ⟨notes, ⟨state, signal⟩ | ⟨q, next⟩⟩
  · rw [ht] at hn hsettle
    rcases List.mem_append.mp hn with hn | hn
    · exact .inl (hsettle n hn)
    · cases signal with
      | none => exact .inr (.inl ⟨_, List.mem_singleton.mp hn⟩)
      | some r =>
        rcases List.mem_cons.mp hn with rfl | hn
        · exact .inr (.inl ⟨_, rfl⟩)
        · exact .inr (.inr ⟨r, List.mem_singleton.mp hn⟩)
  · rw [ht] at hn hsettle
    exact .inl (hsettle n hn)

namespace Controller.System

/-- Whatever the loop and the dispatcher still have to do, it is their task. -/
structure Proper (s : System) : Prop where
  loop : ∀ l, s.loop = some l → l.Proper
  dispatch : match s.phase with
    | .handling q next => q.OfDispatch ∧ ∀ b, DispatchLike (next b)
    | .starting | .reading _ | .idle | .stopping | .ended _ => True

variable {s s' : System} {e : Event} {es : List Event}

theorem proper_start {pace : Pace} {telemetry : Telemetry} {now : Moment} :
    (start pace telemetry now).Proper :=
  ⟨fun l hl => by simp [start, tell] at hl, trivial⟩

namespace Proper

/-- Steps that leave the loop alone end a dispatch, or begin none. -/
theorem away (h : s.Proper) (hloop : s'.loop = s.loop)
    (hphase : s'.phase = s.phase ∨ ∀ q next, s'.phase ≠ .handling q next) : s'.Proper := by
  refine ⟨fun l hl => h.loop l (hloop ▸ hl), ?_⟩
  rcases hphase with hphase | hphase
  · rw [hphase]
    exact h.dispatch
  · cases hp : s'.phase with
    | handling q next => exact absurd hp (hphase q next)
    | _ => trivial

/-- A step of the loop leaves the dispatcher alone. -/
theorem withLoop (h : s.Proper) {r : Pressure.Loop × List Note} (hr : r.1.Proper) :
    (s.withLoop r).Proper := by
  refine ⟨fun l hl => ?_, h.dispatch⟩
  obtain rfl := Option.some_inj.mp hl
  exact hr

/-- A dispatch that goes on stays one. -/
theorem proceed (h : s.Proper) {t : Task Outcome} (ht : DispatchLike t) : (s.proceed t).Proper := by
  refine ⟨fun l hl => h.loop l (by simpa using hl), ?_⟩
  have hwithin := (Program.within_settle ht.within).2
  have htells := Program.tellsLast_settle ht.tellsLast
  unfold System.proceed
  rcases hsettle : t.settle with ⟨notes, o | ⟨q, next⟩⟩
  · trivial
  · rw [hsettle] at hwithin htells
    exact ⟨hwithin.1, fun b => ⟨hwithin.2 b, htells.2 b⟩⟩

/-- What the dispatcher asks is for dispatches, and what follows is one. -/
theorem of_handling (h : s.Proper) {q : Ask} {next : q.Answer → Task Outcome}
    (hphase : s.phase = .handling q next) : q.OfDispatch ∧ ∀ b, DispatchLike (next b) := by
  have hdispatch := h.dispatch
  rwa [hphase] at hdispatch

/-- What the loop asks is for ticks, and what follows is one. -/
theorem of_ticking (h : s.Proper) {l : Pressure.Loop} {started : Moment} {q : Ask}
    {next : q.Answer → Task (Pressure.State × Option Resource)} (hloop : s.loop = some l)
    (hphase : l.phase = .ticking started q next) : q.OfTick ∧ ∀ b, TickLike (next b) := by
  have hproper := h.loop l hloop
  rwa [Pressure.Loop.Proper, hphase] at hproper

theorem step (h : s.Proper) (hstep : s.step e = some s') : s'.Proper := by
  cases e with
  | pass span =>
    obtain rfl := step_pass_iff.mp hstep
    exact h.away rfl (.inl rfl)
  | request =>
    obtain rfl := step_request_iff.mp hstep
    exact h.away rfl (.inl rfl)
  | answerLoop f =>
    obtain ⟨l, started, q, next, hloop, hphase, rfl⟩ := step_answerLoop_iff.mp hstep
    exact h.withLoop (Pressure.Loop.proper_proceed ((h.of_ticking hloop hphase).2 (f q)))
  | wake =>
    obtain ⟨l, m, hloop, hphase, -, rfl⟩ := step_wake_iff.mp hstep
    exact h.withLoop (Pressure.Loop.proper_proceed (Pressure.tick_within _ _ _ _))
  | accept =>
    obtain ⟨l, r, since, hloop, hphase, -, -, rfl⟩ := step_accept_iff.mp hstep
    have hslot : ({ s with slot := some r } : System).Proper := h.away rfl (.inl rfl)
    refine hslot.withLoop ?_
    simp [Pressure.Loop.accepted, hphase, Pressure.Loop.rest, Pressure.Loop.Proper]
  | refuse =>
    obtain ⟨l, r, since, hloop, -, -, rfl⟩ := step_refuse_iff.mp hstep
    exact h.withLoop trivial
  | halt =>
    obtain ⟨l, hloop, -, -, rfl⟩ := step_halt_iff.mp hstep
    exact h.withLoop trivial
  | take =>
    obtain ⟨r, -, -, rfl⟩ := step_take_iff.mp hstep
    have hslot : ({ s with slot := none } : System).Proper := h.away rfl (.inl rfl)
    exact hslot.proceed (Dispatch.handle_dispatchLike r)
  | stop =>
    obtain ⟨-, -, rfl⟩ := step_stop_iff.mp hstep
    exact h.away rfl (.inr (by simp))
  | join =>
    obtain ⟨l, -, -, -, rfl⟩ := step_join_iff.mp hstep
    exact h.away rfl (.inr (by simp))
  | answer f =>
    rcases step_answer_iff.mp hstep with ⟨-, rfl⟩ | ⟨since, -, rfl⟩ | ⟨q, next, hphase, rfl⟩
    · cases hanswer : f .start with
      | ok u => exact h.away rfl (.inr (by simp [started]))
      | error f => exact h.away rfl (.inr (by simp [started]))
    · cases hanswer : f .readTaints with
      | ok live => exact ⟨fun l hl => Option.some_inj.mp hl ▸ trivial, trivial⟩
      | error f => exact ⟨fun l hl => Option.some_inj.mp hl ▸ trivial, trivial⟩
    · exact h.proceed ((h.of_handling hphase).2 (f q))

/-- In every run of a controller, loop and dispatcher keep to their tasks. -/
theorem run {pace : Pace} {telemetry : Telemetry} {now : Moment}
    (h : (System.start pace telemetry now).run es = some s) : s.Proper :=
  run_induction (P := fun _ t => t.Proper) proper_start (fun _ _ _ _ _ ht hstep => ht.step hstep) h

end Proper

end Controller.System

end NodePressure
