import Mathlib.Data.List.Induction
import NodePressure.Controller.System

/-!
# NodePressure.Proofs.Controller.Steps - what each event does

One lemma for each event says when it is possible and what the system is afterwards, and `Kept` says
what it leaves alone. Telemetry is told a lot and decides nothing, so it is kept apart by `tell`.
-/

namespace NodePressure.Controller

/-- Whether an event is one of the controller or its dispatcher. -/
def Event.isOfController : Event → Bool
  | .answer _ | .take | .stop | .join => true
  | _ => false

/-- Whether an event is one of the loop. -/
def Event.isOfLoop : Event → Bool
  | .answerLoop _ | .wake | .accept | .refuse | .halt => true
  | _ => false

namespace System

variable {s s' : System} {f : (q : Ask) → q.Answer}

/-! ## Telemetry -/

section Tell

variable (s) (notes : List Note)

@[simp] theorem phase_tell : (s.tell notes).phase = s.phase := rfl

@[simp] theorem telemetry_tell :
    (s.tell notes).telemetry = s.telemetry.takeAll 0 notes := rfl

end Tell

section WithLoop

variable (s) (r : Pressure.Loop × List Note)

@[simp] theorem loop_withLoop : (s.withLoop r).loop = some r.1 := rfl

@[simp] theorem slot_withLoop : (s.withLoop r).slot = s.slot := rfl

@[simp] theorem telemetry_withLoop :
    (s.withLoop r).telemetry = s.telemetry.takeAll 0 r.2 := rfl

end WithLoop

/-! ## Going on with a dispatch -/

section Proceed

variable (s) (t : Task Outcome)

@[simp] theorem loop_proceed : (s.proceed t).loop = s.loop := by
  unfold proceed
  rcases t.settle with ⟨notes, a | ⟨q, next⟩⟩ <;> rfl

@[simp] theorem slot_proceed : (s.proceed t).slot = s.slot := by
  unfold proceed
  rcases t.settle with ⟨notes, a | ⟨q, next⟩⟩ <;> rfl

@[simp] theorem pace_proceed : (s.proceed t).pace = s.pace := by
  unfold proceed
  rcases t.settle with ⟨notes, a | ⟨q, next⟩⟩ <;> rfl

@[simp] theorem clock_proceed : (s.proceed t).clock = s.clock := by
  unfold proceed
  rcases t.settle with ⟨notes, a | ⟨q, next⟩⟩ <;> rfl

@[simp] theorem shutdown_proceed : (s.proceed t).shutdown = s.shutdown := by
  unfold proceed
  rcases t.settle with ⟨notes, a | ⟨q, next⟩⟩ <;> rfl

@[simp] theorem telemetry_proceed :
    (s.proceed t).telemetry = s.telemetry.takeAll 0 t.settle.1 := by
  unfold proceed
  rcases t.settle with ⟨notes, a | ⟨q, next⟩⟩ <;> rfl

theorem phase_proceed :
    (s.proceed t).phase = .idle ∨ ∃ q next, (s.proceed t).phase = .handling q next := by
  unfold proceed
  rcases t.settle with ⟨notes, a | ⟨q, next⟩⟩
  · exact .inl rfl
  · exact .inr ⟨q, next, rfl⟩

@[simp] theorem isClosed_proceed : (s.proceed t).isClosed = false := by
  rcases phase_proceed s t with h | ⟨q, next, h⟩ <;> simp [isClosed, h]

end Proceed

/-! ## Events of the loop -/

theorem step_answerLoop_iff :
    s.step (.answerLoop f) = some s' ↔ ∃ l started q next, s.loop = some l ∧
      l.phase = .ticking started q next ∧
      s' = s.withLoop (l.proceed started s.clock (next (f q))) := by
  cases hl : s.loop with
  | none => simp [step, hl]
  | some l =>
    cases hp : l.phase with
    | ticking started q next =>
      simp only [step, hl, hp, Pressure.Loop.asking, Pressure.Loop.resume, Option.bind_some,
        Option.isSome_some, if_true, Option.some.injEq]
      constructor
      · rintro rfl
        exact ⟨l, started, q, next, rfl, hp, rfl⟩
      · rintro ⟨_, _, _, _, rfl, hp', rfl⟩
        rw [hp] at hp'
        cases hp'
        rfl
    | _ => simp [step, hl, hp, Pressure.Loop.asking]

theorem step_wake_iff :
    s.step .wake = some s' ↔ ∃ l m, s.loop = some l ∧ l.phase = .sleeping m ∧ m ≤ s.clock ∧
      s' = s.withLoop (l.wake s.clock) := by
  cases hl : s.loop with
  | none => simp [step, hl]
  | some l =>
    cases hp : l.phase <;> simp [step, hl, hp, Pressure.Loop.wakes, @eq_comm _ s']

theorem step_accept_iff :
    s.step .accept = some s' ↔ ∃ l r since, s.loop = some l ∧ l.phase = .offering r since ∧
      s.slot = none ∧ s.isClosed = false ∧
      s' = { s with slot := some r }.withLoop (l.accepted s.clock) := by
  cases hl : s.loop with
  | none => simp [step, hl]
  | some l =>
    cases hs : s.slot <;> cases hp : l.phase <;>
      simp [step, hl, hs, hp, Pressure.Loop.offered, @eq_comm _ s']

theorem step_refuse_iff :
    s.step .refuse = some s' ↔ ∃ l r since, s.loop = some l ∧ l.phase = .offering r since ∧
      s.isClosed = true ∧ s' = s.withLoop (l.halt, []) := by
  cases hl : s.loop with
  | none => simp [step, hl]
  | some l =>
    cases hp : l.phase <;> simp [step, hl, hp, Pressure.Loop.offered, @eq_comm _ s']

theorem step_halt_iff :
    s.step .halt = some s' ↔ ∃ l, s.loop = some l ∧ s.phase = .stopping ∧
      l.isStoppable = true ∧ s' = s.withLoop (l.halt, []) := by
  cases hp : s.phase <;> cases hl : s.loop <;> simp [step, hl, hp, @eq_comm _ s']

/-! ## Events of the controller and its dispatcher -/

theorem step_pass_iff {span : Span} :
    s.step (.pass span) = some s' ↔ s' = { s with clock := s.clock + span } := by
  simp [step, @eq_comm _ s']

theorem step_request_iff : s.step .request = some s' ↔ s' = { s with shutdown := true } := by
  simp [step, @eq_comm _ s']

theorem step_answer_iff :
    s.step (.answer f) = some s' ↔
      (s.phase = .starting ∧ s' = s.started (f .start)) ∨
      (∃ since, s.phase = .reading since ∧ s' = s.launch since (f .readTaints)) ∨
      ∃ q next, s.phase = .handling q next ∧ s' = s.proceed (next (f q)) := by
  cases hp : s.phase with
  | handling q next =>
    simp only [step, answered, hp, Option.some.injEq, reduceCtorEq, false_and, exists_false,
      false_or]
    constructor
    · rintro rfl
      exact ⟨q, next, rfl, rfl⟩
    · rintro ⟨_, _, hp', rfl⟩
      cases hp'
      rfl
  | _ => simp [step, answered, hp, @eq_comm _ s']

theorem step_take_iff :
    s.step .take = some s' ↔ ∃ r, s.phase = .idle ∧ s.slot = some r ∧
      s' = { s with slot := none }.proceed (Dispatch.handle r) := by
  cases hp : s.phase <;> cases hs : s.slot <;> simp [step, hp, hs, @eq_comm _ s']

theorem step_stop_iff :
    s.step .stop = some s' ↔ s.phase = .idle ∧ s.shutdown = true ∧
      s' = { s with phase := .stopping, slot := none }.tell [.running false] := by
  cases hp : s.phase <;> simp [step, hp, @eq_comm _ s']

theorem step_join_iff :
    s.step .join = some s' ↔ ∃ l, s.loop = some l ∧ s.phase = .stopping ∧ l.isOver = true ∧
      s' = { s with phase := .ended none } := by
  cases hp : s.phase <;> cases hl : s.loop <;> simp [step, hl, hp, @eq_comm _ s']

/-! ## What events leave alone -/

/-- What an event leaves alone. -/
structure Kept (s : System) (e : Event) (s' : System) : Prop where
  pace : s'.pace = s.pace
  /-- Time does not run backwards. -/
  clock : s.clock ≤ s'.clock
  /-- Only a request tells the controller to stop. -/
  shutdown : e ≠ .request → s'.shutdown = s.shutdown
  phase : e.isOfController = false → s'.phase = s.phase
  /-- The controller leaves the loop alone, once it is launched. -/
  loop : e.isOfLoop = false →
    s'.loop = s.loop ∨ ∃ since answer, s.phase = .reading since ∧ s' = s.launch since answer
  slot : e ≠ .accept → e ≠ .take → e ≠ .stop → s'.slot = s.slot

/-- A step of the loop leaves the rest alone. -/
theorem Kept.withLoop {e : Event} (he : e.isOfLoop = true) (r : Pressure.Loop × List Note) :
    Kept s e (s.withLoop r) := by
  have hclock : s.clock ≤ s.clock := Int.le_refl _
  refine ⟨rfl, hclock, fun _ => rfl, fun _ => rfl, fun h => ?_, fun _ _ _ => rfl⟩
  simp [he] at h

/-- Every event leaves alone what is not its own. -/
theorem kept {e : Event} (hstep : s.step e = some s') : Kept s e s' := by
  have hclock : s.clock ≤ s.clock := Int.le_refl _
  cases e with
  | pass span =>
    obtain rfl := step_pass_iff.mp hstep
    have hlater : s.clock ≤ s.clock + span := Int.le_add_of_nonneg_right (Int.natCast_nonneg span)
    exact ⟨rfl, hlater, fun _ => rfl, fun _ => rfl, fun _ => .inl rfl, fun _ _ _ => rfl⟩
  | request =>
    obtain rfl := step_request_iff.mp hstep
    exact ⟨rfl, hclock, fun h => absurd rfl h, fun _ => rfl, fun _ => .inl rfl, fun _ _ _ => rfl⟩
  | answerLoop f =>
    obtain ⟨l, started, q, next, -, -, rfl⟩ := step_answerLoop_iff.mp hstep
    exact .withLoop rfl _
  | wake =>
    obtain ⟨l, m, -, -, -, rfl⟩ := step_wake_iff.mp hstep
    exact .withLoop rfl _
  | accept =>
    obtain ⟨l, r, since, -, -, -, -, rfl⟩ := step_accept_iff.mp hstep
    exact ⟨rfl, hclock, fun _ => rfl, fun _ => rfl, fun h => Bool.noConfusion h,
      fun h => absurd rfl h⟩
  | refuse =>
    obtain ⟨l, r, since, -, -, -, rfl⟩ := step_refuse_iff.mp hstep
    exact .withLoop rfl _
  | halt =>
    obtain ⟨l, -, -, -, rfl⟩ := step_halt_iff.mp hstep
    exact .withLoop rfl _
  | join =>
    obtain ⟨l, -, -, -, rfl⟩ := step_join_iff.mp hstep
    exact ⟨rfl, hclock, fun _ => rfl, fun h => Bool.noConfusion h, fun _ => .inl rfl,
      fun _ _ _ => rfl⟩
  | stop =>
    obtain ⟨-, -, rfl⟩ := step_stop_iff.mp hstep
    exact ⟨rfl, hclock, fun _ => rfl, fun h => Bool.noConfusion h, fun _ => .inl rfl,
      fun _ _ h => absurd rfl h⟩
  | take =>
    obtain ⟨r, -, -, rfl⟩ := step_take_iff.mp hstep
    exact ⟨by simp, by simp, fun _ => by simp, fun h => Bool.noConfusion h,
      fun _ => .inl (by simp), fun _ h => absurd rfl h⟩
  | answer f =>
    rcases step_answer_iff.mp hstep with ⟨-, rfl⟩ | ⟨since, hp, rfl⟩ | ⟨q, next, -, rfl⟩
    · unfold started
      split
      · exact ⟨rfl, hclock, fun _ => rfl, fun h => Bool.noConfusion h, fun _ => .inl rfl,
          fun _ _ _ => rfl⟩
      · exact ⟨rfl, hclock, fun _ => rfl, fun h => Bool.noConfusion h, fun _ => .inl rfl,
          fun _ _ _ => rfl⟩
    · exact ⟨rfl, hclock, fun _ => rfl, fun h => Bool.noConfusion h,
        fun _ => .inr ⟨since, _, hp, rfl⟩, fun _ _ _ => rfl⟩
    · exact ⟨by simp, by simp, fun _ => by simp, fun h => Bool.noConfusion h,
        fun _ => .inl (by simp), fun _ _ _ => by simp⟩

/-- Events of the loop need one that is not over. -/
theorem loop_of_step {e : Event} (he : e.isOfLoop = true) (hstep : s.step e = some s') :
    ∃ l, s.loop = some l ∧ l.isOver = false := by
  cases e with
  | answerLoop f =>
    obtain ⟨l, started, q, next, hl, hp, -⟩ := step_answerLoop_iff.mp hstep
    exact ⟨l, hl, by simp [Pressure.Loop.isOver, hp]⟩
  | wake =>
    obtain ⟨l, m, hl, hp, -, -⟩ := step_wake_iff.mp hstep
    exact ⟨l, hl, by simp [Pressure.Loop.isOver, hp]⟩
  | accept =>
    obtain ⟨l, r, since, hl, hp, -, -, -⟩ := step_accept_iff.mp hstep
    exact ⟨l, hl, by simp [Pressure.Loop.isOver, hp]⟩
  | refuse =>
    obtain ⟨l, r, since, hl, hp, -, -⟩ := step_refuse_iff.mp hstep
    exact ⟨l, hl, by simp [Pressure.Loop.isOver, hp]⟩
  | halt =>
    obtain ⟨l, hl, -, hstoppable, -⟩ := step_halt_iff.mp hstep
    refine ⟨l, hl, ?_⟩
    cases hp : l.phase <;>
      simp [Pressure.Loop.isStoppable, Pressure.Loop.isOver, hp] at hstoppable ⊢
  | _ => cases he

/-! ## Runs -/

variable {es es' : List Event}

/-- A run can be cut between any two events. -/
theorem run_append_iff :
    s.run (es ++ es') = some s' ↔ ∃ t, s.run es = some t ∧ t.run es' = some s' := by
  induction es generalizing s with
  | nil => simp [run]
  | cons e es ih =>
    rw [List.cons_append, run, run]
    cases s.step e with
    | none => simp
    | some t => exact ih

theorem run_singleton_iff {e : Event} : s.run [e] = some s' ↔ s.step e = some s' := by
  cases hstep : s.step e <;> simp [run, hstep]

/-- What holds at the beginning and is kept by every event holds after every run. -/
theorem run_induction {P : List Event → System → Prop} (start : P [] s)
    (step : ∀ es t e t', s.run es = some t → P es t → t.step e = some t' → P (es ++ [e]) t')
    (h : s.run es = some s') : P es s' := by
  induction es using List.reverseRecOn generalizing s' with
  | nil =>
    obtain rfl : s = s' := by simpa [run] using h
    exact start
  | append_singleton es e ih =>
    obtain ⟨t, hrun, hlast⟩ := run_append_iff.mp h
    exact step es t e s' hrun (ih hrun) (run_singleton_iff.mp hlast)

/-- What is gathered in a run, event by event, from the states before and after. -/
def gather {α : Type} (f : System → Event → System → List α) (s : System) : List Event → List α
  | [] => []
  | e :: es =>
    match s.step e with
    | some s' => f s e s' ++ s'.gather f es
    | none => []

theorem gather_concat {α : Type} {f : System → Event → System → List α} {t : System} {e : Event}
    (hrun : s.run es = some t) (hstep : t.step e = some s') :
    s.gather f (es ++ [e]) = s.gather f es ++ f t e s' := by
  induction es generalizing s with
  | nil =>
    obtain rfl : s = t := by simpa [run] using hrun
    simp [gather, hstep]
  | cons e' es ih =>
    obtain ⟨s₁, hfirst, hrest⟩ := Option.bind_eq_some_iff.mp hrun
    simp only [List.cons_append, gather, hfirst]
    rw [ih hrest, List.append_assoc]

end System

end NodePressure.Controller
