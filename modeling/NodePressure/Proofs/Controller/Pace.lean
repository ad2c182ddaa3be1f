import NodePressure.Proofs.Controller.Steps
import NodePressure.Proofs.Pressure.Pacing

/-!
# NodePressure.Proofs.Controller.Pace - the loop of a controller in time

The loop that a controller launches goes through a run of `Pressure.Paced`, by the clock of the
controller: `loop_in_pace`. So what holds of these runs holds whatever else the controller and its
dispatcher do meanwhile.
-/

namespace NodePressure.Controller

/-- The loop, if there is one, has come so far by the clock. -/
def System.InPace (s : System) : Prop :=
  ∀ l, s.loop = some l → ∃ s₀ t₀ ts now, Pressure.Paced s.pace s₀ t₀ ts l now ∧ now ≤ s.clock

variable {s s' : System} {e : Event} {es : List Event}

namespace System.InPace

/-- Where the loop stays as it is, time may pass. -/
theorem keep (h : s.InPace) (hpace : s'.pace = s.pace) (hloop : s'.loop = s.loop)
    (hclock : s.clock ≤ s'.clock) : s'.InPace := by
  intro l hl
  obtain ⟨s₀, t₀, ts, now, run, hle⟩ := h l (hloop.symm.trans hl)
  rw [hpace]
  exact ⟨s₀, t₀, ts, now, run, Int.le_trans hle hclock⟩

/-- A loop that makes a step does so now. -/
theorem withLoop {s₀ : Pressure.State} {t₀ : Moment} {ts : List Pressure.Timed}
    {r : Pressure.Loop × List Note} (run : Pressure.Paced s.pace s₀ t₀ ts r.1 s.clock) :
    (s.withLoop r).InPace := by
  intro l hl
  obtain rfl : r.1 = l := Option.some_inj.mp hl
  exact ⟨s₀, t₀, ts, s.clock, run, Int.le_refl _⟩

/-- A loop that is launched has not done anything. -/
theorem launch (s : System) (since : Moment) (answer : Except ClusterFault TaintFlags) :
    (s.launch since answer).InPace := by
  intro l hl
  cases answer with
  | error f =>
    obtain rfl := Option.some_inj.mp hl
    exact ⟨_, _, [], s.clock, .start, Int.le_refl _⟩
  | ok live =>
    obtain rfl := Option.some_inj.mp hl
    exact ⟨_, _, [], s.clock, .start, Int.le_refl _⟩

theorem step (h : s.InPace) (hstep : s.step e = some s') : s'.InPace := by
  have hkept := kept hstep
  cases e with
  | answerLoop f =>
    obtain ⟨l, started, q, next, hloop, phase, rfl⟩ := step_answerLoop_iff.mp hstep
    obtain ⟨s₀, t₀, ts, now, run, hle⟩ := h l hloop
    have asks : l.asking = some q := by simp [Pressure.Loop.asking, phase]
    obtain ⟨earlier, t, rfl⟩ := run.follows.underway asks
    have hresume : l.resume f s.clock = l.proceed started s.clock (next (f q)) := by
      simp [Pressure.Loop.resume, phase]
    rw [← hresume]
    exact withLoop (run.answer s.clock asks hle f)
  | wake =>
    obtain ⟨l, m, hloop, phase, hdue, rfl⟩ := step_wake_iff.mp hstep
    obtain ⟨s₀, t₀, ts, now, run, hle⟩ := h l hloop
    exact withLoop (run.wake s.clock (Pressure.Loop.wakes_eq_some_iff.mpr phase) hdue hle)
  | accept =>
    obtain ⟨l, r, since, hloop, phase, -, -, rfl⟩ := step_accept_iff.mp hstep
    obtain ⟨s₀, t₀, ts, now, run, hle⟩ := h l hloop
    have offers : l.offered = some r := Pressure.Loop.offered_eq_some_iff.mpr ⟨since, phase⟩
    exact withLoop (s := { s with slot := some r }) (run.accept s.clock offers hle)
  | refuse =>
    obtain ⟨l, r, since, hloop, phase, -, rfl⟩ := step_refuse_iff.mp hstep
    obtain ⟨s₀, t₀, ts, now, run, hle⟩ := h l hloop
    exact withLoop (run.halt s.clock (by simp [Pressure.Loop.isStoppable, phase]) hle)
  | halt =>
    obtain ⟨l, hloop, -, hstoppable, rfl⟩ := step_halt_iff.mp hstep
    obtain ⟨s₀, t₀, ts, now, run, hle⟩ := h l hloop
    exact withLoop (run.halt s.clock hstoppable hle)
  | _ =>
    rcases hkept.loop rfl with hloop | ⟨since, answer, -, rfl⟩
    · exact h.keep hkept.pace hloop hkept.clock
    · exact launch s since answer

theorem run (h : s.InPace) (hrun : s.run es = some s') : s'.InPace := by
  induction es generalizing s with
  | nil =>
    obtain rfl : s = s' := by simpa [System.run] using hrun
    exact h
  | cons e es ih =>
    obtain ⟨s₁, hstep, hrest⟩ := Option.bind_eq_some_iff.mp hrun
    exact ih (h.step hstep) hrest

end System.InPace

/-- **The loop keeps its pace.** In every run of a controller, whatever the interleaving, the loop
goes through a run in time. -/
theorem loop_in_pace {pace : Pace} {telemetry : Telemetry} {now : Moment}
    (h : (System.start pace telemetry now).run es = some s) : s.InPace := by
  have hstart : (System.start pace telemetry now).InPace := by
    intro l hl
    simp [System.start, System.tell] at hl
  exact hstart.run h

/-- The pace of a controller is the one that it began with. -/
theorem pace_run {pace : Pace} {telemetry : Telemetry} {now : Moment}
    (h : (System.start pace telemetry now).run es = some s) : s.pace = pace :=
  System.run_induction (P := fun _ t => t.pace = pace) rfl
    (fun _ _ _ _ _ ih hstep => (System.kept hstep).pace.trans ih) h

end NodePressure.Controller
