import NodePressure.Proofs.Controller.Conduct
import NodePressure.Proofs.Controller.Ledger
import NodePressure.Proofs.Controller.Pace

/-!
# NodePressure.Proofs.Controller.LifeCycle - from the start of a controller to its end

`Stage` says how far a controller has come: what it was answered, which calls the cluster has got
and whether it is ready. Every event goes on within a stage or to the next one, so each run is in
one of them. `Closing` is what holds once the dispatcher has stopped: nothing is dispatched any
more, and the loop, which notices the message to end at the latest when it falls asleep, begins one
more tick at most. `LifeCycle` puts together what follows for all runs (`life_cycle`).
-/

namespace NodePressure.Controller

/-- The answers that an event gives to the controller. -/
def Event.reply? : Event → Option ((q : Ask) → q.Answer)
  | .answer f => some f
  | _ => none

/-- The answers that the controller gets, in order. -/
def replies (es : List Event) : List ((q : Ask) → q.Answer) :=
  es.filterMap Event.reply?

/-- Whether an event is the beginning of a tick. -/
def Event.isWake : Event → Bool
  | .wake => true
  | _ => false

namespace System

/-- Whether the controller says that it is ready. -/
def ready (s : System) : Bool :=
  s.telemetry.health.running

/-- The questions that an event has led to, in the system after it. -/
def asks (s : System) : Event → List Ask
  | .answer _ | .take => s.asking.toList
  | .answerLoop _ | .wake => (s.loop.bind Pressure.Loop.asking).toList
  | _ => []

/-- The questions that are asked in a run. -/
def asked (s : System) (es : List Event) : List Ask :=
  s.gather (fun _ e after => after.asks e) es

/-- The calls that the cluster gets in a run. -/
def calls (s : System) (es : List Event) : List Ask :=
  (s.asked es).filter Ask.isClusterCall

/-- Whether the loop has fallen asleep between two states, and is not to wake at once. -/
def dozes (s s' : System) : Bool :=
  match s.loop.bind Pressure.Loop.wakes, s'.loop.bind Pressure.Loop.wakes with
  | none, some m => decide (s'.clock < m)
  | _, _ => false

/-- Whether the loop looks about when it falls asleep: if it is told to end it notices that, and
does not wake from this sleep. -/
def polls (s : System) : List Event → Bool
  | [] => true
  | e :: es =>
    match s.step e with
    | some s' =>
      (match s'.phase with
        | .stopping => !(s.dozes s') || !es.any Event.isWake
        | _ => true) && s'.polls es
    | none => true

end System

/-- What holds of every run of a controller: of the events so far, and of the system after them. -/
structure LifeCycle (first : System) (es : List Event) (s : System) : Prop where
  /-- If the condition source does not start, the run is over with its fault, and nothing else was
  done. -/
  failed : ∀ f fs fault, replies es = f :: fs → f .start = .error fault →
    s.result? = some (some (.notStarted fault)) ∧ first.calls es = [] ∧ s.loop = none ∧
    s.ready = false
  /-- Before it has started, the cluster gets no call. -/
  silent : replies es = [] → first.calls es = []
  /-- Then the taints are read, and the cluster gets no other call before it has answered. -/
  reading : ∀ f, replies es = [f] → f .start = .ok () → first.calls es = [.readTaints]
  reads : ∀ f g fs, replies es = f :: g :: fs → ∃ rest, first.calls es = .readTaints :: rest
  /-- The controller is ready from this answer on, until the dispatcher stops. -/
  ready : s.ready = true ↔ 2 ≤ (replies es).length ∧ .stop ∉ es
  /-- After the dispatcher has stopped there is no dispatch any more, and the loop, if it looks
  about when it falls asleep, begins at most one tick, whose signal goes nowhere. -/
  stopped : ∀ before after, es = before ++ .stop :: after →
    ∃ t, first.run (before ++ [.stop]) = some t ∧ t.run after = some s ∧
      (∀ w, .evict w ∉ t.asked after ∧ ∀ n, .label w n .add ∉ t.asked after) ∧
      .accept ∉ after ∧ .take ∉ after ∧ (first.polls es = true → after.countP Event.isWake ≤ 1)
  /-- A run that is over stays so, and nothing is done in it any more. -/
  ended : ∀ fault, s.result? = some fault → s.ready = false ∧ s.asking = none ∧
    s.loop.bind Pressure.Loop.asking = none ∧
    ∀ es' s', s.run es' = some s' →
      s.asked es' = [] ∧ s'.result? = some fault ∧ s'.ready = false
  /-- Only a condition source that does not start, or a shutdown, ends a run. -/
  lasting : ∀ fault, s.result? = some fault →
    (∃ f fs cause, replies es = f :: fs ∧ f .start = .error cause ∧
      fault = some (.notStarted cause)) ∨ (fault = none ∧ .request ∈ es)

variable {s s' t : System} {e : Event} {es : List Event}

/-! ## Questions and answers of longer runs -/

theorem calls_concat (hrun : s.run es = some t) (hstep : t.step e = some s') :
    s.calls (es ++ [e]) = s.calls es ++ (s'.asks e).filter Ask.isClusterCall := by
  rw [System.calls, System.asked, System.gather_concat hrun hstep, List.filter_append, System.calls,
    System.asked]

theorem replies_concat : replies (es ++ [e]) = replies es ++ e.reply?.toList := by
  rw [replies, List.filterMap_append, replies]
  cases e <;> rfl

/-- A run in which the loop looks about is one from any state in it. -/
theorem polls_append {es' : List Event} (hrun : s.run es = some t)
    (hpolls : s.polls (es ++ es') = true) : t.polls es' = true := by
  induction es generalizing s with
  | nil =>
    obtain rfl : s = t := by simpa [System.run] using hrun
    exact hpolls
  | cons e es ih =>
    obtain ⟨s₁, hfirst, hrest⟩ := Option.bind_eq_some_iff.mp hrun
    simp only [List.cons_append, System.polls, hfirst, Bool.and_eq_true] at hpolls
    exact ih hrest hpolls.2

/-! ## Readiness -/

variable {notes : List Note}

/-- Most notes say nothing about the controller. -/
theorem running_takeAll {telemetry : Telemetry} (h : ∀ n ∈ notes, ∀ b, n ≠ .running b) :
    (telemetry.takeAll 0 notes).health.running = telemetry.health.running := by
  induction notes generalizing telemetry with
  | nil => rfl
  | cons n notes ih =>
    obtain ⟨hn, hnotes⟩ := List.forall_mem_cons.mp h
    rw [Telemetry.takeAll, List.foldl_cons, ← Telemetry.takeAll, ih hnotes]
    cases n with
    | running b => exact absurd rfl (hn b)
    | _ => rfl

theorem running_takeAll_append {telemetry : Telemetry} {b : Bool} :
    (telemetry.takeAll 0 (notes ++ [.running b])).health.running = b := by
  rw [Telemetry.takeAll, List.foldl_append]
  rfl

theorem ready_withLoop {l : Pressure.Loop} {started now : Moment}
    {d : Task (Pressure.State × Option Resource)} (h : TickLike d) :
    (s.withLoop (l.proceed started now d)).ready = s.ready := by
  refine running_takeAll fun n hn b => ?_
  rcases Pressure.Loop.notes_proceed h hn with hn | ⟨span, rfl⟩ | ⟨r, rfl⟩
  · cases hn <;> simp
  · simp
  · simp

theorem ready_proceed {d : Task Outcome} (h : DispatchLike d) : (s.proceed d).ready = s.ready := by
  rw [System.ready, System.telemetry_proceed]
  refine running_takeAll fun n hn b => ?_
  cases (Program.within_settle h.within).1 n hn <;> simp

/-- Only the answer with the taints and the end of the dispatcher say whether the controller is
ready. -/
theorem ready_step (hproper : s.Proper) (hstep : s.step e = some s') (hstop : e ≠ .stop)
    (hphase : ∀ since, s.phase ≠ .reading since) : s'.ready = s.ready := by
  cases e with
  | stop => exact absurd rfl hstop
  | pass span =>
    obtain rfl := System.step_pass_iff.mp hstep
    rfl
  | request =>
    obtain rfl := System.step_request_iff.mp hstep
    rfl
  | answerLoop f =>
    obtain ⟨l, started, q, next, hloop, hticking, rfl⟩ := System.step_answerLoop_iff.mp hstep
    exact ready_withLoop ((hproper.of_ticking hloop hticking).2 (f q))
  | wake =>
    obtain ⟨l, m, -, -, -, rfl⟩ := System.step_wake_iff.mp hstep
    exact ready_withLoop (Pressure.tick_within _ _ _ _)
  | accept =>
    obtain ⟨l, r, since, -, hoffering, -, -, rfl⟩ := System.step_accept_iff.mp hstep
    refine running_takeAll fun n hn b => ?_
    simp only [Pressure.Loop.accepted, hoffering] at hn
    rcases List.mem_cons.mp hn with rfl | hn
    · simp
    · split at hn
      · obtain rfl := List.mem_singleton.mp hn
        simp
      · exact absurd hn List.not_mem_nil
  | refuse =>
    obtain ⟨l, r, since, -, -, -, rfl⟩ := System.step_refuse_iff.mp hstep
    rfl
  | halt =>
    obtain ⟨l, -, -, -, rfl⟩ := System.step_halt_iff.mp hstep
    rfl
  | take =>
    obtain ⟨r, -, -, rfl⟩ := System.step_take_iff.mp hstep
    exact ready_proceed (Dispatch.handle_dispatchLike r)
  | join =>
    obtain ⟨l, -, -, -, rfl⟩ := System.step_join_iff.mp hstep
    rfl
  | answer f =>
    rcases System.step_answer_iff.mp hstep with ⟨-, rfl⟩ | ⟨since, hp, rfl⟩ | ⟨q, next, hp, rfl⟩
    · cases f .start <;> rfl
    · exact absurd hp (hphase since)
    · exact ready_proceed ((hproper.of_handling hp).2 (f q))

/-! ## After the end -/

/-- The run has ended, and so has the loop if there was one. -/
def System.Over (s : System) (fault : Option ControllerFault) : Prop :=
  s.phase = .ended fault ∧ ∀ l, s.loop = some l → l.phase = .ended

variable {fault : Option ControllerFault}

/-- In a run that has ended time passes, and the rest comes too late. -/
theorem over_step (h : s.Over fault) (hstep : s.step e = some s') :
    s'.Over fault ∧ s'.ready = s.ready ∧ s'.asks e = [] ∧ e.isOfLoop = false ∧
      e.isOfController = false := by
  obtain ⟨hphase, hover⟩ := h
  by_cases he : e.isOfLoop = true
  · obtain ⟨l, hl, hlive⟩ := System.loop_of_step he hstep
    simp [Pressure.Loop.isOver, hover l hl] at hlive
  · cases e with
    | pass span =>
      obtain rfl := System.step_pass_iff.mp hstep
      exact ⟨⟨hphase, hover⟩, rfl, rfl, rfl, rfl⟩
    | request =>
      obtain rfl := System.step_request_iff.mp hstep
      exact ⟨⟨hphase, hover⟩, rfl, rfl, rfl, rfl⟩
    | join =>
      obtain ⟨l, -, hp, -, -⟩ := System.step_join_iff.mp hstep
      simp [hphase] at hp
    | take =>
      obtain ⟨r, hp, -, -⟩ := System.step_take_iff.mp hstep
      simp [hphase] at hp
    | stop =>
      obtain ⟨hp, -, -⟩ := System.step_stop_iff.mp hstep
      simp [hphase] at hp
    | answer f =>
      rcases System.step_answer_iff.mp hstep with ⟨hp, -⟩ | ⟨since, hp, -⟩ | ⟨q, next, hp, -⟩
      · simp [hphase] at hp
      · simp [hphase] at hp
      · simp [hphase] at hp
    | _ => exact absurd rfl he

theorem over_run (h : s.Over fault) (hrun : s.run es = some s') :
    s'.Over fault ∧ s'.ready = s.ready ∧ s.asked es = [] := by
  refine System.run_induction
    (P := fun es t => t.Over fault ∧ t.ready = s.ready ∧ s.asked es = [])
    ⟨h, rfl, rfl⟩ (fun es t e t' hrun ⟨hover, hready, hasked⟩ hstep => ?_) hrun
  obtain ⟨hover', hready', hasks, -, -⟩ := over_step hover hstep
  refine ⟨hover', hready'.trans hready, ?_⟩
  rw [System.asked, System.gather_concat hrun hstep, ← System.asked, hasked, hasks, List.append_nil]

/-! ## Stages -/

/-- The dispatcher has stopped, and the run is over or will be when the loop has ended. -/
def System.Closing (s : System) : Prop :=
  s.phase = .stopping ∨ s.Over none

/-- The condition source has started and the cluster has answered to the first call. -/
def Begun (es : List Event) (calls : List Ask) : Prop :=
  ∃ f g fs, replies es = f :: g :: fs ∧ f .start = .ok () ∧ ∃ rest, calls = .readTaints :: rest

/-- How far a run has come: its events, the calls that the cluster has got, and the system. -/
inductive Stage (es : List Event) (calls : List Ask) (s : System) : Prop
  | starting (phase : s.phase = .starting) (bare : s.Bare) (ready : s.ready = false)
      (answers : replies es = []) (calls : calls = []) (stop : .stop ∉ es)
  | failed (f : (q : Ask) → q.Answer) (fault : ConditionFault)
      (phase : s.phase = .ended (some (.notStarted fault))) (bare : s.Bare)
      (ready : s.ready = false) (answers : replies es = [f]) (answer : f .start = .error fault)
      (calls : calls = []) (stop : .stop ∉ es)
  | reading (f : (q : Ask) → q.Answer) (since : Moment) (phase : s.phase = .reading since)
      (bare : s.Bare) (ready : s.ready = false) (answers : replies es = [f])
      (answer : f .start = .ok ()) (calls : calls = [.readTaints]) (stop : .stop ∉ es)
  | serving (phase : s.phase = .idle ∨ ∃ q next, s.phase = .handling q next)
      (begun : Begun es calls) (ready : s.ready = true) (stop : .stop ∉ es)
  | closing (closing : s.Closing) (begun : Begun es calls) (ready : s.ready = false)
      (stop : .stop ∈ es) (request : .request ∈ es)

variable {calls more : List Ask}

theorem not_mem_concat {x : Event} (h : x ∉ es) (he : x ≠ e) : x ∉ es ++ [e] := by
  simp [h, he]

/-- What has begun goes on. -/
theorem Begun.concat (h : Begun es calls) : Begun (es ++ [e]) (calls ++ more) := by
  obtain ⟨f, g, fs, hreplies, hstart, rest, hcalls⟩ := h
  refine ⟨f, g, fs ++ e.reply?.toList, ?_, hstart, rest ++ more, ?_⟩
  · rw [replies_concat, hreplies, List.cons_append, List.cons_append]
  · rw [hcalls, List.cons_append]

/-- Before there is a loop, nothing happens but an answer. -/
theorem step_of_bare (hbare : s.Bare) (hidle : s.phase ≠ .idle) (hstep : s.step e = some s') :
    (∃ f, e = .answer f) ∨ s'.phase = s.phase ∧ s'.Bare ∧ s'.ready = s.ready ∧ s'.asks e = [] ∧
      e.reply? = none ∧ e ≠ .stop := by
  by_cases he : e.isOfLoop = true
  · obtain ⟨l, hl, -⟩ := System.loop_of_step he hstep
    simp [hbare.1] at hl
  · cases e with
    | answer f => exact .inl ⟨f, rfl⟩
    | pass span =>
      obtain rfl := System.step_pass_iff.mp hstep
      exact .inr ⟨rfl, hbare, rfl, rfl, rfl, by simp⟩
    | request =>
      obtain rfl := System.step_request_iff.mp hstep
      exact .inr ⟨rfl, hbare, rfl, rfl, rfl, by simp⟩
    | take =>
      obtain ⟨r, hp, -, -⟩ := System.step_take_iff.mp hstep
      exact absurd hp hidle
    | stop =>
      obtain ⟨hp, -, -⟩ := System.step_stop_iff.mp hstep
      exact absurd hp hidle
    | join =>
      obtain ⟨l, hl, -, -, -⟩ := System.step_join_iff.mp hstep
      simp [hbare.1] at hl
    | _ => exact absurd rfl he

/-- While the controller serves, only `stop` ends that. -/
theorem serving_step (h : s.phase = .idle ∨ ∃ q next, s.phase = .handling q next)
    (hstep : s.step e = some s') (hstop : e ≠ .stop) :
    s'.phase = .idle ∨ ∃ q next, s'.phase = .handling q next := by
  by_cases he : e.isOfController = false
  · rwa [(System.kept hstep).phase he]
  · cases e with
    | stop => exact absurd rfl hstop
    | join =>
      obtain ⟨l, -, hp, -, -⟩ := System.step_join_iff.mp hstep
      simp [hp] at h
    | take =>
      obtain ⟨r, -, -, rfl⟩ := System.step_take_iff.mp hstep
      exact System.phase_proceed _ _
    | answer f =>
      rcases System.step_answer_iff.mp hstep with ⟨hp, -⟩ | ⟨since, hp, -⟩ | ⟨q, next, -, rfl⟩
      · simp [hp] at h
      · simp [hp] at h
      · exact System.phase_proceed _ _
    | _ => exact absurd rfl he

/-- What the loop asks is for ticks. -/
theorem asking_of_proper (h : s.Proper) : ∀ q ∈ s.loop.bind Pressure.Loop.asking, q.OfTick := by
  intro q hq
  obtain ⟨l, hl, hasking⟩ := Option.bind_eq_some_iff.mp (Option.mem_def.mp hq)
  obtain ⟨started, next, hp⟩ : ∃ started next, l.phase = .ticking started q next := by
    cases hp : l.phase <;> simp [Pressure.Loop.asking, hp] at hasking
    subst hasking
    exact ⟨_, _, rfl⟩
  exact (h.of_ticking hl hp).1

/-- When the dispatcher has stopped, nothing is accepted, taken or answered any more. -/
theorem closing_step (h : s.Closing) (hstep : s.step e = some s') :
    s'.Closing ∧ e ≠ .accept ∧ e ≠ .take ∧ e ≠ .stop ∧ e.reply? = none := by
  rcases h with hp | hover
  · have hclosing (he : e.isOfController = false) : s'.Closing :=
      .inl (((System.kept hstep).phase he).trans hp)
    cases e with
    | accept =>
      obtain ⟨l, r, since, -, -, -, hopen, -⟩ := System.step_accept_iff.mp hstep
      simp [System.isClosed, hp] at hopen
    | join =>
      obtain ⟨l, hl, -, hover, rfl⟩ := System.step_join_iff.mp hstep
      refine ⟨.inr ⟨rfl, fun l' hl' => ?_⟩, by simp, by simp, by simp, rfl⟩
      obtain rfl := Option.some_inj.mp (hl.symm.trans hl')
      cases hp : l.phase <;> simp [Pressure.Loop.isOver, hp] at hover ⊢
    | take =>
      obtain ⟨r, hidle, -, -⟩ := System.step_take_iff.mp hstep
      simp [hp] at hidle
    | stop =>
      obtain ⟨hidle, -, -⟩ := System.step_stop_iff.mp hstep
      simp [hp] at hidle
    | answer f =>
      rcases System.step_answer_iff.mp hstep with ⟨hp', -⟩ | ⟨since, hp', -⟩ | ⟨q, next, hp', -⟩
      · simp [hp] at hp'
      · simp [hp] at hp'
      · simp [hp] at hp'
    | _ => exact ⟨hclosing rfl, by simp, by simp, by simp, rfl⟩
  · obtain ⟨hover', -, -, hloop, hcontroller⟩ := over_step hover hstep
    refine ⟨.inr hover', ?_⟩
    cases e with
    | pass span => exact ⟨by simp, by simp, by simp, rfl⟩
    | request => exact ⟨by simp, by simp, by simp, rfl⟩
    | answer f => cases hcontroller
    | take => cases hcontroller
    | stop => cases hcontroller
    | join => cases hcontroller
    | _ => cases hloop

/-- Without an answer to the controller, only the loop asks something. -/
theorem asks_ofTick (hproper : s.Proper) (hreply : e.reply? = none) (htake : e ≠ .take) :
    ∀ q ∈ s.asks e, q.OfTick := by
  intro q hq
  cases e with
  | answer f => cases hreply
  | take => exact absurd rfl htake
  | answerLoop f => exact asking_of_proper hproper q (Option.mem_toList.mp hq)
  | wake => exact asking_of_proper hproper q (Option.mem_toList.mp hq)
  | _ => exact absurd hq List.not_mem_nil

theorem request_mem {pace : Pace} {telemetry : Telemetry} {now : Moment}
    (h : (System.start pace telemetry now).run es = some s) (hs : s.shutdown = true) :
    .request ∈ es := by
  refine System.run_induction (P := fun es t => t.shutdown = true → .request ∈ es)
    (fun hs => by simp [System.start, System.tell] at hs)
    (fun es t e t' hrun ih hstep hs => ?_) h hs
  by_cases he : e = .request
  · subst he
    simp
  · exact List.mem_append_left _ (ih ((System.kept hstep).shutdown he ▸ hs))

/-- Every event goes on within a stage or to the next one. -/
theorem Stage.step (h : Stage es calls s) (hproper : s.Proper)
    (hshutdown : s.shutdown = true → .request ∈ es) (hstep : s.step e = some s') :
    Stage (es ++ [e]) (calls ++ (s'.asks e).filter Ask.isClusterCall) s' := by
  cases h with
  | starting phase bare ready answers calls stop =>
    subst calls
    rcases step_of_bare bare (by simp [phase]) hstep with ⟨f, rfl⟩ | ⟨hp, hb, hr, ha, hn, hne⟩
    · have hs' : s.started (f .start) = s' := by
        simpa [System.step, System.answered, phase] using hstep
      have hreplies : replies (es ++ [.answer f]) = [f] := by
        rw [replies_concat, answers]
        rfl
      have hstop : .stop ∉ es ++ [.answer f] := not_mem_concat stop (by simp)
      rw [← hs']
      cases hanswer : f .start with
      | ok u => exact .reading f s.clock rfl bare ready hreplies hanswer rfl hstop
      | error fault => exact .failed f fault rfl bare ready hreplies hanswer rfl hstop
    · refine .starting (hp.trans phase) hb (hr.trans ready) ?_ (by simp [ha])
        (not_mem_concat stop (Ne.symm hne))
      rw [replies_concat, answers, hn]
      rfl
  | failed f fault phase bare ready answers answer calls stop =>
    subst calls
    rcases step_of_bare bare (by simp [phase]) hstep with ⟨f, rfl⟩ | ⟨hp, hb, hr, ha, hn, hne⟩
    · simp [System.step, System.answered, phase] at hstep
    · refine .failed f fault (hp.trans phase) hb (hr.trans ready) ?_ answer (by simp [ha])
        (not_mem_concat stop (Ne.symm hne))
      rw [replies_concat, answers, hn]
      rfl
  | reading f since phase bare ready answers answer calls stop =>
    subst calls
    rcases step_of_bare bare (by simp [phase]) hstep with ⟨g, rfl⟩ | ⟨hp, hb, hr, ha, hn, hne⟩
    · have hs' : s.launch since (g .readTaints) = s' := by
        simpa [System.step, System.answered, phase] using hstep
      have hbegun : Begun (es ++ [.answer g])
          ([Ask.readTaints] ++ (s'.asks (.answer g)).filter Ask.isClusterCall) := by
        refine ⟨f, g, [], ?_, answer, _, rfl⟩
        rw [replies_concat, answers]
        rfl
      have hstop : .stop ∉ es ++ [.answer g] := not_mem_concat stop (by simp)
      have hready : s'.ready = true := by
        rw [← hs']
        cases g .readTaints with
        | ok live => exact running_takeAll_append
        | error fault => rfl
      refine .serving (.inl ?_) hbegun hready hstop
      rw [← hs']
      cases g .readTaints <;> rfl
    · refine .reading f since (hp.trans phase) hb (hr.trans ready) ?_ answer (by simp [ha])
        (not_mem_concat stop (Ne.symm hne))
      rw [replies_concat, answers, hn]
      rfl
  | serving phase begun ready stop =>
    by_cases he : e = .stop
    · subst he
      obtain ⟨-, hrequested, rfl⟩ := System.step_stop_iff.mp hstep
      refine .closing (.inl rfl) begun.concat rfl (by simp) ?_
      exact List.mem_append_left _ (hshutdown hrequested)
    · refine .serving (serving_step phase hstep he) begun.concat ?_
        (not_mem_concat stop (Ne.symm he))
      rw [← ready]
      refine ready_step hproper hstep he fun since hp => ?_
      simp [hp] at phase
  | closing closing begun ready stop request =>
    obtain ⟨hclosing, -, -, hne, -⟩ := closing_step closing hstep
    refine .closing hclosing begun.concat ?_ (List.mem_append_left _ stop)
      (List.mem_append_left _ request)
    rw [← ready]
    refine ready_step hproper hstep hne fun since hp => ?_
    simp [System.Closing, System.Over, hp] at closing

/-- Every run of a controller is at one of the stages. -/
theorem stage_run {pace : Pace} {telemetry : Telemetry} {now : Moment}
    (hready : telemetry.health.running = false)
    (h : (System.start pace telemetry now).run es = some s) :
    Stage es ((System.start pace telemetry now).calls es) s := by
  have hstart : Stage [] [] (System.start pace telemetry now) :=
    .starting rfl ⟨rfl, rfl⟩ hready rfl rfl (by simp)
  refine System.run_induction
    (P := fun es t => Stage es ((System.start pace telemetry now).calls es) t)
    hstart (fun es t e t' hrun ih hstep => ?_) h
  rw [calls_concat hrun hstep]
  exact ih.step (System.Proper.run hrun) (request_mem hrun) hstep

/-! ## After the dispatcher has stopped -/

/-- What holds when the dispatcher has stopped holds for the rest of the run. -/
theorem closing_run (h : s.Closing) (hproper : s.Proper) (hrun : s.run es = some s') :
    s'.Closing ∧ s'.Proper ∧ .accept ∉ es ∧ .take ∉ es ∧ ∀ q ∈ s.asked es, q.OfTick := by
  refine System.run_induction (P := fun es t => t.Closing ∧ t.Proper ∧ .accept ∉ es ∧ .take ∉ es ∧
    ∀ q ∈ s.asked es, q.OfTick)
    ⟨h, hproper, by simp, by simp, by simp [System.asked, System.gather]⟩
    (fun es t e t' hrun ⟨hclosing, hproper, haccept, htake, hasked⟩ hstep => ?_) hrun
  obtain ⟨hnext, ha, ht, -, hreply⟩ := closing_step hclosing hstep
  refine ⟨hnext, hproper.step hstep, not_mem_concat haccept (Ne.symm ha),
    not_mem_concat htake (Ne.symm ht), fun q hq => ?_⟩
  rw [System.asked, System.gather_concat hrun hstep] at hq
  rcases List.mem_append.mp hq with hq | hq
  · exact hasked q hq
  · exact asks_ofTick (hproper.step hstep) hreply ht q hq

/-- How often the loop may still wake when it is told to end. -/
def mayWake (s : System) : Nat :=
  match s.loop.bind Pressure.Loop.wakes with
  | some _ => 1
  | none => 0

/-- A tick that has just begun waits for an answer. -/
theorem mayWake_wake (s : System) (l : Pressure.Loop) (now : Moment) :
    mayWake (s.withLoop (l.wake now)) = 0 := by
  obtain ⟨q, next, hsettle⟩ := Pressure.settle_tick l.pace.resync (l.ticks + 1) now l.state
  simp [mayWake, Pressure.Loop.wake, Pressure.Loop.proceed, hsettle, Pressure.Loop.wakes]

/-- Only a tick that goes on, or a signal that is accepted, lets the loop wake once more. -/
theorem mayWake_step (hstep : s.step e = some s') (hanswer : ∀ f, e ≠ .answerLoop f)
    (haccept : e ≠ .accept) (hreading : ∀ since, s.phase ≠ .reading since) :
    mayWake s' ≤ mayWake s := by
  by_cases he : e.isOfLoop = false
  · rcases (System.kept hstep).loop he with hloop | ⟨since, _, hp, -⟩
    · simp [mayWake, hloop]
    · exact absurd hp (hreading since)
  · cases e with
    | answerLoop f => exact absurd rfl (hanswer f)
    | accept => exact absurd rfl haccept
    | wake =>
      obtain ⟨l, m, -, -, -, rfl⟩ := System.step_wake_iff.mp hstep
      rw [mayWake_wake]
      exact Nat.zero_le _
    | refuse =>
      obtain ⟨l, r, since, -, -, -, rfl⟩ := System.step_refuse_iff.mp hstep
      exact Nat.zero_le _
    | halt =>
      obtain ⟨l, -, -, -, rfl⟩ := System.step_halt_iff.mp hstep
      exact Nat.zero_le _
    | _ => exact absurd rfl he

/-- A loop that falls asleep wakes a period later. -/
theorem wakes_proceed {l : Pressure.Loop} {started now m : Moment}
    {d : Task (Pressure.State × Option Resource)}
    (h : (l.proceed started now d).1.wakes = some m) : m = now + l.pace.period := by
  unfold Pressure.Loop.proceed at h
  rcases hd : d.settle with ⟨notes, ⟨state, signal⟩ | ⟨q, next⟩⟩
  · rw [hd] at h
    cases signal with
    | none => exact (Option.some_inj.mp h).symm
    | some r => simp [Pressure.Loop.finish, Pressure.Loop.wakes] at h
  · simp [hd, Pressure.Loop.wakes] at h

/-- A loop that looks about when it falls asleep wakes once more at most. -/
theorem countP_wake_le (h : s.Closing) (hpace : s.InPace)
    (hperiod : 0 < s.pace.period) (hrun : s.run es = some s') (hpolls : s.polls es = true) :
    es.countP Event.isWake ≤ mayWake s := by
  induction es generalizing s with
  | nil => simp
  | cons e es ih =>
    obtain ⟨s₁, hstep, hrest⟩ := Option.bind_eq_some_iff.mp hrun
    simp only [System.polls, hstep, Bool.and_eq_true] at hpolls
    obtain ⟨hdozes, hpolls⟩ := hpolls
    obtain ⟨hnext, haccept, -⟩ := closing_step h hstep
    have hle := ih hnext (hpace.step hstep) ((System.kept hstep).pace ▸ hperiod) hrest hpolls
    cases e with
    | wake =>
      obtain ⟨l, m, hl, hp, -, rfl⟩ := System.step_wake_iff.mp hstep
      rw [mayWake_wake] at hle
      have hone : mayWake s = 1 := by simp [mayWake, hl, Pressure.Loop.wakes, hp]
      rw [List.countP_cons_of_pos rfl]
      omega
    | answerLoop f =>
      obtain ⟨l, started, q, next, hl, hp, rfl⟩ := System.step_answerLoop_iff.mp hstep
      rw [List.countP_cons_of_neg (by simp [Event.isWake])]
      cases hwakes : (l.proceed started s.clock (next (f q))).1.wakes with
      | none =>
        have hzero : mayWake (s.withLoop (l.proceed started s.clock (next (f q)))) = 0 := by
          simp [mayWake, hwakes]
        omega
      | some m =>
        -- the loop has fallen asleep and finds at once that it is told to end
        have hstopping : s.phase = .stopping := by
          rcases h with h | ⟨-, hover⟩
          · exact h
          · simp [hover l hl] at hp
        have hm : s.clock < m := by
          obtain ⟨s₀, t₀, ts, now, run, -⟩ := hpace l hl
          rw [wakes_proceed hwakes, run.pace_eq]
          exact Int.lt_add_of_pos_right _ (Int.natCast_pos.mpr hperiod)
        have hdoze : s.dozes (s.withLoop (l.proceed started s.clock (next (f q)))) = true := by
          have hawake : l.wakes = none := by simp [Pressure.Loop.wakes, hp]
          simp only [System.dozes, hl, System.loop_withLoop, Option.bind_some, hawake, hwakes]
          exact decide_eq_true hm
        have hnone : es.any Event.isWake = false := by
          have hphase : (s.withLoop (l.proceed started s.clock (next (f q)))).phase = .stopping :=
            hstopping
          simpa [hphase, hdoze] using hdozes
        have hzero : es.countP Event.isWake = 0 :=
          List.countP_eq_zero.mpr fun e he => by simp [List.any_eq_false.mp hnone e he]
        omega
    | _ =>
      have hreading : ∀ since, s.phase ≠ .reading since := fun since hp => by
        simp [System.Closing, System.Over, hp] at h
      rw [List.countP_cons_of_neg (by simp [Event.isWake])]
      exact Nat.le_trans hle (mayWake_step hstep (by simp) haccept hreading)

theorem mayWake_le_one : mayWake s ≤ 1 := by
  unfold mayWake
  split
  · exact Nat.le_refl 1
  · exact Nat.zero_le 1

/-! ## All runs -/

/-- A run that has a result is over, and the controller is not ready. -/
theorem Stage.over (h : Stage es calls s) (hresult : s.result? = some fault) :
    s.Over fault ∧ s.ready = false := by
  have hphase : s.phase = .ended fault := by
    unfold System.result? at hresult
    split at hresult
    · rename_i fault' hp
      rw [hp, Option.some_inj.mp hresult]
    · cases hresult
  cases h with
  | starting phase => simp [phase] at hphase
  | reading f since phase => simp [phase] at hphase
  | serving phase => simp [hphase] at phase
  | failed f cause phase bare ready => exact ⟨⟨hphase, by simp [bare.1]⟩, ready⟩
  | closing closing begun ready =>
    rcases closing with closing | ⟨-, hover⟩
    · simp [closing] at hphase
    · exact ⟨⟨hphase, hover⟩, ready⟩

/-- With a fault as the first answer the run has failed. -/
theorem Stage.of_fault {f : (q : Ask) → q.Answer} {fs : List ((q : Ask) → q.Answer)}
    {cause : ConditionFault} (h : Stage es calls s) (hreplies : replies es = f :: fs)
    (hcause : f .start = .error cause) :
    s.result? = some (some (.notStarted cause)) ∧ calls = [] ∧ s.loop = none ∧ s.ready = false := by
  cases h with
  | starting phase bare ready answers => simp [answers] at hreplies
  | failed g cause' phase bare ready answers answer calls =>
    obtain ⟨rfl, -⟩ := List.cons.inj (answers.symm.trans hreplies)
    obtain rfl : cause' = cause := Except.error.inj (answer.symm.trans hcause)
    exact ⟨by simp [System.result?, phase], calls, bare.1, ready⟩
  | reading g since phase bare ready answers answer =>
    obtain ⟨rfl, -⟩ := List.cons.inj (answers.symm.trans hreplies)
    simp [answer] at hcause
  | serving phase begun =>
    obtain ⟨g, _, _, answers, answer, -⟩ := begun
    obtain ⟨rfl, -⟩ := List.cons.inj (answers.symm.trans hreplies)
    simp [answer] at hcause
  | closing closing begun =>
    obtain ⟨g, _, _, answers, answer, -⟩ := begun
    obtain ⟨rfl, -⟩ := List.cons.inj (answers.symm.trans hreplies)
    simp [answer] at hcause

/-- Before an answer nothing is asked of the cluster. -/
theorem Stage.calls_of_none (h : Stage es calls s) (hreplies : replies es = []) : calls = [] := by
  cases h with
  | starting phase bare ready answers calls => exact calls
  | failed f cause phase bare ready answers => simp [answers] at hreplies
  | reading f since phase bare ready answers => simp [answers] at hreplies
  | serving phase begun =>
    obtain ⟨_, _, _, answers, -⟩ := begun
    simp [answers] at hreplies
  | closing closing begun =>
    obtain ⟨_, _, _, answers, -⟩ := begun
    simp [answers] at hreplies

/-- When the condition source has started, the taints are read. -/
theorem Stage.calls_of_one {f : (q : Ask) → q.Answer} (h : Stage es calls s)
    (hreplies : replies es = [f]) (hok : f .start = .ok ()) : calls = [.readTaints] := by
  cases h with
  | starting phase bare ready answers => simp [answers] at hreplies
  | failed g cause phase bare ready answers answer =>
    obtain rfl := List.singleton_inj.mp (answers.symm.trans hreplies)
    simp [answer] at hok
  | reading g since phase bare ready answers answer calls => exact calls
  | serving phase begun =>
    obtain ⟨_, _, _, answers, -⟩ := begun
    simp [answers] at hreplies
  | closing closing begun =>
    obtain ⟨_, _, _, answers, -⟩ := begun
    simp [answers] at hreplies

/-- The other calls come after that. -/
theorem Stage.calls_of_more {f g : (q : Ask) → q.Answer} {fs : List ((q : Ask) → q.Answer)}
    (h : Stage es calls s) (hreplies : replies es = f :: g :: fs) :
    ∃ rest, calls = .readTaints :: rest := by
  cases h with
  | starting phase bare ready answers => simp [answers] at hreplies
  | failed g cause phase bare ready answers => simp [answers] at hreplies
  | reading g since phase bare ready answers => simp [answers] at hreplies
  | serving phase begun =>
    obtain ⟨_, _, _, -, -, hcalls⟩ := begun
    exact hcalls
  | closing closing begun =>
    obtain ⟨_, _, _, -, -, hcalls⟩ := begun
    exact hcalls

theorem Stage.ready_iff (h : Stage es calls s) :
    s.ready = true ↔ 2 ≤ (replies es).length ∧ .stop ∉ es := by
  cases h with
  | starting phase bare ready answers => simp [ready, answers]
  | failed g cause phase bare ready answers => simp [ready, answers]
  | reading g since phase bare ready answers => simp [ready, answers]
  | serving phase begun ready stop =>
    obtain ⟨_, _, _, answers, -⟩ := begun
    simp [ready, answers, stop]
  | closing closing begun ready stop => simp [ready, stop]

/-- Only two things lead to a result. -/
theorem Stage.lasting (h : Stage es calls s) (hresult : s.result? = some fault) :
    (∃ f fs cause, replies es = f :: fs ∧ f .start = .error cause ∧
      fault = some (.notStarted cause)) ∨ (fault = none ∧ .request ∈ es) := by
  have hphase := (h.over hresult).1.1
  cases h with
  | starting phase => simp [phase] at hphase
  | reading g since phase => simp [phase] at hphase
  | serving phase => simp [hphase] at phase
  | failed f cause phase bare ready answers answer =>
    rw [phase] at hphase
    cases hphase
    exact .inl ⟨f, [], cause, answers, answer, rfl⟩
  | closing closing begun ready stop request =>
    rcases closing with closing | ⟨closing, -⟩
    · simp [closing] at hphase
    · rw [closing] at hphase
      cases hphase
      exact .inr ⟨rfl, request⟩

variable {pace : Pace} {telemetry : Telemetry} {now : Moment}

/-- What the dispatcher has left to the loop when it stops. -/
theorem stopped_run (hperiod : 0 < pace.period) {before after : List Event}
    (h : (System.start pace telemetry now).run (before ++ .stop :: after) = some s) :
    ∃ t, (System.start pace telemetry now).run (before ++ [.stop]) = some t ∧
      t.run after = some s ∧
      (∀ w, .evict w ∉ t.asked after ∧ ∀ n, .label w n .add ∉ t.asked after) ∧
      .accept ∉ after ∧ .take ∉ after ∧
      ((System.start pace telemetry now).polls (before ++ .stop :: after) = true →
        after.countP Event.isWake ≤ 1) := by
  rw [List.append_cons] at h
  obtain ⟨t, hbefore, hafter⟩ := System.run_append_iff.mp h
  obtain ⟨u, -, hstop⟩ := System.run_append_iff.mp hbefore
  obtain ⟨-, -, rfl⟩ := System.step_stop_iff.mp (System.run_singleton_iff.mp hstop)
  have hproper := System.Proper.run hbefore
  obtain ⟨-, -, haccept, htake, hasked⟩ := closing_run (.inl rfl) hproper hafter
  refine ⟨_, hbefore, hafter, fun w => ⟨fun hw => ?_, fun n hw => ?_⟩, haccept, htake,
    fun hpolls => ?_⟩
  · cases hasked _ hw
  · cases hasked _ hw
  · rw [List.append_cons] at hpolls
    have hperiod' := pace_run hbefore ▸ hperiod
    exact Nat.le_trans (countP_wake_le (.inl rfl) (loop_in_pace hbefore) hperiod' hafter
      (polls_append hbefore hpolls)) mayWake_le_one

/-- **The life cycle of a controller**, whatever it is answered and in every interleaving. -/
theorem life_cycle (hperiod : 0 < pace.period) (hready : telemetry.health.running = false)
    (h : (System.start pace telemetry now).run es = some s) :
    LifeCycle (System.start pace telemetry now) es s := by
  have hstage := stage_run hready h
  refine ⟨fun f fs fault => hstage.of_fault, hstage.calls_of_none, fun f => hstage.calls_of_one,
    fun f g fs => hstage.calls_of_more, hstage.ready_iff, fun before after heq => ?_,
    fun fault hresult => ?_, fun fault => hstage.lasting⟩
  · subst heq
    exact stopped_run hperiod h
  · obtain ⟨hover, hresting⟩ := hstage.over hresult
    refine ⟨hresting, by simp [System.asking, hover.1], ?_, fun es' s' hrun => ?_⟩
    · cases hloop : s.loop with
      | none => rfl
      | some l => simp [Pressure.Loop.asking, hover.2 l hloop]
    · obtain ⟨hover', hready', hasked⟩ := over_run hover hrun
      exact ⟨hasked, by simp [System.result?, hover'.1], hready'.trans hresting⟩

/-- The dispatcher stops while the loop, though its sleep is over, has not noticed that yet: one
more tick begins, nobody takes its signal for the disk, and the run is over. -/
theorem one_more_tick_after_stop :
    ∃ (before after : List Event) (s : System),
      let first := System.start .default (.fresh "n") 0
      let es := before ++ .stop :: after
      first.run es = some s ∧ s.result? = some none ∧ first.polls es = true ∧
      after.countP Event.isWake = 1 ∧ LifeCycle first es s := by
  let first := System.start .default (.fresh "n") 0
  let before : List Event :=
    [.answer (replying .full), .answer (replying .full)] ++ shortage .cpu ++ [.accept, .request]
  let after : List Event := shortage .diskIo ++ [.refuse, .join]
  have hend : (first.run (before ++ .stop :: after)).map System.result? = some (some none) := by
    decide +kernel
  have hpolls : first.polls (before ++ .stop :: after) = true := by decide +kernel
  obtain ⟨s, hs, hresult⟩ := Option.map_eq_some_iff.mp hend
  exact ⟨before, after, s, hs, hresult, hpolls, rfl, life_cycle (by decide) rfl hs⟩

end NodePressure.Controller
