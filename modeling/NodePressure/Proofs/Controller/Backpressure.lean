import NodePressure.Proofs.Controller.Conduct
import NodePressure.Proofs.Controller.Ledger

/-!
# NodePressure.Proofs.Controller.Backpressure - a slow dispatcher holds up the loop

The channel accepts the signals that ticks return, and the dispatcher takes them from it. A signal
that was returned and not accepted is offered by the loop, which does nothing else, or was when the
loop ended (`Offered`); of those that were accepted at most one was not taken (`Held`). The counters
of telemetry count the returned signals and the finished dispatches (`Tally`). Together this bounds
how far the loop may run ahead of the dispatcher (`sampling_stalls`).
-/

namespace NodePressure.Controller

/-- The signals that the channel accepts at an event. -/
def System.accepts (s : System) : Event → List Resource
  | .accept => s.offers
  | _ => []

/-- The signals that the channel accepts in a run. -/
def System.accepted (s : System) (es : List Event) : List Resource :=
  s.gather (fun before e _ => before.accepts e) es

variable {s s' t : System} {l : Ledger} {e : Event} {es : List Event}

theorem accepts_of_ne (h : e ≠ .accept) : s.accepts e = [] := by
  cases e with
  | accept => exact absurd rfl h
  | _ => rfl

/-- The books of a run that goes on for one event. -/
theorem ledger_concat (hrun : s.run es = some t) (hstep : t.step e = some s') :
    s.ledger l (es ++ [e]) = (s.ledger l es).enter t e := by
  induction es generalizing s l with
  | nil =>
    obtain rfl : s = t := by simpa [System.run] using hrun
    simp [System.ledger, hstep]
  | cons e' es ih =>
    obtain ⟨s₁, hfirst, hrest⟩ := Option.bind_eq_some_iff.mp hrun
    simp only [List.cons_append, System.ledger, hfirst]
    exact ih hrest

/-! ## What is offered -/

/-- The loop has ended. -/
def System.LoopOver (s : System) : Prop :=
  ∃ l, s.loop = some l ∧ l.isOver = true

/-- A signal that was returned and not accepted is offered, or was lost at the end of the loop. -/
def Offered (s : System) (returned accepted : List Resource) : Prop :=
  ∃ lost, returned = accepted ++ lost ∧ lost.length ≤ 1 ∧ (lost = s.offers ∨ s.LoopOver)

variable {returned accepted taken : List Resource} {loop : Pressure.Loop}

/-- Before the loop ends, what was not accepted is offered. -/
theorem Offered.eq (h : Offered s returned accepted) (hover : ¬ s.LoopOver) :
    returned = accepted ++ s.offers := by
  obtain ⟨lost, heq, -, hlost | hlost⟩ := h
  · rw [heq, hlost]
  · exact absurd hlost hover

theorem Offered.of_eq (heq : returned = accepted ++ s.offers) : Offered s returned accepted := by
  have hle := offers_length_add_le s
  exact ⟨s.offers, heq, by omega, .inl rfl⟩

theorem Offered.keep (h : Offered s returned accepted) (hloop : s'.loop = s.loop) :
    Offered s' returned accepted := by
  rwa [Offered, System.offers, System.LoopOver, hloop]

/-- A loop that sleeps or ticks has nothing to offer, so the tick that goes on offers all. -/
theorem Offered.tick (h : Offered s returned accepted) (hloop : s.loop = some loop)
    (hmay : mayReturn loop = 1) {x : Pressure.Loop} {started now : Moment}
    {d : Task (Pressure.State × Option Resource)} :
    Offered (s.withLoop (x.proceed started now d)) (returned ++ returnedBy d) accepted := by
  have hover : ¬ s.LoopOver := by
    rintro ⟨l, hl, hover⟩
    obtain rfl := Option.some_inj.mp (hloop.symm.trans hl)
    cases hp : loop.phase <;> simp [mayReturn, Pressure.Loop.isOver, hp] at hmay hover
  have hoffers : s.offers = [] := by
    have hcome : s.toCome = 1 := by simp [System.toCome, hloop, hmay]
    have hle := offers_length_add_le s
    exact List.length_eq_zero_iff.mp (by omega)
  refine .of_eq ?_
  rw [h.eq hover, hoffers, List.append_nil]
  simp [System.offers, offered_proceed]

/-- A loop that ends loses what it offers. -/
theorem Offered.halt (h : Offered s returned accepted) {notes : List Note} :
    Offered (s.withLoop (loop.halt, notes)) returned accepted := by
  obtain ⟨lost, heq, hle, -⟩ := h
  exact ⟨lost, heq, hle, .inr ⟨_, rfl, rfl⟩⟩

/-- A signal that is accepted is no longer offered. -/
theorem Offered.accept (h : Offered s returned accepted) (hstep : s.step .accept = some s') :
    Offered s' returned (accepted ++ s.offers) := by
  obtain ⟨loop, r, since, hloop, hphase, -, -, rfl⟩ := System.step_accept_iff.mp hstep
  have hover : ¬ s.LoopOver := by
    rintro ⟨l, hl, hover⟩
    obtain rfl := Option.some_inj.mp (hloop.symm.trans hl)
    simp [Pressure.Loop.isOver, hphase] at hover
  refine .of_eq ?_
  rw [← h.eq hover]
  simp [System.offers, Pressure.Loop.accepted, hphase, Pressure.Loop.rest, Pressure.Loop.offered]

/-- Only steps of the loop enter what ticks return. -/
theorem returned_enter (he : e.isOfLoop = false) : (l.enter s e).returned = l.returned := by
  cases e with
  | answer f => exact channel_enter_answer.1
  | take =>
    rw [Ledger.enter]
    cases s.slot with
    | none => rfl
    | some r => exact returned_dispatch
  | answerLoop f => cases he
  | wake => cases he
  | _ => rfl

/-- Unless it is accepted, a signal stays offered, or is lost when the loop ends. -/
theorem Offered.step (h : Offered s l.returned accepted)
    (hearly : (s.phase = .starting ∨ ∃ since, s.phase = .reading since) → s.Bare)
    (hstep : s.step e = some s') (hne : e ≠ .accept) :
    Offered s' (l.enter s e).returned accepted := by
  by_cases he : e.isOfLoop = false
  · rw [returned_enter he]
    rcases (System.kept hstep).loop he with hloop | ⟨since, answer, hp, rfl⟩
    · exact h.keep hloop
    · -- the loop starts with a sleep, where there was none
      have hloop : s.loop = none := (hearly (.inr ⟨since, hp⟩)).1
      have heq := h.eq (by
        rintro ⟨l, hl, -⟩
        simp [hloop] at hl)
      refine .of_eq ?_
      rw [heq, System.offers, hloop]
      cases answer <;> rfl
  · cases e with
    | accept => exact absurd rfl hne
    | answerLoop f =>
      obtain ⟨loop, started, q, next, hloop, hphase, rfl⟩ := System.step_answerLoop_iff.mp hstep
      simp only [Ledger.enter, hloop, Option.map_some, hphase]
      exact h.tick hloop (by simp [mayReturn, hphase])
    | wake =>
      obtain ⟨loop, m, hloop, hphase, -, rfl⟩ := System.step_wake_iff.mp hstep
      simp only [Ledger.enter, hloop]
      exact h.tick hloop (by simp [mayReturn, hphase])
    | refuse =>
      obtain ⟨loop, r, since, hloop, -, -, rfl⟩ := System.step_refuse_iff.mp hstep
      exact h.halt
    | halt =>
      obtain ⟨loop, hloop, -, -, rfl⟩ := System.step_halt_iff.mp hstep
      exact h.halt
    | _ => exact absurd rfl he

/-! ## What is held -/

/-- A signal that was accepted and not taken is in the channel, or was when the dispatcher stopped.
-/
def Held (s : System) (accepted taken : List Resource) : Prop :=
  ∃ held, accepted = taken ++ held ∧ held.length ≤ 1 ∧ (s.isClosed = false → held = s.slot.toList)

theorem Held.eq (h : Held s accepted taken) (hc : s.isClosed = false) :
    accepted = taken ++ s.slot.toList := by
  obtain ⟨held, heq, -, hopen⟩ := h
  rw [heq, hopen hc]

theorem Held.of_eq (heq : accepted = taken ++ s.slot.toList) : Held s accepted taken := by
  have hle : s.slot.toList.length ≤ 1 := by cases s.slot <;> simp
  exact ⟨s.slot.toList, heq, hle, fun _ => rfl⟩

theorem Held.keep (h : Held s accepted taken) (hslot : s'.slot = s.slot)
    (hc : s'.isClosed = false → s.isClosed = false) : Held s' accepted taken := by
  obtain ⟨held, heq, hle, hopen⟩ := h
  exact ⟨held, heq, hle, fun hc' => hslot ▸ hopen (hc hc')⟩

theorem Held.close (h : Held s accepted taken) (hc : s'.isClosed = true) :
    Held s' accepted taken := by
  obtain ⟨held, heq, hle, -⟩ := h
  exact ⟨held, heq, hle, fun hc' => absurd (hc.symm.trans hc') (by decide)⟩

/-- A signal that is accepted is in the channel. -/
theorem Held.accept (h : Held s accepted taken) (hstep : s.step .accept = some s') :
    Held s' (accepted ++ s.offers) taken := by
  obtain ⟨loop, r, since, hloop, hphase, hslot, hc, rfl⟩ := System.step_accept_iff.mp hstep
  have heq := h.eq hc
  rw [hslot] at heq
  refine .of_eq ?_
  simp [heq, System.offers, hloop, hphase, Pressure.Loop.offered]

/-- Only the step that takes a signal enters what was taken. -/
theorem taken_enter (hne : e ≠ .take) : (l.enter s e).taken = l.taken := by
  cases e with
  | take => exact absurd rfl hne
  | answer f => exact channel_enter_answer.2
  | answerLoop f =>
    rw [Ledger.enter]
    split <;> rfl
  | wake =>
    rw [Ledger.enter]
    split <;> rfl
  | _ => rfl

/-- A signal stays in the channel until it is taken, or the dispatcher stops. -/
theorem Held.step (h : Held s accepted l.taken) (hstep : s.step e = some s') (hne : e ≠ .accept) :
    Held s' accepted (l.enter s e).taken := by
  by_cases htake : e = .take
  · subst htake
    obtain ⟨r, hphase, hslot, rfl⟩ := System.step_take_iff.mp hstep
    have heq := h.eq (by simp [System.isClosed, hphase])
    rw [hslot] at heq
    simp only [Ledger.enter, hslot, taken_dispatch]
    refine .of_eq ?_
    simp [heq]
  · rw [taken_enter htake]
    have hkept := System.kept hstep
    cases e with
    | take => exact absurd rfl htake
    | stop =>
      obtain ⟨-, -, rfl⟩ := System.step_stop_iff.mp hstep
      exact h.close rfl
    | join =>
      obtain ⟨loop, -, -, -, rfl⟩ := System.step_join_iff.mp hstep
      exact h.close rfl
    | answer f =>
      refine h.keep (hkept.slot hne htake (by simp)) fun _ => ?_
      rcases System.step_answer_iff.mp hstep with ⟨hp, -⟩ | ⟨since, hp, -⟩ | ⟨q, next, hp, -⟩
      · simp [System.isClosed, hp]
      · simp [System.isClosed, hp]
      · simp [System.isClosed, hp]
    | _ =>
      refine h.keep (hkept.slot hne htake (by simp)) fun hopen => ?_
      rwa [System.isClosed, hkept.phase rfl] at hopen

/-- What is neither taken nor given up is in the channel or offered, after every run. -/
theorem flow_run {pace : Pace} {telemetry : Telemetry} {now : Moment}
    (h : (System.start pace telemetry now).run es = some s) :
    let l := (System.start pace telemetry now).ledger .empty es
    let accepted := (System.start pace telemetry now).accepted es
    Offered s l.returned accepted ∧ Held s accepted l.taken := by
  refine System.run_induction
    (P := fun es t => Offered t ((System.start pace telemetry now).ledger .empty es).returned
      ((System.start pace telemetry now).accepted es) ∧
      Held t ((System.start pace telemetry now).accepted es)
        ((System.start pace telemetry now).ledger .empty es).taken)
    ⟨.of_eq rfl, .of_eq rfl⟩ (fun es t e t' hrun ⟨hoffered, hheld⟩ hstep => ?_) h
  rw [ledger_concat hrun hstep, System.accepted, System.gather_concat hrun hstep, ← System.accepted]
  by_cases he : e = .accept
  · subst he
    exact ⟨hoffered.accept hstep, hheld.accept hstep⟩
  · have hearly := (balanced_start.run hrun).channel.early
    rw [accepts_of_ne he, List.append_nil]
    exact ⟨hoffered.step hearly hstep he, hheld.step hstep he⟩

/-! ## A loop that is held up -/

/-- The loop offers what was not accepted, or is over. -/
theorem Offered.stalled (h : Offered s returned accepted) (hne : accepted ≠ returned) :
    ∃ loop, s.loop = some loop ∧ mayReturn loop = 0 := by
  obtain ⟨lost, heq, -, hlost⟩ := h
  have hpos : lost ≠ [] := fun hnil => hne (by simp [heq, hnil])
  rcases hlost with rfl | ⟨loop, hloop, hover⟩
  · cases hloop : s.loop with
    | none => simp [System.offers, hloop] at hpos
    | some loop =>
      refine ⟨loop, rfl, ?_⟩
      cases hp : loop.phase <;>
        simp [System.offers, hloop, Pressure.Loop.offered, hp, mayReturn] at hpos ⊢
  · refine ⟨loop, hloop, ?_⟩
    cases hp : loop.phase <;> simp [Pressure.Loop.isOver, hp, mayReturn] at hover ⊢

/-- Such a loop does nothing until its signal is accepted, unless it ends. -/
theorem stalled_step (hearly : (s.phase = .starting ∨ ∃ since, s.phase = .reading since) → s.Bare)
    (hloop : s.loop = some loop) (hmay : mayReturn loop = 0) (hstep : s.step e = some s')
    (hne : e ≠ .accept) :
    e ≠ .wake ∧ (∀ f, e ≠ .answerLoop f) ∧ (s'.loop = some loop ∨ s'.loop = some loop.halt) := by
  by_cases he : e.isOfLoop = false
  · refine ⟨fun h => ?_, fun f h => ?_, .inl ?_⟩
    · simp [h, Event.isOfLoop] at he
    · simp [h, Event.isOfLoop] at he
    · rcases (System.kept hstep).loop he with hkept | ⟨since, answer, hp, -⟩
      · exact hkept.trans hloop
      · simp [(hearly (.inr ⟨since, hp⟩)).1] at hloop
  · cases e with
    | accept => exact absurd rfl hne
    | wake =>
      obtain ⟨l, m, hl, hphase, -, -⟩ := System.step_wake_iff.mp hstep
      obtain rfl := Option.some_inj.mp (hloop.symm.trans hl)
      simp [mayReturn, hphase] at hmay
    | answerLoop f =>
      obtain ⟨l, started, q, next, hl, hphase, -⟩ := System.step_answerLoop_iff.mp hstep
      obtain rfl := Option.some_inj.mp (hloop.symm.trans hl)
      simp [mayReturn, hphase] at hmay
    | refuse =>
      obtain ⟨l, r, since, hl, -, -, rfl⟩ := System.step_refuse_iff.mp hstep
      obtain rfl := Option.some_inj.mp (hloop.symm.trans hl)
      exact ⟨by simp, by simp, .inr rfl⟩
    | halt =>
      obtain ⟨l, hl, -, -, rfl⟩ := System.step_halt_iff.mp hstep
      obtain rfl := Option.some_inj.mp (hloop.symm.trans hl)
      exact ⟨by simp, by simp, .inr rfl⟩
    | _ => exact absurd rfl he

/-- As long as nothing is accepted, a loop that is held up begins no tick and goes on with none. -/
theorem stalled_run {pace : Pace} {telemetry : Telemetry} {now : Moment} {es' : List Event}
    (h : (System.start pace telemetry now).run es = some s) (hloop : s.loop = some loop)
    (hmay : mayReturn loop = 0) (hrun : s.run es' = some s') (hne : .accept ∉ es') :
    .wake ∉ es' ∧ (∀ f, .answerLoop f ∉ es') ∧
      (s'.loop = some loop ∨ s'.loop = some loop.halt) := by
  refine System.run_induction (P := fun es' t => .accept ∉ es' → .wake ∉ es' ∧
    (∀ f, .answerLoop f ∉ es') ∧ (t.loop = some loop ∨ t.loop = some loop.halt))
    (fun _ => ⟨by simp, by simp, .inl hloop⟩) (fun es' t e t' hrun ih hstep hne => ?_) hrun hne
  obtain ⟨hne', hlast⟩ : .accept ∉ es' ∧ e ≠ .accept := by simpa [eq_comm] using hne
  obtain ⟨hwake, hanswer, hloop'⟩ := ih hne'
  have hearly := (balanced_start.run (System.run_append_iff.mpr ⟨s, h, hrun⟩)).channel.early
  obtain ⟨hw, ha, hnext⟩ : e ≠ .wake ∧ (∀ f, e ≠ .answerLoop f) ∧
      (t'.loop = some loop ∨ t'.loop = some loop.halt) := by
    rcases hloop' with hloop' | hloop'
    · exact stalled_step hearly hloop' hmay hstep hlast
    · obtain ⟨hw, ha, hnext⟩ := stalled_step hearly hloop' rfl hstep hlast
      exact ⟨hw, ha, .inr (hnext.elim id id)⟩
  refine ⟨by simp [hwake, Ne.symm hw], fun f => ?_, hnext⟩
  simp [hanswer f, Ne.symm (ha f)]

/-! ## What telemetry counts -/

variable {n : Note} {notes : List Note}

/-- A tick counts no signal while it goes on, and never a dispatch. -/
theorem counts_of_tick (h : n.OfTick) :
    n.counts Counter.isSignal = false ∧ n.counts Counter.isVerdict = false := by
  cases h with
  | taintCall d c error => cases error <;> exact ⟨rfl, rfl⟩
  | _ => exact ⟨rfl, rfl⟩

/-- A dispatch counts no signal. -/
theorem counts_of_dispatch (h : n.OfDispatch) : n.counts Counter.isSignal = false := by
  cases h <;> rfl

theorem countP_eq_zero_of_forall {p : Note → Bool} (h : ∀ n ∈ notes, p n = false) :
    notes.countP p = 0 :=
  List.countP_eq_zero.mpr fun n hn => by simp [h n hn]

/-- A tick that comes to its end counts the signal that it returns. -/
theorem countP_proceed (x : Pressure.Loop) (started now : Moment)
    {d : Task (Pressure.State × Option Resource)} (h : TickLike d) :
    (x.proceed started now d).2.countP (Note.counts Counter.isSignal) = (returnedBy d).length ∧
    (x.proceed started now d).2.countP (Note.counts Counter.isVerdict) = 0 := by
  have hnotes := (Program.within_settle h).1
  have hsignal := countP_eq_zero_of_forall fun n hn => (counts_of_tick (hnotes n hn)).1
  have hverdict := countP_eq_zero_of_forall fun n hn => (counts_of_tick (hnotes n hn)).2
  unfold Pressure.Loop.proceed returnedBy
  rcases hd : d.settle with ⟨notes, ⟨state, signal⟩ | ⟨q, next⟩⟩
  · rw [hd] at hsignal hverdict
    dsimp only
    rw [List.countP_append, List.countP_append, hsignal, hverdict]
    cases signal with
    | none => exact ⟨rfl, rfl⟩
    | some r => exact ⟨rfl, rfl⟩
  · rw [hd] at hsignal hverdict
    exact ⟨hsignal, hverdict⟩

/-- Since a moment, telemetry has counted the signals and the dispatches that are in the books. -/
structure Tally (before : Telemetry) (s : System) (l : Ledger) : Prop where
  signals : s.telemetry.metrics.total Counter.isSignal =
    before.metrics.total Counter.isSignal + l.returned.length
  verdicts : s.telemetry.metrics.total Counter.isVerdict =
    before.metrics.total Counter.isVerdict + l.finished.length

variable {before : Telemetry}

/-- Notes that count nothing leave the tally as it is. -/
theorem Tally.keep (h : Tally before s l) (notes : List Note)
    (hnotes : ∀ n ∈ notes, n.counter? = none)
    (ht : s'.telemetry = s.telemetry.takeAll 0 notes) : Tally before s' l := by
  have hzero (p : Counter → Bool) : notes.countP (Note.counts p) = 0 :=
    countP_eq_zero_of_forall fun n hn => by simp [Note.counts, hnotes n hn]
  refine ⟨?_, ?_⟩
  · rw [ht, Telemetry.total_takeAll, hzero]
    exact h.signals
  · rw [ht, Telemetry.total_takeAll, hzero]
    exact h.verdicts

/-- A tick that goes on counts what it returns. -/
theorem Tally.tick (h : Tally before s l) {x : Pressure.Loop} {started now : Moment}
    {d : Task (Pressure.State × Option Resource)} (hd : TickLike d) :
    Tally before (s.withLoop (x.proceed started now d))
      { l with returned := l.returned ++ returnedBy d } := by
  obtain ⟨hsignal, hverdict⟩ := countP_proceed x started now hd
  refine ⟨?_, ?_⟩
  · rw [System.telemetry_withLoop, Telemetry.total_takeAll, hsignal, h.signals, List.length_append,
      Nat.add_assoc]
  · rw [System.telemetry_withLoop, Telemetry.total_takeAll, hverdict]
    exact h.verdicts

/-- A dispatch that goes on counts itself when it comes to its end. -/
theorem Tally.proceed (h : Tally before s l) {r : Resource} {hs : List (Happening world)}
    {d : Task Outcome} (hd : DispatchLike d) : Tally before (s.proceed d) (l.dispatch r hs d) := by
  have hnotes := (Program.within_settle hd.within).1
  have hsignal := countP_eq_zero_of_forall fun n hn => counts_of_dispatch (hnotes n hn)
  have hlast := Program.tellsLast_settle hd.tellsLast
  refine ⟨?_, ?_⟩
  · rw [System.telemetry_proceed, Telemetry.total_takeAll, hsignal, returned_dispatch]
    exact h.signals
  · rw [System.telemetry_proceed, Telemetry.total_takeAll, h.verdicts, Ledger.dispatch]
    rcases hsettle : d.settle with ⟨notes, o | ⟨q, next⟩⟩
    · rw [hsettle] at hlast
      dsimp only at hlast ⊢
      rw [hlast, List.length_append, List.length_singleton, Nat.add_assoc]
    · rw [hsettle] at hlast
      dsimp only at hlast ⊢
      rw [hlast.1, Nat.add_zero]

/-- Every event is counted as it is entered in the books. -/
theorem Tally.step (h : Tally before s l) (hproper : s.Proper) (hdispatches : Dispatches s l)
    (hstep : s.step e = some s') : Tally before s' (l.enter s e) := by
  cases e with
  | pass span =>
    obtain rfl := System.step_pass_iff.mp hstep
    exact ⟨h.signals, h.verdicts⟩
  | request =>
    obtain rfl := System.step_request_iff.mp hstep
    exact ⟨h.signals, h.verdicts⟩
  | answerLoop f =>
    obtain ⟨loop, started, q, next, hloop, hphase, rfl⟩ := System.step_answerLoop_iff.mp hstep
    simp only [Ledger.enter, hloop, Option.map_some, hphase]
    exact h.tick ((hproper.of_ticking hloop hphase).2 (f q))
  | wake =>
    obtain ⟨loop, m, hloop, hphase, -, rfl⟩ := System.step_wake_iff.mp hstep
    simp only [Ledger.enter, hloop]
    exact h.tick (Pressure.tick_within _ _ _ _)
  | accept =>
    obtain ⟨loop, r, since, hloop, hphase, -, -, rfl⟩ := System.step_accept_iff.mp hstep
    refine h.keep (loop.accepted s.clock).2 (fun n hn => ?_) rfl
    simp only [Pressure.Loop.accepted, hphase] at hn
    rcases List.mem_cons.mp hn with rfl | hn
    · rfl
    · split at hn
      · obtain rfl := List.mem_singleton.mp hn
        rfl
      · exact absurd hn List.not_mem_nil
  | refuse =>
    obtain ⟨loop, r, since, -, -, -, rfl⟩ := System.step_refuse_iff.mp hstep
    exact ⟨h.signals, h.verdicts⟩
  | halt =>
    obtain ⟨loop, -, -, -, rfl⟩ := System.step_halt_iff.mp hstep
    exact ⟨h.signals, h.verdicts⟩
  | take =>
    obtain ⟨r, hphase, hslot, rfl⟩ := System.step_take_iff.mp hstep
    simp only [Ledger.enter, hslot]
    refine .proceed ⟨?_, ?_⟩ (Dispatch.handle_dispatchLike r)
    · exact h.signals
    · exact h.verdicts
  | stop =>
    obtain ⟨-, -, rfl⟩ := System.step_stop_iff.mp hstep
    exact h.keep [.running false] (by simp [Note.counter?]) rfl
  | join =>
    obtain ⟨loop, -, -, -, rfl⟩ := System.step_join_iff.mp hstep
    exact ⟨h.signals, h.verdicts⟩
  | answer f =>
    rcases System.step_answer_iff.mp hstep with ⟨hp, rfl⟩ | ⟨since, hp, rfl⟩ | ⟨q, next, hp, rfl⟩
    · simp only [Ledger.enter, hp]
      cases f .start with
      | ok u => exact ⟨h.signals, h.verdicts⟩
      | error f =>
        exact h.keep [.report conditionPart _] (by simp [Note.counter?]) rfl
    · simp only [Ledger.enter, hp]
      cases f .readTaints with
      | ok live =>
        refine h.keep (_ ++ [.running true]) (fun n hn => ?_) rfl
        rcases List.mem_append.mp hn with hn | hn
        · obtain ⟨d, -, rfl⟩ := List.mem_map.mp hn
          rfl
        · obtain rfl := List.mem_singleton.mp hn
          rfl
      | error f => exact h.keep [.running true] (by simp [Note.counter?]) rfl
    · obtain ⟨r, hs, hunderway, -⟩ := hdispatches.underway q next hp
      simp only [Ledger.enter, hp, hunderway]
      exact h.proceed ((hproper.of_handling hp).2 (f q))

theorem tally_run {pace : Pace} {telemetry : Telemetry} {now : Moment}
    (h : (System.start pace telemetry now).run es = some s) :
    Tally telemetry s ((System.start pace telemetry now).ledger .empty es) := by
  refine System.run_induction
    (P := fun es t => Tally telemetry t ((System.start pace telemetry now).ledger .empty es))
    ?_ (fun es t e t' hrun ih hstep => ?_) h
  · exact ⟨rfl, rfl⟩
  · rw [ledger_concat hrun hstep]
    exact ih.step (System.Proper.run hrun) (balanced_start.run hrun).dispatches hstep

/-! ## The bound -/

/-- From the end of a tick that returned a signal up to the moment at which the channel accepts it,
no tick begins: the loop stays as it is, or ends. So when a tick begins, all signals of the ticks
before it were accepted, and all but one of them were taken. Counters that began at zero have never
counted more than three signals beyond the dispatches that are over. -/
theorem sampling_stalls {pace : Pace} {telemetry : Telemetry} {now : Moment}
    (h : (System.start pace telemetry now).run es = some s) :
    let books := (System.start pace telemetry now).ledger .empty es
    let accepted := (System.start pace telemetry now).accepted es
    (accepted ≠ books.returned → ∃ loop, s.loop = some loop ∧ loop.asking = none ∧
      ∀ es' s', s.run es' = some s' → .accept ∉ es' →
        .wake ∉ es' ∧ (∀ f, .answerLoop f ∉ es') ∧
        (s'.loop = some loop ∨ s'.loop = some loop.halt)) ∧
    (∀ s', s.step .wake = some s' →
      accepted = books.returned ∧
      ∃ waiting, books.returned = books.taken ++ waiting ∧ waiting.length ≤ 1) ∧
    ((∀ e ∈ telemetry.metrics.counts, e.2 = 0) →
      s.telemetry.metrics.total Counter.isSignal ≤
        s.telemetry.metrics.total Counter.isVerdict + 3) := by
  intro books accepted
  obtain ⟨hoffered, hheld⟩ := flow_run h
  refine ⟨fun hne => ?_, fun s' hwake => ?_, fun hzero => ?_⟩
  · obtain ⟨loop, hloop, hmay⟩ := hoffered.stalled hne
    refine ⟨loop, hloop, ?_, fun es' s' hrun hnone => stalled_run h hloop hmay hrun hnone⟩
    cases hp : loop.phase <;> simp [mayReturn, Pressure.Loop.asking, hp] at hmay ⊢
  · -- a loop that wakes is not held up, so nothing is left to accept
    have heq : accepted = books.returned := by
      by_contra hne
      obtain ⟨loop, hloop, hmay⟩ := hoffered.stalled hne
      have hnone := stalled_run h hloop hmay (System.run_singleton_iff.mpr hwake) (by simp)
      exact hnone.1 (List.mem_singleton.mpr rfl)
    obtain ⟨waiting, hwaiting, hle, -⟩ := hheld
    exact ⟨heq, waiting, heq ▸ hwaiting, hle⟩
  · have htally := tally_run h
    have hbalanced : Balanced s books := balanced_start.run h
    have hsignals : s.telemetry.metrics.total Counter.isSignal = books.returned.length := by
      rw [htally.signals, Metrics.total_eq_zero _ hzero, Nat.zero_add]
    have hverdicts : s.telemetry.metrics.total Counter.isVerdict = books.finished.length := by
      rw [htally.verdicts, Metrics.total_eq_zero _ hzero, Nat.zero_add]
    have hreturned : books.returned.length ≤ books.taken.length + 2 := by
      obtain ⟨left, heq, hle, -⟩ := hbalanced.channel.account
      rw [heq, List.length_append]
      omega
    have htaken : books.taken.length ≤ books.finished.length + 1 := by
      rw [hbalanced.dispatches.taken, List.length_append, List.length_map]
      have hone : (books.underway.map Prod.fst).toList.length ≤ 1 := by
        cases books.underway <;> simp
      omega
    omega

/-- Signals for CPU, disk and network, while the dispatcher waits for the first victim: the second
signal is in the channel and the third one is offered, so the loop does not wake however much time
passes. It had woken for the second tick with the first signal still in the channel. -/
theorem loop_waits_for_slow_dispatch :
    ∃ (es early : List Event) (s s' t t' : System) (loop : Pressure.Loop),
      let first := System.start .default (.fresh "n") 0
      let books := first.ledger .empty es
      first.run es = some s ∧ books.returned = [.cpu, .diskIo, .networkRx] ∧
      first.accepted es = [.cpu, .diskIo] ∧ books.taken = [.cpu] ∧
      s.run [.pass (Span.seconds 60), .request] = some s' ∧ s.loop = some loop ∧
      (s'.loop = some loop ∨ s'.loop = some loop.halt) ∧
      s.telemetry.metrics.total Counter.isSignal = 3 ∧
      s.telemetry.metrics.total Counter.isSignal ≤
        s.telemetry.metrics.total Counter.isVerdict + 3 ∧
      first.run early = some t ∧ t.step .wake = some t' ∧
      (first.ledger .empty early).returned = [.cpu] ∧ first.accepted early = [.cpu] := by
  let first := System.start .default (.fresh "n") 0
  let early : List Event :=
    [.answer (replying .full), .answer (replying .full)] ++ shortage .cpu ++
      [.accept, .pass (Span.seconds 10)]
  let es : List Event :=
    [.answer (replying .full), .answer (replying .full)] ++ shortage .cpu ++ [.accept, .take] ++
      shortage .diskIo ++ [.accept] ++ shortage .networkRx
  have hend : (first.run es).map (fun s => (s.telemetry.metrics.total Counter.isSignal,
      (s.run [.pass (Span.seconds 60), .request]).isSome)) = some (3, true) := by
    decide +kernel
  have hbegin : (first.run early).map (fun t => (t.step .wake).isSome) = some true := by
    decide +kernel
  obtain ⟨s, hs, hsignals⟩ := Option.map_eq_some_iff.mp hend
  obtain ⟨hsignals, hlater⟩ := Prod.mk.inj hsignals
  obtain ⟨s', hs'⟩ := Option.isSome_iff_exists.mp hlater
  obtain ⟨t, ht, hwakes⟩ := Option.map_eq_some_iff.mp hbegin
  obtain ⟨t', ht'⟩ := Option.isSome_iff_exists.mp hwakes
  have hreturned : (first.ledger .empty es).returned = [.cpu, .diskIo, .networkRx] := by
    decide +kernel
  have haccepted : first.accepted es = [.cpu, .diskIo] := by decide +kernel
  have htaken : (first.ledger .empty es).taken = [.cpu] := by decide +kernel
  have hearly : (first.ledger .empty early).returned = [.cpu] := by decide +kernel
  obtain ⟨hstalls, -, hcounts⟩ := sampling_stalls hs
  obtain ⟨loop, hloop, -, hstays⟩ := hstalls (by rw [haccepted, hreturned]; decide)
  obtain ⟨-, hwake, -⟩ := sampling_stalls ht
  exact ⟨es, early, s, s', t, t', loop, hs, hreturned, haccepted, htaken, hs', hloop,
    (hstays _ s' hs' (by simp)).2.2, hsignals, hcounts (by simp [Telemetry.fresh, Metrics.zero]),
    ht, ht', hearly, (hwake t' ht').1.trans hearly⟩

end NodePressure.Controller
