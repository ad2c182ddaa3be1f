import NodePressure.Proofs.Controller.Conduct
import NodePressure.Proofs.Controller.Ledger
import NodePressure.Proofs.Pressure.Accounts
import NodePressure.Proofs.Taint.Edits
import NodePressure.Telemetry.Exposition

/-!
# NodePressure.Proofs.Controller.Accounts - the metrics tell the truth about the node

While a tick is under way its metrics are not complete: a call is counted when it has been
answered, and an idle tick before. `Truthful` says that they will be right when the loop rests,
whatever is answered until then. Every event keeps this up, for ticks are honest, and the controller
and its dispatcher tell nothing of the kind. Where the loop rests, the metrics are right
(`metrics_tell_the_truth`).
-/

namespace NodePressure

/-- A note that is about no gauge and no counter of calls. -/
structure Note.Quiet (n : Note) : Prop where
  counts : ∀ k, k.isOfCalls = true → n.counts (· == k) = false
  shown : ∀ f, Note.shown f n = f

theorem Note.quiet_of_uncounted {n : Note} (hcount : n.counter? = none)
    (hshown : ∀ f, Note.shown f n = f) : n.Quiet :=
  ⟨fun k _ => by simp [Note.counts, hcount], hshown⟩

theorem Note.quiet_singleton {n : Note} (hcount : n.counter? = none)
    (hshown : ∀ f, Note.shown f n = f) : ∀ x ∈ [n], x.Quiet :=
  List.forall_mem_singleton.mpr (quiet_of_uncounted hcount hshown)

theorem Note.quiet_count {c : Counter} (hc : c.isOfCalls = false) : (Note.count c).Quiet := by
  refine ⟨fun k hk => ?_, fun _ => rfl⟩
  have hne : c ≠ k := by
    rintro rfl
    exact Bool.false_ne_true (hc.symm.trans hk)
  simp [counts, counter?, hne]

/-- Dispatches do not touch the metrics of ticks. -/
theorem Note.OfDispatch.quiet {n : Note} (h : n.OfDispatch) : n.Quiet := by
  cases h with
  | log e => exact quiet_of_uncounted rfl fun _ => rfl
  | report r => exact quiet_of_uncounted rfl fun _ => rfl
  | action r action => exact quiet_count rfl
  | error r stage => exact quiet_count rfl

theorem Ask.OfDispatch.isUncounted {q : Ask} (h : q.OfDispatch) : q.isUncounted = true := by
  cases h <;> rfl

/-- A gauge is exposed as one if it is raised, and as zero otherwise. -/
theorem Metrics.nodeTainted_mem_samples_iff {m : Metrics} {d : Dimension} {v : Nat} :
    ⟨.nodeTainted, [("kind", d.name)], v⟩ ∈ m.samples ↔ v = if m.tainted.get d then 1 else 0 := by
  rw [samples, List.mem_append]
  constructor
  · rintro (h | h)
    · obtain ⟨⟨c, n⟩, -, hc⟩ := List.mem_map.mp h
      cases c <;> simp [Counter.family] at hc
    · obtain ⟨x, -, hx⟩ := List.mem_map.mp h
      simp only [Sample.mk.injEq, List.cons.injEq, Prod.mk.injEq, true_and, and_true] at hx
      rw [← hx.2, Dimension.name_injective hx.1]
  · rintro rfl
    exact .inr (List.mem_map.mpr ⟨d, Dimension.mem_all d, rfl⟩)

namespace Controller

/-- The question that an event answers, with its answer. -/
def System.reply (s : System) : Event → List (Happening world)
  | .answer f => s.asking.toList.map fun q => .answered q (f q)
  | .answerLoop f => (s.loop.bind Pressure.Loop.asking).toList.map fun q => .answered q (f q)
  | _ => []

/-- The questions of a run with their answers, in order. -/
def System.history (s : System) (es : List Event) : List (Happening world) :=
  s.gather (fun before e _ => before.reply e) es

/-- What may yet happen before the loop rests, and the flags that it holds then. -/
inductive Ahead : Option Pressure.Loop → List (Happening world) → TaintFlags → Prop
  | unlaunched : Ahead none [] .clear
  | resting {l : Pressure.Loop} (h : l.asking = none) : Ahead (some l) [] l.state.flags
  | ticking {l : Pressure.Loop} {started : Moment} {q : Ask}
      {next : q.Answer → Task (Pressure.State × Option Resource)} {b : q.Answer}
      {hs : List (Happening world)} {r : Pressure.State × Option Resource}
      (hphase : l.phase = .ticking started q next)
      (exec : Program.Exec anyReply (next b) () hs r ()) :
      Ahead (some l) (.answered q b :: hs) r.1.flags

/-- Metrics to which what happens yet adds what is missing: the gauges will show the flags, and the
counters will have counted what they are due of all calls. -/
structure Settles (m : Metrics) (calls hs : List (Happening world)) (f : TaintFlags) : Prop where
  shown : (notesOf hs).foldl Note.shown m.tainted = f
  counted : ∀ k, k.isOfCalls = true →
    m.count k + (notesOf hs).countP (Note.counts (· == k)) = k.due (calls ++ hs)

/-- Whatever happens yet, the metrics will be right when the loop rests. -/
def Truthful (s : System) (calls : List (Happening world)) : Prop :=
  ∀ hs f, Ahead s.loop hs f → Settles s.telemetry.metrics calls hs f

variable {t : Telemetry} {m : Metrics} {calls hs : List (Happening world)} {f f' : TaintFlags}
  {notes : List Note}

/-! ## Notes and answers -/

/-- Notes are taken up as they come. -/
theorem Settles.tell (h : Settles t.metrics calls (told (I := world) notes ++ hs) f) :
    Settles (t.takeAll 0 notes).metrics calls hs f := by
  refine ⟨?_, fun k hk => ?_⟩
  · rw [Telemetry.tainted_takeAll, ← List.foldl_append, ← h.shown, notesOf_append, notesOf_told]
  · have hcounted := h.counted k hk
    rw [notesOf_append, notesOf_told, List.countP_append] at hcounted
    rw [Telemetry.count_takeAll, Nat.add_assoc, hcounted]
    simp [Counter.due_append]

theorem foldl_shown_of_quiet (h : ∀ n ∈ notes, n.Quiet) : notes.foldl Note.shown f = f := by
  induction notes with
  | nil => rfl
  | cons n notes ih =>
    obtain ⟨hn, hnotes⟩ := List.forall_mem_cons.mp h
    rw [List.foldl_cons, hn.shown, ih hnotes]

/-- Quiet notes make no difference. -/
theorem Settles.quiet (h : Settles t.metrics calls hs f) (hquiet : ∀ n ∈ notes, n.Quiet) :
    Settles (t.takeAll 0 notes).metrics calls hs f := by
  refine ⟨?_, fun k hk => ?_⟩
  · rw [Telemetry.tainted_takeAll, foldl_shown_of_quiet hquiet, h.shown]
  · have hzero : notes.countP (Note.counts (· == k)) = 0 :=
      List.countP_eq_zero.mpr fun n hn => by simp [(hquiet n hn).counts k hk]
    rw [Telemetry.count_takeAll, hzero, Nat.add_zero, h.counted k hk]

/-- Notes that are the rest, and quiet ones behind them. -/
theorem Settles.concluded {more : List Note}
    (h : Settles t.metrics calls (told (I := world) notes) f) (hquiet : ∀ n ∈ more, n.Quiet) :
    Settles (t.takeAll 0 (notes ++ more)).metrics calls [] f := by
  rw [← List.append_nil (told _)] at h
  rw [Telemetry.takeAll, List.foldl_append]
  exact h.tell.quiet hquiet

/-- An answer that was to come has come. -/
theorem Settles.answered {q : Ask} {b : q.Answer}
    (h : Settles m calls (.answered q b :: hs) f) : Settles m (calls ++ [.answered q b]) hs f := by
  refine ⟨h.shown, fun k hk => ?_⟩
  rw [List.append_assoc]
  exact h.counted k hk

/-- Answers to other questions make no difference. -/
theorem Settles.other {q : Ask} {b : q.Answer} (hq : q.isUncounted = true)
    (h : Settles m calls hs f) : Settles m (calls ++ [.answered q b]) hs f := by
  refine ⟨h.shown, fun k hk => ?_⟩
  rw [h.counted k hk, Counter.due_append, Counter.due_append, Counter.due_append,
    Counter.due_answered hq, Counter.due_nil, Nat.add_zero]

/-- A stretch that is honest leaves metrics that are right as right as they were. -/
theorem Settles.honest (h : Settles m calls [] f) (hhonest : Honest f hs f') :
    Settles m calls hs f' := by
  refine ⟨?_, fun k hk => ?_⟩
  · rw [show m.tainted = f from h.shown, hhonest.shown]
  · have hcounted := h.counted k hk
    rw [List.append_nil] at hcounted
    rw [hhonest.counted, Counter.due_append, ← hcounted]
    rfl

/-! ## Events -/

variable {s s' : System} {e : Event} {es : List Event} {l : Pressure.Loop}

/-- A loop that rests goes on with nothing. -/
theorem Ahead.of_resting (h : Ahead (some l) hs f) (hrest : l.asking = none) :
    hs = [] ∧ f = l.state.flags := by
  cases h with
  | resting => exact ⟨rfl, rfl⟩
  | ticking hphase => simp [Pressure.Loop.asking, hphase] at hrest

/-- An event without an answer. -/
theorem Truthful.silent (h : Truthful s' calls) (hreply : s.reply e = []) :
    Truthful s' (calls ++ s.reply e) := by
  rw [hreply, List.append_nil]
  exact h

/-- The answer to another question makes no difference. -/
theorem Truthful.other {q : Ask} {b : q.Answer} (hq : q.isUncounted = true)
    (h : Truthful s calls) : Truthful s (calls ++ [.answered q b]) :=
  fun hs f hahead => (h hs f hahead).other hq

/-- A step that leaves the loop alone and tells nothing about it. -/
theorem Truthful.away (h : Truthful s calls) (notes : List Note) (hloop : s'.loop = s.loop)
    (ht : s'.telemetry = s.telemetry.takeAll 0 notes) (hquiet : ∀ n ∈ notes, n.Quiet) :
    Truthful s' calls := by
  intro hs f hahead
  rw [ht]
  exact (h hs f (hloop ▸ hahead)).quiet hquiet

/-- A loop that rests, and goes on to rest with the same flags. -/
theorem Truthful.rest (h : Truthful s calls) (hloop : s.loop = some l) (hrest : l.asking = none)
    {r : Pressure.Loop × List Note} (hasking : r.1.asking = none) (hstate : r.1.state = l.state)
    (hquiet : ∀ n ∈ r.2, n.Quiet) : Truthful (s.withLoop r) calls := by
  intro hs f hahead
  obtain ⟨rfl, rfl⟩ := hahead.of_resting hasking
  rw [hstate]
  exact (h _ _ (hloop ▸ .resting hrest)).quiet hquiet

/-- A tick that goes on, if it will end well. -/
theorem truthful_proceed {started now : Moment} {d : Task (Pressure.State × Option Resource)}
    (h : ∀ hs r, Program.Exec anyReply d () hs r () →
      Settles s.telemetry.metrics calls hs r.1.flags) :
    Truthful (s.withLoop (l.proceed started now d)) calls := by
  intro hs f hahead
  rw [System.loop_withLoop] at hahead
  rw [System.telemetry_withLoop]
  unfold Pressure.Loop.proceed at hahead ⊢
  rcases hd : d.settle with ⟨notes, ⟨state, signal⟩ | ⟨q, next⟩⟩
  · have hdone := h _ _ (Program.exec_of_settle_done hd)
    rw [hd] at hahead
    dsimp only at hahead ⊢
    -- at its end the loop tells how long it took, and counts its signal
    cases signal with
    | none =>
      obtain ⟨rfl, rfl⟩ := hahead.of_resting rfl
      exact hdone.concluded (Note.quiet_singleton rfl fun _ => rfl)
    | some r =>
      obtain ⟨rfl, rfl⟩ := hahead.of_resting rfl
      exact hdone.concluded (List.forall_mem_cons.mpr
        ⟨Note.quiet_of_uncounted rfl fun _ => rfl,
          List.forall_mem_singleton.mpr (Note.quiet_count rfl)⟩)
  · rw [hd] at hahead
    cases hahead with
    | resting hrest => simp [Pressure.Loop.asking] at hrest
    | ticking hphase exec =>
      obtain ⟨rfl, rfl, hnext⟩ := Pressure.Phase.ticking.inj hphase
      obtain rfl := eq_of_heq hnext
      exact (h _ _ (Program.exec_of_settle_waiting hd (.ask trivial exec))).tell

/-- A loop that is launched begins with the taints that were found, and the gauges show them. -/
theorem truthful_launch {since : Moment} {answer : Except ClusterFault TaintFlags}
    (h : Truthful s calls) (hloop : s.loop = none) : Truthful (s.launch since answer) calls := by
  have hclear : Settles s.telemetry.metrics calls [] .clear := h _ _ (hloop ▸ Ahead.unlaunched)
  have hrunning : ∀ n ∈ [Note.running true], n.Quiet := Note.quiet_singleton rfl fun _ => rfl
  intro hs f hahead
  cases answer with
  | ok live =>
    obtain ⟨rfl, rfl⟩ := hahead.of_resting rfl
    exact (hclear.honest honest_found).concluded hrunning
  | error fault =>
    obtain ⟨rfl, rfl⟩ := hahead.of_resting rfl
    exact hclear.quiet hrunning

/-- Every event keeps the metrics truthful. -/
theorem Truthful.step (h : Truthful s calls) (hproper : s.Proper)
    (hearly : (∃ since, s.phase = .reading since) → s.loop = none) (hstep : s.step e = some s') :
    Truthful s' (calls ++ s.reply e) := by
  cases e with
  | pass span =>
    obtain rfl := System.step_pass_iff.mp hstep
    exact Truthful.silent h rfl
  | request =>
    obtain rfl := System.step_request_iff.mp hstep
    exact Truthful.silent h rfl
  | answerLoop f =>
    obtain ⟨l, started, q, next, hloop, hphase, rfl⟩ := System.step_answerLoop_iff.mp hstep
    have hreply : s.reply (.answerLoop f) = [.answered q (f q)] := by
      simp [System.reply, hloop, Pressure.Loop.asking, hphase]
    rw [hreply]
    refine truthful_proceed fun hs r exec => Settles.answered ?_
    exact h _ _ (hloop ▸ Ahead.ticking hphase exec)
  | wake =>
    obtain ⟨l, m, hloop, hphase, -, rfl⟩ := System.step_wake_iff.mp hstep
    have hrest : l.asking = none := by simp [Pressure.Loop.asking, hphase]
    refine Truthful.silent (truthful_proceed fun hs r exec => ?_) rfl
    exact (h _ _ (hloop ▸ Ahead.resting hrest)).honest (Pressure.honest_tick exec)
  | accept =>
    obtain ⟨l, r, since, hloop, hphase, -, -, rfl⟩ := System.step_accept_iff.mp hstep
    have hrest : l.asking = none := by simp [Pressure.Loop.asking, hphase]
    have hslot : Truthful { s with slot := some r } calls := h
    refine Truthful.silent (hslot.rest hloop hrest ?_ ?_ fun n hn => ?_) rfl
    · simp [Pressure.Loop.accepted, hphase, Pressure.Loop.rest, Pressure.Loop.asking]
    · simp [Pressure.Loop.accepted, hphase, Pressure.Loop.rest]
    · simp only [Pressure.Loop.accepted, hphase] at hn
      rcases List.mem_cons.mp hn with rfl | hn
      · exact Note.quiet_of_uncounted rfl fun _ => rfl
      · split at hn
        · exact Note.quiet_singleton rfl (fun _ => rfl) n hn
        · exact absurd hn List.not_mem_nil
  | refuse =>
    obtain ⟨l, r, since, hloop, hphase, -, rfl⟩ := System.step_refuse_iff.mp hstep
    have hrest : l.asking = none := by simp [Pressure.Loop.asking, hphase]
    exact Truthful.silent (h.rest hloop hrest rfl rfl (by simp)) rfl
  | halt =>
    obtain ⟨l, hloop, -, hstoppable, rfl⟩ := System.step_halt_iff.mp hstep
    have hrest : l.asking = none := by
      cases hphase : l.phase <;>
        simp [Pressure.Loop.isStoppable, Pressure.Loop.asking, hphase] at hstoppable ⊢
    exact Truthful.silent (h.rest hloop hrest rfl rfl (by simp)) rfl
  | take =>
    obtain ⟨r, -, -, rfl⟩ := System.step_take_iff.mp hstep
    have hnotes := (Program.within_settle (Dispatch.handle_dispatchLike r).within).1
    refine Truthful.silent (h.away _ (System.loop_proceed _ _) (System.telemetry_proceed _ _)
      fun n hn => ?_) rfl
    exact (hnotes n hn).quiet
  | stop =>
    obtain ⟨-, -, rfl⟩ := System.step_stop_iff.mp hstep
    have hquiet : ∀ n ∈ [Note.running false], n.Quiet := Note.quiet_singleton rfl fun _ => rfl
    exact Truthful.silent (h.away [.running false] rfl rfl hquiet) rfl
  | join =>
    obtain ⟨l, -, -, -, rfl⟩ := System.step_join_iff.mp hstep
    exact Truthful.silent h rfl
  | answer f =>
    rcases System.step_answer_iff.mp hstep with ⟨hp, rfl⟩ | ⟨since, hp, rfl⟩ | ⟨q, next, hp, rfl⟩
    · have hreply : s.reply (.answer f) = [.answered .start (f .start)] := by
        simp [System.reply, System.asking, hp]
      rw [hreply]
      refine Truthful.other rfl ?_
      cases f .start with
      | ok u => exact h
      | error fault =>
        exact h.away [.report conditionPart _] rfl rfl (Note.quiet_singleton rfl fun _ => rfl)
    · have hreply : s.reply (.answer f) = [.answered .readTaints (f .readTaints)] := by
        simp [System.reply, System.asking, hp]
      rw [hreply]
      exact Truthful.other rfl (truthful_launch h (hearly ⟨since, hp⟩))
    · obtain ⟨hq, hnext⟩ := hproper.of_handling hp
      have hreply : s.reply (.answer f) = [.answered q (f q)] := by
        simp [System.reply, System.asking, hp]
      have hnotes := (Program.within_settle (hnext (f q)).within).1
      rw [hreply]
      refine Truthful.other hq.isUncounted (h.away _ (System.loop_proceed _ _)
        (System.telemetry_proceed _ _) fun n hn => ?_)
      exact (hnotes n hn).quiet

/-! ## Runs -/

variable {pace : Pace} {telemetry : Telemetry} {now : Moment}

/-- A process begins with metrics that tell the truth about nothing. -/
theorem truthful_start (hzero : ∀ k, telemetry.metrics.count k = 0)
    (hclear : telemetry.metrics.tainted = .clear) :
    Truthful (System.start pace telemetry now) [] := by
  have hfirst : Settles telemetry.metrics [] [] .clear :=
    ⟨hclear, fun k _ => by rw [hzero k, List.append_nil, Counter.due_nil]; rfl⟩
  intro hs f hahead
  cases hahead with
  | unlaunched =>
    exact hfirst.quiet (List.forall_mem_cons.mpr
      ⟨Note.quiet_of_uncounted rfl fun _ => rfl, Note.quiet_singleton rfl fun _ => rfl⟩)

theorem truthful_run (hzero : ∀ k, telemetry.metrics.count k = 0)
    (hclear : telemetry.metrics.tainted = .clear)
    (h : (System.start pace telemetry now).run es = some s) :
    Truthful s ((System.start pace telemetry now).history es) := by
  refine System.run_induction
    (P := fun es t => Truthful t ((System.start pace telemetry now).history es))
    (truthful_start hzero hclear) (fun es t e t' hrun ih hstep => ?_) h
  rw [System.history, System.gather_concat hrun hstep]
  refine ih.step (System.Proper.run hrun) (fun hreading => ?_) hstep
  exact ((balanced_start.run hrun).channel.early (.inr hreading)).1

/-- **The metrics tell the truth about the node.** In every run of a process whose counters and
gauges begin at zero, whatever is answered and in every interleaving, whenever the loop has been
launched and waits for no answer, as it does after the start and after every tick: the gauge of a
dimension is one exactly if its flag is set, and zero otherwise. The calls that change taints are
counted for each dimension and change, those that succeeded by one counter and those that failed by
another one; the calls that clear labels are counted as idle ticks, and those that failed once
more. -/
theorem metrics_tell_the_truth {loop : Pressure.Loop}
    (hzero : ∀ k, telemetry.metrics.count k = 0) (hclear : telemetry.metrics.tainted = .clear)
    (h : (System.start pace telemetry now).run es = some s) (hloop : s.loop = some loop)
    (hrests : loop.asking = none) :
    let calls := (System.start pace telemetry now).history es
    let metrics := s.telemetry.metrics
    (∀ d v, ⟨.nodeTainted, [("kind", d.name)], v⟩ ∈ metrics.samples ↔
      v = if loop.state.flags.get d then 1 else 0) ∧
    (∀ d c, metrics.count (.transitions d c) =
        (answersTo (.changeTaint d c) calls).countP Except.isOk ∧
      metrics.count (.taintErrors d c) =
        (answersTo (.changeTaint d c) calls).countP (!Except.isOk ·)) ∧
    metrics.count .idleTicks = (answersTo .clearLabels calls).length ∧
    metrics.count .clearErrors = (answersTo .clearLabels calls).countP (!Except.isOk ·) := by
  intro calls metrics
  have hsettles : Settles metrics calls [] loop.state.flags :=
    truthful_run hzero hclear h _ _ (hloop ▸ Ahead.resting hrests)
  have hcounted (k : Counter) (hk : k.isOfCalls = true) : metrics.count k = k.due calls := by
    simpa [notesOf] using hsettles.counted k hk
  refine ⟨fun d v => ?_, fun d c => ⟨hcounted _ rfl, hcounted _ rfl⟩, hcounted _ rfl,
    hcounted _ rfl⟩
  have hshown : metrics.tainted = loop.state.flags := hsettles.shown
  rw [Metrics.nodeTainted_mem_samples_iff, hshown]

/-- The answers on a node of such availability, where no call succeeds. -/
def failing (a : Availability) : (q : Ask) → q.Answer
  | .start => .ok ()
  | .grace => Span.seconds 30
  | .availability => a
  | q => q.silence

/-- The taints cannot be read at first, the labels cannot be taken off in the first tick, and the
taint for the CPU is made at the second try. -/
theorem counts_of_three_ticks :
    ∃ (es : List Event) (s : System) (loop : Pressure.Loop),
      (System.start .default (.fresh "n") 0).run es = some s ∧ s.loop = some loop ∧
      loop.asking = none ∧ loop.state.flags.get .cpu = true ∧
      ⟨.nodeTainted, [("kind", "CPUBusy")], 1⟩ ∈ s.telemetry.metrics.samples ∧
      s.telemetry.metrics.count (.transitions .cpu .taint) = 1 ∧
      s.telemetry.metrics.count (.taintErrors .cpu .taint) = 1 ∧
      s.telemetry.metrics.count .idleTicks = 1 ∧ s.telemetry.metrics.count .clearErrors = 1 := by
  let first := System.start .default (.fresh "n") 0
  let ticking (f : (q : Ask) → q.Answer) : List Event :=
    [.pass (Span.seconds 10), .wake, .answerLoop f, .answerLoop f, .answerLoop f]
  let es : List Event :=
    [.answer (failing .full), .answer (failing .full)] ++ ticking (failing .full) ++
      ticking (failing (.without [.cpu])) ++ [.accept] ++ shortage .cpu
  have hend : (first.run es).map (fun s => s.loop.map fun loop =>
      (loop.asking, loop.state.flags.get .cpu)) = some (some (none, true)) := by
    decide +kernel
  obtain ⟨s, hs, hloop⟩ := Option.map_eq_some_iff.mp hend
  obtain ⟨loop, hloop, hrests⟩ := Option.map_eq_some_iff.mp hloop
  obtain ⟨hrests, hflag⟩ := Prod.mk.inj hrests
  obtain ⟨hgauge, htaints, hidle, hclear⟩ :=
    metrics_tell_the_truth (fun _ => rfl) rfl hs hloop hrests
  obtain ⟨htaint, hfailed⟩ := htaints .cpu .taint
  exact ⟨es, s, loop, hs, hloop, hrests, hflag, (hgauge .cpu 1).mpr (by rw [hflag]; rfl),
    htaint.trans (by decide +kernel), hfailed.trans (by decide +kernel),
    hidle.trans (by decide +kernel), hclear.trans (by decide +kernel)⟩

end Controller

end NodePressure
