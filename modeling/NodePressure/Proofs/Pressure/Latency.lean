import NodePressure.Proofs.Pressure.Pacing

/-!
# NodePressure.Proofs.Pressure.Latency - the grace period when answers take time

A tick puts a shortage on record at the moment at which the tick began, and asks what the node can
spare only when the taints and the grace period have been read. So the grace period of an untaint
counts from the beginning of the tick that last saw the shortage (`quiet_since_tick_began`). When
these reads take long, that is earlier than the moment at which the node was seen short, and the
node is untainted that much too early (`untaint_soon_after_shortage`).
-/

namespace NodePressure.Pressure

variable {σ : Type} {W : Replies world σ} {resync : Option Nat} {s₀ s : State} {e₀ e : σ}
  {ts : List Ticked} {t : Ticked} {d : Dimension}

/-! ## What a tick asks -/

/-- A tick may read the taints first; then it asks for the grace period and, once, for what the node
can spare; everything else comes later. -/
theorem exec_tick_asks {number : Nat} {now : Moment} {hs : List (Happening world)}
    {r : State × Option Resource} {e' : σ}
    (h : Program.Exec W (tick resync number now s) e hs r e') :
    ∃ first grace a last,
      hs = first ++ .answered .grace grace :: .answered .availability a :: last ∧
      (∀ q ≠ .readTaints, answersTo q first = []) ∧ answersTo .availability last = [] := by
  obtain ⟨answers, ns, grace, a, last, e₁, -, rfl, heval⟩ := exec_tick_parts h
  obtain ⟨r₁, r₂⟩ := r
  obtain ⟨-, hasks, -⟩ := exec_evaluate heval
  refine ⟨readings answers ++ told (I := world) ns, grace, a, last, rfl, fun q hq => ?_,
    hasks _ (by simp) (by simp)⟩
  rw [answersTo_append, answersTo_readings_of_ne answers hq, answersTo_told, List.append_nil]

/-! ## Shortages on record -/

/-- A watch has a shortage on record, not earlier than a moment. -/
def Watch.Since (w : Watch) (m : Moment) : Prop :=
  ∃ last, w.last = some last ∧ m ≤ last

/-- A record that moves to the present, if at all, keeps the shortage. -/
theorem Watch.Since.of_moved {w w' : Watch} {m now : Moment} (h : w.Since m) (hm : m ≤ now)
    (hmoved : w'.last = w.last ∨ w'.last = some now) : w'.Since m := by
  rcases hmoved with hkept | hnow
  · rwa [Since, hkept]
  · exact ⟨now, hnow, hm⟩

variable {grace : Span} {a : Availability} {m : Moment}

/-- Every shortage that a run has seen is on record, not earlier than its tick. -/
theorem Ticking.since_short (run : Ticking W resync s₀ e₀ ts s e)
    (order : ts.Pairwise fun t u => t.now ≤ u.now) {u : Ticked} (hu : u ∈ ts) (short : u.Short d) :
    (s.watch d).Since u.now := by
  induction run with
  | start => simp at hu
  | @tick ts s e e' t run number before h ih =>
    obtain ⟨grace, a, sound⟩ := exec_tick h
    obtain ⟨order, -, hlast⟩ := List.pairwise_append.mp order
    rcases List.mem_append.mp hu with hu | hu
    · have hle : u.now ≤ t.now := hlast u hu t (by simp)
      have hbefore := ih order hu
      rw [← before] at hbefore
      exact hbefore.of_moved hle (sound.lastBusy_after d)
    · obtain rfl := List.mem_singleton.mp hu
      have hnow := (sound.visit d).last
      rw [sound.short_iff.mp short] at hnow
      exact ⟨u.now, hnow, Int.le_refl _⟩

/-- A tick that untaints a dimension begins more than its grace period after each tick that has seen
it short. -/
theorem Ticking.quiet_of_untaint (run : Ticking W resync s₀ e₀ (ts ++ [t]) s e)
    (order : (ts ++ [t]).Pairwise fun t u => t.now ≤ u.now) (hgrace : t.grace? = some grace)
    {r : Except ClusterFault Unit} (call : (.untaint, r) ∈ t.calls d) {u : Ticked}
    (hu : u ∈ ts ++ [t]) (short : u.Short d) : u.now + grace < t.now := by
  obtain ⟨grace', a, sound⟩ := run.sound
  obtain rfl : grace = grace' := Option.some_inj.mp (hgrace.symm.trans sound.grace?)
  obtain ⟨-, havailable, hquiet⟩ :=
    Watch.change?_eq_untaint_iff.mp ((sound.visit d).call_iff.mp ⟨r, call⟩)
  obtain ⟨order, -, hlast⟩ := List.pairwise_append.mp order
  rcases List.mem_append.mp hu with hu | hu
  · obtain ⟨-, -, e', before, -⟩ := run.last
    have hsince := before.since_short order hu short
    obtain ⟨m, hm, hle⟩ : (t.start.watch d).Since u.now :=
      hsince.of_moved (hlast u hu t (by simp)) (sound.lastBusy_start d)
    rw [hm, Option.getD_some, Span.between, Int.lt_toNat] at hquiet
    calc u.now + grace ≤ m + grace := Int.add_le_add_right hle grace
      _ < t.now := Int.add_lt_of_lt_sub_left hquiet
  · obtain rfl := List.mem_singleton.mp hu
    simp [sound.short_iff.mp short] at havailable

/-! ## The rule -/

/-- What a tick has heard that the node can spare, it has heard only once. -/
theorem Ticking.short_of_answer (run : Ticking W resync s₀ e₀ ts s e) (ht : t ∈ ts)
    (ha : a ∈ answersTo .availability t.happenings) (hshort : a.has d = false) : t.Short d := by
  induction run with
  | start => simp at ht
  | tick run number before h ih =>
    rcases List.mem_append.mp ht with ht | ht
    · exact ih ht
    · obtain rfl := List.mem_singleton.mp ht
      obtain ⟨first, grace, b, last, heq, hfirst, hlast⟩ := exec_tick_asks h
      have honce : answersTo .availability t.happenings = [b] := by
        rw [heq, answersTo_append, hfirst _ (by simp), answersTo_of_ne (by simp), answersTo_self,
          hlast, List.nil_append]
      rw [honce, List.mem_singleton] at ha
      exact ⟨a, by rw [Ticked.availability?, honce, ha, List.head?_cons], hshort⟩

/-- When a tick asks to change a taint, it has read its grace period. -/
theorem grace_of_change {number : Nat} {now : Moment} {hs rest : List (Happening world)}
    {r : State × Option Resource} {e' : σ} {c : TaintChange} {b : Except ClusterFault Unit}
    (h : Program.Exec W (tick resync number now s) e
      (hs ++ .answered (.changeTaint d c) b :: rest) r e') :
    ∃ grace more, answersTo .grace hs = grace :: more := by
  obtain ⟨first, grace, a, last, heq, hfirst, -⟩ := exec_tick_asks h
  rcases List.append_eq_append_iff.mp heq with ⟨xs, hfirst', htail⟩ | ⟨xs, rfl, htail⟩
  · -- then the call stands among what comes before the grace period
    cases xs with
    | nil => simp at htail
    | cons x xs =>
      have hmem : b ∈ answersTo (.changeTaint d c) first := by
        rw [mem_answersTo_iff, hfirst', (List.cons.inj htail).1]
        simp
      simp [hfirst] at hmem
  · cases xs with
    | nil => simp at htail
    | cons x xs =>
      rw [List.cons_append] at htail
      rw [← (List.cons.inj htail).1, answersTo_append, hfirst _ (by simp), answersTo_self]
      exact ⟨grace, _, rfl⟩

variable {pace : Pace} {t₀ now : Moment} {log : List Timed} {l : Loop}

theorem Timed.SawShort.answered {u : Timed} (h : u.SawShort d m) :
    ∃ a ∈ u.answersTo .availability, a.has d = false := by
  obtain ⟨a, ha, hshort⟩ := h
  refine ⟨a, ?_, hshort⟩
  rw [Timed.answersTo, mem_answersTo_iff]
  exact List.mem_map_of_mem (f := Prod.snd) ha

/-- A tick goes on from one in time: it began at the same moment, and got its answers. -/
def Ticked.Continues (t : Ticked) (u : Timed) : Prop :=
  t.now = u.began ∧ ∀ q, ∀ b ∈ u.answersTo q, b ∈ answersTo q t.happenings

theorem Ticked.Records.continues {u : Timed} (h : t.Records u) : t.Continues u := by
  refine ⟨h.1, fun q b hb => ?_⟩
  rwa [h.2]

section Continues

variable (h : List.Forall₂ Ticked.Continues ts log)
include h

theorem map_now_of_continues : ts.map Ticked.now = log.map Timed.began := by
  induction h with
  | nil => rfl
  | cons h _ ih => rw [List.map_cons, List.map_cons, h.1, ih]

theorem mem_of_continues {u : Timed} (hu : u ∈ log) : ∃ t ∈ ts, t.Continues u := by
  induction h with
  | nil => simp at hu
  | @cons t u' ts log h _ ih =>
    rcases List.mem_cons.mp hu with rfl | hu
    · exact ⟨t, by simp, h⟩
    · obtain ⟨w, hw, hcontinues⟩ := ih hu
      exact ⟨w, List.mem_cons_of_mem _ hw, hcontinues⟩

end Continues

/-- **The grace period counts from the beginning of ticks.** In every run of the loop in time, when
the call that untaints a dimension is made, the tick under way began more than its grace period
after the beginning of every tick that has seen the node short of the dimension. What the node was
seen to spare came later than that beginning, by the time that the reads before it took. -/
theorem quiet_since_tick_began (run : Paced pace s₀ t₀ log l now)
    (issued : l.asking = some (.changeTaint d .untaint)) :
    ∃ t grace, log.getLast? = some t ∧ t.grace? = some grace ∧ t.began ≤ now ∧
      ∀ u ∈ log, ∀ m, u.SawShort d m → u.began ≤ m ∧ u.began + grace < t.began := by
  have times := run.chronological
  obtain ⟨us, v, earlier, t, hs, rest, rfl, same, ticks, hnow, hhs, hanswers⟩ :=
    run.complete issued (.ok ())
  have continues : List.Forall₂ Ticked.Continues (us ++ [v]) (earlier ++ [t]) := by
    refine List.rel_append (same.imp fun _ _ h => h.continues) (.cons ⟨hnow, fun q b hb => ?_⟩ .nil)
    rw [hhs, answersTo_append, hanswers]
    exact List.mem_append_left _ hb
  have order : (us ++ [v]).Pairwise fun t u => t.now ≤ u.now := by
    rw [← List.pairwise_map (f := Ticked.now) (R := (· ≤ ·)), map_now_of_continues continues,
      List.pairwise_map]
    exact times.sorted
  obtain ⟨-, -, e, -, hexec⟩ := ticks.last
  obtain ⟨grace, more, hgrace⟩ := grace_of_change (hhs ▸ hexec)
  have hread : v.grace? = some grace := by
    rw [Ticked.grace?, hhs, answersTo_append, hgrace]
    rfl
  have hcall : (.untaint, .ok ()) ∈ v.calls d := by
    rw [Ticked.calls, hhs, callsFor_append]
    simp [callsFor]
  refine ⟨t, grace, by simp, ?_, times.began t (by simp), fun u hu m saw => ?_⟩
  · rw [Timed.grace?, ← hanswers, hgrace]
    rfl
  · obtain ⟨a, ha, hshort⟩ := saw.answered
    obtain ⟨w, hw, hbegan, hheard⟩ := mem_of_continues continues hu
    have short : w.Short d := ticks.short_of_answer hw (hheard _ a ha) hshort
    obtain ⟨b, hb, -⟩ := saw
    refine ⟨times.answered u hu _ hb, ?_⟩
    rw [← hbegan, ← hnow]
    exact ticks.quiet_of_untaint order hread hcall hw short

/-! ## Two runs -/

/-- What a world answers in which all calls succeed. -/
def served (live : TaintFlags) (grace : Span) (a : Availability) : (q : Ask) → q.Answer
  | .readTaints => .ok live
  | .grace => grace
  | .availability => a
  | .changeTaint .. => .ok ()
  | q => q.silence

/-- A node that is short at 10 is held at 20, which is within its grace period, and untainted at
30. -/
theorem untaint_at_third_tick :
    ∃ log l, Paced ⟨10, none⟩ .fresh 0 log l 30 ∧ l.asking = some (.changeTaint .cpu .untaint) ∧
      (∃ u ∈ log, u.began = 10 ∧ u.SawShort .cpu 10) ∧ ∃ t grace, log.getLast? = some t ∧
        t.grace? = some grace ∧ t.began ≤ 30 ∧
        ∀ u ∈ log, ∀ m, u.SawShort .cpu m → u.began ≤ m ∧ u.began + grace < t.began := by
  let short := served .clear 15 (.without [.cpu])
  let full := served (.set .clear .cpu true) 15 .full
  have tainted := (Paced.start : Paced ⟨10, none⟩ .fresh 0 _ _ _)
    |>.wake 10 (m := 10) (by decide +kernel) (by decide) (by decide)
    |>.answer 10 (q := .grace) (by decide +kernel) (by decide) short
    |>.answer 10 (q := .availability) (by decide +kernel) (by decide) short
    |>.answer 10 (q := .changeTaint .cpu .taint) (by decide +kernel) (by decide) short
    |>.accept 10 (r := .cpu) (by decide +kernel) (by decide)
  have held := tainted
    |>.wake 20 (m := 20) (by decide +kernel) (by decide) (by decide)
    |>.answer 20 (q := .grace) (by decide +kernel) (by decide) full
    |>.answer 20 (q := .availability) (by decide +kernel) (by decide) full
  have quiet := held
    |>.wake 30 (m := 30) (by decide +kernel) (by decide) (by decide)
    |>.answer 30 (q := .grace) (by decide +kernel) (by decide) full
    |>.answer 30 (q := .availability) (by decide +kernel) (by decide) full
  refine ⟨_, _, quiet, by decide +kernel, ⟨_, List.mem_cons_self, rfl, .without [.cpu], ?_, rfl⟩,
    quiet_since_tick_began quiet (by decide +kernel)⟩
  simp [Timed.enter, short, served]

/-- **Shortages that are seen late are forgotten early.** The tick that begins at 10 needs 100 to
read the taints, and sees at 110 that the node is short. The next tick untaints the node at 120,
although its grace period is 30. -/
theorem untaint_soon_after_shortage :
    ∃ log l, Paced ⟨10, some 1⟩ .fresh 0 log l 120 ∧
      l.asking = some (.changeTaint .cpu .untaint) ∧
      (∃ t, log.getLast? = some t ∧ t.grace? = some 30) ∧
      (∃ u ∈ log, u.began = 10 ∧ u.SawShort .cpu 110) ∧ ¬ ((110 : Moment) + 30 < 120) := by
  let short := served .clear 30 (.without [.cpu])
  let full := served (.set .clear .cpu true) 30 .full
  have tainted := (Paced.start : Paced ⟨10, some 1⟩ .fresh 0 _ _ _)
    |>.wake 10 (m := 10) (by decide +kernel) (by decide) (by decide)
    |>.answer 110 (q := .readTaints) (by decide +kernel) (by decide) short
    |>.answer 110 (q := .grace) (by decide +kernel) (by decide) short
    |>.answer 110 (q := .availability) (by decide +kernel) (by decide) short
    |>.answer 110 (q := .changeTaint .cpu .taint) (by decide +kernel) (by decide) short
    |>.accept 110 (r := .cpu) (by decide +kernel) (by decide)
  have quiet := tainted
    |>.wake 120 (m := 120) (by decide +kernel) (by decide) (by decide)
    |>.answer 120 (q := .readTaints) (by decide +kernel) (by decide) full
    |>.answer 120 (q := .grace) (by decide +kernel) (by decide) full
    |>.answer 120 (q := .availability) (by decide +kernel) (by decide) full
  refine ⟨_, _, quiet, by decide +kernel, ⟨_, rfl, rfl⟩,
    ⟨_, List.mem_cons_self, rfl, .without [.cpu], ?_, rfl⟩, by decide⟩
  simp [Timed.enter, short, served]

end NodePressure.Pressure
