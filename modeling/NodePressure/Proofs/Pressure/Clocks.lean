import Mathlib.Data.List.Pairwise
import NodePressure.Proofs.Pressure.Hysteresis

/-!
# NodePressure.Proofs.Pressure.Clocks - a busy moment for every flag

A visit that finds a dimension available and flagged, but with no busy moment on record, makes up
for it: the moment of the tick is taken (`visit_eq_visitOr`). `visitOr` does anything else instead,
and a tick made of such visits is the tick itself as long as every flag has its moment
(`Recorded.tickWith_visitOr`). That is so after every tick of a run. A tick leaves a moment on
record as it was or puts its own in its place (`Ticked.Sound.lastBusy_after`), so no moment goes
back (`every_taint_has_its_clock`).
-/

namespace NodePressure.Pressure

variable {σ : Type} {W : Replies world σ} {e e' : σ} {hs : List (Happening world)}
  {resync : Option Nat} {a : Availability} {grace : Span} {now m : Moment} {d : Dimension}
  {s s' : State}

/-! ## Flags without a busy moment -/

/-- The visit to a dimension, with something else to do if the dimension is available and flagged
and has no busy moment on record. -/
def visitOr (fallback : Moment → Dimension → State → Task Step) (a : Availability) (grace : Span)
    (now : Moment) (d : Dimension) (s : State) : Task Step :=
  if a.has d && s.flags.get d && (s.lastBusy d).isNone then fallback now d s
  else visit a grace now d s

/-- A sweep made of given visits. -/
def sweepWith (visit : Dimension → State → Task Step) :
    List Dimension → State → Option ClusterFault → Task Step
  | [], s, fault => .done (s, fault)
  | d :: r, s, fault => (visit d s).bind fun (s, f) => sweepWith visit r s (f.or fault)

/-- A tick made of given visits. -/
def tickWith (visit : Availability → Span → Moment → Dimension → State → Task Step)
    (resync : Option Nat) (number : Nat) (now : Moment) (s : State) :
    Task (State × Option Resource) :=
  (if isResyncDue resync number then resyncWith now s else .done s).bind fun s =>
    .ask .grace fun grace => .ask .availability fun a =>
      if a.isFull && !s.flags.any then idle s
      else
        (sweepWith (visit a grace now) Dimension.all s none).bind fun (s, fault) =>
          .note (report fault) (.done (s, signalOf a))

/-- In this case a visit itself puts the moment of the tick on record, and the taint stays. -/
theorem visit_eq_visitOr : visit a grace now d s =
    visitOr (fun now d s => .done (s.setBusy d now, none)) a grace now d s := by
  unfold visitOr
  by_cases hcase : (a.has d && s.flags.get d && (s.lastBusy d).isNone) = true
  · rw [if_pos hcase]
    simp only [Bool.and_eq_true, Option.isNone_iff_eq_none] at hcase
    obtain ⟨⟨ha, hflag⟩, hlast⟩ := hcase
    simp [visit, relieve, ha, hflag, hlast, Span.between]
  · rw [if_neg hcase]

/-- Every flag has its busy moment on record. -/
def Recorded (s : State) : Prop :=
  ∀ d, s.flags.get d = true → (s.lastBusy d).isSome = true

/-- A dimension that is flagged after a visit has a moment on record, whatever was there before. -/
theorem Watch.Visit.isSome_last {available : Bool} {w w' : Watch} {calls : List TaintCall}
    (h : w.Visit available grace now calls w') (hflag : w'.flag = true) :
    w'.last.isSome = true := by
  rw [h.last]
  cases available with
  | false => rfl
  | true =>
    have hw : w.flag = true := h.flag_of_available hflag
    simp [touch, hw]

namespace Recorded

variable {fallback : Moment → Dimension → State → Task Step}

theorem visitOr_eq (h : Recorded s) :
    visitOr fallback a grace now d s = visit a grace now d s := by
  refine if_neg fun hcase => ?_
  simp only [Bool.and_eq_true, Option.isNone_iff_eq_none] at hcase
  obtain ⟨⟨-, hflag⟩, hlast⟩ := hcase
  have hsome := h d hflag
  simp [hlast] at hsome

theorem read (h : Recorded s) (answer : Except ClusterFault TaintFlags) :
    Recorded (s.read now answer) := by
  intro d hflag
  rcases answer with f | live
  · exact h d hflag
  · have hlive : live.get d = true := hflag
    cases hheld : s.flags.get d with
    | false => simp [State.read, State.adopt, hlive, hheld]
    | true => simpa [State.read, State.adopt, hheld] using h d hheld

theorem visit {f : Option ClusterFault} (h : Recorded s)
    (exec : Program.Exec W (Pressure.visit a grace now d s) e hs (s', f) e') : Recorded s' := by
  intro x hflag
  have hx := exec_visit exec x
  split_ifs at hx
  · exact hx.isSome_last hflag
  · obtain ⟨hsame, hlast⟩ := Watch.mk.inj hx.2
    rw [hlast]
    exact h x (hsame ▸ hflag)

/-- Every visit of a sweep finds the flags with their moments. -/
theorem sweepWith_visitOr (h : Recorded s) (ds : List Dimension) (f : Option ClusterFault) :
    sweepWith (visitOr fallback a grace now) ds s f = sweep a grace now ds s f := by
  induction ds generalizing s f with
  | nil => rfl
  | cons d ds ih =>
    rw [sweepWith, sweep, h.visitOr_eq]
    refine Program.bind_congr_of_exec fun hs step exec => ?_
    obtain ⟨s₁, f₁⟩ := step
    exact ih (h.visit exec) (f₁.or f)

/-- If every flag has its moment when a tick begins, no visit of the tick has to make up for one,
whatever is answered. -/
theorem tickWith_visitOr (h : Recorded s) (number : Nat) :
    tickWith (visitOr fallback) resync number now s = tick resync number now s := by
  refine Program.bind_congr_of_exec fun hs s₁ exec => ?_
  have h₁ : Recorded s₁ := by
    split at exec
    · obtain ⟨answer, ns, -, rfl, -⟩ := exec_resyncWith exec
      exact h.read answer
    · obtain ⟨-, rfl, -⟩ := Program.exec_done_iff.mp exec
      exact h
  refine congrArg (Program.ask (I := world) .grace) (funext fun grace => ?_)
  refine congrArg (Program.ask (I := world) .availability) (funext fun a => ?_)
  rw [evaluate, h₁.sweepWith_visitOr]

end Recorded

/-! ## Moments on record -/

variable {o : Origin} {ts : List Ticked} {t : Ticked}

namespace Ticking

/-- At the beginning of a run and after each tick, every flag has its moment. -/
theorem recorded (run : Ticking W resync o.state e ts s e') : Recorded s := by
  cases run with
  | start =>
    intro d hflag
    cases o with
    | fresh => simp [Origin.state, State.fresh] at hflag
    | found live now =>
      have hlive : live.get d = true := hflag
      simp [Origin.state, State.reconciled, hlive]
  | tick run number before h =>
    -- each visit of the last tick has left a moment with its flag, so no induction is needed
    obtain ⟨grace, a, sound⟩ := exec_tick h
    exact fun d hflag => (sound.visit d).isSome_last hflag

/-- Every moment on record is that of a tick, or the one at which the taints were found. -/
theorem moment_mem (run : Ticking W resync o.state e ts s e') (hm : s.lastBusy d = some m) :
    m ∈ o.moments ++ ts.map Ticked.now := by
  induction run with
  | start =>
    cases o with
    | fresh => simp [Origin.state, State.fresh] at hm
    | found live now =>
      have hnow : live.get d = true ∧ now = m := by
        simpa [Origin.state, State.reconciled] using hm
      simp [Origin.moments, hnow.2]
  | tick run number before h ih =>
    obtain ⟨grace, a, sound⟩ := exec_tick h
    subst before
    rw [List.map_append, ← List.append_assoc]
    rcases sound.lastBusy_after d with hkept | hnow
    · exact List.mem_append_left _ (ih (hkept.symm.trans hm))
    · obtain rfl := Option.some_inj.mp (hnow.symm.trans hm)
      exact List.mem_append_right _ (by simp)

end Ticking

/-- No moment of a run lies behind its latest one. -/
theorem Ordered.le_latest (order : Ordered o ts) (hm : m ∈ o.moments ++ ts.map Ticked.now) :
    ∃ latest, (o.moments ++ ts.map Ticked.now).getLast? = some latest ∧ m ≤ latest :=
  ⟨_, List.getLast?_eq_some_getLast (List.ne_nil_of_mem hm), order.rel_getLast hm⟩

/-- **Every taint has its clock.** In every run whose ticks do not go back in time: a dimension that
is flagged has a busy moment on record, and it is not later than the latest tick or the moment at
which the taints were found. So in no tick that may follow does a visit have to make up for a moment
that is missing: with anything else done in its place the tick would be the same, whatever is
answered. And no tick has removed a moment from the record or moved one back. -/
theorem every_taint_has_its_clock (run : Ticking W resync o.state e ts s e')
    (order : Ordered o ts) :
    (∀ d, s.flags.get d = true → ∃ m latest, s.lastBusy d = some m ∧
      (o.moments ++ ts.map Ticked.now).getLast? = some latest ∧ m ≤ latest) ∧
    (∀ fallback number now,
      tickWith (visitOr fallback) resync number now s = tick resync number now s) ∧
    ∀ t ∈ ts, ∀ d m, t.before.lastBusy d = some m →
      ∃ m', t.after.lastBusy d = some m' ∧ m ≤ m' ∧ m' ≤ t.now := by
  refine ⟨fun d hflag => ?_, fun fallback number now => run.recorded.tickWith_visitOr number,
    fun t ht d m hm => ?_⟩
  · obtain ⟨m, hm⟩ := Option.isSome_iff_exists.mp (run.recorded d hflag)
    obtain ⟨latest, hlatest, hle⟩ := order.le_latest (run.moment_mem hm)
    exact ⟨m, latest, hm, hlatest, hle⟩
  · obtain ⟨earlier, later, rfl⟩ := List.append_of_mem ht
    rw [List.append_cons] at run order
    obtain ⟨s₁, e₁, run₁⟩ := run.take
    obtain ⟨-, -, e₂, before, -⟩ := run₁.last
    obtain ⟨grace, a, sound⟩ := run₁.sound
    have hle : m ≤ t.now := order.take.le_now (before.moment_mem hm)
    rcases sound.lastBusy_after d with hkept | hnow
    · exact ⟨m, hkept.trans hm, le_rfl, hle⟩
    · exact ⟨t.now, hnow, hle, le_rfl⟩

/-- A node is found tainted for its memory, and by the first tick for its disk instead, while it is
short of its processor and may not be tainted for it. The disk counts from that tick on, and the
moment of the memory stays on record without its flag. -/
theorem clocks_of_drifting_taints :
    ∃ (o : Origin) (t : Ticked), o = .found (TaintFlags.clear.set .memory true) 5 ∧
      Ticking anyReply (some 1) o.state () [t] t.after () ∧ t.now = 10 ∧
      t.after.flags = TaintFlags.clear.set .diskIo true ∧
      (∃ m latest, t.after.lastBusy .diskIo = some m ∧
        (o.moments ++ [t].map Ticked.now).getLast? = some latest ∧ m ≤ latest) ∧
      (∀ fallback, tickWith (visitOr fallback) (some 1) 2 20 t.after =
        tick (some 1) 2 20 t.after) ∧
      t.before.lastBusy .memory = some 5 ∧
      ∃ m', t.after.lastBusy .memory = some m' ∧ 5 ≤ m' ∧ m' ≤ t.now := by
  let o : Origin := .found (TaintFlags.clear.set .memory true) 5
  let reply : (q : Ask) → q.Answer
    | .readTaints => .ok (TaintFlags.clear.set .diskIo true)
    | .availability => .without [.cpu]
    | q => q.silence
  let t : Ticked := .play (some 1) reply 1 10 o.state
  have run : Ticking anyReply (some 1) o.state () [t] t.after () := Ticking.start.play reply 10
  have order : Ordered o [t] := by simp [Ordered, Origin.moments, o, t, Ticked.play]
  obtain ⟨hclock, hfallback, hkept⟩ := every_taint_has_its_clock run order
  have hmemory : t.before.lastBusy .memory = some 5 := rfl
  exact ⟨o, t, rfl, run, rfl, rfl, hclock .diskIo rfl, fun fallback => hfallback fallback 2 20,
    hmemory, hkept t (by simp) .memory 5 hmemory⟩

end NodePressure.Pressure
