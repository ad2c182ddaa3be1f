import Mathlib.Data.List.Forall2
import NodePressure.Pressure.Loop
import NodePressure.Proofs.Pressure.Ticks

/-!
# NodePressure.Proofs.Pressure.Pacing - the loop in time

`Paced` are the runs of the loop in time. It wakes no earlier than it should, and each answer and
each receiver may take as long as they like. A tick is kept as a `Timed`: when it began, and when it
got each of its answers. The ticks of such a run are a run of ticks (`Paced.follows`), and the one
that waits for an answer can be brought to its end (`Paced.complete`).
-/

namespace NodePressure.Pressure

/-- A tick in time. -/
structure Timed where
  began : Moment
  /-- The answers that it has got, each with its moment. -/
  log : List (Moment × Happening world)

namespace Timed

variable (t : Timed)

/-- Enters an answer. -/
def enter (now : Moment) (q : Ask) (b : q.Answer) : Timed :=
  { t with log := t.log ++ [(now, .answered q b)] }

/-- The answers to a question. -/
def answersTo (q : Ask) : List q.Answer :=
  NodePressure.answersTo q (t.log.map Prod.snd)

/-- The grace period of the tick, once it has been read. -/
def grace? : Option Span := (t.answersTo .grace).head?

/-- The node was seen short of a dimension at a moment. -/
def SawShort (d : Dimension) (m : Moment) : Prop :=
  ∃ a : Availability, (m, .answered .availability a) ∈ t.log ∧ a.has d = false

theorem answersTo_enter (now : Moment) (q : Ask) (b : q.Answer) (r : Ask) :
    (t.enter now q b).answersTo r = t.answersTo r ++ NodePressure.answersTo r [.answered q b] := by
  simp [answersTo, enter]

end Timed

/-- The runs of a loop in time: the ticks that it has begun, the loop, and the moment of its last
step. -/
inductive Paced (pace : Pace) (s₀ : State) (t₀ : Moment) : List Timed → Loop → Moment → Prop
  | start : Paced pace s₀ t₀ [] (.start pace s₀ t₀) t₀
  | wake {ts : List Timed} {l : Loop} {m now : Moment} (run : Paced pace s₀ t₀ ts l now)
      (now' : Moment) (sleeps : l.wakes = some m) (due : m ≤ now') (later : now ≤ now') :
      Paced pace s₀ t₀ (ts ++ [⟨now', []⟩]) (l.wake now').1 now'
  | answer {ts : List Timed} {t : Timed} {l : Loop} {now : Moment}
      (run : Paced pace s₀ t₀ (ts ++ [t]) l now) (now' : Moment) {q : Ask}
      (asks : l.asking = some q) (later : now ≤ now') (f : (q : Ask) → q.Answer) :
      Paced pace s₀ t₀ (ts ++ [t.enter now' q (f q)]) (l.resume f now').1 now'
  | accept {ts : List Timed} {l : Loop} {now : Moment} (run : Paced pace s₀ t₀ ts l now)
      (now' : Moment) {r : Resource} (offers : l.offered = some r) (later : now ≤ now') :
      Paced pace s₀ t₀ ts (l.accepted now').1 now'
  | halt {ts : List Timed} {l : Loop} {now : Moment} (run : Paced pace s₀ t₀ ts l now)
      (now' : Moment) (stoppable : l.isStoppable = true) (later : now ≤ now') :
      Paced pace s₀ t₀ ts l.halt now'

/-! ## The phases of the loop -/

namespace Loop

variable {l : Loop}

theorem wakes_eq_some_iff {m : Moment} : l.wakes = some m ↔ l.phase = .sleeping m := by
  cases hp : l.phase <;> simp [wakes, hp]

theorem offered_eq_some_iff {r : Resource} :
    l.offered = some r ↔ ∃ since, l.phase = .offering r since := by
  cases hp : l.phase <;> simp [offered, hp]

theorem asking_eq_some_iff {q : Ask} :
    l.asking = some q ↔ ∃ started next, l.phase = .ticking started q next := by
  cases hp : l.phase with
  | ticking started r next =>
    simp only [asking, hp, Option.some.injEq, Phase.ticking.injEq]
    constructor
    · rintro rfl
      exact ⟨started, next, rfl, rfl, HEq.rfl⟩
    · rintro ⟨-, -, -, rfl, -⟩
      rfl
  | _ => simp [asking, hp]

/-- A loop that asks nothing is between two ticks. -/
theorem asking_of_stoppable (h : l.isStoppable = true) : l.asking = none := by
  cases hp : l.phase <;> simp [isStoppable, asking, hp] at h ⊢

@[simp] theorem pace_proceed {started now : Moment} {t : Task (State × Option Resource)} :
    (l.proceed started now t).1.pace = l.pace := by
  unfold proceed
  rcases t.settle with ⟨notes, ⟨s, signal⟩ | ⟨q, next⟩⟩
  · cases signal <;> rfl
  · rfl

end Loop

/-! ## The order of moments -/

variable {pace : Pace} {s₀ : State} {t₀ now : Moment} {ts : List Timed} {l : Loop}

/-- Ticks do not begin before the ones before them, and answers come after the question. -/
structure Chronological (ts : List Timed) (now : Moment) : Prop where
  began : ∀ t ∈ ts, t.began ≤ now
  sorted : ts.Pairwise fun t u => t.began ≤ u.began
  answered : ∀ t ∈ ts, ∀ x ∈ t.log, t.began ≤ x.1

namespace Chronological

variable {now' : Moment}

theorem later (h : Chronological ts now) (hle : now ≤ now') : Chronological ts now' where
  began t ht := Int.le_trans (h.began t ht) hle
  sorted := h.sorted
  answered := h.answered

theorem begin (h : Chronological ts now) (hle : now ≤ now') :
    Chronological (ts ++ [⟨now', []⟩]) now' := by
  refine ⟨fun t ht => ?_, ?_, fun t ht => ?_⟩
  · rcases List.mem_append.mp ht with ht | ht
    · exact (h.later hle).began t ht
    · obtain rfl := List.mem_singleton.mp ht
      exact Int.le_refl now'
  · rw [List.pairwise_append]
    refine ⟨h.sorted, List.pairwise_singleton _ _, fun t ht u hu => ?_⟩
    rw [List.mem_singleton.mp hu]
    exact (h.later hle).began t ht
  · rcases List.mem_append.mp ht with ht | ht
    · exact h.answered t ht
    · simp [List.mem_singleton.mp ht]

theorem enter {t : Timed} (h : Chronological (ts ++ [t]) now) (hle : now ≤ now') (q : Ask)
    (b : q.Answer) : Chronological (ts ++ [t.enter now' q b]) now' := by
  have hbegan : t.began ≤ now' := (h.later hle).began t (by simp)
  obtain ⟨hsorted, -, hlast⟩ := List.pairwise_append.mp h.sorted
  refine ⟨fun u hu => ?_, ?_, fun u hu x hx => ?_⟩
  · rcases List.mem_append.mp hu with hu | hu
    · exact (h.later hle).began u (List.mem_append_left _ hu)
    · rw [List.mem_singleton.mp hu]
      exact hbegan
  · rw [List.pairwise_append]
    refine ⟨hsorted, List.pairwise_singleton _ _, fun u hu v hv => ?_⟩
    rw [List.mem_singleton.mp hv]
    exact hlast u hu t (by simp)
  · rcases List.mem_append.mp hu with hu | hu
    · exact h.answered u (List.mem_append_left _ hu) x hx
    · obtain rfl := List.mem_singleton.mp hu
      rcases List.mem_append.mp hx with hx | hx
      · exact h.answered t (by simp) x hx
      · rw [List.mem_singleton.mp hx]
        exact hbegan

end Chronological

theorem Paced.chronological (run : Paced pace s₀ t₀ ts l now) : Chronological ts now := by
  induction run with
  | start => exact ⟨by simp, .nil, by simp⟩
  | wake _ _ _ _ later ih => exact ih.begin later
  | answer _ _ _ later _ ih => exact ih.enter later _ _
  | accept _ _ _ later ih => exact ih.later later
  | halt _ _ _ later ih => exact ih.later later

/-! ## The ticks of a loop -/

/-- A tick that is over is one in time: it began at the same moment and got the same answers. -/
def Ticked.Records (u : Ticked) (t : Timed) : Prop :=
  u.now = t.began ∧ ∀ q, answersTo q u.happenings = t.answersTo q

/-- Where a loop is among the ticks that it has begun. The ticks that are over are a run, and the
one under way has got its answers and ends as the rest of its task does. -/
inductive Follows (s₀ : State) (l : Loop) (ts : List Timed) : Prop
  | between {us : List Ticked} (run : Ticking anyReply l.pace.resync s₀ () us l.state ())
      (same : List.Forall₂ Ticked.Records us ts) (number : l.ticks = us.length)
      (idle : l.asking = none)
  | within {us : List Ticked} {earlier : List Timed} {t : Timed} {hs : List (Happening world)}
      {q : Ask} {next : q.Answer → Task (State × Option Resource)}
      (run : Ticking anyReply l.pace.resync s₀ () us l.state ())
      (same : List.Forall₂ Ticked.Records us earlier) (number : l.ticks = us.length + 1)
      (split : ts = earlier ++ [t]) (phase : l.phase = .ticking t.began q next)
      (answers : ∀ q, answersTo q hs = t.answersTo q)
      (ends : ∀ rest r, Program.Exec anyReply (.ask q next) () rest r () →
        Program.Exec anyReply (tick l.pace.resync l.ticks t.began l.state) () (hs ++ rest) r ())

variable {us : List Ticked} {earlier : List Timed} {t : Timed} {hs : List (Happening world)}
  {task : Task (State × Option Resource)}

/-- A tick that goes on comes to its next question or to its end. -/
theorem follows_proceed (run : Ticking anyReply l.pace.resync s₀ () us l.state ())
    (same : List.Forall₂ Ticked.Records us earlier) (number : l.ticks = us.length + 1)
    (answers : ∀ q, answersTo q hs = t.answersTo q)
    (ends : ∀ rest r, Program.Exec anyReply task () rest r () →
      Program.Exec anyReply (tick l.pace.resync l.ticks t.began l.state) () (hs ++ rest) r ()) :
    Follows s₀ (l.proceed t.began now task).1 (earlier ++ [t]) := by
  have hanswers : ∀ notes q, answersTo q (hs ++ told (I := world) notes) = t.answersTo q := by
    intro notes q
    rw [answersTo_append, answersTo_told, List.append_nil, answers]
  rcases hsettle : task.settle with ⟨notes, ⟨s, signal⟩ | ⟨q, next⟩⟩
  · have hexec := ends _ _ (Program.exec_of_settle_done hsettle)
    let u : Ticked := ⟨l.ticks, t.began, l.state, hs ++ told (I := world) notes, s, signal⟩
    have run' : Ticking anyReply l.pace.resync s₀ () (us ++ [u]) s () := run.tick number rfl hexec
    have same' : List.Forall₂ Ticked.Records (us ++ [u]) (earlier ++ [t]) :=
      List.rel_append same (.cons ⟨rfl, hanswers notes⟩ .nil)
    have number' : l.ticks = (us ++ [u]).length := by simp [number]
    simp only [Loop.proceed, hsettle]
    cases signal with
    | none => exact .between run' same' number' rfl
    | some r => exact .between run' same' number' rfl
  · simp only [Loop.proceed, hsettle]
    refine .within run same number rfl rfl (hanswers notes) fun rest r h => ?_
    rw [List.append_assoc]
    exact ends _ r (Program.exec_of_settle_waiting hsettle h)

namespace Follows

/-- A loop that asks nothing is between two ticks. -/
theorem of_idle (h : Follows s₀ l ts) (idle : l.asking = none) :
    ∃ us, Ticking anyReply l.pace.resync s₀ () us l.state () ∧ List.Forall₂ Ticked.Records us ts ∧
      l.ticks = us.length := by
  cases h with
  | between run same number _ => exact ⟨_, run, same, number⟩
  | within _ _ _ _ phase _ _ => simp [Loop.asking, phase] at idle

/-- A loop that asks something is in a tick. -/
theorem underway {q : Ask} (h : Follows s₀ l ts) (asks : l.asking = some q) :
    ∃ earlier t, ts = earlier ++ [t] := by
  cases h with
  | between _ _ _ idle => simp [idle] at asks
  | within _ _ _ split _ _ _ => exact ⟨_, _, split⟩

theorem wake (h : Follows s₀ l ts) (idle : l.asking = none) (now : Moment) :
    Follows s₀ (l.wake now).1 (ts ++ [⟨now, []⟩]) := by
  obtain ⟨us, run, same, number⟩ := h.of_idle idle
  let t : Timed := ⟨now, []⟩
  have answers : ∀ q, answersTo q [] = t.answersTo q := fun q => rfl
  exact follows_proceed (l := { l with ticks := l.ticks + 1 }) run same
    (congrArg (· + 1) number) answers fun rest r h => h

theorem answer {q : Ask} (h : Follows s₀ l (earlier ++ [t])) (asks : l.asking = some q)
    (f : (q : Ask) → q.Answer) (now : Moment) :
    Follows s₀ (l.resume f now).1 (earlier ++ [t.enter now q (f q)]) := by
  cases h with
  | between _ _ _ idle => simp [idle] at asks
  | @within _ _ _ hs r _ run same number split phase answers ends =>
    obtain ⟨rfl, ht⟩ := List.append_inj' split rfl
    obtain rfl := List.singleton_inj.mp ht
    simp only [Loop.asking, phase, Option.some.injEq] at asks
    subst asks
    simp only [Loop.resume, phase]
    have hanswers : ∀ x, answersTo x (hs ++ [.answered r (f r)]) =
        (t.enter now r (f r)).answersTo x := by
      intro x
      rw [answersTo_append, answers, Timed.answersTo_enter]
    refine follows_proceed run same number hanswers fun rest a h => ?_
    rw [List.append_assoc]
    exact ends _ a (.ask trivial h)

end Follows

/-- Every run of the loop in time is a run of ticks, with the one under way. -/
theorem Paced.follows (run : Paced pace s₀ t₀ ts l now) : Follows s₀ l ts := by
  induction run with
  | start => exact .between .start .nil rfl rfl
  | wake _ _ sleeps _ _ ih =>
    exact ih.wake (by simp [Loop.asking, Loop.wakes_eq_some_iff.mp sleeps]) _
  | answer _ _ asks _ f ih => exact ih.answer asks f _
  | accept _ _ offers _ ih =>
    obtain ⟨since, phase⟩ := Loop.offered_eq_some_iff.mp offers
    obtain ⟨us, run, same, number⟩ := ih.of_idle (by simp [Loop.asking, phase])
    simp only [Loop.accepted, phase]
    exact .between run same number rfl
  | halt _ _ stoppable _ ih =>
    obtain ⟨us, run, same, number⟩ := ih.of_idle (Loop.asking_of_stoppable stoppable)
    exact .between run same number rfl

theorem Paced.pace_eq (run : Paced pace s₀ t₀ ts l now) : l.pace = pace := by
  induction run with
  | start => rfl
  | wake _ _ _ _ _ ih => rw [Loop.wake, Loop.pace_proceed, ih]
  | answer _ _ asks _ f ih =>
    obtain ⟨started, next, phase⟩ := Loop.asking_eq_some_iff.mp asks
    simp only [Loop.resume, phase, Loop.pace_proceed, ih]
  | accept _ _ offers _ ih =>
    obtain ⟨since, phase⟩ := Loop.offered_eq_some_iff.mp offers
    simpa only [Loop.accepted, phase, Loop.rest] using ih
  | halt _ _ _ _ ih => exact ih

/-- A tick that waits for an answer can be brought to its end, whatever the answer is. -/
theorem Paced.complete {q : Ask} (run : Paced pace s₀ t₀ ts l now) (asks : l.asking = some q)
    (b : q.Answer) :
    ∃ us u earlier t hs rest, ts = earlier ++ [t] ∧ List.Forall₂ Ticked.Records us earlier ∧
      Ticking anyReply pace.resync s₀ () (us ++ [u]) u.after () ∧ u.now = t.began ∧
      u.happenings = hs ++ .answered q b :: rest ∧ ∀ r, answersTo r hs = t.answersTo r := by
  rw [← run.pace_eq]
  cases run.follows with
  | between _ _ _ idle => simp [idle] at asks
  | @within us earlier t hs r next ticks same number split phase answers ends =>
    simp only [Loop.asking, phase, Option.some.injEq] at asks
    subst asks
    have hrest := (next b).exec_run (fun (_ : Unit) (q : Ask) => (q.silence, ())) ()
    have hexec := ends _ _ (.ask trivial hrest)
    exact ⟨us, ⟨l.ticks, t.began, l.state, _, _, _⟩, earlier, t, hs, _, split, same,
      ticks.tick number rfl hexec, rfl, rfl, answers⟩

end NodePressure.Pressure
