import Mathlib.Data.List.Induction
import NodePressure.Proofs.Pressure.Watch

/-!
# NodePressure.Proofs.Pressure.Ticks - runs of ticks

A `Ticked` is a tick that is over, with everything that happened in it. `Ticking` are the runs: each
tick begins in the state that the one before has left, in a world that may have moved on. What is
true of every tick of a run is said by `Ticking.sound`; `Ticking.take` cuts a run after any tick.
-/

namespace NodePressure.Pressure

variable {σ : Type} {W : Replies world σ} {resync : Option Nat}

/-- A tick that is over. -/
structure Ticked where
  /-- The number of the tick; the first one has the number 1. -/
  number : Nat
  now : Moment
  before : State
  happenings : List (Happening world)
  after : State
  signal : Option Resource

namespace Ticked

variable (t : Ticked)

/-- The answers to the reading of the taints: one or none. -/
def reads : List (Except ClusterFault TaintFlags) := answersTo .readTaints t.happenings

/-- The state when the taints had been read, if they were. -/
def start : State := t.reads.foldl (fun s answer => s.read t.now answer) t.before

/-- The grace period of the tick. -/
def grace? : Option Span := (answersTo .grace t.happenings).head?

/-- What the node could spare at the tick. -/
def availability? : Option Availability := (answersTo .availability t.happenings).head?

/-- The calls that changed, or should have changed, the taint of a dimension. -/
def calls (d : Dimension) : List TaintCall := callsFor d t.happenings

/-- The dimension was short. -/
def Short (d : Dimension) : Prop := ∃ a, t.availability? = some a ∧ a.has d = false

/-- The dimension was found tainted on the node, and was not held to be so. -/
def Adopted (d : Dimension) : Prop :=
  t.start.flags.get d = true ∧ t.before.flags.get d = false

/-- Everything that a tick does, given its grace period and what the node could spare. -/
structure Sound (resync : Option Nat) (grace : Span) (a : Availability) : Prop where
  reads_length : t.reads.length = if isResyncDue resync t.number then 1 else 0
  grace? : t.grace? = some grace
  availability? : t.availability? = some a
  signal : t.signal = signalOf a
  visit : ∀ d, (t.start.watch d).Visit (a.has d) grace t.now (t.calls d) (t.after.watch d)

/-- The taints are either left as they were held, or taken over as they were found. -/
theorem Sound.start_eq {t : Ticked} {grace : Span} {a : Availability} (h : t.Sound resync grace a) :
    t.start = t.before ∨ ∃ live, t.reads = [.ok live] ∧ t.start = t.before.adopt live t.now := by
  have hlength : t.reads.length ≤ 1 := by
    rw [h.reads_length]
    split <;> simp
  rw [start]
  match t.reads, hlength with
  | [], _ => exact .inl rfl
  | [.error _], _ => exact .inl rfl
  | [.ok live], _ => exact .inr ⟨live, rfl, rfl⟩

/-- Reading the taints moves the busy moment of a dimension to that of the tick, if at all. -/
theorem Sound.lastBusy_start {t : Ticked} {grace : Span} {a : Availability}
    (h : t.Sound resync grace a) (d : Dimension) :
    t.start.lastBusy d = t.before.lastBusy d ∨ t.start.lastBusy d = some t.now := by
  rcases h.start_eq with heq | ⟨live, -, heq⟩
  · exact .inl (by rw [heq])
  · rw [heq]
    by_cases hnew : (live.get d && !t.before.flags.get d) = true
    · exact .inr (if_pos hnew)
    · exact .inl (if_neg hnew)

/-- A tick leaves the busy moment of a dimension as it was, or moves it to its own moment. -/
theorem Sound.lastBusy_after {t : Ticked} {grace : Span} {a : Availability}
    (h : t.Sound resync grace a) (d : Dimension) :
    t.after.lastBusy d = t.before.lastBusy d ∨ t.after.lastBusy d = some t.now := by
  have hlast : t.after.lastBusy d = ((t.start.watch d).touch (a.has d) t.now).last :=
    (h.visit d).last
  rw [hlast]
  rcases (t.start.watch d).last_touch with hkept | hnow
  · rw [hkept]
    exact h.lastBusy_start d
  · exact .inr hnow

theorem Sound.short_iff {t : Ticked} {grace : Span} {a : Availability} {d : Dimension}
    (h : t.Sound resync grace a) : t.Short d ↔ a.has d = false := by
  rw [Short, h.availability?]
  simp

end Ticked

/-- The taints were read, with given answers. -/
def readings (answers : List (Except ClusterFault TaintFlags)) : List (Happening world) :=
  answers.map fun answer => .answered Ask.readTaints answer

section Readings

variable (answers : List (Except ClusterFault TaintFlags))

@[simp] theorem answersTo_readings : answersTo .readTaints (readings answers) = answers := by
  induction answers with
  | nil => rfl
  | cons answer answers ih => exact answersTo_self.trans (congrArg (answer :: ·) ih)

theorem answersTo_readings_of_ne {q : Ask} (hq : q ≠ .readTaints) :
    answersTo q (readings answers) = [] := by
  induction answers with
  | nil => rfl
  | cons answer answers ih => exact (answersTo_of_ne hq.symm).trans ih

@[simp] theorem callsFor_readings (d : Dimension) : callsFor d (readings answers) = [] := by
  induction answers with
  | nil => rfl
  | cons answer answers ih => exact ih

end Readings

/-- The parts of a tick: it reads the taints if that is due, then the grace period and what the node
can spare, and then it evaluates the node. -/
theorem exec_tick_parts {number : Nat} {now : Moment} {s : State} {e e' : σ}
    {hs : List (Happening world)} {r : State × Option Resource}
    (h : Program.Exec W (tick resync number now s) e hs r e') :
    ∃ (answers : List (Except ClusterFault TaintFlags)) (ns : List Note) (grace : Span)
      (a : Availability) (last : List (Happening world)) (e₁ : σ),
      answers.length = (if isResyncDue resync number then 1 else 0) ∧
      hs = readings answers ++ told (I := world) ns ++
        .answered .grace grace :: .answered .availability a :: last ∧
      Program.Exec W (evaluate a grace now (answers.foldl (fun s answer => s.read now answer) s))
        e₁ last r e' := by
  simp only [tick, Program.exec_bind_iff, Program.exec_ask_iff] at h
  obtain ⟨s₁, e₁, first, hs₂, hread, ⟨grace, e₂, hs₃, -, rfl, a, e₃, last, -, rfl, heval⟩, rfl⟩ := h
  by_cases hdue : isResyncDue resync number = true
  · rw [if_pos hdue] at hread ⊢
    obtain ⟨answer, ns, -, rfl, rfl⟩ := exec_resyncWith hread
    exact ⟨[answer], ns, grace, a, last, e₃, rfl, rfl, heval⟩
  · rw [if_neg hdue] at hread ⊢
    obtain ⟨rfl, rfl, rfl⟩ := Program.exec_done_iff.mp hread
    exact ⟨[], [], grace, a, last, e₃, rfl, rfl, heval⟩

/-- A tick reads the taints if that is due, then the grace period and what the node can spare, and
then it visits each dimension. -/
theorem exec_tick {t : Ticked} {e e' : σ}
    (h : Program.Exec W (tick resync t.number t.now t.before) e t.happenings
      (t.after, t.signal) e') :
    ∃ grace a, t.Sound resync grace a := by
  obtain ⟨answers, ns, grace, a, last, e₁, hlength, heq, heval⟩ := exec_tick_parts h
  obtain ⟨hsignal, hasks, hvisit⟩ := exec_evaluate heval
  have hreads : t.reads = answers := by
    simp [Ticked.reads, heq, answersTo_of_ne, hasks]
  refine ⟨grace, a, by rw [hreads, hlength], ?_, ?_, hsignal, fun d => ?_⟩
  · simp [Ticked.grace?, heq, answersTo_readings_of_ne]
  · simp [Ticked.availability?, heq, answersTo_readings_of_ne, answersTo_of_ne]
  · have hcalls : t.calls d = callsFor d last := by
      simp [Ticked.calls, heq, callsFor_append, callsFor_told, callsFor]
    rw [hcalls, Ticked.start, hreads]
    exact hvisit d

/-! ## Runs -/

/-- The runs of ticks that begin in given states of the loop and of the world. -/
inductive Ticking (W : Replies world σ) (resync : Option Nat) (s₀ : State) (e₀ : σ) :
    List Ticked → State → σ → Prop
  | start : Ticking W resync s₀ e₀ [] s₀ e₀
  | tick {ts : List Ticked} {s : State} {e e' : σ} {t : Ticked}
      (run : Ticking W resync s₀ e₀ ts s e)
      (number : t.number = ts.length + 1) (before : t.before = s)
      (h : Program.Exec W (Pressure.tick resync t.number t.now t.before) e t.happenings
        (t.after, t.signal) e') :
      Ticking W resync s₀ e₀ (ts ++ [t]) t.after e'

/-- The state that ticks leave, given the one in which they begin. -/
def stateAfter (s₀ : State) (ts : List Ticked) : State :=
  (ts.getLast?.map Ticked.after).getD s₀

namespace Ticking

variable {s₀ s : State} {e₀ e : σ} {ts : List Ticked} {t : Ticked}

theorem eq_stateAfter (h : Ticking W resync s₀ e₀ ts s e) : s = stateAfter s₀ ts := by
  cases h with
  | start => rfl
  | tick => simp [stateAfter]

/-- A run can be cut after any tick. -/
theorem take {rest : List Ticked} (h : Ticking W resync s₀ e₀ (ts ++ rest) s e) :
    ∃ s' e', Ticking W resync s₀ e₀ ts s' e' := by
  induction rest using List.reverseRecOn generalizing s e with
  | nil => exact ⟨s, e, by simpa using h⟩
  | append_singleton rest t ih =>
    rw [← List.append_assoc] at h
    generalize hu : ts ++ rest ++ [t] = us at h
    cases h with
    | start => simp at hu
    | tick run =>
      obtain ⟨rfl, -⟩ := List.append_inj' hu rfl
      exact ih run

/-- The last tick of a run begins in the state that the ones before have left. -/
theorem last (h : Ticking W resync s₀ e₀ (ts ++ [t]) s e) :
    s = t.after ∧ t.number = ts.length + 1 ∧ ∃ e', Ticking W resync s₀ e₀ ts t.before e' ∧
      Program.Exec W (Pressure.tick resync t.number t.now t.before) e' t.happenings
        (t.after, t.signal) e := by
  generalize hu : ts ++ [t] = us at h
  cases h with
  | start => simp at hu
  | tick run number before h =>
    obtain ⟨rfl, ht⟩ := List.append_inj' hu rfl
    obtain rfl := List.singleton_inj.mp ht
    subst before
    exact ⟨rfl, number, _, run, h⟩

/-- Each tick begins in the state that the one before has left. -/
theorem before_eq {u : Ticked} (h : Ticking W resync s₀ e₀ (ts ++ [t] ++ [u]) s e) :
    u.before = t.after := by
  obtain ⟨-, -, e₁, h₁, -⟩ := h.last
  exact h₁.last.1

/-- What no reply breaks, no run breaks. -/
theorem keeps {P : σ → Prop} (hW : ∀ e q b e', W e q b e' → P e → P e')
    (h : Ticking W resync s₀ e₀ ts s e) (hP : P e₀) : P e := by
  induction h with
  | start => exact hP
  | tick _ _ _ h ih => exact h.keeps hW ih

theorem sound (h : Ticking W resync s₀ e₀ (ts ++ [t]) s e) : ∃ grace a, t.Sound resync grace a := by
  obtain ⟨-, -, e₁, -, hexec⟩ := h.last
  exact exec_tick hexec

theorem sound_of_mem (h : Ticking W resync s₀ e₀ ts s e) (ht : t ∈ ts) :
    ∃ grace a, t.Sound resync grace a := by
  obtain ⟨earlier, later, rfl⟩ := List.append_of_mem ht
  rw [List.append_cons] at h
  obtain ⟨s₁, e₁, h₁⟩ := h.take
  exact h₁.sound

end Ticking

/-! ## Ticks with fixed replies -/

/-- The tick in which every question gets the reply that is given for it. -/
def Ticked.play (resync : Option Nat) (reply : (q : Ask) → q.Answer) (number : Nat) (now : Moment)
    (s : State) : Ticked :=
  let r := (tick resync number now s).run (fun (_ : Unit) q => (reply q, ())) ()
  ⟨number, now, s, r.2.2, r.1.1, r.1.2⟩

/-- A run goes on with any such tick. -/
theorem Ticking.play {s₀ s : State} {ts : List Ticked}
    (run : Ticking anyReply resync s₀ () ts s ()) (reply : (q : Ask) → q.Answer) (now : Moment) :
    Ticking anyReply resync s₀ () (ts ++ [.play resync reply (ts.length + 1) now s])
      (Ticked.play resync reply (ts.length + 1) now s).after () :=
  .tick run rfl rfl (Program.exec_run _ ())

end NodePressure.Pressure
