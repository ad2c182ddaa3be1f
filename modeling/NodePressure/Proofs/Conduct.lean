import NodePressure.Dispatch.Basic
import NodePressure.Proofs.Pressure.Watch
import NodePressure.Proofs.Telemetry.Totals

/-!
# NodePressure.Proofs.Conduct - what tasks may tell and ask

`Program.Within P Q t` says that `t` tells only notes with `P` and asks only questions with `Q`,
whatever it is answered; `Program.TellsLast p t` says that it tells one note with `p`, after its
last question. Both hold of what is left of a task when it has come to a question and is answered
(`within_settle`, `tellsLast_settle`). Ticks and dispatches have little to say to each other: no
note and no question of the one is one of the other (`tick_within`, `handle_within`).
-/

namespace NodePressure

namespace Program

variable {I : Interface} {α β : Type} {P : I.Note → Prop} {Q : I.Question → Prop}
  {p : I.Note → Bool} {t : Program I α}

/-- Whatever it is answered, a task tells only such notes and asks only such questions. -/
def Within (P : I.Note → Prop) (Q : I.Question → Prop) : Program I α → Prop
  | .done _ => True
  | .note n rest => P n ∧ rest.Within P Q
  | .ask q next => Q q ∧ ∀ b, (next b).Within P Q

/-- A task comes to its end without a question and without such a note. -/
def EndsWithout (p : I.Note → Bool) : Program I α → Prop
  | .done _ => True
  | .note n rest => p n = false ∧ rest.EndsWithout p
  | .ask _ _ => False

/-- Whatever it is answered, a task tells one such note, and asks nothing after it. -/
def TellsLast (p : I.Note → Bool) : Program I α → Prop
  | .done _ => False
  | .note n rest => if p n then rest.EndsWithout p else rest.TellsLast p
  | .ask _ next => ∀ b, (next b).TellsLast p

theorem within_bind {f : α → Program I β} (ht : t.Within P Q) (hf : ∀ a, (f a).Within P Q) :
    (t.bind f).Within P Q := by
  induction t with
  | done a => exact hf a
  | note n rest ih => exact ⟨ht.1, ih ht.2⟩
  | ask q next ih => exact ⟨ht.1, fun b => ih b (ht.2 b)⟩

theorem within_tellAll {ns : List I.Note} (h : ∀ n ∈ ns, P n) : (tellAll ns).Within P Q := by
  induction ns with
  | nil => trivial
  | cons n ns ih =>
    obtain ⟨hn, hns⟩ := List.forall_mem_cons.mp h
    exact ⟨hn, ih hns⟩

/-- What a task tells before its next question is within the bounds, and so is all that follows. -/
theorem within_settle (h : t.Within P Q) :
    (∀ n ∈ t.settle.1, P n) ∧
      match t.settle.2 with
      | .done _ => True
      | .waiting q next => Q q ∧ ∀ b, (next b).Within P Q := by
  induction t with
  | done a => exact ⟨by simp [settle], trivial⟩
  | note n rest ih =>
    obtain ⟨hnotes, hrest⟩ := ih h.2
    refine ⟨fun x hx => ?_, hrest⟩
    rcases List.mem_cons.mp hx with rfl | hx
    · exact h.1
    · exact hnotes x hx
  | ask q next _ => exact ⟨by simp [settle], h⟩

theorem endsWithout_settle (h : t.EndsWithout p) :
    t.settle.1.countP p = 0 ∧ ∃ a, t.settle.2 = .done a := by
  induction t with
  | done a => exact ⟨rfl, a, rfl⟩
  | note n rest ih =>
    obtain ⟨hcount, hdone⟩ := ih h.2
    have hn : ¬ p n = true := by simp [h.1]
    refine ⟨?_, hdone⟩
    rw [settle, List.countP_cons_of_neg hn]
    exact hcount
  | ask q next _ => exact h.elim

/-- The note is among those that lead to the end, and not among those that lead to a question. -/
theorem tellsLast_settle (h : t.TellsLast p) :
    match t.settle.2 with
    | .done _ => t.settle.1.countP p = 1
    | .waiting _ next => t.settle.1.countP p = 0 ∧ ∀ b, (next b).TellsLast p := by
  induction t with
  | done a => exact h.elim
  | note n rest ih =>
    by_cases hn : p n = true
    · rw [TellsLast, if_pos hn] at h
      obtain ⟨hcount, a, hdone⟩ := endsWithout_settle h
      rw [settle, hdone]
      simp [List.countP_cons_of_pos hn, hcount]
    · rw [TellsLast, if_neg hn] at h
      have hrest := ih h
      rw [settle, List.countP_cons_of_neg hn]
      exact hrest
  | ask q next _ => exact ⟨rfl, h⟩

end Program

/-! ## Ticks -/

/-- The notes of ticks. -/
inductive Note.OfTick : Note → Prop
  | found (d : Dimension) (tainted : Bool) : OfTick (.found d tainted)
  | taintCall (d : Dimension) (c : TaintChange) (error : Option String) :
      OfTick (.taintCall d c error)
  | report (r : Report) : OfTick (.report loopPart r)
  | idle : OfTick (.count .idleTicks)
  | clearError : OfTick (.count .clearErrors)

/-- The questions of ticks. -/
inductive Ask.OfTick : Ask → Prop
  | readTaints : OfTick .readTaints
  | grace : OfTick .grace
  | availability : OfTick .availability
  | changeTaint (d : Dimension) (c : TaintChange) : OfTick (.changeTaint d c)
  | clearLabels : OfTick .clearLabels

/-- A task of ticks, which has to do with nothing else. -/
abbrev TickLike {α : Type} (t : Task α) : Prop :=
  t.Within Note.OfTick Ask.OfTick

namespace Pressure

theorem resyncWith_within (now : Moment) (s : State) : TickLike (resyncWith now s) := by
  refine ⟨.readTaints, fun answer => ?_⟩
  cases answer with
  | error f => trivial
  | ok live =>
    dsimp only
    split
    · trivial
    · refine Program.within_bind (Program.within_tellAll fun n hn => ?_) fun _ => trivial
      obtain ⟨d, -, rfl⟩ := List.mem_map.mp hn
      exact .found d _

theorem transition_within (d : Dimension) (c : TaintChange) (s : State) :
    TickLike (transition d c s) := by
  refine ⟨.changeTaint d c, fun answer => ⟨.taintCall d c _, ?_⟩⟩
  cases answer <;> trivial

theorem visit_within (a : Availability) (grace : Span) (now : Moment) (d : Dimension) (s : State) :
    TickLike (visit a grace now d s) := by
  rw [visit_eq]
  split
  · trivial
  · exact transition_within _ _ _

theorem sweep_within (a : Availability) (grace : Span) (now : Moment) (ds : List Dimension)
    (s : State) (fault : Option ClusterFault) : TickLike (sweep a grace now ds s fault) := by
  induction ds generalizing s fault with
  | nil => trivial
  | cons d ds ih =>
    exact Program.within_bind (visit_within a grace now d s) fun step => ih step.1 _

theorem evaluate_within (a : Availability) (grace : Span) (now : Moment) (s : State) :
    TickLike (evaluate a grace now s) := by
  unfold evaluate
  split
  · refine ⟨.idle, .clearLabels, fun answer => ?_⟩
    cases answer with
    | ok _ => exact ⟨.report _, trivial⟩
    | error f => exact ⟨.clearError, .report _, trivial⟩
  · exact Program.within_bind (sweep_within a grace now _ s none) fun _ => ⟨.report _, trivial⟩

/-- A tick tells and asks nothing that is not for ticks. -/
theorem tick_within (resync : Option Nat) (number : Nat) (now : Moment) (s : State) :
    TickLike (tick resync number now s) := by
  refine Program.within_bind ?_ fun s =>
    ⟨.grace, fun grace => ⟨.availability, fun a => evaluate_within a grace now s⟩⟩
  split
  · exact resyncWith_within now s
  · trivial

/-- A tick asks something before it comes to its end. -/
theorem settle_tick (resync : Option Nat) (number : Nat) (now : Moment) (s : State) :
    ∃ q next, (tick resync number now s).settle = ([], .waiting q next) := by
  unfold tick
  split
  · exact ⟨_, _, rfl⟩
  · exact ⟨_, _, rfl⟩

end Pressure

/-! ## Dispatches -/

/-- The notes of dispatches. -/
inductive Note.OfDispatch : Note → Prop
  | log (e : LogEvent) : OfDispatch (.log e)
  | report (r : Report) : OfDispatch (.report dispatcherPart r)
  | action (r : Resource) (action : String) : OfDispatch (.count (.actions r action))
  | error (r : Resource) (stage : String) : OfDispatch (.count (.dispatchErrors r stage))

/-- The questions of dispatches. -/
inductive Ask.OfDispatch : Ask → Prop
  | choose (r : Resource) : OfDispatch (.choose r)
  | evict (w : Workload) : OfDispatch (.evict w)
  | label (w : Workload) (priority : Nat) : OfDispatch (.label w priority .add)

/-- A task of a dispatch: it has to do with nothing else, and counts its outcome at its end. -/
structure DispatchLike {α : Type} (t : Task α) : Prop where
  within : t.Within Note.OfDispatch Ask.OfDispatch
  tellsLast : t.TellsLast (Note.counts Counter.isVerdict)

namespace Dispatch

theorem conclude_dispatchLike (r : Resource) (action : String) (e : LogEvent)
    (fault : Option String) (ok bad : Outcome) :
    DispatchLike (conclude r action e fault ok bad) := by
  unfold conclude
  split
  · exact ⟨⟨.log e, .report _, .action r action, trivial⟩, trivial⟩
  · exact ⟨⟨.log e, .report _, .error r action, trivial⟩, trivial⟩

theorem act_dispatchLike (r : Resource) (d : Decision) : DispatchLike (act r d) := by
  unfold act
  split
  · exact ⟨⟨.evict _, fun _ => (conclude_dispatchLike r _ _ _ _ _).within⟩,
      fun _ => (conclude_dispatchLike r _ _ _ _ _).tellsLast⟩
  · exact ⟨⟨.label _ _, fun _ => (conclude_dispatchLike r _ _ _ _ _).within⟩,
      fun _ => (conclude_dispatchLike r _ _ _ _ _).tellsLast⟩

/-- The handling of a signal is the task of a dispatch. -/
theorem handle_dispatchLike (r : Resource) : DispatchLike (handle r) := by
  refine ⟨⟨.choose r, fun answer => ?_⟩, fun answer => ?_⟩
  · cases answer with
    | ok d => exact (act_dispatchLike r d).within
    | error f => exact ⟨.error r _, .report _, trivial⟩
  · cases answer with
    | ok d => exact (act_dispatchLike r d).tellsLast
    | error f => exact ⟨rfl, trivial⟩

end Dispatch

end NodePressure
