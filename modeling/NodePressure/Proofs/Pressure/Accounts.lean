import NodePressure.Proofs.Pressure.Watch
import NodePressure.Proofs.Telemetry.Totals

/-!
# NodePressure.Proofs.Pressure.Accounts - ticks tell of their calls

The counters of calls are due what the calls were answered (`Counter.due`), and the gauges are due
the flags. `Honest` says that a stretch of what happens gives to each of them what it is due; it
holds of stretches one after the other, of each part of a tick, and so of ticks (`honest_tick`),
whatever is read and whichever calls fail.
-/

namespace NodePressure

/-- The notes among what happens. -/
def notesOf {I : Interface} : List (Happening I) → List I.Note
  | [] => []
  | .noted n :: hs => n :: notesOf hs
  | .answered _ _ :: hs => notesOf hs

@[simp] theorem notesOf_append {I : Interface} (hs hs' : List (Happening I)) :
    notesOf (hs ++ hs') = notesOf hs ++ notesOf hs' := by
  induction hs with
  | nil => rfl
  | cons h hs ih =>
    cases h with
    | noted n => exact congrArg (n :: ·) ih
    | answered q b => exact ih

@[simp] theorem notesOf_told {I : Interface} (ns : List I.Note) : notesOf (told ns) = ns := by
  induction ns with
  | nil => rfl
  | cons n ns ih => exact congrArg (n :: ·) ih

theorem notesOf_flatMap {I : Interface} {α : Type} {f : α → List (Happening I)} {xs : List α} :
    notesOf (xs.flatMap f) = xs.flatMap fun x => notesOf (f x) := by
  induction xs with
  | nil => rfl
  | cons x xs ih => rw [List.flatMap_cons, notesOf_append, ih, List.flatMap_cons]

section Outcome

variable {ε α : Type}

@[simp] theorem isOk_ok {a : α} : (Except.ok a : Except ε α).isOk = true := rfl

@[simp] theorem isOk_error {fault : ε} : (Except.error fault : Except ε α).isOk = false := rfl

end Outcome

/-- What a counter of calls has to count of what happens. -/
def Counter.due (hs : List (Happening world)) : Counter → Nat
  | .transitions d c => (answersTo (.changeTaint d c) hs).countP Except.isOk
  | .taintErrors d c => (answersTo (.changeTaint d c) hs).countP (!Except.isOk ·)
  | .idleTicks => (answersTo .clearLabels hs).length
  | .clearErrors => (answersTo .clearLabels hs).countP (!Except.isOk ·)
  | .signals _ | .actions .. | .dispatchErrors .. => 0

variable {hs hs' : List (Happening world)} {f f' f'' : TaintFlags} {k : Counter}

theorem Counter.due_append : k.due (hs ++ hs') = k.due hs + k.due hs' := by
  cases k <;> simp [due]

@[simp] theorem Counter.due_nil : k.due [] = 0 := by
  cases k <;> rfl

@[simp] theorem Counter.due_noted {n : Note} : k.due (.noted n :: hs) = k.due hs := by
  cases k <;> rfl

/-- The counter of a call that changes a taint, which goes by what it was answered. -/
def Counter.ofCall (d : Dimension) (c : TaintChange) : Except ClusterFault Unit → Counter
  | .ok _ => .transitions d c
  | .error _ => .taintErrors d c

theorem Counter.due_changeTaint {d : Dimension} {c : TaintChange}
    {answer : Except ClusterFault Unit} :
    k.due (.answered (.changeTaint d c) answer :: hs) =
      k.due hs + if Counter.ofCall d c answer = k then 1 else 0 := by
  have hcall (x : Dimension) (y : TaintChange) :
      answersTo (.changeTaint x y) (.answered (.changeTaint d c) answer :: hs) =
        if d = x ∧ c = y then answer :: answersTo (.changeTaint x y) hs
        else answersTo (.changeTaint x y) hs := by
    by_cases hx : d = x ∧ c = y
    · obtain ⟨rfl, rfl⟩ := hx
      simp
    · rw [if_neg hx, answersTo_of_ne fun heq => hx (Ask.changeTaint.inj heq)]
  cases k with
  | transitions x y =>
    simp only [due, hcall]
    by_cases hx : d = x ∧ c = y <;> cases answer <;> simp [ofCall, hx, List.countP_cons]
  | taintErrors x y =>
    simp only [due, hcall]
    by_cases hx : d = x ∧ c = y <;> cases answer <;> simp [ofCall, hx]
  | _ => cases answer <;> simp [due, ofCall, answersTo_of_ne]

/-- A question that is no call that counts. -/
def Ask.isUncounted : Ask → Bool
  | .changeTaint .. | .clearLabels => false
  | _ => true

/-- Other answers are not counted. -/
theorem Counter.due_answered {q : Ask} {b : q.Answer} (hq : q.isUncounted = true) :
    k.due (.answered q b :: hs) = k.due hs := by
  have hchange (d : Dimension) (c : TaintChange) : q ≠ .changeTaint d c := by
    rintro rfl
    exact Bool.noConfusion hq
  have hclear : q ≠ .clearLabels := by
    rintro rfl
    exact Bool.noConfusion hq
  cases k <;> simp only [due, answersTo_of_ne (hchange _ _), answersTo_of_ne hclear]

@[simp] theorem Counter.due_told {ns : List Note} : k.due (told (I := world) ns) = 0 := by
  cases k <;> simp [due]

/-- What happens is told: gauges that showed the flags before show the flags after it, and each
counter counts what it is due. -/
structure Honest (f : TaintFlags) (hs : List (Happening world)) (f' : TaintFlags) : Prop where
  shown : (notesOf hs).foldl Note.shown f = f'
  counted : ∀ k, (notesOf hs).countP (Note.counts (· == k)) = k.due hs

theorem Honest.append (h : Honest f hs f') (h' : Honest f' hs' f'') :
    Honest f (hs ++ hs') f'' := by
  refine ⟨?_, fun k => ?_⟩
  · rw [notesOf_append, List.foldl_append, h.shown, h'.shown]
  · rw [notesOf_append, List.countP_append, h.counted, h'.counted, Counter.due_append]

theorem Honest.nil : Honest f [] f :=
  ⟨rfl, fun _ => Counter.due_nil.symm⟩

/-- Answers to other questions change nothing. -/
theorem Honest.answered {q : Ask} {b : q.Answer} (hq : q.isUncounted = true)
    (h : Honest f hs f') : Honest f (.answered q b :: hs) f' :=
  ⟨h.shown, fun k => (h.counted k).trans (Counter.due_answered hq).symm⟩

/-- A note that neither counts nor is about a gauge. -/
theorem Honest.noted {n : Note} (hcount : n.counter? = none) (hshown : ∀ f, Note.shown f n = f)
    (h : Honest f hs f') : Honest f (.noted n :: hs) f' := by
  refine ⟨?_, fun k => ?_⟩
  · rw [notesOf, List.foldl_cons, hshown, h.shown]
  · have hn : ¬ Note.counts (· == k) n = true := by simp [Note.counts, hcount]
    rw [notesOf, List.countP_cons_of_neg hn, h.counted, Counter.due_noted]

/-- When the gauges are told what was found, they show it. -/
theorem honest_found {live : TaintFlags} :
    Honest f (told (I := world) (Dimension.all.map fun d => .found d (live.get d))) live :=
  ⟨by rw [notesOf_told]; rfl, fun k => by rw [notesOf_told, Counter.due_told]; rfl⟩

namespace Pressure

variable {σ : Type} {W : Replies world σ} {e e' : σ} {s s' : State} {now : Moment}

/-! ## The parts of a tick -/

/-- Taints that are read and taken over are shown, those that are left alone are shown already. -/
theorem honest_resyncWith (h : Program.Exec W (resyncWith now s) e hs s' e') :
    Honest s.flags hs s'.flags := by
  obtain ⟨answer, e₁, hs₁, -, rfl, hnext⟩ := Program.exec_ask_iff.mp h
  refine .answered rfl ?_
  rcases answer with fault | live
  · obtain ⟨rfl, rfl, -⟩ := Program.exec_done_iff.mp hnext
    exact .nil
  · by_cases hl : live = s.flags
    · simp only [if_pos hl] at hnext
      obtain ⟨rfl, rfl, -⟩ := Program.exec_done_iff.mp hnext
      exact .nil
    · simp only [if_neg hl, Program.exec_bind_iff, Program.exec_tellAll_iff,
        Program.exec_done_iff] at hnext
      obtain ⟨u, e₂, hs₂, hs₃, ⟨rfl, -⟩, ⟨rfl, rfl, -⟩, rfl⟩ := hnext
      rw [List.append_nil]
      exact honest_found

/-- A call is counted by what came of it, and only a call that succeeded is shown. -/
theorem honest_transition {d : Dimension} {c : TaintChange} {r : Step}
    (h : Program.Exec W (transition d c s) e hs r e') : Honest s.flags hs r.1.flags := by
  obtain ⟨answer, -, rfl, rfl⟩ := exec_transition_iff.mp h
  refine ⟨by cases answer <;> rfl, fun k => ?_⟩
  have hcounter : (Note.taintCall d c (faultText ClusterFault.message answer)).counter? =
      some (Counter.ofCall d c answer) := by cases answer <;> rfl
  rw [Counter.due_changeTaint]
  simp [notesOf, Note.counts, hcounter, List.countP_cons]

theorem honest_visit {a : Availability} {grace : Span} {d : Dimension} {r : Step}
    (h : Program.Exec W (visit a grace now d s) e hs r e') : Honest s.flags hs r.1.flags := by
  have htouch : (s.touch (a.has d) now d).flags = s.flags := by
    unfold State.touch
    split_ifs <;> rfl
  rw [visit_eq] at h
  split at h
  · obtain ⟨rfl, rfl, -⟩ := Program.exec_done_iff.mp h
    exact htouch ▸ .nil
  · exact htouch ▸ honest_transition h

theorem honest_sweep {a : Availability} {grace : Span} {ds : List Dimension}
    {fault : Option ClusterFault} {r : Step}
    (h : Program.Exec W (sweep a grace now ds s fault) e hs r e') :
    Honest s.flags hs r.1.flags := by
  induction ds generalizing s fault e hs with
  | nil =>
    obtain ⟨rfl, rfl, -⟩ := Program.exec_done_iff.mp h
    exact .nil
  | cons d ds ih =>
    simp only [sweep, Program.exec_bind_iff] at h
    obtain ⟨step, e₁, hs₁, hs₂, hvisit, hsweep, rfl⟩ := h
    exact (honest_visit hvisit).append (ih hsweep)

/-- An idle tick counts itself, and its call if that failed. -/
theorem honest_idle {r : State × Option Resource} (h : Program.Exec W (idle s) e hs r e') :
    Honest s.flags hs r.1.flags := by
  simp only [idle, Program.exec_note_iff, Program.exec_ask_iff] at h
  obtain ⟨hs₁, rfl, answer, e₁, hs₂, -, rfl, h⟩ := h
  rcases answer with fault | u
  · simp only [Program.exec_note_iff, Program.exec_done_iff] at h
    obtain ⟨hs₃, rfl, hs₄, rfl, rfl, rfl, -⟩ := h
    refine ⟨rfl, fun k => ?_⟩
    cases k <;> simp [notesOf, Note.counts, Note.counter?, Counter.due, answersTo, report]
  · simp only [Program.exec_note_iff, Program.exec_done_iff] at h
    obtain ⟨hs₃, rfl, rfl, rfl, -⟩ := h
    refine ⟨rfl, fun k => ?_⟩
    cases k <;> simp [notesOf, Note.counts, Note.counter?, Counter.due, answersTo, report]

theorem honest_evaluate {a : Availability} {grace : Span} {r : State × Option Resource}
    (h : Program.Exec W (evaluate a grace now s) e hs r e') : Honest s.flags hs r.1.flags := by
  unfold evaluate at h
  split at h
  · exact honest_idle h
  · simp only [Program.exec_bind_iff, Program.exec_note_iff, Program.exec_done_iff] at h
    obtain ⟨⟨s₁, fault⟩, e₁, hs₁, hs₂, hsweep, ⟨hs₃, rfl, rfl, rfl, -⟩, rfl⟩ := h
    exact (honest_sweep hsweep).append (.noted rfl (fun _ => rfl) .nil)

/-- Every tick tells of its calls and of the flags that it leaves. -/
theorem honest_tick {resync : Option Nat} {number : Nat} {r : State × Option Resource}
    (h : Program.Exec W (tick resync number now s) e hs r e') : Honest s.flags hs r.1.flags := by
  simp only [tick, Program.exec_bind_iff, Program.exec_ask_iff] at h
  obtain ⟨s₁, e₁, hs₁, hs₂, hread, ⟨grace, e₂, hs₃, -, rfl, a, e₃, hs₄, -, rfl, heval⟩, rfl⟩ := h
  have hfirst : Honest s.flags hs₁ s₁.flags := by
    split at hread
    · exact honest_resyncWith hread
    · obtain ⟨rfl, rfl, -⟩ := Program.exec_done_iff.mp hread
      exact .nil
  exact hfirst.append (.answered rfl (.answered rfl (honest_evaluate heval)))

end Pressure

end NodePressure
