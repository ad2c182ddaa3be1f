import NodePressure.Agent.Ask

/-!
# NodePressure.Proofs.Execution - tasks in a world that may reply in several ways

`Replies` says what a world may answer and what becomes of it. `Exec W t s hs a s'` says that `t`,
begun in `s`, can end with the result `a` in `s'` while `hs` happens. There is one rule for each
form of a task, and `exec_bind_iff` takes a task apart that goes on with another one. A world with
one reply to each question is what `Program.run` runs in (`exec_machine_iff`). `answersTo` reads off
what a question of the agent was answered.
-/

namespace NodePressure

variable {I : Interface} {α β σ : Type}

/-- What a world may do with a question: the world before, the answer, and the world after. -/
abbrev Replies (I : Interface) (σ : Type) : Type :=
  σ → (q : I.Question) → I.Answer q → σ → Prop

/-- The world that may give any answer and has nothing to remember. -/
def anyReply : Replies I Unit := fun _ _ _ _ => True

/-- Notes by themselves. -/
def told : List I.Note → List (Happening I)
  | [] => []
  | n :: ns => .noted n :: told ns

/-- The answers to a question of the agent, in order. -/
def answersTo (q : Ask) : List (Happening world) → List q.Answer
  | [] => []
  | .noted _ :: hs => answersTo q hs
  | .answered r b :: hs => if h : r = q then h ▸ b :: answersTo q hs else answersTo q hs

section Answers

variable {q r : Ask} {hs hs' : List (Happening world)}

@[simp] theorem answersTo_nil : answersTo q [] = [] := rfl

@[simp] theorem answersTo_noted {n : Note} : answersTo q (.noted n :: hs) = answersTo q hs := rfl

@[simp] theorem answersTo_self {b : q.Answer} :
    answersTo q (.answered q b :: hs) = b :: answersTo q hs := by
  simp [answersTo]

theorem answersTo_of_ne {b : r.Answer} (h : r ≠ q) :
    answersTo q (.answered r b :: hs) = answersTo q hs := by
  simp [answersTo, h]

@[simp] theorem answersTo_append : answersTo q (hs ++ hs') = answersTo q hs ++ answersTo q hs' := by
  induction hs with
  | nil => rfl
  | cons h hs ih =>
    cases h with
    | noted n => exact ih
    | answered r b =>
      simp only [List.cons_append, answersTo, ih]
      split <;> rfl

theorem mem_answersTo_iff {b : q.Answer} : b ∈ answersTo q hs ↔ .answered q b ∈ hs := by
  induction hs with
  | nil => simp
  | cons h hs ih =>
    cases h with
    | noted n => simp [ih]
    | answered r c =>
      by_cases hr : r = q
      · subst hr
        simp [ih]
      · have hne : ¬ q = r := fun h => hr h.symm
        simp [answersTo_of_ne hr, ih, hne]

@[simp] theorem answersTo_told {ns : List Note} : answersTo q (told ns) = [] := by
  induction ns with
  | nil => rfl
  | cons n ns ih => exact ih

end Answers

namespace Program

/-- A task can end with a result, given what happens meanwhile. -/
inductive Exec (W : Replies I σ) : Program I α → σ → List (Happening I) → α → σ → Prop
  | done {a : α} {s : σ} : Exec W (.done a) s [] a s
  | note {n : I.Note} {rest : Program I α} {s s' : σ} {hs : List (Happening I)} {a : α}
      (h : Exec W rest s hs a s') : Exec W (.note n rest) s (.noted n :: hs) a s'
  | ask {q : I.Question} {next : I.Answer q → Program I α} {s s₁ s' : σ} {b : I.Answer q}
      {hs : List (Happening I)} {a : α} (hb : W s q b s₁) (h : Exec W (next b) s₁ hs a s') :
      Exec W (.ask q next) s (.answered q b :: hs) a s'

variable {W : Replies I σ} {s s' : σ} {hs : List (Happening I)}

/-! ## One rule for each form of a task -/

@[simp] theorem exec_done_iff {a b : α} :
    Exec W (.done a) s hs b s' ↔ hs = [] ∧ b = a ∧ s' = s := by
  constructor
  · intro h; cases h; exact ⟨rfl, rfl, rfl⟩
  · rintro ⟨rfl, rfl, rfl⟩; exact .done

@[simp] theorem exec_note_iff {n : I.Note} {rest : Program I α} {a : α} :
    Exec W (.note n rest) s hs a s' ↔ ∃ hs', hs = .noted n :: hs' ∧ Exec W rest s hs' a s' := by
  constructor
  · intro h; cases h with | note h => exact ⟨_, rfl, h⟩
  · rintro ⟨hs', rfl, h⟩; exact .note h

@[simp] theorem exec_ask_iff {q : I.Question} {next : I.Answer q → Program I α} {a : α} :
    Exec W (.ask q next) s hs a s' ↔
      ∃ b s₁ hs', W s q b s₁ ∧ hs = .answered q b :: hs' ∧ Exec W (next b) s₁ hs' a s' := by
  constructor
  · intro h; cases h with | ask hb h => exact ⟨_, _, _, hb, rfl, h⟩
  · rintro ⟨b, s₁, hs', hb, rfl, h⟩; exact .ask hb h

theorem exec_bind_iff {t : Program I α} {f : α → Program I β} {b : β} :
    Exec W (t.bind f) s hs b s' ↔
      ∃ a s₁ hs₁ hs₂, Exec W t s hs₁ a s₁ ∧ Exec W (f a) s₁ hs₂ b s' ∧ hs = hs₁ ++ hs₂ := by
  constructor
  · intro h
    induction t generalizing s hs with
    | done a => exact ⟨a, s, [], hs, .done, h, rfl⟩
    | note n rest ih =>
      obtain ⟨hs', rfl, hrest⟩ := exec_note_iff.mp h
      obtain ⟨a, s₁, hs₁, hs₂, h₁, h₂, rfl⟩ := ih hrest
      exact ⟨a, s₁, _, hs₂, .note h₁, h₂, rfl⟩
    | ask q next ih =>
      obtain ⟨c, s₂, hs', hc, rfl, hnext⟩ := exec_ask_iff.mp h
      obtain ⟨a, s₁, hs₁, hs₂, h₁, h₂, rfl⟩ := ih c hnext
      exact ⟨a, s₁, _, hs₂, .ask hc h₁, h₂, rfl⟩
  · rintro ⟨a, s₁, hs₁, hs₂, h₁, h₂, rfl⟩
    induction h₁ with
    | done => exact h₂
    | note _ ih => exact .note (ih h₂)
    | ask hc _ ih => exact .ask hc (ih h₂)

@[simp] theorem exec_tellAll_iff {ns : List I.Note} {u : Unit} :
    Exec W (tellAll ns) s hs u s' ↔ hs = told ns ∧ s' = s := by
  induction ns generalizing hs with
  | nil => simp [tellAll, told]
  | cons n ns ih => simp only [tellAll, exec_note_iff, ih, told]; grind

/-- What no reply breaks, no task breaks. -/
theorem Exec.keeps {P : σ → Prop} (hW : ∀ s q b s', W s q b s' → P s → P s') {t : Program I α}
    {a : α} (h : Exec W t s hs a s') (hP : P s) : P s' := by
  induction h with
  | done => exact hP
  | note _ ih => exact ih hP
  | ask hb _ ih => exact ih (hW _ _ _ _ hb hP)

/-- What follows a task counts only for the results that the task can have. -/
theorem bind_congr_of_exec {t : Program I α} {f g : α → Program I β}
    (h : ∀ hs a, Exec anyReply t () hs a () → f a = g a) : t.bind f = t.bind g := by
  induction t with
  | done a => exact h [] a .done
  | note n rest ih => exact congrArg (note n) (ih fun hs a exec => h _ a (.note exec))
  | ask q next ih =>
    refine congrArg (ask q) (funext fun b => ih b fun hs a exec => ?_)
    exact h _ a (.ask trivial exec)

/-! ## Up to the next question -/

/-- A task whose notes lead to its end. -/
theorem exec_of_settle_done {t : Program I α} {notes : List I.Note} {a : α}
    (h : t.settle = (notes, .done a)) : Exec W t s (told notes) a s := by
  induction t generalizing notes with
  | done b =>
    obtain ⟨rfl, h⟩ := Prod.mk.inj h
    cases h
    exact .done
  | note n rest ih =>
    simp only [settle, Prod.mk.injEq] at h
    obtain ⟨rfl, h⟩ := h
    exact .note (ih (Prod.ext rfl h))
  | ask q next _ => simp [settle] at h

/-- A task whose notes lead to a question. -/
theorem exec_of_settle_waiting {t : Program I α} {notes : List I.Note} {q : I.Question}
    {next : I.Answer q → Program I α} {hs : List (Happening I)} {a : α}
    (h : t.settle = (notes, .waiting q next)) (exec : Exec W (.ask q next) s hs a s') :
    Exec W t s (told notes ++ hs) a s' := by
  induction t generalizing notes with
  | done b => simp [settle] at h
  | note n rest ih =>
    simp only [settle, Prod.mk.injEq] at h
    obtain ⟨rfl, h⟩ := h
    exact .note (ih (Prod.ext rfl h))
  | ask r more _ =>
    obtain ⟨rfl, h⟩ := Prod.mk.inj h
    cases h
    exact exec

/-! ## Worlds with one reply -/

/-- The world in which a machine gives all answers. -/
def machine (answer : σ → (q : I.Question) → I.Answer q × σ) : Replies I σ :=
  fun s q b s' => answer s q = (b, s')

/-- In the world of a machine a task ends as `run` says, and in no other way. -/
theorem exec_machine_iff {answer : σ → (q : I.Question) → I.Answer q × σ} {t : Program I α}
    {a : α} : Exec (machine answer) t s hs a s' ↔ t.run answer s = (a, s', hs) := by
  induction t generalizing s hs with
  | done b => simp only [exec_done_iff, run, Prod.mk.injEq]; grind
  | note n rest ih => simp only [exec_note_iff, ih, run, Prod.mk.injEq]; grind
  | ask q next ih => simp only [exec_ask_iff, ih, machine, run, Prod.mk.injEq]; grind

/-- Whatever machine gives the answers, its run is one that any world may take. -/
theorem exec_run (answer : σ → (q : I.Question) → I.Answer q × σ) {t : Program I α} (s : σ) :
    Exec anyReply t () (t.run answer s).2.2 (t.run answer s).1 () := by
  induction t generalizing s with
  | done a => exact .done
  | note n rest ih => exact .note (ih s)
  | ask q next ih => exact .ask trivial (ih (answer s q).1 (answer s q).2)

end Program

end NodePressure
