/-!
# NodePressure.Program - what a task does

A task tells notes, asks questions and waits for their answers, and in the end gives a result. The
answers are not its own: `Program.run` takes them from anything that has a state, so what holds for
every run holds whatever the world answers.
-/

namespace NodePressure

/-- What a task may tell and ask, and what answers look like. -/
structure Interface where
  Note : Type
  Question : Type
  Answer : Question → Type

/-- A task: a result, a note before more of it, or a question with what follows each answer. -/
inductive Program (I : Interface) (α : Type)
  | done (a : α)
  | note (n : I.Note) (rest : Program I α)
  | ask (q : I.Question) (next : I.Answer q → Program I α)

/-- Something that happens in a run. -/
inductive Happening (I : Interface)
  | noted (n : I.Note)
  | answered (q : I.Question) (a : I.Answer q)

namespace Program

variable {I : Interface} {α β : Type}

/-- Goes on with what follows the result. -/
def bind : Program I α → (α → Program I β) → Program I β
  | done a, f => f a
  | note n rest, f => note n (rest.bind f)
  | ask q next, f => ask q fun a => (next a).bind f

instance : Monad (Program I) where
  pure := done
  bind := bind

/-- A note by itself. -/
def tell (n : I.Note) : Program I Unit :=
  note n (done ())

/-- A question by itself. -/
def question (q : I.Question) : Program I (I.Answer q) :=
  ask q done

/-- Notes by themselves, in order. -/
def tellAll : List I.Note → Program I Unit
  | [] => done ()
  | n :: r => note n (tellAll r)

/-- A result that may have to wait for an answer. -/
inductive Pending (I : Interface) (α : Type)
  | done (a : α)
  | waiting (q : I.Question) (next : I.Answer q → Program I α)

/-- The notes up to the next question, and what is pending then. -/
def settle : Program I α → List I.Note × Pending I α
  | done a => ([], .done a)
  | note n rest =>
    let (notes, p) := rest.settle
    (n :: notes, p)
  | ask q next => ([], .waiting q next)

variable {σ : Type}

/-- Runs a task: the result, the state of what answered, and everything that happened. -/
def run (answer : σ → (q : I.Question) → I.Answer q × σ) : Program I α → σ →
    α × σ × List (Happening I)
  | done a, s => (a, s, [])
  | note n rest, s =>
    let (a, s, hs) := rest.run answer s
    (a, s, .noted n :: hs)
  | ask q next, s =>
    let (b, s) := answer s q
    let (a, s, hs) := (next b).run answer s
    (a, s, .answered q b :: hs)

/-- The task with its questions answered by tasks of another kind. -/
def relay {J : Interface} (notes : I.Note → J.Note)
    (answer : (q : I.Question) → Program J (I.Answer q)) : Program I α → Program J α
  | done a => .done a
  | note n rest => .note (notes n) (rest.relay notes answer)
  | ask q next => (answer q).bind fun a => (next a).relay notes answer

end Program

end NodePressure
