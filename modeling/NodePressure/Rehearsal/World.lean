import NodePressure.Condition.Manager
import NodePressure.Rehearsal.Stage

/-!
# NodePressure.Rehearsal.World - a stage with a real condition source

The condition source of a rehearsal is the stage, or a manager that samples the files of the
surroundings and has the stage list the workloads.
-/

namespace NodePressure.Rehearsal

/-- A stage, what can be read, and the manager if there is one. -/
structure World where
  stage : Stage
  surroundings : Surroundings
  manager : Option Manager

namespace World

/-- The call that a question leads to. -/
def errand (w : World) : Ask → Errand
  | .choose r => if w.manager.isSome then .list else .ask (.choose r)
  | q => .ask q

/-- Begins to answer a question. -/
def start (w : World) (now : Moment) (q : Ask) : World × Engagement :=
  let (stage, e) := w.stage.start now (w.errand q)
  ({ w with stage }, e)

/-- Has the stage answer a question. -/
def onStage (w : World) (fails : Bool) (q : Ask) : q.Answer × World × List Note :=
  let (a, stage) := w.stage.answer fails q
  (a, { w with stage }, [])

/-- Answers a question; the manager answers what is asked of a condition source. -/
def answer (w : World) (now : Moment) (fails : Bool) (q : Ask) : q.Answer × World × List Note :=
  match w.manager with
  | none => w.onStage fails q
  | some m =>
    match q with
    | .start =>
      let (m, r, notes) := m.start w.surroundings now
      (r, { w with manager := some m }, notes)
    | .grace => (m.settings.grace, w, [])
    | .availability => (m.availability, w, [])
    | .choose r => (m.choose r (w.stage.list fails), w, [])
    | .readTaints => w.onStage fails .readTaints
    | .changeTaint d c => w.onStage fails (.changeTaint d c)
    | .clearLabels => w.onStage fails .clearLabels
    | .evict v => w.onStage fails (.evict v)
    | .label v p c => w.onStage fails (.label v p c)

/-- When the sampling loop wakes. -/
def wakes (w : World) : Option Moment :=
  w.manager.bind Manager.wakes

/-- Whether the sampling loop goes on at a moment. -/
def isDue (w : World) (now : Moment) : Bool :=
  w.manager.any (·.isDue now)

/-- Lets the sampling loop go on for as long as no time has to pass. -/
def settle (w : World) (now : Moment) : World × List Note :=
  match w.manager with
  | none => (w, [])
  | some m =>
    let (m, notes) := m.settle w.surroundings now
    ({ w with manager := some m }, notes)

/-- All rounds of the sampling loop up to a moment, at most as many as the fuel allows. -/
def rounds : Nat → World → Moment → World × List Note
  | 0, w, _ => (w, [])
  | fuel + 1, w, target =>
    match w.wakes with
    | none => (w, [])
    | some t =>
      if t ≤ target then
        let (w, notes) := w.settle t
        let (w, more) := rounds fuel w target
        (w, notes ++ more)
      else (w, [])

/-- Lets time pass up to a moment; nothing happens if none passes. A second at least lies between
two rounds, so there are no more rounds than seconds. -/
def pass (w : World) (now target : Moment) : World × List Note :=
  if target ≤ now then (w, [])
  else
    let (w, notes) := w.settle now
    let (w, more) := w.rounds (Span.between now target / Span.seconds 1 + 1) target
    (w, notes ++ more)

end World

end NodePressure.Rehearsal
