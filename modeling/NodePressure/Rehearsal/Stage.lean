import NodePressure.Agent.Ask
import NodePressure.Workload.Policy

/-!
# NodePressure.Rehearsal.Stage - a world that plays a part

A stage answers what the agent asks. It plays the condition source and the cluster by a script: what
is available, which workload is chosen, which calls fail and how long they take. Successful calls
change what later ones find, and every call is recorded with the moment at which it began.
-/

namespace NodePressure.Rehearsal

/-- A call as it is recorded: a question of the agent, or the listing of the workloads. -/
inductive Errand
  | ask (q : Ask)
  | list
  deriving DecidableEq, Repr

namespace Errand

/-- What a script calls a call. -/
def name : Errand → String
  | ask .start => "start"
  | ask .grace => "grace"
  | ask .availability => "availability"
  | ask .readTaints => "get"
  | ask (.changeTaint _ .taint) => "taint"
  | ask (.changeTaint _ .untaint) => "untaint"
  | ask .clearLabels => "clear"
  | ask (.choose _) => "choose"
  | ask (.evict _) => "evict"
  | ask (.label ..) => "label"
  | list => "list"

/-- What singles a call out among those of its name. -/
def detail? : Errand → Option String
  | ask (.changeTaint d _) => some d.name
  | ask (.choose r) => some r.name
  | ask (.evict w) => some w.path
  | ask (.label w _ _) => some w.path
  | _ => none

/-- Whether a call is recorded and takes the time of the script. -/
def isRecorded : Errand → Bool
  | ask .start | ask .grace | ask .availability => false
  | _ => true

/-- The names by which a script can mean a call. -/
def aliases (e : Errand) : List String :=
  e.name :: (e.detail?.map fun d => e.name ++ ":" ++ d).toList

/-- The fault of a call that the script lets fail. -/
def fault (e : Errand) : ClusterFault :=
  .other ("injected " ++ e.name ++ " failure")

end Errand

/-- A call under way: when it ends, and whether it fails then. -/
structure Engagement where
  due : Moment
  fails : Bool
  deriving DecidableEq, Repr

/-- A script, and what the calls so far have left. -/
structure Stage where
  availability : Availability
  grace : Span
  /-- What is chosen, whatever the signal. -/
  decision : Option Decision
  candidates : List Candidate
  /-- The taints of the node. -/
  live : TaintFlags
  /-- The calls that fail. -/
  failing : List String
  /-- How long calls take. -/
  delays : List (String × Span)
  /-- How often the availability was read. -/
  reads : Nat
  /-- How often the condition source was started. -/
  starts : Nat
  /-- The calls, the last one first. -/
  calls : List (Moment × Errand)

namespace Stage

/-- A stage on which everything is available and nothing fails. -/
def plain : Stage where
  availability := Availability.full
  grace := Span.seconds 30
  decision := none
  candidates := []
  live := TaintFlags.clear
  failing := []
  delays := []
  reads := 0
  starts := 0
  calls := []

instance : Inhabited Stage := ⟨plain⟩

/-- Begins a call: it is recorded, and its end is settled. -/
def start (s : Stage) (now : Moment) (e : Errand) : Stage × Engagement :=
  let fails := e.aliases.any s.failing.contains
  if e.isRecorded then
    let delay : Nat := (s.delays.lookup e.name).getD 0
    ({ s with calls := (now, e) :: s.calls }, ⟨now + delay, fails⟩)
  else (s, ⟨now, fails⟩)

/-- The candidates with what a change makes of those that are a workload. -/
def onWorkload (s : Stage) (w : Workload) (f : Candidate → Option Candidate) : Stage :=
  let candidates := s.candidates.filterMap fun c =>
    if c.workload.path = w.path then f c else some c
  { s with candidates }

/-- A call to the cluster that succeeded. -/
def effect (s : Stage) : Ask → Stage
  | .changeTaint d c => { s with live := s.live.set d c.flag }
  | .evict w => s.onWorkload w fun _ => none
  | .label w p c =>
    s.onWorkload w fun x =>
      some { x with priority := match c with
        | .add => some p
        | .remove => none }
  | .clearLabels => { s with candidates := s.candidates.map fun c => { c with priority := none } }
  | _ => s

/-- The end of a call to the cluster. -/
def finish (s : Stage) (q : Ask) (fails : Bool) : Except ClusterFault Unit × Stage :=
  if fails then (.error (Errand.fault (.ask q)), s) else (.ok (), s.effect q)

/-- Answers a question. -/
def answer (s : Stage) (fails : Bool) : (q : Ask) → q.Answer × Stage
  | .start =>
    let s := { s with starts := s.starts + 1 }
    (if fails then .error (.malformed "stat" "injected start failure") else .ok (), s)
  | .grace => (s.grace, s)
  | .availability => (s.availability, { s with reads := s.reads + 1 })
  | .readTaints => (if fails then .error (Errand.fault (.ask .readTaints)) else .ok s.live, s)
  | .choose r =>
    (if fails then .error (.cluster (Errand.fault (.ask (.choose r))))
      else match s.decision with
        | some d => .ok d
        | none => .error (.noCandidate r), s)
  | .changeTaint d c => s.finish (.changeTaint d c) fails
  | .clearLabels => s.finish .clearLabels fails
  | .evict w => s.finish (.evict w) fails
  | .label w p c => s.finish (.label w p c) fails

/-- Lists the workloads. -/
def list (s : Stage) (fails : Bool) : Except ClusterFault (List Candidate) :=
  if fails then .error (Errand.fault .list) else .ok s.candidates

/-- Answers a question with nothing else going on, and moves the clock to the answer. -/
def perform (s : Stage × Moment) (q : Ask) : q.Answer × (Stage × Moment) :=
  let (t, e) := s.1.start s.2 (.ask q)
  let (a, t) := t.answer e.fails q
  (a, t, e.due)

/-- Plays a task with nothing else going on: its result, what it leaves, and its notes. -/
def play (s : Stage × Moment) (t : Task α) : α × (Stage × Moment) × List Note :=
  let (a, s, happenings) := t.run perform s
  (a, s, happenings.filterMap fun h =>
    match h with
    | .noted n => some n
    | .answered .. => none)

end Stage

end NodePressure.Rehearsal
