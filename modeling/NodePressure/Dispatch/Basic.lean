import NodePressure.Agent.Ask

/-!
# NodePressure.Dispatch.Basic - acting on a signal

A signal leads to one choice and one action on the chosen workload: it is evicted, or its priority
label is set. What fails is told and not tried again; the signal comes back while the pressure
lasts.
-/

namespace NodePressure

/-- What became of a signal. -/
inductive Outcome
  | evicted (w : Workload)
  | labeled (w : Workload) (priority : Nat)
  /-- No workload could be chosen. -/
  | notChosen
  /-- The action on the chosen workload failed. -/
  | failed (w : Workload)
  deriving DecidableEq, Repr

namespace Dispatch

/-- The end of an action: tells how it went. -/
def conclude (r : Resource) (action : String) (e : LogEvent) (fault : Option String)
    (ok bad : Outcome) : Task Outcome :=
  .note (.log e) <| .note (.report dispatcherPart (.ofResult fault)) <|
    if fault.isNone then .note (.count (.actions r action)) (.done ok)
    else .note (.count (.dispatchErrors r action)) (.done bad)

/-- Evicts a workload. -/
def evict (r : Resource) (w : Workload) : Task Outcome :=
  .ask (.evict w) fun answer =>
    let fault := faultText ClusterFault.message answer
    conclude r "evict" (.evicted r w fault) fault (.evicted w) (.failed w)

/-- Sets the priority label of a workload. -/
def label (r : Resource) (w : Workload) (priority : Nat) : Task Outcome :=
  .ask (.label w priority .add) fun answer =>
    let fault := faultText ClusterFault.message answer
    conclude r "label" (.labeled r w priority fault) fault (.labeled w priority) (.failed w)

/-- Does what was decided. -/
def act (r : Resource) (d : Decision) : Task Outcome :=
  if d.evictNow then evict r d.workload else label r d.workload d.priority

/-- Handles a signal. -/
def handle (r : Resource) : Task Outcome :=
  .ask (.choose r) fun answer =>
    match answer with
    | .ok d => act r d
    | .error f =>
      .note (.count (.dispatchErrors r "choose")) <|
        .note (.report dispatcherPart (.failed f.message)) (.done .notChosen)

/-- Handles signals one after the other. -/
def handleAll : List Resource → Task (List Outcome)
  | [] => .done []
  | r :: rs => (handle r).bind fun o => (handleAll rs).bind fun os => .done (o :: os)

end Dispatch

end NodePressure
