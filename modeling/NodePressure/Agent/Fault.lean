import NodePressure.Condition.Fault

/-!
# NodePressure.Agent.Fault - what keeps the controller from running

Only a part that is missing and a condition source that does not start end a run; faults of later
calls never do.
-/

namespace NodePressure

/-- A part that a controller is built from. -/
inductive Part
  | condition
  | cluster
  | telemetry
  deriving DecidableEq, Repr

namespace Part

/-- All parts, in the order in which a missing one is noticed. -/
def all : List Part := [condition, cluster, telemetry]

/-- What a part is called. -/
def name : Part → String
  | condition => "condition source"
  | cluster => "cluster client"
  | telemetry => "telemetry"

end Part

/-- What keeps the controller from running. -/
inductive ControllerFault
  | notStarted (f : ConditionFault)
  | missing (p : Part)
  deriving DecidableEq, Repr

/-- The wording of a fault. -/
def ControllerFault.message : ControllerFault → String
  | .notStarted f => "Condition source failed to start: " ++ f.message
  | .missing p => p.name ++ " is required"

/-- What is said first when the settings of the agent at a path cannot be had. -/
def SettingsFault.outline (path : String) : SettingsFault → String
  | .unreadable _ => "Failed to read config " ++ path
  | _ => "Invalid agent section"

/-- The first part that is not there, as a fault. -/
def ControllerFault.ofParts (present : List Part) : Option ControllerFault :=
  (Part.all.find? fun p => !present.contains p).map .missing

end NodePressure
