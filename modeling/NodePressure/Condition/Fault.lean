import NodePressure.Cluster.Fault
import NodePressure.Files.Tree
import NodePressure.Host.Counters
import NodePressure.Node.Resource
import NodePressure.Settings.Fault

/-!
# NodePressure.Condition.Fault - how the condition source fails

The condition source samples the host, reads settings and chooses workloads; each of these fails
in its own way.
-/

namespace NodePressure

/-- How the condition source fails. -/
inductive ConditionFault
  | noCandidate (r : Resource)
  | cluster (f : ClusterFault)
  | unread (path : String) (f : ReadFault)
  | malformed (file reason : String)
  | settings (f : SettingsFault)
  | alreadyStarted
  deriving DecidableEq, Repr

/-- The wording of a fault. -/
def ConditionFault.message : ConditionFault → String
  | .noCandidate r => "No eviction candidate for " ++ r.name
  | .cluster f => "Failed to list workloads: " ++ f.message
  | .unread path f => "IO error reading " ++ path ++ ": " ++ f.message
  | .malformed file reason => "Malformed " ++ file ++ ": " ++ reason
  | .settings f => "Configuration error: " ++ f.message
  | .alreadyStarted => "Condition source already started"

end NodePressure
