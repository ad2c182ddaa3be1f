import NodePressure.Time.Utc
import NodePressure.Node.TaintFlags
import NodePressure.Text.Blank

/-!
# NodePressure.Taint.Basic - the taints of a node

A node carries a list of taints, of which those whose key is the agent's prefix, a slash and the
name of a dimension are the agent's own. `flagsOf` reads them, `edit` changes one of them and
touches no other.
-/

namespace NodePressure

/-- A taint of a node. -/
structure Taint where
  key : String
  effect : String
  value : Option String
  added : Option Utc
  deriving DecidableEq

namespace Taint

/-- The prefix of taint and label keys unless another one is set. -/
def defaultPrefix : String := "eviction-agent"

/-- The effect of the agent's taints. -/
def ownEffect : String := "NoSchedule"

/-- The key of the agent's taint for a dimension. -/
def keyOf (pre : String) (d : Dimension) : String :=
  pre ++ "/" ++ d.name

/-- The dimension that a key is the agent's taint for. -/
def dimension? (pre : String) (key : String) : Option Dimension := do
  let rest ← Text.dropPrefix? pre.toList key.toList
  let rest ← Text.dropPrefix? ['/'] rest
  Dimension.ofName? (String.ofList rest)

/-- The dimensions that a list of taints has the agent's taint for. -/
def flagsOf (pre : String) (taints : List Taint) : TaintFlags :=
  taints.foldl
    (fun f t => match dimension? pre t.key with
      | some d => f.set d true
      | none => f)
    TaintFlags.clear

/-- The agent's taint for a dimension. -/
def own (pre : String) (d : Dimension) : Taint :=
  ⟨keyOf pre d, ownEffect, some "true", none⟩

/-- The list with the agent's taint for a dimension added or removed; nothing if it is as wanted
already. -/
def edit (pre : String) (taints : List Taint) (d : Dimension) : TaintChange → Option (List Taint)
  | .taint =>
    if taints.any (·.key == keyOf pre d) then none else some (taints ++ [own pre d])
  | .untaint =>
    if taints.any (·.key == keyOf pre d) then some (taints.filter (·.key != keyOf pre d)) else none

end Taint

end NodePressure
