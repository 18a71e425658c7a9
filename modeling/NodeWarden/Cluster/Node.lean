import NodeWarden.ConfigError
import NodeWarden.Text.Blank
import NodeWarden.Time.Duration
import Std.Data.ExtTreeMap

/-!
# Nodes

The name by which an agent knows its own node, what it reads of a node, and the errors that a call
to the cluster can end with.
-/

namespace NodeWarden

/-- The name of an agent's own node. -/
structure NodeIdentity where
  name : String
deriving Repr, DecidableEq

namespace NodeIdentity

/-- The identity that a text names. Blanks around the name do not count, and blanks alone name
nothing. -/
def ofText (s : String) : Except ConfigError NodeIdentity :=
  let name := Text.trim s
  if name = "" then .error .missingNodeName else .ok ⟨name⟩

end NodeIdentity

/-- The labels of a node, by key. -/
abbrev Labels := Std.ExtTreeMap String String

/-- What an agent reads of a node. -/
structure NodeState where
  name : String
  unschedulable : Bool
  labels : Labels
deriving DecidableEq

namespace NodeState

/-- A node as it is when it registers: schedulable and without labels. -/
def registered (name : String) : NodeState := ⟨name, false, ∅⟩

/-- The node after a cordon. -/
def cordon (n : NodeState) : NodeState := { n with unschedulable := true }

/-- The node after an operator has lifted the cordon. -/
def uncordon (n : NodeState) : NodeState := { n with unschedulable := false }

/-- The node with further labels, which win over those it had. -/
def addLabels (n : NodeState) (labels : Labels) : NodeState :=
  { n with labels := n.labels ∪ labels }

end NodeState

/-- How a call to the cluster failed. -/
inductive ClusterError where
  | api (detail : String)
  | timeout (limit : Duration)
  | notFound (detail : String)
  | permission (detail : String)
  /-- A call or an answer was about a node other than the agent's own. -/
  | foreignNode (requested own : String)
deriving Repr, DecidableEq

namespace ClusterError

def message : ClusterError → String
  | api detail => s!"cluster API error: {detail}"
  | timeout limit => s!"cluster API call timed out after {limit.text}"
  | notFound detail => s!"node not found: {detail}"
  | permission detail => s!"permission denied: {detail}"
  | foreignNode requested own =>
    s!"refusing to act on node {Text.quote requested}: agent is scoped to {Text.quote own}"

/-- Whether a later tick tries again. -/
def isTransient : ClusterError → Bool
  | api _ | timeout _ | notFound _ => true
  | permission _ | foreignNode _ _ => false

/-- Whether the agent stops acting for good. -/
def isFatal (e : ClusterError) : Bool := !e.isTransient

end ClusterError

end NodeWarden
