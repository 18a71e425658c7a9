import NodeWarden.Cluster.Node
import NodeWarden.Kubernetes.Schema

/-!
# Node objects

What an agent reads of a node object of the API, and the changes that it sends.
-/

namespace NodeWarden.Kubernetes

/-- The value of a field, if it is there and not null. -/
def present? (name : String) (object : Json) : Option Json :=
  (object.field? name).filter (· != .null)

/-- The labels of an object's metadata. -/
def labelsOf (object : Json) : Labels :=
  let fields := ((present? "metadata" object).bind (present? "labels")).bind Json.fields?
  (fields.getD []).foldl (fun (labels : Labels) f => labels.insert f.1 (f.2.str?.getD "")) ∅

/-- What an agent reads of a node object. A name that is missing reads as empty, and a node
that does not say that it is unschedulable is not. -/
def nodeState (object : Json) : NodeState where
  name := (((present? "metadata" object).bind (present? "name")).bind Json.str?).getD ""
  unschedulable :=
    (((present? "spec" object).bind (present? "unschedulable")).bind Json.bool?).getD false
  labels := labelsOf object

/-- Reads a node object, if it is one. -/
def nodeState? (object : Json) : Option NodeState :=
  if Schema.node.accepts object then some (nodeState object) else none

/-- The patch that cordons a node. -/
def cordonPatch : Json :=
  .obj [("spec", .obj [("unschedulable", .bool true)])]

/-- The patch that adds labels to a node. -/
def labelsPatch (labels : Labels) : Json :=
  .obj [("metadata", .obj [("labels", .ofStrings labels.toList)])]

end NodeWarden.Kubernetes
