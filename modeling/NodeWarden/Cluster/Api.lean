import NodeWarden.Cluster.Node

/-!
# Calls to the cluster

The four calls that an agent can make, as operations on a world in which they have their effect; and
a scope, through which an agent makes them: it names the agent's own node in every call, limits the
time that a call may take, and refuses an answer about any other node.
-/

namespace NodeWarden

/-- The kinds of calls. -/
inductive CallKind where
  | get
  | cordon
  | delete
  | updateLabels
deriving Repr, DecidableEq

namespace CallKind

/-- Whether calls of the kind change a node. -/
def isMutation : CallKind → Bool
  | get => false
  | _ => true

end CallKind

/-- A change of a node. -/
inductive NodeChange where
  | cordon
  | delete
  | label (labels : Labels)
deriving DecidableEq

namespace NodeChange

/-- The kind of call that makes the change. -/
def kind : NodeChange → CallKind
  | cordon => .cordon
  | delete => .delete
  | label _ => .updateLabels

end NodeChange

/-- A world that answers calls about nodes. A call is given a time limit and the node's name; it
has its answer and leaves the world changed, also if it fails. -/
class ClusterApi (σ : Type) where
  getNode : Duration → String → σ → Except ClusterError NodeState × σ
  changeNode : Duration → NodeChange → String → σ → Except ClusterError Unit × σ

/-- The calls about one node, with a limit on the time of each. -/
structure NodeScope where
  node : NodeIdentity
  limit : Duration
deriving Repr, DecidableEq

namespace NodeScope

variable {σ : Type} [ClusterApi σ]

/-- Reads the own node. An answer about another node is an error. -/
def get (scope : NodeScope) (w : σ) : Except ClusterError NodeState × σ :=
  match ClusterApi.getNode scope.limit scope.node.name w with
  | (.ok state, w) =>
    if state.name = scope.node.name then (.ok state, w)
    else (.error (.foreignNode state.name scope.node.name), w)
  | (.error e, w) => (.error e, w)

/-- Changes the own node. -/
def change (scope : NodeScope) (c : NodeChange) (w : σ) : Except ClusterError Unit × σ :=
  ClusterApi.changeNode scope.limit c scope.node.name w

end NodeScope

end NodeWarden
