import NodeWarden.Cluster.Api
import NodeWarden.Log.Entry
import NodeWarden.Text.Quoted
import NodeWarden.Time.Clock

/-!
# A cluster in memory

A cluster as a table of nodes, for tests and for trying out settings. It logs every call with its
time, can be told to fail the next call of a kind, to deny every call, to take its time over each,
and to answer reads under another name. A call is logged first; then it is denied, or takes up the
oldest fault for its kind, or takes its time and at last has its effect. One that would take longer
than its limit has no effect.
-/

namespace NodeWarden

/-- A call that was made. -/
structure CallRecord where
  /-- The time of the call, in milliseconds. -/
  time : Nat
  kind : CallKind
  node : String
deriving Repr, DecidableEq

/-- A cluster in memory. -/
structure MemoryCluster where
  nodes : Std.ExtTreeMap String NodeState
  /-- The calls so far, the first one first. -/
  calls : List CallRecord
  /-- The faults that wait for a call of their kind, the oldest first. -/
  faults : List (CallKind × ClusterError)
  /-- Whether every call is denied. -/
  denied : Bool
  /-- The milliseconds that a call takes. -/
  delay : Nat
  /-- The name under which reads answer, if it is not the node's own. -/
  pseudonym : Option String
  /-- The milliseconds since the start. -/
  clock : Nat
deriving DecidableEq

/-- Takes the oldest fault for a kind out of the queue. -/
def takeFault (kind : CallKind) :
    List (CallKind × ClusterError) → Option (ClusterError × List (CallKind × ClusterError))
  | [] => none
  | (k, e) :: rest =>
    if k = kind then some (e, rest)
    else (takeFault kind rest).map fun (found, others) => (found, (k, e) :: others)

namespace MemoryCluster

/-- A cluster of the given nodes, all schedulable. -/
def withNodes (names : List String) : MemoryCluster where
  nodes := Std.ExtTreeMap.ofList (names.map fun n => (n, NodeState.registered n))
  calls := []
  faults := []
  denied := false
  delay := 0
  pseudonym := none
  clock := 0

/-- The calls so far that change nodes. -/
def mutations (c : MemoryCluster) : List CallRecord :=
  c.calls.filter (·.kind.isMutation)

/-! ## Calls -/

/-- Logs a call. -/
def record (kind : CallKind) (name : String) (c : MemoryCluster) : MemoryCluster :=
  { c with calls := c.calls ++ [⟨c.clock, kind, name⟩] }

/-- The whole milliseconds that a duration fills, a started one included. -/
def ceilMillis (d : Duration) : Nat := (d.nanos + 999999) / 1000000

/-- How long a call takes that nothing fails, and whether it runs out of time. -/
def latency (limit : Option Duration) (c : MemoryCluster) : Nat × Except ClusterError Unit :=
  match limit with
  | some d =>
    if d.nanos < (Duration.ofMillis c.delay).nanos then (ceilMillis d, .error (.timeout d))
    else (c.delay, .ok ())
  | none => (c.delay, .ok ())

/-- Begins a call: how long it takes, and whether it then fails before it has an effect. -/
def start (limit : Option Duration) (kind : CallKind) (name : String) (c : MemoryCluster) :
    (Nat × Except ClusterError Unit) × MemoryCluster :=
  let c := c.record kind name
  if c.denied then ((0, .error (.permission s!"nodes {Text.quote name} is forbidden")), c)
  else
    match takeFault kind c.faults with
    | some (e, others) => ((0, .error e), { c with faults := others })
    | none => (c.latency limit, c)

/-- Lets time pass. -/
def pass (ms : Nat) (c : MemoryCluster) : MemoryCluster :=
  { c with clock := c.clock + ms }

/-- What a read of a node answers. -/
def lookup (name : String) (c : MemoryCluster) : Except ClusterError NodeState :=
  match c.nodes[name]? with
  | some n => .ok { n with name := c.pseudonym.getD n.name }
  | none => .error (.notFound name)

/-- The table of nodes after a change of a node that exists. -/
def changed (change : NodeChange) (name : String) (n : NodeState)
    (nodes : Std.ExtTreeMap String NodeState) : Std.ExtTreeMap String NodeState :=
  match change with
  | .cordon => nodes.insert name n.cordon
  | .delete => nodes.erase name
  | .label labels => nodes.insert name (n.addLabels labels)

/-- The effect of a change. -/
def effect (change : NodeChange) (name : String) (c : MemoryCluster) :
    Except ClusterError Unit × MemoryCluster :=
  match c.nodes[name]? with
  | some n => (.ok (), { c with nodes := changed change name n c.nodes })
  | none => (.error (.notFound name), c)

/-- Reads a node, within a time limit or without one. -/
def get (limit : Option Duration) (name : String) (c : MemoryCluster) :
    Except ClusterError NodeState × MemoryCluster :=
  match c.start limit .get name with
  | ((ms, .ok ()), c) => ((c.pass ms).lookup name, c.pass ms)
  | ((ms, .error e), c) => (.error e, c.pass ms)

/-- Changes a node, within a time limit or without one. -/
def change (limit : Option Duration) (change : NodeChange) (name : String) (c : MemoryCluster) :
    Except ClusterError Unit × MemoryCluster :=
  match c.start limit change.kind name with
  | ((ms, .ok ()), c) => (c.pass ms).effect change name
  | ((ms, .error e), c) => (.error e, c.pass ms)

instance : ClusterApi MemoryCluster where
  getNode limit name c := c.get (some limit) name
  changeNode limit change name c := c.change (some limit) change name

/-- A cluster keeps no log entries. -/
instance : Journal MemoryCluster where
  note _ c := c

/-- The time that a cluster counts is not that of the machine, whose stopwatch stands still. -/
instance : Clock MemoryCluster where
  now c := .ofMillis c.clock
  stopwatch _ := ⟨0⟩

end MemoryCluster

/-! ## The environment -/

/-- What can happen to a cluster between two calls. -/
inductive ClusterEvent where
  /-- The next call of a kind will fail. -/
  | failNext (kind : CallKind) (error : ClusterError)
  | denyAll
  | setDelay (ms : Nat)
  /-- A node registers, anew if it exists. -/
  | register (name : String)
  /-- An operator lifts the cordon of a node. -/
  | uncordon (name : String)
  /-- Reads answer under another name, or again under the node's own. -/
  | renameReads (pseudonym : Option String)
deriving Repr, DecidableEq

namespace MemoryCluster

/-- The cluster after an event. -/
def happen (e : ClusterEvent) (c : MemoryCluster) : MemoryCluster :=
  match e with
  | .failNext kind error => { c with faults := c.faults ++ [(kind, error)] }
  | .denyAll => { c with denied := true }
  | .setDelay ms => { c with delay := ms }
  | .register name => { c with nodes := c.nodes.insert name (.registered name) }
  | .uncordon name =>
    match c.nodes[name]? with
    | some n => { c with nodes := c.nodes.insert name n.uncordon }
    | none => c
  | .renameReads pseudonym => { c with pseudonym := pseudonym }

end MemoryCluster

end NodeWarden
