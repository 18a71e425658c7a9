import NodeWarden.Agent.Run
import NodeWarden.Cluster.Memory
import NodeWarden.Device.Sources

/-!
# A simulated world

A world of a cluster in memory, devices and a shutdown signal, and an agenda of what
somebody else does to them at which time. One thing is done after the other: what takes time
puts off what comes after it. Time passes only while somebody waits: a call for its answer,
or the loop for its next tick. After the last entry of the agenda nothing can be sent any
more.
-/

namespace NodeWarden

/-- What somebody else does to a simulated world. -/
inductive WorldEvent where
  | cluster (event : ClusterEvent)
  | devices (change : DeviceChange)
  | signal (value : Bool)
  /-- A call to the cluster, without a limit on its time, that changes a node, or reads it
  if there is no change. -/
  | call (change : Option NodeChange) (node : String)
  /-- The devices are asked for their list. -/
  | listing
  /-- Nothing, for so many milliseconds. -/
  | pause (ms : Nat)

/-- What somebody else has begun to do to a world. -/
structure Undertaking where
  /-- The time at which it is done. -/
  done : Nat
  /-- The change that it then makes, if it makes one, and of which node. -/
  change : Option (NodeChange × String)

/-- A simulated world. -/
structure World where
  cluster : MemoryCluster
  source : DeviceSource
  signal : ShutdownSignal
  /-- What is yet to be done, and not before which time, in the order of time. -/
  agenda : List (Nat × WorldEvent)
  /-- What is being done. -/
  ongoing : Option Undertaking
  /-- The times at which somebody else asked for the list of the devices, the first one first. -/
  listings : List Nat

namespace World

/-- The world in which an event begins. It is over at once unless it takes time. -/
def happen (w : World) : WorldEvent → World
  | .cluster e => { w with cluster := w.cluster.happen e }
  | .devices c => { w with source := w.source.change c }
  | .signal value => { w with signal := w.signal.send value }
  | .call change node =>
    match w.cluster.start none ((change.map (·.kind)).getD .get) node with
    | ((ms, .ok ()), c) =>
      { w with cluster := c, ongoing := some ⟨c.clock + ms, change.map (·, node)⟩ }
    | ((_, .error _), c) => { w with cluster := c }
  | .listing => { w with listings := w.listings ++ [w.cluster.clock] }
  | .pause ms => { w with ongoing := some ⟨w.cluster.clock + ms, none⟩ }

/-- Sets the clock, unless it is past the time. -/
def reach (time : Nat) (w : World) : World :=
  { w with cluster := { w.cluster with clock := max w.cluster.clock time } }

/-- Completes what is being done, if that is done by the given time. -/
def settle (time : Nat) (w : World) : World :=
  match w.ongoing with
  | none => w
  | some u =>
    if time < u.done then w
    else
      let w := { w.reach u.done with ongoing := none }
      match u.change with
      | none => w
      | some (change, node) => { w with cluster := (w.cluster.effect change node).2 }

/-- Lets everything be done that an agenda has up to the given time, and keeps the rest. -/
def work (time : Nat) : List (Nat × WorldEvent) → World → World
  | [], w =>
    let w := w.settle time
    { w with agenda := [], signal := { w.signal with closed := w.ongoing.isNone } }
  | (t, e) :: rest, w =>
    let w := w.settle time
    if w.ongoing.isNone && t ≤ time then work time rest ((w.reach t).happen e)
    else { w with agenda := (t, e) :: rest }

/-- Lets time pass up to the given time. -/
def advance (time : Nat) (w : World) : World :=
  (work time w.agenda w).reach time

/-- A world at the start of its time. -/
def create (cluster : MemoryCluster) (source : DeviceSource) (initial : Bool)
    (agenda : List (Nat × WorldEvent)) : World :=
  advance 0 ⟨cluster, source, ⟨initial, false, false⟩, agenda, none, []⟩

/-- The time at which something happens next, if anything does. -/
def next? (w : World) : Option Nat :=
  match w.ongoing with
  | some u => some u.done
  | none => w.agenda.head?.map (·.1)

/-- Lets time pass up to the given time, or until something has happened. -/
def wait (time : Nat) (w : World) : World :=
  w.advance ((w.next?.map (min time)).getD time)

/-- Begins a call to the cluster and lets the time pass that it takes. -/
def begin (limit : Duration) (kind : CallKind) (node : String) (w : World) :
    Except ClusterError Unit × World :=
  let ((ms, answer), c) := w.cluster.start (some limit) kind node
  (answer, advance (c.clock + ms) { w with cluster := c })

/-- Reads a node. -/
def get (limit : Duration) (node : String) (w : World) : Except ClusterError NodeState × World :=
  match w.begin limit .get node with
  | (.ok (), w) => (w.cluster.lookup node, w)
  | (.error e, w) => (.error e, w)

/-- Changes a node. -/
def change (limit : Duration) (change : NodeChange) (node : String) (w : World) :
    Except ClusterError Unit × World :=
  match w.begin limit change.kind node with
  | (.ok (), w) =>
    let (answer, c) := w.cluster.effect change node
    (answer, { w with cluster := c })
  | (.error e, w) => (.error e, w)

/-- The loop runs in a simulated world, in which nothing is logged. -/
instance : Schedule World where
  getNode := World.get
  changeNode := World.change
  note _ w := w
  now w := Clock.now w.cluster
  stopwatch w := Clock.stopwatch w.cluster
  time w := w.cluster.clock
  signal w := w.signal
  look w := { w with signal := { w.signal with unseen := false } }
  devices w := w.source.backend
  wait := World.wait

/-- The time by which an agenda is done that is begun at a given time, while calls take a
given time. -/
def agendaEnd (time delay : Nat) : List (Nat × WorldEvent) → Nat
  | [] => time
  | (t, .cluster (.setDelay ms)) :: rest => agendaEnd (max time t) ms rest
  | (t, .call _ _) :: rest => agendaEnd (max time t + delay) delay rest
  | (t, .pause ms) :: rest => agendaEnd (max time t + ms) delay rest
  | (t, _) :: rest => agendaEnd (max time t) delay rest

/-- The time by which everything has been done. -/
def horizon (w : World) : Nat :=
  let time := (w.ongoing.map (·.done)).getD w.cluster.clock
  agendaEnd (max w.cluster.clock time) w.cluster.delay w.agenda

/-- The world after everything has been done. -/
def conclude (w : World) : World :=
  w.advance w.horizon

/-- A number of turns in which a loop in this world stops: it makes at most six for each
entry of the agenda, and a tick and a wait for each millisecond up to the last. -/
def turnLimit (w : World) : Nat :=
  6 * (w.agenda.length + 1) + 2 * (w.horizon + 1 - w.cluster.clock) + 3

end World

/-- Runs an agent in a simulated world. -/
def Agent.simulate (a : Agent) (w : World) : Option (AgentLoop World) :=
  a.run w.turnLimit a.initial w

end NodeWarden
