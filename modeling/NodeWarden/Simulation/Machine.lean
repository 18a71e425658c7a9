import NodeWarden.Launch.Run
import NodeWarden.Simulation.Network

/-!
# A machine in memory

A machine for the program to run on, with a scripted network. It keeps the log entries that are
written on it, its time passes only in waits, and it is asked to stop in the first wait, if it is
asked at all.
-/

namespace NodeWarden

/-- A machine in memory. -/
structure MemoryMachine where
  network : ScriptedNetwork
  source : DeviceSource
  /-- Whether the machine is told how to reach the API of a cluster. -/
  knowsCluster : Bool
  /-- The request to stop that will come. -/
  stopCause : Option StopCause
  signal : ShutdownSignal
  /-- The time in milliseconds. -/
  clock : Nat
  /-- The log entries, the first one first. -/
  log : List Log.Entry

namespace MemoryMachine

/-- A machine that was just started, without devices. -/
def create (network : ScriptedNetwork) (knowsCluster : Bool) (stopCause : Option StopCause) :
    MemoryMachine where
  network := network
  source := .mock (.withMemory [])
  knowsCluster := knowsCluster
  stopCause := stopCause
  signal := ⟨false, false, false⟩
  clock := 0
  log := []

instance : Journal MemoryMachine where
  note e m := { m with log := m.log ++ [e] }

instance : Kubernetes.HttpTransport MemoryMachine where
  exchange _ r m :=
    let (answer, n) := m.network.exchange r
    (answer, { m with network := n })

/-- Waits for a time, or for the request to stop, after which nothing else can be sent. -/
def wait (time : Nat) (m : MemoryMachine) : MemoryMachine :=
  match m.stopCause with
  | some cause =>
    note (LaunchNote.stopRequested cause).entry
      { m with stopCause := none, signal := { m.signal.send true with closed := true } }
  | none => { m with clock := max m.clock time }

instance : Machine MemoryMachine where
  toClusterApi := Kubernetes.clusterApi
  now m := .ofMillis m.clock
  stopwatch m := .ofMillis m.clock
  time := clock
  signal := signal
  look m := { m with signal := { m.signal with unseen := false } }
  devices m := m.source.backend
  wait := wait
  knowsCluster := knowsCluster
  useDevices source m := { m with source := source }

end MemoryMachine

end NodeWarden
