import NodeWarden.Agent.Tick

/-!
# The agent's loop

An agent ticks at once and then at its interval until it is told to stop. It looks at the shutdown
signal before each tick and whenever it waits, never in the middle of a tick. It stops when it finds
a value that it has not seen and that says so, or when nobody is left who could send one.

The ticks keep to a schedule. After a tick that began more than five milliseconds late the schedule
starts anew at the time of that tick.
-/

namespace NodeWarden

/-- The receiving end of a channel on which a stop is announced. It holds the last value only. -/
structure ShutdownSignal where
  value : Bool
  /-- Whether the value was sent since the loop looked last. -/
  unseen : Bool
  /-- Whether nothing will be sent any more. -/
  closed : Bool
deriving Repr, DecidableEq

namespace ShutdownSignal

/-- The signal after a value was sent. -/
def send (value : Bool) (s : ShutdownSignal) : ShutdownSignal :=
  { s with value := value, unseen := true }

/-- Whether a loop that looks at the signal stops. -/
def stops (s : ShutdownSignal) : Bool :=
  if s.unseen then s.value else s.closed

end ShutdownSignal

/-- A world in which a loop can run: it has a clock in milliseconds, a shutdown signal, devices that
may change, and it lets time pass. A wait ends when its time has come, or before that when something
has happened. -/
class Schedule (σ : Type) extends ClusterApi σ, Journal σ, Clock σ where
  time : σ → Nat
  signal : σ → ShutdownSignal
  /-- The world after the loop has looked at the signal. -/
  look : σ → σ
  devices : σ → DeviceBackend
  wait : Nat → σ → σ

/-- A running loop. -/
structure AgentLoop (σ : Type) where
  state : AgentState
  /-- The time of the next tick. -/
  due : Nat
  /-- The times at which ticks began and their reports, the first one first. -/
  ticks : List (Nat × TickReport)
  world : σ

namespace Agent

variable {σ : Type} [Schedule σ] (a : Agent)

/-- Changes the phase. -/
def enter (phase : AgentPhase) (s : AgentState) (w : σ) : AgentState × σ :=
  ({ s with phase := phase }, a.tell (.phaseChanged s.phase phase) w)

/-- The interval in milliseconds, a started one included. -/
def intervalMillis : Nat := (a.interval.nanos + 999999) / 1000000

/-- The time of the tick after one that was due at one time and began at another. -/
def nextDue (due start : Nat) : Nat :=
  if due + 5 < start then start + a.intervalMillis else due + a.intervalMillis

/-- One turn of the loop, or none if it stops. -/
def turn (l : AgentLoop σ) : Option (AgentLoop σ) :=
  let signal := Schedule.signal l.world
  let now := Schedule.time l.world
  if signal.stops then none
  else if signal.unseen then some { l with world := Schedule.look l.world }
  else if l.due ≤ now then
    let (report, s, w) := a.tick (Schedule.devices l.world) l.state l.world
    some ⟨s, a.nextDue l.due now, l.ticks ++ [(now, report)], w⟩
  else some { l with world := Schedule.wait l.due l.world }

/-- The turns of the loop until it stops, unless there are more than the given number. -/
def turns : Nat → AgentLoop σ → Option (AgentLoop σ)
  | 0, _ => none
  | n + 1, l =>
    match a.turn l with
    | none => some l
    | some l => turns n l

/-- Enters the loop. -/
def start (s : AgentState) (w : σ) : AgentLoop σ :=
  let (s, w) := a.enter .running s w
  let w := a.tell .loopStarted w
  ⟨s, Schedule.time w, [], w⟩

/-- Leaves the loop. The node is left as it is. -/
def stop (l : AgentLoop σ) : AgentLoop σ :=
  let (s, w) := a.enter .draining l.state (a.tell .shutdownSeen l.world)
  let (s, w) := a.enter .stopped s (a.tell .nodeLeft w)
  { l with state := s, world := w }

/-- Runs the loop from its start to its stop, unless it takes more than the given number of
turns. -/
def run (limit : Nat) (s : AgentState) (w : σ) : Option (AgentLoop σ) :=
  (a.turns limit (a.start s w)).map a.stop

end Agent

end NodeWarden
