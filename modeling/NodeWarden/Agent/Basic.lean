import NodeWarden.Executor.Apply
import NodeWarden.Metrics.Basic
import NodeWarden.Policy.Evaluator

/-!
# Agents

An agent watches over one node. Its life has four phases, and most of it is spent in ticks, each of
which ends in a report.
-/

namespace NodeWarden

/-- The phases of an agent's life, in their order. -/
inductive AgentPhase where
  | starting
  | running
  | draining
  | stopped
deriving Repr, DecidableEq

namespace AgentPhase

def label : AgentPhase → String
  | starting => "STARTING"
  | running => "RUNNING"
  | draining => "DRAINING"
  | stopped => "STOPPED"

end AgentPhase

/-- How a tick failed. -/
inductive TickError where
  | sample (error : DeviceError)
  | execute (error : ClusterError)
deriving Repr, DecidableEq

namespace TickError

/-- The stage of the tick that failed. -/
def stage : TickError → String
  | sample _ => "sample"
  | execute _ => "execute"

def message : TickError → String
  | sample e => s!"sampling failed: {e.message}"
  | execute e => s!"node action failed: {e.message}"

end TickError

/-- What happened on a tick. -/
structure TickReport where
  /-- The number of the tick, the first being one. -/
  tick : Nat
  verdict : Verdict
  /-- What the executor did, if it was asked and did not fail. -/
  outcome : Option ExecutionOutcome
  /-- The failures of the tick in the order of its stages. -/
  errors : List TickError
deriving Repr

namespace TickReport

/-- Whether nothing failed. -/
def isClean (r : TickReport) : Bool := r.errors.isEmpty

end TickReport

/-- An agent: the devices that it looks at, the limits by which it judges them, the executor through
which it acts, and the time between ticks. -/
structure Agent where
  mask : VisibleDevices
  thresholds : Thresholds
  executor : Executor
  interval : Duration
deriving Repr, DecidableEq

/-- What an agent remembers between ticks. -/
structure AgentState where
  phase : AgentPhase
  /-- The number of ticks so far. -/
  ticks : Nat
  evaluator : Evaluator
  executor : ExecutorState
  metrics : Metrics
deriving Repr

namespace Agent

/-- The node that the agent watches over. -/
def node (a : Agent) : NodeIdentity := a.executor.scope.node

def mode (a : Agent) : PolicyMode := a.executor.mode

/-- The state before the first tick. -/
def initial (a : Agent) : AgentState where
  phase := .starting
  ticks := 0
  evaluator := .new a.mode a.thresholds
  executor := .initial
  metrics := .empty

end Agent

end NodeWarden
