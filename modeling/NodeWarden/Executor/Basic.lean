import NodeWarden.Cluster.Api
import NodeWarden.Executor.Config
import NodeWarden.Policy.Basic
import NodeWarden.Number.Decimal
import NodeWarden.Number.Saturating

/-!
# The executor's state

What an executor remembers between ticks, the outcomes that a tick can have, and the schedule by
which failures are retried.
-/

namespace NodeWarden

/-- What a tick did to the node. -/
inductive ExecutionOutcome where
  | noAction
  | cordoned
  | alreadyCordoned
  /-- A deletion was asked for before a cordon had been seen; the node was cordoned instead. -/
  | deleteDeferred
  | deleted
  /-- The tick was skipped after failures; so many more will be. -/
  | backingOff (remaining : UInt32)
  /-- The agent has lost its authority and no longer acts. -/
  | observeOnly
deriving Repr, DecidableEq

namespace ExecutionOutcome

def label : ExecutionOutcome → String
  | noAction => "none"
  | cordoned => "cordoned"
  | alreadyCordoned => "already_cordoned"
  | deleteDeferred => "delete_deferred"
  | deleted => "deleted"
  | backingOff _ => "backing_off"
  | observeOnly => "observe_only"

end ExecutionOutcome

/-- The values of the three labels that a verdict publishes. -/
structure ScoreLabels where
  score : String
  mode : String
  condition : String
deriving Repr, DecidableEq

namespace ScoreLabels

/-- The labels of a verdict: the score in six decimal places, the mode and the condition. -/
def ofVerdict (mode : PolicyMode) (v : Verdict) : ScoreLabels where
  score := Number.fixed 6 v.score
  mode := mode.name
  condition := v.condition.label

/-- The labels under their keys. -/
def entries (c : ExecutorConfig) (l : ScoreLabels) : Labels :=
  ((∅ : Labels).insert c.scoreKey l.score |>.insert c.modeKey l.mode).insert
    c.conditionKey l.condition

end ScoreLabels

/-- What an executor remembers between ticks. -/
structure ExecutorState where
  /-- The number of ticks so far. -/
  tick : Nat
  /-- The tick on which the cordon was first seen, if it has been since the node was healthy. -/
  cordonObservedAt : Option Nat
  /-- Whether a cordon was begun that nobody has seen completed. -/
  pendingCordon : Bool
  /-- The executed ticks in a row that ended in a transient error. -/
  failures : UInt32
  /-- The ticks that are still to be skipped. -/
  skipTicks : UInt32
  /-- Whether the agent has lost its authority. -/
  observeOnly : Bool
  /-- Whether this agent has deleted the node, which has not been seen registered again. -/
  deleted : Bool
  /-- The labels that were last published, as far as is known. -/
  published : Option ScoreLabels
deriving Repr, DecidableEq

namespace ExecutorState

/-- The state before the first tick. -/
def initial : ExecutorState where
  tick := 0
  cordonObservedAt := none
  pendingCordon := false
  failures := 0
  skipTicks := 0
  observeOnly := false
  deleted := false
  published := none

/-- The state after the cordon was seen: none is pending, and the tick is remembered unless an
earlier one is. -/
def confirmCordon (s : ExecutorState) : ExecutorState :=
  { s with
    pendingCordon := false
    cordonObservedAt := some (s.cordonObservedAt.getD s.tick) }

/-- The state after the node was seen registered again. -/
def resume (s : ExecutorState) : ExecutorState :=
  { s with deleted := false, cordonObservedAt := none, published := none }

/-- The state after the node was deleted. -/
def recordDeletion (s : ExecutorState) : ExecutorState :=
  { s with deleted := true, pendingCordon := false, published := none }

/-- Whether the cordon was seen on an earlier tick than this one. -/
def observedEarlier (s : ExecutorState) : Bool :=
  match s.cordonObservedAt with
  | some t => t < s.tick
  | none => false

end ExecutorState

/-- The ticks to skip after a number of failures in a row: 0, 1, 3, 7 and so on, up to a limit. -/
def backoffTicks (failures limit : UInt32) : UInt32 :=
  let doublings := min (failures - min failures 1) 31
  (min ((1 <<< doublings.toUInt64) - 1) limit.toUInt64).toUInt32

namespace ExecutorState

/-- The state after an executed tick that ended in a transient error. -/
def countFailure (limit : UInt32) (s : ExecutorState) : ExecutorState :=
  let failures := Number.saturatingSucc s.failures
  { s with failures := failures, skipTicks := backoffTicks failures limit }

end ExecutorState

end NodeWarden
