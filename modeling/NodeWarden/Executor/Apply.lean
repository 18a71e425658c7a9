import NodeWarden.Executor.Note

/-!
# The executor

Carries the verdict of each tick out on the agent's own node, and on no other. It holds itself to
these rules:

* a node is deleted only if its cordon was seen on an earlier tick and it still reads unschedulable;
  otherwise it is cordoned, and the deletion waits for a later tick;
* a cordon that was begun and not seen completed is pending, and is tried again even if the verdict
  no longer asks for it;
* after transient errors ticks are skipped, the more the more of them came in a row;
* after an error that says that the node is not the agent's to change, nothing is done any more;
* labels are published only when their values change;
* after it has deleted its node, it only looks whether the node has been registered again.

Every function here takes the executor's state and a world, and gives both back with its answer,
also when it fails.
-/

namespace NodeWarden

/-- An executor: the node that it acts on, what it may do, and the mode that it publishes. -/
structure Executor where
  scope : NodeScope
  config : ExecutorConfig
  mode : PolicyMode
deriving Repr, DecidableEq

namespace Executor

variable {σ : Type} [ClusterApi σ] [Journal σ] (x : Executor)

/-- Writes a note into the log. -/
def tell (n : ExecutorNote) (w : σ) : σ :=
  note (n.entry x.scope.node) w

/-- Cordons the node as it was just read. The cordon is confirmed by a read that shows it or a call
that made it, and in a dry run by nothing. -/
def cordon (read : NodeState) (s : ExecutorState) (w : σ) :
    Except ClusterError ExecutionOutcome × ExecutorState × σ :=
  if read.unschedulable then
    (.ok .alreadyCordoned, s.confirmCordon, x.tell .alreadyCordoned w)
  else if x.config.dryRun then
    (.ok .cordoned, s.confirmCordon, x.tell .wouldCordon w)
  else
    match x.scope.change .cordon w with
    | (.ok (), w) => (.ok .cordoned, s.confirmCordon, x.tell .cordoned w)
    | (.error e, w) => (.error e, s, w)

/-- Deletes the node. A dry run changes nothing, nor what the executor remembers. -/
def delete (reason : String) (s : ExecutorState) (w : σ) :
    Except ClusterError ExecutionOutcome × ExecutorState × σ :=
  if x.config.dryRun then (.ok .deleted, s, x.tell (.wouldDelete reason) w)
  else
    match x.scope.change .delete w with
    | (.ok (), w) => (.ok .deleted, s.recordDeletion, x.tell (.deleted reason) w)
    | (.error e, w) => (.error e, s, w)

/-- Whether the node as it was just read may be deleted. -/
def mayDelete (read : NodeState) (s : ExecutorState) : Bool :=
  s.observedEarlier && (read.unschedulable || x.config.dryRun)

/-- Deletes the node as it was just read, or cordons it and leaves the deletion to a later tick. -/
def deleteOrCordon (reason : String) (read : NodeState) (s : ExecutorState) (w : σ) :
    Except ClusterError ExecutionOutcome × ExecutorState × σ :=
  if x.mayDelete read s then x.delete reason s w
  else
    match x.cordon read s (x.tell .deletionDeferred w) with
    | (.ok _, s, w) => (.ok .deleteDeferred, s, w)
    | (.error e, s, w) => (.error e, s, w)

/-- Publishes the labels of a verdict, unless they are known to be published already. -/
def publish (v : Verdict) (s : ExecutorState) (w : σ) :
    Except ClusterError Unit × ExecutorState × σ :=
  let labels := ScoreLabels.ofVerdict x.mode v
  let entries := labels.entries x.config
  if s.published = some labels then (.ok (), s, x.tell .labelsUnchanged w)
  else if x.config.dryRun then
    (.ok (), { s with published := some labels }, x.tell (.wouldLabel entries) w)
  else
    match x.scope.change (.label entries) w with
    | (.ok (), w) => (.ok (), { s with published := some labels }, w)
    | (.error e, w) => (.error e, s, w)

/-- Looks whether there is a node to act on: always, unless the executor has deleted it and it has
not been registered again. -/
def awaitRegistration (s : ExecutorState) (w : σ) : Except ClusterError Bool × ExecutorState × σ :=
  if s.deleted then
    match x.scope.get w with
    | (.ok _, w) => (.ok true, s.resume, x.tell .registeredAgain w)
    | (.error (.notFound _), w) => (.ok false, s, x.tell .stillDeleted w)
    | (.error e, w) => (.error e, s, w)
  else (.ok true, s, w)

/-- The action that a verdict amounts to: a pending cordon takes the place of no action, and a
cordon that of a deletion that is not allowed. -/
def effectiveAction (action : NodeAction) (s : ExecutorState) : NodeAction :=
  match action with
  | .none => if s.pendingCordon then .cordon else .none
  | .cordon => .cordon
  | .delete => if x.config.allowDelete then .delete else .cordon

/-- Logs that the verdict's action gives way to another. -/
def tellOverride (action : NodeAction) (s : ExecutorState) (w : σ) : σ :=
  match action with
  | .none => if s.pendingCordon then x.tell .retryingCordon w else w
  | .cordon => w
  | .delete => if x.config.allowDelete then w else x.tell .deletionDisabled w

/-- Carries out an action, its labels aside. No action at all means that the node is healthy: the
cordon has then to be seen anew before a deletion. -/
def act (action : NodeAction) (reason : String) (s : ExecutorState) (w : σ) :
    Except ClusterError ExecutionOutcome × ExecutorState × σ :=
  match action with
  | .none => (.ok .noAction, { s with cordonObservedAt := none }, w)
  | .cordon =>
    let s := { s with pendingCordon := true }
    match x.scope.get w with
    | (.ok read, w) => x.cordon read s w
    | (.error e, w) => (.error e, s, w)
  | .delete =>
    let s := { s with pendingCordon := true }
    match x.scope.get w with
    | (.ok read, w) => x.deleteOrCordon reason read s w
    | (.error e, w) => (.error e, s, w)

/-- Publishes the labels of a verdict after its action, unless the node is gone or labels are not
wanted. -/
def publishAfter (outcome : ExecutionOutcome) (v : Verdict) (s : ExecutorState) (w : σ) :
    Except ClusterError ExecutionOutcome × ExecutorState × σ :=
  if outcome ≠ .deleted ∧ x.config.publishScore then
    match x.publish v s w with
    | (.ok (), s, w) => (.ok outcome, s, w)
    | (.error e, s, w) => (.error e, s, w)
  else (.ok outcome, s, w)

/-- Carries out a verdict on a tick that is not skipped. -/
def execute (v : Verdict) (s : ExecutorState) (w : σ) :
    Except ClusterError ExecutionOutcome × ExecutorState × σ :=
  match x.awaitRegistration s w with
  | (.error e, s, w) => (.error e, s, w)
  | (.ok false, s, w) => (.ok .noAction, s, w)
  | (.ok true, s, w) =>
    match x.act (x.effectiveAction v.action s) v.reason s (x.tellOverride v.action s w) with
    | (.ok outcome, s, w) => x.publishAfter outcome v s w
    | (.error e, s, w) => (.error e, s, w)

/-- What an executor remembers of the result of an executed tick: success ends a row of failures, a
transient error lengthens it, and any other error takes away the authority. -/
def settle (result : Except ClusterError ExecutionOutcome) (s : ExecutorState) (w : σ) :
    ExecutorState × σ :=
  match result with
  | .ok _ => ({ s with failures := 0 }, w)
  | .error e =>
    if e.isTransient then
      let s := s.countFailure x.config.maxBackoffTicks
      (s, x.tell (.willRetry e s) w)
    else ({ s with observeOnly := true }, x.tell (.authorityLost e) w)

/-- Applies the verdict of one tick. -/
def apply (v : Verdict) (s : ExecutorState) (w : σ) :
    Except ClusterError ExecutionOutcome × ExecutorState × σ :=
  let s := { s with tick := s.tick + 1 }
  if s.observeOnly then (.ok .observeOnly, s, x.tell (.observing v.action) w)
  else if 0 < s.skipTicks then
    let s := { s with skipTicks := s.skipTicks - 1 }
    (.ok (.backingOff s.skipTicks), s, x.tell (.backingOff s.skipTicks s.failures) w)
  else
    match x.execute v s w with
    | (result, s, w) =>
      let (s, w) := x.settle result s w
      (result, s, w)

end Executor

end NodeWarden
