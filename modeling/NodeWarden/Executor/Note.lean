import NodeWarden.Executor.Basic
import NodeWarden.Log.Entry

/-!
# What an executor logs

The events of an executor that are worth an entry in the log, and the entry of each.
-/

namespace NodeWarden

/-- An event in the work of an executor. -/
inductive ExecutorNote where
  /-- A tick was left out because the agent has lost its authority. -/
  | observing (action : NodeAction)
  /-- A tick was left out after failures. -/
  | backingOff (remaining failures : UInt32)
  | willRetry (error : ClusterError) (state : ExecutorState)
  | authorityLost (error : ClusterError)
  | stillDeleted
  | registeredAgain
  | retryingCordon
  | deletionDisabled
  | deletionDeferred
  | alreadyCordoned
  | wouldCordon
  | cordoned
  | wouldDelete (reason : String)
  | deleted (reason : String)
  | labelsUnchanged
  | wouldLabel (labels : Labels)
deriving DecidableEq

/-- A table of labels as a log entry shows it. -/
def Labels.text (labels : Labels) : String :=
  let entries := labels.toList.map fun (k, v) => s!"{Text.quote k}: {Text.quote v}"
  "\x7b" ++ ", ".intercalate entries ++ "\x7d"

namespace ExecutorNote

/-- The entry that an executor for the given node writes of an event. -/
def entry (node : NodeIdentity) (n : ExecutorNote) : Log.Entry :=
  let write (level : Log.Level) (message : String) (fields : List (String × Log.Value)) :
      Log.Entry :=
    ⟨level, "gnsa_core::executor", message, fields⟩
  let own : String × Log.Value := ("node", .shown node.name)
  match n with
  | observing action =>
    write .debug "Observe-only, skipping node action" [("action", .shown action.label)]
  | backingOff remaining failures =>
    write .info "Backing off after cluster API failures"
      [("remaining", .count remaining.toNat), ("failures", .count failures.toNat)]
  | willRetry error s =>
    write .warn "Cluster API call failed, will retry on a later tick"
      [own, ("error", .shown error.message), ("failures", .count s.failures.toNat),
        ("skip_ticks", .count s.skipTicks.toNat), ("pending_cordon", .flag s.pendingCordon)]
  | authorityLost error =>
    write .error "Lost authority over node object, degrading to observe-only"
      [own, ("error", .shown error.message)]
  | stillDeleted => write .debug "Node object already deleted by this agent" []
  | registeredAgain => write .info "Node object registered again, resuming" [own]
  | retryingCordon => write .info "Retrying pending cordon" [own]
  | deletionDisabled => write .debug "Node deletion disabled, cordoning instead" []
  | deletionDeferred =>
    write .info "Delete requested before cordon was observed, cordoning first" [own]
  | alreadyCordoned => write .debug "Node already cordoned" [own]
  | wouldCordon => write .info "[DRY-RUN] Would cordon node" [own]
  | cordoned => write .info "Node cordoned" [own]
  | wouldDelete reason => write .info "[DRY-RUN] Would delete node" [own, ("reason", .shown reason)]
  | deleted reason => write .warn "Node object deleted" [own, ("reason", .shown reason)]
  | labelsUnchanged => write .trace "Score labels unchanged" []
  | wouldLabel labels =>
    write .debug "[DRY-RUN] Would update node labels" [own, ("labels", .shown labels.text)]

end ExecutorNote

end NodeWarden
