import NodeWarden.Agent.Basic
import NodeWarden.Time.Span

/-!
# What an agent logs

The events in the life of an agent that are worth an entry in the log, and the entry of each.
-/

namespace NodeWarden

/-- An event in the life of an agent. -/
inductive AgentNote where
  | phaseChanged (start finish : AgentPhase)
  | loopStarted
  | samplingFailed (tick : Nat) (error : DeviceError)
  | tickAbandoned (tick : Nat) (reason : String)
  | actionFailed (tick : Nat) (action : NodeAction) (error : ClusterError)
  | tickCompleted (report : TickReport) (elapsed : Duration)
  | sampled (sample : DeviceSample)
  | shutdownSeen
  | nodeLeft

namespace AgentNote

/-- The entry that an agent writes of an event. -/
def entry (a : Agent) (n : AgentNote) : Log.Entry :=
  let write (level : Log.Level) (message : String) (fields : List (String × Log.Value)) :
      Log.Entry :=
    ⟨level, "gnsa_core::agent", message, fields⟩
  let own : String × Log.Value := ("node", .shown a.node.name)
  match n with
  | phaseChanged start finish =>
    write .info "Agent state changed"
      [own, ("from", .shown start.label), ("to", .shown finish.label)]
  | loopStarted =>
    write .info "Starting agent loop"
      [own, ("mode", .shown a.mode.name), ("mask", .shown a.mask.text),
        ("interval", .shown a.interval.written)]
  | samplingFailed tick error =>
    write .warn "Sampling failed" [("tick", .count tick), ("error", .shown error.message)]
  | tickAbandoned tick reason =>
    write .debug "Tick abandoned" [("tick", .count tick), ("reason", .shown reason)]
  | actionFailed tick action error =>
    write .error "Node action failed"
      [("tick", .count tick), ("action", .shown action.label), ("error", .shown error.message)]
  | tickCompleted r elapsed =>
    write .debug "Tick complete"
      [("tick", .count r.tick), ("action", .shown r.verdict.action.label),
        ("condition", .shown r.verdict.condition.label), ("score", .number r.verdict.score),
        ("outcome", .text ((r.outcome.map ExecutionOutcome.label).getD "abandoned")),
        ("duration", .shown elapsed.text)]
  | sampled s =>
    write .info "Device sample"
      [("device", .text s.deviceId), ("free", .count s.free.toNat), ("total", .count s.total.toNat),
        ("ratio", .number s.freeRatio)]
  | shutdownSeen => write .info "Shutdown signal received" []
  | nodeLeft => write .info "Leaving node state as-is" [own]

end AgentNote

end NodeWarden
