import NodeWarden.Launch.Basic
import NodeWarden.Log.Entry

/-!
# What the program logs

The events around an agent that are worth an entry in the log, from the start of the program to its
end, and the entry of each.
-/

namespace NodeWarden

/-- The version of the program. -/
def programVersion : String := "0.1.0"

/-- A signal that asks the program to stop. -/
inductive StopCause where
  | interrupt
  | terminate
deriving Repr, DecidableEq

/-- An event around an agent. -/
inductive LaunchNote where
  | starting
  | fileMissing (path : String)
  | loaded (launch : Launch)
  | onlyOnce
  | mockDevices (count : Nat)
  | configured (launch : Launch)
  | verdictReached (verdict : Verdict)
  | connected
  /-- The cluster's API did not answer. -/
  | unhealthy (reason : String)
  | servingMetrics (settings : MetricsSettings)
  | stopRequested (cause : StopCause)
  | finished

namespace LaunchNote

/-- The entry that the program writes of an event. -/
def entry (n : LaunchNote) : Log.Entry :=
  let write (level : Log.Level) (message : String) (fields : List (String × Log.Value)) :
      Log.Entry :=
    ⟨level, "gnsa", message, fields⟩
  match n with
  | starting => write .info "GNSA starting" [("version", .text programVersion)]
  | fileMissing path =>
    write .warn "Config file not found, using defaults" [("path", .shown (Text.quote path))]
  | loaded l =>
    write .info "Configuration loaded"
      [("node", .shown l.node.name), ("mode", .shown l.mode.name), ("mask", .shown l.mask.text),
        ("dry_run", .flag l.config.dryRun)]
  | onlyOnce => write .info "Running single evaluation pass (--once mode)" []
  | mockDevices count =>
    ⟨.warn, "gnsa_core::device", "Using mock GPU devices", [("devices", .count count)]⟩
  | configured l =>
    write .info "Agent configured"
      [("node", .shown l.node.name), ("device_type", .shown l.config.deviceKind.name),
        ("allow_delete", .flag l.config.executor.allowDelete),
        ("publish_score", .flag l.config.executor.publishScore)]
  | verdictReached v =>
    write .info "Verdict"
      [("action", .shown v.action.label), ("condition", .shown v.condition.label),
        ("score", .number v.score), ("device", .text (v.selectedDevice.getD "-")),
        ("reason", .shown v.reason)]
  | connected => ⟨.info, "gnsa_k8s::client", "Connected to Kubernetes API server", []⟩
  | unhealthy reason =>
    write .warn "Kubernetes API health check failed, node actions will be retried"
      [("error", .shown reason)]
  | servingMetrics s =>
    write .info "Metrics server listening" [("port", .count s.port.toNat), ("path", .shown s.path)]
  | stopRequested .interrupt => write .info "Received Ctrl+C, initiating shutdown" []
  | stopRequested .terminate => write .info "Received SIGTERM, initiating shutdown" []
  | finished => write .info "GNSA shutdown complete" []

end LaunchNote

end NodeWarden
