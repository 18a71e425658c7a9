import NodeWarden.Log.Entry
import NodeWarden.Policy.Evaluator

/-!
# What an evaluator logs

The end of a bad condition, and every verdict that has consequences.
-/

namespace NodeWarden.Evaluator

/-- A log entry of the policy. -/
def logEntry (level : Log.Level) (message : String) (fields : List (String × Log.Value)) :
    Log.Entry :=
  ⟨level, "gnsa_core::policy", message, fields⟩

/-- The entry about a change of the condition, which there is only if the last one was bad. -/
def changeNote (e : Evaluator) (c : Condition) : List Log.Entry :=
  if c = e.condition ∨ e.condition = .healthy then []
  else
    [logEntry .info "Node condition changed"
      [("from", .shown e.condition.label), ("to", .shown c.label),
        ("ticks", .count e.consecutive.toNat)]]

/-- The entry about a verdict, if it is more than that nothing is to be done. -/
def verdictNote (counted : Evaluator) (v : Verdict) : List Log.Entry :=
  let fields : List (String × Log.Value) :=
    [("condition", .shown v.condition.label), ("ticks", .count counted.consecutive.toNat),
      ("reason", .shown v.reason)]
  match v.action with
  | .none => []
  | .cordon => [logEntry .info "Verdict: cordon" fields]
  | .delete => [logEntry .warn "Verdict: delete" fields]

/-- The entries of a tick on which the given evaluator came to a verdict. -/
def notes (e : Evaluator) (v : Verdict) : List Log.Entry :=
  e.changeNote v.condition ++ (e.observe v.condition).verdictNote v

/-- The entry about a tick that could not be sampled. -/
def failureNote (error : DeviceError) : Log.Entry :=
  logEntry .debug "Recording sampling failure" [("error", .shown error.message)]

end NodeWarden.Evaluator
