import NodeWarden.Number.Decimal
import NodeWarden.Number.Saturating
import NodeWarden.Policy.Scoring

/-!
# The debounced evaluator

Turns the condition of each tick into an action. A bad condition has consequences only when it has
lasted, and a deletion only on a tick that directly follows a cordon. With `n` the number of ticks
for which the condition has lasted and `d` the debounce:

| condition     | none    | cordon   | delete                        |
|---------------|---------|----------|-------------------------------|
| healthy       | always  |          |                               |
| no devices    |         | `n ≤ d`  | `n > d`, after a cordon       |
| low memory    | `n < d` | `n ≥ d`  | never                         |
| exhausted     | `n < d` | `n ≥ d`  | `n > d`, after a cordon       |
| sample failed | `n < d` | `n ≥ d`  | `n > d`, after a cordon       |

The state is no more than the counter, the condition that it counts and the last action.
-/

namespace NodeWarden

/-- An evaluator: its settings, and the condition that lasts with the number of its ticks. -/
structure Evaluator where
  mode : PolicyMode
  thresholds : Thresholds
  condition : Condition
  consecutive : UInt32
  lastAction : NodeAction
deriving Repr, DecidableEq

namespace Evaluator

/-- An evaluator that has seen no tick. -/
def new (mode : PolicyMode) (thresholds : Thresholds) : Evaluator where
  mode := mode
  thresholds := thresholds
  condition := .healthy
  consecutive := 0
  lastAction := .none

/-- Counts a tick with the given condition. -/
def observe (e : Evaluator) (c : Condition) : Evaluator :=
  if c = e.condition then { e with consecutive := Number.saturatingSucc e.consecutive }
  else { e with condition := c, consecutive := 1 }

/-- The action for the condition that has been counted. -/
def decide (e : Evaluator) : NodeAction :=
  let n := e.consecutive
  let d := e.thresholds.debounce
  let overdue := n > d && e.lastAction.isCordonOrMore
  match e.condition with
  | .healthy => .none
  | .noDevices => if overdue then .delete else .cordon
  | .lowMemory => if n ≥ d then .cordon else .none
  | .exhausted | .sampleFailure =>
    if overdue then .delete else if n ≥ d then .cordon else .none

/-- How far the debounce has come. -/
def progress (e : Evaluator) : String :=
  s!"{e.consecutive}/{e.thresholds.debounce} ticks"

/-- Why the action was chosen. -/
def reason (e : Evaluator) (action : NodeAction) (score : Score) : String :=
  match e.condition with
  | .healthy =>
    let line := s!"{e.mode.name} score {Number.fixed 4 score.value}"
    match score.device with
    | some device => s!"{line} from {device}"
    | none => line
  | .noDevices => "no visible devices"
  | .lowMemory => s!"all devices below {e.thresholds.cordonFloor} free bytes ({e.progress})"
  | .exhausted => s!"all devices below {e.thresholds.deleteFloor} free bytes ({e.progress})"
  | .sampleFailure =>
    if action = .none then s!"sampling failed, tick abandoned ({e.progress})"
    else s!"repeated sampling failures ({e.progress})"

/-- Counts a tick and gives its verdict. -/
def escalate (e : Evaluator) (c : Condition) (score : Score) : Verdict × Evaluator :=
  let counted := e.observe c
  let action := counted.decide
  (⟨action, counted.reason action score, score.value, c, score.device⟩,
    { counted with lastAction := action })

/-- The verdict on a set of samples. -/
def evaluate (e : Evaluator) (set : SampleSet) : Verdict × Evaluator :=
  e.escalate (set.classify e.thresholds) (set.score e.mode)

/-- The verdict on a tick that could not be sampled. -/
def recordFailure (e : Evaluator) : Verdict × Evaluator :=
  e.escalate .sampleFailure ⟨0, none⟩

end Evaluator

end NodeWarden
