import NodeWarden.ConfigError
import NodeWarden.Text.Blank
import NodeWarden.Text.Letter

/-!
# Policy vocabulary

The mode by which a node is scored, the thresholds by which it is classified, the conditions it can
be in, and the verdict of a tick.
-/

namespace NodeWarden

/-! ## Modes -/

/-- How a node is scored: by its best device, or by the mean of all. -/
inductive PolicyMode where
  | maxFreeMemory
  | meanFreeMemory
deriving Repr, DecidableEq, Inhabited

namespace PolicyMode

def name : PolicyMode → String
  | maxFreeMemory => "MaxFreeMemory"
  | meanFreeMemory => "MeanFreeMemory"

/-- The letters of a mode's name that count: blanks around it, underscores, hyphens and the case of
ASCII letters do not. -/
def normalize (s : String) : String :=
  String.ofList
    (Text.asciiLower ((Text.trimChars s.toList).filter fun c => c != '_' && c != '-'))

/-- Reads the name of a mode. -/
def parse (s : String) : Except ConfigError PolicyMode :=
  if normalize s = "maxfreememory" then .ok maxFreeMemory
  else if normalize s = "meanfreememory" then .ok meanFreeMemory
  else .error (.unknownMode s)

/-- The mode of a setting that may be absent. -/
def ofSetting (value : Option String) : Except ConfigError PolicyMode :=
  match value with
  | some s => parse s
  | none => .error .missingMode

end PolicyMode

/-! ## Thresholds -/

/-- The limits by which a node is classified. -/
structure Thresholds where
  /-- A node whose devices are all below this many free bytes is low on memory. -/
  cordonFloor : UInt64
  /-- A node whose devices are all below this many free bytes is exhausted. -/
  deleteFloor : UInt64
  /-- The ticks for which a condition has to last before it has consequences. -/
  debounce : UInt32
deriving Repr, DecidableEq

namespace Thresholds

/-- One gibibyte, a quarter of it, and three ticks. -/
protected def default : Thresholds := ⟨1024 * 1024 * 1024, 256 * 1024 * 1024, 3⟩

/-- Refuses a debounce of zero, and floors in the wrong order. -/
def validate (t : Thresholds) : Except ConfigError Unit :=
  if t.debounce = 0 then .error (.invalidThresholds .zeroDebounce)
  else if t.cordonFloor < t.deleteFloor then
    .error (.invalidThresholds (.floorsReversed t.deleteFloor t.cordonFloor))
  else .ok ()

end Thresholds

/-! ## Conditions and actions -/

/-- The condition of a node on one tick. -/
inductive Condition where
  | healthy
  | noDevices
  | lowMemory
  | exhausted
  | sampleFailure
deriving Repr, DecidableEq, Inhabited

namespace Condition

def label : Condition → String
  | healthy => "healthy"
  | noDevices => "no-devices"
  | lowMemory => "low-memory"
  | exhausted => "exhausted"
  | sampleFailure => "sample-failure"

end Condition

/-- What is to be done about a node. -/
inductive NodeAction where
  | none
  | cordon
  | delete
deriving Repr, DecidableEq, Inhabited

namespace NodeAction

def label : NodeAction → String
  | none => "none"
  | cordon => "cordon"
  | delete => "delete"

/-- Whether the action is a cordon or more. -/
def isCordonOrMore : NodeAction → Bool
  | none => false
  | _ => true

end NodeAction

/-! ## Verdicts -/

/-- The score of a node, and the device that it prefers. -/
structure Score where
  value : Float
  device : Option String
deriving Repr

/-- The decision of one tick. -/
structure Verdict where
  action : NodeAction
  reason : String
  score : Float
  condition : Condition
  selectedDevice : Option String
deriving Repr

end NodeWarden
