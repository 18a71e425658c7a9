import NodeWarden.Json.Basic
import NodeWarden.Number.Decimal

/-!
# Log entries

A log entry has a level, the part of the program it comes from, a message and fields. Parts of the
program that act on a world write their entries into it; what becomes of them is the world's affair.
-/

namespace NodeWarden.Log

/-- How grave an entry is, the gravest first. -/
inductive Level where
  | error
  | warn
  | info
  | debug
  | trace
deriving Repr, DecidableEq

namespace Level

/-- The place of a level in the order of gravity. -/
def rank : Level → Nat
  | error => 1
  | warn => 2
  | info => 3
  | debug => 4
  | trace => 5

def name : Level → String
  | error => "ERROR"
  | warn => "WARN"
  | info => "INFO"
  | debug => "DEBUG"
  | trace => "TRACE"

end Level

/-- The value of a field. -/
inductive Value where
  /-- A text that is written as it is. -/
  | shown (text : String)
  /-- A text that a line of text logs writes between quotes. -/
  | text (text : String)
  | flag (value : Bool)
  | count (value : Nat)
  | number (value : Float)
deriving Repr

/-- A log entry. -/
structure Entry where
  level : Level
  source : String
  message : String
  fields : List (String × Value)
deriving Repr

/-- The names of the fields, of which the message is one. -/
def Entry.fieldNames (e : Entry) : List String :=
  "message" :: e.fields.map (·.1)

/-- What a line of text logs writes for a value. -/
def Value.line : Value → String
  | shown t => t
  | text t => Text.quote t
  | flag b => toString b
  | count n => toString n
  | number x => Number.FloatStyle.logged.write x

/-- An entry as a line of text logs, without its time. -/
def Entry.line (e : Entry) : String :=
  let fields := e.fields.map fun f => " " ++ f.1 ++ "=" ++ f.2.line
  s!"{e.level.name} {e.source}: {e.message}" ++ String.join fields

/-- A value in JSON logs. A number that is not finite is written as null. -/
def Value.json : Value → Json
  | shown t => .str t
  | text t => .str t
  | flag b => .bool b
  | count n => .int n
  | number x => if x.isFinite then .real (Number.FloatStyle.logged.write x) else .null

/-- An entry in JSON logs, without its time. -/
def Entry.json (e : Entry) : Json :=
  .obj [("level", .str e.level.name),
    ("fields", .obj (("message", .str e.message) :: e.fields.map fun f => (f.1, f.2.json))),
    ("target", .str e.source)]

end NodeWarden.Log

namespace NodeWarden

/-- A world in which log entries can be written. -/
class Journal (σ : Type) where
  note : Log.Entry → σ → σ

export Journal (note)

/-- Writes entries one after the other. -/
def noteAll {σ : Type} [Journal σ] (entries : List Log.Entry) (w : σ) : σ :=
  entries.foldl (fun w e => note e w) w

end NodeWarden
