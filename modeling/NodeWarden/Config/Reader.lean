import NodeWarden.Config.Basic
import NodeWarden.Time.Span
import NodeWarden.Yaml.Value

/-!
# Settings files

Settings as a document: a mapping of which every key may be left out, with a mapping of its own for
each of three sections. Keys that mean nothing here are passed over. A key that is left out has a
value of its own; a section that is left out as a whole has the default of its type. The document is
whatever a reader of YAML makes of the text.
-/

namespace NodeWarden

open Yaml (Node)

namespace ConfigFile

/-- A number of 64 bits. -/
def word64? (n : Node) : Option UInt64 := (n.natural? UInt64.size).map Nat.toUInt64

/-- A number of 32 bits. -/
def word32? (n : Node) : Option UInt32 := (n.natural? UInt32.size).map Nat.toUInt32

/-- A number of 16 bits. -/
def word16? (n : Node) : Option UInt16 := (n.natural? UInt16.size).map Nat.toUInt16

/-- A duration as a sum of spans. -/
def duration? (n : Node) : Option Duration := do Duration.parse? (← n.text?)

/-- The name of a kind of devices. -/
def backendKind? (n : Node) : Option BackendKind := do
  match ← n.text? with
  | "nvidia" => some .nvidia
  | "mock" => some .mock
  | _ => none

/-! ## Keys that are left out -/

namespace Fallback

def cordonFloor : UInt64 := 1024 * 1024 * 1024

def deleteFloor : UInt64 := 256 * 1024 * 1024

def debounce : UInt32 := 3

def apiTimeout : Duration := .ofSeconds 10

/-- The value of the flags that are set if nothing else is said. -/
def isOn : Bool := true

def labelDomain : String := "gnsa.io"

def maxBackoffTicks : UInt32 := 8

/-- Two devices of 16 GiB, of which 12 are free. -/
def mockMemory : List MemoryReading :=
  List.replicate 2 ⟨16 * 1024 * 1024 * 1024, 12 * 1024 * 1024 * 1024⟩

def interval : Duration := .ofSeconds 30

def port : UInt16 := 9100

def path : String := "/metrics"

end Fallback

/-! ## Sections -/

/-- The value of a key that may not be left out. -/
def required? {α : Type} (entries : List (Node × Node)) (name : String) (read : Node → Option α) :
    Option α := do
  ← Node.readKey entries name none fun n => (read n).map some

/-- A mock device. -/
def mockDevice? (n : Node) : Option MemoryReading := do
  let es ← n.entries?
  return ⟨← required? es "total_bytes" word64?, ← required? es "free_bytes" word64?⟩

/-- The mock devices. -/
def mockMemory? (n : Node) : Option (List MemoryReading) := do
  (← n.items?).mapM mockDevice?

/-- The thresholds section. -/
def thresholds? (n : Node) : Option Thresholds := do
  let es ← n.entries?
  return {
    cordonFloor := ← Node.readKey es "cordon_floor_bytes" Fallback.cordonFloor word64?
    deleteFloor := ← Node.readKey es "delete_floor_bytes" Fallback.deleteFloor word64?
    debounce := ← Node.readKey es "debounce_ticks" Fallback.debounce word32? }

/-- The executor section. -/
def executor? (n : Node) : Option ExecutorSettings := do
  let es ← n.entries?
  return {
    apiTimeout := ← Node.readKey es "api_timeout" Fallback.apiTimeout duration?
    allowDelete := ← Node.readKey es "allow_delete" Fallback.isOn Node.flag?
    publishScore := ← Node.readKey es "publish_score" Fallback.isOn Node.flag?
    labelDomain := ← Node.readKey es "label_prefix" Fallback.labelDomain Node.text?
    maxBackoffTicks := ← Node.readKey es "max_backoff_ticks" Fallback.maxBackoffTicks word32? }

/-- The metrics section. -/
def metrics? (n : Node) : Option MetricsSettings := do
  let es ← n.entries?
  return {
    enabled := ← Node.readKey es "enabled" Fallback.isOn Node.flag?
    port := ← Node.readKey es "port" Fallback.port word16?
    path := ← Node.readKey es "path" Fallback.path Node.text? }

end ConfigFile

open ConfigFile

namespace Config

/-- The settings that a document gives, with the defaults for all that it leaves out. -/
def ofNode? (n : Node) : Option Config := do
  let es ← n.entries?
  return {
    deviceKind := ← Node.readKey es "device_type" .nvidia backendKind?
    mockMemory := ← Node.readKey es "mock_devices" Fallback.mockMemory mockMemory?
    nodeName := ← Node.readKey es "node_name" none Node.optionalText?
    mode := ← Node.readKey es "mode" none Node.optionalText?
    visibleDevices := ← Node.readKey es "visible_devices" none Node.optionalText?
    interval := ← Node.readKey es "interval" Fallback.interval duration?
    thresholds := ← Node.readKey es "thresholds" Thresholds.default thresholds?
    executor := ← Node.readKey es "executor" ExecutorSettings.default executor?
    metrics := ← Node.readKey es "metrics" MetricsSettings.default metrics?
    dryRun := ← Node.readKey es "dry_run" false Node.flag? }

/-- The settings that a text gives, by what a reader of YAML reads in it. -/
def ofText? (text : String) (read : Yaml.Reader := Node.ofText?) : Option Config := do
  ofNode? (← read text)

end Config

end NodeWarden
