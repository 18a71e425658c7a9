import NodeWarden.Cluster.Node
import NodeWarden.Device.Sources
import NodeWarden.Executor.Config
import NodeWarden.Mask.Parser
import NodeWarden.Policy.Basic

/-!
# Settings

Everything that can be set for an agent, its defaults, and the conditions that settings have to
satisfy before an agent starts. The node, the mode and the mask have no defaults.
-/

namespace NodeWarden

/-- The settings for the executor and its calls to the cluster. -/
structure ExecutorSettings where
  /-- The time that a call to the cluster may take. -/
  apiTimeout : Duration
  allowDelete : Bool
  publishScore : Bool
  labelDomain : String
  maxBackoffTicks : UInt32
deriving Repr, DecidableEq

/-- The settings for the metrics that an agent serves. -/
structure MetricsSettings where
  enabled : Bool
  port : UInt16
  path : String
deriving Repr, DecidableEq

/-- The settings of an agent. -/
structure Config where
  deviceKind : BackendKind
  /-- The memory of the mock devices, if those are asked for. -/
  mockMemory : List MemoryReading
  nodeName : Option String
  mode : Option String
  visibleDevices : Option String
  /-- The time between ticks. -/
  interval : Duration
  thresholds : Thresholds
  executor : ExecutorSettings
  metrics : MetricsSettings
  dryRun : Bool
deriving Repr, DecidableEq

protected def ExecutorSettings.default : ExecutorSettings :=
  let c := ExecutorConfig.default
  ⟨.ofSeconds 10, c.allowDelete, c.publishScore, c.labelDomain, c.maxBackoffTicks⟩

protected def MetricsSettings.default : MetricsSettings := ⟨true, 9100, "/metrics"⟩

namespace Config

protected def default : Config where
  deviceKind := .nvidia
  mockMemory := [MockDevices.defaultMemory, MockDevices.defaultMemory]
  nodeName := none
  mode := none
  visibleDevices := none
  interval := .ofSeconds 30
  thresholds := .default
  executor := .default
  metrics := .default
  dryRun := false

/-- What the executor may do under the settings. -/
def executorConfig (c : Config) : ExecutorConfig where
  allowDelete := c.executor.allowDelete
  publishScore := c.executor.publishScore
  labelDomain := c.executor.labelDomain
  maxBackoffTicks := c.executor.maxBackoffTicks
  dryRun := c.dryRun

def nodeIdentity (c : Config) : Except ConfigError NodeIdentity :=
  NodeIdentity.ofText (c.nodeName.getD "")

def policyMode (c : Config) : Except ConfigError PolicyMode :=
  PolicyMode.ofSetting c.mode

def deviceMask (c : Config) : Except ConfigError VisibleDevices :=
  VisibleDevices.ofSetting c.visibleDevices

end Config

/-- Why settings are refused. -/
inductive SettingsFault where
  | zeroInterval
  | zeroTimeout
  | zeroPort
  | noMockDevices
  | invalid (error : ConfigError)
deriving Repr, DecidableEq

namespace SettingsFault

def message : SettingsFault → String
  | zeroInterval => "interval must be > 0"
  | zeroTimeout => "executor.api_timeout must be > 0"
  | zeroPort => "metrics.port must be > 0 when metrics are enabled"
  | noMockDevices => "mock_devices must not be empty when device_type is mock"
  | invalid error => error.message

end SettingsFault

/-- Passes an error of a setting on. -/
def ofSetting {α : Type} (r : Except ConfigError α) : Except SettingsFault α :=
  r.mapError .invalid

namespace Config

/-- Refuses settings under which no agent can work. -/
def validate (c : Config) : Except SettingsFault Unit :=
  if c.interval.isZero then .error .zeroInterval
  else if c.executor.apiTimeout.isZero then .error .zeroTimeout
  else if c.metrics.enabled ∧ c.metrics.port = 0 then .error .zeroPort
  else if c.deviceKind = .mock ∧ c.mockMemory = [] then .error .noMockDevices
  else do
    ofSetting c.thresholds.validate
    ofSetting c.executorConfig.validate

end Config

end NodeWarden
