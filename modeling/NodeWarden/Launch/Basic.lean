import NodeWarden.Agent.Basic
import NodeWarden.CommandLine
import NodeWarden.Config.Reader

/-!
# Launches

An agent is launched with settings from three places. A value on the command line wins over one in
the environment, and that over one in the settings file. Nothing is launched unless the file, if
there is one, can be read, the settings are valid, and node, mode and mask are known.
-/

namespace NodeWarden

/-- What is found at the path of the settings file. -/
inductive SettingsFile where
  | absent
  /-- Something that cannot be read, and why. -/
  | unreadable (reason : String)
  | text (content : String)
deriving Repr, DecidableEq

/-- Why no agent is launched. -/
inductive LaunchFault where
  /-- There is a settings file, but it cannot be read. -/
  | unreadable (path reason : String)
  /-- The settings file does not hold settings. -/
  | malformed (path : String)
  | refused (fault : SettingsFault)
deriving Repr, DecidableEq

namespace LaunchFault

/-- What went wrong, followed by its causes. -/
def report : LaunchFault → List String
  | unreadable path reason =>
    [s!"Failed to load config from {Text.quote path}",
      s!"Failed to read config file: {Text.quote path}", reason]
  | malformed path =>
    [s!"Failed to load config from {Text.quote path}", "Failed to parse YAML configuration"]
  | refused fault => ["Invalid configuration", fault.message]

end LaunchFault

/-- The settings in a file, or the defaults if there is no file. -/
def SettingsFile.load (path : String) (read : Yaml.Reader) :
    SettingsFile → Except LaunchFault Config
  | absent => .ok .default
  | unreadable reason => .error (.unreadable path reason)
  | text content =>
    match Config.ofText? content read with
    | some c => .ok c
    | none => .error (.malformed path)

/-- The settings with the arguments laid over them. -/
def Config.override (args : Arguments) (c : Config) : Config :=
  { c with
    dryRun := args.dryRun || c.dryRun
    nodeName := args.nodeName.or c.nodeName
    mode := args.mode.or c.mode
    visibleDevices := args.visibleDevices.or c.visibleDevices }

/-- Settings under which an agent can work, with the values that they stand for. -/
structure Launch where
  config : Config
  node : NodeIdentity
  mode : PolicyMode
  mask : VisibleDevices
deriving Repr, DecidableEq

namespace Launch

/-- Refuses settings that are not valid. -/
def ofConfig (c : Config) : Except SettingsFault Launch := do
  c.validate
  return {
    config := c
    node := ← ofSetting c.nodeIdentity
    mode := ← ofSetting c.policyMode
    mask := ← ofSetting c.deviceMask }

/-- Loads the settings, lays the arguments over them and refuses them if they are not valid. -/
def prepare (args : Arguments) (file : SettingsFile) (read : Yaml.Reader) :
    Except LaunchFault Launch := do
  let c ← file.load args.config read
  (ofConfig (c.override args)).mapError .refused

/-- The devices that the agent looks at. -/
def source (l : Launch) : DeviceSource :=
  .create l.config.deviceKind l.config.mockMemory

/-- The agent. -/
def agent (l : Launch) : Agent where
  mask := l.mask
  thresholds := l.config.thresholds
  executor := ⟨⟨l.node, l.config.executor.apiTimeout⟩, l.config.executorConfig, l.mode⟩
  interval := l.config.interval

end Launch

end NodeWarden
