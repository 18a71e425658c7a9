import NodeWarden.Text.Quoted

/-!
# Startup errors

What can be wrong with the settings of an agent. Each of these ends the program before it does
anything.
-/

namespace NodeWarden

/-- What is wrong with a mask of visible devices. -/
inductive MaskFault where
  /-- The entry names a slice of a device; only whole devices can be listed. -/
  | slice (entry : String)
  /-- The entry is neither an index nor a device's unique id. -/
  | entry (entry : String) (mask : String)
deriving Repr, DecidableEq

namespace MaskFault

def message : MaskFault → String
  | slice e => s!"MIG device {Text.quote e} is not supported, list the parent GPU instead"
  | entry e mask => s!"invalid entry {Text.quote e} in {Text.quote mask}"

end MaskFault

/-- What is wrong with the numbers and names that guard node actions. -/
inductive ThresholdFault where
  | zeroDebounce
  | floorsReversed (deleteFloor cordonFloor : UInt64)
  | labelDomain (domain : String)
deriving Repr, DecidableEq

namespace ThresholdFault

def message : ThresholdFault → String
  | zeroDebounce => "debounce_ticks must be > 0"
  | floorsReversed deleteFloor cordonFloor =>
    s!"delete_floor_bytes ({deleteFloor}) must not exceed cordon_floor_bytes ({cordonFloor})"
  | labelDomain domain => s!"label_prefix {Text.quote domain} is not a DNS subdomain"

end ThresholdFault

/-- An error in the settings. -/
inductive ConfigError where
  | missingNodeName
  | missingMode
  | unknownMode (text : String)
  | missingDeviceMask
  | invalidDeviceMask (fault : MaskFault)
  | invalidThresholds (fault : ThresholdFault)
deriving Repr, DecidableEq

namespace ConfigError

def message : ConfigError → String
  | missingNodeName => "node name must be set via config, --node-name, or NODE_NAME"
  | missingMode => "policy mode must be set via config, --mode, or MODE"
  | unknownMode t =>
    s!"unknown policy mode {Text.quote t} (expected MaxFreeMemory or MeanFreeMemory)"
  | missingDeviceMask =>
    "visible devices must be set via config, --visible-devices, or NVIDIA_VISIBLE_DEVICES"
  | invalidDeviceMask f => s!"invalid visible device mask: {f.message}"
  | invalidThresholds f => s!"invalid thresholds: {f.message}"

end ConfigError

end NodeWarden
