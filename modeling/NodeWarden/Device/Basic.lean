/-!
# Devices

A device, what can be read from it, and a backend that lists devices and reads them. A backend is
its answers: two functions that may fail.
-/

namespace NodeWarden

/-- A device as its backend names it. -/
structure DeviceId where
  index : Nat
  uuid : Option String
  name : String
deriving Repr, DecidableEq

namespace DeviceId

/-- The key of a device's samples: its unique id if it is known, else one made of its index. -/
def key (d : DeviceId) : String :=
  d.uuid.getD s!"gpu-{d.index}"

/-- The short name of a device. -/
def label (d : DeviceId) : String :=
  s!"GPU{d.index}"

end DeviceId

/-- The memory of a device, in bytes. -/
structure MemoryReading where
  total : UInt64
  free : UInt64
deriving Repr, DecidableEq

/-- Why a device could not be sampled. -/
inductive DeviceError where
  /-- The driver library could not be started. -/
  | driver (detail : String)
  | notFound (what : String)
  | query (detail : String)
  /-- A reading with more free than total memory, or with no memory at all. -/
  | inconsistent (device : String) (free total : UInt64)
deriving Repr, DecidableEq

namespace DeviceError

def message : DeviceError → String
  | driver detail => s!"Failed to initialize NVML: {detail}"
  | notFound what => s!"Device not found: {what}"
  | query detail => s!"Failed to query device: {detail}"
  | inconsistent device free total =>
    s!"Inconsistent memory reading on {device}: free={free} total={total}"

end DeviceError

/-- The kind of a device backend. -/
inductive BackendKind where
  | nvidia
  | mock
deriving Repr, DecidableEq, Inhabited

namespace BackendKind

def name : BackendKind → String
  | nvidia => "nvidia"
  | mock => "mock"

end BackendKind

/-- A backend: what it answers when asked for its devices and for a device's memory. -/
structure DeviceBackend where
  kind : BackendKind
  list : Except DeviceError (List DeviceId)
  read : DeviceId → Except DeviceError MemoryReading

end NodeWarden
