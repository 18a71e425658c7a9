import NodeWarden.Device.Basic
import NodeWarden.Number.Decimal

/-!
# Sources of devices

Three backends: mock devices whose memory can be set, scripted devices that answer what they were
told to, and the devices of a machine without the vendor's driver library, of which every call
fails. A source has a state that its environment changes; a backend is the answers of one state.
-/

namespace NodeWarden

/-! ## Mock devices -/

/-- Devices in memory. While `failing`, every call fails. -/
structure MockDevices where
  devices : List (DeviceId × MemoryReading)
  failing : Bool
deriving Repr, DecidableEq

namespace MockDevices

/-- The mock device with the given position. -/
def deviceAt (index : Nat) : DeviceId where
  index := index
  uuid := some s!"GPU-MOCK-{Number.padded 4 index}"
  name := s!"Mock GPU {index}"

/-- One device for each reading, in order. -/
def withMemory (memory : List MemoryReading) : MockDevices where
  devices := memory.zipIdx.map fun (m, i) => (deviceAt i, m)
  failing := false

/-- The memory of a mock device if nothing else is said: 16 GiB, of which 12 are free. -/
def defaultMemory : MemoryReading :=
  let gibibyte := 1024 * 1024 * 1024
  ⟨16 * gibibyte, 12 * gibibyte⟩

/-- The given number of devices with the default memory. -/
def withCount (count : Nat) : MockDevices :=
  withMemory (List.replicate count defaultMemory)

/-- The mock devices if nothing else is said: two with the default memory. -/
def standard : MockDevices := withCount 2

/-- Overwrites the reading of the first device in the list with the given index. -/
def updateFirst (index : Nat) (m : MemoryReading) :
    List (DeviceId × MemoryReading) → List (DeviceId × MemoryReading)
  | [] => []
  | (d, old) :: rest =>
    if d.index == index then (d, m) :: rest else (d, old) :: updateFirst index m rest

/-- Overwrites the reading of the device with the given index, if there is one. -/
def setMemory (mock : MockDevices) (index : Nat) (m : MemoryReading) : MockDevices :=
  { mock with devices := updateFirst index m mock.devices }

/-- Removes every device. -/
def removeAll (mock : MockDevices) : MockDevices :=
  { mock with devices := [] }

def failure : DeviceError := .query "mock query failure"

def backend (mock : MockDevices) : DeviceBackend where
  kind := .mock
  list := if mock.failing then .error failure else .ok (mock.devices.map (·.1))
  read d :=
    if mock.failing then .error failure
    else
      match mock.devices.find? (·.1.index == d.index) with
      | some (_, m) => .ok m
      | none => .error (.notFound s!"Device {d.index} not found")

end MockDevices

/-! ## Scripted devices -/

/-- Devices that each have an answer of their own. With a `listError`, listing fails. -/
structure ScriptedDevices where
  devices : List (DeviceId × Except DeviceError MemoryReading)
  listError : Option DeviceError

namespace ScriptedDevices

def backend (s : ScriptedDevices) : DeviceBackend where
  kind := .mock
  list :=
    match s.listError with
    | some e => .error e
    | none => .ok (s.devices.map (·.1))
  read d :=
    match s.devices.find? (·.1 == d) with
    | some (_, answer) => answer
    | none => .error (.notFound s!"Device {d.index} not found")

end ScriptedDevices

/-! ## Vendor devices -/

/-- What the loader of shared libraries says where the vendor's driver is not installed. -/
def missingDriver : DeviceError :=
  .driver ("a libloading error occurred: libnvidia-ml.so: cannot open shared object file: "
    ++ "No such file or directory")

/-- The vendor's backend on a machine without the driver. It starts the driver on first use, so it
can be created, and every call fails. -/
def vendorBackend : DeviceBackend where
  kind := .nvidia
  list := .error missingDriver
  read _ := .error missingDriver

/-! ## Any source -/

/-- A source of devices. -/
inductive DeviceSource where
  | mock (devices : MockDevices)
  | scripted (devices : ScriptedDevices)
  | vendor

/-- A change of a source by its environment. -/
inductive DeviceChange where
  | setMemory (index : Nat) (memory : MemoryReading)
  | failQueries (on : Bool)
  | removeAll
  | setDevices (devices : List (DeviceId × Except DeviceError MemoryReading))
  | listError (error : Option DeviceError)

namespace DeviceSource

/-- The source that the settings ask for. The memory is of use to the mock devices only. -/
def create (kind : BackendKind) (memory : List MemoryReading) : DeviceSource :=
  match kind with
  | .nvidia => vendor
  | .mock => mock (.withMemory memory)

def backend : DeviceSource → DeviceBackend
  | mock m => m.backend
  | scripted s => s.backend
  | vendor => vendorBackend

/-- The source after a change. A change that the source does not know leaves it alone. -/
def change : DeviceChange → DeviceSource → DeviceSource
  | .setMemory index m, mock d => mock (d.setMemory index m)
  | .failQueries on, mock d => mock { d with failing := on }
  | .removeAll, mock d => mock d.removeAll
  | .setDevices ds, scripted s => scripted { s with devices := ds }
  | .listError e, scripted s => scripted { s with listError := e }
  | _, source => source

end DeviceSource

end NodeWarden
