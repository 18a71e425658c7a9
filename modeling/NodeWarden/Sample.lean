import NodeWarden.Log.Entry
import NodeWarden.Mask.Basic
import NodeWarden.Time.Timestamp

/-!
# Samples

The memory of the visible devices at one moment. A sample can only be built from a reading that
makes sense, so every sample has memory, and no more of it free than there is.
-/

namespace NodeWarden

/-- The memory of one device at one moment. -/
structure DeviceSample where
  deviceId : String
  index : Nat
  total : UInt64
  free : UInt64
  sampledAt : Timestamp
  total_pos : 0 < total
  free_le_total : free ≤ total
deriving DecidableEq

namespace DeviceSample

/-- The sample of a reading, if the reading makes sense. -/
def ofReading (d : DeviceId) (m : MemoryReading) (moment : Timestamp) :
    Except DeviceError DeviceSample :=
  if h : 0 < m.total ∧ m.free ≤ m.total then
    .ok ⟨d.key, d.index, m.total, m.free, moment, h.1, h.2⟩
  else
    .error (.inconsistent d.key m.free m.total)

/-- The free part of the memory. -/
def freeRatio (s : DeviceSample) : Float :=
  s.free.toFloat / s.total.toFloat

end DeviceSample

/-- The samples of one tick. -/
structure SampleSet where
  nodeName : String
  mask : VisibleDevices
  sampledAt : Timestamp
  samples : List DeviceSample
deriving DecidableEq

namespace SampleSet

/-- The samples of readings, or the error of the first reading that makes no sense. -/
def samplesOf (moment : Timestamp) :
    List (DeviceId × MemoryReading) → Except DeviceError (List DeviceSample)
  | [] => .ok []
  | (d, m) :: rest => do
    let sample ← DeviceSample.ofReading d m moment
    let others ← samplesOf moment rest
    return sample :: others

/-- The set of readings, all with the same timestamp. -/
def ofReadings (nodeName : String) (mask : VisibleDevices) (moment : Timestamp)
    (readings : List (DeviceId × MemoryReading)) : Except DeviceError SampleSet := do
  return ⟨nodeName, mask, moment, ← samplesOf moment readings⟩

section

-- a backend may be asked in any computation that can fail
variable {m : Type → Type} [Monad m] [MonadExceptOf DeviceError m] (list : m (List DeviceId))
  (read : DeviceId → m MemoryReading)

/-- Reads devices in order, up to the first that fails. -/
def readAll : List DeviceId → m (List (DeviceId × MemoryReading))
  | [] => return []
  | d :: ds => do
    let r ← read d
    let others ← readAll ds
    return (d, r) :: others

/-- Reads the devices that the mask admits. A mask that hides every device asks the backend nothing.
A unique id on the mask that no device has is an error, and so is any reading that fails. -/
def readVisible (mask : VisibleDevices) : m (List (DeviceId × MemoryReading)) :=
  if mask.hidesAll then return []
  else do
    let devices ← list
    let missing := mask.missing devices
    if missing.isEmpty then readAll read (devices.filter mask.admits)
    else throw (.notFound (",".intercalate missing))

/-- Samples the devices that the mask admits. -/
def takeFrom (nodeName : String) (mask : VisibleDevices) (moment : Timestamp) : m SampleSet := do
  match ofReadings nodeName mask moment (← readVisible list read mask) with
  | .ok set => return set
  | .error e => throw e

end

/-- The readings of the devices of a backend that the mask admits. -/
def readings (backend : DeviceBackend) (mask : VisibleDevices) :
    Except DeviceError (List (DeviceId × MemoryReading)) :=
  readVisible backend.list backend.read mask

/-- Samples the devices of a backend that the mask admits. -/
def take (backend : DeviceBackend) (nodeName : String) (mask : VisibleDevices)
    (moment : Timestamp) :
    Except DeviceError SampleSet :=
  takeFrom backend.list backend.read nodeName mask moment

/-- What sampling logs. -/
def notes (backend : DeviceBackend) (mask : VisibleDevices) : List Log.Entry :=
  if mask.hidesAll then [⟨.debug, "gnsa_core::sampler", "Device mask hides every device", []⟩]
  else
    match readings backend mask with
    | .ok rs => [⟨.trace, "gnsa_core::sampler", "Sampled device memory",
        [("count", .count rs.length)]⟩]
    | .error _ => []

end SampleSet

end NodeWarden
