import NodeWarden.Device.Basic

/-!
# Masks of visible devices

Which devices an agent looks at: all, none, or those on a list of indices and unique ids. The
container runtime applies indices itself and numbers the devices that it exposes from zero again,
so an index says nothing about the devices that are left: any index on the list admits them all.
-/

namespace NodeWarden

/-- A mask of visible devices. -/
inductive VisibleDevices where
  | all
  | none
  /-- Indices and unique ids, as they were written. -/
  | list (entries : List String)
deriving Repr, DecidableEq

/-- What the unique id of a device begins with. -/
def uniqueIdMark : List Char := ['G', 'P', 'U', '-']

/-- Whether an entry is a unique id; any other is an index. -/
def isUniqueId (entry : String) : Bool :=
  uniqueIdMark.isPrefixOf entry.toList

namespace VisibleDevices

/-- Whether the mask hides every device by itself, so that no backend need be asked. -/
def hidesAll (mask : VisibleDevices) : Bool := mask == none

/-- Whether a device's unique id is the given entry. -/
def matchesDevice (entry : String) (d : DeviceId) : Bool :=
  d.uuid == some entry

/-- Whether the mask admits a device. -/
def admits (mask : VisibleDevices) (d : DeviceId) : Bool :=
  match mask with
  | all => true
  | none => false
  | list entries => entries.any (fun e => !isUniqueId e) || entries.any (matchesDevice · d)

/-- The unique ids on the list that no device has, in the order of the list. -/
def missing (mask : VisibleDevices) (devices : List DeviceId) : List String :=
  match mask with
  | list entries => entries.filter fun e => isUniqueId e && !devices.any (matchesDevice e)
  | _ => []

/-- The text of a mask. -/
def text : VisibleDevices → String
  | all => "all"
  | none => "none"
  | list entries => ",".intercalate entries

end VisibleDevices

end NodeWarden
