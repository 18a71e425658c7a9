import NodeWarden.Json.Basic
import NodeWarden.Time.Timestamp.Parser

/-!
# Schemas of Kubernetes objects

The shape that an object of the API has to have, as far as it is known. Every field of a record may
be left out or null, fields that are not known are passed over, and the items of a list and the
values of a table may not be null.
-/

namespace NodeWarden.Kubernetes

/-- A shape of JSON values. -/
inductive Schema where
  | any
  | text
  /-- One text and no other. -/
  | constant (value : String)
  | timestamp
  | flag
  /-- A whole number that fits so many bits, one of them for the sign. -/
  | integer (bits : Nat)
  /-- A whole number that is not negative and fits so many bits. -/
  | natural (bits : Nat)
  | list (item : Schema)
  /-- An object whose fields all have values of one shape. -/
  | table (value : Schema)
  | record (fields : List (String × Schema))

namespace Schema

/-- Whether a field of a record with this shape may be null. -/
def isNullable : Schema → Bool
  | constant _ => false
  | _ => true

mutual

/-- Whether a value has the shape. -/
def accepts : Schema → Json → Bool
  | any, _ => true
  | text, .str _ => true
  | constant value, .str s => s == value
  | timestamp, .str s => (Timestamp.parse? s).isSome
  | flag, .bool _ => true
  | integer bits, .int n => -(Nat.pow 2 (bits - 1) : Int) ≤ n && n < Nat.pow 2 (bits - 1)
  | natural bits, .int n => 0 ≤ n && n < Nat.pow 2 bits
  | list item, .arr items => items.all (accepts item)
  | table value, .obj fields => fields.all fun f => accepts value f.2
  | record known, .obj fields => fields.all fun f => acceptsField known f.1 f.2
  | _, _ => false

/-- Whether a value has the shape that the field of the given name has among the known ones. -/
def acceptsField : List (String × Schema) → String → Json → Bool
  | [], _, _ => true
  | (known, s) :: rest, name, value =>
    if name = known then (s.isNullable && value == .null) || accepts s value
    else acceptsField rest name value

end

/-- A record of texts. -/
def texts (names : List String) : Schema :=
  record (names.map fun n => (n, text))

/-! ## Nodes -/

/-- The metadata of any object. -/
def objectMeta : Schema :=
  record [
    ("annotations", table text),
    ("creationTimestamp", timestamp),
    ("deletionGracePeriodSeconds", integer 64),
    ("deletionTimestamp", timestamp),
    ("finalizers", list text),
    ("generateName", text),
    ("generation", integer 64),
    ("labels", table text),
    ("managedFields", list (record [
      ("apiVersion", text), ("fieldsType", text), ("fieldsV1", any), ("manager", text),
      ("operation", text), ("subresource", text), ("time", timestamp)])),
    ("name", text),
    ("namespace", text),
    ("ownerReferences", list (record [
      ("apiVersion", text), ("blockOwnerDeletion", flag), ("controller", flag), ("kind", text),
      ("name", text), ("uid", text)])),
    ("resourceVersion", text),
    ("selfLink", text),
    ("uid", text)]

/-- A source of settings for the agent that runs a node's containers. -/
def nodeConfigSource : Schema :=
  record [("configMap", texts ["kubeletConfigKey", "name", "namespace", "resourceVersion", "uid"])]

/-- What a node is meant to be. -/
def nodeSpec : Schema :=
  record [
    ("configSource", nodeConfigSource),
    ("externalID", text),
    ("podCIDR", text),
    ("podCIDRs", list text),
    ("providerID", text),
    ("taints", list (record [
      ("effect", text), ("key", text), ("timeAdded", timestamp), ("value", text)])),
    ("unschedulable", flag)]

/-- What a node was seen to be. -/
def nodeStatus : Schema :=
  record [
    ("addresses", list (texts ["address", "type"])),
    ("allocatable", table text),
    ("capacity", table text),
    ("conditions", list (record [
      ("lastHeartbeatTime", timestamp), ("lastTransitionTime", timestamp), ("message", text),
      ("reason", text), ("status", text), ("type", text)])),
    ("config", record [
      ("active", nodeConfigSource), ("assigned", nodeConfigSource), ("error", text),
      ("lastKnownGood", nodeConfigSource)]),
    ("daemonEndpoints", record [("kubeletEndpoint", record [("Port", integer 32)])]),
    ("images", list (record [("names", list text), ("sizeBytes", integer 64)])),
    ("nodeInfo", texts ["architecture", "bootID", "containerRuntimeVersion", "kernelVersion",
      "kubeProxyVersion", "kubeletVersion", "machineID", "operatingSystem",
      "osImage", "systemUUID"]),
    ("phase", text),
    ("volumesAttached", list (texts ["devicePath", "name"])),
    ("volumesInUse", list text)]

/-- A node of the first version of the core API. -/
def node : Schema :=
  record [
    ("apiVersion", constant "v1"),
    ("kind", constant "Node"),
    ("metadata", objectMeta),
    ("spec", nodeSpec),
    ("status", nodeStatus)]

/-- A list of nodes. -/
def nodeList : Schema :=
  record [
    ("apiVersion", text),
    ("kind", text),
    ("metadata", record [
      ("continue", text), ("remainingItemCount", integer 64), ("resourceVersion", text),
      ("selfLink", text)]),
    ("items", list node)]

/-- The status that the API answers instead of an object. -/
def status : Schema :=
  record [
    ("status", text),
    ("message", text),
    ("reason", text),
    ("code", natural 16)]

end Schema

end NodeWarden.Kubernetes
