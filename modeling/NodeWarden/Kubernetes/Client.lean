import NodeWarden.Cluster.Api
import NodeWarden.Json.Parser
import NodeWarden.Kubernetes.Failure
import NodeWarden.Kubernetes.Request
import NodeWarden.Log.Entry

/-!
# The client of the API

The calls about nodes as exchanges with a Kubernetes API server: each sends one request and reads
one answer. How requests travel is the affair of the world.
-/

namespace NodeWarden.Kubernetes

/-- An answer of the server. -/
structure Response where
  status : UInt16
  body : String
deriving Repr, DecidableEq

/-- Why a request has no answer. -/
inductive TransportFault where
  | connection (detail : String)
  /-- The time limit has passed. -/
  | timeout
deriving Repr, DecidableEq

/-- A world through which requests travel, with a limit on the time of an exchange or without. -/
class HttpTransport (σ : Type) where
  exchange : Option Duration → Request → σ → Except TransportFault Response × σ

/-! ## Answers -/

/-- The error that an answer tells of, if the answer has the form of one. -/
def errorResponse? (object : Json) : Option ErrorResponse := do
  let text (name : String) : Option String :=
    match object.field? name with
    | none => some ""
    | some v => v.str?
  let code ← (← object.field? "code").nat?
  if code < UInt16.size then
    return ⟨← (← object.field? "status").str?, ← text "message", ← text "reason", code.toUInt16⟩
  else none

/-- The body of an answer that tells of no error. One that does but has not the form of an error is
quoted whole. -/
def Response.success (r : Response) : Except Failure String :=
  if 400 ≤ r.status ∧ r.status < 600 then
    match (Json.parse? r.body).bind errorResponse? with
    | some e => .error (.response e)
    | none =>
      .error (.response ⟨toString r.status, Text.quote r.body,
        "Failed to parse error data", r.status⟩)
  else .ok r.body

/-- Reads a node from the body of an answer. -/
def readNode (body : String) : Except Failure NodeState :=
  match (Json.parse? body).bind nodeState? with
  | some n => .ok n
  | none => .error .unreadable

/-- Reads the node, or the status in its place, that is answered to a deletion. -/
def readDeletion (body : String) : Except Failure Unit :=
  match Json.parse? body with
  | some object =>
    if (if object.field? "kind" == some (.str "Status") then Schema.status else Schema.node).accepts
      object
    then .ok ()
    else .error .unreadable
  | none => .error .unreadable

/-- Reads the list of nodes from the body of an answer. -/
def readList (body : String) : Except Failure Unit :=
  match Json.parse? body with
  | some object => if Schema.nodeList.accepts object then .ok () else .error .unreadable
  | none => .error .unreadable

/-! ## Calls -/

section
variable {σ : Type} [HttpTransport σ] [Journal σ]

/-- Sends a request and reads its answer. A call that runs out of time ends with that error. -/
def call {α : Type} (limit : Option Duration) (r : Request) (read : String → Except Failure α)
    (w : σ) :
    Except ClusterError α × σ :=
  match sentTarget? r.target with
  | none => (.error Failure.request.classify, w)
  | some target =>
    match HttpTransport.exchange limit { r with target := target } w with
    | (.ok answer, w) => ((answer.success.bind read).mapError Failure.classify, w)
    | (.error (.connection d), w) => (.error (Failure.connection d).classify, w)
    | (.error .timeout, w) => (.error (.timeout (limit.getD ⟨0⟩)), w)

/-- An entry that the client writes about a node. -/
def logEntry (level : Log.Level) (part message name : String) : Log.Entry :=
  ⟨level, "gnsa_k8s::" ++ part, message, [("node", .text name)]⟩

/-- Reads a node. -/
def getNode (limit : Option Duration) (name : String) (w : σ) : Except ClusterError NodeState × σ :=
  match call limit (getRequest name) readNode w with
  | (.ok n, w) => (.ok n, note (logEntry .debug "cluster" "Fetched node" name) w)
  | (.error e, w) => (.error e, w)

/-- The entry that the client writes about a change that was made. -/
def changeEntry (name : String) : NodeChange → Log.Entry
  | .cordon => logEntry .info "client" "Node cordoned" name
  | .delete => logEntry .info "client" "Node deleted" name
  | .label labels =>
    let e := logEntry .debug "cluster" "Node labels updated" name
    { e with fields := e.fields ++ [("count", .count labels.size)] }

/-- Reads the answer to a change. -/
def readChange (c : NodeChange) (body : String) : Except Failure Unit :=
  match c with
  | .delete => readDeletion body
  | .cordon | .label _ => (readNode body).map fun _ => ()

/-- Changes a node. -/
def changeNode (limit : Option Duration) (c : NodeChange) (name : String) (w : σ) :
    Except ClusterError Unit × σ :=
  match call limit (changeRequest name c) (readChange c) w with
  | (.ok (), w) => (.ok (), note (changeEntry name c) w)
  | (.error e, w) => (.error e, w)

/-- What is said when the nodes cannot be listed. -/
def healthMessage : String := "Failed to list nodes"

/-- Whether the server answers a request for a list of nodes. -/
def checkHealth (w : σ) : Bool × σ :=
  match call none listRequest readList w with
  | (.ok (), w) => (true, w)
  | (.error _, w) => (false, w)

/-- The calls of an agent as exchanges with an API server. -/
@[reducible] def clusterApi : ClusterApi σ where
  getNode limit := getNode (some limit)
  changeNode limit := changeNode (some limit)

end

end NodeWarden.Kubernetes
