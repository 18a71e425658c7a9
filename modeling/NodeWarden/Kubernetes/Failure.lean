import NodeWarden.Cluster.Node

/-!
# Failures of the API

How a call to a Kubernetes API server can fail, and what an agent makes of it: an answer
that refuses the agent's rights is final, one that does not know the node says so, and
everything else may pass.
-/

namespace NodeWarden.Kubernetes

/-- An answer of the server that a call has failed. -/
structure ErrorResponse where
  status : String
  message : String
  reason : String
  code : UInt16
deriving Repr, DecidableEq

/-- How a call failed. -/
inductive Failure where
  /-- The server answered that it failed. -/
  | response (answer : ErrorResponse)
  /-- The server could not be talked to. -/
  | connection (detail : String)
  /-- The node's name does not fit into a request. -/
  | request
  /-- The answer is not what was asked for. -/
  | unreadable
  /-- A line of a stream of events was too long. -/
  | lineTooLong
  /-- A stream of events broke off. -/
  | events (detail : String)
  /-- The server wants an encryption that the program does not have. -/
  | encryption
deriving Repr, DecidableEq

namespace Failure

/-- What is said of a failure that the server did not answer itself. -/
def detail : Failure → String
  | response r => s!"{r.reason} ({r.code}): {r.message}"
  | connection d => s!"HyperError: {d}"
  | request => "Failed to build request"
  | unreadable => "Error deserializing response"
  | lineTooLong => "Error finding newline character"
  | events d => s!"Error reading events stream: {d}"
  | encryption => "TLS required but no TLS stack selected"

/-- What an agent makes of a failure. -/
def classify (f : Failure) : ClusterError :=
  match f with
  | response r =>
    if r.code = 401 ∨ r.code = 403 then .permission r.message
    else if r.code = 404 then .notFound r.message
    else .api f.detail
  | _ => .api f.detail

end Failure

end NodeWarden.Kubernetes
