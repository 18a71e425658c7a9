import NodeWarden.Cluster.Api
import NodeWarden.Kubernetes.Object

/-!
# Requests to the API

The requests that an agent makes about nodes. The name of a node goes into the target of a request
as it is, so a name with characters that no target may hold makes no request.
-/

namespace NodeWarden.Kubernetes

/-- The methods of requests. -/
inductive Method where
  | get
  | patch
  | delete
deriving Repr, DecidableEq

namespace Method

def name : Method → String
  | get => "GET"
  | patch => "PATCH"
  | delete => "DELETE"

end Method

/-- A request to the server. -/
structure Request where
  method : Method
  /-- The path and the query. -/
  target : String
  /-- The type of the body, and the body. -/
  content : Option (String × Json)

/-! ## Targets -/

/-- Whether the path of a target may hold the character. -/
def isPathChar (c : Char) : Bool :=
  let n := c.toNat
  n == 0x21 || (0x24 ≤ n && n ≤ 0x3b) || n == 0x3d || (0x40 ≤ n && n ≤ 0x5f)
    || (0x61 ≤ n && n ≤ 0x7a) || n == 0x7c || n == 0x7e || c == '"' || n == 0x7b || n == 0x7d

/-- Whether the query of a target may hold the character. -/
def isQueryChar (c : Char) : Bool :=
  let n := c.toNat
  n == 0x21 || (0x24 ≤ n && n ≤ 0x3b) || n == 0x3d || (0x3f ≤ n && n ≤ 0x7e)

/-- Reads a target up to its fragment, in which anything goes. Inside the query all further question
marks are ordinary characters. -/
def readTarget (query : Bool) : List Char → Option (List Char)
  | [] => some []
  | c :: cs =>
    if c = '#' then some []
    else if (if query then isQueryChar c else isPathChar c || c = '?') then do
      return c :: (← readTarget (query || c = '?') cs)
    else none

/-- The most bytes of a target. -/
def targetLimit : Nat := 65534

/-- The target as it is sent, if it can be. -/
def sentTarget? (target : String) : Option String :=
  if target.utf8ByteSize ≤ targetLimit then (readTarget false target.toList).map String.ofList
  else none

/-! ## The requests -/

/-- The path of all nodes. -/
def nodesPath : String := "/api/v1/nodes"

/-- The name under which the server records changes. -/
def fieldManager : String := "gnsa"

/-- The request for the first node of all. -/
def listRequest : Request := ⟨.get, nodesPath ++ "?&limit=1", none⟩

def getRequest (name : String) : Request := ⟨.get, s!"{nodesPath}/{name}", none⟩

def patchRequest (name : String) (patch : Json) : Request :=
  ⟨.patch, s!"{nodesPath}/{name}?&fieldManager={fieldManager}",
    some ("application/merge-patch+json", patch)⟩

def deleteRequest (name : String) : Request :=
  ⟨.delete, s!"{nodesPath}/{name}?", some ("application/json", .obj [])⟩

/-- The request that makes a change. -/
def changeRequest (name : String) : NodeChange → Request
  | .cordon => patchRequest name cordonPatch
  | .label labels => patchRequest name (labelsPatch labels)
  | .delete => deleteRequest name

end NodeWarden.Kubernetes
