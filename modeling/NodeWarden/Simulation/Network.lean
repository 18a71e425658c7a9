import NodeWarden.Kubernetes.Client

/-!
# A scripted network

A network behind which an API server answers from a list, whatever it is asked.
-/

namespace NodeWarden

open Kubernetes

/-- A network with an API server behind it. -/
structure ScriptedNetwork where
  /-- What a sender is told if the server cannot be reached. -/
  outage : Option String
  /-- The answers to come. -/
  answers : List Response
  /-- The requests that have arrived, the first one first. -/
  arrived : List Request

namespace ScriptedNetwork

/-- What a sender is told on a machine that is not connected to anything. -/
def disconnected : String :=
  "error trying to connect: tcp connect error: Network is unreachable (os error 101)"

/-- The answer to a request when there is nothing left to answer. -/
def exhausted : Response := ⟨500, "\x7b\x7d"⟩

/-- Sends a request and receives its answer. -/
def exchange (r : Request) (n : ScriptedNetwork) :
    Except TransportFault Response × ScriptedNetwork :=
  match n.outage with
  | some told => (.error (.connection told), n)
  | none =>
    (.ok (n.answers.headD exhausted),
      { n with answers := n.answers.drop 1, arrived := n.arrived ++ [r] })

end ScriptedNetwork

end NodeWarden
