import NodeWarden.Proofs.Cluster.Memory
import NodeWarden.Proofs.Cluster.Observed
import NodeWarden.Proofs.Kubernetes.TableServer

/-!
# A cluster in memory against an API server

A cluster in memory stands in for the client of an API server. What a merge patch makes of
the object of a node is what the cluster makes of its record; and started from the records
of the objects that a server has, the cluster answers every sequence of calls as the client
does, up to the words in which a missing node is reported.
-/

namespace NodeWarden

open Kubernetes (NodeServer IsSegment nodeState? cordonPatch labelsPatch)

/-! ## Sequences of calls -/

/-- A call about a node. -/
inductive NodeCall where
  | read (node : String)
  | change (change : NodeChange) (node : String)

namespace NodeCall

/-- The node that the call names. -/
def node : NodeCall → String
  | read n => n
  | change _ n => n

section
variable {σ : Type} [ClusterApi σ]

/-- Makes a call. -/
def make (limit : Duration) (call : NodeCall) (w : σ) : Exchange × σ :=
  match call with
  | read n =>
    let (answer, w) := ClusterApi.getNode limit n w
    (.read n answer, w)
  | change c n =>
    let (answer, w) := ClusterApi.changeNode limit c n w
    (.change c n answer, w)

/-- Makes calls one after the other. -/
def makeAll (limit : Duration) (calls : List NodeCall) (w : σ) : List Exchange × σ :=
  match calls with
  | [] => ([], w)
  | call :: calls =>
    let (e, w) := call.make limit w
    let (es, w) := makeAll limit calls w
    (e :: es, w)

end

end NodeCall

/-- Two answers to one call are the same: both show the same node, both tell of a change
that was made, or both find no such node, in whatever words. -/
inductive Exchange.SameUpToWords : Exchange → Exchange → Prop
  | found (node : String) (n : NodeState) : SameUpToWords (.read node (.ok n)) (.read node (.ok n))
  | missing (node words words' : String) :
      SameUpToWords (.read node (.error (.notFound words))) (.read node (.error (.notFound words')))
  | made (c : NodeChange) (node : String) :
      SameUpToWords (.change c node (.ok ())) (.change c node (.ok ()))
  | gone (c : NodeChange) (node words words' : String) :
      SameUpToWords (.change c node (.error (.notFound words)))
        (.change c node (.error (.notFound words')))

/-! ## A cluster that nothing disturbs -/

namespace MemoryCluster

/-- Nothing is in the way of calls: there is no fault that waits, no denial, no delay and no
other name for reads. -/
structure Plain (c : MemoryCluster) : Prop where
  faults : c.faults = []
  denied : c.denied = false
  delay : c.delay = 0
  pseudonym : c.pseudonym = none

namespace Plain

variable {c : MemoryCluster} (h : c.Plain)
include h

theorem start (limit : Duration) (kind : CallKind) (name : String) :
    c.start (some limit) kind name = ((0, .ok ()), c.record kind name) := by
  have unfailing : takeFault kind c.faults = none := by rw [h.faults]; rfl
  have prompt : (Duration.ofMillis c.delay).nanos ≤ limit.nanos := by
    rw [h.delay]
    exact Nat.zero_le _
  rw [start_of_free unfailing h.denied prompt, h.delay]

/-- A read finds the node as it is. -/
theorem get_found {limit : Duration} {name : String} {n : NodeState}
    (found : c.nodes[name]? = some n) :
    c.get (some limit) name = (.ok n, (c.record .get name).pass 0) := by
  have same : ((c.record .get name).pass 0).lookup name = .ok n := by
    have there : ((c.record .get name).pass 0).nodes[name]? = some n := found
    have named : ((c.record .get name).pass 0).pseudonym = none := h.pseudonym
    rw [lookup, there, named]
    rfl
  rw [get, h.start]
  exact congrArg (·, _) same

theorem get_missing {limit : Duration} {name : String} (missing : c.nodes[name]? = none) :
    c.get (some limit) name = (.error (.notFound name), (c.record .get name).pass 0) := by
  have same : ((c.record .get name).pass 0).lookup name = .error (.notFound name) := by
    have absent : ((c.record .get name).pass 0).nodes[name]? = none := missing
    rw [lookup, absent]
  rw [get, h.start]
  exact congrArg (·, _) same

/-- A change of a node that exists is made. -/
theorem change_found {limit : Duration} {name : String} {n : NodeState} (ch : NodeChange)
    (found : c.nodes[name]? = some n) :
    c.change (some limit) ch name =
      (.ok (), { (c.record ch.kind name).pass 0 with nodes := changed ch name n c.nodes }) := by
  have there : ((c.record ch.kind name).pass 0).nodes[name]? = some n := found
  rw [change, h.start]
  dsimp only
  rw [effect, there]
  rfl

theorem change_missing {limit : Duration} {name : String} (ch : NodeChange)
    (missing : c.nodes[name]? = none) :
    c.change (some limit) ch name = (.error (.notFound name), (c.record ch.kind name).pass 0) := by
  have absent : ((c.record ch.kind name).pass 0).nodes[name]? = none := missing
  rw [change, h.start]
  dsimp only
  rw [effect, absent]

end Plain

end MemoryCluster

/-! ## The simulation -/

namespace Kubernetes.NodeServer

variable {σ : Type} [HttpTransport σ] [Journal σ] {limit : Duration} (S : NodeServer σ limit)

/-- The cluster in memory has the records of the objects that the server has, each of which
is a node's, and nothing is in the way of its calls. -/
structure Mirrors (w : σ) (c : MemoryCluster) : Prop where
  image : ∀ name, c.nodes[name]? = (S.node? w name).bind nodeState?
  valid : ∀ name o, S.node? w name = some o → (nodeState? o).isSome
  plain : c.Plain

/-- What a cluster in memory has after a change of a node is the record of what the server
has of it then. -/
theorem changed_eq {name : String} {o : Json} {n : NodeState} (valid : nodeState? o = some n)
    (c : NodeChange) (nodes : Std.ExtTreeMap String NodeState) :
    (MemoryCluster.changed c name n nodes)[name]? = (afterChange o c).bind nodeState? := by
  cases c with
  | cordon => simp [MemoryCluster.changed, afterChange, nodeState?_cordonPatch valid]
  | label labels => simp [MemoryCluster.changed, afterChange, nodeState?_labelsPatch valid labels]
  | delete => simp [MemoryCluster.changed, afterChange]

namespace Mirrors

variable {S} {w w' : σ} {c c' : MemoryCluster} {name : String}

/-- What the cluster has under a name says whether the server has a node of the name. -/
theorem cases (h : S.Mirrors w c) (name : String) :
    (∃ o n, S.node? w name = some o ∧ nodeState? o = some n ∧ c.nodes[name]? = some n) ∨
      (S.node? w name = none ∧ c.nodes[name]? = none) := by
  rw [h.image]
  cases found : S.node? w name with
  | none => exact .inr ⟨rfl, rfl⟩
  | some o =>
    obtain ⟨n, valid⟩ := Option.isSome_iff_exists.mp (h.valid name o found)
    exact .inl ⟨o, n, rfl, valid, by rw [Option.bind_some, valid]⟩

/-- The logs of either side do not matter. -/
theorem unchanged (h : S.Mirrors w c) (server : S.node? w' = S.node? w) (kind : CallKind) :
    S.Mirrors w' ((c.record kind name).pass 0) where
  image := by
    rw [server]
    exact h.image
  valid := by
    rw [server]
    exact h.valid
  plain := ⟨h.plain.faults, h.plain.denied, h.plain.delay, h.plain.pseudonym⟩

/-- A change that is made on both sides. -/
theorem changed (h : S.Mirrors w c) {o : Json} {n : NodeState} (valid : nodeState? o = some n)
    (ch : NodeChange) (server : S.node? w' = Function.update (S.node? w) name (afterChange o ch)) :
    S.Mirrors w' { (c.record ch.kind name).pass 0 with
      nodes := MemoryCluster.changed ch name n c.nodes } where
  image := by
    intro other
    rw [server, Function.update_apply]
    by_cases same : other = name
    · subst same
      rw [if_pos rfl]
      exact changed_eq valid ch c.nodes
    · -- Nothing becomes of the other nodes, on either side.
      rw [if_neg same, ← h.image other]
      exact MemoryCluster.getElem?_changed_of_ne same ch n c.nodes
  valid := by
    intro other o' left
    rw [server, Function.update_apply] at left
    split at left
    · exact afterChange_valid valid ch left
    · exact h.valid other o' left
  plain := ⟨h.plain.faults, h.plain.denied, h.plain.delay, h.plain.pseudonym⟩

/-- Made on both sides, a call has the same answer on both and leaves the one mirroring the
other. -/
theorem make (h : S.Mirrors w c) (call : NodeCall) (segment : IsSegment call.node) :
    Exchange.SameUpToWords (@NodeCall.make σ clusterApi limit call w).1 (call.make limit c).1 ∧
      S.Mirrors (@NodeCall.make σ clusterApi limit call w).2 (call.make limit c).2 := by
  cases call with
  | read name =>
    replace segment : IsSegment name := segment
    simp only [NodeCall.make, ClusterApi.getNode]
    obtain ⟨o, n, server, valid, memory⟩ | ⟨server, memory⟩ := h.cases name
    · obtain ⟨w', shown, kept⟩ := S.getNode_found segment server valid
      rw [shown, h.plain.get_found memory]
      exact ⟨.found name n, h.unchanged kept .get⟩
    · obtain ⟨words, w', told, kept⟩ := S.getNode_missing segment server
      rw [told, h.plain.get_missing memory]
      exact ⟨.missing name words name, h.unchanged kept .get⟩
  | change ch name =>
    replace segment : IsSegment name := segment
    simp only [NodeCall.make, ClusterApi.changeNode]
    obtain ⟨o, n, server, valid, memory⟩ | ⟨server, memory⟩ := h.cases name
    · obtain ⟨w', made, after⟩ := S.changeNode_found segment server valid ch
      rw [made, h.plain.change_found ch memory]
      exact ⟨.made ch name, h.changed valid ch after⟩
    · obtain ⟨words, w', told, kept⟩ := S.changeNode_missing segment server ch
      rw [told, h.plain.change_missing ch memory]
      exact ⟨.gone ch name words name, h.unchanged kept ch.kind⟩

/-- So does a sequence of calls. -/
theorem makeAll (calls : List NodeCall) (segments : ∀ call ∈ calls, IsSegment call.node)
    (h : S.Mirrors w c) :
    List.Forall₂ Exchange.SameUpToWords (@NodeCall.makeAll σ clusterApi limit calls w).1
        (NodeCall.makeAll limit calls c).1 ∧
      S.Mirrors (@NodeCall.makeAll σ clusterApi limit calls w).2
      (NodeCall.makeAll limit calls c).2 := by
  induction calls generalizing w c with
  | nil => exact ⟨.nil, h⟩
  | cons call calls ih =>
    obtain ⟨own, others⟩ := List.forall_mem_cons.mp segments
    obtain ⟨same, next⟩ := h.make call own
    obtain ⟨rest, last⟩ := ih others next
    exact ⟨.cons same rest, last⟩

/-- A table with one object is mirrored by a cluster with the one record. -/
theorem ofOne {o : { o : Json // o.Writable }} {n : NodeState} (valid : nodeState? o.1 = some n)
    (limit : Duration) (name : String) :
    (TableServer.nodeServer limit).Mirrors (.ofOne name o)
      { MemoryCluster.withNodes [] with
        nodes := (∅ : Std.ExtTreeMap String NodeState).insert name n } where
  image := by
    intro other
    simp only [TableServer.nodeServer, TableServer.node?_ofOne]
    rw [Std.ExtTreeMap.getElem?_insert]
    split
    · rename_i same
      rw [Std.LawfulEqCmp.eq_of_compare same, Function.update_self]
      exact valid.symm
    · rename_i apart
      rw [Function.update_of_ne (by rintro rfl; exact apart Std.ReflCmp.compare_self)]
      rfl
  valid := by
    intro other o' found
    simp only [TableServer.nodeServer, TableServer.node?_ofOne, Function.update_apply] at found
    split at found
    · cases found
      rw [valid]
      rfl
    · cases found
  plain := ⟨rfl, rfl, rfl, rfl⟩

end Mirrors

end Kubernetes.NodeServer

/-- **A cluster in memory simulates the client of an API server.** Whatever else the object
of a node has or lacks, the patch of a cordon makes its record unschedulable and nothing
else, and that of labels adds these to its labels, over those of the same keys, and changes
nothing else. So a cluster in memory that starts from the records of the objects of a server
goes through every sequence of calls as the client does: each call answers with the same
node, or is made on both sides, or finds no such node on either; and afterwards the cluster
again has the records of what the server has. -/
theorem memoryCluster_simulates_client :
    (∀ (o : Json) (n : NodeState), nodeState? o = some n →
      nodeState? (o.mergePatch cordonPatch) = some { n with unschedulable := true } ∧
      ∀ labels : Labels, ∃ extended : Labels,
        nodeState? (o.mergePatch (labelsPatch labels)) = some { n with labels := extended } ∧
        ∀ key : String, extended[key]? = labels[key]?.or n.labels[key]?) ∧
    ∀ (σ : Type) [Kubernetes.HttpTransport σ] [Journal σ] (limit : Duration)
      (S : NodeServer σ limit) (w : σ) (c : MemoryCluster), S.Mirrors w c →
        ∀ calls : List NodeCall, (∀ call ∈ calls, IsSegment call.node) →
        List.Forall₂ Exchange.SameUpToWords
        (@NodeCall.makeAll σ Kubernetes.clusterApi limit calls w).1
          (NodeCall.makeAll limit calls c).1 ∧
        S.Mirrors (@NodeCall.makeAll σ Kubernetes.clusterApi limit calls w).2
        (NodeCall.makeAll limit calls c).2 := by
  refine ⟨fun o n valid => ⟨Kubernetes.nodeState?_cordonPatch valid, fun labels => ?_⟩, ?_⟩
  · refine ⟨n.labels ∪ labels, Kubernetes.nodeState?_labelsPatch valid labels, fun key => ?_⟩
    exact Std.ExtTreeMap.getElem?_union
  · intro σ _ _ limit S w c mirrored calls segments
    exact NodeServer.Mirrors.makeAll calls segments mirrored

/-- The object of a node with a label, no spec and members that no record tells of. -/
def Kubernetes.labelledNode : { o : Json // o.Writable } where
  val := .obj [("kind", .str "Node"),
    ("metadata", .obj [("name", .str "gpu-1"), ("labels", .obj [("zone", .str "a")])]),
    ("status", .obj [("phase", .str "Running")])]
  property := by simp [Json.Writable, Json.FieldsWritable]

/-- A node that is read, cordoned, given labels of which one replaces its own, read again
and deleted. -/
theorem memoryCluster_simulates_client_labelledNode :
    let n : NodeState := ⟨"gpu-1", false, (∅ : Labels).insert "zone" "a"⟩
    let c := { MemoryCluster.withNodes [] with
        nodes := (∅ : Std.ExtTreeMap String NodeState).insert "gpu-1" n }
    let w := Kubernetes.TableServer.ofOne "gpu-1" Kubernetes.labelledNode
    let calls : List NodeCall := [.read "gpu-1", .change .cordon "gpu-1",
      .change (.label (((∅ : Labels).insert "zone" "b").insert "gpu" "failed")) "gpu-1",
      .read "gpu-1", .change .delete "gpu-1", .read "gpu-1", .change .cordon "gpu-2"]
    nodeState? Kubernetes.labelledNode.1 = some n ∧
      nodeState? (Kubernetes.labelledNode.1.mergePatch cordonPatch) =
      some { n with unschedulable := true } ∧
      (Kubernetes.TableServer.nodeServer ⟨5⟩).Mirrors w c ∧ (∀ call ∈ calls, IsSegment call.node) ∧
      List.Forall₂ Exchange.SameUpToWords (@NodeCall.makeAll _ Kubernetes.clusterApi ⟨5⟩ calls w).1
        (NodeCall.makeAll ⟨5⟩ calls c).1 := by
  intro n c w calls
  have valid : nodeState? Kubernetes.labelledNode.1 = some n := by decide
  have mirrored : (Kubernetes.TableServer.nodeServer ⟨5⟩).Mirrors w c := .ofOne valid ⟨5⟩ "gpu-1"
  have segments : ∀ call ∈ calls, IsSegment call.node := by
    have named : ∀ call ∈ calls, call.node = "gpu-1" ∨ call.node = "gpu-2" := by
      simp [calls, NodeCall.node]
    intro call listed
    rcases named call listed with own | other
    · rw [own]
      exact Kubernetes.isSegment_of_isDomainName (by decide) (by decide)
    · rw [other]
      exact Kubernetes.isSegment_of_isDomainName (by decide) (by decide)
  obtain ⟨patched, simulated⟩ := memoryCluster_simulates_client
  exact ⟨valid, (patched _ n valid).1, mirrored, segments,
    (simulated _ ⟨5⟩ _ w c mirrored calls segments).1⟩

end NodeWarden
