import Mathlib.Data.List.TakeWhile
import Mathlib.Logic.Function.Basic
import NodeWarden.Kubernetes.Client
import NodeWarden.Proofs.Config.DomainName
import NodeWarden.Proofs.Kubernetes.MergePatch
import NodeWarden.Proofs.Text.Pieces

/-!
# An API server that keeps nodes

What is assumed of the server behind the client, as far as calls about nodes are concerned:
it answers in time, shows an object that it has, tells of one that it has not, applies merge
patches and removes what is to be deleted (`NodeServer`). Names of nodes are such as fit
into a path (`IsSegment`), as domain names do (`isSegment_of_isDomainName`). Under these
assumptions every call of the client comes to what the server did
(`NodeServer.getNode_found`, `NodeServer.changeNode_found` and those for a node that is
missing).
-/

namespace NodeWarden.Kubernetes

open Json (mergePatch)

/-! ## Targets -/

/-- A name that stands for itself as one segment in the path of a target, and that is not
too long for one. -/
structure IsSegment (name : String) : Prop where
  plain : ∀ c ∈ name.toList, isPathChar c = true ∧ c ≠ '/' ∧ c ≠ '%'
  proper : name ≠ "" ∧ name ≠ "." ∧ name ≠ ".."
  fits : name.utf8ByteSize + 33 ≤ targetLimit

/-- The path of a request: its target up to the query. -/
def Request.path (r : Request) : String :=
  String.ofList (r.target.toList.takeWhile (· != '?'))

/-- The request is about the node of the given name. -/
def Request.IsAbout (r : Request) (name : String) : Prop :=
  r.path = "/api/v1/nodes/" ++ name

theorem pathChar_ne {c : Char} (h : isPathChar c = true) : c ≠ '?' ∧ c ≠ '#' := by
  constructor
  · rintro rfl
    exact absurd h (by decide)
  · rintro rfl
    exact absurd h (by decide)

/-- A path is read as it is. -/
theorem readTarget_path {cs : List Char} (path : ∀ c ∈ cs, isPathChar c = true) (rest : List Char) :
    readTarget false (cs ++ rest) = (readTarget false rest).map (cs ++ ·) := by
  induction cs with
  | nil => simp
  | cons c cs ih =>
    obtain ⟨own, others⟩ := List.forall_mem_cons.mp path
    have apart := pathChar_ne own
    rw [List.cons_append, readTarget, if_neg apart.2]
    simp only [Bool.false_eq_true, if_false, own, if_true, apart.1, decide_false, Bool.or_false,
      ih others]
    cases readTarget false rest <;> rfl

theorem nodePath_chars {name : String} (h : IsSegment name) :
    ∀ c ∈ "/api/v1/nodes/".toList ++ name.toList, isPathChar c = true := by
  intro c hc
  have fixed : ∀ d ∈ "/api/v1/nodes/".toList, isPathChar d = true := List.all_eq_true.mp (by decide)
  rcases List.mem_append.mp hc with prefix_ | own
  · exact fixed c prefix_
  · exact (h.plain c own).1

/-- A target for a node is sent as it is, with one of the queries that the client makes. -/
theorem sentTarget?_node {name : String} (h : IsSegment name) {query : String}
    (known : query = "" ∨ query = "?" ∨ query = "?&fieldManager=gnsa") :
    sentTarget? ("/api/v1/nodes/" ++ name ++ query) = some ("/api/v1/nodes/" ++ name ++ query) := by
  have size : ("/api/v1/nodes/" ++ name ++ query).utf8ByteSize ≤ targetLimit := by
    -- A name that fits leaves room for the longest of the queries.
    have short : query.utf8ByteSize ≤ 19 := by rcases known with rfl | rfl | rfl <;> decide
    have fixed : "/api/v1/nodes/".utf8ByteSize = 14 := by decide
    have := h.fits
    rw [String.utf8ByteSize_append, String.utf8ByteSize_append]
    omega
  have read : readTarget false query.toList = some query.toList := by
    rcases known with rfl | rfl | rfl <;> decide
  rw [sentTarget?, if_pos size, String.toList_append, String.toList_append,
    readTarget_path (nodePath_chars h), read]
  simp [← String.toList_inj]

theorem isAbout_node {name : String} (h : IsSegment name) (query : String)
    (start : query.toList.takeWhile (· != '?') = []) (method : Method)
    (content : Option (String × Json)) :
    (Request.mk method ("/api/v1/nodes/" ++ name ++ query) content).IsAbout name := by
  have path : ∀ c ∈ ("/api/v1/nodes/" ++ name).toList, (c != '?') = true := by
    intro c hc
    rw [String.toList_append] at hc
    exact bne_iff_ne.mpr (pathChar_ne (nodePath_chars h c hc)).1
  rw [Request.IsAbout, Request.path, String.toList_append, List.takeWhile_append_of_pos path, start,
    List.append_nil, String.ofList_toList]

theorem labelChar_plain {c : Char} (h : DomainState.isLabelChar c = true) :
    isPathChar c = true ∧ c ≠ '/' ∧ c ≠ '%' := by
  have range : 97 ≤ c.toNat ∧ c.toNat ≤ 122 ∨ 48 ≤ c.toNat ∧ c.toNat ≤ 57 := by
    simp only [DomainState.isLabelChar, Bool.or_eq_true, Bool.and_eq_true,
      decide_eq_true_eq, Char.le_def, UInt32.le_iff_toNat_le] at h
    exact h
  refine ⟨?_, ?_, ?_⟩
  · simp only [isPathChar, Bool.or_eq_true, Bool.and_eq_true, decide_eq_true_eq, beq_iff_eq]
    omega
  · rintro rfl
    exact absurd h (by decide)
  · rintro rfl
    exact absurd h (by decide)

/-- Names of nodes are domain names, and each of those is a segment. -/
theorem isSegment_of_isDomainName {name : String} (h : isDomainName name.toList = true)
    (fits : name.utf8ByteSize ≤ 253) : IsSegment name where
  plain := by
    intro c hc
    have known : DomainState.isLabelChar c = true ∨ c = '-' ∨ c = '.' := by
      by_cases point : c = '.'
      · exact .inr (.inr point)
      · obtain ⟨label, listed, hc⟩ := Text.exists_mem_splitOn_iff.2 ⟨hc, point⟩
        rcases (isDomainName_iff.mp h label listed).chars c hc with inside | hyphen
        · exact .inl inside
        · exact .inr (.inl hyphen)
    rcases known with inside | rfl | rfl
    · exact labelChar_plain inside
    · decide
    · decide
  proper := by
    have labels := isDomainName_iff.mp h
    refine ⟨?_, ?_, ?_⟩ <;> rintro rfl <;> exact not_isDomainLabel_nil (labels [] (by decide))
  fits := by
    have limit : targetLimit = 65534 := rfl
    omega

theorem nodesPath_slash : nodesPath ++ "/" = "/api/v1/nodes/" := by
  decide

theorem getRequest_eq (name : String) :
    getRequest name = ⟨.get, "/api/v1/nodes/" ++ name ++ "", none⟩ := by
  rw [← nodesPath_slash, String.append_empty]
  rfl

theorem patchRequest_eq (name : String) (patch : Json) :
    patchRequest name patch =
      ⟨.patch, "/api/v1/nodes/" ++ name ++ "?&fieldManager=gnsa",
        some ("application/merge-patch+json", patch)⟩ := by
  have query : "?&fieldManager=" ++ fieldManager = "?&fieldManager=gnsa" := by decide
  rw [← nodesPath_slash, ← query, ← String.append_assoc]
  rfl

theorem deleteRequest_eq (name : String) :
    deleteRequest name =
      ⟨.delete, "/api/v1/nodes/" ++ name ++ "?", some ("application/json", .obj [])⟩ := by
  rw [← nodesPath_slash]
  rfl

/-! ## Answers -/

namespace Response

/-- The answer shows an object. -/
def Shows (a : Response) (o : Json) : Prop :=
  a.status = 200 ∧ Json.parse? a.body = some o

/-- The answer tells that there is no such object, in a status with the code of the answer. -/
def TellsMissing (a : Response) : Prop :=
  a.status = 404 ∧ ∃ told, Json.parse? a.body = some told ∧ told.field? "code" = some (.int 404)

/-- The answer tells that an object is deleted or about to be: with the object, or with a status. -/
def Acknowledges (a : Response) (o : Json) : Prop :=
  (a.status = 200 ∨ a.status = 202) ∧ ∃ told, Json.parse? a.body = some told ∧
    (told = o ∨ told.field? "kind" = some (.str "Status") ∧ Schema.status.accepts told = true)

variable {a : Response} {o : Json} {n : NodeState}

theorem Shows.success (h : a.Shows o) : a.success = .ok a.body := by
  rw [Response.success, if_neg (by rw [h.1]; decide)]

theorem Acknowledges.success (h : a.Acknowledges o) : a.success = .ok a.body := by
  have fine : ¬(400 ≤ a.status ∧ a.status < 600) := by
    rcases h.1 with code | code <;> rw [code] <;> decide
  rw [Response.success, if_neg fine]

/-- A node that is shown is read. -/
theorem Shows.readNode (h : a.Shows o) (valid : nodeState? o = some n) :
    readNode a.body = .ok n := by
  rw [Kubernetes.readNode, h.2, Option.bind_some, valid]

/-- An acknowledged deletion is read as one. -/
theorem Acknowledges.readDeletion (h : a.Acknowledges o) (valid : nodeState? o = some n) :
    readDeletion a.body = .ok () := by
  obtain ⟨-, told, parsed, kind⟩ := h
  obtain ⟨accepted, -⟩ := nodeState?_eq_some.mp valid
  rw [Kubernetes.readDeletion, parsed]
  rcases kind with rfl | ⟨status, accepted⟩
  · -- A node is no status: its kind is that of a node, if it tells it.
    obtain ⟨fields, rfl, known⟩ := Schema.record_accepts accepted
    have kind : ((Json.obj fields).field? "kind" == some (.str "Status")) = false := by
      rw [beq_eq_false_iff_ne]
      intro status
      have told := Schema.acceptsField_of_field? known status
      exact absurd told (by decide)
    simp [kind, accepted]
  · simp [status, accepted]

/-- What is told to be missing has not been found. -/
theorem TellsMissing.notFound {α : Type} (h : a.TellsMissing) (read : String → Except Failure α) :
    ∃ words, (a.success.bind read).mapError Failure.classify = .error (.notFound words) := by
  obtain ⟨status, told, parsed, code⟩ := h
  have failed : 400 ≤ a.status ∧ a.status < 600 := by rw [status]; decide
  rw [Response.success, if_pos failed, parsed, Option.bind_some]
  cases answered : errorResponse? told with
  | none => exact ⟨_, by rw [status]; rfl⟩
  | some e =>
    -- An error that is read out of the status has the code that the status tells.
    have same : e.code = 404 := by
      simp only [errorResponse?, code, Option.bind_eq_bind, Option.bind_some, Json.nat?] at answered
      split at answered
      · simp only [Option.bind_eq_some_iff, Option.pure_def, Option.some.injEq] at answered
        obtain ⟨_, -, _, -, _, -, _, -, rfl⟩ := answered
        rfl
      · cases answered
    refine ⟨e.message, ?_⟩
    simp only [Except.bind, Except.mapError, Failure.classify, same]
    rfl

end Response

/-! ## The server -/

/-- What is assumed of an API server that is reached from a world, within a limit on the
time of each exchange. -/
structure NodeServer (σ : Type) [HttpTransport σ] [Journal σ] (limit : Duration) where
  /-- The object that the server has of the node with a name. -/
  node? : σ → String → Option Json
  unlogged : ∀ e w, node? (note e w) = node? w
  read : ∀ w r name, IsSegment name → r.IsAbout name → r.method = .get →
    ∃ a w', HttpTransport.exchange (some limit) r w = (.ok a, w') ∧ node? w' = node? w ∧
      match node? w name with
      | some o => a.Shows o
      | none => a.TellsMissing
  merge : ∀ w r name body patch, IsSegment name → r.IsAbout name → r.method = .patch →
    r.content = some ("application/merge-patch+json", body) →
    Json.parse? body.compact = some patch →
    ∃ a w', HttpTransport.exchange (some limit) r w = (.ok a, w') ∧
      match node? w name with
      | some o => node? w' = Function.update (node? w) name (some (o.mergePatch patch)) ∧
          a.Shows (o.mergePatch patch)
      | none => node? w' = node? w ∧ a.TellsMissing
  remove : ∀ w r name, IsSegment name → r.IsAbout name → r.method = .delete →
    ∃ a w', HttpTransport.exchange (some limit) r w = (.ok a, w') ∧
      match node? w name with
      | some o => node? w' = Function.update (node? w) name none ∧ a.Acknowledges o
      | none => node? w' = node? w ∧ a.TellsMissing

/-- A call comes to what is read out of the answer. -/
theorem call_answered {α σ : Type} [HttpTransport σ] {limit : Duration} {r : Request} {a : Response}
    {w w' : σ} (sent : sentTarget? r.target = some r.target)
    (answered : HttpTransport.exchange (some limit) r w = (.ok a, w'))
    (read : String → Except Failure α) :
    call (some limit) r read w = ((a.success.bind read).mapError Failure.classify, w') := by
  simp only [call, sent, answered]

/-- The patches that an agent sends are read as they are. -/
theorem parse?_cordonPatch : Json.parse? cordonPatch.compact = some cordonPatch :=
  Json.parse?_compact (by simp [cordonPatch, Json.Writable, Json.FieldsWritable])

theorem parse?_labelsPatch (labels : Labels) :
    Json.parse? (labelsPatch labels).compact = some (labelsPatch labels) := by
  have texts : Json.FieldsWritable (labels.toList.map fun e => (e.1, Json.str e.2)) := by
    refine Json.fieldsWritable_iff.mpr fun f hf => ?_
    obtain ⟨e, -, rfl⟩ := List.mem_map.mp hf
    trivial
  exact Json.parse?_compact ⟨⟨texts, trivial⟩, trivial⟩

namespace NodeServer

variable {σ : Type} [HttpTransport σ] [Journal σ] {limit : Duration} (S : NodeServer σ limit)

/-- What is left of an object after a change. -/
def afterChange (o : Json) : NodeChange → Option Json
  | .cordon => some (o.mergePatch cordonPatch)
  | .label labels => some (o.mergePatch (labelsPatch labels))
  | .delete => none

variable {name : String} {w : σ} {o : Json} {n : NodeState}

/-- A node that the server has is read, which leaves the server as it is. -/
theorem getNode_found (segment : IsSegment name) (found : S.node? w name = some o)
    (valid : nodeState? o = some n) :
    ∃ w', getNode (some limit) name w = (.ok n, w') ∧ S.node? w' = S.node? w := by
  obtain ⟨a, w', answered, kept, shown⟩ :=
    S.read w ⟨.get, "/api/v1/nodes/" ++ name ++ "", none⟩ name segment
      (isAbout_node segment "" rfl .get none) rfl
  rw [found] at shown
  have called := call_answered (sentTarget?_node segment (.inl rfl)) answered readNode
  rw [shown.success, Except.bind, shown.readNode valid] at called
  refine ⟨_, by rw [getNode, getRequest_eq, called]; rfl, ?_⟩
  rw [S.unlogged, kept]

/-- A node that the server has not is not found. -/
theorem getNode_missing (segment : IsSegment name) (missing : S.node? w name = none) :
    ∃ words w', getNode (some limit) name w = (.error (.notFound words), w') ∧
      S.node? w' = S.node? w := by
  obtain ⟨a, w', answered, kept, told⟩ :=
    S.read w ⟨.get, "/api/v1/nodes/" ++ name ++ "", none⟩ name segment
      (isAbout_node segment "" rfl .get none) rfl
  rw [missing] at told
  obtain ⟨words, failed⟩ := told.notFound readNode
  have called := call_answered (sentTarget?_node segment (.inl rfl)) answered readNode
  exact ⟨words, w', by rw [getNode, getRequest_eq, called, failed], kept⟩

/-- What becomes of a change at the server: it is made, or there is no such node. -/
def Serves (name : String) (c : NodeChange) (w : σ) (a : Response) (w' : σ) : Prop :=
  match S.node? w name with
  | some o => S.node? w' = Function.update (S.node? w) name (afterChange o c) ∧
      match afterChange o c with
      | some changed => a.Shows changed
      | none => a.Acknowledges o
  | none => S.node? w' = S.node? w ∧ a.TellsMissing

/-- The request for a change is sent, and served. -/
theorem exchange_served (segment : IsSegment name) (c : NodeChange) (w : σ) :
    sentTarget? (changeRequest name c).target = some (changeRequest name c).target ∧
      ∃ a w', HttpTransport.exchange (some limit) (changeRequest name c) w = (.ok a, w') ∧
      S.Serves name c w a w' := by
  have patched {patch : Json} (read : Json.parse? patch.compact = some patch) :=
    S.merge w _ name patch patch segment
      (isAbout_node segment "?&fieldManager=gnsa" rfl .patch _) rfl rfl read
  have sent := sentTarget?_node segment (.inr (.inr rfl))
  cases c with
  | cordon =>
    rw [changeRequest, patchRequest_eq]
    exact ⟨sent, patched parse?_cordonPatch⟩
  | label labels =>
    rw [changeRequest, patchRequest_eq]
    exact ⟨sent, patched (parse?_labelsPatch labels)⟩
  | delete =>
    rw [changeRequest, deleteRequest_eq]
    exact ⟨sentTarget?_node segment (.inr (.inl rfl)),
      S.remove w _ name segment (isAbout_node segment "?" rfl .delete _) rfl⟩

/-- A change of a node leaves one that can be read, or none. -/
theorem afterChange_valid (valid : nodeState? o = some n) (c : NodeChange) {changed : Json}
    (left : afterChange o c = some changed) : (nodeState? changed).isSome := by
  cases c with
  | cordon =>
    cases left
    rw [nodeState?_cordonPatch valid]
    rfl
  | label labels =>
    cases left
    rw [nodeState?_labelsPatch valid]
    rfl
  | delete => cases left

/-- What the client reads from an answer that shows what is left of a node, or acknowledges
that nothing is. -/
theorem readChange_ok {a : Response} (valid : nodeState? o = some n) (c : NodeChange)
    (told : match afterChange o c with
      | some changed => a.Shows changed
      | none => a.Acknowledges o) :
    a.success.bind (readChange c) = .ok () := by
  cases c with
  | cordon =>
    rw [told.success, Except.bind, readChange, told.readNode (nodeState?_cordonPatch valid)]
    rfl
  | label labels =>
    rw [told.success, Except.bind, readChange, told.readNode (nodeState?_labelsPatch valid labels)]
    rfl
  | delete => rw [told.success, Except.bind, readChange, told.readDeletion valid]

/-- A change of a node that the server has is made. -/
theorem changeNode_found (segment : IsSegment name) (found : S.node? w name = some o)
    (valid : nodeState? o = some n) (c : NodeChange) :
    ∃ w', changeNode (some limit) c name w = (.ok (), w') ∧
      S.node? w' = Function.update (S.node? w) name (afterChange o c) := by
  obtain ⟨sent, a, w', answered, served⟩ := S.exchange_served segment c w
  rw [Serves, found] at served
  have called := call_answered sent answered (readChange c)
  rw [readChange_ok valid c served.2] at called
  refine ⟨_, by rw [changeNode, called]; rfl, ?_⟩
  rw [S.unlogged, served.1]

/-- A change of a node that the server has not changes nothing. -/
theorem changeNode_missing (segment : IsSegment name) (missing : S.node? w name = none)
    (c : NodeChange) :
    ∃ words w', changeNode (some limit) c name w = (.error (.notFound words), w') ∧
      S.node? w' = S.node? w := by
  obtain ⟨sent, a, w', answered, served⟩ := S.exchange_served segment c w
  rw [Serves, missing] at served
  obtain ⟨words, failed⟩ := served.2.notFound (readChange c)
  have called := call_answered sent answered (readChange c)
  exact ⟨words, w', by rw [changeNode, called, failed], served.1⟩

end NodeServer

end NodeWarden.Kubernetes
