import NodeWarden.Proofs.Kubernetes.Server

/-!
# A table of objects as a server

A server that keeps the objects of nodes in a table and writes them as JSON does what is
assumed of an API server (`TableServer.nodeServer`). What it keeps can be written, and stays
so under the patches that it reads.
-/

namespace NodeWarden.Kubernetes

/-- A server that keeps the objects of nodes in a table and writes each of them as JSON. -/
structure TableServer where
  objects : Std.ExtTreeMap String { o : Json // o.Writable }

namespace TableServer

/-- The object under a name. -/
def node? (s : TableServer) (name : String) : Option Json :=
  s.objects[name]?.map (·.1)

/-- The status that a request has no object. -/
def missing : Response :=
  ⟨404, (Json.obj [("kind", .str "Status"), ("apiVersion", .str "v1"), ("status", .str "Failure"),
    ("message", .str "nodes not found"), ("reason", .str "NotFound"), ("code", .int 404)]).compact⟩

/-- The status that an object is deleted. -/
def deleted : Response :=
  ⟨200, (Json.obj [("kind", .str "Status"), ("apiVersion", .str "v1"),
    ("status", .str "Success")]).compact⟩

def shown (o : Json) : Response := ⟨200, o.compact⟩

/-- The name of the node that a path is about. -/
def nodeName? (path : String) : Option String :=
  if "/api/v1/nodes/".toList.isPrefixOf path.toList then
    some (String.ofList (path.toList.drop "/api/v1/nodes/".toList.length))
  else none

/-- An object of a table after a merge patch that was read from a text. -/
def patched (o : { o : Json // o.Writable }) {text : String} {p : Json}
    (read : Json.parse? text = some p) :
    { o : Json // o.Writable } :=
  ⟨o.1.mergePatch p, Json.mergePatch_writable p o.1 o.2 (Json.writable_of_parse? read)⟩

/-- What the server answers to a request about an object that it has. -/
def serve (r : Request) (name : String) (o : { o : Json // o.Writable }) (s : TableServer) :
    Response × TableServer :=
  match r.method with
  | .get => (shown o.1, s)
  | .delete => (deleted, ⟨s.objects.erase name⟩)
  | .patch =>
    match r.content with
    | some (_, body) =>
      match read : Json.parse? body.compact with
      | some _ => (shown (patched o read).1, ⟨s.objects.insert name (patched o read)⟩)
      | none => (⟨400, ""⟩, s)
    | none => (⟨400, ""⟩, s)

instance : HttpTransport TableServer where
  exchange _ r s :=
    match nodeName? r.path with
    | none => (.ok missing, s)
    | some name =>
      match s.objects[name]? with
      | none => (.ok missing, s)
      | some o =>
        let (answer, s) := serve r name o s
        (.ok answer, s)

/-- The server keeps no log entries. -/
instance : Journal TableServer where
  note _ s := s

theorem shown_shows {o : Json} (h : o.Writable) : (shown o).Shows o :=
  ⟨rfl, Json.parse?_compact h⟩

theorem missing_tellsMissing : missing.TellsMissing := by
  refine ⟨rfl, _, Json.parse?_compact ?_, rfl⟩
  simp [Json.Writable, Json.FieldsWritable]

theorem deleted_acknowledges (o : Json) : deleted.Acknowledges o := by
  refine ⟨.inl rfl, _, Json.parse?_compact ?_, .inr ⟨rfl, by decide⟩⟩
  simp [Json.Writable, Json.FieldsWritable]

theorem nodeName?_of_isAbout {r : Request} {name : String} (about : r.IsAbout name) :
    nodeName? r.path = some name := by
  have begins : "/api/v1/nodes/".toList.isPrefixOf ("/api/v1/nodes/".toList ++ name.toList) =
      true :=
    List.isPrefixOf_iff_prefix.mpr (List.prefix_append _ _)
  rw [about, nodeName?, String.toList_append, if_pos begins, List.drop_left, String.ofList_toList]

theorem node?_insert (s : TableServer) (name : String) (o : { o : Json // o.Writable }) :
    node? ⟨s.objects.insert name o⟩ = Function.update s.node? name (some o.1) := by
  funext other
  rw [node?, Std.ExtTreeMap.getElem?_insert, Function.update_apply]
  by_cases same : other = name
  · simp [same]
  · have apart : compare name other ≠ .eq := fun h => same (Std.LawfulEqCmp.eq_of_compare h).symm
    rw [if_neg apart, if_neg same, node?]

theorem node?_erase (s : TableServer) (name : String) :
    node? ⟨s.objects.erase name⟩ = Function.update s.node? name none := by
  funext other
  rw [node?, Std.ExtTreeMap.getElem?_erase, Function.update_apply]
  by_cases same : other = name
  · simp [same]
  · have apart : compare name other ≠ .eq := fun h => same (Std.LawfulEqCmp.eq_of_compare h).symm
    rw [if_neg apart, if_neg same, node?]

/-- A table with one object. -/
def ofOne (name : String) (o : { o : Json // o.Writable }) : TableServer :=
  ⟨(∅ : Std.ExtTreeMap String _).insert name o⟩

theorem node?_ofOne (name : String) (o : { o : Json // o.Writable }) :
    (ofOne name o).node? = Function.update (fun _ => none) name (some o.1) :=
  node?_insert ⟨∅⟩ name o

/-- Such a server is as an API server is assumed to be. -/
def nodeServer (limit : Duration) : NodeServer TableServer limit where
  node? := node?
  unlogged _ _ := rfl
  read := by
    intro s r name _ about method
    simp only [HttpTransport.exchange, nodeName?_of_isAbout about]
    rw [node?]
    cases found : s.objects[name]? with
    | none => exact ⟨_, _, rfl, rfl, missing_tellsMissing⟩
    | some o =>
      simp only [serve, method]
      exact ⟨_, _, rfl, rfl, shown_shows o.2⟩
  merge := by
    intro s r name body patch _ about method content read
    simp only [HttpTransport.exchange, nodeName?_of_isAbout about]
    rw [node?]
    cases found : s.objects[name]? with
    | none => exact ⟨_, _, rfl, rfl, missing_tellsMissing⟩
    | some o =>
      simp only [serve, method, content]
      split
      · rename_i p parsed
        cases read.symm.trans parsed
        exact ⟨_, _, rfl, s.node?_insert name _, shown_shows (patched o parsed).2⟩
      · rename_i unparsed
        cases read.symm.trans unparsed
  remove := by
    intro s r name _ about method
    simp only [HttpTransport.exchange, nodeName?_of_isAbout about]
    rw [node?]
    cases found : s.objects[name]? with
    | none => exact ⟨_, _, rfl, rfl, missing_tellsMissing⟩
    | some o =>
      simp only [serve, method]
      exact ⟨_, _, rfl, s.node?_erase name, deleted_acknowledges o.1⟩

end TableServer

end NodeWarden.Kubernetes
