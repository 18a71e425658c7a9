import NodeWarden.Proofs.Cluster.Memory

/-!
# What becomes of a call

A call through a scope is denied, made to fail, too late, about a node that is not there, or
it is served; the first of these that applies is what becomes of it (`Course`). Whatever
does, the call is logged once, and only one that is served changes anything about the nodes
(`MemoryCluster.called`).
-/

namespace NodeWarden

/-! ## Faults in wait -/

/-- The faults that wait for calls of a kind, the oldest first. -/
def waitingFor (kind : CallKind) (faults : List (CallKind × ClusterError)) : List ClusterError :=
  (faults.filter fun f => f.1 = kind).map Prod.snd

section

variable {kind other : CallKind} {e : ClusterError} {faults others : List (CallKind × ClusterError)}

theorem waitingFor_cons (kind : CallKind) (f : CallKind × ClusterError)
    (faults : List (CallKind × ClusterError)) :
    waitingFor kind (f :: faults) = if f.1 = kind then f.2 :: waitingFor kind faults
      else waitingFor kind faults := by
  by_cases same : f.1 = kind <;> simp [waitingFor, same]

theorem waitingFor_append (kind : CallKind) (faults later : List (CallKind × ClusterError)) :
    waitingFor kind (faults ++ later) = waitingFor kind faults ++ waitingFor kind later := by
  simp [waitingFor]

theorem waitingFor_eq_nil_iff : waitingFor kind faults = [] ↔ ∀ f ∈ faults, f.1 ≠ kind := by
  simp [waitingFor]

theorem takeFault_eq_none_iff : takeFault kind faults = none ↔ ∀ f ∈ faults, f.1 ≠ kind := by
  induction faults with
  | nil => simp [takeFault]
  | cons f faults ih =>
    by_cases same : f.1 = kind
    · simp [takeFault, same]
    · simp [takeFault, same, ih]

/-- The fault that is taken out of the queue is the first of its kind, and the others stay
in their order. -/
theorem takeFault_eq_some_iff : takeFault kind faults = some (e, others) ↔
    ∃ before after, faults = before ++ (kind, e) :: after ∧ (∀ f ∈ before, f.1 ≠ kind) ∧
    others = before ++ after := by
  induction faults generalizing others with
  | nil => simp [takeFault]
  | cons f faults ih =>
    obtain ⟨k, d⟩ := f
    rw [takeFault]
    by_cases same : k = kind
    · subst same
      rw [if_pos rfl]
      constructor
      · rintro ⟨⟩
        exact ⟨[], faults, rfl, nofun, rfl⟩
      · rintro ⟨before, after, split, clear, rfl⟩
        cases before with
        | nil =>
          cases split
          rfl
        | cons first before =>
          cases split
          exact absurd rfl (clear _ List.mem_cons_self)
    · rw [if_neg same, Option.map_eq_some_iff]
      constructor
      · rintro ⟨⟨d', rest⟩, found, same'⟩
        cases same'
        obtain ⟨before, after, rfl, clear, rfl⟩ := ih.1 found
        exact ⟨(k, d) :: before, after, rfl, List.forall_mem_cons.2 ⟨same, clear⟩, rfl⟩
      · rintro ⟨before, after, split, clear, rfl⟩
        cases before with
        | nil =>
          cases split
          exact absurd rfl same
        | cons first before =>
          cases split
          exact ⟨(e, before ++ after),
            ih.2 ⟨before, after, rfl, (List.forall_mem_cons.1 clear).2, rfl⟩, rfl⟩

/-- What is taken is the oldest fault that waits for the kind, and no kind but this has one
fault less. -/
theorem waitingFor_of_takeFault (h : takeFault kind faults = some (e, others)) :
    waitingFor kind faults = e :: waitingFor kind others ∧
      ∀ other ≠ kind, waitingFor other others = waitingFor other faults := by
  obtain ⟨before, after, rfl, clear, rfl⟩ := takeFault_eq_some_iff.1 h
  have none : waitingFor kind before = [] := waitingFor_eq_nil_iff.2 clear
  refine ⟨by simp [waitingFor_append, waitingFor_cons, none], fun other ne => ?_⟩
  simp [waitingFor_append, waitingFor_cons, ne.symm]

end

/-! ## Calls of a scope -/

/-- What a scope can call for. -/
inductive ScopeCall where
  | read
  | change (c : NodeChange)

def ScopeCall.kind : ScopeCall → CallKind
  | read => .get
  | change c => c.kind

/-- The answer to a call. Only a read is answered with a node. -/
abbrev Answer := Except ClusterError (Option NodeState)

/-- A scope makes a call. -/
def NodeScope.call {σ : Type} [ClusterApi σ] (scope : NodeScope) (call : ScopeCall) (w : σ) :
    Answer × σ :=
  match call with
  | .read => ((scope.get w).1.map some, (scope.get w).2)
  | .change ch => ((scope.change ch w).1.map fun _ => none, (scope.change ch w).2)

/-- What a change makes of a node. New labels win over those of the same key, and all others
are kept. -/
inductive NodeChange.Makes : NodeChange → NodeState → Option NodeState → Prop
  | cordon (n : NodeState) : Makes .cordon n (some { n with unschedulable := true })
  | delete (n : NodeState) : Makes .delete n none
  | label {labels : Labels} {n m : NodeState} :
      m.name = n.name → m.unschedulable = n.unschedulable →
      (∀ key : String, m.labels[key]? = labels[key]?.or n.labels[key]?) →
      Makes (.label labels) n (some m)

theorem NodeChange.Makes.name_eq {ch : NodeChange} {n m : NodeState} (h : ch.Makes n (some m)) :
    m.name = n.name := by
  cases h with
  | cordon => rfl
  | label name => exact name

namespace MemoryCluster

/-- A call of a kind through a scope fails before it can have an effect, and leaves these
faults in wait. -/
inductive Hindered (scope : NodeScope) (kind : CallKind) (c : MemoryCluster) :
    ClusterError → List (CallKind × ClusterError) → Prop
  | denied : c.denied = true →
      Hindered scope kind c (.permission s!"nodes {Text.quote scope.node.name} is forbidden")
      c.faults
  /-- The oldest fault for the kind is used up; the others keep their order. -/
  | failed {before after : List (CallKind × ClusterError)} {e : ClusterError} : c.denied = false →
      c.faults = before ++ (kind, e) :: after → (∀ f ∈ before, f.1 ≠ kind) →
      Hindered scope kind c e (before ++ after)
  | late : c.denied = false → (∀ f ∈ c.faults, f.1 ≠ kind) →
      scope.limit.nanos < (Duration.ofMillis c.delay).nanos →
      Hindered scope kind c (.timeout scope.limit) c.faults

/-- Nothing is in the way of a call of a kind through a scope. -/
structure Unhindered (scope : NodeScope) (kind : CallKind) (c : MemoryCluster) : Prop where
  allowed : c.denied = false
  unfailing : ∀ f ∈ c.faults, f.1 ≠ kind
  inTime : (Duration.ofMillis c.delay).nanos ≤ scope.limit.nanos

/-- What becomes of a call that a scope makes: its answer, the faults that wait after it,
and the nodes. -/
inductive Course (scope : NodeScope) (call : ScopeCall) (c : MemoryCluster) :
    Answer → List (CallKind × ClusterError) → Std.ExtTreeMap String NodeState → Prop
  | hindered {e : ClusterError} {faults : List (CallKind × ClusterError)} :
      c.Hindered scope call.kind e faults →
      Course scope call c (.error e) faults c.nodes
  | absent : c.Unhindered scope call.kind → c.nodes[scope.node.name]? = none →
      Course scope call c (.error (.notFound scope.node.name)) c.faults c.nodes
  | shown {n : NodeState} :
      c.Unhindered scope call.kind → call = .read → c.nodes[scope.node.name]? = some n →
      c.pseudonym.getD n.name = scope.node.name →
      Course scope call c (.ok (some { n with name := scope.node.name })) c.faults c.nodes
  /-- The node is there, but is shown under another name. -/
  | foreign {n : NodeState} :
      c.Unhindered scope call.kind → call = .read → c.nodes[scope.node.name]? = some n →
      c.pseudonym.getD n.name ≠ scope.node.name →
      Course scope call c (.error (.foreignNode (c.pseudonym.getD n.name) scope.node.name))
      c.faults c.nodes
  /-- The change is made, to this node and to no other. -/
  | changed {ch : NodeChange} {n : NodeState} {nodes : Std.ExtTreeMap String NodeState} :
      c.Unhindered scope call.kind → call = .change ch → c.nodes[scope.node.name]? = some n →
      ch.Makes n nodes[scope.node.name]? →
      (∀ other ≠ scope.node.name, nodes[other]? = c.nodes[other]?) →
      Course scope call c (.ok none) c.faults nodes

/-- A call is logged, once, and takes its course; it does nothing else to a cluster. -/
structure Called (scope : NodeScope) (call : ScopeCall) (c : MemoryCluster) (answer : Answer)
    (c' : MemoryCluster) :
    Prop where
  logged : c'.calls = c.calls ++ [⟨c.clock, call.kind, scope.node.name⟩]
  course : c.Course scope call answer c'.faults c'.nodes
  denied : c'.denied = c.denied
  delay : c'.delay = c.delay
  pseudonym : c'.pseudonym = c.pseudonym

/-! ### How a call begins -/

theorem start_cases (scope : NodeScope) (kind : CallKind) (c : MemoryCluster) :
    (∃ ms e faults, c.start (some scope.limit) kind scope.node.name =
        ((ms, .error e), { c.record kind scope.node.name with faults := faults }) ∧
        c.Hindered scope kind e faults) ∨
      c.start (some scope.limit) kind scope.node.name =
        ((c.delay, .ok ()), c.record kind scope.node.name) ∧ c.Unhindered scope kind := by
  cases denied : c.denied with
  | true => exact .inl ⟨0, _, c.faults, by simp [start, record, denied], .denied denied⟩
  | false =>
    cases taken : takeFault kind c.faults with
    | some fault =>
      obtain ⟨e, others⟩ := fault
      obtain ⟨before, after, split, clear, rfl⟩ := takeFault_eq_some_iff.1 taken
      exact .inl ⟨0, e, before ++ after, by simp [start, record, denied, taken],
        .failed denied split clear⟩
    | none =>
      have unfailing := takeFault_eq_none_iff.1 taken
      by_cases late : scope.limit.nanos < (Duration.ofMillis c.delay).nanos
      · exact .inl ⟨ceilMillis scope.limit, _, c.faults,
          by simp [start, record, denied, taken, latency, late], .late denied unfailing late⟩
      · have inTime := Nat.not_lt.1 late
        exact .inr ⟨start_of_free taken denied inTime, denied, unfailing, inTime⟩

section
variable {scope : NodeScope} {call : ScopeCall} {c d : MemoryCluster} {ms : Nat}

/-- A call that fails at its beginning comes to no more than that. -/
theorem call_of_start_error {e : ClusterError}
    (start : c.start (some scope.limit) call.kind scope.node.name = ((ms, .error e), d)) :
    scope.call call c = (.error e, d.pass ms) := by
  cases call with
  | read =>
    simp only [ScopeCall.kind] at start
    simp only [NodeScope.call, NodeScope.get, ClusterApi.getNode, get, start]
    rfl
  | change ch =>
    simp only [ScopeCall.kind] at start
    simp only [NodeScope.call, NodeScope.change, ClusterApi.changeNode, change, start]
    rfl

/-- Nor does one about a node that is not there. -/
theorem call_of_absent
    (start : c.start (some scope.limit) call.kind scope.node.name = ((ms, .ok ()), d))
    (gone : d.nodes[scope.node.name]? = none) :
    scope.call call c = (.error (.notFound scope.node.name), d.pass ms) := by
  cases call with
  | read =>
    have lookup : (d.pass ms).lookup scope.node.name = .error (.notFound scope.node.name) := by
      simp [MemoryCluster.lookup, gone]
    simp only [ScopeCall.kind] at start
    simp only [NodeScope.call, NodeScope.get, ClusterApi.getNode, get, start, lookup]
    rfl
  | change ch =>
    have effect : (d.pass ms).effect ch scope.node.name =
        (.error (.notFound scope.node.name), d.pass ms) := by
      simp [MemoryCluster.effect, gone]
    simp only [ScopeCall.kind] at start
    simp only [NodeScope.call, NodeScope.change, ClusterApi.changeNode, change, start, effect]
    rfl

/-- What a read of a node that is there shows. -/
theorem lookup_of_found {name : String} {n : NodeState} (there : d.nodes[name]? = some n) :
    (d.pass ms).lookup name = .ok { n with name := d.pseudonym.getD n.name } := by
  simp [MemoryCluster.lookup, pass, there]

/-- A read of a node that is there answers with it. -/
theorem call_shown {n : NodeState}
    (start : c.start (some scope.limit) .get scope.node.name = ((ms, .ok ()), d))
    (there : d.nodes[scope.node.name]? = some n) (own : d.pseudonym.getD n.name = scope.node.name) :
    scope.call .read c = (.ok (some { n with name := scope.node.name }), d.pass ms) := by
  simp only [NodeScope.call, NodeScope.get, ClusterApi.getNode, get, start,
    lookup_of_found there, own]
  rfl

/-- If the node is shown under another name, the read fails. -/
theorem call_foreign {n : NodeState}
    (start : c.start (some scope.limit) .get scope.node.name = ((ms, .ok ()), d))
    (there : d.nodes[scope.node.name]? = some n)
    (other : d.pseudonym.getD n.name ≠ scope.node.name) :
    scope.call .read c =
      (.error (.foreignNode (d.pseudonym.getD n.name) scope.node.name), d.pass ms) := by
  simp only [NodeScope.call, NodeScope.get, ClusterApi.getNode, get, start,
    lookup_of_found there, if_neg other]
  rfl

/-- A change of a node that is there is made. -/
theorem call_change {ch : NodeChange} {n : NodeState}
    (start : c.start (some scope.limit) ch.kind scope.node.name = ((ms, .ok ()), d))
    (there : d.nodes[scope.node.name]? = some n) :
    scope.call (.change ch) c =
      (.ok none, { d.pass ms with nodes := changed ch scope.node.name n d.nodes }) := by
  have effect : (d.pass ms).effect ch scope.node.name =
      (.ok (), { d.pass ms with nodes := changed ch scope.node.name n d.nodes }) := by
    simp [MemoryCluster.effect, pass, there]
  simp only [NodeScope.call, NodeScope.change, ClusterApi.changeNode, change, start, effect]
  rfl

end

/-! ### What it comes to -/

theorem makes_changed (ch : NodeChange) (name : String) (n : NodeState)
    (nodes : Std.ExtTreeMap String NodeState) :
    ch.Makes n (changed ch name n nodes)[name]? := by
  cases ch with
  | cordon =>
    simp only [changed, Std.ExtTreeMap.getElem?_insert_self]
    exact .cordon n
  | delete =>
    simp only [changed, Std.ExtTreeMap.getElem?_erase_self]
    exact .delete n
  | label labels =>
    simp only [changed, Std.ExtTreeMap.getElem?_insert_self]
    exact .label rfl rfl fun key => Std.ExtTreeMap.getElem?_union

theorem called (scope : NodeScope) (call : ScopeCall) (c : MemoryCluster) :
    c.Called scope call (scope.call call c).1 (scope.call call c).2 := by
  rcases start_cases scope call.kind c with ⟨ms, e, faults, start, hindered⟩ | ⟨start, free⟩
  · rw [call_of_start_error start]
    exact ⟨rfl, .hindered hindered, rfl, rfl, rfl⟩
  cases found : c.nodes[scope.node.name]? with
  | none =>
    rw [call_of_absent start found]
    exact ⟨rfl, .absent free found, rfl, rfl, rfl⟩
  | some n =>
    cases call with
    | read =>
      by_cases own : c.pseudonym.getD n.name = scope.node.name
      · rw [call_shown start found own]
        exact ⟨rfl, .shown free rfl found own, rfl, rfl, rfl⟩
      · rw [call_foreign start found own]
        exact ⟨rfl, .foreign free rfl found own, rfl, rfl, rfl⟩
    | change ch =>
      rw [call_change start found]
      exact ⟨rfl, .changed free rfl found (makes_changed ch _ n _)
        fun other ne => getElem?_changed_of_ne ne ch n _, rfl, rfl, rfl⟩

end MemoryCluster

end NodeWarden
