import NodeWarden.Proofs.Executor.Application

/-!
# Willing and steady clusters

A cluster is willing if nothing is in the way of a scope's calls: none is denied, made to
fail or slower than its limit. It serves the scope: a call succeeds exactly if the node is
there (`Willing.served`), and a read shows the node, though perhaps under another name
(`shown`). A steady cluster answers reads under the node's own name, too. It stays so
whatever the scope calls for, and whatever happens to it that leaves the scope undisturbed
(`Steady.happen`).
-/

namespace NodeWarden

/-- What a change makes of a node. -/
def NodeChange.made (c : NodeChange) (n : NodeState) : Option NodeState :=
  match c with
  | .cordon => some n.cordon
  | .delete => none
  | .label labels => some (n.addLabels labels)

/-- No change renames a node. -/
theorem NodeChange.name_of_made {c : NodeChange} {n m : NodeState} (h : c.made n = some m) :
    m.name = n.name := by
  cases c <;> cases h <;> rfl

/-- Calls that are served: what the node is before them and after them. -/
inductive Exchange.Served : List Exchange → Option NodeState → Option NodeState → Prop where
  | nil (n : Option NodeState) : Served [] n n
  | found {name : String} {n : NodeState} {xs : List Exchange} {n' : Option NodeState} :
      Served xs (some n) n' → Served (.read name (.ok n) :: xs) (some n) n'
  | missed {name : String} (detail : String) {xs : List Exchange} {n' : Option NodeState} :
      Served xs none n' → Served (.read name (.error (.notFound detail)) :: xs) none n'
  | made {name : String} {ch : NodeChange} {n : NodeState} {xs : List Exchange}
      {n' : Option NodeState} :
      Served xs (ch.made n) n' → Served (.change ch name (.ok ()) :: xs) (some n) n'
  | refused {name : String} {ch : NodeChange} (detail : String) {xs : List Exchange}
      {n' : Option NodeState} :
      Served xs none n' → Served (.change ch name (.error (.notFound detail)) :: xs) none n'

theorem Exchange.Served.append {xs ys : List Exchange} {n n'' : Option NodeState}
    (h : Served (xs ++ ys) n n'') :
    ∃ n', Served xs n n' ∧ Served ys n' n'' := by
  induction xs generalizing n with
  | nil => exact ⟨n, .nil n, h⟩
  | cons e xs ih =>
    cases h with
    | found rest =>
      obtain ⟨n', first, last⟩ := ih rest
      exact ⟨n', .found first, last⟩
    | missed detail rest =>
      obtain ⟨n', first, last⟩ := ih rest
      exact ⟨n', .missed detail first, last⟩
    | made rest =>
      obtain ⟨n', first, last⟩ := ih rest
      exact ⟨n', .made first, last⟩
    | refused detail rest =>
      obtain ⟨n', first, last⟩ := ih rest
      exact ⟨n', .refused detail first, last⟩

namespace MemoryCluster

/-- What a read of a node shows if nothing is in its way. -/
def shown (name : String) (c : MemoryCluster) : Option NodeState :=
  c.nodes[name]?.map fun n => { n with name := c.pseudonym.getD n.name }

/-- Nothing is in the way of a scope's calls. -/
structure Willing (scope : NodeScope) (c : MemoryCluster) : Prop where
  faults : c.faults = []
  denied : c.denied = false
  delay : (Duration.ofMillis c.delay).nanos ≤ scope.limit.nanos

namespace Willing

variable {scope : NodeScope} {c c' : MemoryCluster} {xs : List Exchange}

/-- Nothing is wrong with a call when it begins. -/
theorem start (h : c.Willing scope) (kind : CallKind) :
    c.start (some scope.limit) kind scope.node.name =
      ((c.delay, .ok ()), c.record kind scope.node.name) :=
  start_of_free (by rw [h.faults]; rfl) h.denied h.delay

/-- A read shows the node if it is there. -/
theorem get {answer : Except ClusterError NodeState} (h : c.Willing scope)
    (got : c.get (some scope.limit) scope.node.name = (answer, c')) :
    c'.Willing scope ∧ c'.nodes = c.nodes ∧ c'.pseudonym = c.pseudonym ∧
      ((∃ n, c.shown scope.node.name = some n ∧ answer = .ok n) ∨
        c.shown scope.node.name = none ∧ answer = .error (.notFound scope.node.name)) := by
  rw [MemoryCluster.get, h.start] at got
  cases got
  refine ⟨⟨h.faults, h.denied, h.delay⟩, rfl, rfl, ?_⟩
  show (∃ n, _ ∧ lookup _ _ = _) ∨ _ ∧ lookup _ _ = _
  cases found : c.nodes[scope.node.name]? with
  | none => simp [lookup, pass, record, shown, found]
  | some n => simp [lookup, pass, record, shown, found]

/-- A change has its effect if the node is there. -/
theorem change {ch : NodeChange} {answer : Except ClusterError Unit} (h : c.Willing scope)
    (made : c.change (some scope.limit) ch scope.node.name = (answer, c')) :
    c'.Willing scope ∧ c'.pseudonym = c.pseudonym ∧
      ((∃ n, c.nodes[scope.node.name]? = some n ∧ answer = .ok () ∧
          c'.nodes[scope.node.name]? = ch.made n) ∨
        c.nodes[scope.node.name]? = none ∧ answer = .error (.notFound scope.node.name) ∧
          c'.nodes[scope.node.name]? = none) := by
  rw [MemoryCluster.change, h.start] at made
  simp only [effect, pass, record] at made
  cases found : c.nodes[scope.node.name]? with
  | none =>
    rw [found] at made
    cases made
    exact ⟨⟨h.faults, h.denied, h.delay⟩, rfl, .inr ⟨rfl, rfl, found⟩⟩
  | some n =>
    rw [found] at made
    cases made
    have after : (changed ch scope.node.name n c.nodes)[scope.node.name]? = ch.made n := by
      cases ch <;> simp [changed, NodeChange.made]
    exact ⟨⟨h.faults, h.denied, h.delay⟩, rfl, .inl ⟨n, rfl, rfl, after⟩⟩

/-- A willing cluster serves the scope, and stays willing. -/
theorem served (h : c.Willing scope) (answered : c.Answered scope xs c') :
    c'.Willing scope ∧ Exchange.Served xs (c.shown scope.node.name) (c'.shown scope.node.name) := by
  induction answered with
  | nil => exact ⟨h, .nil _⟩
  | @read c₀ c₁ _ _ _ got _ ih =>
    obtain ⟨willing, nodes, pseudonym, answer⟩ := h.get got
    obtain ⟨willing', rest⟩ := ih willing
    have same : c₁.shown scope.node.name = c₀.shown scope.node.name := by
      rw [shown, shown, nodes, pseudonym]
    rw [same] at rest
    rcases answer with ⟨n, there, rfl⟩ | ⟨absent, rfl⟩
    · rw [there] at rest ⊢
      exact ⟨willing', .found rest⟩
    · rw [absent] at rest ⊢
      exact ⟨willing', .missed _ rest⟩
  | @change c₀ c₁ _ ch _ _ made _ ih =>
    obtain ⟨willing, pseudonym, ⟨n, there, rfl, after⟩ | ⟨absent, rfl, after⟩⟩ := h.change made
    · obtain ⟨willing', rest⟩ := ih willing
      have wasShown :
          c₀.shown scope.node.name = some { n with name := c₀.pseudonym.getD n.name } := by
        rw [shown, there, Option.map_some]
      have isShown :
          c₁.shown scope.node.name = ch.made { n with name := c₀.pseudonym.getD n.name } := by
        rw [shown, after, pseudonym]
        cases ch <;> rfl
      rw [isShown] at rest
      rw [wasShown]
      exact ⟨willing', .made rest⟩
    · obtain ⟨willing', rest⟩ := ih willing
      rw [shown, after, Option.map_none] at rest
      rw [shown, absent, Option.map_none]
      exact ⟨willing', .refused _ rest⟩

end Willing

/-- A willing cluster that has the scope's node, and shows it under its own name. -/
structure Healthy (scope : NodeScope) (c : MemoryCluster) : Prop where
  willing : c.Willing scope
  found : ∃ n, c.lookup scope.node.name = .ok n ∧ n.name = scope.node.name

theorem Healthy.shown {scope : NodeScope} {c : MemoryCluster} (h : c.Healthy scope) :
    ∃ n, c.shown scope.node.name = some n ∧ n.name = scope.node.name := by
  obtain ⟨n, found, own⟩ := h.found
  unfold lookup at found
  split at found
  · rename_i m there
    cases found
    exact ⟨_, by rw [MemoryCluster.shown, there, Option.map_some], own⟩
  · cases found

/-- Nothing disturbs the calls of a scope. -/
structure Steady (scope : NodeScope) (c : MemoryCluster) : Prop where
  faults : c.faults = []
  denied : c.denied = false
  delay : (Duration.ofMillis c.delay).nanos ≤ scope.limit.nanos
  pseudonym : c.pseudonym = none
  name : ∀ n, c.nodes[scope.node.name]? = some n → n.name = scope.node.name

/-- An event that leaves the calls of a scope and its node undisturbed. The node may
register while it is absent. -/
def Undisturbing (scope : NodeScope) (c : MemoryCluster) : ClusterEvent → Prop
  | .failNext _ _ => False
  | .denyAll => False
  | .setDelay ms => (Duration.ofMillis ms).nanos ≤ scope.limit.nanos
  | .register name => name = scope.node.name → c.nodes[name]? = none
  | .uncordon name => name ≠ scope.node.name
  | .renameReads pseudonym => pseudonym = none

instance (scope : NodeScope) (c : MemoryCluster) :
    (e : ClusterEvent) → Decidable (c.Undisturbing scope e)
  | .failNext _ _ | .denyAll => .isFalse nofun
  | .setDelay ms => inferInstanceAs (Decidable ((Duration.ofMillis ms).nanos ≤ scope.limit.nanos))
  | .register name => inferInstanceAs (Decidable (name = scope.node.name → c.nodes[name]? = none))
  | .uncordon name => inferInstanceAs (Decidable (name ≠ scope.node.name))
  | .renameReads pseudonym => inferInstanceAs (Decidable (pseudonym = none))

namespace Steady

variable {scope : NodeScope} {c c' : MemoryCluster} {xs : List Exchange}

theorem willing (h : c.Steady scope) : c.Willing scope := ⟨h.faults, h.denied, h.delay⟩

/-- A new cluster of no other node is steady. -/
theorem new (scope : NodeScope) : (withNodes [scope.node.name]).Steady scope where
  faults := rfl
  denied := rfl
  delay := by simp [withNodes, Duration.ofMillis]
  pseudonym := rfl
  name n found := by
    have registered : NodeState.registered scope.node.name = n := by
      simpa [withNodes] using found
    rw [← registered]
    rfl

/-- A read shows the node as it is. -/
theorem shown_eq (h : c.Steady scope) : c.shown scope.node.name = c.nodes[scope.node.name]? := by
  simp [shown, h.pseudonym]

/-- A call leaves a steady cluster steady. -/
theorem of_call (h : c.Steady scope) (willing : c'.Willing scope)
    (pseudonym : c'.pseudonym = c.pseudonym)
    (name : ∀ m, c'.nodes[scope.node.name]? = some m → m.name = scope.node.name) :
    c'.Steady scope :=
  ⟨willing.faults, willing.denied, willing.delay, pseudonym.trans h.pseudonym, name⟩

theorem get {answer : Except ClusterError NodeState} (h : c.Steady scope)
    (got : c.get (some scope.limit) scope.node.name = (answer, c')) : c'.Steady scope := by
  obtain ⟨willing, nodes, pseudonym, -⟩ := h.willing.get got
  exact h.of_call willing pseudonym fun m found => h.name m (nodes ▸ found)

theorem change {ch : NodeChange} {answer : Except ClusterError Unit} (h : c.Steady scope)
    (made : c.change (some scope.limit) ch scope.node.name = (answer, c')) : c'.Steady scope := by
  obtain ⟨willing, pseudonym, ⟨n, there, -, after⟩ | ⟨-, -, after⟩⟩ := h.willing.change made
  · refine h.of_call willing pseudonym fun m found => ?_
    rw [NodeChange.name_of_made (after.symm.trans found), h.name n there]
  · refine h.of_call willing pseudonym fun m found => ?_
    cases after.symm.trans found

/-- A steady cluster serves the scope, and stays steady. -/
theorem served (h : c.Steady scope) (answered : c.Answered scope xs c') :
    c'.Steady scope ∧ Exchange.Served xs c.nodes[scope.node.name]? c'.nodes[scope.node.name]? := by
  have steady : c'.Steady scope := by
    induction answered with
    | nil => exact h
    | read got _ ih => exact ih (h.get got)
    | change made _ ih => exact ih (h.change made)
  rw [← h.shown_eq, ← steady.shown_eq]
  exact ⟨steady, (h.willing.served answered).2⟩

theorem pass (h : c.Steady scope) (ms : Nat) : (c.pass ms).Steady scope :=
  ⟨h.faults, h.denied, h.delay, h.pseudonym, h.name⟩

/-- What leaves the scope undisturbed leaves its node alone, or registers it where it is absent. -/
theorem happen {e : ClusterEvent} (h : c.Steady scope) (undisturbing : c.Undisturbing scope e) :
    (c.happen e).Steady scope ∧
      ((c.happen e).nodes[scope.node.name]? = c.nodes[scope.node.name]? ∨
        c.nodes[scope.node.name]? = none) := by
  cases e with
  | failNext => exact undisturbing.elim
  | denyAll => exact undisturbing.elim
  | setDelay ms => exact ⟨⟨h.faults, h.denied, undisturbing, h.pseudonym, h.name⟩, .inl rfl⟩
  | renameReads pseudonym =>
    cases undisturbing
    exact ⟨⟨h.faults, h.denied, h.delay, rfl, h.name⟩, .inl rfl⟩
  | register name =>
    by_cases own : name = scope.node.name
    · subst own
      refine ⟨⟨h.faults, h.denied, h.delay, h.pseudonym, fun n found => ?_⟩,
        .inr (undisturbing rfl)⟩
      simp only [MemoryCluster.happen, Std.ExtTreeMap.getElem?_insert_self] at found
      cases found
      rfl
    · have same : (c.happen (.register name)).nodes[scope.node.name]? =
          c.nodes[scope.node.name]? := by
        simp [MemoryCluster.happen, Std.ExtTreeMap.getElem?_insert, own]
      refine ⟨⟨h.faults, h.denied, h.delay, h.pseudonym, fun n found => ?_⟩, .inl same⟩
      exact h.name n (same ▸ found)
  | uncordon name =>
    have other : name ≠ scope.node.name := undisturbing
    simp only [MemoryCluster.happen]
    split
    · rename_i n _
      have same : (c.nodes.insert name n.uncordon)[scope.node.name]? =
          c.nodes[scope.node.name]? := by
        simp [Std.ExtTreeMap.getElem?_insert, other]
      refine ⟨⟨h.faults, h.denied, h.delay, h.pseudonym, fun m found => ?_⟩, .inl same⟩
      exact h.name m (same ▸ found)
    · exact ⟨h, .inl rfl⟩

end Steady

end MemoryCluster

end NodeWarden
