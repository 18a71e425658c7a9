import NodeWarden.Cluster.Memory

/-!
# What calls do to a cluster in memory

A call is logged, once and whatever becomes of it. A read changes no node, nor does a change that
fails; a change that succeeds changes the node that it names, which exists.
-/

namespace NodeWarden.MemoryCluster

/-- Beginning a call does no more than to log it, and to use up a fault. -/
theorem start_nodes (c : MemoryCluster) (limit : Option Duration) (kind : CallKind)
    (name : String) :
    (c.start limit kind name).2.nodes = c.nodes := by
  unfold start
  dsimp only
  split
  · rfl
  · split <;> rfl

theorem start_calls (c : MemoryCluster) (limit : Option Duration) (kind : CallKind)
    (name : String) :
    (c.start limit kind name).2.calls = c.calls ++ [⟨c.clock, kind, name⟩] := by
  unfold start
  dsimp only
  split
  · rfl
  · split <;> rfl

variable {c c' : MemoryCluster} {limit : Option Duration} {kind : CallKind} {name : String}

/-- A call that nothing is in the way of takes its time, and is logged. -/
theorem start_ok {ms : Nat} (h : c.start limit kind name = ((ms, .ok ()), c')) :
    ms = c.delay ∧ c' = c.record kind name := by
  unfold start at h
  dsimp only at h
  split at h
  · cases h
  split at h
  · cases h
  · unfold latency at h
    split at h
    · split at h
      · cases h
      · cases h
        exact ⟨rfl, rfl⟩
    · cases h
      exact ⟨rfl, rfl⟩

/-- Nothing is in the way of a call if it is not denied, made to fail or slower than its limit. -/
theorem start_of_free {d : Duration} (unfailing : takeFault kind c.faults = none)
    (allowed : c.denied = false) (prompt : (Duration.ofMillis c.delay).nanos ≤ d.nanos) :
    c.start (some d) kind name = ((c.delay, .ok ()), c.record kind name) := by
  have inTime : ¬ d.nanos < (Duration.ofMillis c.delay).nanos := Nat.not_lt.2 prompt
  simp [start, latency, record, unfailing, allowed, inTime]

@[simp] theorem pass_nodes (ms : Nat) : (c.pass ms).nodes = c.nodes := rfl

/-! ## Reads -/

/-- A read is logged, changes no node, and answers with what it finds or with an error. -/
theorem get_cases {answer : Except ClusterError NodeState} (h : c.get limit name = (answer, c')) :
    c'.nodes = c.nodes ∧ c'.calls = c.calls ++ [⟨c.clock, .get, name⟩] ∧
      (answer = c'.lookup name ∨ ∃ e, answer = .error e) := by
  have nodes := c.start_nodes limit .get name
  have calls := c.start_calls limit .get name
  unfold get at h
  rcases begun : c.start limit .get name with ⟨⟨ms, e | _⟩, d⟩
  · rw [begun] at h nodes calls
    cases h
    exact ⟨nodes, calls, .inr ⟨e, rfl⟩⟩
  · rw [begun] at h nodes calls
    cases h
    exact ⟨nodes, calls, .inl rfl⟩

/-- A read shows the node as it is, but perhaps under another name. -/
theorem get_ok {n : NodeState} (h : c.get limit name = (.ok n, c')) :
    ∃ m, c.nodes[name]? = some m ∧ n = { m with name := n.name } := by
  obtain ⟨nodes, -, found | ⟨_, error⟩⟩ := get_cases h
  · unfold lookup at found
    rw [nodes] at found
    split at found
    · rename_i m there
      cases found
      exact ⟨m, there, rfl⟩
    · cases found
  · cases error

/-! ## Changes -/

/-- A change is logged, and has its effect or fails. -/
theorem change_cases {ch : NodeChange} {answer : Except ClusterError Unit}
    (h : c.change limit ch name = (answer, c')) :
    ∃ d : MemoryCluster, d.nodes = c.nodes ∧ d.calls = c.calls ++ [⟨c.clock, ch.kind, name⟩] ∧
      (d.effect ch name = (answer, c') ∨ c' = d ∧ ∃ e, answer = .error e) := by
  have nodes := c.start_nodes limit ch.kind name
  have calls := c.start_calls limit ch.kind name
  unfold change at h
  rcases begun : c.start limit ch.kind name with ⟨⟨ms, e | _⟩, d⟩
  · rw [begun] at h nodes calls
    cases h
    exact ⟨d.pass ms, nodes, calls, .inr ⟨rfl, e, rfl⟩⟩
  · rw [begun] at h nodes calls
    exact ⟨d.pass ms, nodes, calls, .inl h⟩

theorem change_calls {ch : NodeChange} {answer : Except ClusterError Unit}
    (h : c.change limit ch name = (answer, c')) :
    c'.calls = c.calls ++ [⟨c.clock, ch.kind, name⟩] := by
  obtain ⟨d, -, calls, effect | ⟨rfl, -⟩⟩ := change_cases h
  · unfold MemoryCluster.effect at effect
    split at effect <;> cases effect <;> exact calls
  · exact calls

/-- A change that fails changes no node. -/
theorem change_error {ch : NodeChange} {e : ClusterError}
    (h : c.change limit ch name = (.error e, c')) : c'.nodes = c.nodes := by
  obtain ⟨d, nodes, -, effect | ⟨rfl, -⟩⟩ := change_cases h
  · unfold MemoryCluster.effect at effect
    split at effect
    · cases effect
    · cases effect
      exact nodes
  · exact nodes

/-- A change that succeeds changes the node that it names. -/
theorem change_ok {ch : NodeChange} (h : c.change limit ch name = (.ok (), c')) :
    ∃ m, c.nodes[name]? = some m ∧ c'.nodes = changed ch name m c.nodes := by
  obtain ⟨d, nodes, -, effect | ⟨-, _, error⟩⟩ := change_cases h
  · unfold MemoryCluster.effect at effect
    rw [nodes] at effect
    split at effect
    · rename_i m found
      cases effect
      exact ⟨m, found, rfl⟩
    · cases effect
  · cases error

/-- A change leaves every other node what it was. -/
theorem getElem?_changed_of_ne {name other : String} (h : other ≠ name) (ch : NodeChange)
    (n : NodeState) (nodes : Std.ExtTreeMap String NodeState) :
    (changed ch name n nodes)[other]? = nodes[other]? := by
  have apart : compare name other ≠ .eq := by
    intro same
    exact h (Std.LawfulEqCmp.eq_of_compare same).symm
  cases ch with
  | cordon => simp [changed, Std.ExtTreeMap.getElem?_insert, apart]
  | delete => simp [changed, Std.ExtTreeMap.getElem?_erase, apart]
  | label => simp [changed, Std.ExtTreeMap.getElem?_insert, apart]

/-! ## Schedulable nodes -/

/-- No node under the name is unschedulable: there is none, or it is schedulable. -/
def Schedulable (name : String) (c : MemoryCluster) : Prop :=
  ∀ n, c.nodes[name]? = some n → n.unschedulable = false

theorem Schedulable.of_nodes (h : c.Schedulable name) (same : c'.nodes = c.nodes) :
    c'.Schedulable name := by
  intro n found
  rw [same] at found
  exact h n found

/-- What a read finds schedulable is so. -/
theorem Schedulable.of_get_ok {n : NodeState} (got : c.get limit name = (.ok n, c'))
    (fresh : n.unschedulable = false) : c.Schedulable name := by
  obtain ⟨m, found, eq⟩ := MemoryCluster.get_ok got
  intro n' found'
  cases found.symm.trans found'
  rw [eq] at fresh
  exact fresh

/-- A read finds such a node schedulable. -/
theorem Schedulable.get_ok {n : NodeState} (h : c.Schedulable name)
    (got : c.get limit name = (.ok n, c')) : n.unschedulable = false := by
  obtain ⟨m, found, eq⟩ := MemoryCluster.get_ok got
  rw [eq]
  exact h m found

/-- Only a cordon makes a node unschedulable. -/
theorem Schedulable.change (h : c.Schedulable name) {ch : NodeChange}
    {answer : Except ClusterError Unit} (made : c.change limit ch name = (answer, c')) :
    (ch = .cordon ∧ answer = .ok ()) ∨ c'.Schedulable name := by
  cases answer with
  | error => exact .inr (h.of_nodes (change_error made))
  | ok =>
    obtain ⟨m, found, nodes⟩ := change_ok made
    cases ch with
    | cordon => exact .inl ⟨rfl, rfl⟩
    | delete =>
      refine .inr fun n hn => ?_
      simp [nodes, changed] at hn
    | label labels =>
      refine .inr fun n hn => ?_
      simp only [nodes, changed, Std.ExtTreeMap.getElem?_insert_self, Option.some.injEq] at hn
      rw [← hn]
      exact h m found

/-- Nothing that happens to a cluster makes a node unschedulable. -/
theorem Schedulable.happen (h : c.Schedulable name) (e : ClusterEvent) :
    (c.happen e).Schedulable name := by
  intro n found
  cases e with
  | failNext | denyAll | setDelay | renameReads => exact h n found
  | register other =>
    simp only [MemoryCluster.happen, Std.ExtTreeMap.getElem?_insert] at found
    split at found
    · cases found
      rfl
    · exact h n found
  | uncordon other =>
    simp only [MemoryCluster.happen] at found
    split at found
    · simp only [Std.ExtTreeMap.getElem?_insert] at found
      split at found
      · cases found
        rfl
      · exact h n found
    · exact h n found

end NodeWarden.MemoryCluster
