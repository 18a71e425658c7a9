import NodeWarden.Proofs.Cluster.Delayed
import NodeWarden.Proofs.Executor.Away
import NodeWarden.Proofs.Executor.Outcome
import NodeWarden.Proofs.Executor.Shift

/-!
# Returned nodes

An executor that has deleted its node, and finds it registered again, goes on with it like a
new executor (`returned_node_managed`). What it still remembers is its count of ticks, which
does not matter (`apply_shift`); and the read by which it found the node is one call more
than a new executor would have made, which does not matter to the cluster but for the time
(`Delayed`). So the two runs go on in step (`inStep_of_delayed`).
-/

namespace NodeWarden

namespace MemoryCluster.Delayed

variable {past : List CallRecord} {extra : CallRecord} {ms : Nat}

/-- A scope cannot tell a cluster from one with a call more. -/
theorem unnoticed (scope : NodeScope) :
    scope.BlindTo fun (d c : MemoryCluster) => d.Delayed past extra ms c where
  getNode h := h.get (some scope.limit) scope.node.name
  change ch h := h.change (some scope.limit) ch scope.node.name
  note _ h := h

end MemoryCluster.Delayed

/-- What is seen of an application: its result and its calls. -/
def Application.seen (a : Application) : Except ClusterError ExecutionOutcome × List Exchange :=
  (a.result, a.exchanges)

namespace Executor

variable {x : Executor} {v : Verdict} {s : ExecutorState} {c c' d : MemoryCluster} {n : NodeState}
  {k : Nat} {past : List CallRecord} {extra : CallRecord} {ms : Nat} {steps : List ExecutorStep}

/-! ## Runs in step -/

/-- A verdict comes to the same for an executor that has counted more ticks, in a cluster
with a call more. -/
theorem apply_of_delayed (h : d.Delayed past extra ms c) (v : Verdict) (s : ExecutorState)
    (k : Nat) :
    (x.apply v (s.shift k) d).2.1 = (x.apply v s c).2.1.shift k ∧
      (x.apply v (s.shift k) d).2.2.Delayed past extra ms (x.apply v s c).2.2 := by
  obtain ⟨-, state, clusters⟩ :=
    apply_agrees (MemoryCluster.Delayed.unnoticed x.scope).respects h v s
  rw [apply_shift]
  exact ⟨congrArg (ExecutorState.shift k) state, clusters⟩

/-- The result is the same, and so are the calls, after those that were made before. -/
theorem seen_of_delayed (h : d.Delayed past extra ms c) (v : Verdict) (s : ExecutorState) (k : Nat)
    (earlier : List Exchange) :
    (x.apply v (s.shift k) (⟨d, earlier⟩ : Observed MemoryCluster)).1 =
      (x.application v s c).result ∧
      (x.apply v (s.shift k) (⟨d, earlier⟩ : Observed MemoryCluster)).2.2.exchanges =
        earlier ++ (x.application v s c).exchanges := by
  have alike : d.Delayed past extra ms (Observed.fresh c).world ∧
      earlier = earlier ++ (Observed.fresh c).exchanges := ⟨h, by simp⟩
  obtain ⟨result, -, -, exchanges⟩ := apply_agrees
    (w := (⟨d, earlier⟩ : Observed MemoryCluster))
      ((MemoryCluster.Delayed.unnoticed x.scope).observed earlier) alike
    v s
  rw [apply_shift]
  exact ⟨result, exchanges⟩

/-- So two such runs go on in step, whatever happens to both clusters. -/
theorem inStep_of_delayed (h : d.Delayed past extra ms c) (s : ExecutorState) (k : Nat)
    (steps : List ExecutorStep) :
    (History.records x.advance (s.shift k, d) steps).map Application.seen =
        (History.records x.advance (s, c) steps).map Application.seen ∧
      (History.final x.advance (s.shift k, d) steps).1 =
      (History.final x.advance (s, c) steps).1.shift k ∧
      (History.final x.advance (s.shift k, d) steps).2.Delayed past extra ms
        (History.final x.advance (s, c) steps).2 := by
  induction steps generalizing s c d with
  | nil => exact ⟨rfl, rfl, h⟩
  | cons step rest ih =>
    cases step with
    | event e => exact ih (h.happen e) s
    | wait t => exact ih (h.pass t) s
    | apply v =>
      obtain ⟨state, clusters⟩ := apply_of_delayed (x := x) h v s k
      obtain ⟨result, exchanges⟩ := seen_of_delayed (x := x) h v s k []
      have seen : (x.application v (s.shift k) d).seen = (x.application v s c).seen :=
        Prod.ext result exchanges
      have next : (x.advance (s.shift k, d) (.apply v)).1 =
          ((x.apply v s c).2.1.shift k, (x.apply v (s.shift k) d).2.2) := Prod.ext state rfl
      obtain ⟨later, ends⟩ := ih clusters (x.apply v s c).2.1
      rw [History.records_cons_of_some rfl, History.records_cons_of_some rfl,
        List.map_cons, List.map_cons, History.final, History.final, next]
      exact ⟨congrArg₂ List.cons seen later, ends⟩

/-! ## The first verdict on a returned node -/

/-- An executor that nothing keeps from acting, and that finds its node again, forgets what
it knew of it. -/
theorem resume_eq_initial (away : s.Away) (clear : s.Clear) :
    s.resume = ExecutorState.initial.shift s.tick := by
  obtain ⟨tick, observed, pending, failures, skip, latch, deleted, published⟩ := s
  obtain ⟨rfl, settled⟩ := away
  obtain ⟨rfl, rfl, rfl⟩ := clear
  cases settled.pendingCordon rfl
  simp [ExecutorState.resume, ExecutorState.shift, ExecutorState.initial]

variable {σ : Type} [ClusterApi σ] [Journal σ] {w w' : σ}

theorem attempt_of_found (gone : s.deleted = true) (found : x.scope.get w = (.ok n, w')) :
    x.attempt v s w = x.attempt v s.resume (x.tell .registeredAgain w') := by
  have here : s.resume.deleted = false := rfl
  unfold attempt
  rw [execute_eq, execute_eq]
  simp [awaitRegistration, gone, here, found]

/-- It does what a new executor does after that read, but for the count of ticks. -/
theorem apply_of_found (away : s.Away) (clear : s.Clear) (found : x.scope.get w = (.ok n, w')) :
    x.apply v s w =
      x.apply v (ExecutorState.initial.shift s.tick) (x.tell .registeredAgain w') := by
  have resumed :
      { s with tick := s.tick + 1 }.resume = { s.resume with tick := s.resume.tick + 1 } := rfl
  rw [apply_of_ready clear.active clear.ready,
    attempt_of_found (s := { s with tick := s.tick + 1 }) away.deleted found, resumed,
    resume_eq_initial away clear, apply_of_ready rfl rfl]

/-- What an executor does from a verdict on is what a new one does in the same cluster,
after one read of the node. -/
structure ActsAnew (x : Executor) (st : ExecutorState × MemoryCluster) (n : NodeState) (v : Verdict)
    (steps : List ExecutorStep) : Prop where
  /-- Results and calls are the same. -/
  seen : ∃ first rest, History.records x.advance (.initial, st.2)
    (.apply v :: steps) = first :: rest ∧
    (History.records x.advance st (.apply v :: steps)).map Application.seen =
      (first.result, x.asked (.ok n) :: first.exchanges) :: rest.map Application.seen
  /-- The executor has counted more ticks, and remembers the same otherwise. -/
  memory : (History.final x.advance st (.apply v :: steps)).1 =
    (History.final x.advance (.initial, st.2) (.apply v :: steps)).1.shift st.1.tick
  /-- The cluster has logged the read, and is the same otherwise but for the time that it took. -/
  cluster : (History.final x.advance st (.apply v :: steps)).2.Delayed st.2.calls
    ⟨st.2.clock, .get, x.scope.node.name⟩ st.2.delay
    (History.final x.advance (.initial, st.2) (.apply v :: steps)).2

/-- The scope accepts a read that finds its node, also in an observed cluster. -/
theorem found_of_get (got : c.get (some x.scope.limit) x.scope.node.name = (.ok n, c'))
    (own : n.name = x.scope.node.name) :
    x.scope.get c = (.ok n, c') ∧
      x.scope.get (Observed.fresh c) =
      (.ok n, (⟨c', [x.asked (.ok n)]⟩ : Observed MemoryCluster)) := by
  have accepts : x.scope.accept (.ok n) = .ok n := x.scope.accept_eq_ok.2 ⟨rfl, own⟩
  have read : ClusterApi.getNode x.scope.limit x.scope.node.name c = (.ok n, c') := got
  have observed : ClusterApi.getNode x.scope.limit x.scope.node.name (Observed.fresh c) =
      (.ok n, (⟨c', [x.asked (.ok n)]⟩ : Observed MemoryCluster)) := by
    show ((c.get _ _).1, (⟨(c.get _ _).2, [.read _ (c.get _ _).1]⟩ : Observed MemoryCluster)) = _
    rw [got]
    rfl
  constructor
  · rw [NodeScope.get_eq_accept, read, accepts]
  · rw [NodeScope.get_eq_accept, observed, accepts]

theorem acts_anew (away : s.Away) (clear : s.Clear)
    (got : c.get (some x.scope.limit) x.scope.node.name = (.ok n, c'))
    (own : n.name = x.scope.node.name) (v : Verdict) (steps : List ExecutorStep) :
    x.ActsAnew (s, c) n v steps := by
  have delayed := MemoryCluster.delayed_of_get_ok got
  obtain ⟨found, found'⟩ := found_of_get got own
  obtain ⟨state, clusters⟩ := apply_of_delayed (x := x) delayed v .initial s.tick
  obtain ⟨result, exchanges⟩ := seen_of_delayed (x := x) delayed v .initial s.tick [x.asked (.ok n)]
  have next : (x.advance (s, c) (.apply v)).1 =
      ((x.apply v .initial c).2.1.shift s.tick,
        (x.apply v (ExecutorState.initial.shift s.tick) c').2.2) := by
    show (x.apply v s c).2 = _
    rw [apply_of_found away clear found]
    exact Prod.ext state rfl
  have seen : (x.application v s c).seen =
      ((x.application v .initial c).result,
        x.asked (.ok n) :: (x.application v .initial c).exchanges) := by
    show ((x.apply v s (Observed.fresh c)).1, (x.apply v s (Observed.fresh c)).2.2.exchanges) = _
    rw [apply_of_found away clear found']
    exact Prod.ext result exchanges
  obtain ⟨later, memory, cluster⟩ :=
    inStep_of_delayed clusters (x.apply v .initial c).2.1 s.tick steps
  refine ⟨⟨x.application v .initial c, _, History.records_cons_of_some rfl, ?_⟩, ?_, ?_⟩
  · rw [History.records_cons_of_some rfl, List.map_cons, next, later, seen]
    rfl
  · rw [History.final, History.final, next]
    exact memory
  · rw [History.final, History.final, next]
    exact cluster

/-! ## From a deletion on -/

/-- A deletion that is reported, and not only rehearsed, leaves the node away, and absent. -/
theorem away_of_deleted {s₁ : ExecutorState} {c₁ : MemoryCluster} (wet : x.config.dryRun = false)
    (deleted : x.apply v s c = (.ok .deleted, s₁, c₁)) :
    s₁.Away ∧ s₁.Clear ∧ c₁.nodes[x.scope.node.name]? = none := by
  obtain ⟨done, after, answered⟩ := application_of_apply deleted
  obtain ⟨away, clear⟩ := (Application.took x v s c).away_of_deleted wet done
  have went := application_course (x := x) (v := v) (s := s) (c := c)
  have truthful := went.staged.truthful wet answered.effects
  obtain ⟨-, gone, -⟩ := truthful.deleted done
  rw [after] at away clear
  exact ⟨away, clear, by simpa [NodeState.standing] using gone⟩

/-- An executor that has deleted its node only looks for it while it is away, once on every
tick unless something is in the way, and does not delete it again before it is registered.
If a read finds the node again, and the last verdict that was carried out before was a
success, then the executor acts like a new one in the same cluster. -/
theorem returned_node_managed {s₁ : ExecutorState} {c₁ : MemoryCluster}
    (wet : x.config.dryRun = false) (deleted : x.apply v s c = (.ok .deleted, s₁, c₁))
    (steps : List ExecutorStep) :
    let past := History.records x.advance (s₁, c₁) steps
    let st := History.final x.advance (s₁, c₁) steps
    (History.Throughout x.advance x.WhileVacant (s₁, c₁) steps →
      ∀ a ∈ past, a.result = .ok .noAction ∧
      a.exchanges = [.read x.scope.node.name (.error (.notFound x.scope.node.name))]) ∧
    (∀ v, (x.application v st.1 st.2).Deletes → .event (.register x.scope.node.name) ∈ steps) ∧
    ∀ n c₂, (∀ a ∈ past, a.Unfound x) → Application.LastSucceeded past →
      st.2.get (some x.scope.limit) x.scope.node.name = (.ok n, c₂) → n.name = x.scope.node.name →
      ∀ v later, x.ActsAnew st n v later := by
  intro past st
  obtain ⟨away, clear, absent⟩ := away_of_deleted wet deleted
  refine ⟨fun vacant a ha => looks_while_vacant away clear vacant ha,
    fun v deletes => registered_before_deletion away absent deletes, ?_⟩
  intro n c₂ unfound last got own v later
  obtain ⟨still, cleared⟩ := away_of_records (x := x) (s₁, c₁) steps away clear
  exact acts_anew (still unfound) (cleared last) got own v later

/-- A cluster whose node was cordoned, and the executor that did it. -/
def cordonedTrial : ExecutorState × MemoryCluster :=
  History.final (trial false).advance (.initial, .withNodes ["node-a"]) [.apply (.trial .cordon)]

/-- A tick while the node is away, and then it is registered again. -/
def returnSteps : List ExecutorStep := [.apply (.trial .none), .event (.register "node-a")]

/-- After the deletion the executor looks in vain, and then it cordons the node and deletes
it like a new one. -/
theorem returned_node_managed_trial :
    ∃ s₁ c₁ n, (trial false).apply (.trial .delete) cordonedTrial.1 cordonedTrial.2 =
      (.ok .deleted, s₁, c₁) ∧
      (∀ a ∈ History.records (trial false).advance (s₁, c₁) returnSteps, a.result = .ok .noAction) ∧
      (trial false).ActsAnew (History.final (trial false).advance (s₁, c₁) returnSteps) n
      (.trial .cordon)
        [.apply (.trial .delete)] := by
  obtain ⟨looks, -, anew⟩ := returned_node_managed (x := trial false) (v := .trial .delete)
    (s := cordonedTrial.1) (c := cordonedTrial.2) rfl rfl returnSteps
  have vacant := looks ⟨⟨rfl, rfl, rfl, by decide⟩, trivial, trivial⟩
  refine ⟨_, _, _, rfl, fun a ha => (vacant a ha).1, anew _ _ ?_ ?_ rfl rfl _ _⟩
  · intro a ha e he
    rw [(vacant a ha).2, List.mem_singleton] at he
    rw [he]
    rfl
  · intro a last
    exact ⟨_, (vacant a (List.mem_filter.1 (List.mem_of_getLast? last)).1).1⟩

end Executor

end NodeWarden
