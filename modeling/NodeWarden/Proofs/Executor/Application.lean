import NodeWarden.Proofs.Cluster.Memory
import NodeWarden.Proofs.Executor.Course
import NodeWarden.Proofs.Executor.Worlds

/-!
# Applications of verdicts

An application is what came of one verdict: the calls that the executor made, with their
answers, its result and its state before and after. It is taken from the executor at work in
an observed cluster, which is the same as in the cluster itself (`apply_eq`); and its calls
are the ones that the cluster logs (`Answered.logged`).
-/

namespace NodeWarden

/-- Calls made for an action and its labels confirm the cordon of the node: a Cordon call succeeded,
or a read showed the node unschedulable, and the executor did not go on to delete it. -/
def Exchange.Confirms (name : String) (xs : List Exchange)
    (result : Except ClusterError ExecutionOutcome) : Prop :=
  (∃ e ∈ xs, e.cordoned = true) ∨
    (∃ e ∈ xs, e.showsCordon name = true) ∧ (¬ ∃ e ∈ xs, e.kind = .delete) ∧ result ≠ .ok .deleted

/-- What came of applying one verdict. -/
structure Application where
  /-- The node that the executor acts on. -/
  node : NodeIdentity
  verdict : Verdict
  before : ExecutorState
  /-- The calls that the executor made, with their answers. -/
  exchanges : List Exchange
  result : Except ClusterError ExecutionOutcome
  after : ExecutorState

namespace Application

/-- A Delete call was made. -/
def Deletes (a : Application) : Prop := ∃ e ∈ a.exchanges, e.kind = .delete

/-- The node, which the executor had deleted, was read again. -/
def FindsReturn (a : Application) : Prop :=
  a.before.deleted = true ∧ ∃ e, a.exchanges.head? = some e ∧ e.finds a.node.name = true

/-- The calls made for the action and the labels. While the executor takes its node for deleted, the
first call is not one of them: it looks whether the node is back. -/
def conduct (a : Application) : List Exchange :=
  if a.before.deleted then a.exchanges.tail else a.exchanges

theorem mem_of_mem_conduct {a : Application} {e : Exchange} (he : e ∈ a.conduct) :
    e ∈ a.exchanges := by
  unfold conduct at he
  split at he
  · exact List.mem_of_mem_tail he
  · exact he

/-- The cordon was confirmed. -/
def ConfirmsCordon (a : Application) : Prop :=
  Exchange.Confirms a.node.name a.conduct a.result

end Application

/-- In a cluster, calls with these answers lead to another cluster. -/
inductive MemoryCluster.Answered (scope : NodeScope) :
    MemoryCluster → List Exchange → MemoryCluster → Prop where
  | nil (c : MemoryCluster) : Answered scope c [] c
  | read {c c' c'' : MemoryCluster} {answer : Except ClusterError NodeState} {xs : List Exchange} :
      c.get (some scope.limit) scope.node.name = (answer, c') → Answered scope c' xs c'' →
      Answered scope c (.read scope.node.name answer :: xs) c''
  | change {c c' c'' : MemoryCluster} {ch : NodeChange} {answer : Except ClusterError Unit}
      {xs : List Exchange} :
      c.change (some scope.limit) ch scope.node.name = (answer, c') → Answered scope c' xs c'' →
      Answered scope c (.change ch scope.node.name answer :: xs) c''

namespace MemoryCluster.Answered

variable {scope : NodeScope} {c c' c'' : MemoryCluster} {xs ys : List Exchange}

theorem append (h : Answered scope c xs c') (h' : Answered scope c' ys c'') :
    Answered scope c (xs ++ ys) c'' := by
  induction h with
  | nil => exact h'
  | read got _ ih => exact .read got (ih h')
  | change made _ ih => exact .change made (ih h')

/-- Without calls nothing changes. -/
theorem eq_of_nil (h : Answered scope c [] c') : c' = c := by
  cases h
  rfl

/-- An observed cluster remembers what it answered since it was fresh. -/
theorem respected (scope : NodeScope) (c : MemoryCluster) :
    scope.Respects fun (o : Observed MemoryCluster) (c' : MemoryCluster) =>
      o.world = c' ∧ Answered scope c o.exchanges c' where
  get := by
    rintro ⟨_, xs⟩ c' ⟨rfl, answered⟩
    rw [NodeScope.get_eq_accept, NodeScope.get_eq_accept]
    exact ⟨rfl, rfl, answered.append (.read rfl (.nil _))⟩
  change := by
    rintro ⟨_, xs⟩ c' ch ⟨rfl, answered⟩
    exact ⟨rfl, rfl, answered.append (.change rfl (.nil _))⟩
  note := by
    rintro ⟨_, xs⟩ c' e ⟨rfl, answered⟩
    exact ⟨rfl, answered⟩

/-- The cluster logs the calls, after those it has logged before. -/
theorem logged (h : c.Answered scope xs c') :
    ∃ rs, c'.calls = c.calls ++ rs ∧
      rs.map (fun r => (r.kind, r.node)) = xs.map fun e => (e.kind, e.node) := by
  induction h with
  | nil => exact ⟨[], by simp⟩
  | read got _ ih =>
    obtain ⟨rs, calls, same⟩ := ih
    rw [(get_cases got).2.1, List.append_assoc] at calls
    exact ⟨_, calls, by simp [same, Exchange.kind, Exchange.node]⟩
  | change made _ ih =>
    obtain ⟨rs, calls, same⟩ := ih
    rw [change_calls made, List.append_assoc] at calls
    exact ⟨_, calls, by simp [same, Exchange.kind, Exchange.node]⟩

/-- While the own node is not unschedulable, no read shows it so, until a Cordon call succeeds. -/
theorem schedulable (h : Answered scope c xs c') (hs : c.Schedulable scope.node.name) :
    (∃ e ∈ xs, e.cordoned = true) ∨
      c'.Schedulable scope.node.name ∧ ∀ e ∈ xs, e.showsCordon scope.node.name = false := by
  induction h with
  | nil => exact .inr ⟨hs, by simp⟩
  | @read c c₁ c₂ answer ys got _ ih =>
    rcases ih (hs.of_nodes (get_cases got).1) with ⟨e, he, cordoned⟩ | ⟨hs', unseen⟩
    · exact .inl ⟨e, List.mem_cons_of_mem _ he, cordoned⟩
    · refine .inr ⟨hs', fun e he => ?_⟩
      rcases List.mem_cons.1 he with rfl | he
      · cases answer with
        | error => rfl
        | ok n => simp [Exchange.showsCordon, hs.get_ok got]
      · exact unseen e he
  | @change c c₁ c₂ ch answer ys made _ ih =>
    rcases hs.change made with ⟨rfl, rfl⟩ | hs₁
    · exact .inl ⟨_, List.mem_cons_self, rfl⟩
    · rcases ih hs₁ with ⟨e, he, cordoned⟩ | ⟨hs', unseen⟩
      · exact .inl ⟨e, List.mem_cons_of_mem _ he, cordoned⟩
      · refine .inr ⟨hs', fun e he => ?_⟩
        rcases List.mem_cons.1 he with rfl | he
        · rfl
        · exact unseen e he

/-- A read that finds the own node schedulable, and a change of it that fails, leave it so. -/
theorem schedulable_of_failed {read : NodeState} {ch : NodeChange} {e : ClusterError}
    (h : Answered scope c
      [.read scope.node.name (.ok read), .change ch scope.node.name (.error e)] c')
    (fresh : read.unschedulable = false) : c'.Schedulable scope.node.name := by
  cases h with
  | read got rest =>
    cases rest with
    | change made rest =>
      cases rest with
      | nil =>
        exact ((Schedulable.of_get_ok got fresh).of_nodes (get_cases got).1).of_nodes
          (change_error made)

end MemoryCluster.Answered

namespace Executor

/-- The application of a verdict in a cluster. -/
def application (x : Executor) (v : Verdict) (s : ExecutorState) (c : MemoryCluster) :
    Application :=
  let (result, s', o) := x.apply v s (Observed.fresh c)
  ⟨x.scope.node, v, s, o.exchanges, result, s'⟩

variable {x : Executor} {v : Verdict} {s : ExecutorState} {c : MemoryCluster}

/-- An application is what an observed cluster saw. -/
theorem apply_fresh : ∃ o, x.apply v s (Observed.fresh c) =
      ((x.application v s c).result, (x.application v s c).after, o) ∧
    o.exchanges = (x.application v s c).exchanges :=
  ⟨_, rfl, rfl⟩

/-- An application took one of the courses. -/
theorem application_course :
    x.ApplyCourse v s (x.application v s c).exchanges (x.application v s c).result
      (x.application v s c).after := by
  obtain ⟨xs, asked, went⟩ := apply_course (x := x) v s (Observed.fresh c)
  rw [Observed.fresh_exchanges, List.nil_append] at asked
  rw [← asked] at went
  exact went

/-- An executor that is observed does the same as one that is not. -/
theorem apply_eq :
    ∃ c', x.apply v s c = ((x.application v s c).result, (x.application v s c).after, c') ∧
      c.Answered x.scope (x.application v s c).exchanges c' := by
  have fresh : (Observed.fresh c).world = c ∧ c.Answered x.scope (Observed.fresh c).exchanges c :=
    ⟨rfl, .nil c⟩
  obtain ⟨result, state, -, answered⟩ :=
    apply_agrees (MemoryCluster.Answered.respected x.scope c) fresh v s
  exact ⟨_, Prod.ext result.symm (Prod.ext state.symm rfl), answered⟩

/-- An application is the same in clusters to whose difference the executor's scope is blind. -/
theorem application_agrees {R : MemoryCluster → MemoryCluster → Prop} (h : x.scope.BlindTo R)
    {d : MemoryCluster} (hc : R c d) :
    x.application v s c = x.application v s d ∧ R (x.apply v s c).2.2 (x.apply v s d).2.2 := by
  have fresh : R (Observed.fresh c).world (Observed.fresh d).world ∧
      (Observed.fresh c).exchanges = [] ++ (Observed.fresh d).exchanges := ⟨hc, rfl⟩
  obtain ⟨result, state, -, exchanges⟩ := apply_agrees (h.observed []) fresh v s
  refine ⟨?_, (apply_agrees h.respects hc v s).2.2⟩
  simp only [application, result, state, exchanges, List.nil_append]

/-- Its calls lead from the cluster to the one after it. -/
theorem application_answered :
    c.Answered x.scope (x.application v s c).exchanges (x.apply v s c).2.2 := by
  obtain ⟨c', applied, answered⟩ := apply_eq (x := x) (v := v) (s := s) (c := c)
  rw [applied]
  exact answered

/-- What applying a verdict comes to is what its application is made of. -/
theorem application_of_apply {result : Except ClusterError ExecutionOutcome} {s' : ExecutorState}
    {c' : MemoryCluster} (h : x.apply v s c = (result, s', c')) :
    (x.application v s c).result = result ∧ (x.application v s c).after = s' ∧
      c.Answered x.scope (x.application v s c).exchanges c' := by
  obtain ⟨c'', eq, answered⟩ := apply_eq (x := x) (v := v) (s := s) (c := c)
  cases eq.symm.trans h
  exact ⟨rfl, rfl, answered⟩

end Executor

end NodeWarden
