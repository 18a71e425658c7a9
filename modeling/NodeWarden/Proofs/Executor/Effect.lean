import NodeWarden.Proofs.Executor.Confirmation

/-!
# What an application makes of the nodes

The calls of an application act on one node, the executor's own: every other node stays what it was
(`Answered.others`), and what becomes of the own node can be told from the calls and their answers
(`Answered.effects`). The calls come in three stages (`Staged`): perhaps a look whether the node has
been registered again, then those of the action, then those of the labels.
-/

namespace NodeWarden

namespace Exchange

/-! ## Calls of a kind -/

/-- The number of calls of a kind. -/
def count (kind : CallKind) (xs : List Exchange) : Nat := (xs.map Exchange.kind).count kind

@[simp] theorem count_nil (kind : CallKind) : count kind [] = 0 := rfl

@[simp] theorem count_cons (kind : CallKind) (e : Exchange) (xs : List Exchange) :
    count kind (e :: xs) = count kind xs + if e.kind = kind then 1 else 0 := by
  simp [count, List.count_cons]

@[simp] theorem count_append (kind : CallKind) (xs ys : List Exchange) :
    count kind (xs ++ ys) = count kind xs + count kind ys := by
  simp [count]

theorem count_eq_zero {kind other : CallKind} {xs : List Exchange} (h : ∀ e ∈ xs, e.kind = other)
    (ne : other ≠ kind) : count kind xs = 0 := by
  refine List.count_eq_zero.2 fun mem => ?_
  obtain ⟨e, he, same⟩ := List.mem_map.1 mem
  exact ne ((h e he).symm.trans same)

/-! ## The own node -/

/-- What a call with its answer shows that the node was, and makes of it. -/
inductive Effect : Exchange → Option NodeState → Option NodeState → Prop where
  /-- A read shows the node, but perhaps under another name. -/
  | shown {name : String} {read n : NodeState} :
      read = { n with name := read.name } → Effect (.read name (.ok read)) (some n) (some n)
  | unread {name : String} {e : ClusterError} (n : Option NodeState) :
      Effect (.read name (.error e)) n n
  | refused {name : String} {ch : NodeChange} {e : ClusterError} (n : Option NodeState) :
      Effect (.change ch name (.error e)) n n
  | cordoned {name : String} (n : NodeState) :
      Effect (.change .cordon name (.ok ())) (some n) (some n.cordon)
  | deleted {name : String} (n : NodeState) :
      Effect (.change .delete name (.ok ())) (some n) none
  | labelled {name : String} {labels : Labels} (n : NodeState) :
      Effect (.change (.label labels) name (.ok ())) (some n) (some (n.addLabels labels))

/-- What calls make of the node, one after the other. -/
inductive Effects : List Exchange → Option NodeState → Option NodeState → Prop where
  | nil (n : Option NodeState) : Effects [] n n
  | cons {e : Exchange} {xs : List Exchange} {n n' n'' : Option NodeState} :
      e.Effect n n' → Effects xs n' n'' → Effects (e :: xs) n n''

theorem Effects.append_iff {xs ys : List Exchange} {n n'' : Option NodeState} :
    Effects (xs ++ ys) n n'' ↔ ∃ n', Effects xs n n' ∧ Effects ys n' n'' := by
  constructor
  · intro h
    induction xs generalizing n with
    | nil => exact ⟨n, .nil n, h⟩
    | cons e xs ih =>
      cases h with
      | cons first rest =>
        obtain ⟨n', mid, last⟩ := ih rest
        exact ⟨n', .cons first mid, last⟩
  · rintro ⟨n', h, h'⟩
    induction h with
    | nil => exact h'
    | cons first _ ih => exact .cons first (ih h')

theorem Effects.singleton_iff {e : Exchange} {n n' : Option NodeState} :
    Effects [e] n n' ↔ e.Effect n n' := by
  constructor
  · intro h
    cases h with
    | cons only rest =>
      cases rest with
      | nil => exact only
  · intro h
    exact .cons h (.nil n')

/-- Where there is no node, no call finds one, and none comes of it. -/
theorem Effects.of_absent {xs : List Exchange} {n' : Option NodeState} (h : Effects xs none n')
    (name : String) :
    n' = none ∧ ∀ e ∈ xs, e.finds name = false := by
  induction xs with
  | nil =>
    cases h
    exact ⟨rfl, by simp⟩
  | cons e xs ih =>
    cases h with
    | cons first rest =>
      cases first with
      | unread | refused =>
        obtain ⟨absent, unfound⟩ := ih rest
        exact ⟨absent, List.forall_mem_cons.2 ⟨rfl, unfound⟩⟩

/-- Reads change nothing. -/
theorem Effects.of_reads {xs : List Exchange} {n n' : Option NodeState} (h : Effects xs n n')
    (reads : ∀ e ∈ xs, e.kind = .get) : n' = n := by
  induction h with
  | nil => rfl
  | cons first _ ih =>
    rw [ih fun e he => reads e (List.mem_cons_of_mem _ he)]
    have read := reads _ List.mem_cons_self
    cases first with
    | shown => rfl
    | unread => rfl
    | refused => rfl
    | cordoned => cases read
    | deleted => cases read
    | labelled => cases read

end Exchange

namespace MemoryCluster

variable {scope : NodeScope} {c c' : MemoryCluster} {xs : List Exchange}

namespace Answered

/-- No call of a scope changes a node other than its own. -/
theorem others (h : c.Answered scope xs c') {name : String} (foreign : name ≠ scope.node.name) :
    c'.nodes[name]? = c.nodes[name]? := by
  induction h with
  | nil => rfl
  | read got _ ih => rw [ih, (get_cases got).1]
  | @change _ _ _ ch answer _ made _ ih =>
    rw [ih]
    cases answer with
    | error => rw [change_error made]
    | ok =>
      obtain ⟨n, -, nodes⟩ := change_ok made
      rw [nodes, getElem?_changed_of_ne foreign]

/-- Calls that are no changes change no node, nor do they add to the log of changes. -/
theorem of_unmutating (h : c.Answered scope xs c') (reads : ∀ e ∈ xs, e.kind.isMutation = false) :
    c'.nodes = c.nodes ∧ c'.mutations = c.mutations := by
  induction h with
  | nil => exact ⟨rfl, rfl⟩
  | read got _ ih =>
    obtain ⟨nodes, calls, -⟩ := get_cases got
    obtain ⟨nodes', mutations'⟩ := ih fun e he => reads e (List.mem_cons_of_mem _ he)
    refine ⟨nodes'.trans nodes, mutations'.trans ?_⟩
    simp [mutations, calls, CallKind.isMutation]
  | @change _ _ _ ch =>
    have unlike := reads _ List.mem_cons_self
    cases ch <;> cases unlike

/-- The calls tell what becomes of the own node. -/
theorem effects (h : c.Answered scope xs c') :
    Exchange.Effects xs c.nodes[scope.node.name]? c'.nodes[scope.node.name]? := by
  -- along the calls: the answer to each decides whether it took effect
  induction h with
  | nil => exact .nil _
  | @read _ _ _ answer _ got _ ih =>
    rw [(get_cases got).1] at ih
    refine .cons ?_ ih
    cases answer with
    | error => exact .unread _
    | ok read =>
      obtain ⟨n, found, shown⟩ := get_ok got
      rw [found]
      exact .shown shown
  | @change _ _ _ ch answer _ made _ ih =>
    refine .cons ?_ ih
    cases answer with
    | error =>
      rw [change_error made]
      exact .refused _
    | ok =>
      obtain ⟨n, found, nodes⟩ := change_ok made
      rw [found, nodes]
      cases ch with
      | cordon => simpa [changed] using Exchange.Effect.cordoned n
      | delete => simpa [changed] using Exchange.Effect.deleted n
      | label labels => simpa [changed] using Exchange.Effect.labelled n

end Answered

end MemoryCluster

/-! ## The stages of an application -/

namespace Executor

variable {x : Executor} {v : Verdict} {s s' : ExecutorState} {xs : List Exchange}
  {result : Except ClusterError ExecutionOutcome}

/-- The calls by which an executor looks whether its node has been registered again. -/
inductive Looked (x : Executor) : List Exchange → Prop where
  | not : Looked x []
  | once (answer : Except ClusterError NodeState) : Looked x [x.asked answer]

theorem Looked.kind (h : x.Looked xs) : ∀ e ∈ xs, e.kind = .get := by
  cases h with
  | not => simp
  | once => simp

/-- The stages that the calls of an application come in, and its result. -/
inductive Staged (x : Executor) (v : Verdict) (action : NodeAction) :
    List Exchange → Except ClusterError ExecutionOutcome → Prop where
  | observing : Staged x v action [] (.ok .observeOnly)
  | backingOff (remaining : UInt32) : Staged x v action [] (.ok (.backingOff remaining))
  | absent (answer : Except ClusterError NodeState) :
      Staged x v action [x.asked answer] (.ok .noAction)
  | unseen (answer : Except ClusterError NodeState) (e : ClusterError) :
      Staged x v action [x.asked answer] (.error e)
  | failed {look xs : List Exchange} {s s' : ExecutorState} (e : ClusterError) :
      x.Looked look → x.ActCourse s action xs (.error e) s' →
      Staged x v action (look ++ xs) (.error e)
  | unlabelled {look xs : List Exchange} {s s' : ExecutorState} {outcome : ExecutionOutcome} :
      x.Looked look → x.ActCourse s action xs (.ok outcome) s' →
      Staged x v action (look ++ xs) (.ok outcome)
  | labelled {look xs ys : List Exchange} {s s' s'' : ExecutorState} {outcome : ExecutionOutcome}
      {published : Except ClusterError Unit} :
      x.Looked look → x.ActCourse s action xs (.ok outcome) s' →
      outcome ≠ .deleted → x.config.publishScore = true → x.PublishCourse v s' ys published s'' →
      Staged x v action (look ++ (xs ++ ys)) (published.map fun _ => outcome)

theorem VerdictCourse.staged (h : x.VerdictCourse v s xs result s') {look : List Exchange}
    (looked : x.Looked look) : Staged x v (x.effectiveAction v.action s) (look ++ xs) result := by
  cases h with
  | failed e went => exact .failed e looked went
  | unlabelled went => exact .unlabelled looked went
  | labelled went kept wanted published => exact .labelled looked went kept wanted published

/-- All that the action of a verdict depends on is whether a cordon is pending. -/
theorem effectiveAction_congr {t : ExecutorState} (h : t.pendingCordon = s.pendingCordon)
    (action : NodeAction) : x.effectiveAction action t = x.effectiveAction action s := by
  cases action with
  | none => simp only [effectiveAction, h]
  | cordon => rfl
  | delete => rfl

theorem ExecuteCourse.staged (h : x.ExecuteCourse v s xs result s') :
    Staged x v (x.effectiveAction v.action s) xs result := by
  cases h with
  | present _ went => exact went.staged .not
  | @absent answer => exact .absent answer
  | @unseen answer e => exact .unseen answer e
  | @returned answer _ _ _ _ _ _ went =>
    have same : x.effectiveAction v.action s.resume = x.effectiveAction v.action s :=
      effectiveAction_congr rfl v.action
    rw [← same]
    exact went.staged (.once answer)

theorem ApplyCourse.staged (h : x.ApplyCourse v s xs result s') :
    Staged x v (x.effectiveAction v.action s) xs result := by
  cases h with
  | observing => exact .observing
  | backingOff => exact .backingOff _
  | executed _ _ went =>
    have same : x.effectiveAction v.action { s with tick := s.tick + 1 } =
        x.effectiveAction v.action s := effectiveAction_congr rfl v.action
    rw [← same]
    exact went.staged

end Executor

end NodeWarden
