import NodeWarden.Proofs.Executor.Effect
import NodeWarden.Proofs.Executor.Pace

/-!
# While the node is away

Once an executor has deleted its node, it takes it for deleted until a read finds it again
(`Took.away`). Until then it only looks: while nothing is in the way of its reads, each of
its applications is one read, and comes to no action (`looks_while_vacant`). And it does not
delete again what has not been registered again (`registered_before_deletion`).
-/

namespace NodeWarden

/-- The scope's node is not there, and nothing is in the way of a read of it. -/
structure MemoryCluster.Vacant (scope : NodeScope) (c : MemoryCluster) : Prop where
  absent : c.nodes[scope.node.name]? = none
  unfailing : takeFault .get c.faults = none
  allowed : c.denied = false
  prompt : (Duration.ofMillis c.delay).nanos ≤ scope.limit.nanos

theorem MemoryCluster.Vacant.get {scope : NodeScope} {c c' : MemoryCluster}
    {answer : Except ClusterError NodeState} (h : c.Vacant scope)
    (got : c.get (some scope.limit) scope.node.name = (answer, c')) :
    answer = .error (.notFound scope.node.name) := by
  rw [MemoryCluster.get, start_of_free h.unfailing h.allowed h.prompt] at got
  have shown : (((c.record .get scope.node.name).pass c.delay).lookup scope.node.name) = answer :=
    congrArg Prod.fst got
  have absent : ((c.record .get scope.node.name).pass c.delay).nodes[scope.node.name]? = none :=
    h.absent
  rw [← shown, lookup, absent]

namespace ExecutorState

/-- The executor takes its node for deleted, with all that goes with it. -/
structure Away (s : ExecutorState) : Prop where
  deleted : s.deleted = true
  settled : s.Settled

/-- Nothing keeps the executor from acting on the next tick, and nothing has failed since it
last acted. -/
structure Clear (s : ExecutorState) : Prop where
  failures : s.failures = 0
  ready : s.skipTicks = 0
  active : s.observeOnly = false

end ExecutorState

namespace Executor

variable {x : Executor} {v : Verdict} {s s' : ExecutorState} {xs : List Exchange}
  {result : Except ClusterError ExecutionOutcome}

theorem asked_finds {answer : Except ClusterError NodeState} {read : NodeState}
    (accepted : x.scope.accept answer = .ok read) :
    (x.asked answer).finds x.scope.node.name = true := by
  obtain ⟨rfl, own⟩ := x.scope.accept_eq_ok.1 accepted
  simp [asked, Exchange.finds, own]

/-- While no read finds the node, the executor only reads, and remembers what it did before. -/
theorem ExecuteCourse.away (h : x.ExecuteCourse v s xs result s') (gone : s.deleted = true)
    (unfound : ∀ e ∈ xs, e.finds x.scope.node.name = false) : s' = s := by
  cases h with
  | present there => exact absurd (gone.symm.trans there) (by decide)
  | absent => rfl
  | unseen => rfl
  | returned _ accepted =>
    have lost := unfound _ List.mem_cons_self
    exact absurd ((asked_finds accepted).symm.trans lost) (by decide)

/-- While the node is not there, and nothing is in the way, it reads once. -/
theorem ExecuteCourse.vacant {c c' : MemoryCluster} (h : x.ExecuteCourse v s xs result s')
    (gone : s.deleted = true) (answered : c.Answered x.scope xs c') (vacant : c.Vacant x.scope) :
    result = .ok .noAction ∧ xs = [.read x.scope.node.name (.error (.notFound x.scope.node.name))] ∧
      s' = s := by
  cases h with
  | present there => exact absurd (gone.symm.trans there) (by decide)
  | absent =>
    cases answered with
    | read got =>
      cases vacant.get got
      exact ⟨rfl, rfl, rfl⟩
  | unseen e _ refused other =>
    cases answered with
    | read got =>
      cases vacant.get got
      cases refused
      exact absurd rfl (other _)
  | returned _ accepted =>
    cases answered with
    | read got =>
      cases vacant.get got
      cases accepted

end Executor

namespace Application

open Executor

variable {x : Executor} {a : Application} {past : List Application}

/-- No read found the node. -/
def Unfound (x : Executor) (a : Application) : Prop :=
  ∀ e ∈ a.exchanges, e.finds x.scope.node.name = false

/-- The last verdict that was carried out, if there was one, did not end in an error. -/
def LastSucceeded (past : List Application) : Prop :=
  ∀ a, (past.filter executed).getLast? = some a → ∃ outcome, a.result = .ok outcome

/-- A success clears the executor. -/
theorem Took.clear_of_ok {outcome : ExecutionOutcome} (h : a.Took x) (executed : a.executed = true)
    (done : a.result = .ok outcome) : a.after.Clear :=
  have ⟨failures, ready, active⟩ := h.paced_of_ok executed done
  ⟨failures, ready, active⟩

/-- A deletion that is reported, and not only rehearsed, leaves the executor clear, and its
node away. -/
theorem Took.away_of_deleted (h : a.Took x) (wet : x.config.dryRun = false)
    (done : a.result = .ok .deleted) : a.after.Away ∧ a.after.Clear := by
  have executed : a.executed = true := by
    rw [Application.executed, done]
    rfl
  obtain ⟨s', went, after⟩ := h.executed_of_ok done rfl
  obtain ⟨t, rfl⟩ := went.recorded wet done
  refine ⟨⟨by rw [after, remember_deleted]; rfl, ?_⟩, h.clear_of_ok executed done⟩
  rw [after]
  exact (ExecutorState.Settled.recordDeletion t).congr remember_deleted remember_pendingCordon
    remember_published

/-- A node that no read finds stays away. -/
theorem Took.away (h : a.Took x) (away : a.before.Away) (unfound : a.Unfound x) : a.after.Away := by
  refine ⟨?_, h.settled_after away.settled⟩
  rcases h.cases with ⟨-, -, -, after⟩ | ⟨-, -, -, -, after⟩ | ⟨-, -, s', went, after⟩
  · rw [after]
    exact away.deleted
  · rw [after]
    exact away.deleted
  · rw [after, remember_deleted, went.away away.deleted unfound]
    exact away.deleted

/-- A verdict on a node that is not there comes to one read. -/
theorem Took.vacant {c c' : MemoryCluster} (h : a.Took x) (away : a.before.Away)
    (clear : a.before.Clear) (answered : c.Answered x.scope a.exchanges c')
    (vacant : c.Vacant x.scope) :
    a.result = .ok .noAction ∧
      a.exchanges = [.read x.scope.node.name (.error (.notFound x.scope.node.name))] ∧
      a.after.Away ∧ a.after.Clear := by
  have executed := h.executed_of_ready clear.active clear.ready
  obtain ⟨s', went, -⟩ := h.carried_out clear.active clear.ready
  obtain ⟨done, calls, -⟩ := went.vacant away.deleted answered vacant
  have unfound : a.Unfound x := by simp [Unfound, calls, Exchange.finds]
  exact ⟨done, calls, h.away away unfound, h.clear_of_ok executed done⟩

/-- If the last verdict that was carried out was a success, then nothing keeps the executor
from acting. -/
theorem Took.clear_of_lastSucceeded (h : a.Took x) (clear : LastSucceeded past → a.before.Clear)
    (last : LastSucceeded (past ++ [a])) : a.after.Clear := by
  cases executed : a.executed with
  | true =>
    obtain ⟨outcome, done⟩ := last a (by simp [List.filter_append, executed])
    exact h.clear_of_ok executed done
  | false =>
    -- if it had been clear, the verdict would have been carried out
    have before : LastSucceeded past := by
      intro b found
      exact last b (by simpa [List.filter_append, executed] using found)
    have carried := h.executed_of_ready (clear before).active (clear before).ready
    exact absurd (carried.symm.trans executed) (by decide)

end Application

/-! ## Runs -/

namespace Executor

variable {x : Executor} {st : ExecutorState × MemoryCluster} {steps : List ExecutorStep}
  {a : Application}

/-- A step that applies no verdict, or applies one while the node is not there and nothing
is in the way. -/
def WhileVacant (x : Executor) (st : ExecutorState × MemoryCluster) : ExecutorStep → Prop
  | .apply _ => st.2.Vacant x.scope
  | .event _ | .wait _ => True

/-- While nothing is in the way, the executor looks once on every tick. -/
theorem looks_while_vacant (away : st.1.Away) (clear : st.1.Clear)
    (vacant : History.Throughout x.advance x.WhileVacant st steps)
    (ha : a ∈ History.records x.advance st steps) :
    a.result = .ok .noAction ∧
      a.exchanges = [.read x.scope.node.name (.error (.notFound x.scope.node.name))] := by
  have kept (st : ExecutorState × MemoryCluster) (step : ExecutorStep) (h : st.1.Away ∧ st.1.Clear)
      (vacant : x.WhileVacant st step) :
        (x.advance st step).1.1.Away ∧ (x.advance st step).1.1.Clear := by
    cases step with
    | event | wait => exact h
    | apply v =>
      have made : (x.advance st (.apply v)).2 = some (x.application v st.1 st.2) := rfl
      obtain ⟨took, before, after, answered⟩ := advance_spec made
      rw [← after]
      exact (took.vacant (before ▸ h.1) (before ▸ h.2) answered vacant).2.2
  obtain ⟨i, hi⟩ := List.mem_iff_getElem?.1 ha
  obtain ⟨st', step, ⟨away', clear'⟩, vacant', made⟩ :=
    vacant.exists_input (R := fun st => st.1.Away ∧ st.1.Clear) ⟨away, clear⟩ kept hi
  obtain ⟨took, before, after, answered⟩ := advance_spec made
  cases step with
  | event | wait => cases made
  | apply v =>
    obtain ⟨done, calls, -⟩ := took.vacant (before ▸ away') (before ▸ clear') answered vacant'
    exact ⟨done, calls⟩

/-- A node that is away comes back only if it is registered. -/
theorem absent_step {step : ExecutorStep} (away : st.1.Away)
    (absent : st.2.nodes[x.scope.node.name]? = none)
    (other : step ≠ .event (.register x.scope.node.name)) :
    (x.advance st step).1.1.Away ∧ (x.advance st step).1.2.nodes[x.scope.node.name]? = none := by
  cases step with
  | wait => exact ⟨away, absent⟩
  | event e =>
    refine ⟨away, ?_⟩
    cases e with
    | failNext | denyAll | setDelay | renameReads => exact absent
    | register name =>
      have foreign : name ≠ x.scope.node.name := by
        rintro rfl
        exact other rfl
      simpa [advance, MemoryCluster.happen, Std.ExtTreeMap.getElem?_insert, foreign] using absent
    | uncordon name =>
      simp only [advance, MemoryCluster.happen]
      split
      · rename_i n found
        have foreign : name ≠ x.scope.node.name := by
          rintro rfl
          cases absent.symm.trans found
        simpa [Std.ExtTreeMap.getElem?_insert, foreign] using absent
      · exact absent
  | apply v =>
    have made : (x.advance st (.apply v)).2 = some (x.application v st.1 st.2) := rfl
    obtain ⟨took, before, after, answered⟩ := advance_spec made
    have effects := answered.effects
    rw [absent] at effects
    obtain ⟨absent', unfound⟩ := effects.of_absent x.scope.node.name
    rw [← after]
    exact ⟨took.away (before ▸ away) unfound, absent'⟩

/-- Between a deletion and another the node is registered. -/
theorem registered_before_deletion {v : Verdict} (away : st.1.Away)
    (absent : st.2.nodes[x.scope.node.name]? = none)
    (deletes : (x.application v (History.final x.advance st steps).1
      (History.final x.advance st steps).2).Deletes) :
    .event (.register x.scope.node.name) ∈ steps := by
  induction steps generalizing st with
  | nil =>
    have present := (Application.deletes_spec (Application.took x v st.1 st.2) deletes).present
    exact absurd (away.deleted.symm.trans present) (by decide)
  | cons step rest ih =>
    by_cases anew : step = .event (.register x.scope.node.name)
    · rw [anew]
      exact List.mem_cons_self
    · obtain ⟨away', absent'⟩ := absent_step (x := x) away absent anew
      exact List.mem_cons_of_mem _ (ih away' absent' deletes)

/-- What the run so far says of an executor whose node is away: it still is if no read has
found it, and nothing keeps the executor from acting if it last did so with success. -/
theorem away_of_records (st : ExecutorState × MemoryCluster) (steps : List ExecutorStep)
    (away : st.1.Away) (clear : st.1.Clear) :
    ((∀ a ∈ History.records x.advance st steps, a.Unfound x) →
      (History.final x.advance st steps).1.Away) ∧
      (Application.LastSucceeded (History.records x.advance st steps) →
        (History.final x.advance st steps).1.Clear) := by
  refine History.records_invariant
    (R := fun (st : ExecutorState × MemoryCluster) past =>
      ((∀ a ∈ past, a.Unfound x) → st.1.Away) ∧ (Application.LastSucceeded past → st.1.Clear))
    ⟨fun _ => away, fun _ => clear⟩ ?_ ?_
  · intro st step past h silent
    rwa [advance_silent silent]
  · intro st step past a h made
    obtain ⟨took, before, after, -⟩ := advance_spec made
    rw [← after]
    rw [← before] at h
    refine ⟨fun unfound => ?_, fun last => took.clear_of_lastSucceeded h.2 last⟩
    exact took.away (h.1 fun b hb => unfound b (List.mem_append_left _ hb)) (unfound a (by simp))

end Executor

end NodeWarden
