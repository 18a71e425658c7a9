import NodeWarden.Proofs.Executor.Backoff
import NodeWarden.Proofs.Executor.Undisturbed

/-!
# Pending cordons heal

An executor that has begun a cordon, and does not know it completed, cordons its node as
soon as it acts again in a healthy cluster, whatever the verdict then is
(`pending_cordon_heals`). It acts again after the ticks that it is to skip, and these are no
more than the limit.
-/

namespace NodeWarden

/-- An action that cordons the node, or more, comes to a cordon or a deletion. -/
theorem NodeAction.due_of_isCordonOrMore {action : NodeAction} (acts : action.isCordonOrMore = true)
    (ripe cordoned : Bool) :
    action.dueOutcome ripe (some cordoned) = .deleted ∧
        action.dueStanding ripe (some cordoned) = Option.none ∨
      (action.dueOutcome ripe (some cordoned) = .cordoned ∨
          action.dueOutcome ripe (some cordoned) = .alreadyCordoned ∨
          action.dueOutcome ripe (some cordoned) = .deleteDeferred) ∧
        action.dueStanding ripe (some cordoned) = some true := by
  cases action with
  | none => cases acts
  | cordon => cases cordoned <;> simp [dueOutcome, dueStanding]
  | delete => cases ripe <;> simp [dueOutcome, dueStanding]

/-- Once it is carried out, no cordon is pending. -/
theorem ExecutorState.heed_pendingCordon {s : ExecutorState} {action : NodeAction}
    (acts : action.isCordonOrMore = true) (ripe : Bool) :
    (s.heed action ripe).pendingCordon = false := by
  cases action with
  | none => cases acts
  | cordon => rfl
  | delete => cases ripe <;> rfl

/-- The name under which a node is shown does not matter to how it stands. -/
theorem NodeState.standing_shown (name : String) (c : MemoryCluster) :
    NodeState.standing (c.shown name) = NodeState.standing c.nodes[name]? := by
  simp only [NodeState.standing, MemoryCluster.shown, Option.map_map]
  rfl

namespace Executor

variable {x : Executor} {v : Verdict} {s s' : ExecutorState} {xs : List Exchange}
  {result : Except ClusterError ExecutionOutcome} {n : NodeState} {n' : Option NodeState}

/-- While a cordon is pending, every verdict amounts to a cordon or more. -/
theorem effectiveAction_of_pending (pending : s.pendingCordon = true) (action : NodeAction) :
    (x.effectiveAction action s).isCordonOrMore = true := by
  cases action with
  | none => simp [effectiveAction, pending, NodeAction.isCordonOrMore]
  | cordon => rfl
  | delete => cases allowed :
      x.config.allowDelete <;> simp [effectiveAction, allowed, NodeAction.isCordonOrMore]

/-- A verdict that is carried out while a cordon is pending cordons the node that is there,
or deletes it. -/
theorem ExecuteCourse.served_pending (h : x.ExecuteCourse v s xs result s')
    (wet : x.config.dryRun = false) (there : s.deleted = false) (pending : s.pendingCordon = true)
    (own : n.name = x.scope.node.name) (served : Exchange.Served xs (some n) n') :
    s'.pendingCordon = false ∧
      (result = .ok .deleted ∧ NodeState.standing n' = none ∨
        (result = .ok .cordoned ∨ result = .ok .alreadyCordoned ∨ result = .ok .deleteDeferred) ∧
          NodeState.standing n' = some true) := by
  have acts := effectiveAction_of_pending (x := x) pending v.action
  obtain ⟨rfl, stands, state⟩ := (h.of_present there).served_effective wet own served
  rw [state, stands]
  exact ⟨ExecutorState.heed_pendingCordon acts _,
    by simpa using NodeAction.due_of_isCordonOrMore acts _ n.unschedulable⟩

end Executor

namespace Application

open Executor

variable {x : Executor} {a : Application} {n : NodeState} {n' : Option NodeState}

theorem Took.served_pending (h : a.Took x) (wet : x.config.dryRun = false)
    (unlatched : a.before.observeOnly = false) (ready : a.before.skipTicks = 0)
    (there : a.before.deleted = false) (pending : a.before.pendingCordon = true)
    (own : n.name = x.scope.node.name) (served : Exchange.Served a.exchanges (some n) n') :
    a.after.pendingCordon = false ∧ a.after.failures = 0 ∧
      (a.result = .ok .deleted ∧ NodeState.standing n' = none ∨
        (a.result = .ok .cordoned ∨ a.result = .ok .alreadyCordoned ∨
          a.result = .ok .deleteDeferred) ∧ NodeState.standing n' = some true) := by
  obtain ⟨s', went, after⟩ := h.carried_out unlatched ready
  obtain ⟨unpending, ended⟩ := went.served_pending wet there pending own served
  refine ⟨by rw [after, remember_pendingCordon, unpending], ?_, ended⟩
  rw [after]
  rcases ended with ⟨done, -⟩ | ⟨done | done | done, -⟩ <;>
  · rw [done]
    rfl

end Application

/-! ## Runs -/

namespace Executor

variable {x : Executor} {v : Verdict} {s : ExecutorState} {c : MemoryCluster}
  {st : ExecutorState × MemoryCluster} {steps : List ExecutorStep}

theorem length_records_of_verdicts (vs : List Verdict) :
    (History.records x.advance st (vs.map .apply)).length = vs.length := by
  induction vs generalizing st with
  | nil => rfl
  | cons v rest ih => simp [History.records, advance, ih]

/-- While ticks are skipped, the cluster is left alone. -/
theorem final_cluster_of_waiting {vs : List Verdict} (unlatched : st.1.observeOnly = false)
    (few : vs.length ≤ st.1.skipTicks.toNat) :
    (History.final x.advance st (vs.map .apply)).2 = st.2 := by
  induction vs generalizing st with
  | nil => rfl
  | cons v rest ih =>
    have made : (x.advance st (.apply v)).2 = some (x.application v st.1 st.2) := rfl
    obtain ⟨took, before, after, answered⟩ := advance_spec made
    have more : 0 < st.1.skipTicks.toNat := Nat.lt_of_lt_of_le (Nat.succ_pos _) few
    obtain ⟨⟨r, left, backs⟩, -⟩ := took.waited unlatched more (before ▸ .start st.1)
    rw [backs.calls] at answered
    rw [backs.after, before] at after
    rw [List.map_cons, History.final, ih, answered.eq_of_nil]
    · rw [← after]
      exact unlatched
    · rw [← after]
      show rest.length ≤ r.toNat
      rw [List.length_cons] at few
      omega

/-- What skipping all of the ticks that are to be skipped comes to. -/
theorem ready_of_waiting {waiting : List ExecutorStep} (unlatched : s.observeOnly = false)
    (due : (History.records x.advance (s, c) waiting).length = s.skipTicks.toNat) :
    (History.final x.advance (s, c) waiting).1 =
        { s with tick := s.tick + s.skipTicks.toNat, skipTicks := 0 } ∧
      ∀ j b, (History.records x.advance (s, c) waiting)[j]? = some b →
        ∃ remaining : UInt32, remaining.toNat = s.skipTicks.toNat - 1 - j ∧
        b.BacksOff remaining := by
  obtain ⟨final, records⟩ := advance_inWorld x (s, c) waiting
  have waited := waited_of_records x (s, c) (waiting.map ExecutorStep.inWorld) unlatched
  have skipped (j : Nat) (b : Application) :=
    countdown x (s, c) (waiting.map ExecutorStep.inWorld) unlatched (j := j) (b := b)
  rw [← records] at waited skipped
  rw [← final] at waited
  refine ⟨(due ▸ waited (Nat.le_of_eq due)).done, fun j b hj => ?_⟩
  have inside := (List.getElem?_eq_some_iff.1 hj).1
  exact (skipped j b hj).1 (due ▸ inside)

/-- In a cluster that is healthy when the executor acts again, the verdict that it then
carries out completes a pending cordon, whatever it asks for. Until then the executor skips
ticks, at most as many as the limit allows, and leaves the cluster alone. -/
theorem pending_cordon_heals (reachable : x.Reachable s) (waiting : List ExecutorStep)
    (wet : x.config.dryRun = false) (unlatched : s.observeOnly = false)
    (pending : s.pendingCordon = true)
    (due : (History.records x.advance (s, c) waiting).length = s.skipTicks.toNat)
    (healthy : (History.final x.advance (s, c) waiting).2.Healthy x.scope) (v : Verdict) :
    s.skipTicks ≤ x.config.maxBackoffTicks ∧
    (∀ vs : List Verdict, waiting = vs.map .apply →
    (History.final x.advance (s, c) waiting).2 = c) ∧
    (∀ j b, (History.records x.advance (s, c) waiting)[j]? = some b →
      ∃ remaining : UInt32, remaining.toNat = s.skipTicks.toNat - 1 - j ∧ b.BacksOff remaining) ∧
    ∃ last s' c',
      History.records x.advance (s, c) (waiting ++ [.apply v]) =
        History.records x.advance (s, c) waiting ++ [last] ∧
      History.final x.advance (s, c) (waiting ++ [.apply v]) = (s', c') ∧
      s'.pendingCordon = false ∧ s'.failures = 0 ∧
      (last.result = .ok .deleted ∧ c'.nodes[x.scope.node.name]? = none ∨
        (last.result = .ok .cordoned ∨ last.result = .ok .alreadyCordoned ∨
            last.result = .ok .deleteDeferred) ∧
          ∃ n, c'.nodes[x.scope.node.name]? = some n ∧ n.unschedulable = true) := by
  obtain ⟨ready, skipped⟩ := ready_of_waiting unlatched due
  generalize reached : History.final x.advance (s, c) waiting = st at ready healthy
  obtain ⟨last, made⟩ : ∃ last, (x.advance st (.apply v)).2 = some last := ⟨_, rfl⟩
  obtain ⟨took, before, after, answered⟩ := advance_spec made
  rw [ready] at before
  -- an executor with a cordon pending does not take its node for deleted
  have there : s.deleted = false := by
    cases gone : s.deleted with
    | false => rfl
    | true => exact absurd (pending.symm.trans (reachable.settled.pendingCordon gone)) (by decide)
  obtain ⟨n, shown, own⟩ := healthy.shown
  have served := (healthy.willing.served answered).2
  rw [shown] at served
  obtain ⟨unpending, forgiven, ended⟩ :=
    took.served_pending wet (by simp [before, unlatched]) (by simp [before])
    (by simp [before, there]) (by simp [before, pending]) own served
  rw [NodeState.standing_shown] at ended
  refine ⟨reachable.skipTicks_le, fun vs only => ?_, skipped, last, (x.advance st (.apply v)).1.1,
    (x.advance st (.apply v)).1.2, ?_, ?_, after ▸ unpending, after ▸ forgiven, ?_⟩
  · subst only
    rw [length_records_of_verdicts] at due
    rw [← reached, final_cluster_of_waiting unlatched (Nat.le_of_eq due)]
  · rw [History.records_append, reached, History.records_cons_of_some made]
    rfl
  · rw [History.final_append, reached]
    rfl
  · rcases ended with ⟨deleted, gone⟩ | ⟨done, cordoned⟩
    · exact .inl ⟨deleted, by simpa [NodeState.standing] using gone⟩
    · exact .inr ⟨done, by simpa [NodeState.standing] using cordoned⟩

/-- A cordon that is begun twice, and each time the read fails. -/
def begunSteps : List (WorldStep MemoryCluster) :=
  [failedRead, .apply (.trial .cordon), failedRead, .apply (.trial .cordon)]

/-- On the second tick after it the node is cordoned, although nothing asks for it any more. -/
theorem pending_cordon_heals_trial :
    ∃ s c, History.final (trial false).proceed
      (.initial, .withNodes ["node-a"]) begunSteps = (s, c) ∧ s.pendingCordon = true ∧
      ∃ skipped last s' c',
        History.records (trial false).advance (s, c)
          [.apply (.trial .none), .apply (.trial .none)] = [skipped, last] ∧
        History.final (trial false).advance (s, c)
        [.apply (.trial .none), .apply (.trial .none)] = (s', c') ∧
        skipped.BacksOff 0 ∧ s'.pendingCordon = false ∧
        (last.result = .ok .deleted ∨ last.result = .ok .cordoned ∨
          last.result = .ok .alreadyCordoned ∨ last.result = .ok .deleteDeferred) := by
  obtain ⟨-, -, skips, last, s', c', records, final, unpending, -, ended⟩ :=
    pending_cordon_heals (x := trial false)
      ⟨MemoryCluster, inferInstance, inferInstance, .withNodes ["node-a"], begunSteps, rfl⟩
      [.apply (.trial .none)] rfl rfl rfl rfl
      (c := (History.final (trial false).proceed (.initial, .withNodes ["node-a"]) begunSteps).2)
      ⟨⟨rfl, rfl, by decide⟩, _, rfl, rfl⟩ (.trial .none)
  obtain ⟨r, left, backs⟩ := skips 0 _ rfl
  have noneLeft : r.toNat = (0 : UInt32).toNat := left
  cases UInt32.toNat_inj.1 noneLeft
  refine ⟨_, _, rfl, rfl, _, last, s', c', records, final, backs, unpending, ?_⟩
  rcases ended with ⟨deleted, -⟩ | ⟨done | done | done, -⟩ <;> simp [*]

end Executor

end NodeWarden
