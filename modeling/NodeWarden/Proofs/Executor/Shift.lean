import NodeWarden.Proofs.Executor.Course

/-!
# Executors that have counted more ticks

An executor looks at its count of ticks only to tell an earlier tick from the present one.
So if the count is put forward, and with it the tick on which the cordon was seen, then
nothing changes in what it does (`apply_shift`).
-/

namespace NodeWarden

namespace ExecutorState

variable {d : Nat} {s : ExecutorState}

/-- The state of an executor that has counted so many more ticks. -/
def shift (d : Nat) (s : ExecutorState) : ExecutorState :=
  { s with tick := s.tick + d, cordonObservedAt := s.cordonObservedAt.map (· + d) }

theorem shift_next :
    { s.shift d with tick := (s.shift d).tick + 1 } = shift d { s with tick := s.tick + 1 } := by
  simp only [shift, Nat.add_right_comm]

theorem shift_observedEarlier : (s.shift d).observedEarlier = s.observedEarlier := by
  cases seen : s.cordonObservedAt <;> simp [observedEarlier, shift, seen]

theorem shift_confirmCordon : (s.shift d).confirmCordon = s.confirmCordon.shift d := by
  cases seen : s.cordonObservedAt <;> simp [confirmCordon, shift, seen]

end ExecutorState

namespace Executor

open ExecutorState

variable {σ : Type}

/-- An answer whose state has counted so many more ticks. -/
def shifted {α : Type} (d : Nat) (p : α × ExecutorState × σ) : α × ExecutorState × σ :=
  (p.1, p.2.1.shift d, p.2.2)

variable [ClusterApi σ] [Journal σ] {x : Executor} {d : Nat} {s : ExecutorState} {w : σ}
  {read : NodeState} {v : Verdict}

theorem cordon_shift : x.cordon read (s.shift d) w = shifted d (x.cordon read s w) := by
  unfold cordon
  split
  · rw [shift_confirmCordon]
    rfl
  split
  · rw [shift_confirmCordon]
    rfl
  obtain ⟨answer, w'⟩ := x.scope.change .cordon w
  cases answer with
  | ok =>
    simp only [shift_confirmCordon]
    rfl
  | error => rfl

theorem delete_shift (reason : String) :
    x.delete reason (s.shift d) w = shifted d (x.delete reason s w) := by
  unfold delete
  split
  · rfl
  obtain ⟨answer, w'⟩ := x.scope.change .delete w
  cases answer with
  | ok => rfl
  | error => rfl

theorem deleteOrCordon_shift (reason : String) :
    x.deleteOrCordon reason read (s.shift d) w = shifted d (x.deleteOrCordon reason read s w) := by
  unfold deleteOrCordon mayDelete
  rw [shift_observedEarlier]
  split
  · exact delete_shift reason
  · rw [cordon_shift]
    obtain ⟨result, s', w'⟩ := x.cordon read s (x.tell .deletionDeferred w)
    cases result with
    | ok => rfl
    | error => rfl

theorem publish_shift : x.publish v (s.shift d) w = shifted d (x.publish v s w) := by
  unfold publish
  have known : (s.shift d).published = s.published := rfl
  dsimp only
  rw [known]
  split
  · rfl
  split
  · rfl
  obtain ⟨answer, w'⟩ :=
    x.scope.change (.label ((ScoreLabels.ofVerdict x.mode v).entries x.config)) w
  cases answer with
  | ok => rfl
  | error => rfl

theorem awaitRegistration_shift :
    x.awaitRegistration (s.shift d) w = shifted d (x.awaitRegistration s w) := by
  unfold awaitRegistration
  have gone : (s.shift d).deleted = s.deleted := rfl
  rw [gone]
  split
  · obtain ⟨answer, w'⟩ := x.scope.get w
    cases answer with
    | ok => rfl
    | error e => cases e <;> rfl
  · rfl

theorem act_shift (action : NodeAction) (reason : String) :
    x.act action reason (s.shift d) w = shifted d (x.act action reason s w) := by
  unfold act
  split
  · rfl
  · obtain ⟨answer, w'⟩ := x.scope.get w
    cases answer with
    | ok read => exact cordon_shift (s := { s with pendingCordon := true })
    | error => rfl
  · obtain ⟨answer, w'⟩ := x.scope.get w
    cases answer with
    | ok read => exact deleteOrCordon_shift (s := { s with pendingCordon := true }) reason
    | error => rfl

theorem publishAfter_shift (outcome : ExecutionOutcome) :
    x.publishAfter outcome v (s.shift d) w = shifted d (x.publishAfter outcome v s w) := by
  unfold publishAfter
  split
  · rw [publish_shift]
    obtain ⟨result, s', w'⟩ := x.publish v s w
    cases result with
    | ok => rfl
    | error => rfl
  · rfl

theorem carryOut_shift : x.carryOut v (s.shift d) w = shifted d (x.carryOut v s w) := by
  unfold carryOut
  have action : x.effectiveAction v.action (s.shift d) = x.effectiveAction v.action s := rfl
  have told : x.tellOverride v.action (s.shift d) w = x.tellOverride v.action s w := rfl
  rw [action, told, act_shift]
  obtain ⟨result, s', w'⟩ :=
    x.act (x.effectiveAction v.action s) v.reason s (x.tellOverride v.action s w)
  cases result with
  | ok outcome => exact publishAfter_shift outcome
  | error => rfl

theorem execute_shift : x.execute v (s.shift d) w = shifted d (x.execute v s w) := by
  rw [execute_eq, execute_eq, awaitRegistration_shift]
  obtain ⟨there, s', w'⟩ := x.awaitRegistration s w
  cases there with
  | error => rfl
  | ok there =>
    cases there with
    | false => rfl
    | true => exact carryOut_shift

omit [ClusterApi σ] in
theorem settle_shift (result : Except ClusterError ExecutionOutcome) :
    x.settle result (s.shift d) w = ((x.settle result s w).1.shift d, (x.settle result s w).2) := by
  unfold settle
  split
  · rfl
  · split <;> rfl

theorem attempt_shift : x.attempt v (s.shift d) w = shifted d (x.attempt v s w) := by
  unfold attempt
  rw [execute_shift]
  obtain ⟨result, s', w'⟩ := x.execute v s w
  simp only [shifted, settle_shift]

/-- How many ticks an executor has counted does not matter to what it does. -/
theorem apply_shift : x.apply v (s.shift d) w = shifted d (x.apply v s w) := by
  have kept : (s.shift d).observeOnly = s.observeOnly := rfl
  have left : (s.shift d).skipTicks = s.skipTicks := rfl
  cases latched : s.observeOnly with
  | true =>
    rw [apply_of_latched latched, apply_of_latched (kept.trans latched), shift_next]
    rfl
  | false =>
    by_cases waits : 0 < s.skipTicks
    · rw [apply_of_waiting latched waits, apply_of_waiting (kept.trans latched) waits]
      have next := shift_next (d := d) (s := { s with skipTicks := s.skipTicks - 1 })
      exact congrArg (fun t => (_, t, _)) next
    · have ready : s.skipTicks = 0 := by simpa using waits
      rw [apply_of_ready latched ready, apply_of_ready (kept.trans latched) (left.trans ready),
        shift_next, attempt_shift]

end Executor

end NodeWarden
