import NodeWarden.Proofs.Executor.Run

/-!
# Two-phase deletion

A node is deleted only after its cordon was confirmed by an earlier application. Two bars stand
before a deletion, and only a confirmed cordon ends either: the executor remembers no cordon
(`memory_bar`), and the node is schedulable (`schedulable_bar`). The laws of this module differ in
what raises one of them: the start of the run and a node that is found back
(`deletion_two_phase`), a Cordon call that failed (`deletion_after_failed_cordon`), a verdict that
asks for nothing (`deletion_after_reset`).
-/

namespace NodeWarden

namespace Executor

variable {x : Executor} {c : MemoryCluster} {steps : List ExecutorStep} {i t : Nat}
  {a b : Application}

/-! ## The bars -/

theorem memory_bar :
    History.Bar x.advance (fun st => x.NeedsCordon st.1) Application.Deletes
      Application.ConfirmsCordon where
  silent := by
    intro st step needs silent
    rwa [advance_silent silent]
  safe := by
    intro st step a needs made
    obtain ⟨took, before, -⟩ := advance_spec made
    exact Application.not_deletes took (before ▸ needs)
  kept := by
    intro st step a needs made
    obtain ⟨took, before, after, -⟩ := advance_spec made
    rw [← after]
    exact Application.needsCordon_or_confirms took (before ▸ needs)

theorem schedulable_bar :
    History.Bar x.advance (fun st => st.2.Schedulable x.scope.node.name) Application.Deletes
      Application.ConfirmsCordon where
  silent := by
    intro st step hs silent
    cases step with
    | apply v => cases silent
    | event e => exact hs.happen e
    | wait ms => exact hs.of_nodes (MemoryCluster.pass_nodes ms)
  safe := by
    intro st step a hs made
    obtain ⟨took, -, -, answered⟩ := advance_spec made
    exact (took.schedulable answered hs).1
  kept := by
    intro st step a hs made
    obtain ⟨took, -, -, answered⟩ := advance_spec made
    exact (took.schedulable answered hs).2

/-- Every application of a run took one of the courses. -/
theorem took_of_applications (hi : (x.applications c steps)[i]? = some a) : a.Took x := by
  obtain ⟨_, _, _, -, -, made⟩ := History.exists_input hi
  exact (advance_spec made).1

/-- If an application left no memory of the cordon, then a deletion comes after one that has been
confirmed since. -/
theorem confirms_between (hi : (x.applications c steps)[i]? = some a)
    (needs : x.NeedsCordon a.after) (ht : (x.applications c steps)[t]? = some b) (hit : i < t)
    (deletes : b.Deletes) :
    ∃ j d, i < j ∧ j < t ∧ (x.applications c steps)[j]? = some d ∧ d.ConfirmsCordon := by
  refine memory_bar.good_between hi (fun st step made => ?_) ht hit deletes
  obtain ⟨-, -, after, -⟩ := advance_spec made
  rwa [← after]

/-- The last confirmed cordon before a deletion: since then the executor has not started over. -/
theorem last_confirmation (ht : (x.applications c steps)[t]? = some b) (deletes : b.Deletes) :
    ∃ j d, j < t ∧ (x.applications c steps)[j]? = some d ∧ d.ConfirmsCordon ∧
      ∀ k e, j < k → k < t → (x.applications c steps)[k]? = some e →
        ¬ e.ConfirmsCordon ∧ ¬ e.StartsOver := by
  refine memory_bar.last_good (.inr (.inr (.inr rfl))) Application.StartsOver
    (fun st step e made anew => ?_) ht deletes
  obtain ⟨took, -, after, -⟩ := advance_spec made
  rw [← after]
  exact Application.startsOver_forgets took anew

/-! ## Deletions -/

/-- A deletion is asked for and allowed, comes right after a read that shows the node unschedulable,
and after an application that confirmed the cordon and since which the node was not found back. -/
theorem deletion_two_phase (hi : (x.applications c steps)[i]? = some a) (deletes : a.Deletes) :
    (a.verdict.action = .delete ∧ x.config.allowDelete = true ∧ x.config.dryRun = false ∧
      a.before.observeOnly = false ∧ a.before.skipTicks = 0) ∧
    (∃ read answer, a.exchanges =
        [.read x.scope.node.name (.ok read), .change .delete x.scope.node.name answer] ∧
      read.name = x.scope.node.name ∧ read.unschedulable = true) ∧
    ∃ j b, j < i ∧ (x.applications c steps)[j]? = some b ∧ b.ConfirmsCordon ∧
      ∀ k d, j < k → k ≤ i → (x.applications c steps)[k]? = some d → ¬ d.FindsReturn := by
  have spec := Application.deletes_spec (took_of_applications hi) deletes
  obtain ⟨j, b, hji, hj, confirms, since⟩ := last_confirmation hi deletes
  refine ⟨⟨spec.asked, spec.allowed, spec.wet, spec.unlatched, spec.ready⟩, spec.calls,
    j, b, hji, hj, confirms, fun k d hjk hki hk back => ?_⟩
  -- the deleting application itself cannot have found the node back
  rcases Nat.lt_or_eq_of_le hki with hki | rfl
  · exact (since k d hjk hki hk).2 (.inl back)
  · cases hi.symm.trans hk
    exact spec.not_findsReturn back

/-- A cordon and a deletion. -/
theorem deletion_two_phase_trial :
    ∃ a, ((trial false).applications (.withNodes ["node-a"])
        [.apply (.trial .cordon), .apply (.trial .delete)])[1]? = some a ∧ a.Deletes ∧
      ∃ j b, j < 1 ∧ ((trial false).applications (.withNodes ["node-a"])
        [.apply (.trial .cordon), .apply (.trial .delete)])[j]? = some b ∧ b.ConfirmsCordon := by
  refine ⟨_, rfl, by decide, ?_⟩
  exact (deletion_two_phase (i := 1) rfl (by decide)).2.2.imp fun j ⟨b, before, hj, confirms, _⟩ =>
    ⟨b, before, hj, confirms⟩

/-- If a cordon fails and stays pending, then a deletion comes only after a further
confirmed cordon. The exception is a cordon that failed because its node could not be read:
then an earlier confirmed cordon counts, unless the executor has started over since. -/
theorem deletion_after_failed_cordon {e : ClusterError} (hi : (x.applications c steps)[i]? = some a)
    (cordon : a.verdict.action = .cordon) (failed : a.result = .error e)
    (pending : a.after.pendingCordon = true) (ht : (x.applications c steps)[t]? = some b)
    (hit : i < t) (deletes : b.Deletes) :
    (∃ j d, i < j ∧ j < t ∧ (x.applications c steps)[j]? = some d ∧ d.ConfirmsCordon) ∨
    ((∃ call, a.exchanges = [call] ∧ call.kind = .get ∧ call.finds x.scope.node.name = false) ∧
      ∃ j d, j < i ∧ (x.applications c steps)[j]? = some d ∧ d.ConfirmsCordon ∧
        ∀ k e, j < k → k < t → (x.applications c steps)[k]? = some e → ¬ e.StartsOver) := by
  have took := took_of_applications hi
  rcases Application.cordon_failed took cordon failed pending with
    needs | ⟨answer, only, refused⟩ | ⟨read, calls, fresh⟩
  · exact .inl (confirms_between hi needs ht hit deletes)
  · -- the failed read leaves every earlier cordon in the executor's memory
    have lost := x.scope.finds_of_accept_eq_error refused x.scope.node.name
    obtain ⟨j, d, hjt, hj, confirms, since⟩ := last_confirmation ht deletes
    rcases Nat.lt_trichotomy j i with hji | rfl | hij
    · exact .inr ⟨⟨_, only, rfl, lost⟩, j, d, hji, hj, confirms, fun k e hjk hkt hk =>
        (since k e hjk hkt hk).2⟩
    · cases hi.symm.trans hj
      exact absurd confirms (took.not_confirmsCordon only rfl lost)
    · exact .inl ⟨j, d, hij, hjt, hj, confirms⟩
  · -- the executor may remember an earlier cordon, but an operator has lifted it: the node
    -- is schedulable
    refine .inl (schedulable_bar.good_between hi (fun st step made => ?_) ht hit deletes)
    obtain ⟨-, -, -, answered⟩ := advance_spec made
    rw [calls] at answered
    exact answered.schedulable_of_failed fresh

/-- A cordon that fails, a deletion that only cordons, and one that deletes. -/
theorem deletion_after_failed_cordon_trial :
    ∃ j d, 0 < j ∧ j < 2 ∧ ((trial false).applications (.withNodes ["node-a"])
      [.event (.failNext .cordon (.api "reset")), .apply (.trial .cordon),
        .apply (.trial .delete), .apply (.trial .delete)])[j]? = some d ∧ d.ConfirmsCordon := by
  refine (deletion_after_failed_cordon (i := 0) (t := 2) rfl rfl rfl rfl rfl (by decide)
    (by decide)).resolve_right ?_
  rintro ⟨-, j, -, before, -⟩
  omega

/-- If a node that is known to be cordoned cannot be read, then its cordon stays pending,
and the next verdict may delete it nevertheless. -/
theorem pending_cordon_deletes :
    ¬ ∀ (x : Executor) (c : MemoryCluster) (steps : List ExecutorStep) (i t : Nat)
      (a b : Application) (e : ClusterError),
      (x.applications c steps)[i]? = some a → a.verdict.action = .cordon → a.result = .error e →
      e.isTransient = true → a.after.pendingCordon = true →
      (x.applications c steps)[t]? = some b → i < t → b.Deletes →
      ∃ j d, i < j ∧ j < t ∧ (x.applications c steps)[j]? = some d ∧ d.ConfirmsCordon := by
  intro law
  obtain ⟨j, -, after, before, -⟩ := law (trial false) (.withNodes ["node-a"])
    [.apply (.trial .cordon), .event (.failNext .get (.api "reset")), .apply (.trial .cordon),
      .apply (.trial .delete)]
    1 2 _ _ _ rfl rfl rfl rfl rfl rfl (by decide) (by decide)
  omega

/-- If a verdict asks for nothing while no cordon is pending, and its tick is not skipped, then a
deletion comes only after a further confirmed cordon. -/
theorem deletion_after_reset (hi : (x.applications c steps)[i]? = some a)
    (idle : a.verdict.action = .none) (unpending : a.before.pendingCordon = false)
    (tried : ∀ n, a.result ≠ .ok (.backingOff n)) (ht : (x.applications c steps)[t]? = some b)
    (hit : i < t) (deletes : b.Deletes) :
    ∃ j d, i < j ∧ j < t ∧ (x.applications c steps)[j]? = some d ∧ d.ConfirmsCordon :=
  confirms_between hi
    (Application.none_forgets (took_of_applications hi) idle unpending tried) ht hit deletes

/-- A cordon, a verdict that asks for nothing, a cordon and a deletion. -/
theorem deletion_after_reset_trial :
    ∃ j d, 1 < j ∧ j < 3 ∧ ((trial false).applications (.withNodes ["node-a"])
      [.apply (.trial .cordon), .apply (.trial .none), .apply (.trial .cordon),
        .apply (.trial .delete)])[j]? = some d ∧ d.ConfirmsCordon := by
  have tried (n : UInt32) :
      (.ok .noAction : Except ClusterError ExecutionOutcome) ≠ .ok (.backingOff n) := by
    simp
  exact deletion_after_reset (i := 1) (t := 3) rfl rfl rfl tried rfl (by decide) (by decide)

/-- A skipped tick resets nothing. Here the labels fail twice on a cordoned node, so the executor
skips the tick whose verdict asks for nothing, and deletes the node on the next. -/
theorem skipped_reset_deletes :
    ¬ ∀ (x : Executor) (c : MemoryCluster) (steps : List ExecutorStep) (i t : Nat)
        (a b : Application),
      (x.applications c steps)[i]? = some a → a.verdict.action = .none →
      a.before.pendingCordon = false → (x.applications c steps)[t]? = some b → i < t → b.Deletes →
      ∃ j d, i < j ∧ j < t ∧ (x.applications c steps)[j]? = some d ∧ d.ConfirmsCordon := by
  intro law
  obtain ⟨j, -, after, before, -⟩ := law (trial true) (.withNodes ["node-a"])
    [.event (.failNext .updateLabels (.api "busy")), .apply (.trial .cordon),
      .event (.failNext .updateLabels (.api "busy")), .apply (.trial .cordon),
      .apply (.trial .none), .apply (.trial .delete)]
    2 3 _ _ rfl rfl rfl rfl (by decide) (by decide)
  omega

end Executor

end NodeWarden
