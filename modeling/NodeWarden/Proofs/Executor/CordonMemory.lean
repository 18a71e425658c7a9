import NodeWarden.Proofs.Executor.Confirmation

/-!
# The memory of the cordon

What one application does to the executor's memory of the cordon. These are the steps of every law
about deletions:

* a Delete call is made only by an executor that remembers a cordon (`deletes_spec`), and on a node
  that is not schedulable (`Took.schedulable`);
* an executor that remembers none gets to remember one by confirming the cordon
  (`needsCordon_or_confirms`);
* an executor forgets the cordon when it finds its node back or a verdict asks for nothing
  (`startsOver_forgets`), and a verdict that succeeds has it forgotten or confirms it
  (`success_settles`);
* a cordon that fails and stays pending failed at the read or after it (`cordon_failed`).
-/

namespace NodeWarden

namespace Application

open Executor

/-- An application that took one of the courses of the executor. -/
def Took (x : Executor) (a : Application) : Prop :=
  a.node = x.scope.node ∧ x.ApplyCourse a.verdict a.before a.exchanges a.result a.after

theorem took (x : Executor) (v : Verdict) (s : ExecutorState) (c : MemoryCluster) :
    (x.application v s c).Took x :=
  ⟨rfl, application_course⟩

variable {x : Executor} {a : Application} {c c' : MemoryCluster}

/-- A verdict meets the latch, or is skipped, or is carried out. -/
theorem Took.cases (h : a.Took x) :
    (a.before.observeOnly = true ∧ a.exchanges = [] ∧ a.result = .ok .observeOnly ∧
      a.after = { a.before with tick := a.before.tick + 1 }) ∨
    (a.before.observeOnly = false ∧ 0 < a.before.skipTicks ∧ a.exchanges = [] ∧
      a.result = .ok (.backingOff (a.before.skipTicks - 1)) ∧
      a.after = { a.before with
        tick := a.before.tick + 1, skipTicks := a.before.skipTicks - 1 }) ∨
    (a.before.observeOnly = false ∧ a.before.skipTicks = 0 ∧
      ∃ s', x.ExecuteCourse a.verdict { a.before with tick := a.before.tick + 1 } a.exchanges
        a.result s' ∧ a.after = x.remember a.result s') := by
  obtain ⟨node, v, s, xs, result, s'⟩ := a
  obtain ⟨-, went⟩ := h
  dsimp only at went ⊢
  cases went with
  | observing latched => exact .inl ⟨latched, rfl, rfl, rfl⟩
  | backingOff unlatched waits => exact .inr (.inl ⟨unlatched, waits, rfl, rfl, rfl⟩)
  | executed unlatched ready went => exact .inr (.inr ⟨unlatched, ready, _, went, rfl⟩)

/-- If nothing keeps the executor from acting, the verdict is carried out. -/
theorem Took.carried_out (h : a.Took x) (active : a.before.observeOnly = false)
    (ready : a.before.skipTicks = 0) :
    ∃ s', x.ExecuteCourse a.verdict { a.before with tick := a.before.tick + 1 }
      a.exchanges a.result s' ∧ a.after = x.remember a.result s' := by
  rcases h.cases with ⟨latched, -⟩ | ⟨-, waits, -⟩ | ⟨-, -, went⟩
  · exact absurd (latched.symm.trans active) (by decide)
  · rw [ready] at waits
    exact absurd waits (by decide)
  · exact went

/-- Only a skipped tick reports that it was skipped. -/
theorem Took.executed_of_ok {outcome : ExecutionOutcome} (h : a.Took x)
    (done : a.result = .ok outcome) (carried : outcome.skips = false) :
    ∃ s', x.ExecuteCourse a.verdict { a.before with tick := a.before.tick + 1 }
      a.exchanges a.result s' ∧ a.after = x.remember a.result s' := by
  rcases h.cases with ⟨-, -, skipped, -⟩ | ⟨-, -, -, skipped, -⟩ | ⟨-, -, s', went, after⟩
  · cases skipped.symm.trans done
    cases carried
  · cases skipped.symm.trans done
    cases carried
  · exact ⟨s', went, after⟩

theorem Took.executed_of_error {e : ClusterError} (h : a.Took x) (failed : a.result = .error e) :
    ∃ s', x.ExecuteCourse a.verdict { a.before with tick := a.before.tick + 1 }
      a.exchanges a.result s' ∧ a.after = x.remember a.result s' := by
  rcases h.cases with ⟨-, -, skipped, -⟩ | ⟨-, -, -, skipped, -⟩ | ⟨-, -, s', went, after⟩
  · cases skipped.symm.trans failed
  · cases skipped.symm.trans failed
  · exact ⟨s', went, after⟩

/-- What an executor was like that made a Delete call, and what it saw. -/
structure Deletion (x : Executor) (a : Application) : Prop where
  asked : a.verdict.action = .delete
  allowed : x.config.allowDelete = true
  wet : x.config.dryRun = false
  unlatched : a.before.observeOnly = false
  ready : a.before.skipTicks = 0
  present : a.before.deleted = false
  remembers : a.before.cordonObservedAt ≠ none
  calls : ∃ read answer, a.exchanges = [x.asked (.ok read), x.told .delete answer] ∧
    read.name = x.scope.node.name ∧ read.unschedulable = true

theorem deletes_spec (h : a.Took x) (deletes : a.Deletes) : a.Deletion x := by
  rcases h.cases with ⟨-, none, -⟩ | ⟨-, -, none, -⟩ | ⟨unlatched, ready, s', went, -⟩
  · simp [Deletes, none] at deletes
  · simp [Deletes, none] at deletes
  · obtain ⟨asked, allowed, wet, present, remembers, calls⟩ := went.of_delete deletes
    exact ⟨asked, allowed, wet, unlatched, ready, present, remembers, calls⟩

theorem not_deletes (h : a.Took x) (needs : x.NeedsCordon a.before) : ¬ a.Deletes := by
  intro deletes
  have spec := deletes_spec h deletes
  rcases needs with dry | latched | gone | none
  · exact absurd (dry.symm.trans spec.wet) (by decide)
  · exact absurd (latched.symm.trans spec.unlatched) (by decide)
  · exact absurd (gone.symm.trans spec.present) (by decide)
  · exact spec.remembers none

/-- A verdict that is carried out settles whether the next deletion needs a confirmation, unless it
fails on a node that is there before it can confirm the cordon. -/
theorem settled (h : a.Took x) (tried : ∀ n, a.result ≠ .ok (.backingOff n)) :
    x.NeedsCordon a.after ∨ a.ConfirmsCordon ∨
      a.before.observeOnly = false ∧ a.before.deleted = false ∧
        ∃ e, a.result = .error e ∧ a.after.cordonObservedAt = a.before.cordonObservedAt := by
  rcases h.cases with ⟨latched, -, -, after⟩ | ⟨-, -, -, skipped, -⟩ |
    ⟨unlatched, -, s', went, after⟩
  · rw [after]
    exact .inl (.inr (.inl latched))
  · exact absurd skipped (tried _)
  · rcases went.settled with needs | confirms | ⟨there, e, error, same⟩
    · rw [after]
      exact .inl needs.remember
    · rw [ConfirmsCordon, h.1]
      exact .inr (.inl confirms)
    · refine .inr (.inr ⟨unlatched, there, e, error, ?_⟩)
      rw [after, remember_cordonObservedAt, same]

/-- If a deletion needs a confirmation, then it still does after the next verdict, or that verdict
confirms the cordon. -/
theorem needsCordon_or_confirms (h : a.Took x) (needs : x.NeedsCordon a.before) :
    x.NeedsCordon a.after ∨ a.ConfirmsCordon := by
  by_cases tried : ∀ n, a.result ≠ .ok (.backingOff n)
  · rcases settled h tried with needs' | confirms | ⟨unlatched, there, _, -, same⟩
    · exact .inl needs'
    · exact .inr confirms
    · rcases needs with dry | latched | gone | none
      · exact .inl (.inl dry)
      · exact absurd (latched.symm.trans unlatched) (by decide)
      · exact absurd (gone.symm.trans there) (by decide)
      · exact .inl (.inr (.inr (.inr (same.trans none))))
  · -- a skipped tick, like a latched one, leaves the memory alone
    rcases h.cases with ⟨-, -, -, after⟩ | ⟨-, -, -, -, after⟩ | ⟨-, -, s', went, -⟩
    · rw [after]
      exact .inl needs
    · rw [after]
      exact .inl needs
    · refine absurd (fun n skipped => ?_) tried
      have unskipped : true = false := went.not_skips skipped
      cases unskipped

/-- An executor that finds its node back starts anew. -/
theorem findsReturn_forgets (h : a.Took x) (back : a.FindsReturn) :
    x.NeedsCordon a.after ∨ a.ConfirmsCordon := by
  obtain ⟨gone, -⟩ := back
  exact needsCordon_or_confirms h (.inr (.inr (.inl gone)))

/-- A verdict that succeeds and was not skipped leaves no memory of the cordon, or confirms it. -/
theorem success_settles (h : a.Took x) {outcome : ExecutionOutcome} (ok : a.result = .ok outcome)
    (tried : ∀ n, outcome ≠ .backingOff n) : x.NeedsCordon a.after ∨ a.ConfirmsCordon := by
  have tried : ∀ n, a.result ≠ .ok (.backingOff n) := fun n skipped =>
    tried n (Except.ok.inj (ok.symm.trans skipped))
  rcases settled h tried with needs | confirms | ⟨-, -, _, error, -⟩
  · exact .inl needs
  · exact .inr confirms
  · rw [ok] at error
    cases error

/-- A cordon that fails and stays pending: a deletion needs a confirmation, or the read failed, or
the node was read schedulable. -/
theorem cordon_failed (h : a.Took x) {e : ClusterError} (cordon : a.verdict.action = .cordon)
    (failed : a.result = .error e) (pending : a.after.pendingCordon = true) :
    x.NeedsCordon a.after ∨
      (∃ answer, a.exchanges = [x.asked answer] ∧ x.scope.accept answer = .error e) ∨
      ∃ read, a.exchanges = [x.asked (.ok read), x.told .cordon (.error e)] ∧
        read.unschedulable = false := by
  rcases h.cases with ⟨-, -, ok, -⟩ | ⟨-, -, -, ok, -⟩ | ⟨-, -, s', went, after⟩
  · cases ok.symm.trans failed
  · cases ok.symm.trans failed
  · rw [after, remember_pendingCordon] at pending
    rw [failed] at went
    rcases went.cordon_failed cordon pending with needs | called
    · rw [after]
      exact .inl needs.remember
    · exact .inr called

/-- A verdict that asks for nothing, while no cordon is pending and the tick is not skipped, leaves
no memory of the cordon. -/
theorem none_forgets (h : a.Took x) (none : a.verdict.action = .none)
    (unpending : a.before.pendingCordon = false) (tried : ∀ n, a.result ≠ .ok (.backingOff n)) :
    x.NeedsCordon a.after := by
  rcases h.cases with ⟨latched, -, -, after⟩ | ⟨-, -, -, skipped, -⟩ | ⟨-, -, s', went, after⟩
  · rw [after]
    exact .inr (.inl latched)
  · exact absurd skipped (tried _)
  · rw [after]
    exact (went.forgets none unpending).remember

instance : Decidable a.Deletes := inferInstanceAs (Decidable (∃ e ∈ a.exchanges, e.kind = .delete))

/-- The application makes the executor start over: the node is back, or a verdict asked for nothing
while no cordon was pending and the tick was not skipped. -/
def StartsOver (a : Application) : Prop :=
  a.FindsReturn ∨
    a.verdict.action = .none ∧ a.before.pendingCordon = false ∧ ∀ n, a.result ≠ .ok (.backingOff n)

theorem startsOver_forgets (h : a.Took x) (anew : a.StartsOver) :
    x.NeedsCordon a.after ∨ a.ConfirmsCordon := by
  rcases anew with back | ⟨none, unpending, tried⟩
  · exact findsReturn_forgets h back
  · exact .inl (none_forgets h none unpending tried)

theorem Deletion.not_findsReturn (h : a.Deletion x) : ¬ a.FindsReturn := by
  rintro ⟨gone, -⟩
  exact absurd (gone.symm.trans h.present) (by decide)

/-- What is not a read is one of the calls made for the action and the labels. -/
theorem Took.mem_conduct (h : a.Took x) {e : Exchange} (he : e ∈ a.exchanges)
    (change : e.kind ≠ .get) : e ∈ a.conduct := by
  rcases h.cases with ⟨-, none, -⟩ | ⟨-, -, none, -⟩ | ⟨-, -, s', went, -⟩
  · simp [none] at he
  · simp [none] at he
  · by_cases gone : a.before.deleted = true
    · -- the first call is the one that `conduct` leaves out, and it is a read
      obtain ⟨answer, xs, calls⟩ := went.begins_with_read gone
      rw [conduct, if_pos gone, calls]
      rw [calls] at he
      rcases List.mem_cons.1 he with rfl | he
      · exact absurd rfl change
      · exact he
    · rwa [conduct, if_neg gone]

/-- A read that does not find the node confirms nothing. -/
theorem Took.not_confirmsCordon (h : a.Took x) {e : Exchange} (only : a.exchanges = [e])
    (read : e.kind = .get) (lost : e.finds x.scope.node.name = false) : ¬ a.ConfirmsCordon := by
  have mem {e'} (he : e' ∈ a.conduct) : e' = e := by
    simpa [only] using mem_of_mem_conduct he
  rw [ConfirmsCordon, h.1]
  rintro (⟨e', he, cordoned⟩ | ⟨⟨e', he, shown⟩, -⟩)
  · cases mem he
    rw [Exchange.kind_of_cordoned cordoned] at read
    cases read
  · cases mem he
    rw [Exchange.finds_of_showsCordon shown] at lost
    cases lost

/-- On a schedulable node nothing is deleted, and it stays schedulable unless its cordon is
confirmed. -/
theorem Took.schedulable (h : a.Took x) (answered : c.Answered x.scope a.exchanges c')
    (hs : c.Schedulable x.scope.node.name) :
    ¬ a.Deletes ∧ (c'.Schedulable x.scope.node.name ∨ a.ConfirmsCordon) := by
  rcases answered.schedulable hs with ⟨e, he, cordoned⟩ | ⟨hs', unseen⟩
  · have change : e.kind ≠ .get := by
      rw [Exchange.kind_of_cordoned cordoned]
      decide
    -- a deletion makes no Cordon call
    refine ⟨fun deletes => ?_, .inr (.inl ⟨e, h.mem_conduct he change, cordoned⟩)⟩
    obtain ⟨read, answer, calls, -⟩ := (deletes_spec h deletes).calls
    rw [calls] at he
    rcases List.mem_cons.1 he with rfl | he
    · cases cordoned
    · cases List.mem_singleton.1 he
      cases cordoned
  · -- a deletion has read the node unschedulable
    refine ⟨fun deletes => ?_, .inl hs'⟩
    obtain ⟨read, answer, calls, own, seen⟩ := (deletes_spec h deletes).calls
    have shown := unseen (x.asked (.ok read)) (by simp [calls])
    rw [Executor.asked_showsCordon (x.scope.accept_eq_ok.2 ⟨rfl, own⟩), seen] at shown
    cases shown

end Application

end NodeWarden
