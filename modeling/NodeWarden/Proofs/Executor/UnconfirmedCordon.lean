import NodeWarden.Proofs.Executor.DeletionMemory
import NodeWarden.Proofs.Executor.Effect
import NodeWarden.Proofs.Executor.PendingCordon
import NodeWarden.Proofs.Executor.TwoPhase

/-!
# Unconfirmed cordons

A cordon is pending exactly as long as it is unconfirmed (`pending_iff_unconfirmed`). A
verdict that succeeds leaves none pending, one that fails before it could confirm the cordon
leaves it pending, and a skipped tick changes nothing about it; so nothing but a
confirmation or a deletion ends a pending cordon. There is one exception: a deletion in a
dry run leaves pending the cordon that it takes for done, and the next verdict that asks for
nothing tries it again (`rehearsed_deletion_pends`).
-/

namespace NodeWarden

/-- Calls that complete an action still do so together with those for its labels. -/
theorem Exchange.Completes.labelled {name : String} {xs ys : List Exchange}
    {outcome : ExecutionOutcome} {published : Except ClusterError Unit}
    (h : Exchange.Completes name xs (.ok outcome)) (labels : ∀ e ∈ ys, e.kind = .updateLabels) :
    Exchange.Completes name (xs ++ ys) (published.map fun _ => outcome) := by
  rcases h with confirms | ⟨e, he, deleted⟩
  · exact .inl (confirms.labelled labels)
  · exact .inr ⟨e, List.mem_append_left _ he, deleted⟩

namespace Executor

variable {x : Executor} {v : Verdict} {s s' : ExecutorState} {xs : List Exchange}
  {action : NodeAction} {read : NodeState} {result : Except ClusterError ExecutionOutcome}
  {outcome : ExecutionOutcome} {e : ClusterError}

/-! ## Success -/

theorem CordonCourse.unpending_of_ok (h : x.CordonCourse read s xs result s')
    (done : result = .ok outcome) : s'.pendingCordon = false ∧ outcome ≠ .deleted := by
  cases h with
  | already | rehearsed | cordoned =>
    cases done
    exact ⟨rfl, by simp⟩
  | failed => cases done

/-- An action that succeeds settles the cordon, unless it is a deletion in a dry run. -/
theorem ActCourse.pending_of_ok (h : x.ActCourse s action xs result s')
    (done : result = .ok outcome) (busy : action ≠ .none) :
    s'.pendingCordon = true ↔ outcome = .deleted ∧ x.config.dryRun = true := by
  cases h with
  | none => exact absurd rfl busy
  | unread => cases done
  | cordon _ went =>
    obtain ⟨unpending, kept⟩ := went.unpending_of_ok done
    simp [unpending, kept]
  | delete _ _ went =>
    cases went with
    | rehearsed dry =>
      cases done
      simp [dry]
    | deleted wet =>
      cases done
      simp [wet, ExecutorState.recordDeletion]
    | failed => cases done
  | @defer _ _ _ cordoned _ _ _ went =>
    cases cordoned with
    | error => cases done
    | ok =>
      cases done
      simp [(went.unpending_of_ok rfl).1]

theorem pendingCordon_of_effectiveAction_eq_none (h : x.effectiveAction action s = .none) :
    s.pendingCordon = false := by
  cases action with
  | none =>
    cases pending : s.pendingCordon with
    | false => rfl
    | true => simp [effectiveAction, pending] at h
  | cordon => cases h
  | delete =>
    simp only [effectiveAction] at h
    split at h <;> cases h

/-- So does a verdict on a node that is there, also one that comes to no action at all. -/
theorem VerdictCourse.pending_of_ok (h : x.VerdictCourse v s xs result s')
    (done : result = .ok outcome) :
    s'.pendingCordon = true ↔ outcome = .deleted ∧ x.config.dryRun = true := by
  have act {xs result outcome s'} (went : x.ActCourse s (x.effectiveAction v.action s) xs result s')
      (done : result = .ok outcome) :
      s'.pendingCordon = true ↔ outcome = .deleted ∧ x.config.dryRun = true := by
    by_cases idle : x.effectiveAction v.action s = .none
    · have unpending := pendingCordon_of_effectiveAction_eq_none idle
      rw [idle] at went
      cases went with
      | none =>
        cases done
        simp [unpending]
      | unread _ busy => exact absurd rfl busy
    · exact went.pending_of_ok done idle
  cases h with
  | failed => cases done
  | unlabelled went => exact act went done
  | @labelled _ _ _ _ _ published went _ _ labelled =>
    rw [labelled.state]
    cases published with
    | error => cases done
    | ok =>
      have settled := act went rfl
      cases done
      exact settled

/-! ## Failure -/

/-- An action that fails leaves the cordon pending. -/
theorem ActCourse.pending_of_error (h : x.ActCourse s action xs result s')
    (failed : result = .error e) :
    s'.pendingCordon = true := by
  cases h with
  | none => cases failed
  | unread => rfl
  | cordon _ went => cases went <;> first | rfl | cases failed
  | delete _ _ went => cases went <;> first | rfl | cases failed
  | @defer _ _ _ cordoned _ _ _ went =>
    cases cordoned with
    | ok => cases failed
    | error =>
      cases went with
      | failed => rfl

/-- Out of a dry run, an action that succeeds has confirmed the cordon or deleted the node. -/
theorem ActCourse.completes (h : x.ActCourse s action xs result s') (wet : x.config.dryRun = false)
    (done : result = .ok outcome) (busy : action ≠ .none) :
    Exchange.Completes x.scope.node.name xs result := by
  have cordon {answer : Except ClusterError NodeState} {read : NodeState} {xs s s' result}
      (accepted : x.scope.accept answer = .ok read) (went : x.CordonCourse read s xs result s')
      (done : ∃ outcome, result = .ok outcome) :
      Exchange.Confirms x.scope.node.name (x.asked answer :: xs) result := by
    cases went with
    | already seen =>
      refine .inr ⟨⟨_, List.mem_singleton.2 rfl, ?_⟩, by simp, by simp⟩
      rw [asked_showsCordon accepted, seen]
    | rehearsed _ dry => exact absurd (dry.symm.trans wet) (by decide)
    | cordoned => exact .inl ⟨x.told .cordon (.ok ()), by simp, rfl⟩
    | failed => obtain ⟨_, done⟩ := done; cases done
  cases h with
  | none => exact absurd rfl busy
  | unread => cases done
  | cordon accepted went => exact .inl (cordon accepted went ⟨_, done⟩)
  | delete _ _ went =>
    cases went with
    | rehearsed dry => exact absurd (dry.symm.trans wet) (by decide)
    | deleted => exact .inr ⟨x.told .delete (.ok ()), by simp, rfl⟩
    | failed => cases done
  | @defer _ _ _ cordoned _ accepted _ went =>
    cases cordoned with
    | error => cases done
    | ok => exact .inl ((cordon accepted went ⟨_, rfl⟩).map fun _ => by simp)

theorem VerdictCourse.completes (h : x.VerdictCourse v s xs result s')
    (wet : x.config.dryRun = false) (done : result = .ok outcome)
    (busy : x.effectiveAction v.action s ≠ .none) :
    Exchange.Completes x.scope.node.name xs result := by
  cases h with
  | failed => cases done
  | unlabelled went => exact went.completes wet rfl busy
  | labelled went _ _ published => exact (went.completes wet rfl busy).labelled published.kind

/-- A verdict to cordon or more that fails on a node that is there, and completes nothing,
leaves the cordon pending. -/
theorem VerdictCourse.pending_of_error (h : x.VerdictCourse v s xs result s')
    (failed : result = .error e) (busy : x.effectiveAction v.action s ≠ .none)
    (incomplete : ¬ Exchange.Completes x.scope.node.name xs result) : s'.pendingCordon = true := by
  cases h with
  | failed _ went => exact went.pending_of_error rfl
  | unlabelled => cases failed
  | labelled went _ _ published =>
    -- labels fail only out of a dry run, and then the action before them has completed what
    -- was pending
    have labels := published.kind
    cases published with
    | unchanged => cases failed
    | rehearsed => cases failed
    | published => cases failed
    | failed _ _ wet => exact absurd ((went.completes wet rfl busy).labelled labels) incomplete

/-- A verdict that completes nothing does not end a pending cordon. In a dry run that is one that
fails. -/
theorem VerdictCourse.pending_kept (h : x.VerdictCourse v s xs result s')
    (pending : s.pendingCordon = true)
    (incomplete : ¬ Exchange.Completes x.scope.node.name xs result)
    (failed : x.config.dryRun = true → ∀ outcome, result ≠ .ok outcome) :
    s'.pendingCordon = true := by
  have busy : x.effectiveAction v.action s ≠ .none := fun idle =>
    absurd (pending.symm.trans (pendingCordon_of_effectiveAction_eq_none idle)) (by decide)
  cases result with
  | error => exact h.pending_of_error rfl busy incomplete
  | ok outcome =>
    cases dry : x.config.dryRun with
    | true => exact absurd rfl (failed dry outcome)
    | false => exact absurd (h.completes dry rfl busy) incomplete

/-! ## Verdicts that are carried out -/

theorem ExecuteCourse.pending_of_ok (h : x.ExecuteCourse v s xs result s') (settled : s.Settled)
    (done : result = .ok outcome) :
    s'.pendingCordon = true ↔ outcome = .deleted ∧ x.config.dryRun = true := by
  cases h with
  | present _ went => exact went.pending_of_ok done
  | absent gone =>
    cases done
    simp [settled.pendingCordon gone]
  | unseen => cases done
  | returned _ _ went => exact went.pending_of_ok done

theorem ExecuteCourse.pending_of_error (h : x.ExecuteCourse v s xs result s')
    (failed : result = .error e) (busy : x.effectiveAction v.action s ≠ .none)
    (checked : s.deleted = true → ∃ e, xs.head? = some e ∧ e.finds x.scope.node.name = true)
    (incomplete : ¬ Exchange.Completes x.scope.node.name
      (if s.deleted then xs.tail else xs) result) :
    s'.pendingCordon = true := by
  cases h with
  | present there went =>
    rw [there] at incomplete
    exact went.pending_of_error failed busy incomplete
  | absent => cases failed
  | unseen _ gone refused =>
    -- the check for a registration is what failed
    obtain ⟨call, first, finds⟩ := checked gone
    cases first
    exact absurd (finds.symm.trans (x.scope.finds_of_accept_eq_error refused _)) (by decide)
  | returned gone _ went =>
    rw [gone] at incomplete
    exact went.pending_of_error failed busy incomplete

theorem ExecuteCourse.pending_kept (h : x.ExecuteCourse v s xs result s')
    (pending : s.pendingCordon = true)
    (incomplete : ¬ Exchange.Completes x.scope.node.name (if s.deleted then xs.tail else xs) result)
    (failed : x.config.dryRun = true → ∀ outcome, result ≠ .ok outcome) :
    s'.pendingCordon = true := by
  cases h with
  | present there went =>
    rw [there] at incomplete
    exact went.pending_kept pending incomplete failed
  | absent => exact pending
  | unseen => exact pending
  | returned gone _ went =>
    rw [gone] at incomplete
    exact went.pending_kept pending incomplete failed

/-- A verdict that asks for nothing, while no cordon is pending, comes to nothing. -/
theorem ExecuteCourse.noAction_of_idle (h : x.ExecuteCourse v s xs result s')
    (none : v.action = .none) (unpending : s.pendingCordon = false) (done : result = .ok outcome) :
    outcome = .noAction := by
  have verdict {t : ExecutorState} {xs} (went : x.VerdictCourse v t xs result s')
      (ht : t.pendingCordon = false) : outcome = .noAction := by
    have act {xs result outcome s'}
        (went : x.ActCourse t (x.effectiveAction v.action t) xs result s')
          (done : result = .ok outcome) :
        outcome = .noAction := by
      rw [none, effectiveAction, ht] at went
      cases went with
      | none =>
        cases done
        rfl
      | unread _ busy => exact absurd rfl busy
    cases went with
    | failed => cases done
    | unlabelled went => exact act went done
    | @labelled _ _ _ _ _ published went =>
      cases published with
      | error => cases done
      | ok => exact act went done
  cases h with
  | present _ went => exact verdict went unpending
  | absent =>
    cases done
    rfl
  | unseen => cases done
  | returned _ _ went => exact verdict went unpending

end Executor

/-! ## Applications -/

namespace Application

open Executor

variable {x : Executor} {a : Application} {outcome : ExecutionOutcome} {e : ClusterError}

/-- What was to be done is done: the cordon is confirmed or the node deleted, if only in a
dry run. -/
def Completes (x : Executor) (a : Application) : Prop :=
  a.ConfirmsCordon ∨ a.DeletesNode ∨
    x.config.dryRun = true ∧ ∃ outcome, a.result = .ok outcome ∧ outcome.skips = false

theorem Took.pending_of_ok (h : a.Took x) (settled : a.before.Settled)
    (done : a.result = .ok outcome) (carried : outcome.skips = false) :
    a.after.pendingCordon = true ↔ outcome = .deleted ∧ x.config.dryRun = true := by
  obtain ⟨s', went, after⟩ := h.executed_of_ok done carried
  rw [after, remember_pendingCordon]
  exact went.pending_of_ok (settled.congr rfl rfl rfl) done

theorem Took.pending_of_skips (h : a.Took x) (done : a.result = .ok outcome)
    (skips : outcome.skips = true) : a.after.pendingCordon = a.before.pendingCordon := by
  rcases h.cases with ⟨-, -, -, after⟩ | ⟨-, -, -, -, after⟩ | ⟨-, -, s', went, -⟩
  · rw [after]
  · rw [after]
  · exact absurd (skips.symm.trans (went.not_skips done)) (by decide)

/-- What the calls for the action complete, the application completes. -/
theorem Took.incomplete (h : a.Took x) (unconfirmed : ¬ a.ConfirmsCordon) (kept : ¬ a.DeletesNode) :
    ¬ Exchange.Completes x.scope.node.name
      (if a.before.deleted then a.exchanges.tail else a.exchanges) a.result := by
  rw [ConfirmsCordon, h.1] at unconfirmed
  rintro (confirms | ⟨e, he, deleted⟩)
  · exact unconfirmed confirms
  · exact kept ⟨e, mem_of_mem_conduct he, deleted⟩

theorem Took.pending_of_error (h : a.Took x) (failed : a.result = .error e)
    (busy : x.effectiveAction a.verdict.action a.before ≠ .none)
    (checked : a.before.deleted = true → a.FindsReturn) (unconfirmed : ¬ a.ConfirmsCordon)
    (kept : ¬ a.DeletesNode) : a.after.pendingCordon = true := by
  obtain ⟨s', went, after⟩ := h.executed_of_error failed
  rw [after, remember_pendingCordon]
  refine went.pending_of_error failed (fun idle => ?_) (fun gone => ?_)
    (h.incomplete unconfirmed kept)
  · exact busy ((effectiveAction_congr rfl _).symm.trans idle)
  · obtain ⟨-, call, first, finds⟩ := checked gone
    exact ⟨call, first, by rwa [← h.1]⟩

theorem Took.pending_kept (h : a.Took x) (pending : a.before.pendingCordon = true)
    (incomplete : ¬ a.Completes x) : a.after.pendingCordon = true := by
  obtain ⟨unconfirmed, rest⟩ := not_or.1 incomplete
  obtain ⟨kept, rehearsed⟩ := not_or.1 rest
  rcases h.cases with ⟨-, -, -, after⟩ | ⟨-, -, -, -, after⟩ | ⟨-, -, s', went, after⟩
  · rwa [after]
  · rwa [after]
  · rw [after, remember_pendingCordon]
    exact went.pending_kept pending (h.incomplete unconfirmed kept) fun dry outcome done =>
      rehearsed ⟨dry, outcome, done, went.not_skips done⟩

/-- A verdict that asks for nothing, while no cordon is pending, cordons nothing. -/
theorem Took.not_cordons_of_idle (h : a.Took x) (none : a.verdict.action = .none)
    (unpending : a.before.pendingCordon = false) : ¬ a.Cordons ∧ a.result ≠ .ok .cordoned := by
  refine ⟨fun cordons => ?_, fun done => ?_⟩
  · rcases h.cordons cordons with asks | pending
    · rw [none] at asks
      cases asks
    · exact absurd (pending.symm.trans unpending) (by decide)
  · obtain ⟨s', went, -⟩ := h.executed_of_ok done rfl
    cases went.noAction_of_idle none unpending done

end Application

/-! ## Runs -/

namespace Executor

variable {x : Executor} {c : MemoryCluster} {steps : List ExecutorStep} {i t : Nat}
  {a b : Application}

/-- In a run no cordon is ever pending while the executor takes its node for deleted. -/
theorem settled_of_applications (hi : (x.applications c steps)[i]? = some a) :
    a.before.Settled := by
  obtain ⟨st, step, settled, made⟩ := History.exists_related (R := fun st _ => st.1.Settled)
    (.of_present rfl)
    (fun st step _ settled silent => by rwa [advance_silent silent])
    (fun st step _ a settled made => by
      obtain ⟨took, before, after, -⟩ := advance_spec made
      rw [← after]
      exact took.settled_after (before ▸ settled)) hi
  obtain ⟨-, before, -⟩ := advance_spec made
  rwa [before]

/-- While a cordon is pending it stays so, until an application completes it. -/
theorem pending_bar :
    History.Bar x.advance (fun st => st.1.pendingCordon = true)
      (fun a => a.after.pendingCordon = false ∧ ¬ a.Completes x) (fun a => a.Completes x) where
  silent := by
    intro st step pending silent
    rwa [advance_silent silent]
  safe := by
    rintro st step a pending made ⟨ended, incomplete⟩
    obtain ⟨took, before, -⟩ := advance_spec made
    exact absurd (ended.symm.trans (took.pending_kept (before ▸ pending) incomplete)) (by decide)
  kept := by
    intro st step a pending made
    obtain ⟨took, before, after, -⟩ := advance_spec made
    rw [← after]
    by_cases completes : a.Completes x
    · exact .inr completes
    · exact .inl (took.pending_kept (before ▸ pending) completes)

/-- While no cordon is pending, a verdict that asks for nothing cordons nothing. -/
theorem unpending_bar :
    History.Bar x.advance (fun st => st.1.pendingCordon = false)
      (fun a => a.verdict.action = .none ∧ ¬ (¬ a.Cordons ∧ a.result ≠ .ok .cordoned))
      (fun _ => True) where
  silent := by
    intro st step unpending silent
    rwa [advance_silent silent]
  safe := by
    rintro st step a unpending made ⟨none, cordons⟩
    obtain ⟨took, before, -⟩ := advance_spec made
    exact cordons (took.not_cordons_of_idle none (before ▸ unpending))
  kept _ _ := .inr trivial

/-- A pending cordon is one that is not confirmed. After a success none is pending, a
deletion in a dry run apart; after a failure that comes before the confirmation one is; a
skipped tick leaves it as it was. So a pending cordon ends only when it is completed, and
where none is left pending a verdict that asks for nothing does not cordon. -/
theorem pending_iff_unconfirmed (hi : (x.applications c steps)[i]? = some a) :
    (∀ outcome, a.result = .ok outcome → outcome.skips = false →
      (a.after.pendingCordon = true ↔ outcome = .deleted ∧ x.config.dryRun = true)) ∧
    (∀ e, a.result = .error e → x.effectiveAction a.verdict.action a.before ≠ .none →
      (a.before.deleted = true → a.FindsReturn) → ¬ a.ConfirmsCordon → ¬ a.DeletesNode →
      a.after.pendingCordon = true) ∧
    (∀ outcome, a.result = .ok outcome → outcome.skips = true →
      a.after.pendingCordon = a.before.pendingCordon) ∧
    (∀ t b, i < t → (x.applications c steps)[t]? = some b → a.after.pendingCordon = true →
      b.after.pendingCordon = false →
      ∃ j d, i < j ∧ j ≤ t ∧ (x.applications c steps)[j]? = some d ∧ d.Completes x) ∧
    ∀ b outcome, (x.applications c steps)[i + 1]? = some b → b.verdict.action = .none →
      a.result = .ok outcome → outcome.skips = false →
      ¬ (outcome = .deleted ∧ x.config.dryRun = true) → ¬ b.Cordons ∧ b.result ≠ .ok .cordoned := by
  have took := took_of_applications hi
  have settled := settled_of_applications hi
  refine ⟨fun outcome done carried => took.pending_of_ok settled done carried,
    fun e failed busy checked unconfirmed kept =>
      took.pending_of_error failed busy checked unconfirmed kept,
    fun outcome done skips => took.pending_of_skips done skips,
    fun t b hit ht pending ended => ?_, fun b outcome hb none done carried wet => ?_⟩
  · by_cases completes : b.Completes x
    · exact ⟨t, b, hit, Nat.le_refl t, ht, completes⟩
    obtain ⟨j, d, hij, hjt, hj, completes⟩ := pending_bar.good_between hi
      (fun st step made => by
        obtain ⟨-, -, after, -⟩ := advance_spec made
        rwa [← after]) ht hit ⟨ended, completes⟩
    exact ⟨j, d, hij, Nat.le_of_lt hjt, hj, completes⟩
  · have unpending : a.after.pendingCordon = false := by
      simpa [wet] using took.pending_of_ok settled done carried
    by_contra cordons
    obtain ⟨j, -, hij, hji, -⟩ := unpending_bar.good_between hi
      (fun st step made => by
        obtain ⟨-, -, after, -⟩ := advance_spec made
        rwa [← after]) hb (by omega) ⟨none, cordons⟩
    omega

/-- A cordon that fails, and two verdicts that ask for nothing: the first makes up for the
cordon, the second leaves the node alone. -/
theorem pending_iff_unconfirmed_trial :
    ∃ a b d, (trial false).applications (.withNodes ["node-a"])
        [.event (.failNext .get (.api "reset")), .apply (.trial .cordon), .apply (.trial .none),
          .apply (.trial .none)] = [a, b, d] ∧
      b.after.pendingCordon = false ∧ ¬ d.Cordons ∧ d.result ≠ .ok .cordoned := by
  obtain ⟨success, -, -, -, idle⟩ := @pending_iff_unconfirmed (trial false) (.withNodes ["node-a"])
    [.event (.failNext .get (.api "reset")), .apply (.trial .cordon), .apply (.trial .none),
      .apply (.trial .none)] 1 _ rfl
  refine ⟨_, _, _, rfl, ?_, ?_⟩
  · have settled := success .cordoned rfl rfl
    simpa using settled
  · exact idle _ .cordoned rfl rfl rfl rfl (by simp)

/-- In a dry run, a deletion that is reported as done leaves the cordon pending, and the
verdict after it, which asks for nothing, reports a cordon. -/
theorem rehearsed_deletion_pends :
    ¬ ∀ (x : Executor) (c : MemoryCluster) (steps : List ExecutorStep) (i : Nat) (a b : Application)
      (outcome : ExecutionOutcome), (x.applications c steps)[i]? = some a →
      (x.applications c steps)[i + 1]? = some b → a.result = .ok outcome → outcome.skips = false →
      a.after.pendingCordon = false ∧ (b.verdict.action = .none → b.result ≠ .ok .cordoned) := by
  intro law
  exact (law { trial false with config := { (trial false).config with dryRun := true } }
    (.withNodes ["node-a"])
    [.apply (.trial .cordon), .apply (.trial .delete), .apply (.trial .none)] 1 _ _ _
    rfl rfl rfl rfl).2 rfl rfl

end Executor

end NodeWarden
