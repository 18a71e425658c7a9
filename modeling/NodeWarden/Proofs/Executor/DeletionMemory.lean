import NodeWarden.Proofs.Executor.Confirmation
import NodeWarden.Proofs.Executor.CordonMemory

/-!
# The memory of the deletion

An executor takes its node for deleted from a deletion that succeeds
(`ExecuteCourse.deleted`) until it finds the node registered again. In between it does
nothing but look, so what the deletion has settled stays settled: no cordon is pending and
no labels are published (`ExecutorState.Settled`).
-/

namespace NodeWarden

/-- While an executor takes its node for deleted, no cordon is pending and no labels are
published. -/
structure ExecutorState.Settled (s : ExecutorState) : Prop where
  pendingCordon : s.deleted = true → s.pendingCordon = false
  published : s.deleted = true → s.published = none

namespace ExecutorState.Settled

theorem of_present {s : ExecutorState} (h : s.deleted = false) : s.Settled :=
  ⟨fun gone => absurd (gone.symm.trans h) (by decide),
    fun gone => absurd (gone.symm.trans h) (by decide)⟩

theorem recordDeletion (s : ExecutorState) : s.recordDeletion.Settled :=
  ⟨fun _ => rfl, fun _ => rfl⟩

/-- It does not depend on what else the executor remembers. -/
theorem congr {s t : ExecutorState} (h : s.Settled) (deleted : t.deleted = s.deleted)
    (pending : t.pendingCordon = s.pendingCordon) (published : t.published = s.published) :
    t.Settled where
  pendingCordon gone := pending.trans (h.pendingCordon (deleted ▸ gone))
  published gone := published.trans (h.published (deleted ▸ gone))

end ExecutorState.Settled

namespace Executor

variable {x : Executor} {v : Verdict} {s s' : ExecutorState} {xs : List Exchange}
  {action : NodeAction} {read : NodeState} {result : Except ClusterError ExecutionOutcome}

theorem CordonCourse.deleted (h : x.CordonCourse read s xs result s') : s'.deleted = s.deleted := by
  cases h <;> rfl

/-- An action that succeeds in deleting the node is what the executor remembers; any other
leaves its memory of a deletion alone. -/
theorem ActCourse.deleted (h : x.ActCourse s action xs result s') :
    s'.deleted = s.deleted ∨ result = .ok .deleted ∧ ∃ t, s' = ExecutorState.recordDeletion t := by
  cases h with
  | none => exact .inl rfl
  | unread => exact .inl rfl
  | cordon _ went => exact .inl went.deleted
  | defer _ _ went => exact .inl went.deleted
  | delete _ _ went =>
    cases went with
    | rehearsed => exact .inl rfl
    | deleted => exact .inr ⟨rfl, _, rfl⟩
    | failed => exact .inl rfl

theorem VerdictCourse.deleted (h : x.VerdictCourse v s xs result s') :
    s'.deleted = s.deleted ∨ result = .ok .deleted ∧ ∃ t, s' = ExecutorState.recordDeletion t := by
  cases h with
  | failed _ went => exact went.deleted
  | unlabelled went => exact went.deleted
  | labelled went kept _ published =>
    rw [published.state]
    rcases went.deleted with same | ⟨gone, -⟩
    · exact .inl same
    · exact absurd (Except.ok.inj gone) kept

/-- A deletion that is reported, and not only rehearsed, is remembered. -/
theorem ActCourse.recorded (h : x.ActCourse s action xs result s') (wet : x.config.dryRun = false)
    (done : result = .ok .deleted) : ∃ t, s' = ExecutorState.recordDeletion t := by
  cases h with
  | none => cases done
  | unread => cases done
  | cordon _ went => cases went <;> cases done
  | defer _ _ went => cases went <;> cases done
  | delete _ _ went =>
    cases went with
    | rehearsed dry => exact absurd (dry.symm.trans wet) (by decide)
    | deleted => exact ⟨_, rfl⟩
    | failed => cases done

theorem VerdictCourse.recorded (h : x.VerdictCourse v s xs result s')
    (wet : x.config.dryRun = false) (done : result = .ok .deleted) :
    ∃ t, s' = ExecutorState.recordDeletion t := by
  cases h with
  | failed => cases done
  | unlabelled went => exact went.recorded wet done
  | @labelled _ _ _ _ _ published _ kept =>
    cases published with
    | error => cases done
    | ok => exact absurd (Except.ok.inj done) kept

theorem ExecuteCourse.recorded (h : x.ExecuteCourse v s xs result s')
    (wet : x.config.dryRun = false) (done : result = .ok .deleted) :
    ∃ t, s' = ExecutorState.recordDeletion t := by
  cases h with
  | present _ went => exact went.recorded wet done
  | absent => cases done
  | unseen => cases done
  | returned _ _ went => exact went.recorded wet done

theorem ExecuteCourse.settled_after (h : x.ExecuteCourse v s xs result s') (settled : s.Settled) :
    s'.Settled := by
  have verdict {t : ExecutorState} {xs} (went : x.VerdictCourse v t xs result s')
      (there : t.deleted = false) : s'.Settled := by
    rcases went.deleted with same | ⟨-, t', rfl⟩
    · exact .of_present (same.trans there)
    · exact .recordDeletion t'
  cases h with
  | present there went => exact verdict went there
  | absent => exact settled
  | unseen => exact settled
  | returned _ _ went => exact verdict went rfl

end Executor

namespace Application

open Executor

variable {x : Executor} {a : Application}

theorem Took.settled_after (h : a.Took x) (settled : a.before.Settled) : a.after.Settled := by
  rcases h.cases with ⟨-, -, -, after⟩ | ⟨-, -, -, -, after⟩ | ⟨-, -, s', went, after⟩
  · rw [after]
    exact settled.congr rfl rfl rfl
  · rw [after]
    exact settled.congr rfl rfl rfl
  · rw [after]
    exact (went.settled_after (settled.congr rfl rfl rfl)).congr remember_deleted
      remember_pendingCordon
      remember_published

end Application

end NodeWarden
