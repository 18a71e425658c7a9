import NodeWarden.Proofs.Cluster.Steady
import NodeWarden.Proofs.Executor.Outcome

/-!
# Executors that nothing disturbs

In a steady cluster an executor carries out every verdict at once. What comes of it, and how
the node stands after it, depends on nothing but the action, how the node stood before, and
whether it might be deleted (`NodeAction.dueOutcome`, `NodeAction.dueStanding`); the
executor's memory follows (`ExecutorState.heed`). On a node that is not there it only looks
(`Took.served_absent`), any other it deals with as is due (`Took.served_present`).
-/

namespace NodeWarden

/-- Whether the action removes the node, which may be deleted or not. -/
def NodeAction.removes (action : NodeAction) (ripe : Bool) : Bool := action == .delete && ripe

/-- The outcome that is due for an action on a node that stands so (`none` if it is not
there, else whether it is unschedulable), and may be deleted or not. -/
def NodeAction.dueOutcome (action : NodeAction) (ripe : Bool) : Option Bool → ExecutionOutcome
  | Option.none => .noAction
  | some cordoned =>
    match action with
    | .none => .noAction
    | .cordon => if cordoned then .alreadyCordoned else .cordoned
    | .delete => if ripe then .deleted else .deleteDeferred

/-- How the node stands after the action. -/
def NodeAction.dueStanding (action : NodeAction) (ripe : Bool) : Option Bool → Option Bool
  | Option.none => Option.none
  | some cordoned =>
    match action with
    | .none => some cordoned
    | .cordon => some true
    | .delete => if ripe then Option.none else some true

theorem NodeAction.dueStanding_of_removes {action : NodeAction} {ripe : Bool}
    (h : action.removes ripe = true) (before : Option Bool) :
    action.dueStanding ripe before = Option.none := by
  cases before with
  | none => rfl
  | some cordoned =>
    cases action with
    | none | cordon => cases h
    | delete =>
      cases ripe with
      | false => cases h
      | true => rfl

theorem NodeAction.dueStanding_of_not_removes {action : NodeAction} {ripe : Bool}
    (h : action.removes ripe = false) (cordoned : Bool) :
    action.dueStanding ripe (some cordoned) = some (cordoned || action.isCordonOrMore) := by
  cases action with
  | none => simp [dueStanding, isCordonOrMore]
  | cordon => simp [dueStanding, isCordonOrMore]
  | delete =>
    cases ripe with
    | false => simp [dueStanding, isCordonOrMore]
    | true => cases h

/-- Whether the node may be deleted matters only to a deletion. -/
theorem NodeAction.due_congr {action : NodeAction} {ripe ripe' : Bool}
    (h : action = .delete → ripe = ripe') (before : Option Bool) :
    action.dueOutcome ripe before = action.dueOutcome ripe' before ∧
      action.dueStanding ripe before = action.dueStanding ripe' before := by
  cases action with
  | none | cordon => cases before <;> exact ⟨rfl, rfl⟩
  | delete =>
    rw [h rfl]
    exact ⟨rfl, rfl⟩

theorem NodeAction.dueStanding_eq_none {action : NodeAction} {ripe cordoned : Bool} :
    action.dueStanding ripe (some cordoned) = Option.none ↔
      action.dueOutcome ripe (some cordoned) = .deleted := by
  cases action <;> cases ripe <;> cases cordoned <;> decide

namespace ExecutorState

/-- Nothing has disturbed an executor so far. -/
structure Calm (s : ExecutorState) : Prop where
  active : s.observeOnly = false
  ready : s.skipTicks = 0
  unpending : s.pendingCordon = false
  observed : ∀ t, s.cordonObservedAt = some t → t ≤ s.tick

/-- The state when the next tick has begun. -/
def next (s : ExecutorState) : ExecutorState := { s with tick := s.tick + 1 }

/-- The state in which an executor deals with a node that it finds there. -/
def wake (s : ExecutorState) : ExecutorState := if s.deleted then s.resume else s

/-- The state after an action that was carried out at once, its labels aside. -/
def heed (s : ExecutorState) (action : NodeAction) (ripe : Bool) : ExecutorState :=
  match action with
  | .none => { s with cordonObservedAt := none }
  | .cordon => { s with pendingCordon := true }.confirmCordon
  | .delete =>
    if ripe then { s with pendingCordon := true }.recordDeletion
    else { s with pendingCordon := true }.confirmCordon

variable {s : ExecutorState} {action : NodeAction} {ripe : Bool}

@[simp] theorem wake_deleted : s.wake.deleted = false := by
  cases gone : s.deleted <;> simp [wake, gone, resume]

theorem wake_of_present (there : s.deleted = false) : s.wake = s := by
  simp [wake, there]

theorem wake_of_deleted (gone : s.deleted = true) : s.wake = s.resume := by
  simp [wake, gone]

/-- Only a deletion makes a node deleted. -/
theorem heed_deleted :
    (s.heed action ripe).deleted = (s.deleted || action.removes ripe) := by
  cases action <;> cases ripe <;> simp [heed, NodeAction.removes, confirmCordon, recordDeletion]

/-- An action that cordons the node, or more, knows of a cordon. -/
theorem heed_cordonObservedAt (acts : action.isCordonOrMore = true)
    (kept : action.removes ripe = false) :
    (s.heed action ripe).cordonObservedAt = some (s.cordonObservedAt.getD s.tick) := by
  cases action with
  | none => cases acts
  | cordon => rfl
  | delete =>
    cases ripe with
    | false => rfl
    | true => cases kept

theorem Calm.next (h : s.Calm) : s.next.Calm where
  active := h.active
  ready := h.ready
  unpending := h.unpending
  observed t seen := Nat.le_succ_of_le (h.observed t seen)

theorem Calm.wake (h : s.Calm) : s.wake.Calm := by
  cases gone : s.deleted with
  | false => rwa [wake_of_present gone]
  | true =>
    rw [wake_of_deleted gone]
    exact ⟨h.active, h.ready, h.unpending, nofun⟩

theorem Calm.confirmCordon (h : s.Calm) (pending : Bool) :
    { s with pendingCordon := pending }.confirmCordon.Calm where
  active := h.active
  ready := h.ready
  unpending := rfl
  observed := by
    rintro t ⟨⟩
    show s.cordonObservedAt.getD s.tick ≤ s.tick
    cases seen : s.cordonObservedAt with
    | none => exact Nat.le_refl _
    | some t => exact h.observed t seen

theorem Calm.heed (h : s.Calm) (action : NodeAction) (ripe : Bool) : (s.heed action ripe).Calm := by
  cases action with
  | none => exact ⟨h.active, h.ready, h.unpending, nofun⟩
  | cordon => exact h.confirmCordon true
  | delete =>
    cases ripe with
    | false => exact h.confirmCordon true
    | true => exact ⟨h.active, h.ready, rfl, h.observed⟩

theorem Calm.remember (h : s.Calm) (published : Option ScoreLabels) (failures : UInt32) :
    { s with published, failures }.Calm where
  active := h.active
  ready := h.ready
  unpending := h.unpending
  observed := h.observed

end ExecutorState

namespace Executor

variable {x : Executor} {v : Verdict} {s s' : ExecutorState} {xs : List Exchange}
  {action : NodeAction} {result : Except ClusterError ExecutionOutcome}
  {answer : Except ClusterError Unit} {n : NodeState} {n' : Option NodeState}

/-! ## Courses that are served -/

theorem CordonCourse.served (h : x.CordonCourse n s xs result s') (wet : x.config.dryRun = false)
    (served : Exchange.Served xs (some n) n') :
    result = .ok (if n.unschedulable then .alreadyCordoned else .cordoned) ∧
      NodeState.standing n' = some true ∧ s' = s.confirmCordon := by
  cases h with
  | already seen =>
    cases served with
    | nil => exact ⟨by rw [seen]; rfl, congrArg some seen, rfl⟩
  | rehearsed _ dry => exact absurd (dry.symm.trans wet) (by decide)
  | cordoned fresh =>
    cases served with
    | made rest =>
      cases rest with
      | nil => exact ⟨by rw [fresh]; rfl, rfl, rfl⟩
  | failed => cases served

theorem DeleteCourse.served (h : x.DeleteCourse s xs result s') (wet : x.config.dryRun = false)
    (served : Exchange.Served xs (some n) n') :
    result = .ok .deleted ∧ n' = none ∧ s' = s.recordDeletion := by
  cases h with
  | rehearsed dry => exact absurd (dry.symm.trans wet) (by decide)
  | deleted =>
    cases served with
    | made rest =>
      cases rest with
      | nil => exact ⟨rfl, rfl, rfl⟩
  | failed => cases served

/-- An action on a node that is there comes to what is due. -/
theorem ActCourse.served (h : x.ActCourse s action xs result s') (wet : x.config.dryRun = false)
    (own : n.name = x.scope.node.name) (served : Exchange.Served xs (some n) n') :
    result = .ok (action.dueOutcome (x.mayDelete n s) (some n.unschedulable)) ∧
      NodeState.standing n' = action.dueStanding (x.mayDelete n s) (some n.unschedulable) ∧
      s' = s.heed action (x.mayDelete n s) := by
  have accepts : x.scope.accept (.ok n) = .ok n := x.scope.accept_eq_ok.2 ⟨rfl, own⟩
  cases h with
  | none =>
    cases served with
    | nil => exact ⟨rfl, rfl, rfl⟩
  | unread e _ refused =>
    cases served with
    | found => cases accepts.symm.trans refused
  | cordon accepted went =>
    cases served with
    | found rest =>
      cases accepts.symm.trans accepted
      exact went.served wet rest
  | delete accepted may went =>
    cases served with
    | found rest =>
      cases accepts.symm.trans accepted
      obtain ⟨done, rfl, rfl⟩ := went.served wet rest
      rw [may]
      exact ⟨done, rfl, rfl⟩
  | defer accepted mayNot went =>
    cases served with
    | found rest =>
      cases accepts.symm.trans accepted
      obtain ⟨rfl, cordoned, rfl⟩ := went.served wet rest
      rw [mayNot]
      exact ⟨rfl, cordoned, rfl⟩

/-- Publishing the labels of a node that is there succeeds, and does not change how the node
stands. -/
theorem PublishCourse.served (h : x.PublishCourse v s xs answer s')
    (served : Exchange.Served xs (some n) n') :
    answer = .ok () ∧ NodeState.standing n' = some n.unschedulable := by
  cases h with
  | unchanged =>
    cases served with
    | nil => exact ⟨rfl, rfl⟩
  | rehearsed =>
    cases served with
    | nil => exact ⟨rfl, rfl⟩
  | published =>
    cases served with
    | made rest =>
      cases rest with
      | nil => exact ⟨rfl, rfl⟩
  | failed => cases served

theorem effectiveAction_eq_self (allowed : x.config.allowDelete = true)
    (unpending : s.pendingCordon = false) (action : NodeAction) :
    x.effectiveAction action s = action := by
  cases action <;> simp [effectiveAction, allowed, unpending]

/-- A verdict on a node that is there comes to what is due for the action that it amounts to. -/
theorem VerdictCourse.served_effective (h : x.VerdictCourse v s xs result s')
    (wet : x.config.dryRun = false) (own : n.name = x.scope.node.name)
    (served : Exchange.Served xs (some n) n') :
    let action := x.effectiveAction v.action s
    result = .ok (action.dueOutcome (x.mayDelete n s) (some n.unschedulable)) ∧
      NodeState.standing n' = action.dueStanding (x.mayDelete n s) (some n.unschedulable) ∧
      s' = { s.heed action (x.mayDelete n s) with published := s'.published } := by
  cases h with
  | failed e went => cases (went.served wet own served).1
  | unlabelled went =>
    obtain ⟨done, stands, rfl⟩ := went.served wet own served
    exact ⟨done, stands, rfl⟩
  | labelled went kept _ published =>
    obtain ⟨m, acted, labelled⟩ := served.append
    obtain ⟨done, stands, rfl⟩ := went.served wet own acted
    have done := Except.ok.inj done
    cases m with
    | none =>
      -- only a deletion removes the node, and it is not followed by labels
      exact absurd (done.trans (NodeAction.dueStanding_eq_none.1 stands.symm)) kept
    | some m =>
      obtain ⟨rfl, stands'⟩ := published.served labelled
      rw [done]
      exact ⟨rfl, stands'.trans stands, published.state⟩

theorem VerdictCourse.served (h : x.VerdictCourse v s xs result s') (wet : x.config.dryRun = false)
    (allowed : x.config.allowDelete = true) (unpending : s.pendingCordon = false)
    (own : n.name = x.scope.node.name) (served : Exchange.Served xs (some n) n') :
    result = .ok (v.action.dueOutcome (x.mayDelete n s) (some n.unschedulable)) ∧
      NodeState.standing n' = v.action.dueStanding (x.mayDelete n s) (some n.unschedulable) ∧
      s' = { s.heed v.action (x.mayDelete n s) with published := s'.published } := by
  have due := h.served_effective wet own served
  rwa [effectiveAction_eq_self allowed unpending v.action] at due

/-- Of a node that is not there an executor learns that it is still deleted. -/
theorem ExecuteCourse.served_absent (h : x.ExecuteCourse v s xs result s') (gone : s.deleted = true)
    (served : Exchange.Served xs none n') :
    result = .ok .noAction ∧ n' = none ∧ s' = s ∧ ∀ e ∈ xs, e.kind = .get := by
  cases h with
  | present there => exact absurd (gone.symm.trans there) (by decide)
  | absent =>
    cases served with
    | missed detail rest =>
      cases rest with
      | nil => exact ⟨rfl, rfl, rfl, by simp⟩
  | unseen e _ refused other =>
    cases served with
    | missed detail => cases refused; exact absurd rfl (other detail)
  | returned _ accepted =>
    cases served with
    | missed => cases accepted

theorem ExecuteCourse.served_present (h : x.ExecuteCourse v s xs result s')
    (wet : x.config.dryRun = false) (allowed : x.config.allowDelete = true)
    (unpending : s.pendingCordon = false) (own : n.name = x.scope.node.name)
    (served : Exchange.Served xs (some n) n') :
    result = .ok (v.action.dueOutcome (x.mayDelete n s.wake) (some n.unschedulable)) ∧
      NodeState.standing n' = v.action.dueStanding (x.mayDelete n s.wake) (some n.unschedulable) ∧
      s' = { s.wake.heed v.action (x.mayDelete n s.wake) with published := s'.published } := by
  have accepts : x.scope.accept (.ok n) = .ok n := x.scope.accept_eq_ok.2 ⟨rfl, own⟩
  cases h with
  | present there went =>
    rw [ExecutorState.wake_of_present there]
    exact went.served wet allowed unpending own served
  | absent _ refused =>
    cases served with
    | found => cases accepts.symm.trans refused
  | unseen _ _ refused =>
    cases served with
    | found => cases accepts.symm.trans refused
  | returned gone accepted went =>
    cases served with
    | found rest =>
      rw [ExecutorState.wake_of_deleted gone]
      exact went.served wet allowed unpending own rest

end Executor

namespace Application

open Executor

variable {x : Executor} {a : Application} {n : NodeState} {n' : Option NodeState}

/-- A verdict on a node that is not there changes nothing. -/
theorem Took.served_absent (h : a.Took x) (calm : a.before.Calm) (gone : a.before.deleted = true)
    (served : Exchange.Served a.exchanges none n') :
    a.result = .ok .noAction ∧ n' = none ∧ (∀ e ∈ a.exchanges, e.kind = .get) ∧
      a.after = { a.before.next with failures := 0 } := by
  obtain ⟨s', went, after⟩ := h.carried_out calm.active calm.ready
  obtain ⟨done, absent, rfl, reads⟩ := went.served_absent gone served
  rw [done] at after
  exact ⟨done, absent, reads, after⟩

/-- A verdict on a node that is there comes to what is due. -/
theorem Took.served_present (h : a.Took x) (wet : x.config.dryRun = false)
    (allowed : x.config.allowDelete = true) (calm : a.before.Calm)
    (own : n.name = x.scope.node.name) (served : Exchange.Served a.exchanges (some n) n') :
    let s := a.before.next.wake
    a.result = .ok (a.verdict.action.dueOutcome (x.mayDelete n s) (some n.unschedulable)) ∧
      NodeState.standing n' = a.verdict.action.dueStanding (x.mayDelete n s)
      (some n.unschedulable) ∧ a.after = { s.heed a.verdict.action (x.mayDelete n s) with
        published := a.after.published, failures := 0 } := by
  obtain ⟨s', went, after⟩ := h.carried_out calm.active calm.ready
  obtain ⟨done, stands, same⟩ := went.served_present wet allowed calm.unpending own served
  refine ⟨done, stands, ?_⟩
  have kept : a.after.published = s'.published := by rw [after, remember_published]
  rw [kept, after, done]
  exact congrArg (fun s : ExecutorState => { s with failures := 0 }) same

end Application

end NodeWarden
