import NodeWarden.Proofs.Executor.CordonMemory

/-!
# Pending cordons

A cordon is pending from the verdict that asks for it until it is confirmed, or until the
node is deleted. So one that is pending after an application was pending before it, or the
verdict asked for a cordon or more and failed (`Took.pending`); and a Cordon call is made
for such a verdict or for a pending cordon (`Took.cordons`).
-/

namespace NodeWarden

namespace Exchange

/-- Whether the call is a deletion that succeeded. -/
def deleted : Exchange → Bool
  | change .delete _ (.ok ()) => true
  | _ => false

theorem kind_of_deleted {e : Exchange} (h : e.deleted = true) : e.kind = .delete := by
  unfold deleted at h
  split at h
  · rfl
  · cases h

theorem showsCordon_of_not_finds {name : String} {e : Exchange} (h : e.finds name = false) :
    e.showsCordon name = false := by
  cases shown : e.showsCordon name with
  | false => rfl
  | true => exact absurd (h.symm.trans (finds_of_showsCordon shown)) (by decide)

/-- Calls made for an action and its labels complete it: they confirm the cordon or delete
the node. -/
def Completes (name : String) (xs : List Exchange) (result : Except ClusterError ExecutionOutcome) :
    Prop :=
  Confirms name xs result ∨ ∃ e ∈ xs, e.deleted = true

/-- Calls of which none is a cordon or a deletion that succeeded, and none shows the cordon,
complete nothing. -/
theorem not_completes {name : String} {xs : List Exchange}
    {result : Except ClusterError ExecutionOutcome}
    (h : ∀ e ∈ xs, e.cordoned = false ∧ e.showsCordon name = false ∧ e.deleted = false) :
    ¬ Completes name xs result := by
  rintro ((⟨e, he, cordoned⟩ | ⟨⟨e, he, shown⟩, -⟩) | ⟨e, he, deleted⟩)
  · rw [(h e he).1] at cordoned
    cases cordoned
  · rw [(h e he).2.1] at shown
    cases shown
  · rw [(h e he).2.2] at deleted
    cases deleted

theorem incomplete_of_label {name : String} {e : Exchange} (h : e.kind = .updateLabels) :
    e.cordoned = false ∧ e.showsCordon name = false ∧ e.deleted = false := by
  cases e with
  | read => cases h
  | change c =>
    cases c with
    | cordon => cases h
    | delete => cases h
    | label => exact ⟨rfl, rfl, rfl⟩

end Exchange

namespace Executor

variable {x : Executor} {v : Verdict} {s s' : ExecutorState} {xs : List Exchange}
  {action : NodeAction} {read : NodeState} {result : Except ClusterError ExecutionOutcome}

/-- What a verdict on a node that is there comes to for the pending cordon. -/
inductive PendingUpshot (x : Executor) (s : ExecutorState) (action : NodeAction)
    (xs : List Exchange) (result : Except ClusterError ExecutionOutcome) (s' : ExecutorState) :
    Prop where
  | idle : action = .none → ¬ Exchange.Completes x.scope.node.name xs result →
      s'.pendingCordon = s.pendingCordon → PendingUpshot x s action xs result s'
  | settled : s'.pendingCordon = false → PendingUpshot x s action xs result s'
  | failed (e : ClusterError) : action ≠ .none → result = .error e →
      ¬ Exchange.Completes x.scope.node.name xs result → s'.pendingCordon = true →
      PendingUpshot x s action xs result s'

/-- Cordoning settles what is pending, or completes nothing and fails. -/
theorem CordonCourse.pending {answer : Except ClusterError NodeState}
    (h : x.CordonCourse read s xs result s') (accepted : x.scope.accept answer = .ok read) :
    s'.pendingCordon = false ∨
      ∃ e, result = .error e ∧
        ¬ Exchange.Completes x.scope.node.name (x.asked answer :: xs) result ∧
        s' = s := by
  cases h with
  | already => exact .inl rfl
  | rehearsed => exact .inl rfl
  | cordoned => exact .inl rfl
  | failed e fresh =>
    refine .inr ⟨e, rfl, Exchange.not_completes ?_, rfl⟩
    have unseen := asked_showsCordon accepted
    rw [fresh] at unseen
    intro call made
    rcases List.mem_cons.1 made with rfl | made
    · exact ⟨rfl, unseen, rfl⟩
    · cases List.mem_singleton.1 made
      exact ⟨rfl, rfl, rfl⟩

theorem ActCourse.pending (h : x.ActCourse s action xs result s') (wet : x.config.dryRun = false) :
    PendingUpshot x s action xs result s' := by
  cases h with
  | none => exact .idle rfl (Exchange.not_completes (by simp)) rfl
  | @unread _ answer e busy refused =>
    refine .failed e busy rfl (Exchange.not_completes fun call made => ?_) rfl
    cases List.mem_singleton.1 made
    refine ⟨rfl, ?_, rfl⟩
    -- an answer that is refused is not about the own node
    have lost : (x.asked answer).finds x.scope.node.name = false :=
      x.scope.finds_of_accept_eq_error refused x.scope.node.name
    exact Exchange.showsCordon_of_not_finds lost
  | cordon accepted went =>
    rcases went.pending accepted with settled | ⟨e, error, incomplete, rfl⟩
    · exact .settled settled
    · exact .failed e (by decide) error incomplete rfl
  | delete accepted _ went =>
    cases went with
    | rehearsed dry => exact absurd (dry.symm.trans wet) (by decide)
    | deleted => exact .settled rfl
    | failed e =>
      -- a deletion that fails confirms no cordon either, though it has seen it
      refine .failed e (by decide) rfl ?_ rfl
      rintro ((⟨call, made, cordoned⟩ | ⟨-, kept, -⟩) | ⟨call, made, deleted⟩)
      · simp only [List.mem_cons, List.not_mem_nil, or_false] at made
        rcases made with rfl | rfl <;> cases cordoned
      · exact kept ⟨_, List.mem_cons_of_mem _ List.mem_cons_self, rfl⟩
      · simp only [List.mem_cons, List.not_mem_nil, or_false] at made
        rcases made with rfl | rfl <;> cases deleted
  | @defer _ _ _ result _ accepted _ went =>
    rcases went.pending accepted with settled | ⟨e, rfl, incomplete, rfl⟩
    · exact .settled settled
    · exact .failed e (by decide) rfl incomplete rfl

/-- Labels neither complete anything nor change what is pending. -/
theorem VerdictCourse.pending (h : x.VerdictCourse v s xs result s')
    (wet : x.config.dryRun = false) :
    PendingUpshot x s (x.effectiveAction v.action s) xs result s' := by
  cases h with
  | failed _ went => exact went.pending wet
  | unlabelled went => exact went.pending wet
  | labelled went _ _ published =>
    rw [published.state]
    cases went.pending wet with
    | idle idle incomplete same =>
      refine .idle idle ?_ same
      rw [idle] at went
      cases went with
      | none =>
        refine Exchange.not_completes fun call made => ?_
        exact Exchange.incomplete_of_label (published.kind call (by simpa using made))
    | settled settled => exact .settled settled
    | failed _ _ error => cases error

/-- A Cordon call is made for an action that is not none. -/
theorem VerdictCourse.of_cordon (h : x.VerdictCourse v s xs result s')
    (cordons : ∃ e ∈ xs, e.kind = .cordon) : x.effectiveAction v.action s ≠ .none := by
  intro idle
  obtain ⟨e, he, kind⟩ := cordons
  have act {xs result s'} (went : x.ActCourse s (x.effectiveAction v.action s) xs result s') :
      xs = [] := by
    rw [idle] at went
    cases went with
    | none => rfl
    | unread _ busy => exact absurd rfl busy
  cases h with
  | failed _ went => simp [act went] at he
  | unlabelled went => simp [act went] at he
  | labelled went _ _ published =>
    rw [act went, List.nil_append] at he
    rw [published.kind e he] at kind
    cases kind

/-- The action is not none if the verdict asks for a cordon or more, or a cordon is pending. -/
theorem asks_of_effectiveAction_ne_none (h : x.effectiveAction action s ≠ .none) :
    action.isCordonOrMore = true ∨ s.pendingCordon = true := by
  cases action with
  | none =>
    refine .inr ?_
    cases pending : s.pendingCordon with
    | false => simp [effectiveAction, pending] at h
    | true => rfl
  | cordon => exact .inl rfl
  | delete => exact .inl rfl

/-- What is settled stays so, and what is not completes nothing: it is as before, or the
verdict asked for a cordon or more and failed. -/
theorem PendingUpshot.cases (h : PendingUpshot x s (x.effectiveAction action s) xs result s') :
    s'.pendingCordon = false ∨ ¬ Exchange.Completes x.scope.node.name xs result ∧
      (s'.pendingCordon = s.pendingCordon ∨
        action.isCordonOrMore = true ∧ ∃ e, result = .error e) := by
  cases h with
  | idle _ incomplete same => exact .inr ⟨incomplete, .inl same⟩
  | settled settled => exact .inl settled
  | failed e busy error incomplete pending =>
    refine .inr ⟨incomplete, ?_⟩
    rcases asks_of_effectiveAction_ne_none busy with asks | before
    · exact .inr ⟨asks, e, error⟩
    · exact .inl (pending.trans before.symm)

theorem ExecuteCourse.pending (h : x.ExecuteCourse v s xs result s')
    (wet : x.config.dryRun = false) :
    s'.pendingCordon = false ∨
      ¬ Exchange.Completes x.scope.node.name (if s.deleted then xs.tail else xs) result ∧
      (s'.pendingCordon = s.pendingCordon ∨
        v.action.isCordonOrMore = true ∧ ∃ e, result = .error e) := by
  cases h with
  | present there went =>
    rw [there]
    exact (went.pending wet).cases
  | absent gone =>
    rw [gone]
    exact .inr ⟨Exchange.not_completes (by simp), .inl rfl⟩
  | unseen _ gone =>
    rw [gone]
    exact .inr ⟨Exchange.not_completes (by simp), .inl rfl⟩
  | returned gone _ went =>
    -- looking for the node leaves alone what is pending
    rw [gone]
    exact (went.pending wet).cases

theorem ExecuteCourse.of_cordon (h : x.ExecuteCourse v s xs result s')
    (cordons : ∃ e ∈ xs, e.kind = .cordon) :
    v.action.isCordonOrMore = true ∨ s.pendingCordon = true := by
  cases h with
  | present _ went => exact asks_of_effectiveAction_ne_none (went.of_cordon cordons)
  | absent => simp at cordons
  | unseen => simp at cordons
  | returned _ _ went =>
    exact asks_of_effectiveAction_ne_none (went.of_cordon (by simpa using cordons))

end Executor

namespace Application

open Executor

variable {x : Executor} {a : Application}

/-- A Cordon call was made. -/
def Cordons (a : Application) : Prop := ∃ e ∈ a.exchanges, e.kind = .cordon

/-- A Delete call succeeded. -/
def DeletesNode (a : Application) : Prop := ∃ e ∈ a.exchanges, e.deleted = true

theorem not_confirmsCordon_of_silent (silent : a.exchanges = []) : ¬ a.ConfirmsCordon := by
  have none (e : Exchange) : e ∉ a.conduct := by
    intro he
    have made := mem_of_mem_conduct he
    simp [silent] at made
  rintro (⟨e, he, -⟩ | ⟨⟨e, he, -⟩, -⟩)
  · exact none e he
  · exact none e he

/-- A Cordon call is made if the verdict asks for a cordon or more, or a cordon is pending. -/
theorem Took.cordons (h : a.Took x) (cordons : a.Cordons) :
    a.verdict.action.isCordonOrMore = true ∨ a.before.pendingCordon = true := by
  rcases h.cases with ⟨-, none, -⟩ | ⟨-, -, none, -⟩ | ⟨-, -, s', went, -⟩
  · simp [Cordons, none] at cordons
  · simp [Cordons, none] at cordons
  · exact went.of_cordon cordons

/-- An application that leaves a cordon pending neither confirms it nor deletes the node, and the
cordon was pending before, or the verdict asked for a cordon or more and failed. -/
theorem Took.pending (h : a.Took x) (wet : x.config.dryRun = false)
    (pending : a.after.pendingCordon = true) :
    ¬ a.ConfirmsCordon ∧ ¬ a.DeletesNode ∧
      (a.before.pendingCordon = true ∨
        a.verdict.action.isCordonOrMore = true ∧ ∃ e, a.result = .error e) := by
  rcases h.cases with ⟨-, silent, -, after⟩ | ⟨-, -, silent, -, after⟩ | ⟨-, -, s', went, after⟩
  · rw [after] at pending
    exact ⟨not_confirmsCordon_of_silent silent, by simp [DeletesNode, silent], .inl pending⟩
  · rw [after] at pending
    exact ⟨not_confirmsCordon_of_silent silent, by simp [DeletesNode, silent], .inl pending⟩
  · rw [after, remember_pendingCordon] at pending
    rcases went.pending wet with settled | ⟨incomplete, cause⟩
    · exact absurd (pending.symm.trans settled) (by decide)
    · rw [pending] at cause
      refine ⟨?_, ?_, cause.imp_left Eq.symm⟩
      · intro confirms
        rw [ConfirmsCordon, h.1] at confirms
        exact incomplete (.inl confirms)
      · rintro ⟨e, he, deleted⟩
        have change : e.kind ≠ .get := by
          rw [Exchange.kind_of_deleted deleted]
          decide
        exact incomplete (.inr ⟨e, h.mem_conduct he change, deleted⟩)

end Application

end NodeWarden
