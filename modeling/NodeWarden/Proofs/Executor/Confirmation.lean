import NodeWarden.Proofs.Executor.Application

/-!
# Confirmed cordons

What a course comes to for the executor's memory of the cordon, which is all that a deletion
asks for besides a fresh read. A course with a Delete call is of an executor that remembers
a cordon (`ExecuteCourse.of_delete`). Any other course leaves an executor that needs a
further confirmation, or confirms the cordon, or fails before it could do either
(`ExecuteCourse.settled`).
-/

namespace NodeWarden

/-- A result that is turned into another one confirms the cordon as well, unless it is turned into a
deletion. -/
theorem Exchange.Confirms.map {name : String} {xs : List Exchange}
    {result : Except ClusterError ExecutionOutcome} {f : ExecutionOutcome → ExecutionOutcome}
    (h : Exchange.Confirms name xs result) (undeleted : ∀ o, f o ≠ .deleted) :
    Exchange.Confirms name xs (result.map f) := by
  rcases h with cordoned | ⟨shown, kept, -⟩
  · exact .inl cordoned
  · refine .inr ⟨shown, kept, ?_⟩
    cases result with
    | error => simp [Except.map]
    | ok o => simpa [Except.map] using undeleted o

/-- So does one to which labels are added. -/
theorem Exchange.Confirms.labelled {name : String} {xs ys : List Exchange}
    {outcome : ExecutionOutcome} {published : Except ClusterError Unit}
    (h : Exchange.Confirms name xs (.ok outcome)) (labels : ∀ e ∈ ys, e.kind = .updateLabels) :
    Exchange.Confirms name (xs ++ ys) (published.map fun _ => outcome) := by
  rcases h with ⟨e, he, cordoned⟩ | ⟨⟨e, he, shown⟩, kept, undeleted⟩
  · exact .inl ⟨e, List.mem_append_left _ he, cordoned⟩
  · refine .inr ⟨⟨e, List.mem_append_left _ he, shown⟩, ?_, ?_⟩
    · rintro ⟨e, he, kind⟩
      rcases List.mem_append.1 he with he | he
      · exact kept ⟨e, he, kind⟩
      · rw [labels e he] at kind
        cases kind
    · cases published with
      | error => simp [Except.map]
      | ok => simpa [Except.map] using undeleted

/-- Whether the tick was skipped. -/
def ExecutionOutcome.skips : ExecutionOutcome → Bool
  | .backingOff _ => true
  | .observeOnly => true
  | _ => false

namespace Executor

variable {x : Executor} {v : Verdict} {s s' : ExecutorState} {xs : List Exchange}
  {action : NodeAction} {read : NodeState} {result : Except ClusterError ExecutionOutcome}

@[simp] theorem remember_cordonObservedAt :
    (x.remember result s).cordonObservedAt = s.cordonObservedAt := by
  unfold remember
  split <;> (try split) <;> rfl

@[simp] theorem remember_deleted : (x.remember result s).deleted = s.deleted := by
  unfold remember
  split <;> (try split) <;> rfl

@[simp] theorem remember_pendingCordon : (x.remember result s).pendingCordon = s.pendingCordon := by
  unfold remember
  split <;> (try split) <;> rfl

@[simp] theorem remember_published : (x.remember result s).published = s.published := by
  unfold remember
  split <;> (try split) <;> rfl

@[simp] theorem asked_kind {answer : Except ClusterError NodeState} :
    (x.asked answer).kind = .get :=
  rfl

@[simp] theorem told_kind {c : NodeChange} {answer : Except ClusterError Unit} :
    (x.told c answer).kind = c.kind := rfl

/-- A read that the executor accepts shows the cordon if the node is unschedulable. -/
theorem asked_showsCordon {answer : Except ClusterError NodeState}
    (accepted : x.scope.accept answer = .ok read) :
    (x.asked answer).showsCordon x.scope.node.name = read.unschedulable := by
  obtain ⟨rfl, own⟩ := x.scope.accept_eq_ok.1 accepted
  simp [asked, Exchange.showsCordon, own]

theorem PublishCourse.kind {published : Except ClusterError Unit}
    (h : x.PublishCourse v s xs published s') : ∀ e ∈ xs, e.kind = .updateLabels := by
  cases h <;> simp [NodeChange.kind]

/-- Publishing changes nothing but the memory of what is published. -/
theorem PublishCourse.state {published : Except ClusterError Unit}
    (h : x.PublishCourse v s xs published s') : s' = { s with published := s'.published } := by
  cases h <;> rfl

theorem CordonCourse.kind (h : x.CordonCourse read s xs result s') :
    ∀ e ∈ xs, e.kind = .cordon := by
  cases h <;> simp [NodeChange.kind]

/-! ## Deletions -/

/-- An action that calls for a deletion reads the node, finds that it may be deleted, and makes the
call; nothing else comes with it. -/
theorem ActCourse.of_delete (h : x.ActCourse s action xs result s')
    (deletes : ∃ e ∈ xs, e.kind = .delete) :
    action = .delete ∧ x.config.dryRun = false ∧ (result = .ok .deleted ∨ ∃ e, result = .error e) ∧
      ∃ read answer, xs = [x.asked (.ok read), x.told .delete answer] ∧
        read.name = x.scope.node.name ∧ x.mayDelete read s = true := by
  cases h with
  | none => simp at deletes
  | unread => simp at deletes
  | cordon _ went =>
    obtain ⟨e, he, kind⟩ := deletes
    rcases List.mem_cons.1 he with rfl | he
    · cases kind
    · rw [went.kind e he] at kind
      cases kind
  | defer _ _ went =>
    obtain ⟨e, he, kind⟩ := deletes
    rcases List.mem_cons.1 he with rfl | he
    · cases kind
    · rw [went.kind e he] at kind
      cases kind
  | delete accepted may went =>
    obtain ⟨rfl, own⟩ := x.scope.accept_eq_ok.1 accepted
    cases went with
    | rehearsed => simp at deletes
    | deleted wet => exact ⟨rfl, wet, .inl rfl, _, _, rfl, own, may⟩
    | failed e wet => exact ⟨rfl, wet, .inr ⟨e, rfl⟩, _, _, rfl, own, may⟩

theorem VerdictCourse.of_delete (h : x.VerdictCourse v s xs result s')
    (deletes : ∃ e ∈ xs, e.kind = .delete) :
    x.effectiveAction v.action s = .delete ∧ x.config.dryRun = false ∧
      ∃ read answer, xs = [x.asked (.ok read), x.told .delete answer] ∧
        read.name = x.scope.node.name ∧ x.mayDelete read s = true := by
  cases h with
  | failed _ went =>
    obtain ⟨action, wet, -, rest⟩ := went.of_delete deletes
    exact ⟨action, wet, rest⟩
  | unlabelled went =>
    obtain ⟨action, wet, -, rest⟩ := went.of_delete deletes
    exact ⟨action, wet, rest⟩
  | labelled went undeleted _ published =>
    obtain ⟨e, he, kind⟩ := deletes
    rcases List.mem_append.1 he with he | he
    · -- labels come only after an action that did not delete
      obtain ⟨-, -, done | ⟨_, failed⟩, -⟩ := went.of_delete ⟨e, he, kind⟩
      · exact absurd (Except.ok.inj done) undeleted
      · cases failed
    · rw [published.kind e he] at kind
      cases kind

theorem mayDelete_eq_true (may : x.mayDelete read s = true) (wet : x.config.dryRun = false) :
    read.unschedulable = true ∧ s.cordonObservedAt ≠ none := by
  simp only [mayDelete, wet, Bool.or_false, Bool.and_eq_true] at may
  refine ⟨may.2, fun none => ?_⟩
  rw [ExecutorState.observedEarlier, none] at may
  exact absurd may.1 Bool.false_ne_true

theorem effectiveAction_eq_delete {action : NodeAction} {s : ExecutorState}
    (h : x.effectiveAction action s = .delete) :
    action = .delete ∧ x.config.allowDelete = true := by
  cases action with
  | none =>
    simp only [effectiveAction] at h
    split at h <;> cases h
  | cordon => cases h
  | delete =>
    simp only [effectiveAction] at h
    split at h
    · exact ⟨rfl, ‹_›⟩
    · cases h

/-- Once it has found its node back, the executor remembers no cordon, so it deletes nothing. -/
theorem ExecuteCourse.of_delete (h : x.ExecuteCourse v s xs result s')
    (deletes : ∃ e ∈ xs, e.kind = .delete) :
    v.action = .delete ∧ x.config.allowDelete = true ∧ x.config.dryRun = false ∧
      s.deleted = false ∧ s.cordonObservedAt ≠ none ∧
      ∃ read answer, xs = [x.asked (.ok read), x.told .delete answer] ∧
        read.name = x.scope.node.name ∧ read.unschedulable = true := by
  cases h with
  | present there went =>
    obtain ⟨action, wet, read, answer, calls, own, may⟩ := went.of_delete deletes
    obtain ⟨asked, allowed⟩ := effectiveAction_eq_delete action
    obtain ⟨seen, remembers⟩ := mayDelete_eq_true may wet
    exact ⟨asked, allowed, wet, there, remembers, read, answer, calls, own, seen⟩
  | absent => simp at deletes
  | unseen => simp at deletes
  | @returned _ _ ys _ _ _ _ went =>
    have deletes : ∃ e ∈ ys, e.kind = .delete := by simpa using deletes
    obtain ⟨-, wet, _, _, -, -, may⟩ := went.of_delete deletes
    exact absurd rfl (mayDelete_eq_true may wet).2

/-! ## What becomes of the memory -/

/-- What a verdict on a node that is there comes to for the memory of the cordon. -/
inductive CordonUpshot (x : Executor) (s : ExecutorState) (xs : List Exchange)
    (result : Except ClusterError ExecutionOutcome) (s' : ExecutorState) : Prop where
  | rehearsed : x.config.dryRun = true → CordonUpshot x s xs result s'
  | forgotten : s'.cordonObservedAt = none → CordonUpshot x s xs result s'
  | confirmed : Exchange.Confirms x.scope.node.name xs result → CordonUpshot x s xs result s'
  | gone : s'.deleted = true → CordonUpshot x s xs result s'
  | failed (e : ClusterError) : result = .error e → s'.cordonObservedAt = s.cordonObservedAt →
      CordonUpshot x s xs result s'

/-- After a read, cordoning comes to a confirmed cordon or to a failure. -/
theorem CordonCourse.upshot {answer : Except ClusterError NodeState} {s₀ : ExecutorState}
    (h : x.CordonCourse read s xs result s') (accepted : x.scope.accept answer = .ok read)
    (same : s.cordonObservedAt = s₀.cordonObservedAt) :
    CordonUpshot x s₀ (x.asked answer :: xs) result s' := by
  cases h with
  | already seen =>
    refine .confirmed (.inr ⟨⟨_, List.mem_singleton.2 rfl, ?_⟩, by simp, by simp⟩)
    rw [asked_showsCordon accepted, seen]
  | rehearsed _ dry => exact .rehearsed dry
  | cordoned => exact .confirmed (.inl ⟨x.told .cordon (.ok ()), by simp, rfl⟩)
  | failed e => exact .failed e rfl same

theorem ActCourse.upshot (h : x.ActCourse s action xs result s') :
    CordonUpshot x s xs result s' := by
  cases h with
  | none => exact .forgotten rfl
  | unread e => exact .failed e rfl rfl
  | cordon accepted went => exact went.upshot accepted rfl
  | delete accepted _ went =>
    cases went with
    | rehearsed dry => exact .rehearsed dry
    | deleted => exact .gone rfl
    | failed e => exact .failed e rfl rfl
  | defer accepted _ went =>
    cases went.upshot accepted rfl with
    | rehearsed dry => exact .rehearsed dry
    | forgotten none => exact .forgotten none
    | confirmed confirms => exact .confirmed (confirms.map fun _ => by simp)
    | gone deleted => exact .gone deleted
    | failed e error same => exact .failed e (by simp [error, Except.map]) same

/-- Labels do not matter for the upshot. -/
theorem VerdictCourse.upshot (h : x.VerdictCourse v s xs result s') :
    CordonUpshot x s xs result s' := by
  cases h with
  | failed _ went => exact went.upshot
  | unlabelled went => exact went.upshot
  | labelled went _ _ published =>
    rw [published.state]
    cases went.upshot with
    | rehearsed dry => exact .rehearsed dry
    | forgotten none => exact .forgotten none
    | confirmed confirms => exact .confirmed (confirms.labelled published.kind)
    | gone deleted => exact .gone deleted
    | failed _ error => cases error

/-- If the action is none, the memory is lost, whatever becomes of the labels. -/
theorem VerdictCourse.forgets (h : x.VerdictCourse v s xs result s')
    (idle : x.effectiveAction v.action s = .none) : s'.cordonObservedAt = none := by
  have act {xs result s'} (went : x.ActCourse s .none xs result s') :
      s'.cordonObservedAt = none := by
    cases went with
    | none => rfl
    | unread _ busy => exact absurd rfl busy
  cases h with
  | failed _ went => exact act (idle ▸ went)
  | unlabelled went => exact act (idle ▸ went)
  | labelled went _ _ published =>
    have none := act (idle ▸ went)
    rw [published.state]
    exact none

/-- A cordon that fails and stays pending: the read failed, or the node was read schedulable and the
call failed. Either way the memory of an earlier cordon stays. -/
theorem ActCourse.cordon_failed {e : ClusterError} (h : x.ActCourse s .cordon xs (.error e) s') :
    s'.cordonObservedAt = s.cordonObservedAt ∧
      ((∃ answer, xs = [x.asked answer] ∧ x.scope.accept answer = .error e) ∨
        ∃ read, xs = [x.asked (.ok read), x.told .cordon (.error e)] ∧
          read.unschedulable = false) := by
  cases h with
  | unread _ _ refused => exact ⟨rfl, .inl ⟨_, rfl, refused⟩⟩
  | cordon accepted went =>
    obtain ⟨rfl, -⟩ := x.scope.accept_eq_ok.1 accepted
    cases went with
    | failed _ fresh => exact ⟨rfl, .inr ⟨_, rfl, fresh⟩⟩

/-- Failing labels do not leave a cordon pending. -/
theorem VerdictCourse.cordon_failed {e : ClusterError} (h : x.VerdictCourse v s xs (.error e) s')
    (cordon : v.action = .cordon) (pending : s'.pendingCordon = true) :
    s'.cordonObservedAt = s.cordonObservedAt ∧
      ((∃ answer, xs = [x.asked answer] ∧ x.scope.accept answer = .error e) ∨
        ∃ read, xs = [x.asked (.ok read), x.told .cordon (.error e)] ∧
          read.unschedulable = false) := by
  have effective : x.effectiveAction v.action s = .cordon := by rw [cordon]; rfl
  generalize result_eq : Except.error e = result at h
  cases h with
  | failed _ went =>
    cases result_eq
    rw [effective] at went
    exact went.cordon_failed
  | unlabelled => cases result_eq
  | labelled went _ _ published =>
    rw [effective] at went
    rw [published.state] at pending
    cases went with
    | cordon _ done => cases done <;> cases pending

/-- Only a skipped tick reports that it was skipped. -/
theorem ActCourse.not_skips (h : x.ActCourse s action xs result s') {outcome : ExecutionOutcome}
    (done : result = .ok outcome) : outcome.skips = false := by
  cases h with
  | none =>
    cases done
    rfl
  | unread => cases done
  | cordon _ went => cases went <;> cases done <;> rfl
  | delete _ _ went => cases went <;> cases done <;> rfl
  | @defer _ _ _ cordoned =>
    cases cordoned with
    | error => cases done
    | ok =>
      cases done
      rfl

theorem VerdictCourse.not_skips (h : x.VerdictCourse v s xs result s') {outcome : ExecutionOutcome}
    (done : result = .ok outcome) : outcome.skips = false := by
  cases h with
  | failed => cases done
  | unlabelled went => exact went.not_skips done
  | @labelled _ _ _ _ _ published went =>
    cases published with
    | error => cases done
    | ok => exact went.not_skips done

theorem ExecuteCourse.not_skips (h : x.ExecuteCourse v s xs result s') {outcome : ExecutionOutcome}
    (done : result = .ok outcome) : outcome.skips = false := by
  cases h with
  | present _ went => exact went.not_skips done
  | absent =>
    cases done
    rfl
  | unseen => cases done
  | returned _ _ went => exact went.not_skips done

/-- The executor may delete its node only after a further confirmation of its cordon: it remembers
none, or it is not to delete anything, or not before the node is back. -/
def NeedsCordon (x : Executor) (s : ExecutorState) : Prop :=
  x.config.dryRun = true ∨ s.observeOnly = true ∨ s.deleted = true ∨ s.cordonObservedAt = none

theorem NeedsCordon.remember (h : x.NeedsCordon s) : x.NeedsCordon (x.remember result s) := by
  rcases h with dry | latched | gone | none
  · exact .inl dry
  · refine .inr (.inl ?_)
    unfold Executor.remember
    split <;> (try split) <;> first | exact latched | rfl
  · exact .inr (.inr (.inl (by simpa using gone)))
  · exact .inr (.inr (.inr (by simpa using none)))

/-- After a verdict that was carried out, a deletion needs a further confirmation, or the cordon has
just been confirmed, or something failed before that could be. -/
theorem CordonUpshot.settled (h : CordonUpshot x s xs result s') :
    x.NeedsCordon s' ∨ Exchange.Confirms x.scope.node.name xs result ∨
      ∃ e, result = .error e ∧ s'.cordonObservedAt = s.cordonObservedAt := by
  cases h with
  | rehearsed dry => exact .inl (.inl dry)
  | forgotten none => exact .inl (.inr (.inr (.inr none)))
  | confirmed confirms => exact .inr (.inl confirms)
  | gone deleted => exact .inl (.inr (.inr (.inl deleted)))
  | failed e error same => exact .inr (.inr ⟨e, error, same⟩)

/-- The same of a verdict that was carried out without knowing whether there is a node. What
can fail before a confirmation, and leave the memory as it was, is an action on a node that
is there. -/
theorem ExecuteCourse.settled (h : x.ExecuteCourse v s xs result s') :
    x.NeedsCordon s' ∨
      Exchange.Confirms x.scope.node.name (if s.deleted then xs.tail else xs) result ∨
      s.deleted = false ∧ ∃ e, result = .error e ∧ s'.cordonObservedAt = s.cordonObservedAt := by
  cases h with
  | present there went =>
    rw [there]
    rcases went.upshot.settled with needs | confirms | failed
    · exact .inl needs
    · exact .inr (.inl confirms)
    · exact .inr (.inr ⟨rfl, failed⟩)
  | absent gone => exact .inl (.inr (.inr (.inl gone)))
  | unseen _ gone => exact .inl (.inr (.inr (.inl gone)))
  | returned gone _ went =>
    rw [gone]
    rcases went.upshot.settled with needs | confirms | ⟨_, -, same⟩
    · exact .inl needs
    · exact .inr (.inl confirms)
    · -- the memory was lost when the node was found to be back
      exact .inl (.inr (.inr (.inr same)))

/-- A cordon that fails and stays pending fails as on a node that is there, unless a
deletion needs a confirmation anyway. -/
theorem ExecuteCourse.cordon_failed {e : ClusterError} (h : x.ExecuteCourse v s xs (.error e) s')
    (cordon : v.action = .cordon) (pending : s'.pendingCordon = true) :
    x.NeedsCordon s' ∨ (∃ answer, xs = [x.asked answer] ∧ x.scope.accept answer = .error e) ∨
      ∃ read, xs = [x.asked (.ok read), x.told .cordon (.error e)] ∧
      read.unschedulable = false := by
  cases h with
  | present _ went => exact .inr (went.cordon_failed cordon pending).2
  | unseen _ gone => exact .inl (.inr (.inr (.inl gone)))
  | returned _ _ went => exact .inl (.inr (.inr (.inr (went.cordon_failed cordon pending).1)))

/-- If no cordon is pending, then a verdict that asks for nothing leaves no memory, or does not even
find the node. -/
theorem ExecuteCourse.forgets (h : x.ExecuteCourse v s xs result s') (none : v.action = .none)
    (unpending : s.pendingCordon = false) : x.NeedsCordon s' := by
  have idle {t : ExecutorState} (ht : t.pendingCordon = false) :
      x.effectiveAction v.action t = .none := by
    simp [none, effectiveAction, ht]
  cases h with
  | present _ went => exact .inr (.inr (.inr (went.forgets (idle unpending))))
  | absent gone => exact .inr (.inr (.inl gone))
  | unseen _ gone => exact .inr (.inr (.inl gone))
  | returned _ _ went => exact .inr (.inr (.inr (went.forgets (idle unpending))))

/-- While the executor takes its node for deleted, its first call is a read. -/
theorem ExecuteCourse.begins_with_read (h : x.ExecuteCourse v s xs result s')
    (gone : s.deleted = true) :
    ∃ answer ys, xs = x.asked answer :: ys := by
  cases h with
  | present there => exact absurd (there.symm.trans gone) (by decide)
  | absent => exact ⟨_, _, rfl⟩
  | unseen => exact ⟨_, _, rfl⟩
  | returned => exact ⟨_, _, rfl⟩

end Executor

end NodeWarden
