import NodeWarden.Executor.Apply
import NodeWarden.Proofs.Cluster.Observed

/-!
# The courses that a verdict can take

All that applying a verdict can come to, stage by stage: the calls made with their answers, the
result, and the state that the executor is left in. The relations know nothing of the world but its
answers. They hold of every world (`apply_course`), so what is proved by going through their cases
is proved for every cluster and every kind of trouble.
-/

namespace NodeWarden.Executor

/-- The read of the executor's own node that had the given answer. -/
def asked (x : Executor) (answer : Except ClusterError NodeState) : Exchange :=
  .read x.scope.node.name answer

/-- The change of the executor's own node that had the given answer. -/
def told (x : Executor) (c : NodeChange) (answer : Except ClusterError Unit) : Exchange :=
  .change c x.scope.node.name answer

/-- The labels of a verdict as the executor publishes them. -/
def labels (x : Executor) (v : Verdict) : ScoreLabels := ScoreLabels.ofVerdict x.mode v

variable (x : Executor)

/-! ## Stages -/

/-- Cordoning a node as it was just read. -/
inductive CordonCourse (read : NodeState) (s : ExecutorState) :
    List Exchange → Except ClusterError ExecutionOutcome → ExecutorState → Prop where
  | already : read.unschedulable = true →
      CordonCourse read s [] (.ok .alreadyCordoned) s.confirmCordon
  | rehearsed : read.unschedulable = false → x.config.dryRun = true →
      CordonCourse read s [] (.ok .cordoned) s.confirmCordon
  | cordoned : read.unschedulable = false → x.config.dryRun = false →
      CordonCourse read s [x.told .cordon (.ok ())] (.ok .cordoned) s.confirmCordon
  | failed (e : ClusterError) : read.unschedulable = false → x.config.dryRun = false →
      CordonCourse read s [x.told .cordon (.error e)] (.error e) s

/-- Deleting a node. -/
inductive DeleteCourse (s : ExecutorState) :
    List Exchange → Except ClusterError ExecutionOutcome → ExecutorState → Prop where
  | rehearsed : x.config.dryRun = true → DeleteCourse s [] (.ok .deleted) s
  | deleted : x.config.dryRun = false →
      DeleteCourse s [x.told .delete (.ok ())] (.ok .deleted) s.recordDeletion
  | failed (e : ClusterError) : x.config.dryRun = false →
      DeleteCourse s [x.told .delete (.error e)] (.error e) s

/-- Publishing the labels of a verdict. -/
inductive PublishCourse (v : Verdict) (s : ExecutorState) :
    List Exchange → Except ClusterError Unit → ExecutorState → Prop where
  | unchanged : s.published = some (x.labels v) → PublishCourse v s [] (.ok ()) s
  | rehearsed : s.published ≠ some (x.labels v) → x.config.dryRun = true →
      PublishCourse v s [] (.ok ()) { s with published := some (x.labels v) }
  | published : s.published ≠ some (x.labels v) → x.config.dryRun = false →
      PublishCourse v s [x.told (.label ((x.labels v).entries x.config)) (.ok ())] (.ok ())
        { s with published := some (x.labels v) }
  | failed (e : ClusterError) : s.published ≠ some (x.labels v) → x.config.dryRun = false →
      PublishCourse v s [x.told (.label ((x.labels v).entries x.config)) (.error e)] (.error e) s

/-- Carrying out an action, its labels aside. -/
inductive ActCourse (s : ExecutorState) :
    NodeAction → List Exchange → Except ClusterError ExecutionOutcome → ExecutorState → Prop where
  | none : ActCourse s .none [] (.ok .noAction) { s with cordonObservedAt := none }
  | unread {action : NodeAction} {answer : Except ClusterError NodeState} (e : ClusterError) :
      action ≠ .none → x.scope.accept answer = .error e →
      ActCourse s action [x.asked answer] (.error e) { s with pendingCordon := true }
  | cordon {answer : Except ClusterError NodeState} {read : NodeState} {xs : List Exchange}
      {result : Except ClusterError ExecutionOutcome} {s' : ExecutorState} :
      x.scope.accept answer = .ok read →
      x.CordonCourse read { s with pendingCordon := true } xs result s' →
      ActCourse s .cordon (x.asked answer :: xs) result s'
  | delete {answer : Except ClusterError NodeState} {read : NodeState} {xs : List Exchange}
      {result : Except ClusterError ExecutionOutcome} {s' : ExecutorState} :
      x.scope.accept answer = .ok read → x.mayDelete read s = true →
      x.DeleteCourse { s with pendingCordon := true } xs result s' →
      ActCourse s .delete (x.asked answer :: xs) result s'
  | defer {answer : Except ClusterError NodeState} {read : NodeState} {xs : List Exchange}
      {result : Except ClusterError ExecutionOutcome} {s' : ExecutorState} :
      x.scope.accept answer = .ok read → x.mayDelete read s = false →
      x.CordonCourse read { s with pendingCordon := true } xs result s' →
      ActCourse s .delete (x.asked answer :: xs) (result.map fun _ => .deleteDeferred) s'

/-- Carrying out a verdict on a node that is there: first its action, then its labels. -/
inductive VerdictCourse (v : Verdict) (s : ExecutorState) :
    List Exchange → Except ClusterError ExecutionOutcome → ExecutorState → Prop where
  | failed {xs : List Exchange} {s' : ExecutorState} (e : ClusterError) :
      x.ActCourse s (x.effectiveAction v.action s) xs (.error e) s' →
      VerdictCourse v s xs (.error e) s'
  | unlabelled {xs : List Exchange} {outcome : ExecutionOutcome} {s' : ExecutorState} :
      x.ActCourse s (x.effectiveAction v.action s) xs (.ok outcome) s' →
      outcome = .deleted ∨ x.config.publishScore = false →
      VerdictCourse v s xs (.ok outcome) s'
  | labelled {xs ys : List Exchange} {outcome : ExecutionOutcome} {s' s'' : ExecutorState}
      {published : Except ClusterError Unit} :
      x.ActCourse s (x.effectiveAction v.action s) xs (.ok outcome) s' →
      outcome ≠ .deleted → x.config.publishScore = true →
      x.PublishCourse v s' ys published s'' →
      VerdictCourse v s (xs ++ ys) (published.map fun _ => outcome) s''

/-- Carrying out a verdict, once it is known whether there is a node. -/
inductive ExecuteCourse (v : Verdict) (s : ExecutorState) :
    List Exchange → Except ClusterError ExecutionOutcome → ExecutorState → Prop where
  | present {xs : List Exchange} {result : Except ClusterError ExecutionOutcome}
      {s' : ExecutorState} :
      s.deleted = false → x.VerdictCourse v s xs result s' → ExecuteCourse v s xs result s'
  | absent {answer : Except ClusterError NodeState} {detail : String} : s.deleted = true →
      x.scope.accept answer = .error (.notFound detail) →
      ExecuteCourse v s [x.asked answer] (.ok .noAction) s
  | unseen {answer : Except ClusterError NodeState} (e : ClusterError) : s.deleted = true →
      x.scope.accept answer = .error e → (∀ detail, e ≠ .notFound detail) →
      ExecuteCourse v s [x.asked answer] (.error e) s
  | returned {answer : Except ClusterError NodeState} {read : NodeState} {xs : List Exchange}
      {result : Except ClusterError ExecutionOutcome} {s' : ExecutorState} : s.deleted = true →
      x.scope.accept answer = .ok read → x.VerdictCourse v s.resume xs result s' →
      ExecuteCourse v s (x.asked answer :: xs) result s'

/-- What the executor remembers of the result of a verdict that was carried out. -/
def remember (result : Except ClusterError ExecutionOutcome) (s : ExecutorState) : ExecutorState :=
  match result with
  | .ok _ => { s with failures := 0 }
  | .error e =>
    if e.isTransient then s.countFailure x.config.maxBackoffTicks
      else { s with observeOnly := true }

/-- Applying a verdict. -/
inductive ApplyCourse (v : Verdict) (s : ExecutorState) :
    List Exchange → Except ClusterError ExecutionOutcome → ExecutorState → Prop where
  | observing : s.observeOnly = true →
      ApplyCourse v s [] (.ok .observeOnly) { s with tick := s.tick + 1 }
  | backingOff : s.observeOnly = false → 0 < s.skipTicks →
      ApplyCourse v s [] (.ok (.backingOff (s.skipTicks - 1)))
        { s with tick := s.tick + 1, skipTicks := s.skipTicks - 1 }
  | executed {xs : List Exchange} {result : Except ClusterError ExecutionOutcome}
      {s' : ExecutorState} :
      s.observeOnly = false → s.skipTicks = 0 →
      x.ExecuteCourse v { s with tick := s.tick + 1 } xs result s' →
      ApplyCourse v s xs result (x.remember result s')

variable {x} in
/-- While the executor does not take its node for deleted, it carries its verdicts out at once. -/
theorem ExecuteCourse.of_present {v : Verdict} {s s' : ExecutorState} {xs : List Exchange}
    {result : Except ClusterError ExecutionOutcome} (h : x.ExecuteCourse v s xs result s')
    (there : s.deleted = false) : x.VerdictCourse v s xs result s' := by
  cases h with
  | present _ went => exact went
  | absent gone | unseen _ gone | returned gone => exact absurd (gone.symm.trans there) (by decide)

/-! ## Every world takes one of them -/

variable {σ : Type}

/-- Between an observed world and an answer that holds a later one lies a course of the
given kind. -/
def Took {α : Type} (course : List Exchange → α → ExecutorState → Prop) (o : Observed σ)
    (answer : α × ExecutorState × Observed σ) : Prop :=
  ∃ xs, answer.2.2.exchanges = o.exchanges ++ xs ∧ course xs answer.1 answer.2.1

/-- A course without a call. -/
theorem Took.silent {α : Type} {course : List Exchange → α → ExecutorState → Prop}
    {o o' : Observed σ} {a : α} {s : ExecutorState} (same : o'.exchanges = o.exchanges)
    (h : course [] a s) : Took course o (a, s, o') :=
  ⟨[], by simpa using same, h⟩

/-- A course with one call. -/
theorem Took.one {α : Type} {course : List Exchange → α → ExecutorState → Prop}
    {o o' : Observed σ} {a : α} {s : ExecutorState} {e : Exchange}
    (last : o'.exchanges = o.exchanges ++ [e]) (h : course [e] a s) : Took course o (a, s, o') :=
  ⟨[e], last, h⟩

/-- The parts of an answer between which and the world before lies a course. -/
theorem Took.parts {α : Type} {course : List Exchange → α → ExecutorState → Prop} {o : Observed σ}
    {answer : α × ExecutorState × Observed σ} (h : Took course o answer) :
    ∃ xs a s o', answer = (a, s, o') ∧ o'.exchanges = o.exchanges ++ xs ∧ course xs a s := by
  obtain ⟨xs, asked, went⟩ := h
  exact ⟨xs, _, _, _, rfl, asked, went⟩

/-- A course that begins with a read. -/
theorem Took.read {α : Type} {course course' : List Exchange → α → ExecutorState → Prop}
    {o o' : Observed σ} {e : Exchange} {answer : α × ExecutorState × Observed σ}
    (first : o'.exchanges = o.exchanges ++ [e]) (rest : Took course o' answer)
    (h : ∀ xs a s, course xs a s → course' (e :: xs) a s) : Took course' o answer := by
  obtain ⟨xs, asked, went⟩ := rest
  exact ⟨e :: xs, by rw [asked, first, List.append_assoc, List.singleton_append], h _ _ _ went⟩

variable [ClusterApi σ] [Journal σ] {x : Executor}

theorem cordon_course (read : NodeState) (s : ExecutorState) (o : Observed σ) :
    Took (x.CordonCourse read s) o (x.cordon read s o) := by
  unfold cordon
  by_cases seen : read.unschedulable = true
  · rw [if_pos seen]
    exact .silent rfl (.already seen)
  rw [if_neg seen]
  have fresh : read.unschedulable = false := by simpa using seen
  by_cases dry : x.config.dryRun = true
  · rw [if_pos dry]
    exact .silent rfl (.rehearsed fresh dry)
  rw [if_neg dry]
  have wet : x.config.dryRun = false := by simpa using dry
  obtain ⟨answer, w, asked⟩ := x.scope.change_observed .cordon o
  rw [asked]
  cases answer with
  | ok => exact .one rfl (.cordoned fresh wet)
  | error e => exact .one rfl (.failed e fresh wet)

theorem delete_course (reason : String) (s : ExecutorState) (o : Observed σ) :
    Took (x.DeleteCourse s) o (x.delete reason s o) := by
  unfold delete
  by_cases dry : x.config.dryRun = true
  · rw [if_pos dry]
    exact .silent rfl (.rehearsed dry)
  rw [if_neg dry]
  have wet : x.config.dryRun = false := by simpa using dry
  obtain ⟨answer, w, asked⟩ := x.scope.change_observed .delete o
  rw [asked]
  cases answer with
  | ok => exact .one rfl (.deleted wet)
  | error e => exact .one rfl (.failed e wet)

theorem publish_course (v : Verdict) (s : ExecutorState) (o : Observed σ) :
    Took (x.PublishCourse v s) o (x.publish v s o) := by
  unfold publish
  dsimp only
  by_cases known : s.published = some (ScoreLabels.ofVerdict x.mode v)
  · rw [if_pos known]
    exact .silent rfl (.unchanged known)
  rw [if_neg known]
  by_cases dry : x.config.dryRun = true
  · rw [if_pos dry]
    exact .silent rfl (.rehearsed known dry)
  rw [if_neg dry]
  have wet : x.config.dryRun = false := by simpa using dry
  obtain ⟨answer, w, asked⟩ := x.scope.change_observed
    (.label ((ScoreLabels.ofVerdict x.mode v).entries x.config)) o
  rw [asked]
  cases answer with
  | ok => exact .one rfl (.published known wet)
  | error e => exact .one rfl (.failed e known wet)

theorem deleteOrCordon_course (reason : String) (read : NodeState) (s : ExecutorState)
    (o : Observed σ) :
    Took (fun xs result s' =>
        (x.mayDelete read s = true ∧ x.DeleteCourse s xs result s') ∨
        (x.mayDelete read s = false ∧ ∃ cordoned, x.CordonCourse read s xs cordoned s' ∧
          result = cordoned.map fun _ => .deleteDeferred))
      o (x.deleteOrCordon reason read s o) := by
  unfold deleteOrCordon
  by_cases may : x.mayDelete read s = true
  · rw [if_pos may]
    obtain ⟨xs, asked, went⟩ := delete_course reason s o
    exact ⟨xs, asked, .inl ⟨may, went⟩⟩
  · rw [if_neg may]
    have mayNot : x.mayDelete read s = false := by simpa using may
    obtain ⟨xs, result, s', o', eq, asked, went⟩ :=
      (cordon_course read s (x.tell .deletionDeferred o)).parts
    rw [eq]
    cases result with
    | ok => exact ⟨xs, asked, .inr ⟨mayNot, _, went, rfl⟩⟩
    | error => exact ⟨xs, asked, .inr ⟨mayNot, _, went, rfl⟩⟩

theorem act_course (action : NodeAction) (reason : String) (s : ExecutorState) (o : Observed σ) :
    Took (x.ActCourse s action) o (x.act action reason s o) := by
  obtain ⟨answer, w, asked⟩ := x.scope.get_observed o
  cases action with
  | none => exact .silent rfl .none
  | cordon =>
    simp only [act, asked]
    rcases accepted : x.scope.accept answer with e | read
    · exact .one rfl (.unread e (by decide) accepted)
    · exact .read rfl (cordon_course read _ _) fun _ _ _ went => .cordon accepted went
  | delete =>
    simp only [act, asked]
    rcases accepted : x.scope.accept answer with e | read
    · exact .one rfl (.unread e (by decide) accepted)
    · refine .read rfl (deleteOrCordon_course reason read _ _) fun _ _ _ went => ?_
      obtain ⟨may, went⟩ | ⟨mayNot, _, went, rfl⟩ := went
      · exact .delete accepted may went
      · exact .defer accepted mayNot went

omit [ClusterApi σ] in
theorem tellOverride_exchanges (action : NodeAction) (s : ExecutorState) (o : Observed σ) :
    (x.tellOverride action s o).exchanges = o.exchanges := by
  unfold tellOverride
  split <;> (try split) <;> rfl

/-- Carries out a verdict on a node that is there. -/
def carryOut (x : Executor) (v : Verdict) (s : ExecutorState) (w : σ) :
    Except ClusterError ExecutionOutcome × ExecutorState × σ :=
  match x.act (x.effectiveAction v.action s) v.reason s (x.tellOverride v.action s w) with
  | (.ok outcome, s, w) => x.publishAfter outcome v s w
  | (.error e, s, w) => (.error e, s, w)

theorem execute_eq (v : Verdict) (s : ExecutorState) (w : σ) :
    x.execute v s w =
      match x.awaitRegistration s w with
      | (.error e, s, w) => (.error e, s, w)
      | (.ok false, s, w) => (.ok .noAction, s, w)
      | (.ok true, s, w) => x.carryOut v s w := rfl

/-- A verdict that is carried out takes the course of its action. If this succeeds and the
node is left there, then its labels follow, unless they are not wanted. -/
theorem carryOut_stages (v : Verdict) (s : ExecutorState) (o : Observed σ) :
    ∃ xs acted s' o',
      x.act (x.effectiveAction v.action s) v.reason s
      (x.tellOverride v.action s o) = (acted, s', o') ∧
      o'.exchanges = o.exchanges ++ xs ∧ x.ActCourse s (x.effectiveAction v.action s) xs acted s' ∧
      ((x.carryOut v s o = (acted, s', o') ∧
          ∀ outcome, acted = .ok outcome → outcome = .deleted ∨ x.config.publishScore = false) ∨
        ∃ outcome ys published s'' o'', acted = .ok outcome ∧ outcome ≠ .deleted ∧
          x.config.publishScore = true ∧ x.PublishCourse v s' ys published s'' ∧
          x.carryOut v s o = (published.map fun _ => outcome, s'', o'') ∧
          o''.exchanges = o.exchanges ++ (xs ++ ys)) := by
  unfold carryOut
  obtain ⟨xs, acted, s', o', eq, asked, went⟩ :=
    (act_course (x.effectiveAction v.action s) v.reason s
    (x.tellOverride v.action s o)).parts
  rw [tellOverride_exchanges] at asked
  refine ⟨xs, acted, s', o', eq, asked, went, ?_⟩
  rw [eq]
  cases acted with
  | error e => exact .inl ⟨rfl, nofun⟩
  | ok outcome =>
    dsimp only [publishAfter]
    by_cases wanted : outcome ≠ .deleted ∧ x.config.publishScore = true
    · rw [if_pos wanted]
      obtain ⟨ys, published, s'', o'', eq, told, labelled⟩ := (publish_course v s' o').parts
      refine .inr ⟨outcome, ys, published, s'', o'', rfl, wanted.1, wanted.2, labelled, ?_, ?_⟩
      · rw [eq]
        cases published <;> rfl
      · rw [told, asked, List.append_assoc]
    · rw [if_neg wanted]
      refine .inl ⟨rfl, fun _ same => ?_⟩
      cases same
      by_cases gone : outcome = .deleted
      · exact .inl gone
      · exact .inr (by simpa [gone] using wanted)

theorem carryOut_course (v : Verdict) (s : ExecutorState) (o : Observed σ) :
    Took (x.VerdictCourse v s) o (x.carryOut v s o) := by
  obtain ⟨xs, acted, s', o', -, asked, went, ⟨ended, unwanted⟩ |
    ⟨outcome, ys, published, s'', o'', rfl, there, wanted, labelled, ended, told⟩⟩ :=
      carryOut_stages (x := x) v s o
  · rw [ended]
    cases acted with
    | error e => exact ⟨xs, asked, .failed e went⟩
    | ok outcome => exact ⟨xs, asked, .unlabelled went (unwanted outcome rfl)⟩
  · rw [ended]
    exact ⟨xs ++ ys, told, .labelled went there wanted labelled⟩

theorem execute_course (v : Verdict) (s : ExecutorState) (o : Observed σ) :
    Took (x.ExecuteCourse v s) o (x.execute v s o) := by
  rw [execute_eq]
  unfold awaitRegistration
  by_cases gone : s.deleted = true
  · rw [if_pos gone]
    obtain ⟨answer, w, asked⟩ := x.scope.get_observed o
    rw [asked]
    rcases accepted : x.scope.accept answer with e | read
    · cases e with
      | notFound detail => exact .one rfl (.absent gone accepted)
      | api | timeout | permission | foreignNode =>
        exact .one rfl (.unseen _ gone accepted (by simp))
    · have found := carryOut_course (x := x) v s.resume
        (x.tell .registeredAgain ⟨w, o.exchanges ++ [.read x.scope.node.name answer]⟩)
      exact .read rfl found fun _ _ _ went => .returned gone accepted went
  · rw [if_neg gone]
    obtain ⟨xs, asked, went⟩ := carryOut_course (x := x) v s o
    exact ⟨xs, asked, .present (by simpa using gone) went⟩

omit [ClusterApi σ] in
theorem settle_eq (result : Except ClusterError ExecutionOutcome) (s : ExecutorState)
    (o : Observed σ) :
    (x.settle result s o).1 = x.remember result s ∧
      (x.settle result s o).2.exchanges = o.exchanges := by
  cases result with
  | ok => exact ⟨rfl, rfl⟩
  | error e =>
    by_cases passing : e.isTransient = true
    · simp [settle, remember, passing, tell]
    · simp [settle, remember, passing, tell]

/-- Carries out a verdict on a tick that is not skipped, and remembers what came of it. -/
def attempt (x : Executor) (v : Verdict) (s : ExecutorState) (w : σ) :
    Except ClusterError ExecutionOutcome × ExecutorState × σ :=
  match x.execute v s w with
  | (result, s, w) => (result, x.settle result s w)

section
variable {v : Verdict} {s : ExecutorState} {w : σ}

theorem apply_of_latched (latched : s.observeOnly = true) :
    x.apply v s w =
      (.ok .observeOnly, { s with tick := s.tick + 1 }, x.tell (.observing v.action) w) := by
  simp [apply, latched]

theorem apply_of_waiting (unlatched : s.observeOnly = false) (waits : 0 < s.skipTicks) :
    x.apply v s w = (.ok (.backingOff (s.skipTicks - 1)),
      { s with tick := s.tick + 1, skipTicks := s.skipTicks - 1 },
      x.tell (.backingOff (s.skipTicks - 1) s.failures) w) := by
  simp [apply, unlatched, waits]

theorem apply_of_ready (unlatched : s.observeOnly = false) (ready : s.skipTicks = 0) :
    x.apply v s w = x.attempt v { s with tick := s.tick + 1 } w := by
  simp [apply, attempt, unlatched, ready]

end

/-- In every world a verdict takes one of the courses. -/
theorem apply_course (v : Verdict) (s : ExecutorState) (o : Observed σ) :
    Took (x.ApplyCourse v s) o (x.apply v s o) := by
  cases latched : s.observeOnly with
  | true =>
    rw [apply_of_latched latched]
    exact .silent rfl (.observing latched)
  | false =>
    by_cases waits : 0 < s.skipTicks
    · rw [apply_of_waiting latched waits]
      exact .silent rfl (.backingOff latched waits)
    have ready : s.skipTicks = 0 := by simpa using waits
    rw [apply_of_ready latched ready]
    unfold attempt
    obtain ⟨xs, result, s', o', eq, asked, went⟩ :=
      (execute_course (x := x) v { s with tick := s.tick + 1 } o).parts
    rw [eq]
    obtain ⟨settled, silent⟩ := settle_eq (x := x) result s' o'
    refine ⟨xs, silent.trans asked, ?_⟩
    change x.ApplyCourse v s xs _ (x.settle _ _ _).1
    rw [settled]
    exact .executed latched ready went

end NodeWarden.Executor
