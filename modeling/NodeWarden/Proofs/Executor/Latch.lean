import NodeWarden.Proofs.Executor.Confirmation
import NodeWarden.Proofs.Executor.Pace
import NodeWarden.Proofs.Kubernetes.Refusal

/-!
# The latch

An error that is not transient takes an executor's authority away: a refusal of its rights,
or an answer about a node that is not its own. It then observes only, for good
(`authority_lost`). The latch is a record of these errors and of nothing else
(`Took.latched`). An answer about another node is never acted upon: the call that had it is
the last one of its application (`Took.strayEnds`).
-/

namespace NodeWarden

namespace Exchange

/-- Whether the call is a read that answered with a node of another name. -/
def strays (own : String) : Exchange → Bool
  | read _ (.ok n) => n.name ≠ own
  | _ => false

/-- After an answer about another node there are no more calls, and the result tells of it. -/
def StrayEnds (own : String) (xs : List Exchange) (result : Except ClusterError ExecutionOutcome) :
    Prop :=
  ∀ earlier asked n later, xs = earlier ++ read asked (.ok n) :: later → n.name ≠ own →
    result = .error (.foreignNode n.name own) ∧ later = []

variable {own : String} {e : Exchange} {xs : List Exchange}
  {result : Except ClusterError ExecutionOutcome}

theorem not_strays_of_change (h : e.kind ≠ .get) : e.strays own = false := by
  cases e with
  | read => exact absurd rfl h
  | change => rfl

theorem StrayEnds.of_loyal (h : ∀ e ∈ xs, e.strays own = false) : StrayEnds own xs result := by
  rintro earlier asked n later rfl foreign
  have stray := h (read asked (.ok n)) (by simp)
  exact absurd stray (by simpa [strays] using foreign)

/-- Of calls that are not the end of it all, none strays. -/
theorem StrayEnds.loyal_of_ok {outcome : ExecutionOutcome} (h : StrayEnds own xs (.ok outcome)) :
    ∀ e ∈ xs, e.strays own = false := by
  intro e he
  obtain ⟨earlier, later, rfl⟩ := List.append_of_mem he
  cases e with
  | change => rfl
  | read asked answer =>
    cases answer with
    | error => rfl
    | ok n =>
      by_cases foreign : n.name = own
      · simp [strays, foreign]
      · cases (h earlier asked n later rfl foreign).1

theorem StrayEnds.cons (loyal : e.strays own = false) (h : StrayEnds own xs result) :
    StrayEnds own (e :: xs) result := by
  intro earlier asked n later same foreign
  cases earlier with
  | nil =>
    cases same
    exact absurd loyal (by simpa [strays] using foreign)
  | cons first earlier =>
    cases same
    exact h earlier asked n later rfl foreign

end Exchange

namespace Executor

variable {x : Executor} {v : Verdict} {s s' : ExecutorState} {xs : List Exchange}
  {action : NodeAction} {read : NodeState} {result : Except ClusterError ExecutionOutcome}
  {answer : Except ClusterError NodeState}

/-! ## Courses -/

theorem asked_loyal (accepted : x.scope.accept answer = .ok read) :
    (x.asked answer).strays x.scope.node.name = false := by
  obtain ⟨rfl, own⟩ := x.scope.accept_eq_ok.1 accepted
  simp [asked, Exchange.strays, own]

theorem asked_strayEnds {e : ClusterError} (refused : x.scope.accept answer = .error e) :
    Exchange.StrayEnds x.scope.node.name [x.asked answer] (.error e) := by
  intro earlier asked n later same foreign
  obtain ⟨rfl, one⟩ : earlier = [] ∧ [x.asked answer] = Exchange.read asked (.ok n) :: later := by
    cases earlier with
    | nil => exact ⟨rfl, same⟩
    | cons => simp at same
  cases one
  simp only [NodeScope.accept, if_neg foreign] at refused
  cases refused
  exact ⟨rfl, rfl⟩

theorem CordonCourse.strayEnds (h : x.CordonCourse read s xs result s')
    {result' : Except ClusterError ExecutionOutcome} :
    Exchange.StrayEnds x.scope.node.name xs result' :=
  .of_loyal fun e he => Exchange.not_strays_of_change (by simp [h.kind e he])

theorem DeleteCourse.strayEnds (h : x.DeleteCourse s xs result s') :
    Exchange.StrayEnds x.scope.node.name xs result := by
  cases h <;> exact .of_loyal (by simp [told, Exchange.strays])

theorem ActCourse.strayEnds (h : x.ActCourse s action xs result s') :
    Exchange.StrayEnds x.scope.node.name xs result := by
  cases h with
  | none => exact .of_loyal (by simp)
  | unread e _ refused => exact asked_strayEnds refused
  | cordon accepted went => exact went.strayEnds.cons (asked_loyal accepted)
  | delete accepted _ went => exact went.strayEnds.cons (asked_loyal accepted)
  | defer accepted _ went => exact went.strayEnds.cons (asked_loyal accepted)

theorem VerdictCourse.strayEnds (h : x.VerdictCourse v s xs result s') :
    Exchange.StrayEnds x.scope.node.name xs result := by
  cases h with
  | failed _ went => exact went.strayEnds
  | unlabelled went => exact went.strayEnds
  | labelled went _ _ published =>
    refine .of_loyal fun e he => ?_
    rcases List.mem_append.1 he with he | he
    · exact went.strayEnds.loyal_of_ok e he
    · exact Exchange.not_strays_of_change (by simp [published.kind e he])

theorem ExecuteCourse.strayEnds (h : x.ExecuteCourse v s xs result s') :
    Exchange.StrayEnds x.scope.node.name xs result := by
  cases h with
  | present _ went => exact went.strayEnds
  | absent _ refused =>
    intro earlier asked n later same foreign
    -- that the node is not there is an answer about the own node
    cases (asked_strayEnds refused earlier asked n later same foreign).1
  | unseen _ _ refused => exact asked_strayEnds refused
  | returned _ accepted went => exact went.strayEnds.cons (asked_loyal accepted)

end Executor

namespace Application

open Executor

variable {x : Executor} {a : Application} {past : List Application}

/-! ## Applications -/

/-- The application ended in an error that takes the executor's authority away. -/
def LosesAuthority (a : Application) : Prop :=
  (∃ words, a.result = .error (.permission words)) ∨
    ∃ requested own, a.result = .error (.foreignNode requested own)

theorem losesAuthority_iff :
    a.LosesAuthority ↔ ∃ e, a.result = .error e ∧ e.isTransient = false := by
  constructor
  · rintro (⟨words, failed⟩ | ⟨requested, own, failed⟩)
    · exact ⟨_, failed, rfl⟩
    · exact ⟨_, failed, rfl⟩
  · rintro ⟨e, failed, final⟩
    cases e with
    | permission words => exact .inl ⟨words, failed⟩
    | foreignNode requested own => exact .inr ⟨requested, own, failed⟩
    | api | timeout | notFound => cases final

theorem not_losesAuthority_of_ok {outcome : ExecutionOutcome} (done : a.result = .ok outcome) :
    ¬ a.LosesAuthority := by
  simp [LosesAuthority, done]

theorem Took.strayEnds (h : a.Took x) :
    Exchange.StrayEnds x.scope.node.name a.exchanges a.result := by
  rcases h.cases with ⟨-, calls, -⟩ | ⟨-, -, calls, -⟩ | ⟨-, -, s', went, -⟩
  · rw [calls]
    exact .of_loyal (by simp)
  · rw [calls]
    exact .of_loyal (by simp)
  · exact went.strayEnds

/-- An executor is latched if it was before, or has just lost its authority. -/
theorem Took.latched (h : a.Took x) :
    a.after.observeOnly = true ↔ a.before.observeOnly = true ∨ a.LosesAuthority := by
  rcases h.pace with ⟨latched, observes⟩ | ⟨unlatched, -, waits⟩ | ⟨unlatched, -, executed, -⟩
  · simp [observes.after, latched]
  · simp [waits.after, unlatched, not_losesAuthority_of_ok waits.result]
  · cases result : a.result with
    | ok outcome =>
      simp [(h.paced_of_ok executed result).2.2, unlatched, not_losesAuthority_of_ok result]
    | error e =>
      rw [losesAuthority_iff]
      cases transient : e.isTransient with
      | true => simp [(h.paced_of_transient result transient).2.2, unlatched, result, transient]
      | false => simp [(h.paced_of_final result transient).2, result, transient]

end Application

/-! ## Runs -/

namespace Executor

variable {σ : Type} [ClusterApi σ] [Journal σ] {x : Executor} {w : σ} {steps : List (WorldStep σ)}
  {a b : Application} {i t : Nat}

/-- A latch that tells of the applications so far goes on to do so. -/
theorem latched_step {st : ExecutorState × σ} {step : WorldStep σ} {past : List Application}
    (told : st.1.observeOnly = true ↔ ∃ b ∈ past, b.LosesAuthority)
    (made : (x.proceed st step).2 = some a) :
    (x.proceed st step).1.1.observeOnly = true ↔ ∃ b ∈ past ++ [a], b.LosesAuthority := by
  obtain ⟨took, before, after⟩ := proceed_spec made
  rw [← after, took.latched, before, told]
  simp [or_and_right, exists_or]

/-- Before an application of a run the executor is latched if one before it has lost the
authority. -/
theorem latched_before (hi : (x.undertakings w steps)[i]? = some a) :
    a.before.observeOnly = true ↔ ∃ b ∈ (x.undertakings w steps).take i, b.LosesAuthority := by
  obtain ⟨st, step, told, made⟩ := History.exists_related
    (R := fun (st : ExecutorState × σ) past => st.1.observeOnly = true ↔
      ∃ b ∈ past, b.LosesAuthority)
    (by simp [ExecutorState.initial])
    (fun _ _ _ told silent => by rwa [proceed_silent silent])
    (fun _ _ _ _ told made => latched_step told made) hi
  rw [(proceed_spec made).2.1]
  exact told

/-- Among the applications up to one are those before it, and itself. -/
theorem exists_loss_iff (hi : (x.undertakings w steps)[i]? = some a) :
    (∃ j b, j ≤ i ∧ (x.undertakings w steps)[j]? = some b ∧ b.LosesAuthority) ↔
      (∃ b ∈ (x.undertakings w steps).take i, b.LosesAuthority) ∨ a.LosesAuthority := by
  constructor
  · rintro ⟨j, b, hj, hb, loses⟩
    rcases Nat.lt_or_eq_of_le hj with sooner | rfl
    · exact .inl ⟨b, History.mem_take_iff.2 ⟨j, sooner, hb⟩, loses⟩
    · cases hi.symm.trans hb
      exact .inr loses
  · rintro (⟨b, hb, loses⟩ | loses)
    · obtain ⟨j, sooner, hb⟩ := History.mem_take_iff.1 hb
      exact ⟨j, b, Nat.le_of_lt sooner, hb, loses⟩
    · exact ⟨i, a, Nat.le_refl i, hi, loses⟩

/-- An executor observes only, from the tick on after an error that takes its authority
away, and until there is one it does not. Errors that may pass never have this effect; an
answer about another node always has it, and ends the application. Behind the client of an
API server no errors have it but refusals. -/
theorem authority_lost (hi : (x.undertakings w steps)[i]? = some a) :
    (a.after.observeOnly = true ↔
      ∃ j b, j ≤ i ∧ (x.undertakings w steps)[j]? = some b ∧ b.LosesAuthority) ∧
    (a.after.observeOnly = true →
      ∀ t b, i < t → (x.undertakings w steps)[t]? = some b → b.Observes) ∧
    ((∀ j b e, j ≤ i → (x.undertakings w steps)[j]? = some b → b.result = .error e →
      e.isTransient = true) → a.after.observeOnly = false) ∧
    (∀ earlier asked n later, a.exchanges = earlier ++ .read asked (.ok n) :: later →
      n.name ≠ x.scope.node.name →
      a.result = .error (.foreignNode n.name x.scope.node.name) ∧ later = []) ∧
    (∀ f : Kubernetes.Failure,
      Kubernetes.Judged f.Refuses (.error f.classify : Except ClusterError Unit)) ∧
    ∀ (τ : Type) [Kubernetes.HttpTransport τ] [Journal τ] (limit : Option Duration)
        (name : String) (u : τ),
      Kubernetes.Judged (Kubernetes.Refused limit (Kubernetes.getRequest name) u)
        (Kubernetes.getNode limit name u).1 ∧
      ∀ c, Kubernetes.Judged (Kubernetes.Refused limit (Kubernetes.changeRequest name c) u)
        (Kubernetes.changeNode limit c name u).1 := by
  have took := took_of_undertakings hi
  have tells : a.after.observeOnly = true ↔
      ∃ j b, j ≤ i ∧ (x.undertakings w steps)[j]? = some b ∧ b.LosesAuthority := by
    rw [took.latched, latched_before hi, exists_loss_iff hi]
  refine ⟨tells, fun latched t b hit ht => ?_, fun passing => ?_, took.strayEnds,
    Kubernetes.Failure.classify_judged,
    fun _ _ _ limit name u => ⟨Kubernetes.getNode_judged limit name u,
      fun c => Kubernetes.changeNode_judged limit c name u⟩⟩
  · -- what latched the executor then still does
    obtain ⟨j, c, hj, hc, loses⟩ := tells.1 latched
    have before : b.before.observeOnly = true :=
      (latched_before ht).2 ⟨c, History.mem_take_iff.2 ⟨j, Nat.lt_of_le_of_lt hj hit, hc⟩, loses⟩
    rcases (took_of_undertakings ht).pace with ⟨-, observes⟩ | ⟨unlatched, -⟩ | ⟨unlatched, -⟩
    · exact observes
    · exact absurd (before.symm.trans unlatched) (by decide)
    · exact absurd (before.symm.trans unlatched) (by decide)
  · refine Bool.eq_false_iff.2 fun latched => ?_
    obtain ⟨j, b, hj, hb, loses⟩ := tells.1 latched
    obtain ⟨e, failed, final⟩ := Application.losesAuthority_iff.1 loses
    exact absurd ((passing j b e hj hb failed).symm.trans final) (by decide)

/-- A node that answers under another name from the second verdict on. -/
def strayedSteps : List (WorldStep MemoryCluster) :=
  [.apply (.trial .cordon), .change (MemoryCluster.happen (.renameReads (some "node-b"))),
    .apply (.trial .delete), .change (MemoryCluster.happen (.renameReads none)),
    .apply (.trial .delete)]

/-- The executor refuses to act on it after one read, and then observes only, although the
name is its own again. -/
theorem authority_lost_trial :
    ∃ first second third, (trial false).undertakings
        (MemoryCluster.withNodes ["node-a"]) strayedSteps = [first, second, third] ∧
      first.after.observeOnly = false ∧
      second.result = .error (.foreignNode "node-b" "node-a") ∧ second.after.observeOnly = true ∧
      third.Observes := by
  obtain ⟨-, -, before, -⟩ := authority_lost
    (rfl : ((trial false).undertakings (MemoryCluster.withNodes ["node-a"]) strayedSteps)[0]? =
      some _)
  obtain ⟨tells, after, -, stray, -⟩ := authority_lost
    (rfl : ((trial false).undertakings (MemoryCluster.withNodes ["node-a"]) strayedSteps)[1]? =
      some _)
  have refused :=
    (stray [] "node-a" { NodeState.registered "node-b" with unschedulable := true } [] rfl
    (by decide)).1
  have latched := tells.2 ⟨1, _, Nat.le_refl 1, rfl, .inr ⟨_, _, refused⟩⟩
  refine ⟨_, _, _, rfl, before ?_, refused, latched, after latched 2 _ (by decide) rfl⟩
  intro j b e hj hb failed
  cases Nat.le_zero.1 hj
  cases hb
  cases failed

end Executor

end NodeWarden
