import NodeWarden.Agent.Tick
import NodeWarden.Proofs.History
import NodeWarden.Proofs.Metrics.Series
import NodeWarden.Proofs.Policy.Escalation

/-!
# The accounts of an agent

The metrics of an agent are an account of its ticks (`metrics_account`). Every tick ends in
one of three ways (`TickAccount.Ended`): it is abandoned, or the executor's outcome is
reported, or the executor's error is; and each of them leaves its mark in another counter,
so that no tick is lost and none is counted twice (`Sound.one_mark`). What a tick adds to
the counters can be told from its report (`TickAccount.Counts`), so after any run the
counters tally with the reports (`AgentState.Tallied`), and the rest is a sum over the
ticks. A counter of outcomes counts one kind of them and no other, for every kind has a name
of its own (`ExecutionOutcome.Named`).
-/

namespace NodeWarden

namespace ExecutionOutcome

/-- The names under which outcomes are counted. All that is left out is how long the
executor waits. -/
inductive Named : String → ExecutionOutcome → Prop where
  | noAction : Named "none" .noAction
  | cordoned : Named "cordoned" .cordoned
  | alreadyCordoned : Named "already_cordoned" .alreadyCordoned
  | deleteDeferred : Named "delete_deferred" .deleteDeferred
  | deleted : Named "deleted" .deleted
  | backingOff (remaining : UInt32) : Named "backing_off" (.backingOff remaining)
  | observeOnly : Named "observe_only" .observeOnly

variable {name : String} {o : ExecutionOutcome}

theorem named_iff : Named name o ↔ o.label = name := by
  constructor
  · rintro ⟨⟩ <;> rfl
  · rintro rfl
    cases o <;> constructor

instance : Decidable (Named name o) := decidable_of_iff _ named_iff.symm

end ExecutionOutcome

/-- How sampling failed, if it did. -/
def samplingError : Except DeviceError SampleSet → Option DeviceError
  | .ok _ => none
  | .error e => some e

/-- A tick, with what came of sampling and its report. -/
structure TickAccount where
  sampled : Except DeviceError SampleSet
  report : TickReport

namespace TickAccount

def failure (k : TickAccount) : Option DeviceError := samplingError k.sampled

/-- The tick could not be sampled, and its verdict asks for nothing: the executor is left alone. -/
def Abandoned (k : TickAccount) : Prop := k.failure.isSome = true ∧ k.report.verdict.action = .none

/-- The errors of the tick before its verdict is applied. -/
def before (k : TickAccount) : List TickError := (k.failure.map TickError.sample).toList

/-- The ways in which a tick can end. -/
inductive Ended (k : TickAccount) : Prop where
  | abandoned : k.Abandoned → k.report.outcome = none → k.report.errors = k.before → Ended k
  | applied (outcome : ExecutionOutcome) : ¬ k.Abandoned → k.report.outcome = some outcome →
      k.report.errors = k.before → Ended k
  | failed (e : ClusterError) : ¬ k.Abandoned → k.report.outcome = none →
      k.report.errors = k.before ++ [.execute e] → Ended k

/-- What a tick tells of itself is consistent. -/
structure Sound (k : TickAccount) : Prop where
  condition : k.report.verdict.condition = .sampleFailure ↔ k.failure.isSome = true
  ended : k.Ended

/-! ## What a tick counts -/

/-- The labels under which its verdict is counted. -/
def verdictKeys (k : TickAccount) : List (List String) :=
  [[k.report.verdict.action.label, k.report.verdict.condition.label]]

/-- The labels under which its outcome is counted, if it has one. -/
def outcomeKeys (k : TickAccount) : List (List String) :=
  k.report.outcome.toList.map fun o => [o.label]

/-- The labels under which its errors are counted. -/
def failureKeys (k : TickAccount) : List (List String) := k.report.errors.map fun e => [e.stage]

/-- The number of visible devices after the tick, if it was such before. -/
def devices (k : TickAccount) (known : Nat) : Nat :=
  match k.sampled with
  | .ok set => set.samples.length
  | .error _ => known

/-- What a tick makes of the metrics. -/
structure Counts (k : TickAccount) (m m' : Metrics) : Prop where
  verdicts : m'.verdicts = m.verdicts.bumpAll k.verdictKeys
  nodeActions : m'.nodeActions = m.nodeActions.bumpAll k.outcomeKeys
  tickFailures : m'.tickFailures = m.tickFailures.bumpAll k.failureKeys
  nodeScore : m'.nodeScore = k.report.verdict.score
  visibleDevices : m'.visibleDevices = k.devices m.visibleDevices

variable {k : TickAccount}

/-- How often the errors before a verdict are of a stage. -/
theorem count_before (k : TickAccount) (stage : String) :
    (k.before.map fun e => [e.stage]).count [stage] = if k.failure.isSome = true ∧
      stage = "sample" then 1 else 0 := by
  cases failed : k.failure with
  | none => simp [before, failed]
  | some e =>
    by_cases same : stage = "sample"
    · simp [before, failed, same, TickError.stage]
    · simp [before, failed, same, TickError.stage, Ne.symm same]

/-- How often a verdict is counted under the condition of a failed sampling. -/
theorem Sound.count_verdict (h : k.Sound) (action : NodeAction) :
    k.verdictKeys.count [action.label, Condition.sampleFailure.label] =
      if k.failure.isSome = true ∧ k.report.verdict.action = action then 1 else 0 := by
  have same : [k.report.verdict.action.label, k.report.verdict.condition.label] =
      [action.label, Condition.sampleFailure.label] ↔
        k.failure.isSome = true ∧ k.report.verdict.action = action := by
    rw [← h.condition, List.cons_eq_cons, List.cons_eq_cons, NodeAction.label_injective.eq_iff,
      Condition.label_injective.eq_iff]
    simp only [true_and, and_comm]
  rw [verdictKeys, List.count_singleton]
  simp only [beq_iff_eq, same]

/-- A tick leaves one mark: its outcome, or the failure of the executor, or the verdict that
abandons it. -/
theorem Sound.one_mark (h : k.Sound) :
    k.outcomeKeys.length + k.failureKeys.count ["execute"] +
      k.verdictKeys.count [NodeAction.none.label, Condition.sampleFailure.label] = 1 := by
  rw [h.count_verdict, failureKeys]
  cases h.ended with
  | abandoned abandoned silent errors =>
    have idle : k.failure.isSome = true ∧ k.report.verdict.action = .none := abandoned
    rw [errors, count_before, if_pos idle]
    simp [outcomeKeys, silent]
  | applied outcome acted reported errors =>
    have acted : ¬ (k.failure.isSome = true ∧ k.report.verdict.action = .none) := acted
    rw [errors, count_before, if_neg acted]
    simp [outcomeKeys, reported]
  | failed e acted silent errors =>
    have acted : ¬ (k.failure.isSome = true ∧ k.report.verdict.action = .none) := acted
    rw [errors, List.map_append, List.count_append, count_before, if_neg acted]
    simp [outcomeKeys, silent, TickError.stage]

/-- A failure of sampling is counted as a failure, and as a verdict for one of the actions. -/
theorem Sound.count_sample (h : k.Sound) :
    k.failureKeys.count ["sample"] =
      k.verdictKeys.count [NodeAction.none.label, Condition.sampleFailure.label] +
        k.verdictKeys.count [NodeAction.cordon.label, Condition.sampleFailure.label] +
        k.verdictKeys.count [NodeAction.delete.label, Condition.sampleFailure.label] := by
  have sampling : k.failureKeys.count ["sample"] = if k.failure.isSome = true then 1 else 0 := by
    unfold failureKeys
    cases h.ended with
    | abandoned _ _ errors | applied _ _ _ errors =>
      rw [errors, count_before]
      simp
    | failed _ _ _ errors =>
      rw [errors, List.map_append, List.count_append, count_before]
      simp [TickError.stage]
  rw [sampling, h.count_verdict, h.count_verdict, h.count_verdict]
  cases k.failure <;> cases k.report.verdict.action <;> simp

end TickAccount

/-! ## The stages of a tick -/

/-- A sample changes nothing but what is told of its device. -/
theorem Metrics.foldl_recordSample (samples : List DeviceSample) (m : Metrics) :
    let m' := samples.foldl recordSample m
    m'.verdicts = m.verdicts ∧ m'.nodeActions = m.nodeActions ∧ m'.tickFailures = m.tickFailures ∧
      m'.visibleDevices = m.visibleDevices := by
  induction samples generalizing m with
  | nil => exact ⟨rfl, rfl, rfl, rfl⟩
  | cons sample rest ih => exact ih (m.recordSample sample)

namespace Agent

variable {σ : Type} [Journal σ] [Clock σ] {a : Agent} {backend : DeviceBackend} {s : AgentState}
  {w : σ}

/-- What comes of sampling on a tick. -/
def sampled (a : Agent) (backend : DeviceBackend) (w : σ) : Except DeviceError SampleSet :=
  SampleSet.take backend a.node.name a.mask (Clock.now (noteAll (SampleSet.notes backend a.mask) w))

/-- What judging a tick makes of the metrics. -/
structure Judged (k : TickAccount) (m m' : Metrics) : Prop where
  condition : k.report.verdict.condition = .sampleFailure ↔ k.failure.isSome = true
  verdicts : m'.verdicts = m.verdicts
  nodeActions : m'.nodeActions = m.nodeActions
  tickFailures : m'.tickFailures = m.tickFailures.bumpAll (k.before.map fun e => [e.stage])
  visibleDevices : m'.visibleDevices = k.devices m.visibleDevices

theorem judge_judged (a : Agent) (backend : DeviceBackend) (s : AgentState) (w : σ) :
    ∃ v s' w', a.judge backend s w = ((v, samplingError (a.sampled backend w)), s', w') ∧
      ∀ report : TickReport, report.verdict = v →
      Judged ⟨a.sampled backend w, report⟩ s.metrics s'.metrics := by
  unfold judge
  dsimp only
  rw [← sampled]
  cases a.sampled backend w with
  | ok set =>
    obtain ⟨verdicts, nodeActions, tickFailures, devices⟩ := Metrics.foldl_recordSample set.samples
      { s.metrics with visibleDevices := set.samples.length }
    refine ⟨_, _, _, rfl, fun report same => ⟨?_, verdicts, nodeActions, tickFailures, devices⟩⟩
    rw [same]
    exact ⟨fun failed => absurd failed (set.classify_ne_sampleFailure _), nofun⟩
  | error e =>
    refine ⟨_, _, _, rfl, fun report same => ⟨?_, rfl, rfl, rfl, rfl⟩⟩
    rw [same]
    exact ⟨fun _ => rfl, fun _ => rfl⟩

section Enforced

variable [ClusterApi σ]

/-- What applying the verdict makes of the metrics. -/
structure Enforced (k : TickAccount) (m m' : Metrics) : Prop where
  ended : k.Ended
  verdicts : m'.verdicts = m.verdicts
  nodeActions : m'.nodeActions = m.nodeActions.bumpAll k.outcomeKeys
  /-- The errors that come after those of sampling are counted. -/
  tickFailures : ∃ later, k.failureKeys = (k.before.map fun e => [e.stage]) ++ later ∧
    m'.tickFailures = m.tickFailures.bumpAll later
  nodeScore : m'.nodeScore = m.nodeScore
  visibleDevices : m'.visibleDevices = m.visibleDevices

omit [Clock σ] in
theorem enforceOrAbandon_enforced (a : Agent) (v : Verdict) (sampled : Except DeviceError SampleSet)
    (s : AgentState) (w : σ) :
    ∃ report s' w', a.enforceOrAbandon v (samplingError sampled) s w = (report, s', w') ∧
      report.verdict = v ∧ Enforced ⟨sampled, report⟩ s.metrics s'.metrics := by
  unfold enforceOrAbandon
  dsimp only
  split
  · rename_i abandoned
    refine ⟨_, _, _, rfl, rfl, .abandoned abandoned rfl rfl, rfl, rfl, ⟨[], ?_, rfl⟩, rfl, rfl⟩
    exact (List.append_nil _).symm
  · rename_i acted
    unfold enforce
    rcases a.executor.apply v s.executor w with ⟨e | outcome, x, w'⟩
    · refine ⟨_, _, _, rfl, rfl, .failed e acted rfl rfl, rfl, rfl,
        ⟨[["execute"]], ?_, rfl⟩, rfl, rfl⟩
      exact List.map_append
    · refine ⟨_, _, _, rfl, rfl, .applied outcome acted rfl rfl, rfl, rfl, ⟨[], ?_, rfl⟩, rfl, rfl⟩
      exact (List.append_nil _).symm

/-- A tick, in any world, tells consistently of itself, and counts what it tells. -/
theorem tick_counts (a : Agent) (backend : DeviceBackend) (s : AgentState) (w : σ) :
    let k : TickAccount := ⟨a.sampled backend w, (a.tick backend s w).1⟩
    let s' := (a.tick backend s w).2.1
    k.Sound ∧ k.Counts s.metrics s'.metrics ∧ s'.metrics.observeOnly = s'.executor.observeOnly := by
  obtain ⟨v, s₁, w₁, judges, account⟩ := judge_judged a backend { s with ticks := s.ticks + 1 } w
  obtain ⟨report, s₂, w₂, enforces, same, enforced⟩ :=
    enforceOrAbandon_enforced a v (a.sampled backend w)
    { s₁ with metrics := s₁.metrics.recordVerdict v } w₁
  have judged := account report same
  obtain ⟨later, failures, counted⟩ := enforced.tickFailures
  dsimp only [tick]
  rw [judges]
  dsimp only
  rw [enforces]
  refine ⟨⟨judged.condition, enforced.ended⟩, ?_, rfl⟩
  subst same
  constructor
  case verdicts =>
    exact enforced.verdicts.trans
      (congrArg (Series.bump [report.verdict.action.label, report.verdict.condition.label])
        judged.verdicts)
  case nodeActions =>
    exact enforced.nodeActions.trans (congrArg (Series.bumpAll _) judged.nodeActions)
  case tickFailures =>
    rw [failures, Series.bumpAll_append]
    exact counted.trans (congrArg (Series.bumpAll _) judged.tickFailures)
  case nodeScore => exact enforced.nodeScore
  case visibleDevices => exact enforced.visibleDevices.trans judged.visibleDevices

end Enforced

end Agent

/-! ## Runs -/

/-- What comes next in the run of an agent in a world. -/
inductive AgentWorldStep (σ : Type) where
  /-- A tick, on which the devices answer as the backend does. -/
  | tick (backend : DeviceBackend)
  /-- The world changes without the agent. -/
  | change (f : σ → σ)

namespace TickAccount

variable {past : List TickAccount} {k : TickAccount}

/-- The score of the last verdict. -/
def lastScore (past : List TickAccount) : Float :=
  (past.getLast?.map fun k => k.report.verdict.score).getD 0

/-- The size of the last set of samples. -/
def lastDevices (past : List TickAccount) : Nat :=
  ((past.filterMap fun k => k.sampled.toOption).getLast?.map fun set => set.samples.length).getD 0

theorem lastScore_append (past : List TickAccount) (k : TickAccount) :
    lastScore (past ++ [k]) = k.report.verdict.score := by
  simp [lastScore]

theorem lastDevices_append (past : List TickAccount) (k : TickAccount) :
    lastDevices (past ++ [k]) = k.devices (lastDevices past) := by
  cases taken : k.sampled <;> simp [lastDevices, devices, taken, Except.toOption]

/-- The marks of ticks are as many as the ticks. -/
theorem marks_eq_length (sound : ∀ k ∈ past, k.Sound) :
    (past.flatMap outcomeKeys).length + (past.flatMap failureKeys).count ["execute"] +
      (past.flatMap verdictKeys).count [NodeAction.none.label, Condition.sampleFailure.label] =
      past.length := by
  induction past with
  | nil => rfl
  | cons k rest ih =>
    obtain ⟨now, later⟩ := List.forall_mem_cons.1 sound
    have mark := now.one_mark
    have marks := ih later
    simp only [List.flatMap_cons, List.length_append, List.count_append, List.length_cons]
    omega

/-- The failures of sampling are as many as the verdicts of their condition. -/
theorem failures_eq_verdicts (sound : ∀ k ∈ past, k.Sound) :
    (past.flatMap failureKeys).count ["sample"] =
      (past.flatMap verdictKeys).count [NodeAction.none.label, Condition.sampleFailure.label] +
        (past.flatMap verdictKeys).count [NodeAction.cordon.label, Condition.sampleFailure.label] +
        (past.flatMap verdictKeys).count
        [NodeAction.delete.label, Condition.sampleFailure.label] := by
  induction past with
  | nil => rfl
  | cons k rest ih =>
    obtain ⟨now, later⟩ := List.forall_mem_cons.1 sound
    have failures := now.count_sample
    have verdicts := ih later
    simp only [List.flatMap_cons, List.count_append]
    omega

theorem length_verdictKeys (past : List TickAccount) :
    (past.flatMap verdictKeys).length = past.length := by
  induction past with
  | nil => rfl
  | cons k rest ih =>
    rw [List.flatMap_cons, List.length_append, ih, List.length_cons, Nat.add_comm]; rfl

/-- An outcome is counted as often as it is reported. -/
theorem count_outcomeKeys (past : List TickAccount) (name : String) :
    (past.flatMap outcomeKeys).count [name] =
      past.countP fun k => ∃ o ∈ k.report.outcome, ExecutionOutcome.Named name o := by
  induction past with
  | nil => rfl
  | cons k rest ih =>
    rw [List.flatMap_cons, List.count_append, ih, List.countP_cons, Nat.add_comm]
    cases reported : k.report.outcome with
    | none => simp [outcomeKeys, reported]
    | some o =>
      by_cases same : o.label = name <;>
        simp [outcomeKeys, reported, same, ExecutionOutcome.named_iff]

/-- The errors of a tick: at most one of sampling, and after it at most one of the executor. -/
theorem Ended.errors (h : k.Ended) :
    ∃ (sampling : Option DeviceError) (execution : Option ClusterError),
      k.report.errors =
      (sampling.map TickError.sample).toList ++ (execution.map TickError.execute).toList := by
  cases h with
  | abandoned _ _ errors | applied _ _ _ errors =>
    exact ⟨k.failure, none, by rw [errors, before]; simp⟩
  | failed e _ _ errors => exact ⟨k.failure, some e, errors⟩

/-- A tick has no outcome if and only if it is abandoned or the executor failed. -/
theorem Ended.outcome_eq_none (h : k.Ended) :
    k.report.outcome = none ↔ k.Abandoned ∨ ∃ e, TickError.execute e ∈ k.report.errors := by
  cases h with
  | abandoned abandoned silent _ => exact ⟨fun _ => .inl abandoned, fun _ => silent⟩
  | applied outcome acted reported errors =>
    have unfailed : ¬ ∃ e, TickError.execute e ∈ k.report.errors := by
      rw [errors, before]
      cases k.failure <;> simp
    rw [reported]
    exact ⟨nofun, fun ended => absurd ended (not_or.2 ⟨acted, unfailed⟩)⟩
  | failed e _ silent errors => exact ⟨fun _ => .inr ⟨e, by simp [errors]⟩, fun _ => silent⟩

end TickAccount

namespace AgentState

/-- The metrics tally with the ticks so far. -/
structure Tallied (s : AgentState) (past : List TickAccount) : Prop where
  sound : ∀ k ∈ past, k.Sound
  verdicts : s.metrics.verdicts.Tallies (past.flatMap TickAccount.verdictKeys)
  nodeActions : s.metrics.nodeActions.Tallies (past.flatMap TickAccount.outcomeKeys)
  tickFailures : s.metrics.tickFailures.Tallies (past.flatMap TickAccount.failureKeys)
  nodeScore : s.metrics.nodeScore = TickAccount.lastScore past
  visibleDevices : s.metrics.visibleDevices = TickAccount.lastDevices past
  observeOnly : s.metrics.observeOnly = s.executor.observeOnly

variable {s s' : AgentState} {past : List TickAccount} {k : TickAccount}

theorem Tallied.next (h : s.Tallied past) (sound : k.Sound) (counts : k.Counts s.metrics s'.metrics)
    (observeOnly : s'.metrics.observeOnly = s'.executor.observeOnly) :
    s'.Tallied (past ++ [k]) where
  sound := by
    simp only [List.forall_mem_append, List.forall_mem_singleton]
    exact ⟨h.sound, sound⟩
  verdicts := by
    rw [counts.verdicts, List.flatMap_append, List.flatMap_singleton]
    exact h.verdicts.bumpAll _
  nodeActions := by
    rw [counts.nodeActions, List.flatMap_append, List.flatMap_singleton]
    exact h.nodeActions.bumpAll _
  tickFailures := by
    rw [counts.tickFailures, List.flatMap_append, List.flatMap_singleton]
    exact h.tickFailures.bumpAll _
  nodeScore := by rw [counts.nodeScore, TickAccount.lastScore_append]
  visibleDevices := by rw [counts.visibleDevices, h.visibleDevices, TickAccount.lastDevices_append]
  observeOnly := observeOnly

/-- What the metrics of an agent say of its ticks. -/
structure Accounts (s : AgentState) (past : List TickAccount) : Prop where
  /-- Every tick comes to a verdict. -/
  verdicts : s.metrics.verdicts.total = past.length
  /-- The failures of sampling can be told from the verdicts, whatever these ask for. -/
  samplings : s.metrics.tickFailures.count ["sample"] =
    s.metrics.verdicts.count ["none", "sample-failure"] +
      s.metrics.verdicts.count ["cordon", "sample-failure"] +
      s.metrics.verdicts.count ["delete", "sample-failure"]
  /-- Every tick has an outcome, or a failure of the executor, or else it was abandoned. -/
  endings : s.metrics.nodeActions.total + s.metrics.tickFailures.count ["execute"] +
    s.metrics.verdicts.count ["none", "sample-failure"] = past.length
  /-- Every outcome is counted under its name as often as it is reported. -/
  outcomes (name : String) : s.metrics.nodeActions.count [name] =
    past.countP fun k => ∃ o ∈ k.report.outcome, ExecutionOutcome.Named name o
  observeOnly : s.metrics.observeOnly = s.executor.observeOnly
  nodeScore : s.metrics.nodeScore = TickAccount.lastScore past
  visibleDevices : s.metrics.visibleDevices = TickAccount.lastDevices past
  unreported : ∀ k ∈ past, k.report.outcome = none ↔
    k.Abandoned ∨ ∃ e, TickError.execute e ∈ k.report.errors
  errors : ∀ k ∈ past, ∃ (sampling : Option DeviceError) (execution : Option ClusterError),
    k.report.errors =
    (sampling.map TickError.sample).toList ++ (execution.map TickError.execute).toList

theorem Tallied.accounts (h : s.Tallied past) : s.Accounts past where
  verdicts := by rw [h.verdicts.total, TickAccount.length_verdictKeys]
  samplings := by
    simp only [h.tickFailures.count, h.verdicts.count]
    exact TickAccount.failures_eq_verdicts h.sound
  endings := by
    rw [h.nodeActions.total, h.tickFailures.count, h.verdicts.count]
    exact TickAccount.marks_eq_length h.sound
  outcomes name := by rw [h.nodeActions.count, TickAccount.count_outcomeKeys]
  observeOnly := h.observeOnly
  nodeScore := h.nodeScore
  visibleDevices := h.visibleDevices
  unreported k hk := (h.sound k hk).ended.outcome_eq_none
  errors k hk := (h.sound k hk).ended.errors

end AgentState

namespace Agent

variable {σ : Type} [ClusterApi σ] [Journal σ] [Clock σ]

theorem tallied_initial (a : Agent) : a.initial.Tallied [] where
  sound _ hk := absurd hk List.not_mem_nil
  verdicts := .empty
  nodeActions := .empty
  tickFailures := .empty
  nodeScore := rfl
  visibleDevices := rfl
  observeOnly := rfl

/-- One step of a run in a world: the agent and the world after it, and the account of the
tick if it was one. -/
def proceed (a : Agent) (st : AgentState × σ) :
    AgentWorldStep σ → (AgentState × σ) × Option TickAccount
  | .tick backend =>
    ((a.tick backend st.1 st.2).2, some ⟨a.sampled backend st.2, (a.tick backend st.1 st.2).1⟩)
  | .change f => ((st.1, f st.2), none)

/-- The ticks of a run of a new agent in a world, the first one first. -/
def accounts (a : Agent) (w : σ) (steps : List (AgentWorldStep σ)) : List TickAccount :=
  History.records a.proceed (a.initial, w) steps

/-- The metrics of a new agent account for its ticks, in any world and whatever the devices
answer. -/
theorem metrics_account (a : Agent) (w : σ) (steps : List (AgentWorldStep σ)) :
    (History.final a.proceed (a.initial, w) steps).1.Accounts (a.accounts w steps) := by
  have tallied : (History.final a.proceed (a.initial, w) steps).1.Tallied (a.accounts w steps) := by
    refine History.records_invariant (R := fun (st : AgentState × σ) past => st.1.Tallied past)
      a.tallied_initial ?_ ?_
    · intro st step past kept silent
      cases step with
      | tick backend => cases silent
      | change f => exact kept
    · intro st step past k kept made
      cases step with
      | tick backend =>
        cases made
        obtain ⟨sound, counts, observeOnly⟩ := a.tick_counts backend st.1 st.2
        exact kept.next sound counts observeOnly
      | change f => cases made
  exact tallied.accounts

end Agent

end NodeWarden
