import NodeWarden.Agent.Tick
import NodeWarden.Proofs.Executor.TwoPhase
import NodeWarden.Proofs.Policy.Table

/-!
# One tick of an agent

A tick is one step of the evaluator, and then one application of its verdict or none
(`record_spec`). All else that a tick does is to write into the log, which a cluster in
memory does not keep, and to count, which changes nothing that a later tick depends on.
-/

namespace NodeWarden

/-- What the executor answered on a tick, if it was asked. -/
def TickReport.result (r : TickReport) : Option (Except ClusterError ExecutionOutcome) :=
  match r.outcome, r.errors.getLast? with
  | some outcome, _ => some (.ok outcome)
  | none, some (.execute e) => some (.error e)
  | none, _ => none

/-- A tick of an agent in a cluster, with the calls that it made. -/
structure TickRecord where
  node : NodeIdentity
  report : TickReport
  /-- The calls that were made on the tick, with their answers. -/
  exchanges : List Exchange
  /-- The state of the executor before and after the tick. -/
  before : ExecutorState
  after : ExecutorState

namespace TickRecord

def condition (k : TickRecord) : Condition := k.report.verdict.condition

/-- What came of the verdict, if the executor was asked to apply it. -/
def application (k : TickRecord) : Option Application :=
  k.report.result.map fun result =>
    ⟨k.node, k.report.verdict, k.before, k.exchanges, result, k.after⟩

theorem application_eq_some {k : TickRecord} {p : Application} (h : k.application = some p) :
    p.node = k.node ∧ p.verdict = k.report.verdict ∧ p.before = k.before ∧
      p.exchanges = k.exchanges ∧ k.report.result = some p.result ∧ p.after = k.after := by
  obtain ⟨result, answered, rfl⟩ := Option.map_eq_some_iff.1 h
  exact ⟨rfl, rfl, rfl, rfl, answered, rfl⟩

/-- A Delete call was made on the tick. -/
def Deletes (k : TickRecord) : Prop := ∃ e ∈ k.exchanges, e.kind = .delete

instance (k : TickRecord) : Decidable k.Deletes :=
  inferInstanceAs (Decidable (∃ e ∈ k.exchanges, e.kind = .delete))

/-- The verdict was applied, and its application confirmed the cordon. -/
def ConfirmsCordon (k : TickRecord) : Prop := ∃ p, k.application = some p ∧ p.ConfirmsCordon

/-- The verdict was applied, and its application made the executor start over. -/
def StartsOver (k : TickRecord) : Prop := ∃ p, k.application = some p ∧ p.StartsOver

end TickRecord

namespace Agent

/-- What a tick comes to before its verdict is applied, the log aside. -/
def judgement (a : Agent) (backend : DeviceBackend) (s : AgentState) (time : Timestamp) :
    (Verdict × Option DeviceError) × AgentState :=
  match SampleSet.take backend a.node.name a.mask time with
  | .ok set =>
    let (v, e) := s.evaluator.evaluate set
    ((v, none),
      { s with ticks := s.ticks + 1, evaluator := e, metrics := s.metrics.recordSamples set })
  | .error error =>
    let (v, e) := s.evaluator.recordFailure
    ((v, some error),
      { s with
        ticks := s.ticks + 1
        evaluator := e
        metrics := s.metrics.recordFailure (TickError.sample error).stage })

/-- The tick of an agent, with the calls that it makes. -/
def record (a : Agent) (backend : DeviceBackend) (s : AgentState) (c : MemoryCluster) :
    TickRecord :=
  let (report, s', o) := a.tick backend s (Observed.fresh c)
  ⟨a.node, report, o.exchanges, s.executor, s'.executor⟩

theorem judgement_executor (a : Agent) (backend : DeviceBackend) (s : AgentState)
    (time : Timestamp) :
    (a.judgement backend s time).2.executor = s.executor := by
  unfold judgement
  split <;> rfl

variable {a : Agent} {backend : DeviceBackend} {s : AgentState} {time : Timestamp}

/-- A tick is one step of the evaluator. -/
theorem judgement_escalates :
    ∃ score, (a.judgement backend s time).1.1 =
        (s.evaluator.escalate (a.judgement backend s time).1.1.condition score).1 ∧
      (a.judgement backend s time).2.evaluator =
        (s.evaluator.escalate (a.judgement backend s time).1.1.condition score).2 := by
  unfold judgement
  split
  · exact ⟨_, rfl, rfl⟩
  · exact ⟨_, rfl, rfl⟩

/-! ## Worlds that keep no log -/

section Silent

variable {σ : Type} [Journal σ] (silent : ∀ e (w : σ), note e w = w)
include silent

theorem noteAll_eq (entries : List Log.Entry) (w : σ) : noteAll entries w = w := by
  unfold noteAll
  induction entries with
  | nil => rfl
  | cons e rest ih => rw [List.foldl_cons, silent, ih]

variable [Clock σ] {w : σ}

theorem judge_eq : a.judge backend { s with ticks := s.ticks + 1 } w =
    ((a.judgement backend s (Clock.now w)).1, (a.judgement backend s (Clock.now w)).2, w) := by
  unfold judge judgement
  simp only [noteAll_eq silent, tell, silent]
  rcases SampleSet.take backend a.node.name a.mask (Clock.now w) with _ | set
  · rfl
  · rfl

variable [ClusterApi σ]

/-- A tick that could not be sampled and whose verdict asks for nothing leaves the executor and the
world alone. -/
theorem tick_abandoned (failed : (a.judgement backend s (Clock.now w)).1.2.isSome = true)
    (idle : (a.judgement backend s (Clock.now w)).1.1.action = .none) :
    ∃ report s', a.tick backend s w = (report, s', w) ∧
      report.verdict = (a.judgement backend s (Clock.now w)).1.1 ∧ report.outcome = none ∧
      report.result = none ∧ s'.executor = s.executor ∧
      s'.evaluator = (a.judgement backend s (Clock.now w)).2.evaluator := by
  have executor := a.judgement_executor backend s (Clock.now w)
  dsimp only [tick]
  rw [judge_eq silent]
  generalize a.judgement backend s (Clock.now w) = judged at failed idle executor ⊢
  obtain ⟨⟨v, sampling⟩, s₁⟩ := judged
  obtain ⟨error, rfl⟩ := Option.isSome_iff_exists.1 failed
  dsimp only at idle executor ⊢
  simp only [enforceOrAbandon, idle, tell, silent, Option.isSome_some, and_self, if_true]
  exact ⟨_, _, rfl, rfl, rfl, rfl, executor, rfl⟩

/-- Any other tick applies its verdict. -/
theorem tick_applied
    (due : ¬ ((a.judgement backend s (Clock.now w)).1.2.isSome = true ∧
      (a.judgement backend s (Clock.now w)).1.1.action = .none))
    {result : Except ClusterError ExecutionOutcome} {x : ExecutorState} {w' : σ}
    (applied : a.executor.apply (a.judgement backend s (Clock.now w)).1.1 s.executor w =
      (result, x, w')) :
    ∃ report s', a.tick backend s w = (report, s', w') ∧
      report.verdict = (a.judgement backend s (Clock.now w)).1.1 ∧
      report.outcome = result.toOption ∧ report.result = some result ∧ s'.executor = x ∧
      s'.evaluator = (a.judgement backend s (Clock.now w)).2.evaluator := by
  have executor := a.judgement_executor backend s (Clock.now w)
  dsimp only [tick]
  rw [judge_eq silent]
  generalize a.judgement backend s (Clock.now w) = judged at due applied executor ⊢
  obtain ⟨⟨v, sampling⟩, s₁⟩ := judged
  dsimp only at due applied executor ⊢
  rw [← executor] at applied
  simp only [enforceOrAbandon, if_neg due, enforce, applied, tell, silent]
  cases result with
  | ok outcome => exact ⟨_, _, rfl, rfl, rfl, rfl, rfl, rfl⟩
  | error e =>
    -- the error of the executor is the last of the tick, after that of the sampler if there is one
    refine ⟨_, _, rfl, rfl, rfl, ?_, rfl, rfl⟩
    simp [TickReport.result]

end Silent

/-! ## Records -/

/-- A tick that takes an agent and its cluster from one state to another. -/
structure Ticked (a : Agent) (s : AgentState) (c : MemoryCluster) (k : TickRecord)
    (s' : AgentState) (c' : MemoryCluster) : Prop where
  node : k.node = a.node
  before : k.before = s.executor
  after : k.after = s'.executor
  escalated : ∃ score, k.report.verdict = (s.evaluator.escalate k.condition score).1 ∧
    s'.evaluator = (s.evaluator.escalate k.condition score).2
  answered : c.Answered a.executor.scope k.exchanges c'
  /-- The verdict was applied, or the tick was abandoned. -/
  enforced : (∃ p, k.application = some p ∧ p.Took a.executor) ∨
    k.application = none ∧ k.report.outcome = none ∧ k.exchanges = [] ∧ k.after = k.before

section Inversion

variable {s' : AgentState} {c c' : MemoryCluster} {k : TickRecord} {p : Application}

/-- What was applied on a tick is its verdict, between the states of the agent. -/
theorem Ticked.of_applied (h : Ticked a s c k s' c') (applied : k.application = some p) :
    p.Took a.executor ∧ p.verdict = k.report.verdict ∧ p.before = s.executor ∧
      p.exchanges = k.exchanges ∧ k.report.result = some p.result ∧ p.after = s'.executor := by
  obtain ⟨-, verdict, before, exchanges, result, after⟩ := TickRecord.application_eq_some applied
  rcases h.enforced with ⟨q, same, took⟩ | ⟨abandoned, -⟩
  · cases applied.symm.trans same
    exact ⟨took, verdict, before.trans h.before, exchanges, result, after.trans h.after⟩
  · cases applied.symm.trans abandoned

/-- A tick that applies nothing makes no calls and leaves the executor as it was. -/
theorem Ticked.of_abandoned (h : Ticked a s c k s' c') (abandoned : k.application = none) :
    k.report.outcome = none ∧ k.exchanges = [] ∧ s'.executor = s.executor := by
  rcases h.enforced with ⟨p, applied, -⟩ | ⟨-, outcome, silent, same⟩
  · cases abandoned.symm.trans applied
  · exact ⟨outcome, silent, h.after.symm.trans (same.trans h.before)⟩

end Inversion

/-- The record of a tick is that of the agent at work in the cluster itself. -/
theorem record_spec (a : Agent) (backend : DeviceBackend) (s : AgentState) (c : MemoryCluster) :
    Ticked a s c (a.record backend s c) (a.tick backend s c).2.1 (a.tick backend s c).2.2 := by
  by_cases due : (a.judgement backend s (Clock.now c)).1.2.isSome = true ∧
      (a.judgement backend s (Clock.now c)).1.1.action = .none
  · -- neither the cluster nor the observed one keeps a log, so both ticks judge alike
    obtain ⟨_, s₁, plain, -, -, -, executor₁, evaluator₁⟩ :=
      tick_abandoned (fun _ _ => rfl) due.1 due.2
    obtain ⟨report, s₂, observed, verdict, outcome, result, executor₂, evaluator₂⟩ :=
      tick_abandoned (w := Observed.fresh c) (fun _ _ => rfl) due.1 due.2
    rw [plain, record, observed]
    refine ⟨rfl, rfl, executor₂.trans executor₁.symm, ?_, .nil c,
      .inr ⟨?_, outcome, rfl, executor₂⟩⟩
    · dsimp only [TickRecord.condition]
      rw [verdict, evaluator₁]
      exact judgement_escalates
    · simp [TickRecord.application, result]
  · obtain ⟨c', applied, answered⟩ := Executor.apply_eq (x := a.executor)
      (v := (a.judgement backend s (Clock.now c)).1.1) (s := s.executor) (c := c)
    obtain ⟨o, seen, exchanges⟩ := Executor.apply_fresh (x := a.executor)
      (v := (a.judgement backend s (Clock.now c)).1.1) (s := s.executor) (c := c)
    obtain ⟨_, s₁, plain, -, -, -, executor₁, evaluator₁⟩ :=
      tick_applied (fun _ _ => rfl) due applied
    obtain ⟨report, s₂, observed, verdict, outcome, result, executor₂, evaluator₂⟩ :=
      tick_applied (w := Observed.fresh c) (fun _ _ => rfl) due seen
    rw [plain, record, observed]
    refine ⟨rfl, rfl, executor₂.trans executor₁.symm, ?_, ?_,
      .inl ⟨_, ?_, Application.took a.executor
        (a.judgement backend s (Clock.now c)).1.1 s.executor c⟩⟩
    · dsimp only [TickRecord.condition]
      rw [verdict, evaluator₁]
      exact judgement_escalates
    · dsimp only
      rwa [exchanges]
    · simp only [TickRecord.application, result, Option.map_some, verdict, executor₂, exchanges]
      rfl

end Agent

end NodeWarden
