import NodeWarden.Proofs.Agent.Lifecycle
import NodeWarden.Proofs.Executor.Undisturbed

/-!
# Agents in step

In a steady cluster, with deletions allowed and out of a dry run, an agent whose node nobody
else touches does on every tick what is due (`Sighting.Due`): what comes of a tick depends
on nothing but its verdict, how the node stands, and whether it was there at the end of the
tick before. For this the executor has to keep in step with the evaluator and with the node
(`Agent.InStep`): whenever the evaluator may ask for a deletion, the executor has seen the
cordon or does not know yet that its node is back. Ticks keep it so (`Agent.InStep.due`),
and so does whatever leaves the agent undisturbed (`Agent.InStep.happen`).
-/

namespace NodeWarden

/-- What is seen of a tick from outside. -/
structure Sighting where
  tick : TickRecord
  /-- The condition that the devices show. -/
  shown : Condition
  /-- How the node stood at the end of the tick before, or at the start. -/
  previous : Option Bool
  /-- How the node stands when the tick begins. -/
  found : Option Bool
  /-- How the node stands at the end of the tick. -/
  left : Option Bool

namespace Sighting

/-- A tick came to what is due. -/
structure Due (b : Sighting) : Prop where
  condition : b.tick.condition = b.shown
  sampling : b.tick.SamplingFailed ↔ b.shown = .sampleFailure
  abandoned : b.tick.SamplingFailed → b.tick.report.verdict.action = .none →
    b.tick.report.outcome = none ∧ b.tick.exchanges = [] ∧ b.left = b.found
  applied : ¬ (b.tick.SamplingFailed ∧ b.tick.report.verdict.action = .none) →
    b.tick.report.outcome = some
      (b.tick.report.verdict.action.dueOutcome b.previous.isSome b.found) ∧
      b.left = b.tick.report.verdict.action.dueStanding b.previous.isSome b.found
  absent : b.found = none → ∀ e ∈ b.tick.exchanges, e.kind.isMutation = false

variable {b : Sighting}

/-- A node that is there is deleted if a deletion is asked for and the node was there at the
end of the tick before. -/
theorem Due.deleted_iff (h : b.Due) (there : b.found ≠ none) :
    b.tick.report.outcome = some .deleted ↔
      b.tick.report.verdict.action = .delete ∧ b.previous ≠ none := by
  obtain ⟨cordoned, found⟩ := Option.ne_none_iff_exists'.1 there
  by_cases abandons : b.tick.SamplingFailed ∧ b.tick.report.verdict.action = .none
  · rw [(h.abandoned abandons.1 abandons.2).1, abandons.2]
    simp
  · rw [(h.applied abandons).1, found]
    cases b.tick.report.verdict.action <;> cases b.previous <;> cases cordoned <;>
      simp [NodeAction.dueOutcome]

/-- A node that was deleted is gone. -/
theorem Due.left_of_deleted (h : b.Due) (there : b.found ≠ none)
    (deleted : b.tick.report.outcome = some .deleted) : b.left = none := by
  obtain ⟨delete, before⟩ := (h.deleted_iff there).1 deleted
  obtain ⟨cordoned, found⟩ := Option.ne_none_iff_exists'.1 there
  have applies : ¬ (b.tick.SamplingFailed ∧ b.tick.report.verdict.action = .none) := by
    simp [delete]
  rw [(h.applied applies).2, delete, Option.isSome_iff_ne_none.2 before]
  exact NodeAction.dueStanding_of_removes rfl _

/-- Only a node that is there is deleted. -/
theorem Due.found_of_deleted (h : b.Due) (deleted : b.tick.report.outcome = some .deleted) :
    b.found ≠ none := by
  intro absent
  by_cases abandons : b.tick.SamplingFailed ∧ b.tick.report.verdict.action = .none
  · rw [(h.abandoned abandons.1 abandons.2).1] at deleted
    cases deleted
  · rw [(h.applied abandons).1, absent] at deleted
    cases deleted

/-- A node that was there and is not deleted is still there. -/
theorem Due.left_of_kept (h : b.Due) (there : b.found ≠ none)
    (kept : b.tick.report.outcome ≠ some .deleted) : b.left ≠ none := by
  obtain ⟨cordoned, found⟩ := Option.ne_none_iff_exists'.1 there
  by_cases abandons : b.tick.SamplingFailed ∧ b.tick.report.verdict.action = .none
  · rwa [(h.abandoned abandons.1 abandons.2).2.2]
  · rw [(h.applied abandons).1, found] at kept
    rw [(h.applied abandons).2, found]
    exact fun gone => kept (congrArg some (NodeAction.dueStanding_eq_none.1 gone))

end Sighting

theorem TickReport.outcome_of_result {r : TickReport} {outcome : ExecutionOutcome}
    (h : r.result = some (.ok outcome)) : r.outcome = some outcome := by
  unfold result at h
  split at h
  · cases h
    assumption
  · cases h
  · cases h

/-- Only after a cordon, or more, does an evaluator ask for a deletion. -/
theorem Evaluator.of_escalate_delete {e : Evaluator} {c : Condition} {score : Score}
    (h : (e.escalate c score).1.action = .delete) : e.lastAction.isCordonOrMore = true := by
  have decided : (e.observe c).decide = .delete := h
  unfold decide at decided
  rw [observe_lastAction] at decided
  cases acts : e.lastAction.isCordonOrMore with
  | true => rfl
  | false =>
    simp only [acts, Bool.and_false, Bool.false_eq_true, if_false] at decided
    split at decided
    · cases decided
    · cases decided
    · split at decided <;> cases decided
    · split at decided <;> cases decided
    · split at decided <;> cases decided

namespace Agent

variable {a : Agent} {backend : DeviceBackend} {s s' : AgentState} {c c' : MemoryCluster}
  {k : TickRecord} {previous : Option Bool}

/-! ## Ticks and devices -/

/-- The condition that the devices show. -/
def shows (a : Agent) (backend : DeviceBackend) (time : Timestamp) : Condition :=
  match SampleSet.take backend a.node.name a.mask time with
  | .ok set => set.classify a.thresholds
  | .error _ => .sampleFailure

theorem judgement_condition (same : s.evaluator.thresholds = a.thresholds) (time : Timestamp) :
    (a.judgement backend s time).1.1.condition = a.shows backend time := by
  unfold judgement shows
  cases SampleSet.take backend a.node.name a.mask time with
  | ok set => exact congrArg set.classify same
  | error => rfl

theorem record_condition (same : s.evaluator.thresholds = a.thresholds) :
    (a.record backend s c).condition = a.shows backend (Clock.now c) := by
  obtain ⟨verdict, -⟩ := tick_report a backend s (Observed.fresh c) fun _ _ => rfl
  exact (congrArg Verdict.condition verdict).trans (judgement_condition same (Clock.now c))

/-- The executor is left alone on a tick that could not be sampled and asks for nothing, and
on no other. -/
theorem record_application_eq_none (a : Agent) (backend : DeviceBackend) (s : AgentState)
    (c : MemoryCluster) :
    (a.record backend s c).application = none ↔
      (a.record backend s c).SamplingFailed ∧
      (a.record backend s c).report.verdict.action = .none := by
  obtain ⟨verdict, sampled⟩ := tick_report a backend s (Observed.fresh c) fun _ _ => rfl
  have agreed : (a.record backend s c).SamplingFailed ∧
        (a.record backend s c).report.verdict.action = .none ↔
      (a.judgement backend s (Clock.now (Observed.fresh c))).1.2.isSome = true ∧
        (a.judgement backend s (Clock.now (Observed.fresh c))).1.1.action = .none := by
    rw [← sampled, ← verdict]
    rfl
  rw [agreed]
  by_cases due : (a.judgement backend s (Clock.now (Observed.fresh c))).1.2.isSome = true ∧
      (a.judgement backend s (Clock.now (Observed.fresh c))).1.1.action = .none
  · obtain ⟨report, s', observed, -, -, result, -⟩ := tick_abandoned (fun _ _ => rfl) due.1 due.2
    rw [record, observed]
    exact iff_of_true (by simp [TickRecord.application, result]) due
  · obtain ⟨o, seen, -⟩ := Executor.apply_fresh (x := a.executor)
      (v := (a.judgement backend s (Clock.now c)).1.1) (s := s.executor) (c := c)
    obtain ⟨report, s', observed, -, -, result, -⟩ := tick_applied (fun _ _ => rfl) due seen
    rw [record, observed]
    exact iff_of_false (by simp [TickRecord.application, result]) due

theorem Ticked.lastAction (h : Ticked a s c k s' c') :
    s'.evaluator.lastAction = k.report.verdict.action := by
  obtain ⟨score, verdict, next⟩ := h.escalated
  rw [next, verdict]
  rfl

theorem Ticked.thresholds (h : Ticked a s c k s' c') :
    s'.evaluator.thresholds = s.evaluator.thresholds := by
  obtain ⟨score, -, next⟩ := h.escalated
  rw [next, Evaluator.escalate_thresholds]

theorem Ticked.of_delete (h : Ticked a s c k s' c') (delete : k.report.verdict.action = .delete) :
    s.evaluator.lastAction.isCordonOrMore = true := by
  obtain ⟨score, verdict, -⟩ := h.escalated
  exact Evaluator.of_escalate_delete ((congrArg Verdict.action verdict).symm.trans delete)

/-! ## Keeping in step -/

/-- How the own node stands. -/
def standing (a : Agent) (c : MemoryCluster) : Option Bool :=
  NodeState.standing c.nodes[a.executor.scope.node.name]?

/-- The executor is in step with the evaluator, with the node, and with how that stood at
the end of the tick before. -/
structure InStep (a : Agent) (s : AgentState) (c : MemoryCluster) (previous : Option Bool) :
    Prop where
  steady : c.Steady a.executor.scope
  thresholds : s.evaluator.thresholds = a.thresholds
  calm : s.executor.Calm
  /-- Nobody but the executor has removed the node. -/
  gone : a.standing c = none → s.executor.deleted = true ∧ previous = none
  seen : s.executor.deleted = false → previous ≠ none
  /-- What the evaluator has asked for is done. -/
  cordoned : s.executor.deleted = false → s.evaluator.lastAction.isCordonOrMore = true →
    a.standing c = some true ∧ s.executor.cordonObservedAt ≠ none
  /-- If the node is back and the executor has not noticed, then no tick that asked for
  anything has come in between. -/
  unseen : s.executor.deleted = true → a.standing c ≠ none →
    previous = none ∨ s.evaluator.lastAction = .none

/-- An executor that takes its node for deleted, and is right, is in step. -/
theorem InStep.of_absent (steady : c.Steady a.executor.scope)
    (thresholds : s.evaluator.thresholds = a.thresholds) (calm : s.executor.Calm)
    (gone : s.executor.deleted = true) (absent : a.standing c = none) :
    a.InStep s c (a.standing c) where
  steady := steady
  thresholds := thresholds
  calm := calm
  gone _ := ⟨gone, absent⟩
  seen there := absurd (there.symm.trans gone) (by decide)
  cordoned there := absurd (there.symm.trans gone) (by decide)
  unseen _ there := absurd absent there

/-- One that takes its node for being there, and is right, is in step if what the evaluator
has asked for is done. -/
theorem InStep.of_present (steady : c.Steady a.executor.scope)
    (thresholds : s.evaluator.thresholds = a.thresholds) (calm : s.executor.Calm)
    (kept : s.executor.deleted = false) (there : a.standing c ≠ none)
    (cordoned : s.evaluator.lastAction.isCordonOrMore = true →
      a.standing c = some true ∧ s.executor.cordonObservedAt ≠ none) :
    a.InStep s c (a.standing c) where
  steady := steady
  thresholds := thresholds
  calm := calm
  gone absent := absurd absent there
  seen _ := there
  cordoned _ := cordoned
  unseen gone := absurd (gone.symm.trans kept) (by decide)

theorem InStep.new (steady : c.Steady a.executor.scope) (there : a.standing c ≠ none) :
    a.InStep a.initial c (a.standing c) :=
  .of_present steady rfl ⟨rfl, rfl, rfl, nofun⟩ rfl there nofun

/-! ## Ticks in step -/

section Tick

variable {p : Application} {n : NodeState}

theorem InStep.tick_abandoned (h : a.InStep s c previous) (ticked : Ticked a s c k s' c')
    (abandoned : k.application = none) (idle : k.report.verdict.action = .none) :
    k.report.outcome = none ∧ k.exchanges = [] ∧ a.standing c' = a.standing c ∧
      a.InStep s' c' (a.standing c') := by
  obtain ⟨outcome, silent, same⟩ := ticked.of_abandoned abandoned
  have answered := ticked.answered
  rw [silent] at answered
  cases answered with
  | nil =>
    refine ⟨outcome, silent, rfl, ?_⟩
    -- neither the node nor the executor has changed, and the last verdict asked for nothing
    constructor
    case steady => exact h.steady
    case thresholds => exact ticked.thresholds.trans h.thresholds
    case calm => exact same ▸ h.calm
    case gone =>
      intro absent
      exact ⟨same ▸ (h.gone absent).1, absent⟩
    case seen =>
      intro there absent
      rw [same, (h.gone absent).1] at there
      cases there
    case cordoned =>
      intro _ acts
      rw [ticked.lastAction, idle] at acts
      cases acts
    case unseen => exact fun _ _ => .inr (ticked.lastAction.trans idle)

theorem InStep.tick_absent (h : a.InStep s c previous) (ticked : Ticked a s c k s' c')
    (applied : k.application = some p) (absent : a.standing c = none) :
    k.report.outcome = some .noAction ∧ (∀ e ∈ k.exchanges, e.kind = .get) ∧ a.standing c' = none ∧
      a.InStep s' c' (a.standing c') := by
  obtain ⟨took, -, before, exchanges, result, after⟩ := ticked.of_applied applied
  obtain ⟨steady, served⟩ := h.steady.served ticked.answered
  rw [Option.map_eq_none_iff.1 absent, ← exchanges] at served
  obtain ⟨gone, -⟩ := h.gone absent
  obtain ⟨done, absent', reads, next⟩ := took.served_absent (before ▸ h.calm) (before ▸ gone) served
  rw [done] at result
  rw [before, after] at next
  have absent' : a.standing c' = none := Option.map_eq_none_iff.2 absent'
  have gone' : s'.executor.deleted = true := by
    rw [next]
    exact gone
  have calm : s'.executor.Calm := by
    rw [next]
    exact h.calm.next.remember _ _
  exact ⟨TickReport.outcome_of_result result, exchanges ▸ reads, absent',
    .of_absent steady (ticked.thresholds.trans h.thresholds) calm gone' absent'⟩

/-- When a deletion is asked for, the node may be deleted if it was there at the end of the
tick before. -/
theorem InStep.mayDelete (h : a.InStep s c previous)
    (found : c.nodes[a.executor.scope.node.name]? = some n)
    (acts : s.evaluator.lastAction.isCordonOrMore = true) :
    a.executor.mayDelete n s.executor.next.wake = previous.isSome := by
  cases gone : s.executor.next.deleted with
  | false =>
    obtain ⟨cordoned, observed⟩ := h.cordoned gone acts
    obtain ⟨t, observed⟩ := Option.ne_none_iff_exists'.1 observed
    have upto := h.calm.observed t observed
    have unschedulable : n.unschedulable = true := by
      rw [standing, found] at cordoned
      exact Option.some.inj cordoned
    have seen : previous.isSome = true := Option.isSome_iff_ne_none.2 (h.seen gone)
    rw [ExecutorState.wake_of_present gone, seen]
    simp [Executor.mayDelete, ExecutorState.observedEarlier, ExecutorState.next,
      observed, unschedulable]
    omega
  | true =>
    -- the node is back since the tick before, which asked for something and did not find it
    have there : a.standing c ≠ none := by simp [standing, NodeState.standing, found]
    have unseen : previous = none := by
      refine (h.unseen gone there).resolve_right fun idle => ?_
      rw [idle] at acts
      cases acts
    rw [ExecutorState.wake_of_deleted gone, unseen]
    rfl

theorem InStep.tick_present (h : a.InStep s c previous) (ticked : Ticked a s c k s' c')
    (wet : a.executor.config.dryRun = false) (allowed : a.executor.config.allowDelete = true)
    (applied : k.application = some p) (found : c.nodes[a.executor.scope.node.name]? = some n) :
    k.report.outcome = some (k.report.verdict.action.dueOutcome previous.isSome (a.standing c)) ∧
      a.standing c' = k.report.verdict.action.dueStanding previous.isSome (a.standing c) ∧
      a.InStep s' c' (a.standing c') := by
  obtain ⟨took, verdict, before, exchanges, result, after⟩ := ticked.of_applied applied
  obtain ⟨steady, served⟩ := h.steady.served ticked.answered
  rw [found, ← exchanges] at served
  obtain ⟨done, stands, next⟩ := took.served_present wet allowed (before ▸ h.calm)
    (h.steady.name n found) served
  rw [before, verdict] at done stands next
  rw [after] at next
  -- a deletion is carried out exactly if the node was there at the end of the tick before
  have ripe (delete : k.report.verdict.action = .delete) :=
    h.mayDelete found (ticked.of_delete delete)
  have standing : a.standing c = some n.unschedulable := by
    rw [Agent.standing, found]
    rfl
  obtain ⟨outcome, left⟩ := NodeAction.due_congr ripe (a.standing c)
  rw [standing] at outcome left ⊢
  rw [done] at result
  refine ⟨(TickReport.outcome_of_result result).trans (congrArg some outcome),
    stands.trans left, ?_⟩
  have thresholds := ticked.thresholds.trans h.thresholds
  have calm : s'.executor.Calm := by
    rw [next]
    exact (h.calm.next.wake.heed _ _).remember _ _
  have deleted : s'.executor.deleted = k.report.verdict.action.removes
      (a.executor.mayDelete n s.executor.next.wake) := by
    rw [next]
    simp [ExecutorState.heed_deleted]
  generalize a.executor.mayDelete n s.executor.next.wake = may at stands next deleted
  cases removes : k.report.verdict.action.removes may with
  | true =>
    have absent : a.standing c' = none := stands.trans (NodeAction.dueStanding_of_removes removes _)
    exact .of_absent steady thresholds calm (deleted.trans removes) absent
  | false =>
    have there : a.standing c' = some (n.unschedulable || k.report.verdict.action.isCordonOrMore) :=
      stands.trans (NodeAction.dueStanding_of_not_removes removes _)
    refine .of_present steady thresholds calm (deleted.trans removes)
      (by simp [there]) fun acts => ?_
    rw [ticked.lastAction] at acts
    refine ⟨by rw [there, acts, Bool.or_true], ?_⟩
    rw [next]
    dsimp only
    rw [ExecutorState.heed_cordonObservedAt acts removes]
    exact nofun

end Tick

/-- What is seen of a tick of an agent. -/
def sighting (a : Agent) (backend : DeviceBackend) (s : AgentState) (c : MemoryCluster)
    (previous : Option Bool) : Sighting where
  tick := a.record backend s c
  shown := a.shows backend (Clock.now c)
  previous := previous
  found := a.standing c
  left := a.standing (a.tick backend s c).2.2

/-- An agent in step does what is due, and stays in step. -/
theorem InStep.due (h : a.InStep s c previous) (wet : a.executor.config.dryRun = false)
    (allowed : a.executor.config.allowDelete = true) (backend : DeviceBackend) :
    (a.sighting backend s c previous).Due ∧
      a.InStep (a.tick backend s c).2.1 (a.tick backend s c).2.2
      (a.standing (a.tick backend s c).2.2) := by
  have ticked := record_spec a backend s c
  have condition : (a.record backend s c).condition = a.shows backend (Clock.now c) :=
    record_condition h.thresholds
  have sampling :
      (a.record backend s c).SamplingFailed ↔ a.shows backend (Clock.now c) = .sampleFailure := by
    rw [← condition]
    exact record_samplingFailed a backend s c
  have abandons := a.record_application_eq_none backend s c
  cases applied : (a.record backend s c).application with
  | none =>
    obtain ⟨failed, idle⟩ := abandons.1 applied
    obtain ⟨outcome, silent, same, inStep⟩ := h.tick_abandoned ticked applied idle
    refine ⟨⟨condition, sampling, fun _ _ => ⟨outcome, silent, same⟩,
      fun applies => absurd ⟨failed, idle⟩ applies, ?_⟩, inStep⟩
    intro _ e he
    rw [sighting, silent] at he
    cases he
  | some p =>
    have applies : ¬ ((a.record backend s c).SamplingFailed ∧
        (a.record backend s c).report.verdict.action = .none) := by
      rw [← abandons, applied]
      exact nofun
    cases found : c.nodes[a.executor.scope.node.name]? with
    | none =>
      have absent : a.standing c = none := Option.map_eq_none_iff.2 found
      obtain ⟨outcome, reads, absent', inStep⟩ := h.tick_absent ticked applied absent
      refine ⟨⟨condition, sampling, fun failed idle => absurd ⟨failed, idle⟩ applies, fun _ => ?_,
        fun _ e he => ?_⟩, inStep⟩
      · dsimp only [sighting]
        rw [absent]
        exact ⟨outcome, absent'⟩
      · rw [reads e he]
        rfl
    | some n =>
      obtain ⟨outcome, left, inStep⟩ := h.tick_present ticked wet allowed applied found
      refine ⟨⟨condition, sampling, fun failed idle => absurd ⟨failed, idle⟩ applies,
        fun _ => ⟨outcome, left⟩, ?_⟩, inStep⟩
      intro absent
      cases (Option.map_eq_none_iff.1 absent).symm.trans found

theorem InStep.happen {e : ClusterEvent} (h : a.InStep s c previous)
    (undisturbing : c.Undisturbing a.executor.scope e) : a.InStep s (c.happen e) previous := by
  obtain ⟨steady, same | absent⟩ := h.steady.happen undisturbing
  · have stands : a.standing (c.happen e) = a.standing c := congrArg NodeState.standing same
    constructor
    case steady => exact steady
    case thresholds => exact h.thresholds
    case calm => exact h.calm
    case gone => exact stands ▸ h.gone
    case seen => exact h.seen
    case cordoned => exact stands ▸ h.cordoned
    case unseen => exact stands ▸ h.unseen
  · -- the executor knows that the node was absent, not that it is back
    obtain ⟨gone, unseen⟩ := h.gone (Option.map_eq_none_iff.2 absent)
    constructor
    case steady => exact steady
    case thresholds => exact h.thresholds
    case calm => exact h.calm
    case gone => exact fun _ => ⟨gone, unseen⟩
    case seen => exact h.seen
    case cordoned =>
      intro there
      cases there.symm.trans gone
    case unseen => exact fun _ _ => .inl unseen

end Agent

end NodeWarden
