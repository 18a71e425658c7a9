import NodeWarden.Proofs.Agent.TwoPhase
import NodeWarden.Proofs.Executor.PendingCordon

/-!
# No action without cause

An agent makes no call of consequence without cause (`actions_have_cause`). Its verdicts are
those of the escalation table, so what is left to show is where the executor departs from
them: it retries a cordon that is pending whatever the verdict is. Such a cordon was asked
for by an earlier tick that failed, and nothing has completed it since (`cordon_retried`). A
tick that could not be sampled and asks for nothing does not reach the executor at all
(`record_abandoned`).
-/

namespace NodeWarden

namespace TickRecord

/-- The tick could not be sampled. -/
def SamplingFailed (k : TickRecord) : Prop := ∃ e, TickError.sample e ∈ k.report.errors

/-- A Cordon call was made on the tick. -/
def Cordons (k : TickRecord) : Prop := ∃ e ∈ k.exchanges, e.kind = .cordon

instance (k : TickRecord) : Decidable k.Cordons :=
  inferInstanceAs (Decidable (∃ e ∈ k.exchanges, e.kind = .cordon))

/-- A Delete call of the tick succeeded. -/
def DeletesNode (k : TickRecord) : Prop := ∃ e ∈ k.exchanges, e.deleted = true

/-- The verdict was applied, and its application failed. -/
def ApplyFailed (k : TickRecord) : Prop := ∃ p e, k.application = some p ∧ p.result = .error e

end TickRecord

/-- Devices that fail. -/
def DeviceBackend.failing : DeviceBackend := MockDevices.backend ⟨[], true⟩

namespace Agent

variable {a : Agent} {backend : DeviceBackend} {s : AgentState} {time : Timestamp}

/-! ## Ticks that cannot be sampled -/

theorem judgement_failed :
    (a.judgement backend s time).1.2.isSome = true ↔
      (a.judgement backend s time).1.1.condition = .sampleFailure := by
  unfold judgement
  split
  · rename_i set _
    constructor
    · intro failed
      cases failed
    · intro failed
      exact absurd failed (set.classify_ne_sampleFailure _)
  · exact ⟨fun _ => rfl, fun _ => rfl⟩

section Silent

variable {σ : Type} [Journal σ] [ClusterApi σ] {w : σ}

/-- The report of a tick says what the verdict was and whether sampling failed. -/
theorem enforceOrAbandon_report (v : Verdict) (sampling : Option DeviceError) :
    (a.enforceOrAbandon v sampling s w).1.verdict = v ∧
      ((∃ e, TickError.sample e ∈ (a.enforceOrAbandon v sampling s w).1.errors) ↔
        sampling.isSome = true) := by
  unfold enforceOrAbandon
  dsimp only
  split
  · refine ⟨rfl, ?_⟩
    cases sampling <;> simp
  · rcases a.enforce v s w with ⟨e | outcome, s', w'⟩
    · refine ⟨rfl, ?_⟩
      cases sampling <;> simp
    · refine ⟨rfl, ?_⟩
      cases sampling <;> simp

theorem tick_report [Clock σ] (a : Agent) (backend : DeviceBackend) (s : AgentState) (w : σ)
    (silent : ∀ e (w : σ), note e w = w) :
    (a.tick backend s w).1.verdict = (a.judgement backend s (Clock.now w)).1.1 ∧
      ((∃ e, TickError.sample e ∈ (a.tick backend s w).1.errors) ↔
        (a.judgement backend s (Clock.now w)).1.2.isSome = true) := by
  dsimp only [tick]
  rw [judge_eq silent]
  exact enforceOrAbandon_report _ _

end Silent

variable {c : MemoryCluster} {st : AgentState × MemoryCluster} {step : AgentStep} {k : TickRecord}

theorem record_samplingFailed (a : Agent) (backend : DeviceBackend) (s : AgentState)
    (c : MemoryCluster) :
    (a.record backend s c).SamplingFailed ↔ (a.record backend s c).condition = .sampleFailure := by
  obtain ⟨verdict, failed⟩ := tick_report a backend s (Observed.fresh c) fun _ _ => rfl
  have condition : (a.record backend s c).condition =
      (a.judgement backend s (Clock.now c)).1.1.condition := congrArg Verdict.condition verdict
  rw [condition]
  exact failed.trans judgement_failed

/-- A tick that could not be sampled and whose verdict asks for nothing is abandoned. -/
theorem record_abandoned (failed : (a.record backend s c).SamplingFailed)
    (idle : (a.record backend s c).report.verdict.action = .none) :
    (a.record backend s c).exchanges = [] ∧
      (a.record backend s c).after = (a.record backend s c).before := by
  obtain ⟨verdict, sampled⟩ := tick_report a backend s (Observed.fresh c) fun _ _ => rfl
  have idle : (a.judgement backend s (Clock.now c)).1.1.action = .none :=
    (congrArg Verdict.action verdict).symm.trans idle
  obtain ⟨report, s', observed, -, -, -, executor, -⟩ :=
    tick_abandoned (w := Observed.fresh c) (fun _ _ => rfl) (sampled.1 failed) idle
  rw [record, observed]
  exact ⟨rfl, executor⟩

theorem advance_samplingFailed (made : (a.advance st step).2 = some k) :
    k.SamplingFailed ↔ k.condition = .sampleFailure := by
  cases step with
  | tick backend =>
    cases made
    exact record_samplingFailed a backend st.1 st.2
  | event e => cases made
  | wait ms => cases made

theorem advance_abandoned (made : (a.advance st step).2 = some k) (failed : k.SamplingFailed)
    (idle : k.report.verdict.action = .none) : k.exchanges = [] ∧ k.after = k.before := by
  cases step with
  | tick backend =>
    cases made
    exact record_abandoned failed idle
  | event e => cases made
  | wait ms => cases made

/-! ## Pending cordons -/

variable {s' : AgentState} {c' : MemoryCluster}

/-- A Cordon call is made for a verdict to cordon or more, or for a pending cordon. -/
theorem Ticked.cordons (h : Ticked a s c k s' c') (cordons : k.Cordons) :
    k.report.verdict.action.isCordonOrMore = true ∨ s.executor.pendingCordon = true := by
  cases applied : k.application with
  | none => simp [TickRecord.Cordons, (h.of_abandoned applied).2.1] at cordons
  | some p =>
    obtain ⟨took, verdict, before, exchanges, -, -⟩ := h.of_applied applied
    rw [TickRecord.Cordons, ← exchanges] at cordons
    rw [← verdict, ← before]
    exact took.cordons cordons

/-- A tick that leaves a cordon pending neither confirms it nor deletes the node. The cordon
was pending before, or the tick asked for a cordon or more and failed. -/
theorem Ticked.pending (h : Ticked a s c k s' c') (wet : a.executor.config.dryRun = false)
    (pending : s'.executor.pendingCordon = true) :
    ¬ k.ConfirmsCordon ∧ ¬ k.DeletesNode ∧
      (s.executor.pendingCordon = true ∨
        k.report.verdict.action.isCordonOrMore = true ∧ k.ApplyFailed) := by
  cases applied : k.application with
  | none =>
    obtain ⟨-, silent, same⟩ := h.of_abandoned applied
    refine ⟨?_, ?_, .inl (by rwa [← same])⟩
    · rintro ⟨q, applied', -⟩
      cases applied.symm.trans applied'
    · simp [TickRecord.DeletesNode, silent]
  | some p =>
    obtain ⟨took, verdict, before, exchanges, -, after⟩ := h.of_applied applied
    obtain ⟨unconfirmed, kept, cause⟩ := took.pending wet (by rwa [after])
    refine ⟨?_, ?_, ?_⟩
    · rintro ⟨q, applied', confirms⟩
      cases applied.symm.trans applied'
      exact unconfirmed confirms
    · intro deleted
      rw [TickRecord.DeletesNode, ← exchanges] at deleted
      exact kept deleted
    · rw [← verdict, ← before]
      exact cause.imp_right fun ⟨asks, e, error⟩ => ⟨asks, p, e, applied, error⟩

/-- While no cordon is pending, no Cordon call is made unless the verdict asks for it, and a
cordon gets pending only on a tick that asks for it and fails. -/
theorem pending_bar (wet : a.executor.config.dryRun = false) :
    History.Bar a.advance (fun st => st.1.executor.pendingCordon = false)
      (fun k => k.Cordons ∧ k.report.verdict.action.isCordonOrMore = false)
      (fun k => k.report.verdict.action.isCordonOrMore = true ∧ k.ApplyFailed ∧
        ¬ k.ConfirmsCordon ∧ ¬ k.DeletesNode) where
  silent := by
    intro st step settled silent
    rwa [advance_silent silent]
  safe := by
    rintro st step k settled made ⟨cordons, idle⟩
    rcases (advance_spec made).cordons cordons with asks | pending
    · exact absurd (idle.symm.trans asks) (by decide)
    · exact absurd (settled.symm.trans pending) (by decide)
  kept := by
    intro st step k settled made
    cases pending : (a.advance st step).1.1.executor.pendingCordon with
    | false => exact .inl rfl
    | true =>
      obtain ⟨unconfirmed, kept, before | ⟨asks, failed⟩⟩ := (advance_spec made).pending wet pending
      · exact absurd (settled.symm.trans before) (by decide)
      · exact .inr ⟨asks, failed, unconfirmed, kept⟩

variable {steps : List AgentStep} {t : Nat} {b : TickRecord}

/-- A Cordon call that the verdict does not ask for is one that an earlier tick asked for. -/
theorem cordon_retried (wet : a.executor.config.dryRun = false)
    (ht : (a.history c steps)[t]? = some b) (cordons : b.Cordons)
    (idle : b.report.verdict.action.isCordonOrMore = false) :
    ∃ u e, u < t ∧ (a.history c steps)[u]? = some e ∧
      e.report.verdict.action.isCordonOrMore = true ∧ e.ApplyFailed ∧
      ∀ k f, u ≤ k → k < t → (a.history c steps)[k]? = some f →
        ¬ f.ConfirmsCordon ∧ ¬ f.DeletesNode := by
  -- a tick that completes what is pending leaves nothing pending
  have completed (st : AgentState × MemoryCluster) (step : AgentStep) (k : TickRecord)
      (made : (a.advance st step).2 = some k) (completes : k.ConfirmsCordon ∨ k.DeletesNode) :
      (a.advance st step).1.1.executor.pendingCordon = false := by
    cases pending : (a.advance st step).1.1.executor.pendingCordon with
    | false => rfl
    | true =>
      obtain ⟨unconfirmed, kept, -⟩ := (advance_spec made).pending wet pending
      exact absurd completes (not_or.2 ⟨unconfirmed, kept⟩)
  obtain ⟨u, e, before, hu, ⟨asks, failed, unconfirmed, kept⟩, since⟩ :=
    (pending_bar wet).last_good rfl (fun k => k.ConfirmsCordon ∨ k.DeletesNode)
      (fun st step k made completes => .inl (completed st step k made completes)) ht ⟨cordons, idle⟩
  refine ⟨u, e, before, hu, asks, failed, fun k f huk hkt hk => ?_⟩
  rcases Nat.lt_or_eq_of_le huk with after | rfl
  · exact not_or.1 (since k f after hkt hk).2
  · cases hu.symm.trans hk
    exact ⟨unconfirmed, kept⟩

/-! ## Causes -/

/-- The `n` ticks up to a given one were all of one condition. -/
def Lasted (ticks : List TickRecord) (condition : Condition) (n t : Nat) : Prop :=
  n ≤ t + 1 ∧ Streak ticks condition (t + 1 - n) t

theorem lasted_of_verdicts {n : Nat} {condition : Condition}
    (h : Verdict.Lasted ((a.history c steps).map fun k => k.report.verdict) condition n t) :
    Lasted (a.history c steps) condition n t := by
  obtain ⟨deep, same⟩ := h
  refine ⟨deep, fun k d recent upto hk => ?_⟩
  exact same k _ (by omega) upto (getElem?_verdicts hk)

/-- There is cause for a cordon: no device is left, or a bad condition has lasted for the
debounce. -/
def CordonDue (ticks : List TickRecord) (debounce t : Nat) (b : TickRecord) : Prop :=
  b.condition = .noDevices ∨
    b.condition ∈ [.lowMemory, .exhausted, .sampleFailure] ∧ Lasted ticks b.condition debounce t

theorem cordonDue_of_asks (positive : 0 < a.thresholds.debounce)
    (ht : (a.history c steps)[t]? = some b) (asks : b.report.verdict.action.isCordonOrMore = true) :
    CordonDue (a.history c steps) a.thresholds.debounce.toNat t b := by
  rcases (history_byTable positive).lasted_of_cordonOrMore (getElem?_verdicts ht) asks with
    none | ⟨bad, lasted⟩
  · exact .inl none
  · exact .inr ⟨bad, lasted_of_verdicts lasted⟩

theorem samplingFailed_iff (ht : (a.history c steps)[t]? = some b) :
    b.SamplingFailed ↔ b.condition = .sampleFailure := by
  obtain ⟨_, _, _, -, -, made⟩ := History.exists_input ht
  exact advance_samplingFailed made

/-- No call is made without cause. A deletion comes when a bad condition has outlasted the
debounce; a cordon when there is cause for it on the tick, or was on an earlier one that
failed and since which the cordon has been pending; and a tick that could not be sampled
does nothing before the debounce is over. -/
theorem actions_have_cause (positive : 0 < a.thresholds.debounce)
    (wet : a.executor.config.dryRun = false) (ht : (a.history c steps)[t]? = some b) :
    (b.Deletes → b.condition ∈ [.noDevices, .exhausted, .sampleFailure] ∧
      Lasted (a.history c steps) b.condition (a.thresholds.debounce.toNat + 1) t) ∧
    (b.Cordons → CordonDue (a.history c steps) a.thresholds.debounce.toNat t b ∨
      ∃ u e, u < t ∧ (a.history c steps)[u]? = some e ∧
        CordonDue (a.history c steps) a.thresholds.debounce.toNat u e ∧ e.ApplyFailed ∧
        ∀ k f, u ≤ k → k < t → (a.history c steps)[k]? = some f →
          ¬ f.ConfirmsCordon ∧ ¬ f.DeletesNode) ∧
    (b.SamplingFailed →
      ¬ (a.thresholds.debounce.toNat ≤ t + 1 ∧
        ∀ k f, t + 1 - a.thresholds.debounce.toNat ≤ k → k ≤ t →
        (a.history c steps)[k]? = some f → f.SamplingFailed) →
      b.exchanges = [] ∧ b.after = b.before) := by
  refine ⟨fun deletes => ?_, fun cordons => ?_, fun failed early => ?_⟩
  · obtain ⟨_, _, _, _, ticked⟩ := ticked_of_history ht
    obtain ⟨bad, lasted⟩ := (history_byTable positive).lasted_of_delete (getElem?_verdicts ht)
      (ticked.delete_of_deletes deletes)
    exact ⟨bad, lasted_of_verdicts lasted⟩
  · cases asks : b.report.verdict.action.isCordonOrMore with
    | true => exact .inl (cordonDue_of_asks positive ht asks)
    | false =>
      obtain ⟨u, e, before, hu, asked, failed, since⟩ := cordon_retried wet ht cordons asks
      exact .inr ⟨u, e, before, hu, cordonDue_of_asks positive hu asked, failed, since⟩
  · obtain ⟨_, _, _, -, -, made⟩ := History.exists_input ht
    refine advance_abandoned made failed ?_
    cases action : b.report.verdict.action with
    | none => rfl
    | cordon | delete =>
      -- a verdict that asks for anything comes when the failures have lasted
      have condition := (samplingFailed_iff ht).1 failed
      have due := cordonDue_of_asks positive ht (by rw [action]; rfl)
      rw [CordonDue, condition] at due
      rcases due with none | ⟨-, deep, streak⟩
      · cases none
      · exact absurd
          ⟨deep, fun k f recent upto hk => (samplingFailed_iff hk).2 (streak k f recent upto hk)⟩
          early

/-- An agent that lets a condition last for two ticks before it acts. -/
def patient : Agent := { trial with thresholds := ⟨1000, 250, 2⟩ }

/-- A run in which devices fail for three ticks. The first read of the node fails, too, so that its
cordon waits for a later tick, on which the devices are well again. -/
def patientSteps : List AgentStep :=
  [.tick .failing, .event (.failNext .get (.api "reset")), .tick .failing, .tick (.trial 8000),
    .tick .failing, .tick .failing, .tick .failing]

/-- In that run the first tick does nothing, the third retries the cordon of the second, and
the sixth deletes the node. -/
theorem actions_have_cause_trial :
    (∃ b, (patient.history (.withNodes ["node-a"]) patientSteps)[0]? = some b ∧ b.exchanges = [] ∧
      b.after = b.before) ∧
    (∃ u e, u < 2 ∧ (patient.history (.withNodes ["node-a"]) patientSteps)[u]? = some e ∧
      CordonDue (patient.history (.withNodes ["node-a"]) patientSteps) 2 u e ∧ e.ApplyFailed) ∧
    Lasted (patient.history (.withNodes ["node-a"]) patientSteps) .sampleFailure 3 5 := by
  have first : (patient.history (.withNodes ["node-a"]) patientSteps)[0]? = some _ := rfl
  have third : (patient.history (.withNodes ["node-a"]) patientSteps)[2]? = some _ := rfl
  have sixth : (patient.history (.withNodes ["node-a"]) patientSteps)[5]? = some _ := rfl
  refine ⟨⟨_, first, ?_⟩, ?_, ?_⟩
  · refine (actions_have_cause (by decide) rfl first).2.2 ⟨_, List.mem_cons_self⟩ ?_
    rintro ⟨deep, -⟩
    exact absurd deep (by decide)
  · rcases (actions_have_cause (by decide) rfl third).2.1 (by decide) with
      (none | ⟨bad, -⟩) | ⟨u, e, before, hu, due, failed, -⟩
    · -- the third tick itself is healthy
      exact absurd none (by decide)
    · exact absurd bad (by decide)
    · exact ⟨u, e, before, hu, due, failed⟩
  · exact ((actions_have_cause (by decide) rfl sixth).1 (by decide)).2

end Agent

end NodeWarden
