import NodeWarden.Device.Sources
import NodeWarden.Proofs.Agent.Tick

/-!
# Runs of an agent

An agent at work in a cluster in memory: it ticks, each time with whatever its devices answer, and
between the ticks anything may happen to the cluster. The history of a run is the list of its ticks.
What the laws of executors say of applications holds of these ticks as well, since an abandoned tick
changes nothing (`memory_bar`). What an agent adds is that its verdicts follow the escalation table,
tick by tick (`history_byTable`).
-/

namespace NodeWarden

/-- What comes next in the run of an agent. -/
inductive AgentStep where
  /-- A tick, on which the devices answer as the backend does. -/
  | tick (backend : DeviceBackend)
  | event (e : ClusterEvent)
  /-- Time passes. -/
  | wait (ms : Nat)

/-- One device with so much free memory. -/
def DeviceBackend.trial (free : UInt64) : DeviceBackend :=
  (MockDevices.withMemory [⟨16000, free⟩]).backend

namespace Agent

/-- An agent that lets conditions have consequences on their first tick. -/
def trial : Agent where
  mask := .all
  thresholds := ⟨1000, 250, 1⟩
  executor := .trial false
  interval := .ofMillis 1000

/-- One step of a run: the agent and the cluster after it, and the record of the tick if it
was one. -/
def advance (a : Agent) (st : AgentState × MemoryCluster) :
    AgentStep → (AgentState × MemoryCluster) × Option TickRecord
  | .tick backend => ((a.tick backend st.1 st.2).2, some (a.record backend st.1 st.2))
  | .event e => ((st.1, st.2.happen e), none)
  | .wait ms => ((st.1, st.2.pass ms), none)

/-- The ticks of a run of a new agent, the first one first. -/
def history (a : Agent) (c : MemoryCluster) (steps : List AgentStep) : List TickRecord :=
  History.records a.advance (a.initial, c) steps

variable {a : Agent} {st : AgentState × MemoryCluster} {step : AgentStep} {k : TickRecord}

theorem advance_spec (h : (a.advance st step).2 = some k) :
    Ticked a st.1 st.2 k (a.advance st step).1.1 (a.advance st step).1.2 := by
  cases step with
  | tick backend =>
    cases h
    exact record_spec a backend st.1 st.2
  | event e => cases h
  | wait ms => cases h

/-- A step that is no tick leaves the agent alone. -/
theorem advance_silent (h : (a.advance st step).2 = none) : (a.advance st step).1.1 = st.1 := by
  cases step with
  | tick backend => cases h
  | event e => rfl
  | wait ms => rfl

/-- A tick is one step of the evaluator, and nothing else is. -/
theorem advance_escalates :
    Escalates a.advance (fun st => st.1.evaluator) fun k => k.report.verdict where
  silent := by
    intro st step silent
    rw [advance_silent silent]
  recorded made := (advance_spec made).escalated

/-! ## Escalation -/

/-- All ticks from one to another are of the same condition. -/
def Streak (ticks : List TickRecord) (condition : Condition) (i t : Nat) : Prop :=
  ∀ k d, i ≤ k → k ≤ t → ticks[k]? = some d → d.condition = condition

theorem Streak.mono {ticks : List TickRecord} {condition : Condition} {i j t : Nat}
    (h : Streak ticks condition i t) (hij : i ≤ j) : Streak ticks condition j t :=
  fun k d hjk => h k d (Nat.le_trans hij hjk)

variable {c : MemoryCluster} {steps : List AgentStep} {t : Nat} {b : TickRecord}

/-- The verdicts of an agent are those of the escalation table. -/
theorem history_byTable (positive : 0 < a.thresholds.debounce) :
    Verdict.ByTable a.thresholds.debounce ((a.history c steps).map fun k => k.report.verdict) :=
  advance_escalates.byTable positive (.new a.mode a.thresholds)

theorem getElem?_verdicts (ht : (a.history c steps)[t]? = some b) :
    ((a.history c steps).map fun k => k.report.verdict)[t]? = some b.report.verdict := by
  rw [List.getElem?_map, ht, Option.map_some]

/-- In the streak of a verdict to delete there is an earlier verdict to cordon. -/
theorem cordon_before_delete (positive : 0 < a.thresholds.debounce)
    (ht : (a.history c steps)[t]? = some b) (delete : b.report.verdict.action = .delete) :
    ∃ i d, i < t ∧ (a.history c steps)[i]? = some d ∧ d.report.verdict.action = .cordon ∧
      Streak (a.history c steps) b.condition i t := by
  obtain ⟨i, _, before, hi, cordon, same, row⟩ :=
    (history_byTable positive).cordon_before positive (getElem?_verdicts ht) delete
  rw [List.getElem?_map] at hi
  obtain ⟨d, hd, rfl⟩ := Option.map_eq_some_iff.1 hi
  refine ⟨i, d, before, hd, cordon, fun k e hik hkt hk => ?_⟩
  rcases Nat.lt_or_eq_of_le hik with after | rfl
  · exact (row k _ after hkt (getElem?_verdicts hk)).2
  · cases hd.symm.trans hk
    exact same

end Agent

end NodeWarden
