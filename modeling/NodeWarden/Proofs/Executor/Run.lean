import NodeWarden.Proofs.Executor.CordonMemory
import NodeWarden.Proofs.History

/-!
# Runs of an executor

An executor at work in a cluster in memory: verdicts are applied one after the other, and between
them anything may happen to the cluster. The history of a run is the list of its applications.
-/

namespace NodeWarden

/-- What comes next in the run of an executor. -/
inductive ExecutorStep where
  | apply (v : Verdict)
  | event (e : ClusterEvent)
  /-- Time passes. -/
  | wait (ms : Nat)

/-- A verdict on an exhausted node, whatever it asks for. -/
def Verdict.trial (action : NodeAction) : Verdict := ⟨action, "", 0, .exhausted, none⟩

namespace Executor

/-- One step of a run: the state and the cluster after it, and the application if it was one. -/
def advance (x : Executor) (st : ExecutorState × MemoryCluster) :
    ExecutorStep → (ExecutorState × MemoryCluster) × Option Application
  | .apply v => ((x.apply v st.1 st.2).2, some (x.application v st.1 st.2))
  | .event e => ((st.1, st.2.happen e), none)
  | .wait ms => ((st.1, st.2.pass ms), none)

/-- The applications of a run of a new executor, the first one first. -/
def applications (x : Executor) (c : MemoryCluster) (steps : List ExecutorStep) :
    List Application :=
  History.records x.advance (.initial, c) steps

/-- An executor of one node with the usual settings, except that it may publish no scores. -/
def trial (publishScore : Bool) : Executor where
  scope := ⟨⟨"node-a"⟩, .ofMillis 1000⟩
  config := { ExecutorConfig.default with publishScore }
  mode := .maxFreeMemory

variable {x : Executor} {st : ExecutorState × MemoryCluster} {step : ExecutorStep} {a : Application}

/-- A verdict leads to the state after its application. -/
theorem advance_apply (v : Verdict) (s : ExecutorState) (c : MemoryCluster) :
    (x.advance (s, c) (.apply v)).1 = ((x.application v s c).after, (x.apply v s c).2.2) := by
  obtain ⟨c', applied, -⟩ := apply_eq (x := x) (v := v) (s := s) (c := c)
  rw [advance, applied]

/-- A step that leaves an application is one of the executor's courses, in the cluster as it is. -/
theorem advance_spec (h : (x.advance st step).2 = some a) :
    a.Took x ∧ a.before = st.1 ∧ a.after = (x.advance st step).1.1 ∧
      st.2.Answered x.scope a.exchanges (x.advance st step).1.2 := by
  cases step with
  | apply v =>
    cases h
    obtain ⟨c', eq, answered⟩ := apply_eq (x := x) (v := v) (s := st.1) (c := st.2)
    refine ⟨Application.took x v st.1 st.2, rfl, ?_, ?_⟩
    · rw [advance, eq]
    · rw [advance, eq]
      exact answered
  | event e => cases h
  | wait ms => cases h

/-- A step that leaves no application leaves the executor alone. -/
theorem advance_silent (h : (x.advance st step).2 = none) : (x.advance st step).1.1 = st.1 := by
  cases step with
  | apply v => cases h
  | event e => rfl
  | wait ms => rfl

end Executor

end NodeWarden
