import NodeWarden.Proofs.Executor.DeletionMemory
import NodeWarden.Proofs.Executor.Run

/-!
# Runs in any world

An executor at work in any world whatever: verdicts are applied one after the other, and
between them the world changes as it likes. What holds of these runs holds whether the calls
go to a cluster in memory or to an API server. Runs in a cluster in memory are among them
(`advance_inWorld`).
-/

namespace NodeWarden

/-- What comes next in the run of an executor in a world. -/
inductive WorldStep (σ : Type) where
  | apply (v : Verdict)
  /-- The world changes without the executor. -/
  | change (f : σ → σ)

/-- A step of a run in a cluster in memory, as a step in a world. -/
def ExecutorStep.inWorld : ExecutorStep → WorldStep MemoryCluster
  | .apply v => .apply v
  | .event e => .change (MemoryCluster.happen e)
  | .wait ms => .change (MemoryCluster.pass ms)

variable {σ : Type} [ClusterApi σ] [Journal σ]

/-- Nobody can tell an observed world from the world itself. -/
theorem Observed.respected (scope : NodeScope) :
    scope.Respects fun (o : Observed σ) (w : σ) => o.world = w where
  get := by
    rintro o _ rfl
    rw [NodeScope.get_eq_accept, NodeScope.get_eq_accept]
    exact ⟨rfl, rfl⟩
  change := by
    rintro o _ c rfl
    exact ⟨rfl, rfl⟩
  note := by
    rintro o _ e rfl
    rfl

namespace Executor

variable (x : Executor)

/-- The application of a verdict in a world. -/
def undertaking (v : Verdict) (s : ExecutorState) (w : σ) : Application :=
  let (result, s', o) := x.apply v s (Observed.fresh w)
  ⟨x.scope.node, v, s, o.exchanges, result, s'⟩

/-- One step of a run in a world: the state and the world after it, and the application if
it was one. -/
def proceed (st : ExecutorState × σ) : WorldStep σ → (ExecutorState × σ) × Option Application
  | .apply v => ((x.apply v st.1 st.2).2, some (x.undertaking v st.1 st.2))
  | .change f => ((st.1, f st.2), none)

/-- The applications of a run of a new executor in a world, the first one first. -/
def undertakings (w : σ) (steps : List (WorldStep σ)) : List Application :=
  History.records x.proceed (.initial, w) steps

/-- A state that some run of a new executor leads to, in some world. -/
def Reachable (s : ExecutorState) : Prop :=
  ∃ (σ : Type) (_ : ClusterApi σ) (_ : Journal σ) (w : σ) (steps : List (WorldStep σ)),
    (History.final x.proceed (.initial, w) steps).1 = s

variable {x} {v : Verdict} {s : ExecutorState} {w : σ} {st : ExecutorState × σ} {step : WorldStep σ}
  {steps : List (WorldStep σ)} {a : Application} {i : Nat}

theorem took_undertaking : (x.undertaking v s w).Took x := by
  obtain ⟨xs, asked, went⟩ := apply_course (x := x) v s (Observed.fresh w)
  rw [Observed.fresh_exchanges, List.nil_append] at asked
  rw [← asked] at went
  exact ⟨rfl, went⟩

/-- An executor that is observed does the same as one that is not. -/
theorem apply_undertaking :
    (x.apply v s w).1 = (x.undertaking v s w).result ∧
      (x.apply v s w).2.1 = (x.undertaking v s w).after := by
  obtain ⟨result, state, -⟩ := apply_agrees (Observed.respected x.scope)
    (rfl : (Observed.fresh w).world = w) v s
  exact ⟨result.symm, state.symm⟩

/-- A step that leaves an application is one of the executor's courses. -/
theorem proceed_spec (h : (x.proceed st step).2 = some a) :
    a.Took x ∧ a.before = st.1 ∧ a.after = (x.proceed st step).1.1 := by
  cases step with
  | apply v =>
    cases h
    exact ⟨took_undertaking, rfl, apply_undertaking.2.symm⟩
  | change f => cases h

/-- A step that leaves no application leaves the executor alone. -/
theorem proceed_silent (h : (x.proceed st step).2 = none) : (x.proceed st step).1.1 = st.1 := by
  cases step with
  | apply v => cases h
  | change f => rfl

theorem took_of_undertakings (hi : (x.undertakings w steps)[i]? = some a) : a.Took x := by
  obtain ⟨_, _, _, -, -, made⟩ := History.exists_input hi
  exact (proceed_spec made).1

/-- A run in a cluster in memory is one in a world. -/
theorem advance_inWorld (x : Executor) (st : ExecutorState × MemoryCluster)
    (steps : List ExecutorStep) :
    History.final x.advance st steps = History.final x.proceed st (steps.map ExecutorStep.inWorld) ∧
      History.records x.advance st steps =
        History.records x.proceed st (steps.map ExecutorStep.inWorld) :=
  History.eq_of_translated ExecutorStep.inWorld (fun _ step => by cases step <;> rfl) st steps

/-- What every application keeps holds of every state that can be reached. -/
theorem Reachable.invariant {P : ExecutorState → Prop} (h : x.Reachable s) (start : P .initial)
    (kept : ∀ a : Application, a.Took x → P a.before → P a.after) : P s := by
  obtain ⟨σ, _, _, w, steps, rfl⟩ := h
  refine History.records_invariant (R := fun (st : ExecutorState × σ) _ => P st.1) start ?_ ?_
  · intro st step _ holds silent
    rwa [proceed_silent silent]
  · intro st step _ a holds made
    obtain ⟨took, before, after⟩ := proceed_spec made
    rw [← after]
    exact kept a took (before ▸ holds)

/-- While an executor takes its node for deleted, no cordon is pending. -/
theorem Reachable.settled (h : x.Reachable s) : s.Settled :=
  h.invariant (.of_present rfl) fun _ took settled => took.settled_after settled

end Executor

end NodeWarden
