import NodeWarden.Agent.Tick
import NodeWarden.Proofs.Executor.Worlds

/-!
# Agents in related worlds

On a tick an agent sees of its world the time and the answers to its executor's calls. So if
two worlds tell the same time and are related in a way that the calls of the executor's
scope respect, then a tick has the same report in both, leaves the agent in the same state,
and leaves the worlds related (`tick_agrees`).
-/

namespace NodeWarden

variable {σ τ : Type}

/-- What agrees is the same but for the worlds. -/
theorem Agrees.eq {α β : Type} {R : σ → τ → Prop} {p : α × β × σ} {q : α × β × τ}
    (h : Agrees R p q) :
    ∃ answer s w u, R w u ∧ p = (answer, s, w) ∧ q = (answer, s, u) := by
  obtain ⟨answer, s, w⟩ := p
  obtain ⟨_, _, u⟩ := q
  obtain ⟨rfl, rfl, hw⟩ := h
  exact ⟨answer, s, w, u, hw, rfl, rfl⟩

namespace Agent

variable [ClusterApi σ] [Journal σ] [Clock σ] [ClusterApi τ] [Journal τ] [Clock τ]

/-- A relation between worlds that an agent cannot tell apart on a tick: its executor
cannot, and their clocks agree. -/
structure Respects (a : Agent) (R : σ → τ → Prop) : Prop where
  calls : a.executor.scope.Respects R
  now {w : σ} {u : τ} : R w u → Clock.now w = Clock.now u
  stopwatch {w : σ} {u : τ} : R w u → Clock.stopwatch w = Clock.stopwatch u

variable {a : Agent} {R : σ → τ → Prop} {w : σ} {u : τ}

namespace Respects

theorem tell (h : a.Respects R) (hw : R w u) (n : AgentNote) : R (a.tell n w) (a.tell n u) :=
  h.calls.note _ hw

theorem noteAll (h : a.Respects R) (hw : R w u) (entries : List Log.Entry) :
    R (noteAll entries w) (noteAll entries u) := by
  unfold NodeWarden.noteAll
  induction entries generalizing w u with
  | nil => exact hw
  | cons e rest ih => exact ih (h.calls.note e hw)

end Respects

theorem judge_agrees (h : a.Respects R) (hw : R w u) (backend : DeviceBackend) (s : AgentState) :
    Agrees R (a.judge backend s w) (a.judge backend s u) := by
  have noted := h.noteAll hw (SampleSet.notes backend a.mask)
  unfold judge
  simp only [h.now noted]
  rcases SampleSet.take backend a.node.name a.mask
    (Clock.now (noteAll (SampleSet.notes backend a.mask) u)) with error | set
  · exact ⟨rfl, rfl, h.noteAll (h.calls.note _ (h.tell noted _)) _⟩
  · exact ⟨rfl, rfl, h.noteAll noted _⟩

theorem enforce_agrees (h : a.Respects R) (hw : R w u) (v : Verdict) (s : AgentState) :
    Agrees R (a.enforce v s w) (a.enforce v s u) := by
  unfold enforce
  obtain ⟨x, w', u', hw', ⟨outcome, hl, hr⟩ | ⟨e, hl, hr⟩⟩ :=
    (Executor.apply_agrees h.calls hw v s.executor).cases
  · rw [hl, hr]
    exact ⟨rfl, rfl, hw'⟩
  · rw [hl, hr]
    exact ⟨rfl, rfl, h.tell hw' _⟩

theorem enforceOrAbandon_agrees (h : a.Respects R) (hw : R w u) (v : Verdict)
    (sampling : Option DeviceError) (s : AgentState) :
    Agrees R (a.enforceOrAbandon v sampling s w) (a.enforceOrAbandon v sampling s u) := by
  unfold enforceOrAbandon
  dsimp only
  split
  · exact ⟨rfl, rfl, h.tell hw _⟩
  · obtain ⟨s', w', u', hw', ⟨outcome, hl, hr⟩ | ⟨e, hl, hr⟩⟩ := (enforce_agrees h hw v s).cases
    · rw [hl, hr]
      exact ⟨rfl, rfl, hw'⟩
    · rw [hl, hr]
      exact ⟨rfl, rfl, hw'⟩

/-- A tick is the same in worlds that the agent cannot tell apart. -/
theorem tick_agrees (h : a.Respects R) (hw : R w u) (backend : DeviceBackend) (s : AgentState) :
    Agrees R (a.tick backend s w) (a.tick backend s u) := by
  unfold tick
  obtain ⟨⟨v, sampling⟩, s₁, w₁, u₁, hw₁, hl, hr⟩ :=
    (judge_agrees h hw backend { s with ticks := s.ticks + 1 }).eq
  dsimp only
  rw [hl, hr]
  dsimp only
  obtain ⟨report, s₂, w₂, u₂, hw₂, hl, hr⟩ :=
    (enforceOrAbandon_agrees h hw₁ v sampling { s₁ with metrics := s₁.metrics.recordVerdict v }).eq
  rw [hl, hr]
  dsimp only
  rw [h.stopwatch hw, h.stopwatch hw₂]
  exact ⟨rfl, rfl, h.tell hw₂ _⟩

/-! ## The phase -/

section
variable (a : Agent) (w : σ)

omit [ClusterApi σ] in
theorem judge_phase (backend : DeviceBackend) (s : AgentState) :
    (a.judge backend s w).2.1.phase = s.phase := by
  unfold judge
  dsimp only
  split <;> rfl

omit [Clock σ] in
theorem enforceOrAbandon_phase (v : Verdict) (sampling : Option DeviceError) (s : AgentState) :
    (a.enforceOrAbandon v sampling s w).2.1.phase = s.phase := by
  unfold enforceOrAbandon enforce
  dsimp only
  split
  · rfl
  · rcases a.executor.apply v s.executor w with ⟨e | outcome, x, w'⟩ <;> rfl

/-- A tick leaves the agent in its phase. -/
theorem tick_phase (backend : DeviceBackend) (s : AgentState) :
    (a.tick backend s w).2.1.phase = s.phase :=
  (enforceOrAbandon_phase a _ _ _ _).trans (judge_phase a w backend _)

end

end Agent

end NodeWarden
