import NodeWarden.Executor.Apply
import NodeWarden.Proofs.Cluster.Observed

/-!
# Executors in related worlds

An executor sees of its world only the answers to the calls that it makes through its scope. So if
two worlds are related in a way that the scope's calls respect, then a verdict has the same result
in both, leaves the executor in the same state, and leaves the worlds related (`apply_agrees`).
-/

namespace NodeWarden

/-- Two answers that agree but for their worlds, which are related. -/
def Agrees {α β σ τ : Type} (R : σ → τ → Prop) (p : α × β × σ) (q : α × β × τ) : Prop :=
  p.1 = q.1 ∧ p.2.1 = q.2.1 ∧ R p.2.2 q.2.2

/-- Answers that agree both succeed or both fail. -/
theorem Agrees.cases {ε α β σ τ : Type} {R : σ → τ → Prop} {p : Except ε α × β × σ}
    {q : Except ε α × β × τ} (h : Agrees R p q) :
    ∃ s w u, R w u ∧
      ((∃ a, p = (.ok a, s, w) ∧ q = (.ok a, s, u)) ∨
        ∃ e, p = (.error e, s, w) ∧ q = (.error e, s, u)) := by
  obtain ⟨result, s, w⟩ := p
  obtain ⟨result', s', u⟩ := q
  obtain ⟨rfl, rfl, hw⟩ : result = result' ∧ s = s' ∧ R w u := h
  refine ⟨s, w, u, hw, ?_⟩
  cases result with
  | ok a => exact .inl ⟨a, rfl, rfl⟩
  | error e => exact .inr ⟨e, rfl, rfl⟩

/-- A relation between worlds that a scope cannot tell apart: its calls have the same answers in
both, and they and all notes leave the worlds related. -/
structure NodeScope.Respects {σ τ : Type} [ClusterApi σ] [Journal σ] [ClusterApi τ] [Journal τ]
    (scope : NodeScope) (R : σ → τ → Prop) : Prop where
  get {w : σ} {u : τ} : R w u →
    (scope.get w).1 = (scope.get u).1 ∧ R (scope.get w).2 (scope.get u).2
  change {w : σ} {u : τ} (c : NodeChange) : R w u →
    (scope.change c w).1 = (scope.change c u).1 ∧ R (scope.change c w).2 (scope.change c u).2
  note {w : σ} {u : τ} (e : Log.Entry) : R w u → R (note e w) (note e u)

variable {σ τ : Type} [ClusterApi σ] [Journal σ] [ClusterApi τ] [Journal τ]
  {R : σ → τ → Prop} {w : σ} {u : τ}

namespace NodeScope.Respects

variable {scope : NodeScope}

theorem get_eq (h : scope.Respects R) (hw : R w u) :
    ∃ answer w' u', R w' u' ∧ scope.get w = (answer, w') ∧ scope.get u = (answer, u') :=
  ⟨_, _, _, (h.get hw).2, rfl, Prod.ext (h.get hw).1.symm rfl⟩

theorem change_eq (h : scope.Respects R) (c : NodeChange) (hw : R w u) :
    ∃ answer w' u', R w' u' ∧ scope.change c w = (answer, w') ∧ scope.change c u = (answer, u') :=
  ⟨_, _, _, (h.change c hw).2, rfl, Prod.ext (h.change c hw).1.symm rfl⟩

end NodeScope.Respects

/-- A relation between worlds to which a scope is blind: its calls have the same answers in
both, also those that it refuses, and they and all notes leave the worlds related. -/
structure NodeScope.BlindTo (scope : NodeScope) (R : σ → τ → Prop) : Prop where
  getNode {w : σ} {u : τ} : R w u →
    (ClusterApi.getNode scope.limit scope.node.name w).1 =
      (ClusterApi.getNode scope.limit scope.node.name u).1 ∧
      R (ClusterApi.getNode scope.limit scope.node.name w).2
      (ClusterApi.getNode scope.limit scope.node.name u).2
  change {w : σ} {u : τ} (c : NodeChange) : R w u →
    (scope.change c w).1 = (scope.change c u).1 ∧ R (scope.change c w).2 (scope.change c u).2
  note {w : σ} {u : τ} (e : Log.Entry) : R w u → R (note e w) (note e u)

namespace NodeScope.BlindTo

variable {scope : NodeScope}

theorem respects (h : scope.BlindTo R) : scope.Respects R where
  get := by
    intro w u hw
    obtain ⟨same, related⟩ := h.getNode hw
    rw [get_eq_accept, get_eq_accept]
    exact ⟨congrArg scope.accept same, related⟩
  change := h.change
  note := h.note

/-- If the worlds are observed, the same is observed in both, whatever was observed in one
of them before. -/
theorem observed (h : scope.BlindTo R) (earlier : List Exchange) :
    scope.Respects fun (o : Observed σ) (o' : Observed τ) =>
      R o.world o'.world ∧ o.exchanges = earlier ++ o'.exchanges where
  get := by
    rintro ⟨w, _⟩ ⟨u, xs⟩ ⟨hw, rfl⟩
    obtain ⟨same, related⟩ := h.getNode hw
    rw [get_eq_accept, get_eq_accept]
    refine ⟨congrArg scope.accept same, related, ?_⟩
    show (earlier ++ xs) ++ [.read _ (ClusterApi.getNode _ _ w).1] =
      earlier ++ (xs ++ [.read _ (ClusterApi.getNode _ _ u).1])
    rw [same, List.append_assoc]
  change := by
    rintro ⟨w, _⟩ ⟨u, xs⟩ c ⟨hw, rfl⟩
    obtain ⟨same, related⟩ := h.change c hw
    refine ⟨same, related, ?_⟩
    show (earlier ++ xs) ++ [.change c _ (scope.change c w).1] =
      earlier ++ (xs ++ [.change c _ (scope.change c u).1])
    rw [same, List.append_assoc]
  note := by
    rintro o o' e ⟨hw, same⟩
    exact ⟨h.note e hw, same⟩

end NodeScope.BlindTo

namespace Executor

variable {x : Executor}

theorem tell_related (h : x.scope.Respects R) (hw : R w u) (n : ExecutorNote) :
    R (x.tell n w) (x.tell n u) :=
  h.note _ hw

theorem cordon_agrees (h : x.scope.Respects R) (hw : R w u) (read : NodeState) (s : ExecutorState) :
    Agrees R (x.cordon read s w) (x.cordon read s u) := by
  unfold cordon
  split
  · exact ⟨rfl, rfl, tell_related h hw _⟩
  split
  · exact ⟨rfl, rfl, tell_related h hw _⟩
  obtain ⟨answer, w', u', hw', hl, hr⟩ := h.change_eq .cordon hw
  rw [hl, hr]
  cases answer with
  | ok => exact ⟨rfl, rfl, tell_related h hw' _⟩
  | error => exact ⟨rfl, rfl, hw'⟩

theorem delete_agrees (h : x.scope.Respects R) (hw : R w u) (reason : String) (s : ExecutorState) :
    Agrees R (x.delete reason s w) (x.delete reason s u) := by
  unfold delete
  split
  · exact ⟨rfl, rfl, tell_related h hw _⟩
  obtain ⟨answer, w', u', hw', hl, hr⟩ := h.change_eq .delete hw
  rw [hl, hr]
  cases answer with
  | ok => exact ⟨rfl, rfl, tell_related h hw' _⟩
  | error => exact ⟨rfl, rfl, hw'⟩

theorem deleteOrCordon_agrees (h : x.scope.Respects R) (hw : R w u) (reason : String)
    (read : NodeState) (s : ExecutorState) :
    Agrees R (x.deleteOrCordon reason read s w) (x.deleteOrCordon reason read s u) := by
  unfold deleteOrCordon
  split
  · exact delete_agrees h hw reason s
  · obtain ⟨s', w', u', hw', ⟨_, hl, hr⟩ | ⟨_, hl, hr⟩⟩ :=
      (cordon_agrees h (tell_related h hw .deletionDeferred) read s).cases
    · rw [hl, hr]
      exact ⟨rfl, rfl, hw'⟩
    · rw [hl, hr]
      exact ⟨rfl, rfl, hw'⟩

theorem publish_agrees (h : x.scope.Respects R) (hw : R w u) (v : Verdict) (s : ExecutorState) :
    Agrees R (x.publish v s w) (x.publish v s u) := by
  unfold publish
  dsimp only
  split
  · exact ⟨rfl, rfl, tell_related h hw _⟩
  split
  · exact ⟨rfl, rfl, tell_related h hw _⟩
  obtain ⟨answer, w', u', hw', hl, hr⟩ :=
    h.change_eq (.label ((ScoreLabels.ofVerdict x.mode v).entries x.config)) hw
  rw [hl, hr]
  cases answer with
  | ok => exact ⟨rfl, rfl, hw'⟩
  | error => exact ⟨rfl, rfl, hw'⟩

theorem awaitRegistration_agrees (h : x.scope.Respects R) (hw : R w u) (s : ExecutorState) :
    Agrees R (x.awaitRegistration s w) (x.awaitRegistration s u) := by
  unfold awaitRegistration
  split
  · obtain ⟨answer, w', u', hw', hl, hr⟩ := h.get_eq hw
    rw [hl, hr]
    cases answer with
    | ok => exact ⟨rfl, rfl, tell_related h hw' _⟩
    | error e =>
      cases e with
      | notFound => exact ⟨rfl, rfl, tell_related h hw' _⟩
      | api | timeout | permission | foreignNode => exact ⟨rfl, rfl, hw'⟩
  · exact ⟨rfl, rfl, hw⟩

theorem tellOverride_related (h : x.scope.Respects R) (hw : R w u) (action : NodeAction)
    (s : ExecutorState) : R (x.tellOverride action s w) (x.tellOverride action s u) := by
  unfold tellOverride
  split
  · split
    · exact tell_related h hw _
    · exact hw
  · exact hw
  · split
    · exact hw
    · exact tell_related h hw _

theorem act_agrees (h : x.scope.Respects R) (hw : R w u) (action : NodeAction) (reason : String)
    (s : ExecutorState) : Agrees R (x.act action reason s w) (x.act action reason s u) := by
  unfold act
  split
  · exact ⟨rfl, rfl, hw⟩
  · obtain ⟨answer, w', u', hw', hl, hr⟩ := h.get_eq hw
    simp only [hl, hr]
    cases answer with
    | ok read => exact cordon_agrees h hw' read _
    | error => exact ⟨rfl, rfl, hw'⟩
  · obtain ⟨answer, w', u', hw', hl, hr⟩ := h.get_eq hw
    simp only [hl, hr]
    cases answer with
    | ok read => exact deleteOrCordon_agrees h hw' reason read _
    | error => exact ⟨rfl, rfl, hw'⟩

theorem publishAfter_agrees (h : x.scope.Respects R) (hw : R w u) (outcome : ExecutionOutcome)
    (v : Verdict) (s : ExecutorState) :
    Agrees R (x.publishAfter outcome v s w) (x.publishAfter outcome v s u) := by
  unfold publishAfter
  split
  · obtain ⟨s', w', u', hw', ⟨_, hl, hr⟩ | ⟨_, hl, hr⟩⟩ := (publish_agrees h hw v s).cases
    · rw [hl, hr]
      exact ⟨rfl, rfl, hw'⟩
    · rw [hl, hr]
      exact ⟨rfl, rfl, hw'⟩
  · exact ⟨rfl, rfl, hw⟩

theorem execute_agrees (h : x.scope.Respects R) (hw : R w u) (v : Verdict) (s : ExecutorState) :
    Agrees R (x.execute v s w) (x.execute v s u) := by
  unfold execute
  obtain ⟨s', w', u', hw', ⟨there, hl, hr⟩ | ⟨_, hl, hr⟩⟩ := (awaitRegistration_agrees h hw s).cases
  · rw [hl, hr]
    cases there with
    | false => exact ⟨rfl, rfl, hw'⟩
    | true =>
      obtain ⟨s'', w'', u'', hw'', ⟨outcome, hl, hr⟩ | ⟨_, hl, hr⟩⟩ :=
        (act_agrees h (tellOverride_related h hw' v.action s')
          (x.effectiveAction v.action s') v.reason s').cases
      · simp only [hl, hr]
        exact publishAfter_agrees h hw'' outcome v s''
      · simp only [hl, hr]
        exact ⟨rfl, rfl, hw''⟩
  · rw [hl, hr]
    exact ⟨rfl, rfl, hw'⟩

theorem settle_agrees (h : x.scope.Respects R) (hw : R w u)
    (result : Except ClusterError ExecutionOutcome) (s : ExecutorState) :
    (x.settle result s w).1 = (x.settle result s u).1 ∧
      R (x.settle result s w).2 (x.settle result s u).2 := by
  unfold settle
  split
  · exact ⟨rfl, hw⟩
  · split
    · exact ⟨rfl, tell_related h hw _⟩
    · exact ⟨rfl, tell_related h hw _⟩

/-- A verdict has the same result in worlds that the executor's scope cannot tell apart. -/
theorem apply_agrees (h : x.scope.Respects R) (hw : R w u) (v : Verdict) (s : ExecutorState) :
    Agrees R (x.apply v s w) (x.apply v s u) := by
  unfold apply
  dsimp only
  split
  · exact ⟨rfl, rfl, tell_related h hw _⟩
  split
  · exact ⟨rfl, rfl, tell_related h hw _⟩
  obtain ⟨same, sameState, related⟩ := execute_agrees h hw v { s with tick := s.tick + 1 }
  rw [← same, ← sameState]
  obtain ⟨settled, related⟩ := settle_agrees h related
    (x.execute v { s with tick := s.tick + 1 } w).1
      (x.execute v { s with tick := s.tick + 1 } w).2.1
  exact ⟨rfl, settled, related⟩

end Executor

end NodeWarden
