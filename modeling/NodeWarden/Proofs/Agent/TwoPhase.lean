import NodeWarden.Proofs.Agent.Run

/-!
# Two-phase deletion by an agent

An agent deletes its node only in a streak of ticks of one condition, in which a cordon was
asked for before. If any tick of the streak before the deletion succeeded in what its
executor set out to do, then the cordon was confirmed in the streak as well; if none did,
then the executor acts on a cordon that was confirmed before the streak
(`deletion_in_streak`). The executor does not know the conditions of the ticks: only a
verdict that asks for nothing makes it forget a cordon, and only if it is carried out.
-/

namespace NodeWarden

/-- The tick did nothing about the cordon: it was abandoned, or its application failed or was
skipped. -/
def TickRecord.Fruitless (k : TickRecord) : Prop :=
  k.report.outcome = none ∨ ∃ n, k.report.outcome = some (.backingOff n)

theorem TickRecord.result_of_not_fruitless {k : TickRecord} (h : ¬ k.Fruitless) :
    ∃ outcome, k.report.result = some (.ok outcome) ∧ ∀ n, outcome ≠ .backingOff n := by
  cases found : k.report.outcome with
  | none => exact absurd (.inl found) h
  | some outcome =>
    refine ⟨outcome, by rw [TickReport.result, found], fun n skipped => ?_⟩
    exact h (.inr ⟨n, skipped ▸ found⟩)

namespace Agent

variable {a : Agent} {s s' : AgentState} {c c' : MemoryCluster} {k : TickRecord}

theorem Ticked.not_deletes (h : Ticked a s c k s' c') (needs : a.executor.NeedsCordon s.executor) :
    ¬ k.Deletes := by
  cases applied : k.application with
  | none => simp [TickRecord.Deletes, (h.of_abandoned applied).2.1]
  | some p =>
    obtain ⟨took, -, before, exchanges, -, -⟩ := h.of_applied applied
    rw [TickRecord.Deletes, ← exchanges]
    exact Application.not_deletes took (by rwa [before])

theorem Ticked.needsCordon_or_confirms (h : Ticked a s c k s' c')
    (needs : a.executor.NeedsCordon s.executor) :
    a.executor.NeedsCordon s'.executor ∨ k.ConfirmsCordon := by
  cases applied : k.application with
  | none =>
    obtain ⟨-, -, same⟩ := h.of_abandoned applied
    exact .inl (by rwa [same])
  | some p =>
    obtain ⟨took, -, before, -, -, after⟩ := h.of_applied applied
    rw [← before] at needs
    rw [← after]
    exact (Application.needsCordon_or_confirms took needs).imp_right fun confirms =>
      ⟨p, applied, confirms⟩

/-- A Delete call is made for a verdict to delete. -/
theorem Ticked.delete_of_deletes (h : Ticked a s c k s' c') (deletes : k.Deletes) :
    k.report.verdict.action = .delete := by
  cases applied : k.application with
  | none => simp [TickRecord.Deletes, (h.of_abandoned applied).2.1] at deletes
  | some p =>
    obtain ⟨took, verdict, -, exchanges, -, -⟩ := h.of_applied applied
    rw [TickRecord.Deletes, ← exchanges] at deletes
    rw [← verdict]
    exact (Application.deletes_spec took deletes).asked

/-- After a tick that makes the executor start over, or that was not fruitless, a deletion needs a
confirmed cordon, or it has just been confirmed. -/
theorem Ticked.settles (h : Ticked a s c k s' c') (acted : k.StartsOver ∨ ¬ k.Fruitless) :
    a.executor.NeedsCordon s'.executor ∨ k.ConfirmsCordon := by
  cases applied : k.application with
  | none =>
    rcases acted with ⟨q, same, -⟩ | acted
    · cases applied.symm.trans same
    · exact absurd (.inl (h.of_abandoned applied).1) acted
  | some p =>
    obtain ⟨took, -, -, -, result, after⟩ := h.of_applied applied
    rw [← after]
    have settled : a.executor.NeedsCordon p.after ∨ p.ConfirmsCordon := by
      rcases acted with ⟨q, same, anew⟩ | acted
      · cases applied.symm.trans same
        exact Application.startsOver_forgets took anew
      · obtain ⟨outcome, ok, tried⟩ := k.result_of_not_fruitless acted
        exact Application.success_settles took (Option.some.inj (result.symm.trans ok)) tried
    exact settled.imp_right fun confirms => ⟨p, applied, confirms⟩

/-! ## Deletions -/

theorem memory_bar :
    History.Bar a.advance (fun st => a.executor.NeedsCordon st.1.executor) TickRecord.Deletes
      TickRecord.ConfirmsCordon where
  silent := by
    intro st step needs silent
    rwa [advance_silent silent]
  safe needs made := (advance_spec made).not_deletes needs
  kept needs made := (advance_spec made).needsCordon_or_confirms needs

variable {steps : List AgentStep} {t : Nat} {b : TickRecord}

theorem ticked_of_history (ht : (a.history c steps)[t]? = some b) :
    ∃ s c₁ s' c', Ticked a s c₁ b s' c' := by
  obtain ⟨_, _, _, -, -, made⟩ := History.exists_input ht
  exact ⟨_, _, _, _, advance_spec made⟩

/-- A deletion comes in a streak of ticks of one condition with an earlier verdict to
cordon. Either the cordon was confirmed in the streak, or all of the streak before the
deletion was fruitless and the cordon was confirmed before, and the executor has not started
over since. -/
theorem deletion_in_streak (positive : 0 < a.thresholds.debounce)
    (ht : (a.history c steps)[t]? = some b) (deletes : b.Deletes) :
    (∃ i d, i < t ∧ (a.history c steps)[i]? = some d ∧ d.report.verdict.action = .cordon ∧
      Streak (a.history c steps) b.condition i t) ∧
    ((∃ j d, j < t ∧ (a.history c steps)[j]? = some d ∧ d.ConfirmsCordon ∧
        Streak (a.history c steps) b.condition j t) ∨
      (∀ k d, k < t → (a.history c steps)[k]? = some d →
        Streak (a.history c steps) b.condition k t → d.Fruitless) ∧
      ∃ j d, j < t ∧ (a.history c steps)[j]? = some d ∧ d.ConfirmsCordon ∧
        ∀ k e, j < k → k < t → (a.history c steps)[k]? = some e → ¬ e.StartsOver) := by
  obtain ⟨_, _, _, _, ticked⟩ := ticked_of_history ht
  refine ⟨cordon_before_delete positive ht (ticked.delete_of_deletes deletes), ?_⟩
  obtain ⟨j, d, hjt, hj, confirms, since⟩ := memory_bar.last_good (.inr (.inr (.inr rfl)))
    (fun k => k.StartsOver ∨ ¬ k.Fruitless)
    (fun st step k made acted => (advance_spec made).settles acted) ht deletes
  -- either the last confirmed cordon lies in the streak, or the streak lies after it
  by_cases streak : Streak (a.history c steps) b.condition j t
  · exact .inl ⟨j, d, hjt, hj, confirms, streak⟩
  refine .inr ⟨fun k e hkt hk inStreak => ?_, j, d, hjt, hj, confirms,
    fun k e hjk hkt hk anew => ?_⟩
  · rcases Nat.lt_or_ge j k with hjk | hkj
    · by_contra acted
      exact (since k e hjk hkt hk).2 (.inr acted)
    · exact absurd (inStreak.mono hkj) streak
  · exact (since k e hjk hkt hk).2 (.inl anew)

/-- Two ticks of an exhausted node. -/
theorem deletion_in_streak_trial :
    ∃ i d, i < 1 ∧
      (trial.history (.withNodes ["node-a"]) [.tick (.trial 100), .tick (.trial 100)])[i]? =
      some d ∧ d.report.verdict.action = .cordon ∧
      Streak (trial.history (.withNodes ["node-a"]) [.tick (.trial 100), .tick (.trial 100)])
        .exhausted i 1 := by
  have run : (trial.history (.withNodes ["node-a"])
    [.tick (.trial 100), .tick (.trial 100)])[1]? = some _ := rfl
  exact (deletion_in_streak (by decide) run (by decide)).1

/-- The executor may act on the cordon of another condition. Here a node that is low on
memory is cordoned; when it is exhausted, it cannot be read on the first tick, and is
deleted on the second. -/
theorem foreign_cordon_deletes :
    ¬ ∀ (a : Agent) (c : MemoryCluster) (steps : List AgentStep) (t : Nat) (b : TickRecord),
      0 < a.thresholds.debounce → (a.history c steps)[t]? = some b → b.Deletes →
      ∃ j d, j < t ∧ (a.history c steps)[j]? = some d ∧ d.ConfirmsCordon ∧
        Streak (a.history c steps) b.condition j t := by
  intro law
  obtain ⟨j, d, before, hj, ⟨p, applied, confirms⟩, streak⟩ := law trial (.withNodes ["node-a"])
    [.tick (.trial 500), .event (.failNext .get (.api "reset")), .tick (.trial 100),
      .tick (.trial 100)]
    2 _ (by decide) rfl (by decide)
  match j, before with
  | 0, _ =>
    cases hj
    exact absurd (streak 0 _ (by omega) (by omega) rfl) (by decide)
  | 1, _ =>
    cases hj
    cases applied
    rcases confirms with ⟨e, he, cordoned⟩ | ⟨⟨e, he, shown⟩, -⟩
    · cases List.mem_singleton.1 he
      cases cordoned
    · cases List.mem_singleton.1 he
      cases shown

end Agent

end NodeWarden
