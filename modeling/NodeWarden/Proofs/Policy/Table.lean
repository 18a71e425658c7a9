import NodeWarden.Proofs.History
import NodeWarden.Proofs.Policy.Escalation

/-!
# The escalation table

The verdicts of an evaluator, and of every system that has one in its state (`Escalates`),
are those of the escalation table: the action depends on nothing in the history but the
condition and the number of ticks for which it has lasted (`verdicts_follow_table`). What
the table alone tells of a list of verdicts is told for all such systems at once
(`Verdict.ByTable`).
-/

namespace NodeWarden

/-! ## Verdicts by the table -/

/-- Of each verdict in a list the action is that of the table, by the conditions of the
verdicts up to it. -/
def Verdict.ByTable (d : UInt32) (vs : List Verdict) : Prop :=
  ∀ (i : Nat) (v : Verdict), vs[i]? = some v → v.action =
    v.condition.dueAction
    (min (v.condition.lasting ((vs.map Verdict.condition).take (i + 1))) 0xffffffff)
      d.toNat

/-- The verdicts up to one of them, and at least so many, are for the same condition. -/
def Verdict.Lasted (vs : List Verdict) (c : Condition) (n i : Nat) : Prop :=
  n ≤ i + 1 ∧ ∀ k v, i < k + n → k ≤ i → vs[k]? = some v → v.condition = c

namespace Verdict

variable {vs : List Verdict} {v : Verdict} {c : Condition} {d : UInt32} {i n : Nat}

theorem lasted_of_le_lasting (h : n ≤ c.lasting ((vs.map Verdict.condition).take (i + 1))) :
    Lasted vs c n i := by
  have short : ((vs.map Verdict.condition).take (i + 1)).length ≤ i + 1 := List.length_take_le _ _
  have upper := c.lasting_le ((vs.map Verdict.condition).take (i + 1))
  refine ⟨by omega, fun k v recent hki hk => ?_⟩
  have found : ((vs.map Verdict.condition).take (i + 1))[k]? = some v.condition := by
    rw [List.getElem?_take_of_lt (by omega), List.getElem?_map, hk, Option.map_some]
  exact Condition.getElem?_of_lasting h (by omega) found

/-- A deletion is of a condition that has outlasted the debounce, and for which there is one. -/
theorem ByTable.lasted_of_delete (h : ByTable d vs) (hi : vs[i]? = some v)
    (delete : v.action = .delete) :
    v.condition ∈ [.noDevices, .exhausted, .sampleFailure] ∧
      Lasted vs v.condition (d.toNat + 1) i := by
  obtain ⟨bad, long⟩ := Condition.of_dueAction_eq_delete ((h i v hi).symm.trans delete)
  exact ⟨bad, lasted_of_le_lasting (by omega)⟩

/-- A cordon, or more, is for missing devices or for a condition that has lasted for the
debounce. -/
theorem ByTable.lasted_of_cordonOrMore (h : ByTable d vs) (hi : vs[i]? = some v)
    (acts : v.action.isCordonOrMore = true) :
    v.condition = .noDevices ∨
      v.condition ∈ [.lowMemory, .exhausted, .sampleFailure] ∧ Lasted vs v.condition d.toNat i := by
  rw [h i v hi] at acts
  rcases Condition.of_dueAction_isCordonOrMore acts with none | ⟨bad, long⟩
  · exact .inl none
  · exact .inr ⟨bad, lasted_of_le_lasting (by omega)⟩

/-- A deletion directly follows a cordon or a deletion for the same condition. -/
theorem ByTable.delete_follows (h : ByTable d vs) (positive : 0 < d) (hi : vs[i]? = some v)
    (delete : v.action = .delete) :
    ∃ j u, i = j + 1 ∧ vs[j]? = some u ∧ u.condition = v.condition ∧
      u.action.isCordonOrMore = true := by
  have positive : 0 < d.toNat := UInt32.lt_iff_toNat_lt.1 positive
  have bound := d.toNat_lt
  obtain ⟨bad, long⟩ := Condition.of_dueAction_eq_delete ((h i v hi).symm.trans delete)
  obtain ⟨-, deep, same⟩ := h.lasted_of_delete hi delete
  obtain ⟨j, rfl⟩ : ∃ j, i = j + 1 := ⟨i - 1, by omega⟩
  have inside : j < vs.length := by
    have := (List.getElem?_eq_some_iff.1 hi).1
    omega
  have hj : vs[j]? = some vs[j] := List.getElem?_eq_getElem inside
  have same : vs[j].condition = v.condition := same j _ (by omega) (by omega) hj
  refine ⟨j, vs[j], rfl, hj, same, ?_⟩
  -- the condition had lasted for one tick less, which is still the debounce
  have grown : v.condition.lasting ((vs.map Verdict.condition).take (j + 1 + 1)) =
      v.condition.lasting ((vs.map Verdict.condition).take (j + 1)) + 1 := by
    rw [List.take_add_one, List.getElem?_map, hi]
    exact Condition.lasting_append_self
  rw [h j _ hj, same]
  apply Condition.dueAction_isCordonOrMore
  · intro healthy
    simp [healthy] at bad
  · omega

/-- Every row of deletions for one condition starts right after a cordon for it. -/
theorem ByTable.cordon_before (h : ByTable d vs) (positive : 0 < d) (hi : vs[i]? = some v)
    (delete : v.action = .delete) :
    ∃ j u, j < i ∧ vs[j]? = some u ∧ u.action = .cordon ∧ u.condition = v.condition ∧
      ∀ k w, j < k → k ≤ i → vs[k]? = some w → w.action = .delete ∧ w.condition = v.condition := by
  -- by induction on the position, back along the deletions
  induction i generalizing v with
  | zero =>
    obtain ⟨j, -, none, -⟩ := h.delete_follows positive hi delete
    cases none
  | succ i ih =>
    obtain ⟨_, u, next, hu, same, acts⟩ := h.delete_follows positive hi delete
    cases next
    have last (k : Nat) (w : Verdict) (hk : k = i + 1) (hw : vs[k]? = some w) :
        w.action = .delete ∧ w.condition = v.condition := by
      rw [hk, hi] at hw
      cases hw
      exact ⟨delete, rfl⟩
    cases action : u.action with
    | none =>
      rw [action] at acts
      cases acts
    | cordon =>
      exact ⟨_, u, by omega, hu, action, same, fun k w after upto => last k w (by omega)⟩
    | delete =>
      obtain ⟨j, u', before, hj, cordon, same', row⟩ := ih hu action
      refine ⟨j, u', by omega, hj, cordon, same'.trans same, fun k w after upto hw => ?_⟩
      rcases Nat.lt_or_eq_of_le upto with earlier | rfl
      · obtain ⟨deleted, cond⟩ := row k w after (by omega) hw
        exact ⟨deleted, cond.trans same⟩
      · exact last _ w rfl hw

end Verdict

/-! ## Systems with an evaluator -/

/-- A system that has an evaluator in its state, each of whose records holds a verdict. -/
structure Escalates {S I A : Type} (step : S → I → S × Option A) (evaluator : S → Evaluator)
    (verdict : A → Verdict) : Prop where
  silent {s : S} {i : I} : (step s i).2 = none → evaluator (step s i).1 = evaluator s
  recorded {s : S} {i : I} {a : A} : (step s i).2 = some a →
    ∃ score, verdict a = ((evaluator s).escalate (verdict a).condition score).1 ∧
      evaluator (step s i).1 = ((evaluator s).escalate (verdict a).condition score).2

namespace Escalates

variable {S I A : Type} {step : S → I → S × Option A} {evaluator : S → Evaluator}
  {verdict : A → Verdict} {s : S} {inputs : List I} {t : Thresholds}

theorem counted_silent (sys : Escalates step evaluator verdict) (s : S) (i : I) (past : List A)
    (h : (evaluator s).Counted t (past.map fun a => (verdict a).condition))
    (left : (step s i).2 = none) :
    (evaluator (step s i).1).Counted t (past.map fun a => (verdict a).condition) := by
  rw [sys.silent left]
  exact h

theorem counted_recorded (sys : Escalates step evaluator verdict) (positive : 0 < t.debounce)
    (s : S) (i : I) (past : List A) (a : A)
    (h : (evaluator s).Counted t (past.map fun a => (verdict a).condition))
    (left : (step s i).2 = some a) :
    (evaluator (step s i).1).Counted t ((past ++ [a]).map fun a => (verdict a).condition) := by
  obtain ⟨score, -, next⟩ := sys.recorded left
  rw [next, List.map_append]
  exact h.escalate positive

/-- Its evaluator has counted the conditions of its verdicts. -/
theorem counted (sys : Escalates step evaluator verdict) (positive : 0 < t.debounce)
    (start : (evaluator s).Counted t []) :
    (evaluator (History.final step s inputs)).Counted t
      ((History.records step s inputs).map fun a => (verdict a).condition) :=
  History.records_invariant
    (R := fun s past => (evaluator s).Counted t (past.map fun a => (verdict a).condition))
    start sys.counted_silent (sys.counted_recorded positive)

/-- Its verdicts are those of the table. -/
theorem byTable (sys : Escalates step evaluator verdict) (positive : 0 < t.debounce)
    (start : (evaluator s).Counted t []) :
    Verdict.ByTable t.debounce ((History.records step s inputs).map verdict) := by
  intro i v hi
  rw [List.getElem?_map] at hi
  obtain ⟨a, ha, rfl⟩ := Option.map_eq_some_iff.1 hi
  obtain ⟨s', input, counted, made⟩ := History.exists_related
    (R := fun s past => (evaluator s).Counted t (past.map fun a => (verdict a).condition))
    start sys.counted_silent (sys.counted_recorded positive) ha
  obtain ⟨score, made, -⟩ := sys.recorded made
  have upto : (((History.records step s inputs).map verdict).map Verdict.condition).take (i + 1) =
      ((History.records step s inputs).take i).map (fun a => (verdict a).condition) ++
        [(verdict a).condition] := by
    rw [List.map_map, ← List.map_take, List.take_add_one, ha, List.map_append]
    rfl
  rw [upto]
  exact (congrArg Verdict.action made).trans (counted.escalate_action positive)

end Escalates

/-! ## Runs of an evaluator -/

/-- What an evaluator is told of a tick. -/
inductive Finding where
  | samples (set : SampleSet)
  /-- The tick could not be sampled. -/
  | failure

/-- The condition that a finding shows. -/
def Finding.condition (t : Thresholds) : Finding → Condition
  | samples set => set.classify t
  | failure => .sampleFailure

namespace Evaluator

/-- One step of a run: the evaluator after a finding, and its verdict. -/
def advance (e : Evaluator) : Finding → Evaluator × Option Verdict
  | .samples set => ((e.evaluate set).2, some (e.evaluate set).1)
  | .failure => (e.recordFailure.2, some e.recordFailure.1)

/-- A new evaluator after some findings. -/
def after (mode : PolicyMode) (t : Thresholds) (findings : List Finding) : Evaluator :=
  History.final advance (.new mode t) findings

/-- The verdicts of a new evaluator on some findings, the first one first. -/
def verdicts (mode : PolicyMode) (t : Thresholds) (findings : List Finding) : List Verdict :=
  History.records advance (.new mode t) findings

variable {e : Evaluator} {f : Finding} {t : Thresholds} {mode : PolicyMode}
  {findings : List Finding}

theorem advance_spec :
    ∃ score, e.advance f = ((e.escalate (f.condition e.thresholds) score).2,
      some (e.escalate (f.condition e.thresholds) score).1) := by
  cases f with
  | samples set => exact ⟨_, rfl⟩
  | failure => exact ⟨_, rfl⟩

theorem advance_escalates : Escalates advance id id where
  silent := by
    intro e f silent
    obtain ⟨score, step⟩ := e.advance_spec (f := f)
    rw [step] at silent
    cases silent
  recorded := by
    intro e f v made
    obtain ⟨score, step⟩ := e.advance_spec (f := f)
    rw [step] at made ⊢
    cases made
    exact ⟨score, rfl, rfl⟩

/-- Every finding has its verdict, for the condition that it shows. -/
theorem verdicts_conditions :
    (verdicts mode t findings).map Verdict.condition = findings.map (Finding.condition t) := by
  suffices all : ∀ (findings : List Finding) (e : Evaluator), e.thresholds = t →
      (History.records advance e findings).map Verdict.condition =
      findings.map (Finding.condition t) from
    all findings (.new mode t) rfl
  intro findings
  induction findings with
  | nil =>
    intro e _
    rfl
  | cons f rest ih =>
    intro e same
    obtain ⟨score, step⟩ := e.advance_spec (f := f)
    rw [History.records_cons_of_some (congrArg Prod.snd step), step, List.map_cons, List.map_cons,
      ih _ (escalate_thresholds.trans same), same]
    rfl

theorem verdicts_byTable (positive : 0 < t.debounce) :
    Verdict.ByTable t.debounce (verdicts mode t findings) := by
  have all : Verdict.ByTable t.debounce ((verdicts mode t findings).map id) :=
    advance_escalates.byTable positive (.new mode t)
  rwa [List.map_id] at all

/-- On every history of findings the counter is the number of ticks for which the last
condition has lasted, and the action is that of the table. So a deletion directly follows a
cordon or a deletion for the same condition, and the deletions in a row with it start right
after a cordon for it. -/
theorem verdicts_follow_table (mode : PolicyMode) (positive : 0 < t.debounce)
    (findings : List Finding) :
    (verdicts mode t findings).map Verdict.condition = findings.map (Finding.condition t) ∧
    (∀ v, (verdicts mode t findings).getLast? = some v →
      (after mode t findings).consecutive.toNat =
        min (v.condition.lasting (findings.map (Finding.condition t))) 0xffffffff ∧
      v.action =
        v.condition.dueAction (after mode t findings).consecutive.toNat t.debounce.toNat) ∧
    ∀ i v, (verdicts mode t findings)[i]? = some v → v.action = .delete →
      (∃ j u, i = j + 1 ∧ (verdicts mode t findings)[j]? = some u ∧ u.condition = v.condition ∧
        u.action.isCordonOrMore = true) ∧
      ∃ j u, j < i ∧ (verdicts mode t findings)[j]? = some u ∧ u.action = .cordon ∧
        u.condition = v.condition ∧
        ∀ k w, j < k → k ≤ i → (verdicts mode t findings)[k]? = some w →
          w.action = .delete ∧ w.condition = v.condition := by
  have table : Verdict.ByTable t.debounce (verdicts mode t findings) := verdicts_byTable positive
  refine ⟨verdicts_conditions, fun v last => ?_, fun i v hi delete =>
    ⟨table.delete_follows positive hi delete, table.cordon_before positive hi delete⟩⟩
  have counted :
      (after mode t findings).Counted t ((verdicts mode t findings).map Verdict.condition) :=
    advance_escalates.counted positive (.new mode t)
  have same : v.condition = (after mode t findings).condition := by
    apply counted.condition
    rw [List.getLast?_map, last, Option.map_some]
  have count := counted.consecutive
  rw [← same, verdicts_conditions] at count
  refine ⟨count, ?_⟩
  rw [List.getLast?_eq_getElem?] at last
  have action := table _ v last
  have nonempty : (verdicts mode t findings).length ≠ 0 := by
    intro empty
    rw [List.eq_nil_of_length_eq_zero empty] at last
    cases last
  rw [Nat.sub_add_cancel (by omega), List.take_of_length_le (by simp), verdicts_conditions, ← count]
    at action
  exact action

/-- Three ticks that cannot be sampled, with a debounce of two. -/
theorem verdicts_follow_table_trial :
    (after .maxFreeMemory ⟨1000, 250, 2⟩ [.failure, .failure, .failure]).consecutive.toNat = 3 ∧
    ∃ j u, j < 2 ∧
      (verdicts .maxFreeMemory ⟨1000, 250, 2⟩ [.failure, .failure, .failure])[j]? = some u ∧
      u.action = .cordon ∧ u.condition = .sampleFailure := by
  have table := verdicts_follow_table (t := ⟨1000, 250, 2⟩) .maxFreeMemory (by decide)
    [.failure, .failure, .failure]
  refine ⟨(table.2.1 _ rfl).1, ?_⟩
  obtain ⟨j, u, before, hj, cordon, same, -⟩ := (table.2.2 2 _ rfl rfl).2
  exact ⟨j, u, before, hj, cordon, same⟩

end Evaluator

end NodeWarden
