import Mathlib.Data.List.DropRight
import NodeWarden.Policy.Evaluator

/-!
# One step of an evaluator

An evaluator decides by a counter that saturates and by its last action, which may have been
for another condition. The escalation table knows neither: it gives the action that is due
for a condition by the number of ticks for which it has lasted (`Condition.dueAction`). The
invariant that connects them is that the counter has counted those ticks and that the last
action, too, was that of the table (`Evaluator.Counted`).
-/

namespace NodeWarden

/-! ## Conditions and actions -/

theorem NodeAction.label_injective : Function.Injective NodeAction.label := by
  intro action other same
  cases action <;> cases other <;> first | rfl | exact absurd same (by decide)

theorem Condition.label_injective : Function.Injective Condition.label := by
  intro condition other same
  cases condition <;> cases other <;> first | rfl | exact absurd same (by decide)

/-- What a set of samples shows is none of the failures to take one. -/
theorem SampleSet.classify_ne_sampleFailure (set : SampleSet) (t : Thresholds) :
    set.classify t ≠ .sampleFailure := by
  unfold SampleSet.classify
  split
  · decide
  split
  · decide
  split <;> decide

/-! ## The table -/

/-- The action that is due for a condition that has lasted for `n` ticks, with a debounce of `d`. -/
def Condition.dueAction (c : Condition) (n d : Nat) : NodeAction :=
  match c with
  | .healthy => .none
  | .noDevices => if d < n then .delete else .cordon
  | .lowMemory => if d ≤ n then .cordon else .none
  | .exhausted | .sampleFailure => if d < n then .delete else if n = d then .cordon else .none

/-- For how many ticks up to the last one a condition has lasted. -/
def Condition.lasting (c : Condition) (past : List Condition) : Nat :=
  (past.rtakeWhile fun c' => c' = c).length

namespace Condition

variable {c c' : Condition} {past : List Condition} {n d : Nat}

theorem dueAction_isCordonOrMore (bad : c ≠ .healthy) (h : d ≤ n) :
    (c.dueAction n d).isCordonOrMore = true := by
  cases c with
  | healthy => exact absurd rfl bad
  | noDevices =>
    rw [dueAction]
    split <;> rfl
  | lowMemory => rw [dueAction, if_pos h, NodeAction.isCordonOrMore]; simp
  | exhausted | sampleFailure =>
    rw [dueAction]
    split
    · rfl
    · rw [if_pos (by omega)]
      rfl

/-- A deletion is due for a condition that has outlasted the debounce, and for which there
is one. -/
theorem of_dueAction_eq_delete (h : c.dueAction n d = .delete) :
    c ∈ [noDevices, exhausted, sampleFailure] ∧ d < n := by
  cases c with
  | healthy => cases h
  | lowMemory =>
    rw [dueAction] at h
    split at h <;> cases h
  | noDevices =>
    rw [dueAction] at h
    split at h
    · exact ⟨by decide, by assumption⟩
    · cases h
  | exhausted | sampleFailure =>
    rw [dueAction] at h
    split at h
    · exact ⟨by decide, by assumption⟩
    · split at h <;> cases h

theorem dueAction_eq_delete (deletable : c ∈ [noDevices, exhausted, sampleFailure]) (h : d < n) :
    c.dueAction n d = .delete := by
  cases c with
  | healthy | lowMemory => simp at deletable
  | noDevices | exhausted | sampleFailure => rw [dueAction, if_pos h]

/-- A cordon, or more, is due for missing devices, and for a condition that has reached the
debounce. -/
theorem of_dueAction_isCordonOrMore (h : (c.dueAction n d).isCordonOrMore = true) :
    c = noDevices ∨ c ∈ [lowMemory, exhausted, sampleFailure] ∧ d ≤ n := by
  cases c with
  | healthy => cases h
  | noDevices => exact .inl rfl
  | lowMemory =>
    rw [dueAction] at h
    split at h
    · exact .inr ⟨by decide, by assumption⟩
    · cases h
  | exhausted | sampleFailure =>
    refine .inr ⟨by decide, ?_⟩
    rw [dueAction] at h
    split at h
    · omega
    · split at h
      · omega
      · cases h

theorem lasting_append_self : c.lasting (past ++ [c]) = c.lasting past + 1 := by
  rw [lasting, List.rtakeWhile_concat_pos _ _ _ (by simp), List.length_append]
  rfl

theorem lasting_of_last_ne (h : ∀ c', past.getLast? = some c' → c' ≠ c) : c.lasting past = 0 := by
  rw [lasting, List.length_eq_zero_iff, List.rtakeWhile_eq_nil_iff]
  intro nonempty
  simpa using h _ (List.getLast?_eq_some_getLast nonempty)

/-- A condition that began after some ticks has lasted since. -/
theorem lasting_of_began {i m : Nat} (began : ∀ c', (past.take i).getLast? = some c' → c' ≠ c)
    (since : ∀ k < m, past[i + k]? = some c) : c.lasting (past.take (i + m)) = m := by
  induction m with
  | zero => exact lasting_of_last_ne began
  | succ m ih =>
    rw [← Nat.add_assoc, List.take_add_one, since m (Nat.lt_succ_self m)]
    exact lasting_append_self.trans
      (congrArg (· + 1) (ih fun k hk => since k (Nat.lt_succ_of_lt hk)))

/-- A condition that has lasted for `n` ticks is that of each of the last `n` ticks. -/
theorem getElem?_of_lasting (h : n ≤ c.lasting past) {k : Nat} (recent : past.length ≤ k + n)
    (hk : past[k]? = some c') : c' = c := by
  obtain ⟨earlier, split⟩ := List.rtakeWhile_suffix (fun c' => decide (c' = c)) past
  have total : earlier.length + c.lasting past = past.length := by
    rw [lasting, ← List.length_append, split]
  rw [← split, List.getElem?_append_right (by omega)] at hk
  simpa using List.mem_rtakeWhile_imp (List.mem_of_getElem? hk)

theorem lasting_le (c : Condition) (past : List Condition) : c.lasting past ≤ past.length :=
  (List.rtakeWhile_suffix (fun c' => decide (c' = c)) past).length_le

end Condition

theorem Number.saturatingSucc_toNat (n : UInt32) :
    (Number.saturatingSucc n).toNat = min (n.toNat + 1) 0xffffffff := by
  have bound := n.toNat_lt
  unfold Number.saturatingSucc
  split
  · rename_i full
    rw [full]
    rfl
  · rename_i room
    have room : n.toNat ≠ 0xffffffff := fun full => room (UInt32.toNat_inj.1 full)
    rw [UInt32.toNat_add, UInt32.toNat_one]
    omega

/-! ## Counting -/

namespace Evaluator

variable {e : Evaluator} {c : Condition} {score : Score} {t : Thresholds} {past : List Condition}

@[simp] theorem observe_condition : (e.observe c).condition = c := by
  unfold observe
  split
  · simp [*]
  · rfl

@[simp] theorem observe_thresholds : (e.observe c).thresholds = e.thresholds := by
  unfold observe
  split <;> rfl

@[simp] theorem observe_lastAction : (e.observe c).lastAction = e.lastAction := by
  unfold observe
  split <;> rfl

theorem observe_consecutive_of_ne (h : c ≠ e.condition) : (e.observe c).consecutive = 1 := by
  rw [observe, if_neg h]

@[simp] theorem escalate_condition : (e.escalate c score).2.condition = c := observe_condition

@[simp] theorem escalate_thresholds : (e.escalate c score).2.thresholds = e.thresholds :=
  observe_thresholds

/-- An evaluator that has counted the conditions of the ticks so far, the last one last. -/
structure Counted (t : Thresholds) (e : Evaluator) (past : List Condition) : Prop where
  thresholds : e.thresholds = t
  consecutive : e.consecutive.toNat = min (e.condition.lasting past) 0xffffffff
  condition : ∀ c, past.getLast? = some c → c = e.condition
  action : e.lastAction = e.condition.dueAction e.consecutive.toNat t.debounce.toNat

theorem Counted.new (mode : PolicyMode) (t : Thresholds) : Counted t (.new mode t) [] where
  thresholds := rfl
  consecutive := rfl
  condition := by simp
  action := rfl

theorem observe_consecutive_of_eq (h : c = e.condition) :
    (e.observe c).consecutive.toNat = min (e.consecutive.toNat + 1) 0xffffffff := by
  rw [observe, if_pos h, Number.saturatingSucc_toNat]

/-- The counter counts the ticks for which the condition has lasted, this one included. -/
theorem Counted.observe (h : Counted t e past) :
    (e.observe c).consecutive.toNat = min (c.lasting (past ++ [c])) 0xffffffff := by
  rw [Condition.lasting_append_self]
  by_cases same : c = e.condition
  · rw [observe_consecutive_of_eq same, h.consecutive, same]
    omega
  · have fresh : c.lasting past = 0 := by
      apply Condition.lasting_of_last_ne
      intro c' last other
      exact same (other.symm.trans (h.condition c' last))
    rw [observe_consecutive_of_ne same, fresh]
    rfl

/-- A condition that outlasts the debounce had lasted for all of it on the tick before, so that tick
asked for a cordon or more. -/
theorem Counted.overdue (h : Counted t e past) (positive : 0 < t.debounce) (bad : c ≠ .healthy)
    (outlasts : t.debounce.toNat < (e.observe c).consecutive.toNat) :
    e.lastAction.isCordonOrMore = true := by
  have positive : 0 < t.debounce.toNat := UInt32.lt_iff_toNat_lt.1 positive
  have same : c = e.condition := by
    by_contra other
    rw [observe_consecutive_of_ne other, UInt32.toNat_one] at outlasts
    omega
  rw [observe_consecutive_of_eq same] at outlasts
  rw [h.action, ← same]
  exact Condition.dueAction_isCordonOrMore bad (by omega)

/-- Where the counter and the last action are those of the table, the next action is, too. -/
theorem Counted.decide (h : Counted t e past) (positive : 0 < t.debounce) :
    (e.observe c).decide = c.dueAction (e.observe c).consecutive.toNat t.debounce.toNat := by
  have overdue := h.overdue (c := c) positive
  unfold Evaluator.decide Condition.dueAction
  simp only [observe_condition, observe_thresholds, observe_lastAction, h.thresholds, gt_iff_lt,
    ge_iff_le, UInt32.lt_iff_toNat_lt, UInt32.le_iff_toNat_le]
  generalize (e.observe c).consecutive.toNat = n at overdue ⊢
  generalize t.debounce.toNat = d at overdue ⊢
  cases c with
  | healthy => rfl
  | lowMemory => rfl
  | noDevices =>
    by_cases outlasts : d < n
    · simp [outlasts, overdue (by decide) outlasts]
    · simp [outlasts]
  | exhausted | sampleFailure =>
    by_cases outlasts : d < n
    · simp [outlasts, overdue (by decide) outlasts]
    · have reached : d ≤ n ↔ n = d := by omega
      simp [outlasts, reached]

theorem Counted.escalate_action (h : Counted t e past) (positive : 0 < t.debounce) :
    (e.escalate c score).1.action =
      c.dueAction (min (c.lasting (past ++ [c])) 0xffffffff) t.debounce.toNat := by
  rw [← h.observe]
  exact h.decide positive

theorem Counted.escalate (h : Counted t e past) (positive : 0 < t.debounce) :
    Counted t (e.escalate c score).2 (past ++ [c]) where
  thresholds := by rw [escalate_thresholds, h.thresholds]
  consecutive := by
    rw [escalate_condition]
    exact h.observe
  condition := by simp
  action := by
    rw [escalate_condition]
    exact h.decide positive

end Evaluator

end NodeWarden
