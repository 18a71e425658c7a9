import Mathlib.Data.Nat.Find

/-!
# Histories

A system that takes one input after the other, and leaves a record of some of them, has a history:
the list of its records. The laws of this program are laws of such histories, of the kind that
nothing bad is recorded until something good is. They are proved with a bar: a condition on the
state under which nothing bad can be recorded, and which only something good can end
(`Bar.good_before_bad`, `Bar.good_between`, `Bar.last_good`). What holds of every record comes from
what the state has to do with the records so far (`records_invariant`, `exists_related`).
-/

namespace NodeWarden.History

variable {S I A : Type} (step : S → I → S × Option A)

/-- The state in which a system is after some inputs. -/
def final : S → List I → S
  | s, [] => s
  | s, i :: rest => final (step s i).1 rest

/-- The records that a system leaves of some inputs, the first one first. -/
def records : S → List I → List A
  | _, [] => []
  | s, i :: rest => (step s i).2.toList ++ records (step s i).1 rest

variable {step} {s : S} {inputs : List I}

theorem records_cons_of_some {i : I} {a : A} (h : (step s i).2 = some a) :
    records step s (i :: inputs) = a :: records step (step s i).1 inputs := by
  simp [records, h]

theorem records_cons_of_none {i : I} (h : (step s i).2 = none) :
    records step s (i :: inputs) = records step (step s i).1 inputs := by
  simp [records, h]

theorem final_append (earlier later : List I) :
    final step s (earlier ++ later) = final step (final step s earlier) later := by
  induction earlier generalizing s with
  | nil => rfl
  | cons i rest ih => exact ih

theorem records_append (earlier later : List I) :
    records step s (earlier ++ later) =
      records step s earlier ++ records step (final step s earlier) later := by
  induction earlier generalizing s with
  | nil => rfl
  | cons i rest ih => simp [records, final, ih]

/-- Before a record there are others. -/
theorem exists_getElem?_of_le {past : List A} {k t : Nat} {b : A} (h : past[t]? = some b)
    (hk : k ≤ t) :
    ∃ a, past[k]? = some a :=
  have inside := (List.getElem?_eq_some_iff.1 h).1
  ⟨_, List.getElem?_eq_getElem (Nat.lt_of_le_of_lt hk inside)⟩

/-- A record among the first ones has its position among them. -/
theorem mem_take_iff {past : List A} {t : Nat} {a : A} :
    a ∈ past.take t ↔ ∃ j < t, past[j]? = some a := by
  simp [List.mem_iff_getElem?, List.getElem?_take]

/-- Every record is of one input: there are inputs before it, which left the records before it, and
inputs after it. -/
theorem exists_input {k : Nat} {a : A} (h : (records step s inputs)[k]? = some a) :
    ∃ before i after, inputs = before ++ i :: after ∧ (records step s before).length = k ∧
      (step (final step s before) i).2 = some a := by
  induction inputs generalizing s k with
  | nil => simp [records] at h
  | cons i rest ih =>
    cases left : (step s i).2 with
    | none =>
      rw [records_cons_of_none left] at h
      obtain ⟨before, i', after, rfl, len, found⟩ := ih h
      exact ⟨i :: before, i', after, rfl, by rw [records_cons_of_none left, len], found⟩
    | some b =>
      rw [records_cons_of_some left] at h
      cases k with
      | zero =>
        cases h
        exact ⟨[], i, rest, rfl, rfl, left⟩
      | succ k =>
        obtain ⟨before, i', after, rfl, len, found⟩ := ih h
        exact ⟨i :: before, i', after, rfl,
          by rw [records_cons_of_some left, List.length_cons, len], found⟩

/-- The records after one of them are those of the inputs that follow. -/
theorem getElem?_after {before after : List I} {i : I} {a : A} {k : Nat}
    (h : (step (final step s before) i).2 = some a) (hk : (records step s before).length < k) :
    (records step s (before ++ i :: after))[k]? =
      (records step (step (final step s before) i).1 after)[
        k - (records step s before).length - 1]? := by
  obtain ⟨m, rfl⟩ : ∃ m, k = (records step s before).length + (m + 1) :=
    ⟨k - (records step s before).length - 1, by omega⟩
  rw [records_append, records_cons_of_some h, List.getElem?_append_right (by omega)]
  simp

/-- A system that another one follows in part has the part of its records. -/
theorem records_map {S' A' : Type} {step' : S' → I → S' × Option A'} (part : S' → S) (view : A' → A)
    (follows : ∀ s i, step (part s) i = (part (step' s i).1, (step' s i).2.map view)) (s : S')
    (inputs : List I) : (records step' s inputs).map view = records step (part s) inputs := by
  induction inputs generalizing s with
  | nil => rfl
  | cons i rest ih =>
    rw [records, records, follows, List.map_append, ih]
    cases (step' s i).2 <;> rfl

/-- A system that takes each input as another one takes its translation comes to the same
state, with the same records. -/
theorem eq_of_translated {J : Type} {step' : S → J → S × Option A} (translate : I → J)
    (follows : ∀ s i, step s i = step' s (translate i)) (s : S) (inputs : List I) :
    final step s inputs = final step' s (inputs.map translate) ∧
      records step s inputs = records step' s (inputs.map translate) := by
  induction inputs generalizing s with
  | nil => exact ⟨rfl, rfl⟩
  | cons i rest ih =>
    rw [List.map_cons, final, final, records, records, follows]
    exact ⟨(ih _).1, congrArg _ (ih _).2⟩

/-! ## Conditions on the inputs -/

/-- Every input meets a condition, in the state in which it comes. -/
def Throughout (step : S → I → S × Option A) (P : S → I → Prop) : S → List I → Prop
  | _, [] => True
  | s, i :: rest => P s i ∧ Throughout step P (step s i).1 rest

instance Throughout.decidable {P : S → I → Prop} [∀ s i, Decidable (P s i)] :
    (s : S) → (inputs : List I) → Decidable (Throughout step P s inputs)
  | _, [] => .isTrue trivial
  | s, i :: rest =>
    have : Decidable (Throughout step P (step s i).1 rest) := Throughout.decidable _ rest
    inferInstanceAs (Decidable (P s i ∧ Throughout step P (step s i).1 rest))

theorem throughout_append {P : S → I → Prop} {earlier later : List I} :
    Throughout step P s (earlier ++ later) ↔
      Throughout step P s earlier ∧ Throughout step P (final step s earlier) later := by
  induction earlier generalizing s with
  | nil => simp [Throughout, final]
  | cons i rest ih => simp [Throughout, final, ih, and_assoc]

/-- What every input keeps that meets the condition is true at the end. -/
theorem Throughout.invariant {P : S → I → Prop} {R : S → Prop} (h : Throughout step P s inputs)
    (start : R s) (kept : ∀ s i, R s → P s i → R (step s i).1) : R (final step s inputs) := by
  induction inputs generalizing s with
  | nil => exact start
  | cons i rest ih => exact ih h.2 (kept s i start h.1)

/-- So every record is left by an input that meets the condition, in a state of which that
is true. -/
theorem Throughout.exists_input {P : S → I → Prop} {R : S → Prop} (h : Throughout step P s inputs)
    (start : R s) (kept : ∀ s i, R s → P s i → R (step s i).1) {k : Nat} {a : A}
    (found : (records step s inputs)[k]? = some a) :
    ∃ s' i, R s' ∧ P s' i ∧ (step s' i).2 = some a := by
  obtain ⟨before, i, after, rfl, -, left⟩ := History.exists_input found
  obtain ⟨earlier, now, -⟩ := throughout_append.1 h
  exact ⟨final step s before, i, earlier.invariant start kept, now, left⟩

/-! ## What a state remembers -/

/-- A relation between a state and the records that led to it, which every step keeps. -/
theorem records_invariant {R : S → List A → Prop} (start : R s [])
    (silent : ∀ s i past, R s past → (step s i).2 = none → R (step s i).1 past)
    (recorded : ∀ s i past a, R s past → (step s i).2 = some a → R (step s i).1 (past ++ [a])) :
    R (final step s inputs) (records step s inputs) := by
  -- the records of the whole are those before `s`, followed by those since
  suffices since : ∀ (inputs : List I) (s : S) (past : List A), R s past →
      R (final step s inputs) (past ++ records step s inputs) by
    simpa using since inputs s [] start
  intro inputs
  induction inputs with
  | nil =>
    intro s past h
    simpa [final, records] using h
  | cons i rest ih =>
    intro s past h
    cases left : (step s i).2 with
    | none =>
      rw [records_cons_of_none left]
      exact ih _ _ (silent s i past h left)
    | some a =>
      have next := ih _ _ (recorded s i past a h left)
      rw [records_cons_of_some left]
      simpa [final] using next

/-- So every record is left in a state that is related to the records before it. -/
theorem exists_related {R : S → List A → Prop} (start : R s [])
    (silent : ∀ s i past, R s past → (step s i).2 = none → R (step s i).1 past)
    (recorded : ∀ s i past a, R s past → (step s i).2 = some a → R (step s i).1 (past ++ [a]))
    {t : Nat} {b : A} (h : (records step s inputs)[t]? = some b) :
    ∃ s' i, R s' ((records step s inputs).take t) ∧ (step s' i).2 = some b := by
  obtain ⟨before, i, after, rfl, rfl, found⟩ := exists_input h
  refine ⟨final step s before, i, ?_, found⟩
  rw [records_append, List.take_left']
  · exact records_invariant start silent recorded
  · rfl

/-- And the state in which it leaves the system is related to the records up to it. -/
theorem exists_related_after {R : S → List A → Prop} (start : R s [])
    (silent : ∀ s i past, R s past → (step s i).2 = none → R (step s i).1 past)
    (recorded : ∀ s i past a, R s past → (step s i).2 = some a → R (step s i).1 (past ++ [a]))
    {t : Nat} {b : A} (h : (records step s inputs)[t]? = some b) :
    ∃ s' i, (step s' i).2 = some b ∧ R (step s' i).1 ((records step s inputs).take (t + 1)) := by
  obtain ⟨s', i, related, left⟩ := exists_related start silent recorded h
  refine ⟨s', i, left, ?_⟩
  rw [List.take_add_one, h]
  exact recorded s' i _ b related left

/-! ## Bars -/

/-- A condition on the state under which nothing bad is recorded, and which lasts until something
good is. -/
structure Bar (step : S → I → S × Option A) (P : S → Prop) (bad good : A → Prop) : Prop where
  silent {s : S} {i : I} : P s → (step s i).2 = none → P (step s i).1
  safe {s : S} {i : I} {a : A} : P s → (step s i).2 = some a → ¬ bad a
  kept {s : S} {i : I} {a : A} : P s → (step s i).2 = some a → P (step s i).1 ∨ good a

variable {P : S → Prop} {bad good : A → Prop}

/-- If the bar is up at the start, then something good comes before anything bad. -/
theorem Bar.good_before_bad (bar : Bar step P bad good) (hs : P s) {t : Nat} {b : A}
    (ht : (records step s inputs)[t]? = some b) (hb : bad b) :
    ∃ j a, j < t ∧ (records step s inputs)[j]? = some a ∧ good a := by
  induction inputs generalizing s t with
  | nil => simp [records] at ht
  | cons i rest ih =>
    cases left : (step s i).2 with
    | none =>
      rw [records_cons_of_none left] at ht ⊢
      exact ih (bar.silent hs left) ht
    | some a =>
      rw [records_cons_of_some left] at ht ⊢
      cases t with
      | zero =>
        cases ht
        exact absurd hb (bar.safe hs left)
      | succ t =>
        rcases bar.kept hs left with hs' | ha
        · obtain ⟨j, a', hj, found, ha'⟩ := ih hs' ht
          exact ⟨j + 1, a', by omega, found, ha'⟩
        · exact ⟨0, a, by omega, rfl, ha⟩

/-- If the bar goes up with a record, then something good comes between it and anything bad. -/
theorem Bar.good_between (bar : Bar step P bad good) {i t : Nat} {a b : A}
    (hi : (records step s inputs)[i]? = some a)
    (raised : ∀ s input, (step s input).2 = some a → P (step s input).1)
    (ht : (records step s inputs)[t]? = some b) (hit : i < t) (hb : bad b) :
    ∃ j c, i < j ∧ j < t ∧ (records step s inputs)[j]? = some c ∧ good c := by
  obtain ⟨before, input, after, rfl, rfl, found⟩ := exists_input hi
  rw [getElem?_after found hit] at ht
  obtain ⟨j, c, hj, hc, good⟩ := bar.good_before_bad (raised _ _ found) ht hb
  refine ⟨(records step s before).length + (j + 1), c, by omega, by omega, ?_, good⟩
  have back :
      (records step s before).length + (j + 1) - (records step s before).length - 1 = j := by
    omega
  rwa [getElem?_after found (by omega), back]

/-- Of the positions before a given one at which something holds, one is the last. -/
theorem exists_last {p : Nat → Prop} {t : Nat} (h : ∃ j < t, p j) :
    ∃ j < t, p j ∧ ∀ k, j < k → k < t → ¬ p k := by
  classical
  obtain ⟨j, hj, hp⟩ := h
  have bound := Nat.findGreatest_le (P := p) (t - 1)
  refine ⟨Nat.findGreatest p (t - 1), by omega, Nat.findGreatest_spec (by omega : j ≤ t - 1) hp, ?_⟩
  intro k after before
  exact Nat.findGreatest_is_greatest after (by omega)

/-- The last good record before a bad one. After it nothing is recorded that raises the bar. -/
theorem Bar.last_good (bar : Bar step P bad good) (hs : P s) (raises : A → Prop)
    (raised : ∀ s i a, (step s i).2 = some a → raises a → P (step s i).1 ∨ good a) {t : Nat} {b : A}
    (ht : (records step s inputs)[t]? = some b) (hb : bad b) :
    ∃ j a, j < t ∧ (records step s inputs)[j]? = some a ∧ good a ∧
      ∀ k d, j < k → k < t → (records step s inputs)[k]? = some d → ¬ good d ∧ ¬ raises d := by
  obtain ⟨j₀, a₀, before, hj₀, ha₀⟩ := bar.good_before_bad hs ht hb
  obtain ⟨j, before, ⟨a, hj, ha⟩, last⟩ := exists_last
    (p := fun j => ∃ a, (records step s inputs)[j]? = some a ∧ good a) ⟨j₀, before, a₀, hj₀, ha₀⟩
  refine ⟨j, a, before, hj, ha, fun k d hjk hkt hk => ?_⟩
  have notGood : ¬ good d := fun hd => last k hjk hkt ⟨d, hk, hd⟩
  refine ⟨notGood, fun hd => ?_⟩
  have up (s' : S) (i : I) (made : (step s' i).2 = some d) : P (step s' i).1 :=
    (raised s' i d made hd).resolve_right notGood
  -- then something good comes after the last that is good
  obtain ⟨m, a', hkm, hmt, hm, ha'⟩ := bar.good_between hk up ht hkt hb
  exact last m (by omega) hmt ⟨a', hm, ha'⟩

end NodeWarden.History
