import Mathlib.Tactic.Common
import NodeWarden.Executor.Config

/-!
# Domain names

A domain name is read from left to right in one pass, by a scanner that knows only where it
stands. What the scanner accepts can be said of the labels between the points, one by one
(`isDomainName_iff`). The scanner is compared with the labels that are left to read; in the
first of them it may already be inside.
-/

namespace NodeWarden

/-- A label of a domain name: lower-case ASCII letters, digits and hyphens, at least one,
with no hyphen at either end. -/
structure IsDomainLabel (label : List Char) : Prop where
  nonempty : label ≠ []
  chars : ∀ c ∈ label, DomainState.isLabelChar c = true ∨ c = '-'
  first : label.head? ≠ some '-'
  last : label.getLast? ≠ some '-'

theorem not_isDomainLabel_nil : ¬IsDomainLabel [] := fun h => h.nonempty rfl

namespace DomainState

/-- What is left of a label is one that may end where it does. -/
structure Closes (rest : List Char) : Prop where
  chars : ∀ c ∈ rest, isLabelChar c = true ∨ c = '-'
  last : rest.getLast? ≠ some '-'

/-- What the rest of the label, in which a scanner stands, has to be. -/
def Completes : DomainState → List Char → Prop
  | start, rest => IsDomainLabel rest
  | inside, rest => Closes rest
  | hyphen, rest => rest ≠ [] ∧ Closes rest
  | failed, _ => False

theorem ne_hyphen_of_isLabelChar {c : Char} (h : isLabelChar c = true) : c ≠ '-' := by
  rintro rfl
  exact absurd h (by decide)

theorem closes_nil : Closes [] := ⟨nofun, nofun⟩

theorem closes_cons {c : Char} {rest : List Char} :
    Closes (c :: rest) ↔
      isLabelChar c = true ∧ Closes rest ∨ c = '-' ∧ rest ≠ [] ∧ Closes rest := by
  rcases rest.eq_nil_or_concat with rfl | ⟨front, d, rfl⟩
  · constructor
    · intro h
      rcases h.chars c (by simp) with label | rfl
      · exact .inl ⟨label, closes_nil⟩
      · exact absurd rfl h.last
    · rintro (⟨label, -⟩ | ⟨-, some, -⟩)
      · exact ⟨by simpa using .inl label, by simpa using ne_hyphen_of_isLabelChar label⟩
      · exact absurd rfl some
  · have shorter : Closes (c :: (front ++ [d])) ↔
        (isLabelChar c = true ∨ c = '-') ∧ Closes (front ++ [d]) := by
      constructor
      · intro h
        have last := h.last
        rw [← List.cons_append, List.getLast?_concat] at last
        exact ⟨h.chars c (by simp), fun x hx => h.chars x (by simp [hx]),
          by rwa [List.getLast?_concat]⟩
      · rintro ⟨first, h⟩
        have last := h.last
        rw [List.getLast?_concat] at last
        exact ⟨List.forall_mem_cons.mpr ⟨first, h.chars⟩,
          by rwa [← List.cons_append, List.getLast?_concat]⟩
    rw [List.concat_eq_append, shorter]
    simp only [ne_eq, List.append_eq_nil_iff, List.cons_ne_self, and_false,
      not_false_eq_true, true_and]
    exact or_and_right

/-- A label is a letter or a digit, followed by what may end a label. -/
theorem isDomainLabel_cons {c : Char} {rest : List Char} :
    IsDomainLabel (c :: rest) ↔ isLabelChar c = true ∧ Closes rest := by
  constructor
  · intro h
    have first : c ≠ '-' := by simpa using h.first
    rcases closes_cons.mp ⟨h.chars, h.last⟩ with taken | ⟨hyphen, -⟩
    · exact taken
    · exact absurd hyphen first
  · rintro ⟨label, closes⟩
    have whole := closes_cons.mpr (.inl ⟨label, closes⟩)
    exact ⟨by simp, whole.chars, by simpa using ne_hyphen_of_isLabelChar label, whole.last⟩

/-- A character of the label: it is taken, and the rest has to do for the state after it. -/
theorem completes_cons {s : DomainState} {c : Char} {rest : List Char} (inner : c ≠ '.') :
    s.Completes (c :: rest) ↔ (s.step c).Completes rest := by
  have label_of_hyphen : isLabelChar '-' = false := by decide
  cases s with
  | start =>
    by_cases label : isLabelChar c = true <;> simp [Completes, step, isDomainLabel_cons, label]
  | inside =>
    by_cases label : isLabelChar c = true
    · simp [Completes, step, closes_cons, label, ne_hyphen_of_isLabelChar label]
    · by_cases hyphen : c = '-' <;>
        simp [Completes, step, closes_cons, label, hyphen, inner, label_of_hyphen]
  | hyphen =>
    by_cases label : isLabelChar c = true
    · simp [Completes, step, closes_cons, label, ne_hyphen_of_isLabelChar label]
    · by_cases hyphen : c = '-' <;>
        simp [Completes, step, closes_cons, label, hyphen, label_of_hyphen]
  | failed => rfl

/-- A label may end where the scanner is inside. -/
theorem completes_nil {s : DomainState} : s.Completes [] ↔ s = inside := by
  cases s with
  | start => simp [Completes, not_isDomainLabel_nil]
  | inside => simp [Completes, closes_nil]
  | hyphen => simp [Completes]
  | failed => simp [Completes]

/-- Only after the end of a label does a point start another one. -/
theorem step_point (s : DomainState) : s.step '.' = if s = inside then start else failed := by
  cases s <;> decide

theorem foldl_failed (cs : List Char) : cs.foldl step failed = failed := by
  induction cs with
  | nil => rfl
  | cons c cs ih => exact ih

/-- The scanner accepts if the label in which it stands is completed and all later ones are
labels. -/
theorem scan_iff (cs : List Char) (s : DomainState) :
    cs.foldl step s = inside ↔
      ∃ label labels, cs.splitOn '.' = label :: labels ∧ s.Completes label ∧
      ∀ l ∈ labels, IsDomainLabel l := by
  induction cs generalizing s with
  | nil => simp [List.splitOn_nil, completes_nil]
  | cons c cs ih =>
    obtain ⟨label, labels, cut⟩ := List.exists_cons_of_ne_nil (List.splitOn_ne_nil '.' cs)
    rw [List.foldl_cons, List.splitOn_cons_eq_if_modifyHead]
    by_cases point : c = '.'
    · subst point
      rw [step_point]
      by_cases ended : s = inside
      · simp [ended, ih, cut, Completes, closes_nil]
      · simp [ended, foldl_failed, completes_nil]
    · simp [ih, point, cut, completes_cons point]

end DomainState

/-- A domain name is made of labels between points. -/
theorem isDomainName_iff {cs : List Char} :
    isDomainName cs = true ↔ ∀ l ∈ cs.splitOn '.', IsDomainLabel l := by
  obtain ⟨label, labels, cut⟩ := List.exists_cons_of_ne_nil (List.splitOn_ne_nil '.' cs)
  simp [isDomainName, DomainState.scan_iff, cut, DomainState.Completes]

/-- The settings of an executor are valid exactly if the labels are published under a domain
name of at most 253 bytes. -/
theorem ExecutorConfig.validate_ok_iff {c : ExecutorConfig} :
    c.validate = .ok () ↔
      c.labelDomain.utf8ByteSize ≤ 253 ∧
      ∀ l ∈ c.labelDomain.toList.splitOn '.', IsDomainLabel l := by
  rw [← isDomainName_iff, validate]
  split
  · rename_i refused
    simp only [reduceCtorEq, false_iff, not_and, Bool.not_eq_true]
    rcases refused with long | other
    · intro short
      omega
    · exact fun _ => other
  · rename_i fine
    simpa using fine

end NodeWarden
