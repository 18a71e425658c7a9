import Mathlib.Data.List.Basic

/-!
# Cutting a text and joining it again

The pieces of a text between separators are the one way to write it with the separator between every
two of them and in none of them (`splitOn_eq_iff`), and they hold what the text holds besides
(`exists_mem_splitOn_iff`).
-/

namespace NodeWarden.Text

variable {α : Type} [BEq α] [LawfulBEq α] {sep x : α} {xs : List α} {ps : List (List α)}

/-- The pieces hold all but the separators. -/
theorem exists_mem_splitOn_iff : (∃ p ∈ xs.splitOn sep, x ∈ p) ↔ x ∈ xs ∧ x ≠ sep := by
  induction xs with
  | nil => simp [List.splitOn_nil]
  | cons y ys ih =>
    rw [List.splitOn_cons_eq_if_modifyHead]
    by_cases split : y = sep
    · rw [if_pos (by simpa using split), List.exists_mem_cons_iff, ih, List.mem_cons, split]
      constructor
      · rintro (⟨⟨⟩⟩ | ⟨later, other⟩)
        exact ⟨.inr later, other⟩
      · rintro ⟨same | later, other⟩
        · exact absurd same other
        · exact .inr ⟨later, other⟩
    · obtain ⟨p, ps, cut⟩ := List.exists_cons_of_ne_nil (List.splitOn_ne_nil sep ys)
      rw [cut, List.exists_mem_cons_iff] at ih
      rw [if_neg (by simpa using split), cut, List.modifyHead_cons, List.exists_mem_cons_iff,
        List.mem_cons, or_assoc, ih, List.mem_cons]
      constructor
      · rintro (rfl | ⟨later, other⟩)
        · exact ⟨.inl rfl, split⟩
        · exact ⟨.inr later, other⟩
      · rintro ⟨rfl | later, other⟩
        · exact .inl rfl
        · exact .inr ⟨later, other⟩

theorem splitOn_eq_iff :
    xs.splitOn sep = ps ↔ ps ≠ [] ∧ (∀ p ∈ ps, sep ∉ p) ∧ [sep].intercalate ps = xs := by
  constructor
  · rintro rfl
    exact ⟨List.splitOn_ne_nil sep xs,
      fun p cut inside => (exists_mem_splitOn_iff.1 ⟨p, cut, inside⟩).2 rfl,
      List.intercalate_splitOn sep⟩
  · rintro ⟨some, free, rfl⟩
    exact List.splitOn_intercalate sep free some

end NodeWarden.Text
