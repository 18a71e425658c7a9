import Mathlib.Data.List.TakeWhile
import NodeWarden.Text.Blank

/-!
# Texts without the blanks around them

What a text is without the blanks at its two ends, said of the two texts (`IsTrim`): there
is exactly one such text, and trimming finds it (`isTrim_iff`).
-/

namespace NodeWarden

/-- A text without the blanks around it. -/
structure IsTrim (text trimmed : String) : Prop where
  inside : ∃ before after, text.toList = before ++ trimmed.toList ++ after ∧
    (∀ c ∈ before, Text.isBlank c = true) ∧ ∀ c ∈ after, Text.isBlank c = true
  first : ∀ c ∈ trimmed.toList.head?, Text.isBlank c = false
  last : ∀ c ∈ trimmed.toList.getLast?, Text.isBlank c = false

theorem trim_isTrim (t : String) : IsTrim t (Text.trim t) where
  inside := by
    refine ⟨t.toList.takeWhile Text.isBlank,
      ((Text.trimStart t.toList).reverse.takeWhile Text.isBlank).reverse, ?_,
      fun c hc => List.mem_takeWhile_imp hc,
      fun c hc => List.mem_takeWhile_imp (List.mem_reverse.mp hc)⟩
    have back : Text.trimChars t.toList ++
        ((Text.trimStart t.toList).reverse.takeWhile Text.isBlank).reverse =
        Text.trimStart t.toList := by
      rw [Text.trimChars, Text.trimEnd, ← List.reverse_append, List.takeWhile_append_dropWhile,
        List.reverse_reverse]
    rw [Text.trim_toList, List.append_assoc, back, Text.trimStart, List.takeWhile_append_dropWhile]
  first := by
    intro c hc
    rw [Text.trim_toList] at hc
    -- The first character that is left at the back is the first that was left at the front.
    have front : Text.trimChars t.toList <+: Text.trimStart t.toList := by
      rw [← List.reverse_suffix, Text.trimChars, Text.trimEnd, List.reverse_reverse]
      exact List.dropWhile_suffix _
    have head : (Text.trimStart t.toList).head? = some c := by
      obtain ⟨rest, whole⟩ := front
      rw [← whole, List.head?_append, hc, Option.some_or]
    have bare := List.head?_dropWhile_not Text.isBlank t.toList
    rw [← Text.trimStart, head] at bare
    exact bare
  last := by
    intro c hc
    rw [Text.trim_toList, Text.trimChars, Text.trimEnd, List.getLast?_reverse] at hc
    have bare := List.head?_dropWhile_not Text.isBlank (Text.trimStart t.toList).reverse
    rw [hc] at bare
    exact bare

/-- What is left without the blanks is what trimming leaves. -/
theorem IsTrim.eq_trim {t name : String} (h : IsTrim t name) : name = Text.trim t := by
  obtain ⟨before, after, whole, blankBefore, blankAfter⟩ := h.inside
  by_cases empty : name = ""
  · -- nothing is left of a text of blanks alone
    have blank : ∀ c ∈ t.toList, Text.isBlank c = true := by
      rw [whole, empty]
      simpa using fun c hc => hc.elim (blankBefore c) (blankAfter c)
    have front : Text.trimStart t.toList = [] := List.dropWhile_eq_nil_iff.mpr blank
    rw [empty, ← String.toList_inj, Text.trim_toList, Text.trimChars, front]
    rfl
  have nonempty : name.toList ≠ [] := fun none => empty (String.toList_eq_nil_iff.mp none)
  have front : Text.trimStart t.toList = name.toList ++ after := by
    rw [whole, List.append_assoc, Text.trimStart, List.dropWhile_append_of_pos blankBefore]
    obtain ⟨c, cs, hc⟩ := List.exists_cons_of_ne_nil nonempty
    have bare := h.first c (by rw [hc]; rfl)
    rw [hc, List.cons_append, List.dropWhile_cons_of_neg (by simp [bare])]
  rw [← String.toList_inj, Text.trim_toList, Text.trimChars, front, Text.trimEnd,
    List.reverse_append, List.dropWhile_append_of_pos
    fun c hc => blankAfter c (List.mem_reverse.mp hc)]
  obtain ⟨c, cs, hc⟩ := List.exists_cons_of_ne_nil (List.reverse_ne_nil_iff.mpr nonempty)
  have bare := h.last c (by rw [← List.head?_reverse, hc]; rfl)
  rw [hc, List.dropWhile_cons_of_neg (by simp [bare]), ← hc, List.reverse_reverse]

theorem IsTrim.mem {t name : String} (h : IsTrim t name) {c : Char} (hc : c ∈ name.toList) :
    c ∈ t.toList := by
  obtain ⟨before, after, whole, -, -⟩ := h.inside
  rw [whole]
  exact List.mem_append_left after (List.mem_append_right before hc)

theorem isTrim_iff {t name : String} : IsTrim t name ↔ name = Text.trim t :=
  ⟨IsTrim.eq_trim, fun h => h ▸ trim_isTrim t⟩

/-- A text that has no blank at either end is its own trim. -/
theorem isTrim_self {t : String} (bare : ∀ c ∈ t.toList, Text.isBlank c = false) : IsTrim t t where
  inside := ⟨[], [], by simp, nofun, nofun⟩
  first c hc := bare c (List.mem_of_mem_head? hc)
  last c hc := bare c (List.mem_of_mem_getLast? hc)

end NodeWarden
