import Mathlib.Data.List.Forall2
import Mathlib.Data.List.Induction

/-!
# Lists

The first element of a list with a property, with what comes before it: a list that has no
first one is free of them (`exists_firstIn`). Lists that are matched element by element
(`exists_match`). What is left of a list without its repetitions, from the front to the back
(`eraseDups_concat`).
-/

namespace NodeWarden

section First

variable {α : Type} {l : List α}

/-- An element of a list is the first with a property, and others come before it. -/
structure FirstIn (P : α → Prop) (l before : List α) (a : α) : Prop where
  split : ∃ after, l = before ++ a :: after
  clear : ∀ x ∈ before, ¬ P x
  found : P a

theorem FirstIn.cons {P : α → Prop} {before : List α} {a x : α} (h : FirstIn P l before a)
    (clear : ¬ P x) :
    FirstIn P (x :: l) (x :: before) a where
  split := by
    obtain ⟨after, rfl⟩ := h.split
    exact ⟨after, rfl⟩
  clear := List.forall_mem_cons.2 ⟨clear, h.clear⟩
  found := h.found

/-- The elements of a list are free of a property, or one of them is the first that has it. -/
theorem exists_firstIn (P : α → Prop) (l : List α) :
    (∀ x ∈ l, ¬ P x) ∨ ∃ before a, FirstIn P l before a := by
  induction l with
  | nil => exact .inl nofun
  | cons x l ih =>
    by_cases hx : P x
    · exact .inr ⟨[], x, ⟨l, rfl⟩, nofun, hx⟩
    rcases ih with clear | ⟨before, a, first⟩
    · exact .inl (List.forall_mem_cons.2 ⟨hx, clear⟩)
    · exact .inr ⟨x :: before, a, first.cons hx⟩

end First

/-- What is matched with a list has a match for every element. -/
theorem exists_match {α β : Type} {R : α → β → Prop} {l : List α} {m : List β}
    (h : List.Forall₂ R l m) {a : α} (ha : a ∈ l) : ∃ b ∈ m, R a b := by
  induction h with
  | nil => cases ha
  | cons one _ ih =>
    rcases List.mem_cons.1 ha with rfl | ha
    · exact ⟨_, List.mem_cons_self, one⟩
    · obtain ⟨b, hb, matched⟩ := ih ha
      exact ⟨b, List.mem_cons_of_mem _ hb, matched⟩

/-! ## Repetitions -/

section

variable {α : Type} [BEq α] [LawfulBEq α]

/-- What a list is without repetitions grows by what it does not have. -/
theorem eraseDups_concat (l : List α) (a : α) :
    (l ++ [a]).eraseDups = if l.eraseDups.contains a then l.eraseDups else l.eraseDups ++ [a] := by
  rw [List.eraseDups_append]
  by_cases listed : a ∈ l
  · simp [List.removeAll, listed]
  · simp [List.removeAll, listed, List.eraseDups_cons]

theorem nodup_eraseDups (l : List α) : l.eraseDups.Nodup := by
  induction l using List.reverseRecOn with
  | nil => exact List.nodup_nil
  | append_singleton l a ih =>
    rw [eraseDups_concat]
    split
    · exact ih
    · rename_i new
      rw [List.nodup_append]
      refine ⟨ih, by simp, fun x hx y hy same => new ?_⟩
      rw [List.contains_iff_mem, ← List.mem_singleton.1 hy, ← same]
      exact hx

theorem eraseDups_of_nodup {l : List α} (h : l.Nodup) : l.eraseDups = l := by
  induction l using List.reverseRecOn with
  | nil => rfl
  | append_singleton l a ih =>
    obtain ⟨distinct, -, apart⟩ := List.nodup_append.1 h
    rw [eraseDups_concat, ih distinct, if_neg]
    rw [List.contains_iff_mem]
    exact fun listed => apart a listed a (List.mem_singleton_self a) rfl

end

end NodeWarden
