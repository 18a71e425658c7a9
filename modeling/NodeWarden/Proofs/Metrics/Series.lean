import NodeWarden.Metrics.Series

/-!
# Series as tallies

The label values of a series stay in order, each combination at most once
(`Ordered.upsert`), so a change of the value for some leaves the values for all others alone
(`get?_upsert`). A series of counts that is bumped once for every entry of a list tells how
often each entry is in the list, and the sum of its counts how long the list is (`Tallies`).
-/

namespace NodeWarden.Series

variable {β : Type} {s : Series β} {key other : List String} {f : Option β → β}
  {e : List String × β}

/-- The label values are in order, and no combination comes twice. -/
def Ordered (s : Series β) : Prop := s.Pairwise fun e e' => e.1 < e'.1

theorem ordered_cons : Ordered (e :: s) ↔ (∀ e' ∈ s, e.1 < e'.1) ∧ Ordered s := List.pairwise_cons

/-- Label values of which neither come first are the same. -/
theorem key_eq_of_not_lt (h : ¬ key < other) (h' : ¬ other < key) : key = other :=
  List.le_antisymm (List.not_lt.1 h') (List.not_lt.1 h)

theorem mem_upsert (h : e ∈ s.upsert key f) : e.1 = key ∨ e ∈ s := by
  induction s with
  | nil => exact .inl (by rw [List.mem_singleton.1 h])
  | cons entry rest ih =>
    obtain ⟨k, v⟩ := entry
    unfold upsert at h
    split at h
    · rename_i same
      rcases List.mem_cons.1 h with rfl | h
      · exact .inl same.symm
      · exact .inr (List.mem_cons_of_mem _ h)
    split at h
    · rcases List.mem_cons.1 h with rfl | h
      · exact .inl rfl
      · exact .inr h
    · rcases List.mem_cons.1 h with rfl | h
      · exact .inr List.mem_cons_self
      · exact (ih h).imp_right (List.mem_cons_of_mem _)

theorem Ordered.upsert (h : s.Ordered) (key : List String) (f : Option β → β) :
    (s.upsert key f).Ordered := by
  induction s with
  | nil => exact List.pairwise_singleton ..
  | cons entry rest ih =>
    obtain ⟨k, v⟩ := entry
    obtain ⟨least, ordered⟩ := ordered_cons.1 h
    unfold Series.upsert
    split
    · exact ordered_cons.2 ⟨least, ordered⟩
    rename_i differ
    split
    · rename_i before
      refine ordered_cons.2 ⟨fun e he => ?_, h⟩
      rcases List.mem_cons.1 he with rfl | he
      · exact before
      · exact List.lt_trans before (least e he)
    · rename_i notBefore
      refine ordered_cons.2 ⟨fun e he => ?_, ih ordered⟩
      rcases mem_upsert he with rfl | he
      · by_cases after : k < e.1
        · exact after
        · exact absurd (key_eq_of_not_lt notBefore after) differ
      · exact least e he

/-- Label values before all those of the series have no value. -/
theorem get?_eq_none_of_lt (h : ∀ e ∈ s, key < e.1) : s.get? key = none := by
  induction s with
  | nil => rfl
  | cons entry rest ih =>
    obtain ⟨first, later⟩ := List.forall_mem_cons.1 h
    have differ : key ≠ entry.1 := fun same => List.lt_irrefl _ (same ▸ first)
    rw [get?, if_neg differ, ih later]

theorem get?_upsert (h : s.Ordered) (key other : List String) (f : Option β → β) :
    (s.upsert key f).get? other = if other = key then some (f (s.get? key)) else s.get? other := by
  induction s with
  | nil => rfl
  | cons entry rest ih =>
    obtain ⟨k, v⟩ := entry
    obtain ⟨least, ordered⟩ := ordered_cons.1 h
    unfold upsert
    split
    · rename_i same
      subst same
      by_cases asked : other = key <;> simp [get?, asked]
    rename_i differ
    split
    · rename_i before
      -- what comes before the first is not in the series
      have absent : get? key rest = none :=
        get?_eq_none_of_lt fun e he => List.lt_trans before (least e he)
      by_cases asked : other = key <;> simp [get?, asked, differ, absent]
    · by_cases asked : other = key
      · subst asked
        simp [get?, differ, ih ordered]
      · simp [get?, asked, ih ordered]

/-! ## Counts -/

/-- How often some label values were counted. -/
def count (key : List String) (s : Series Nat) : Nat := (s.get? key).getD 0

variable {counts : Series Nat} {keys : List (List String)}

theorem count_bump (h : counts.Ordered) (key other : List String) :
    (counts.bump key).count other = counts.count other + if other = key then 1 else 0 := by
  rw [count, bump, get?_upsert h]
  by_cases asked : other = key <;> simp [count, asked]

theorem total_bump (counts : Series Nat) (key : List String) :
    (counts.bump key).total = counts.total + 1 := by
  unfold bump total
  induction counts with
  | nil => rfl
  | cons entry rest ih =>
    unfold upsert
    split
    · simp only [List.foldr_cons, Option.getD_some]
      omega
    split
    · simp only [List.foldr_cons, Option.getD_none]
      omega
    · rw [List.foldr_cons, List.foldr_cons, ih]
      omega

/-- Counts every entry of a list. -/
def bumpAll (keys : List (List String)) (counts : Series Nat) : Series Nat :=
  keys.foldl (fun counts key => counts.bump key) counts

theorem bumpAll_append (counts : Series Nat) (earlier later : List (List String)) :
    counts.bumpAll (earlier ++ later) = (counts.bumpAll earlier).bumpAll later := by
  rw [bumpAll, List.foldl_append]
  rfl

/-- The counts tell how often each entry is in a list. -/
structure Tallies (counts : Series Nat) (keys : List (List String)) : Prop where
  ordered : counts.Ordered
  count : ∀ key, counts.count key = keys.count key
  total : counts.total = keys.length

namespace Tallies

theorem empty : Tallies [] [] := ⟨.nil, fun _ => rfl, rfl⟩

theorem bump (h : counts.Tallies keys) (key : List String) :
    (counts.bump key).Tallies (keys ++ [key]) where
  ordered := h.ordered.upsert key _
  count other := by
    rw [count_bump h.ordered, h.count, List.count_append]
    by_cases asked : other = key
    · simp [asked]
    · simp [asked, Ne.symm asked]
  total := by rw [total_bump, h.total, List.length_append, List.length_singleton]

theorem bumpAll (h : counts.Tallies keys) (more : List (List String)) :
    (counts.bumpAll more).Tallies (keys ++ more) := by
  induction more generalizing counts keys with
  | nil => rwa [List.append_nil]
  | cons key rest ih =>
    have counted := ih (h.bump key)
    rwa [List.append_assoc, List.singleton_append] at counted

end Tallies

end NodeWarden.Series
