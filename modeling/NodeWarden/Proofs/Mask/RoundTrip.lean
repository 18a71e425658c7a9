import NodeWarden.Proofs.Mask.Grammar

/-!
# Masks and their texts

The text of a mask that was read reads as the mask again. For a list this rests on what
lists are read: they have entries, each of them once (`IsMaskList`), and so their texts hold
no blank, spell no keyword, and are cut into the entries again.
-/

namespace NodeWarden.VisibleDevices

/-! ## The lists that are read -/

/-- A list of entries as masks have them. -/
structure IsMaskList (entries : List String) : Prop where
  nonempty : entries ≠ []
  distinct : entries.Nodup
  valid : ∀ e ∈ entries, IsEntry e

variable {s : String} {entries : List String}

theorem Reads.isMaskList (h : Reads s (.ok (.list entries))) : IsMaskList entries := by
  cases h with
  | @list written listed valid =>
    exact ⟨listed.eraseDups_ne_nil, nodup_eraseDups written,
      fun e he => valid e (List.mem_eraseDups.1 he)⟩

namespace IsMaskList

theorem splitOn_text (h : IsMaskList entries) :
    (list entries).text.toList.splitOn ',' = entries.map String.toList := by
  rw [Text.splitOn_eq_iff]
  refine ⟨by simpa using h.nonempty, ?_, ?_⟩
  · simpa using fun e he => (h.valid e he).comma_not_mem
  · exact (String.toList_intercalate (s := ",")).symm

/-- No character of the text is a blank. -/
theorem bare (h : IsMaskList entries) :
    ∀ c ∈ (list entries).text.toList, Text.isBlank c = false := by
  intro c hc
  by_cases comma : c = ','
  · rw [comma]
    decide
  · obtain ⟨piece, cut, inside⟩ := Text.exists_mem_splitOn_iff.2 ⟨hc, comma⟩
    rw [h.splitOn_text] at cut
    obtain ⟨e, he, rfl⟩ := List.mem_map.1 cut
    exact (h.valid e he).bare c inside

/-- The text lists the entries. -/
theorem lists_text (h : IsMaskList entries) : Lists (list entries).text entries := by
  refine ⟨(list entries).text, entries, isTrim_self h.bare, h.nonempty,
    fun e he => (h.valid e he).comma_not_mem, rfl, ?_⟩
  rw [List.forall₂_same]
  exact fun e he => isTrim_self (h.valid e he).bare

theorem parse_text (h : IsMaskList entries) : parse (list entries).text = .ok (.list entries) := by
  have read := (Reads.list h.lists_text h.valid).parse_eq
  rwa [eraseDups_of_nodup h.distinct] at read

end IsMaskList

/-! ## Reading what was written -/

/-- What there is to say of reading the text of a mask. -/
structure ReadsBack (m : VisibleDevices) : Prop where
  again : parse m.text = .ok m
  /-- The text of a list has nothing to trim and spells no keyword. -/
  plain (entries : List String) : m = .list entries →
    IsTrim m.text m.text ∧ ¬ SaysAll m.text ∧ ¬ SaysNone m.text
  /-- It lists the entries of the list and nothing else, and each of them is there once. -/
  whole (entries : List String) : m = .list entries →
    entries.Nodup ∧ ∀ written, Lists m.text written ↔ written = entries

/-- The text of a mask that was read reads as the mask. -/
theorem reads_back {m : VisibleDevices} (h : parse s = .ok m) : ReadsBack m := by
  cases m with
  | all => exact ⟨by decide +kernel, nofun, nofun⟩
  | none => exact ⟨by decide +kernel, nofun, nofun⟩
  | list entries =>
    have mask := (reads_iff.2 h).isMaskList
    refine ⟨mask.parse_text, ?_, ?_⟩
    · rintro _ ⟨⟩
      have trimmed := isTrim_self mask.bare
      exact ⟨trimmed, not_or.1 (mask.lists_text.not_keyword mask.valid trimmed)⟩
    · rintro _ ⟨⟩
      refine ⟨mask.distinct, fun written => ?_⟩
      rw [lists_iff, ← lists_iff.1 mask.lists_text]

/-- Entries of both kinds, blanks around them and one listed twice. -/
theorem reads_back_repeated :
    parse " 0, 2,GPU-1a2b-3c,0\n" = .ok (.list ["0", "2", "GPU-1a2b-3c"]) ∧
      ReadsBack (.list ["0", "2", "GPU-1a2b-3c"]) :=
  have read : parse " 0, 2,GPU-1a2b-3c,0\n" = .ok (.list ["0", "2", "GPU-1a2b-3c"]) := by
    decide +kernel
  ⟨read, reads_back read⟩

end NodeWarden.VisibleDevices
