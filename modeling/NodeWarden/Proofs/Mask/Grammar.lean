import NodeWarden.Mask.Parser
import NodeWarden.Proofs.Lists
import NodeWarden.Proofs.Text.Character
import NodeWarden.Proofs.Text.Pieces
import NodeWarden.Proofs.Text.Trim

/-!
# The grammar of masks

What a text says as a mask, told without reading it from left to right. It spells a keyword
(`SaysAll`, `SaysNone`), or it lists texts between commas (`Lists`), each of which should be
an entry: an index or a unique id (`IsEntry`). The mask of a list has its entries once each,
in the order in which they come first; a refusal is about the first text on the list that is
no entry (`reading_laws`).
-/

namespace NodeWarden

/-! ## Keywords -/

/-- A text spells a word of small letters: each letter stands as it is or as its capital. -/
def Spells (word text : String) : Prop :=
  List.Forall₂ (fun l c => c = l ∨ c = l.toUpper) word.toList text.toList

/-- Folding the letters of a text tells whether it spells a word. -/
theorem asciiLower_eq_iff {word : List Char} (small : ∀ l ∈ word, l.isLower = true)
    (cs : List Char) :
    Text.asciiLower cs = word ↔ List.Forall₂ (fun l c => c = l ∨ c = l.toUpper) word cs := by
  induction word generalizing cs with
  | nil => simp [Text.asciiLower]
  | cons l word ih =>
    obtain ⟨first, small⟩ := List.forall_mem_cons.1 small
    cases cs with
    | nil => simp [Text.asciiLower]
    | cons c cs =>
      rw [List.forall₂_cons, ← ih small, ← Text.toLower_eq_iff first, ← List.cons.injEq]; rfl

theorem Spells.isAlpha {word text : String} (h : Spells word text)
    (small : ∀ l ∈ word.toList, l.isLower = true) :
    ∀ c ∈ text.toList, c.isAlpha = true := by
  have folded := (asciiLower_eq_iff small text.toList).2 h
  intro c hc
  exact Text.isAlpha_of_toLower (small _ (folded ▸ List.mem_map_of_mem hc))

namespace VisibleDevices

/-- A text stands for all devices. -/
def SaysAll (t : String) : Prop := Spells "all" t

/-- A text stands for no device. -/
def SaysNone (t : String) : Prop := t = "" ∨ Spells "void" t ∨ Spells "none" t

theorem saysAll_iff {t : String} : SaysAll t ↔ Text.asciiLower t.toList = ['a', 'l', 'l'] :=
  (asciiLower_eq_iff (by simp) t.toList).symm

theorem saysNone_iff {t : String} : SaysNone t ↔ Text.asciiLower t.toList = [] ∨
    Text.asciiLower t.toList = ['v', 'o', 'i', 'd'] ∨
    Text.asciiLower t.toList = ['n', 'o', 'n', 'e'] := by
  have empty : t = "" ↔ Text.asciiLower t.toList = [] := by simp [Text.asciiLower]
  rw [SaysNone, empty, Spells, Spells, ← asciiLower_eq_iff (by simp), ← asciiLower_eq_iff (by simp)]
  simp only [String.reduceToList]

instance (t : String) : Decidable (SaysAll t) := decidable_of_iff _ saysAll_iff.symm

instance (t : String) : Decidable (SaysNone t) := decidable_of_iff _ saysNone_iff.symm

/-! ## Entries -/

/-- A text is an entry: an index, in decimal digits, or a unique id. -/
inductive IsEntry (e : String) : Prop
  | index (nonempty : e ≠ "") (digits : ∀ c ∈ e.toList, Text.isDecimalDigit c = true)
  | uniqueId {first : Char} {rest : List Char} (shape : e.toList = "GPU-".toList ++ first :: rest)
      (start : first.isAlphanum = true) (plain : ∀ c ∈ rest, c.isAlphanum = true ∨ c = '-')

theorem isUniqueIdEntry_iff {cs : List Char} : isUniqueIdEntry cs = true ↔
    ∃ first rest, cs = "GPU-".toList ++ first :: rest ∧ first.isAlphanum = true ∧
      ∀ c ∈ rest, c.isAlphanum = true ∨ c = '-' := by
  constructor
  · intro h
    unfold isUniqueIdEntry at h
    split at h
    · rename_i first rest
      simp only [isAlphanumeric, Bool.and_eq_true, List.all_eq_true, Bool.or_eq_true, beq_iff_eq]
        at h
      exact ⟨first, rest, rfl, h⟩
    · cases h
  · rintro ⟨first, rest, shape, h⟩
    rw [shape]
    simpa [isUniqueIdEntry, isAlphanumeric] using h

theorem isEntry_iff {e : String} :
    IsEntry e ↔ (isIndexEntry e.toList || isUniqueIdEntry e.toList) = true := by
  have index : isIndexEntry e.toList = true ↔
      e ≠ "" ∧ ∀ c ∈ e.toList, Text.isDecimalDigit c = true := by
    simp [isIndexEntry]
  rw [Bool.or_eq_true, index, isUniqueIdEntry_iff]
  constructor
  · rintro (⟨nonempty, digits⟩ | ⟨shape, start, plain⟩)
    · exact .inl ⟨nonempty, digits⟩
    · exact .inr ⟨_, _, shape, start, plain⟩
  · rintro (⟨nonempty, digits⟩ | ⟨first, rest, shape, start, plain⟩)
    · exact .index nonempty digits
    · exact .uniqueId shape start plain

instance (e : String) : Decidable (IsEntry e) := decidable_of_iff _ isEntry_iff.symm

/-- The characters of entries: decimal digits, ASCII letters and hyphens. -/
theorem IsEntry.mem_cases {e : String} (h : IsEntry e) {c : Char} (hc : c ∈ e.toList) :
    Text.isDecimalDigit c = true ∨ c.isAlphanum = true ∨ c = '-' := by
  cases h with
  | index _ digits => exact .inl (digits c hc)
  | uniqueId shape start plain =>
    rw [shape, List.mem_append, List.mem_cons] at hc
    rcases hc with mark | rfl | later
    · have known : ∀ c ∈ "GPU-".toList, c.isAlphanum = true ∨ c = '-' := by simp
      exact .inr (known c mark)
    · exact .inr (.inl start)
    · exact .inr (plain c later)

/-- None of them is a blank. -/
theorem IsEntry.bare {e : String} (h : IsEntry e) : ∀ c ∈ e.toList, Text.isBlank c = false := by
  intro c hc
  rcases h.mem_cases hc with digit | plain | rfl
  · have := Text.digit_range digit
    simp [Text.isBlank]
    omega
  · have := Text.alphanum_range plain
    simp [Text.isBlank]
    omega
  · decide

/-- Nor is any a comma. -/
theorem IsEntry.comma_not_mem {e : String} (h : IsEntry e) : ',' ∉ e.toList := by
  intro hc
  rcases h.mem_cases hc with digit | plain | same
  · exact absurd digit (by decide)
  · exact absurd plain (by decide)
  · exact absurd same (by decide)

/-- One of them is no letter, and so no entry is a word. -/
theorem IsEntry.exists_not_alpha {e : String} (h : IsEntry e) :
    ∃ c ∈ e.toList, c.isAlpha = false := by
  cases h with
  | index nonempty digits =>
    obtain ⟨c, cs, hc⟩ :=
      List.exists_cons_of_ne_nil fun none => nonempty (String.toList_eq_nil_iff.mp none)
    have listed : c ∈ e.toList := by simp [hc]
    refine ⟨c, listed, Bool.eq_false_iff.2 fun alpha => ?_⟩
    have := Text.digit_range (digits c listed)
    have := Text.alpha_range alpha
    omega
  | uniqueId shape => exact ⟨'-', by simp [shape], by decide⟩

theorem IsEntry.not_slice {e : String} (h : IsEntry e) : ¬ "MIG-".toList <+: e.toList := by
  rintro ⟨rest, same⟩
  cases h with
  | index _ digits => exact absurd (digits 'M' (by simp [← same])) (by decide)
  | uniqueId shape =>
    rw [shape] at same
    simp at same

/-! ## Lists -/

/-- A text, without the blanks around it, is made of texts with commas between them, and
these are `written` there, with blanks around each. -/
def Lists (s : String) (written : List String) : Prop :=
  ∃ t pieces, IsTrim s t ∧ pieces ≠ [] ∧ (∀ p ∈ pieces, ',' ∉ p.toList) ∧
    ",".intercalate pieces = t ∧ List.Forall₂ IsTrim pieces written

/-- What is listed by a piece of a text. -/
def listedAs (piece : List Char) : String := Text.trim (.ofList piece)

theorem toList_listedAs (piece : List Char) : (listedAs piece).toList = Text.trimChars piece := by
  simp [listedAs]

/-- The texts that are listed in a text. -/
def writtenIn (s : String) : List String := ((Text.trim s).toList.splitOn ',').map listedAs

theorem lists_iff {s : String} {written : List String} :
    Lists s written ↔ written = writtenIn s := by
  have joined (pieces : List String) :
      (",".intercalate pieces).toList = [','].intercalate (pieces.map String.toList) :=
    String.toList_intercalate
  constructor
  · rintro ⟨t, pieces, trimmed, some, free, rfl, each⟩
    have cut : (",".intercalate pieces).toList.splitOn ',' = pieces.map String.toList := by
      rw [Text.splitOn_eq_iff, joined]
      exact ⟨by simpa using some, by simpa using free, rfl⟩
    have same : written = pieces.map Text.trim := by
      rw [← List.forall₂_eq_eq_eq, List.forall₂_map_right_iff]
      exact each.flip.imp fun _ _ trimmed => trimmed.eq_trim
    rw [writtenIn, ← trimmed.eq_trim, cut, same, List.map_map]
    simp [listedAs]
  · intro same
    rw [same]
    obtain ⟨-, free, -⟩ := Text.splitOn_eq_iff.1 (rfl : (Text.trim s).toList.splitOn ',' = _)
    refine ⟨_, ((Text.trim s).toList.splitOn ',').map String.ofList, trim_isTrim s, by simp,
      by simpa using free, ?_, ?_⟩
    · rw [← String.toList_inj, joined, List.map_map]
      simp
    · rw [writtenIn, List.forall₂_map_left_iff, List.forall₂_map_right_iff, List.forall₂_same]
      exact fun p _ => trim_isTrim _

/-- A character of what is listed in a text is one of the text. -/
theorem Lists.mem {s t e : String} {written : List String} (h : Lists s written)
    (trimmed : IsTrim s t) (he : e ∈ written) {c : Char} (hc : c ∈ e.toList) : c ∈ t.toList := by
  rw [lists_iff] at h
  rw [h] at he
  obtain ⟨piece, cut, rfl⟩ := List.mem_map.1 he
  rw [trimmed.eq_trim]
  have inside : c ∈ (String.ofList piece).toList := (trim_isTrim (.ofList piece)).mem hc
  rw [String.toList_ofList] at inside
  exact (Text.exists_mem_splitOn_iff.1 ⟨piece, cut, inside⟩).1

/-- What is wrong with a text on a list that is no entry: it names a slice of a device, or
nothing at all. -/
def faultOf (s e : String) : MaskFault :=
  if "MIG-".toList <+: e.toList then .slice e else .entry e s

/-- The words for it: the text, and unless it names a slice the whole of what was to be read. -/
def complaint (s e : String) : String :=
  if "MIG-".toList <+: e.toList then
    s!"MIG device {Text.quote e} is not supported, list the parent GPU instead"
  else s!"invalid entry {Text.quote e} in {Text.quote s}"

theorem faultOf_message (s e : String) : (faultOf s e).message = complaint s e := by
  unfold faultOf complaint
  split
  · rfl
  · rfl

section
variable {s : String} {known : List String} {rest : List (List Char)}

/-- One step of reading a list. -/
theorem readEntries_cons (piece : List Char) :
    readEntries s known (piece :: rest) =
      if IsEntry (listedAs piece) then
        readEntries s (if known.contains (listedAs piece) then known else known ++ [listedAs piece])
          rest
      else .error (.invalidDeviceMask (faultOf s (listedAs piece))) := by
  have slice : sliceMark.isPrefixOf (Text.trimChars piece) = true ↔
      "MIG-".toList <+: (listedAs piece).toList := by
    rw [List.isPrefixOf_iff_prefix, toList_listedAs]
    simp only [sliceMark, String.reduceToList]
  have entry : (isIndexEntry (Text.trimChars piece) || isUniqueIdEntry (Text.trimChars piece)) =
      true ↔ IsEntry (listedAs piece) := by
    rw [isEntry_iff, toList_listedAs]
  have text : String.ofList (Text.trimChars piece) = listedAs piece := by
    simp [listedAs, Text.trim]
  rw [readEntries]
  simp only [slice, entry, text, faultOf]
  by_cases valid : IsEntry (listedAs piece)
  · rw [if_neg valid.not_slice, if_pos valid, if_pos valid]
  · rw [if_neg valid, if_neg valid]
    split <;> rfl

/-- Entries are read from left to right: what is known is what was read, each text once. -/
theorem readEntries_ok (read : List String) (h : ∀ e ∈ rest.map listedAs, IsEntry e) :
    readEntries s read.eraseDups rest = .ok (read ++ rest.map listedAs).eraseDups := by
  induction rest generalizing read with
  | nil => simp [readEntries]
  | cons piece rest ih =>
    obtain ⟨entry, h⟩ := List.forall_mem_cons.1 h
    rw [readEntries_cons, if_pos entry, ← eraseDups_concat, ih _ h]
    simp

/-- The first text that is no entry ends the reading. -/
theorem readEntries_error {before : List String} {e : String}
    (h : FirstIn (¬ IsEntry ·) (rest.map listedAs) before e) :
    readEntries s known rest = .error (.invalidDeviceMask (faultOf s e)) := by
  induction rest generalizing known before with
  | nil =>
    obtain ⟨after, split⟩ := h.split
    simp at split
  | cons piece rest ih =>
    obtain ⟨⟨after, split⟩, clear, found⟩ := h
    rw [readEntries_cons]
    cases before with
    | nil =>
      obtain ⟨rfl, -⟩ := List.cons.inj split
      rw [if_neg found]
    | cons x before =>
      obtain ⟨rfl, later⟩ := List.cons.inj split
      obtain ⟨entry, clear⟩ := List.forall_mem_cons.1 clear
      rw [if_pos (not_not.1 entry)]
      exact ih ⟨⟨after, later⟩, clear, found⟩

end

/-! ## Reading -/

variable {s t : String} {written : List String}

theorem parse_eq (s : String) :
    parse s = if SaysAll (Text.trim s) then .ok all else if SaysNone (Text.trim s) then .ok none
      else (readEntries s [] ((Text.trim s).toList.splitOn ',')).map list := by
  unfold parse
  simp only [saysAll_iff, saysNone_iff, Text.trim_toList]

theorem SaysNone.not_saysAll (h : SaysNone t) : ¬ SaysAll t := by
  rw [saysNone_iff] at h
  rw [saysAll_iff]
  rcases h with word | word | word <;> simp [word]

theorem Lists.ne_nil (h : Lists s written) : written ≠ [] := by
  rw [lists_iff] at h
  simp [h, writtenIn]

theorem Lists.eraseDups_ne_nil (h : Lists s written) : written.eraseDups ≠ [] := by
  obtain ⟨e, rest, rfl⟩ := List.exists_cons_of_ne_nil h.ne_nil
  simp [List.eraseDups_cons]

/-- A text that spells a keyword has letters alone. -/
theorem isAlpha_of_keyword (h : SaysAll t ∨ SaysNone t) : ∀ c ∈ t.toList, c.isAlpha = true := by
  rcases h with word | rfl | word | word
  · exact word.isAlpha (by simp)
  · exact nofun
  · exact word.isAlpha (by simp)
  · exact word.isAlpha (by simp)

/-- So a text that lists nothing but entries does not. -/
theorem Lists.not_keyword (h : Lists s written) (entries : ∀ e ∈ written, IsEntry e)
    (trimmed : IsTrim s t) :
    ¬ (SaysAll t ∨ SaysNone t) := by
  intro keyword
  obtain ⟨e, rest, rfl⟩ := List.exists_cons_of_ne_nil h.ne_nil
  obtain ⟨c, inside, other⟩ := (entries e List.mem_cons_self).exists_not_alpha
  have letter := isAlpha_of_keyword keyword c (h.mem trimmed List.mem_cons_self inside)
  exact absurd letter (by simp [other])

/-- What a text says as a mask. -/
inductive Reads (s : String) : Except ConfigError VisibleDevices → Prop
  | all {t : String} : IsTrim s t → SaysAll t → Reads s (.ok .all)
  | none {t : String} : IsTrim s t → SaysNone t → Reads s (.ok .none)
  | list {written : List String} : Lists s written → (∀ e ∈ written, IsEntry e) →
      Reads s (.ok (.list written.eraseDups))
  | refused {t : String} {written before : List String} {e : String} :
      IsTrim s t → ¬ SaysAll t → ¬ SaysNone t →
      Lists s written → FirstIn (¬ IsEntry ·) written before e →
      Reads s (.error (.invalidDeviceMask (faultOf s e)))

theorem Reads.parse_eq {result : Except ConfigError VisibleDevices} (h : Reads s result) :
    parse s = result := by
  rw [VisibleDevices.parse_eq]
  cases h with
  | all trimmed word =>
    rw [trimmed.eq_trim] at word
    rw [if_pos word]
  | none trimmed word =>
    rw [trimmed.eq_trim] at word
    rw [if_neg word.not_saysAll, if_pos word]
  | @list written listed entries =>
    have other := not_or.1 (listed.not_keyword entries (trim_isTrim s))
    rw [if_neg other.1, if_neg other.2]
    rw [lists_iff.1 listed] at entries ⊢
    rw [← List.eraseDups_nil, readEntries_ok [] entries, List.nil_append]
    rfl
  | refused trimmed notAll notNone listed first =>
    rw [trimmed.eq_trim] at notAll notNone
    rw [lists_iff.1 listed] at first
    rw [if_neg notAll, if_neg notNone, readEntries_error first]
    rfl

/-- Every text says something. -/
theorem exists_reads (s : String) : ∃ result, Reads s result := by
  have trimmed := trim_isTrim s
  have listed : Lists s (writtenIn s) := lists_iff.2 rfl
  by_cases keyword : SaysAll (Text.trim s) ∨ SaysNone (Text.trim s)
  · rcases keyword with word | word
    · exact ⟨_, .all trimmed word⟩
    · exact ⟨_, .none trimmed word⟩
  · rcases exists_firstIn (¬ IsEntry ·) (writtenIn s) with entries | ⟨before, e, first⟩
    · exact ⟨_, .list listed fun e he => not_not.1 (entries e he)⟩
    · obtain ⟨notAll, notNone⟩ := not_or.1 keyword
      exact ⟨_, .refused trimmed notAll notNone listed first⟩

/-- Reading a text gives what it says. -/
theorem reads_iff {result : Except ConfigError VisibleDevices} :
    Reads s result ↔ parse s = result := by
  refine ⟨Reads.parse_eq, ?_⟩
  rintro rfl
  obtain ⟨result, h⟩ := exists_reads s
  rwa [h.parse_eq]

/-- What there is to say of reading a text as a mask. -/
structure ReadingLaws (s : String) : Prop where
  trimmed : ∃! t, IsTrim s t
  written : ∃! written, Lists s written
  all : parse s = .ok .all ↔ ∃ t, IsTrim s t ∧ SaysAll t
  none : parse s = .ok .none ↔ ∃ t, IsTrim s t ∧ SaysNone t
  /-- The mask of a list has every entry once, in the order in which they come first. -/
  list (entries : List String) : parse s = .ok (.list entries) ↔
    ∃ written, Lists s written ∧ (∀ e ∈ written, IsEntry e) ∧ entries = written.eraseDups
  nonempty (entries : List String) : parse s = .ok (.list entries) → entries ≠ []
  /-- Any other text is refused, and the refusal is about the first text on the list that is
  no entry. -/
  refused (error : ConfigError) : parse s = .error error ↔
    (∃ t, IsTrim s t ∧ ¬ SaysAll t ∧ ¬ SaysNone t) ∧
    ∃ written before e, Lists s written ∧ FirstIn (¬ IsEntry ·) written before e ∧
    error = .invalidDeviceMask (faultOf s e)
  wording (e : String) :
    (ConfigError.invalidDeviceMask (faultOf s e)).message =
      s!"invalid visible device mask: {complaint s e}"

/-- Masks are read by their grammar. -/
theorem reading_laws (s : String) : ReadingLaws s where
  trimmed := ⟨Text.trim s, isTrim_iff.2 rfl, fun _ => isTrim_iff.1⟩
  written := ⟨writtenIn s, lists_iff.2 rfl, fun _ => lists_iff.1⟩
  all := by
    rw [← reads_iff]
    constructor
    · intro h
      cases h with
      | all trimmed word => exact ⟨_, trimmed, word⟩
    · rintro ⟨t, trimmed, word⟩
      exact .all trimmed word
  none := by
    rw [← reads_iff]
    constructor
    · intro h
      cases h with
      | none trimmed word => exact ⟨_, trimmed, word⟩
    · rintro ⟨t, trimmed, word⟩
      exact .none trimmed word
  list entries := by
    rw [← reads_iff]
    constructor
    · intro h
      cases h with
      | list listed entries => exact ⟨_, listed, entries, rfl⟩
    · rintro ⟨written, listed, entries, rfl⟩
      exact .list listed entries
  nonempty entries h := by
    cases reads_iff.2 h with
    | list listed _ => exact listed.eraseDups_ne_nil
  refused error := by
    rw [← reads_iff]
    constructor
    · intro h
      cases h with
      | refused trimmed notAll notNone listed first =>
        exact ⟨⟨_, trimmed, notAll, notNone⟩, _, _, _, listed, first, rfl⟩
    · rintro ⟨⟨t, trimmed, notAll, notNone⟩, written, before, e, listed, first, rfl⟩
      exact .refused trimmed notAll notNone listed first
  wording e := congrArg (fun m => s!"invalid visible device mask: {m}") (faultOf_message s e)

end VisibleDevices

end NodeWarden
