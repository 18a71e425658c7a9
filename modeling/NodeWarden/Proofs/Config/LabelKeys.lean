import NodeWarden.Proofs.Config.DomainName
import NodeWarden.Proofs.Text.Character
import NodeWarden.Proofs.Text.Pieces
import NodeWarden.Text.Blank

/-!
# Keys of labels

The domains under which labels may be published are told by their labels, and by the
characters that these have. None of them is a slash, so each key under a valid domain has
one slash, the one after the domain (`labelDomain_laws`).
-/

namespace NodeWarden

theorem DomainState.isLabelChar_iff {c : Char} :
    isLabelChar c = true ↔ c.isLower = true ∨ c.isDigit = true := by
  have lower : c.isLower = true ↔ 'a' ≤ c ∧ c ≤ 'z' := by
    rw [Text.isLower_iff, Char.le_def, Char.le_def, UInt32.le_iff_toNat_le, UInt32.le_iff_toNat_le]
    rfl
  simp [isLabelChar, lower, Char.isDigit, Char.le_def]

/-- A character of domain names that is not the point between their labels. -/
theorem IsDomainLabel.mem_cases {label : List Char} (h : IsDomainLabel label) {c : Char}
    (hc : c ∈ label) :
    c.isLower = true ∨ c.isDigit = true ∨ c = '-' := by
  rcases h.chars c hc with plain | hyphen
  · exact (DomainState.isLabelChar_iff.1 plain).imp_right .inl
  · exact .inr (.inr hyphen)

theorem isDomainLabel_iff {label : List Char} : IsDomainLabel label ↔
    label ≠ [] ∧ (∀ c ∈ label, c.isLower = true ∨ c.isDigit = true ∨ c = '-') ∧
      label.head? ≠ some '-' ∧ label.getLast? ≠ some '-' := by
  constructor
  · exact fun h => ⟨h.nonempty, fun _ => h.mem_cases, h.first, h.last⟩
  · rintro ⟨nonempty, chars, first, last⟩
    refine ⟨nonempty, fun c hc => ?_, first, last⟩
    rw [DomainState.isLabelChar_iff, or_assoc]
    exact chars c hc

namespace ExecutorConfig

variable {c : ExecutorConfig}

theorem validate_eq_error_iff :
    c.validate = .error (.invalidThresholds (.labelDomain c.labelDomain)) ↔
      c.validate ≠ .ok () := by
  unfold validate
  split <;> simp

/-- The characters of a valid domain. -/
theorem mem_labelDomain (h : c.validate = .ok ()) {d : Char} (hd : d ∈ c.labelDomain.toList) :
    d.isLower = true ∨ d.isDigit = true ∨ d = '-' ∨ d = '.' := by
  by_cases point : d = '.'
  · exact .inr (.inr (.inr point))
  · obtain ⟨label, cut, inside⟩ := Text.exists_mem_splitOn_iff.2 ⟨hd, point⟩
    have valid := (validate_ok_iff.1 h).2 label cut
    rcases valid.mem_cases inside with lower | digit | hyphen
    · exact .inl lower
    · exact .inr (.inl digit)
    · exact .inr (.inr (.inl hyphen))

/-- Where they lie among the code points. -/
theorem labelDomain_range (h : c.validate = .ok ()) {d : Char} (hd : d ∈ c.labelDomain.toList) :
    (0x61 ≤ d.toNat ∧ d.toNat ≤ 0x7a) ∨ (0x30 ≤ d.toNat ∧ d.toNat ≤ 0x39) ∨ d.toNat = 0x2d ∨
      d.toNat = 0x2e := by
  rcases mem_labelDomain h hd with lower | digit | rfl | rfl
  · exact .inl (Text.isLower_iff.1 lower)
  · exact .inr (.inl (by simpa [Char.isDigit, UInt32.le_iff_toNat_le] using digit))
  · exact .inr (.inr (.inl rfl))
  · exact .inr (.inr (.inr rfl))

theorem slash_not_mem (h : c.validate = .ok ()) : '/' ∉ c.labelDomain.toList := by
  intro slash
  have := labelDomain_range h slash
  simp at this

/-- The keys of the labels that are published. -/
def labelKeys (c : ExecutorConfig) : List String := [c.scoreKey, c.modeKey, c.conditionKey]

theorem nodup_labelKeys (c : ExecutorConfig) : c.labelKeys.Nodup := by
  simp [labelKeys, scoreKey, modeKey, conditionKey]

theorem count_slash (h : c.validate = .ok ()) : ∀ key ∈ c.labelKeys, key.toList.count '/' = 1 := by
  have none : c.labelDomain.toList.count '/' = 0 := List.count_eq_zero.2 (slash_not_mem h)
  simp [labelKeys, scoreKey, modeKey, conditionKey, none]

/-- What there is to say of the domain under which labels are published. -/
structure LabelDomainLaws (c : ExecutorConfig) : Prop where
  accepted : c.validate = .ok () ↔ c.labelDomain.utf8ByteSize ≤ 253 ∧
    ∀ label ∈ c.labelDomain.toList.splitOn '.', label ≠ [] ∧
      (∀ d ∈ label, d.isLower = true ∨ d.isDigit = true ∨ d = '-') ∧ label.head? ≠ some '-' ∧
      label.getLast? ≠ some '-'
  /-- Any other domain is refused with its name. -/
  refused : c.validate ≠ .ok () →
    c.validate = .error (.invalidThresholds (.labelDomain c.labelDomain))
  noSlash : c.validate = .ok () → '/' ∉ c.labelDomain.toList
  noBlank : c.validate = .ok () → ∀ d ∈ c.labelDomain.toList, Text.isBlank d = false
  noNewline : c.validate = .ok () → c.labelDomain.toList.getLast? ≠ some '\n'
  ascii : c.validate = .ok () → ∀ d ∈ c.labelDomain.toList, d.toNat < 128
  keys : c.labelKeys.Nodup
  slash : c.validate = .ok () → ∀ key ∈ c.labelKeys, key.toList.count '/' = 1

/-- Domains are accepted by their labels, and have what keys need. -/
theorem labelDomain_laws (c : ExecutorConfig) : LabelDomainLaws c where
  accepted := by
    rw [validate_ok_iff]
    simp only [isDomainLabel_iff]
  refused := validate_eq_error_iff.2
  noSlash := slash_not_mem
  noBlank h d hd := by
    have := labelDomain_range h hd
    simp [Text.isBlank]
    omega
  noNewline h last := by
    have := labelDomain_range h (List.mem_of_getLast? last)
    simp at this
  ascii h d hd := by
    have := labelDomain_range h hd
    omega
  keys := nodup_labelKeys c
  slash := count_slash

end ExecutorConfig

end NodeWarden
