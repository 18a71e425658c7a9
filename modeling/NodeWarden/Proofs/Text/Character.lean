import Mathlib.Tactic.Common
import NodeWarden.Text.Blank
import NodeWarden.Text.Digit

/-!
# Characters

Where the digits of all scripts and the ASCII letters lie among the code points, and what
folding a letter comes to.
-/

namespace NodeWarden.Text

theorem isLower_iff {c : Char} : c.isLower = true ↔ 0x61 ≤ c.toNat ∧ c.toNat ≤ 0x7a := by
  show (decide (c.val ≥ 'a'.val) && decide (c.val ≤ 'z'.val)) = true ↔ _
  simp [UInt32.le_iff_toNat_le]

theorem isUpper_iff {c : Char} : c.isUpper = true ↔ 0x41 ≤ c.toNat ∧ c.toNat ≤ 0x5a := by
  show decide (c.val ≥ 'A'.val ∧ c.val ≤ 'Z'.val) = true ↔ _
  simp [UInt32.le_iff_toNat_le]

theorem isAlpha_iff {c : Char} : c.isAlpha = true ↔ c.isUpper = true ∨ c.isLower = true := by
  show (c.isUpper || c.isLower) = true ↔ _
  simp

theorem toNat_toUpper {l : Char} (small : l.isLower = true) : l.toUpper.toNat = l.toNat - 32 := by
  have inside := isLower_iff.1 small
  have shift : ('A'.val - 'a'.val).toNat = 4294967264 := rfl
  show (if h : 'a'.val ≤ l.val ∧ l.val ≤ 'z'.val then (⟨l.val + ('A'.val - 'a'.val), _⟩ : Char)
      else l).val.toNat = _
  rw [dif_pos (by simpa [UInt32.le_iff_toNat_le] using inside), UInt32.toNat_add,
    shift, Char.toNat_val]
  omega

theorem toLower_eq_iff {l c : Char} (small : l.isLower = true) :
    c.toLower = l ↔ c = l ∨ c = l.toUpper := by
  have ends : 'A'.toNat = 65 ∧ 'Z'.toNat = 90 ∧ ('a'.val - 'A'.val).toNat = 32 := ⟨rfl, rfl, rfl⟩
  have inside := isLower_iff.1 small
  simp only [Char.ext_iff, ← UInt32.toNat_inj, Char.toNat_val, toNat_toUpper small]
  unfold Char.toLower
  split
  · rename_i upper
    simp only [ge_iff_le, UInt32.le_iff_toNat_le, Char.toNat_val] at upper
    show (c.val + ('a'.val - 'A'.val)).toNat = _ ↔ _
    rw [UInt32.toNat_add, Char.toNat_val]
    omega
  · rename_i other
    simp only [ge_iff_le, UInt32.le_iff_toNat_le, Char.toNat_val] at other
    omega

theorem isAlpha_of_toLower {c : Char} (h : c.toLower.isLower = true) : c.isAlpha = true := by
  refine isAlpha_iff.2 ?_
  by_cases upper : c.isUpper = true
  · exact .inl upper
  · have same : c.toLower = c := by
      unfold Char.toLower
      rw [dif_neg]
      simpa [isUpper_iff, UInt32.le_iff_toNat_le] using upper
    exact .inr (same ▸ h)

/-- A decimal digit is one of ten characters that follow a zero of the table. -/
theorem isDecimalDigit_iff {c : Char} :
    isDecimalDigit c = true ↔ ∃ z ∈ decimalZeros, z ≤ c.toNat ∧ c.toNat < z + 10 := by
  simp [isDecimalDigit]

/-- Where the digits of all scripts lie: the ASCII digits stand between the comma and the
letters, and the others come after the letters and leave the blanks out. -/
theorem digit_range {c : Char} (h : isDecimalDigit c = true) :
    (0x30 ≤ c.toNat ∧ c.toNat ≤ 0x39) ∨ (0x660 ≤ c.toNat ∧ c.toNat < 0x1680) ∨
      (0x1680 < c.toNat ∧ c.toNat < 0x2000) ∨ 0x3000 < c.toNat := by
  obtain ⟨z, listed, above, below⟩ := isDecimalDigit_iff.1 h
  have zeros : ∀ z ∈ decimalZeros, z = 0x30 ∨ (0x660 ≤ z ∧ z + 10 ≤ 0x1680) ∨
      (0x1680 < z ∧ z + 10 ≤ 0x2000) ∨ 0x3000 < z := by decide
  have := zeros z listed
  omega

theorem alpha_range {c : Char} (h : c.isAlpha = true) :
    (0x41 ≤ c.toNat ∧ c.toNat ≤ 0x5a) ∨ (0x61 ≤ c.toNat ∧ c.toNat ≤ 0x7a) := by
  rwa [isAlpha_iff, isUpper_iff, isLower_iff] at h

theorem alphanum_range {c : Char} (h : c.isAlphanum = true) :
    (0x30 ≤ c.toNat ∧ c.toNat ≤ 0x39) ∨ (0x41 ≤ c.toNat ∧ c.toNat ≤ 0x5a) ∨
      (0x61 ≤ c.toNat ∧ c.toNat ≤ 0x7a) := by
  rw [Char.isAlphanum, Bool.or_eq_true] at h
  rcases h with alpha | digit
  · exact .inr (alpha_range alpha)
  · exact .inl (by simpa [Char.isDigit, UInt32.le_iff_toNat_le] using digit)

end NodeWarden.Text
