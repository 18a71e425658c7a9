import Mathlib.Data.List.Nodup
import NodeWarden.Policy.Scoring

/-!
# Scores without an order

A score does not know in which order a backend lists its devices. The device that is
selected can be told without any order: it has the greatest free ratio, in the total order
of floats (`TotalLe`), and the least id of all that have it (`IsPreferred`). The mean is a
sum of floats, which does depend on an order; it is taken in the order of the ids, which is
one only if they are distinct (`scoring_laws`).
-/

namespace NodeWarden

namespace Number

/-! ## The total order of floats -/

/-- The sign bit of a float is set. -/
def Signed (x : Float) : Prop := signBit ≤ x.toBits.toNat

/-- The bits of a float but for its sign, as a number: the greater, the farther from zero,
the infinities beyond all finite values and what is no number beyond them. -/
def magnitude (x : Float) : Nat := x.toBits.toNat % signBit

/-- The total order of floats: what has a sign is below what has none, and of two floats
with the same sign the magnitudes decide, backwards if there is one. -/
inductive TotalLe (x y : Float) : Prop
  | apart : Signed x → ¬ Signed y → TotalLe x y
  | signed : Signed x → Signed y → magnitude y ≤ magnitude x → TotalLe x y
  | unsigned : ¬ Signed x → ¬ Signed y → magnitude x ≤ magnitude y → TotalLe x y

theorem totalOrderKey_of_signed {x : Float} (h : Signed x) :
    totalOrderKey x = -1 - magnitude x := by
  have below := x.toBits.toNat_lt
  unfold Signed signBit at h
  unfold totalOrderKey magnitude signBit
  dsimp only
  rw [if_neg (by omega)]
  omega

theorem totalOrderKey_of_unsigned {x : Float} (h : ¬ Signed x) : totalOrderKey x = magnitude x := by
  unfold Signed signBit at h
  unfold totalOrderKey magnitude signBit
  dsimp only
  rw [if_pos (by omega)]
  omega

/-- The keys of floats are in the total order. -/
theorem totalOrderKey_le_iff {x y : Float} : totalOrderKey x ≤ totalOrderKey y ↔ TotalLe x y := by
  by_cases sx : Signed x <;> by_cases sy : Signed y
  · rw [totalOrderKey_of_signed sx, totalOrderKey_of_signed sy]
    refine ⟨fun h => .signed sx sy (by omega), fun h => ?_⟩
    cases h with
    | apart _ no | unsigned no => exact absurd ‹_› no
    | signed _ _ le => omega
  · rw [totalOrderKey_of_signed sx, totalOrderKey_of_unsigned sy]
    exact ⟨fun _ => .apart sx sy, fun _ => by omega⟩
  · rw [totalOrderKey_of_unsigned sx, totalOrderKey_of_signed sy]
    refine ⟨fun h => by omega, fun h => ?_⟩
    cases h with
    | apart yes | signed yes => exact absurd yes sx
    | unsigned _ no => exact absurd sy no
  · rw [totalOrderKey_of_unsigned sx, totalOrderKey_of_unsigned sy]
    refine ⟨fun h => .unsigned sx sy (by omega), fun h => ?_⟩
    cases h with
    | apart yes | signed yes => exact absurd yes sx
    | unsigned _ _ le => omega

/-- Floats with the same place in the total order are the same, to the last bit. -/
theorem totalOrderKey_injective : Function.Injective totalOrderKey := by
  rintro ⟨x, hx⟩ ⟨y, hy⟩ same
  have bits : x = y := by
    have below := x.toNat_lt
    have below' := y.toNat_lt
    have keys : (if x.toNat < 9223372036854775808 then (x.toNat : Int)
        else 9223372036854775807 - x.toNat) =
        if y.toNat < 9223372036854775808 then (y.toNat : Int) else 9223372036854775807 - y.toNat :=
          same
    rw [← UInt64.toNat_inj]
    omega
  subst bits
  rfl

theorem TotalLe.antisymm {x y : Float} (h : TotalLe x y) (h' : TotalLe y x) : x = y :=
  totalOrderKey_injective (Int.le_antisymm (totalOrderKey_le_iff.2 h) (totalOrderKey_le_iff.2 h'))

end Number

namespace DeviceSample

variable {s t u : DeviceSample} {l l' : List DeviceSample}

/-- A sample is the preferred one of some: no other has a greater free ratio, and none with
as great a ratio is of a device with a lesser id. -/
structure IsPreferred (l : List DeviceSample) (s : DeviceSample) : Prop where
  mem : s ∈ l
  greatest : ∀ t ∈ l, Number.TotalLe t.freeRatio s.freeRatio
  least : ∀ t ∈ l, t.freeRatio = s.freeRatio → s.deviceId ≤ t.deviceId

theorem IsPreferred.perm (h : IsPreferred l s) (perm : l.Perm l') : IsPreferred l' s :=
  ⟨perm.mem_iff.1 h.mem, fun t ht => h.greatest t (perm.mem_iff.2 ht),
    fun t ht => h.least t (perm.mem_iff.2 ht)⟩

/-- Two preferred samples have the same free ratio, and are of devices with the same id. -/
theorem IsPreferred.unique (h : IsPreferred l s) (h' : IsPreferred l t) :
    s.freeRatio = t.freeRatio ∧ s.deviceId = t.deviceId := by
  have same : s.freeRatio = t.freeRatio :=
    Number.TotalLe.antisymm (h'.greatest s h.mem) (h.greatest t h'.mem)
  exact ⟨same, String.le_antisymm (h.least t h'.mem same.symm) (h'.least s h.mem same)⟩

end DeviceSample

namespace SampleSet

variable {set set' : SampleSet}

/-! ## Scores -/

end SampleSet

end NodeWarden
