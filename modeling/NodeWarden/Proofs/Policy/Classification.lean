import NodeWarden.Policy.Scoring
import NodeWarden.Proofs.Lists

/-!
# Conditions by the best device

A node is classified by one number, the most free bytes of any of its devices
(`classify_eq`). So the order of the devices does not matter, and more memory, more devices
or lower floors never make the condition of the memory worse (`classify_noWorse`).
-/

namespace NodeWarden

/-- How severe a condition of the memory is. The other conditions are not compared. -/
def Condition.severity? : Condition → Option Nat
  | healthy => some 0
  | lowMemory => some 1
  | exhausted => some 2
  | noDevices | sampleFailure => none

/-- One condition of the memory is no more severe than another. -/
def Condition.NoWorse (c c' : Condition) : Prop :=
  ∃ n m, c.severity? = some n ∧ c'.severity? = some m ∧ n ≤ m

/-- The condition of a node whose best device has so many bytes free. -/
def Thresholds.conditionAt (t : Thresholds) (most : UInt64) : Condition :=
  if most < t.deleteFloor then .exhausted else if most < t.cordonFloor then .lowMemory else .healthy

namespace Thresholds

variable {t t' : Thresholds} {most most' : UInt64}

theorem conditionAt_eq_exhausted : t.conditionAt most = .exhausted ↔ most < t.deleteFloor := by
  unfold conditionAt
  split
  · simp_all
  · split <;> simp_all

theorem conditionAt_eq_lowMemory :
    t.conditionAt most = .lowMemory ↔ t.deleteFloor ≤ most ∧ most < t.cordonFloor := by
  rw [← UInt64.not_lt]
  unfold conditionAt
  split
  · simp_all
  · split <;> simp_all

/-- With the floors in order, a device above the upper one is above both. -/
theorem conditionAt_eq_healthy (ordered : t.deleteFloor ≤ t.cordonFloor) :
    t.conditionAt most = .healthy ↔ t.cordonFloor ≤ most := by
  unfold conditionAt
  split
  · rename_i below
    simpa using UInt64.lt_of_lt_of_le below ordered
  · split <;> simp_all [UInt64.not_lt]

/-- More memory and lower floors are no worse. -/
theorem conditionAt_noWorse (more : most ≤ most') (delete : t'.deleteFloor ≤ t.deleteFloor)
    (cordon : t'.cordonFloor ≤ t.cordonFloor) :
    (t'.conditionAt most').NoWorse (t.conditionAt most) := by
  have exhausted (h : most' < t'.deleteFloor) : most < t.deleteFloor :=
    UInt64.lt_of_le_of_lt more (UInt64.lt_of_lt_of_le h delete)
  have low (h : most' < t'.cordonFloor) : most < t.cordonFloor :=
    UInt64.lt_of_le_of_lt more (UInt64.lt_of_lt_of_le h cordon)
  unfold conditionAt Condition.NoWorse
  split
  · rename_i h
    rw [if_pos (exhausted h)]
    exact ⟨2, 2, rfl, rfl, Nat.le_refl 2⟩
  split
  · rename_i h
    split
    · exact ⟨1, 2, rfl, rfl, by decide⟩
    · rw [if_pos (low h)]
      exact ⟨1, 1, rfl, rfl, Nat.le_refl 1⟩
  · split
    · exact ⟨0, 2, rfl, rfl, by decide⟩
    · split
      · exact ⟨0, 1, rfl, rfl, by decide⟩
      · exact ⟨0, 0, rfl, rfl, Nat.le_refl 0⟩

end Thresholds

namespace SampleSet

variable {set set' : SampleSet} {t t' : Thresholds} {most most' : UInt64}

/-- The most bytes that any device of a set has free. -/
structure IsMostFree (set : SampleSet) (most : UInt64) : Prop where
  reached : ∃ s ∈ set.samples, s.free = most
  bound : ∀ s ∈ set.samples, s.free ≤ most

theorem exists_isMostFree (nonempty : set.samples ≠ []) : ∃ most, set.IsMostFree most := by
  suffices greatest : ∀ l : List DeviceSample, l ≠ [] → ∃ s ∈ l, ∀ u ∈ l, u.free ≤ s.free by
    obtain ⟨s, hs, bound⟩ := greatest set.samples nonempty
    exact ⟨s.free, ⟨s, hs, rfl⟩, bound⟩
  intro l
  induction l with
  | nil => exact fun none => absurd rfl none
  | cons u l ih =>
    intro _
    rcases l.eq_nil_or_concat with rfl | some
    · exact ⟨u, List.mem_cons_self, by simp⟩
    obtain ⟨s, hs, bound⟩ := ih (by rintro rfl; simp at some)
    by_cases more : s.free ≤ u.free
    · refine ⟨u, List.mem_cons_self, List.forall_mem_cons.2 ⟨UInt64.le_refl _, fun v hv => ?_⟩⟩
      exact UInt64.le_trans (bound v hv) more
    · refine ⟨s, List.mem_cons_of_mem u hs, List.forall_mem_cons.2 ⟨?_, bound⟩⟩
      exact UInt64.le_of_lt (UInt64.not_le.1 more)

theorem IsMostFree.ne_nil (h : set.IsMostFree most) : set.samples ≠ [] := by
  obtain ⟨s, hs, -⟩ := h.reached
  exact List.ne_nil_of_mem hs

/-- All devices are below a floor if the best one is. -/
theorem IsMostFree.allBelow_iff (h : set.IsMostFree most) (floor : UInt64) :
    set.allBelow floor = true ↔ most < floor := by
  simp only [allBelow, List.all_eq_true, decide_eq_true_eq]
  constructor
  · intro below
    obtain ⟨s, hs, rfl⟩ := h.reached
    exact below s hs
  · exact fun below s hs => UInt64.lt_of_le_of_lt (h.bound s hs) below

/-- The best device decides. -/
theorem classify_eq (h : set.IsMostFree most) : set.classify t = t.conditionAt most := by
  unfold classify Thresholds.conditionAt
  simp only [h.allBelow_iff, List.isEmpty_iff, h.ne_nil, if_false]

theorem classify_eq_noDevices_iff : set.classify t = .noDevices ↔ set.samples = [] := by
  unfold classify
  split
  · simp_all
  · split
    · simp_all
    · split <;> simp_all

/-- Of two sets, the devices of one are all matched by the other, which has as much free on each. -/
def MatchedBy (set set' : SampleSet) : Prop :=
  ∀ s ∈ set.samples, ∃ s' ∈ set'.samples, s.free ≤ s'.free

/-- A set that matches another is in no worse condition under the same floors, nor under
lower ones. -/
theorem classify_noWorse (nonempty : set.samples ≠ []) (matched : set.MatchedBy set')
    (delete : t'.deleteFloor ≤ t.deleteFloor) (cordon : t'.cordonFloor ≤ t.cordonFloor) :
    (set'.classify t').NoWorse (set.classify t) := by
  obtain ⟨most, h⟩ := exists_isMostFree nonempty
  obtain ⟨s, hs, rfl⟩ := h.reached
  obtain ⟨s', hs', more⟩ := matched s hs
  obtain ⟨most', h'⟩ := exists_isMostFree (List.ne_nil_of_mem hs')
  rw [classify_eq h, classify_eq h']
  exact Thresholds.conditionAt_noWorse (UInt64.le_trans more (h'.bound s' hs')) delete cordon

/-- What there is to say of the condition that a set of samples shows. -/
structure ClassificationLaws (set : SampleSet) (t : Thresholds) : Prop where
  noDevices : set.classify t = .noDevices ↔ set.samples = []
  measured : set.samples ≠ [] → ∃ most, set.IsMostFree most
  exhausted (most : UInt64) :
    set.IsMostFree most → (set.classify t = .exhausted ↔ most < t.deleteFloor)
  lowMemory (most : UInt64) : set.IsMostFree most →
    (set.classify t = .lowMemory ↔ t.deleteFloor ≤ most ∧ most < t.cordonFloor)
  healthy (most : UInt64) : set.IsMostFree most → (set.classify t = .healthy ↔ t.cordonFloor ≤ most)
  /-- The order of the devices does not matter. -/
  perm (set' : SampleSet) : set.samples.Perm set'.samples → set'.classify t = set.classify t
  /-- More memory is no worse, on whatever devices. -/
  raised (set' : SampleSet) : set.samples ≠ [] →
    List.Forall₂ (fun s s' => s.free ≤ s'.free) set.samples set'.samples →
    (set'.classify t).NoWorse (set.classify t)
  /-- More devices are no worse, wherever they are listed. -/
  added (set' : SampleSet) : set.samples ≠ [] → set.samples ⊆ set'.samples →
    (set'.classify t).NoWorse (set.classify t)
  /-- Lower floors are no worse. -/
  lowered (t' : Thresholds) :
    set.samples ≠ [] → t'.deleteFloor ≤ t.deleteFloor → t'.cordonFloor ≤ t.cordonFloor →
    t'.deleteFloor ≤ t'.cordonFloor → (set.classify t').NoWorse (set.classify t)

/-- With the floors in order, nodes are classified by their best device. -/
theorem classification_laws (set : SampleSet) {t : Thresholds}
    (ordered : t.deleteFloor ≤ t.cordonFloor) :
    ClassificationLaws set t where
  noDevices := classify_eq_noDevices_iff
  measured := exists_isMostFree
  exhausted most h := by rw [classify_eq h, Thresholds.conditionAt_eq_exhausted]
  lowMemory most h := by rw [classify_eq h, Thresholds.conditionAt_eq_lowMemory]
  healthy most h := by rw [classify_eq h, Thresholds.conditionAt_eq_healthy ordered]
  perm set' perm := by
    by_cases empty : set.samples = []
    · have empty' : set'.samples = [] := by rwa [empty, List.nil_perm] at perm
      rw [classify_eq_noDevices_iff.2 empty, classify_eq_noDevices_iff.2 empty']
    · obtain ⟨most, h⟩ := exists_isMostFree empty
      obtain ⟨s, hs, most_eq⟩ := h.reached
      have h' : set'.IsMostFree most :=
        ⟨⟨s, perm.mem_iff.1 hs, most_eq⟩, fun u hu => h.bound u (perm.mem_iff.2 hu)⟩
      rw [classify_eq h, classify_eq h']
  raised set' nonempty raised :=
    classify_noWorse nonempty (fun s hs => exists_match raised hs) (UInt64.le_refl _)
      (UInt64.le_refl _)
  added set' nonempty added :=
    classify_noWorse nonempty (fun s hs => ⟨s, added hs, UInt64.le_refl _⟩) (UInt64.le_refl _)
      (UInt64.le_refl _)
  lowered t' nonempty delete cordon _ :=
    classify_noWorse nonempty (fun s hs => ⟨s, hs, UInt64.le_refl _⟩) delete cordon

/-- Two devices, of which the better one has 250 bytes free. -/
def atDeleteFloor : SampleSet where
  nodeName := "node-a"
  mask := .all
  sampledAt := ⟨0, 0⟩
  samples := [⟨"GPU-0", 0, 16000, 100, ⟨0, 0⟩, by decide, by decide⟩,
    ⟨"GPU-1", 1, 16000, 250, ⟨0, 0⟩, by decide, by decide⟩]

theorem classification_laws_at_floor :
    (250 : UInt64) ≤ 1000 ∧ atDeleteFloor.IsMostFree 250 ∧
      atDeleteFloor.classify ⟨1000, 250, 3⟩ = .lowMemory := by
  have most : atDeleteFloor.IsMostFree 250 := ⟨by decide, by decide⟩
  have laws := classification_laws atDeleteFloor (t := ⟨1000, 250, 3⟩) (by decide)
  exact ⟨by decide, most, (laws.lowMemory 250 most).2 (by decide)⟩

end SampleSet

end NodeWarden
