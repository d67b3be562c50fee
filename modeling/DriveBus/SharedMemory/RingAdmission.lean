import DriveBus.SharedMemory.Publisher
import Mathlib.Data.List.Induction

/-!
# The ring admission test

`find_slowest_read_index` splits the readers into two groups around the write
index and compares raw indices.  This module proves what the split computes: a
tracked reader at the largest circular distance behind the writer.  The
backpressure test on that index then blocks exactly when nobody is tracked or
some tracked reader has fifteen unread descriptors.
-/

namespace DriveBus.SharedMemory

/-- What the scan of `indices` has established about its two minima. -/
structure Scanned (wr : ℕ) (indices : List ℕ) (slowest : SlowestReadIndices) :
    Prop where
  before_le : ∀ index ∈ indices, index ≠ kInvalidIndex → wr < index →
    slowest.beforeWrite ≤ index
  before_mem : slowest.beforeWrite = kInvalidIndex ∨
    (slowest.beforeWrite ∈ indices ∧ wr < slowest.beforeWrite)
  after_le : ∀ index ∈ indices, index ≠ kInvalidIndex → index ≤ wr →
    slowest.afterWrite ≤ index
  after_mem : slowest.afterWrite = kInvalidIndex ∨
    (slowest.afterWrite ∈ indices ∧ slowest.afterWrite ≤ wr)

theorem Scanned.nil (wr : ℕ) :
    Scanned wr [] { beforeWrite := kInvalidIndex, afterWrite := kInvalidIndex } where
  before_le := by simp
  before_mem := .inl rfl
  after_le := by simp
  after_mem := .inl rfl

theorem Scanned.scan {wr index : ℕ} {indices : List ℕ} {slowest : SlowestReadIndices}
    (hscanned : Scanned wr indices slowest) (hindex : index ≤ kInvalidIndex) :
    Scanned wr (indices ++ [index]) (scanReadIndex wr slowest index) := by
  obtain ⟨hbefore, hbeforeMem, hafter, hafterMem⟩ := hscanned
  unfold scanReadIndex
  split
  next hinvalid =>
    subst hinvalid
    constructor <;> grind
  next hvalid =>
    split
    next hle =>
      constructor <;> grind
    next hlt =>
      constructor <;> grind

theorem scanned_foldl {wr : ℕ} (indices : List ℕ)
    (hbound : ∀ index ∈ indices, index ≤ kInvalidIndex) :
    Scanned wr indices (indices.foldl (scanReadIndex wr)
      { beforeWrite := kInvalidIndex, afterWrite := kInvalidIndex }) := by
  induction indices using List.reverseRecOn with
  | nil => exact Scanned.nil wr
  | append_singleton indices index ih =>
      rw [List.foldl_append]
      exact (ih fun other hmem => hbound other (by simp [hmem])).scan
        (hbound index (by simp))

/-- Indices as the data plane keeps them: the write index and every tracked
read index are ring positions. -/
structure RingIndices (shared : SharedData) : Prop where
  write_lt : shared.descriptorWriteIndex < kDescriptorSlotCount
  read_lt : ∀ slot < kMaxSubscribers,
    shared.descriptorReadIndices slot = kInvalidIndex ∨
      shared.descriptorReadIndices slot < kDescriptorSlotCount

/-- The number of descriptors a reader at `readIndex` has not consumed. -/
def unreadCount (wr readIndex : ℕ) : ℕ :=
  (wr + kDescriptorSlotCount - readIndex) % kDescriptorSlotCount

/-- The scan of a mapping's read indices in slot order. -/
theorem findSlowestReadIndex_scanned {shared : SharedData}
    (hring : RingIndices shared) :
    ∃ slowest, Scanned shared.descriptorWriteIndex
        ((List.range kMaxSubscribers).map shared.descriptorReadIndices) slowest ∧
      findSlowestReadIndex shared =
        if slowest.beforeWrite ≠ kInvalidIndex then slowest.beforeWrite
        else slowest.afterWrite := by
  refine ⟨_, scanned_foldl _ ?_, ?_⟩
  · intro index hindex
    obtain ⟨slot, hslot, rfl⟩ := List.mem_map.mp hindex
    have hread := hring.read_lt slot (List.mem_range.mp hslot)
    simp only [kInvalidIndex, kDescriptorSlotCount] at hread ⊢
    omega
  · rw [List.foldl_map]
    rfl

/-- The slowest read index is invalid exactly when no slot is tracked, and
otherwise belongs to a tracked slot with the most unread descriptors. -/
theorem findSlowestReadIndex_spec {shared : SharedData}
    (hring : RingIndices shared) :
    (findSlowestReadIndex shared = kInvalidIndex ∧
        ∀ slot < kMaxSubscribers,
          shared.descriptorReadIndices slot = kInvalidIndex) ∨
      (findSlowestReadIndex shared < kDescriptorSlotCount ∧
        (∃ slot < kMaxSubscribers,
          shared.descriptorReadIndices slot = findSlowestReadIndex shared) ∧
        ∀ slot < kMaxSubscribers,
          shared.descriptorReadIndices slot ≠ kInvalidIndex →
            unreadCount shared.descriptorWriteIndex
                (shared.descriptorReadIndices slot) ≤
              unreadCount shared.descriptorWriteIndex
                (findSlowestReadIndex shared)) := by
  obtain ⟨slowest, hscanned, hresult⟩ := findSlowestReadIndex_scanned hring
  obtain ⟨hbefore, hbeforeMem, hafter, hafterMem⟩ := hscanned
  have hwrite := hring.write_lt
  have hmem : ∀ slot < kMaxSubscribers, shared.descriptorReadIndices slot ∈
      (List.range kMaxSubscribers).map shared.descriptorReadIndices :=
    fun slot hslot => List.mem_map.mpr ⟨slot, List.mem_range.mpr hslot, rfl⟩
  have hslot : ∀ index ∈
      (List.range kMaxSubscribers).map shared.descriptorReadIndices,
      ∃ slot < kMaxSubscribers, shared.descriptorReadIndices slot = index := by
    intro index hindex
    obtain ⟨slot, hrange, hread⟩ := List.mem_map.mp hindex
    exact ⟨slot, List.mem_range.mp hrange, hread⟩
  have hinvalid : kDescriptorSlotCount ≤ kInvalidIndex := by decide
  rw [hresult]
  by_cases hwrapped : slowest.beforeWrite = kInvalidIndex
  · rw [if_neg (by simp [hwrapped])]
    have hnone : ∀ slot < kMaxSubscribers,
        shared.descriptorReadIndices slot ≠ kInvalidIndex →
          shared.descriptorReadIndices slot ≤ shared.descriptorWriteIndex := by
      intro slot hlt hvalid
      by_contra hgt
      have hle := hbefore _ (hmem slot hlt) hvalid (by omega)
      have hread := hring.read_lt slot hlt
      omega
    rcases hafterMem with hempty | ⟨hafterIn, hafterLe⟩
    · left
      refine ⟨hempty, fun slot hlt => ?_⟩
      by_contra hvalid
      have hle := hafter _ (hmem slot hlt) hvalid (hnone slot hlt hvalid)
      have hread := hring.read_lt slot hlt
      omega
    · right
      refine ⟨by omega, hslot _ hafterIn, fun slot hlt hvalid => ?_⟩
      have hle := hafter _ (hmem slot hlt) hvalid (hnone slot hlt hvalid)
      have hbound := hnone slot hlt hvalid
      simp only [unreadCount, kDescriptorSlotCount] at hwrite ⊢
      omega
  · rw [if_pos hwrapped]
    obtain ⟨hbeforeIn, hbeforeGt⟩ := hbeforeMem.resolve_left hwrapped
    obtain ⟨slowSlot, hslowLt, hslowRead⟩ := hslot _ hbeforeIn
    have hslow := hring.read_lt slowSlot hslowLt
    right
    refine ⟨by omega, ⟨slowSlot, hslowLt, hslowRead⟩, fun slot hlt hvalid => ?_⟩
    have hread := (hring.read_lt slot hlt).resolve_left hvalid
    have hle := hbefore _ (hmem slot hlt) hvalid
    simp only [unreadCount, kDescriptorSlotCount] at hwrite hread hslow ⊢
    omega

/-- The descriptor part of the backpressure test is exact. -/
theorem descriptorsBlocked_iff {shared : SharedData} (hring : RingIndices shared) :
    DescriptorsBlocked (findSlowestReadIndex shared) shared.descriptorWriteIndex ↔
      (∀ slot < kMaxSubscribers,
        shared.descriptorReadIndices slot = kInvalidIndex) ∨
      ∃ slot < kMaxSubscribers,
        shared.descriptorReadIndices slot ≠ kInvalidIndex ∧
        unreadCount shared.descriptorWriteIndex
          (shared.descriptorReadIndices slot) = kDescriptorSlotCount - 1 := by
  have hwrite := hring.write_lt
  -- On ring positions the three conditions say "fifteen unread".
  have hfull : ∀ index < kDescriptorSlotCount,
      (DescriptorsBlocked index shared.descriptorWriteIndex ↔
        unreadCount shared.descriptorWriteIndex index =
          kDescriptorSlotCount - 1) := by
    intro index hindex
    simp only [DescriptorsBlocked, unreadCount, kInvalidIndex,
      kDescriptorSlotCount] at hwrite hindex ⊢
    omega
  rcases findSlowestReadIndex_spec hring with
    ⟨hinvalid, hnone⟩ | ⟨hlt, ⟨slow, hslowLt, hslow⟩, hmax⟩
  · exact iff_of_true (.inl hinvalid) (.inl hnone)
  · rw [hfull _ hlt]
    have hvalid : shared.descriptorReadIndices slow ≠ kInvalidIndex := by
      rw [hslow]
      simp only [kInvalidIndex, kDescriptorSlotCount] at hlt ⊢
      omega
    constructor
    · intro hunread
      exact .inr ⟨slow, hslowLt, hvalid, by rw [hslow, hunread]⟩
    · rintro (hnone | ⟨slot, hslotLt, hslotValid, hunread⟩)
      · exact absurd (hnone slow hslowLt) hvalid
      · have hle := hmax slot hslotLt hslotValid
        have hcap : unreadCount shared.descriptorWriteIndex
            (findSlowestReadIndex shared) < kDescriptorSlotCount :=
          Nat.mod_lt _ (by decide)
        omega

end DriveBus.SharedMemory
