import DriveBus.Library.ByteMemory
import Mathlib.Logic.Function.Basic
import Mathlib.Tactic.IntervalCases

/-!
# Shared memory layout

The fixed layout of one publisher's `SharedData`: a ring of sixteen
descriptors, one read index per subscriber slot, and a pool of chunks in five
size classes whose free lists are threaded through the first word of every
free chunk.  Unsigned 32-bit fields are natural numbers; the places where the
source's arithmetic could wrap say so.
-/

namespace DriveBus.SharedMemory

open DriveBus.ByteMemory

/-! ## Constants -/

def kDescriptorSlotCount : ℕ := 16
def kMaxSubscribers : ℕ := 16
def kInvalidIndex : ℕ := 2 ^ 32 - 1
def kClassCount : ℕ := 5
def kTotalChunkCount : ℕ := 128
def kPayloadPoolSizeBytes : ℕ := 1024 * 21
def kInvalidOffset : ℕ := 2 ^ 32 - 1
def kMagic : ℕ := 21354532

def kClassSizeBytes : ℕ → ℕ
  | 0 => 16
  | 1 => 128
  | 2 => 256
  | 3 => 512
  | 4 => 1024
  | _ => 0

def kChunkCountBySizeClass : ℕ → ℕ
  | 0 => 64
  | 1 => 32
  | 2 => 16
  | 3 => 8
  | 4 => 8
  | _ => 0

def kChunkIndexBaseBySizeClass : ℕ → ℕ
  | 0 => 0
  | 1 => 64
  | 2 => 96
  | 3 => 112
  | 4 => 120
  | _ => 0

def kFirstOffset : ℕ → ℕ
  | 0 => 0
  | 1 => 16 * 64
  | 2 => 16 * 64 + 128 * 32
  | 3 => 16 * 64 + 128 * 32 + 256 * 16
  | 4 => 16 * 64 + 128 * 32 + 256 * 16 + 512 * 8
  | _ => 0

def kLastOffset : ℕ → ℕ
  | 0 => kFirstOffset 1 - kClassSizeBytes 0
  | 1 => kFirstOffset 2 - kClassSizeBytes 1
  | 2 => kFirstOffset 3 - kClassSizeBytes 2
  | 3 => kFirstOffset 4 - kClassSizeBytes 3
  | 4 => kPayloadPoolSizeBytes - kClassSizeBytes 4
  | _ => 0

/-- The first size class that can hold `size` bytes; `none` is the source's
`-1`. -/
def findSizeClass (size : ℕ) : Option ℕ :=
  (List.range kClassCount).find? fun sizeClass => size ≤ kClassSizeBytes sizeClass

/-! ## Machine integers -/

/-- Subtraction of `uint32_t` values. -/
def u32Sub (left right : ℕ) : ℕ := (left + 2 ^ 32 - right) % 2 ^ 32

/-- The stored two's complement word of an `int`. -/
def intWord (value : ℤ) : ℕ := (value % 2 ^ 32).toNat

/-- The `int` read back from a stored word. -/
def wordInt (word : ℕ) : ℤ := if word < 2 ^ 31 then word else word - 2 ^ 32

/-! ## Chunks -/

def localChunkIndex (sizeClass offset : ℕ) : ℕ :=
  u32Sub offset (kFirstOffset sizeClass) / kClassSizeBytes sizeClass

def chunkIndex (sizeClass offset : ℕ) : ℕ :=
  kChunkIndexBaseBySizeClass sizeClass + localChunkIndex sizeClass offset

/-- The chunk offsets of a size class. -/
def IsChunk (sizeClass offset : ℕ) : Prop :=
  sizeClass < kClassCount ∧ ∃ index, index < kChunkCountBySizeClass sizeClass ∧
    offset = kFirstOffset sizeClass + index * kClassSizeBytes sizeClass

def chunkOffsets (sizeClass : ℕ) : List ℕ :=
  (List.range (kChunkCountBySizeClass sizeClass)).map fun index =>
    kFirstOffset sizeClass + index * kClassSizeBytes sizeClass

/-! ## The mapped region -/

structure MessageDescriptor where
  offset : ℕ
  len : ℕ
  deriving DecidableEq, Repr

/-- The contents of one publisher's shared mapping, the debug usage tracker
included, since the build enables `ENABLE_DEBUG_CHECKS`. -/
structure SharedData where
  descriptorReadIndices : ℕ → ℕ
  descriptorWriteIndex : ℕ
  descRing : ℕ → MessageDescriptor
  head : ℕ → ℕ
  tail : ℕ → ℕ
  chunkReferenceCounts : ℕ → BitVec 32
  data : Memory
  isInUse : ℕ → ℕ → Bool

/-- The offset stored in the first word of a chunk. -/
def SharedData.link (shared : SharedData) (offset : ℕ) : ℕ :=
  loadWord shared.data offset

/-! ## Initialization -/

/-- The heads that `initialize_shared_data` stores one after the other. -/
def initialHead : ℕ → ℕ
  | 0 => 0
  | sizeClass + 1 =>
      initialHead sizeClass +
        kClassSizeBytes sizeClass * kChunkCountBySizeClass sizeClass

def initialTail (sizeClass : ℕ) : ℕ :=
  if sizeClass < kClassCount - 1 then
    initialHead (sizeClass + 1) - kClassSizeBytes sizeClass
  else kPayloadPoolSizeBytes - kClassSizeBytes (kClassCount - 1)

/-- The `init` lambda: thread the remaining chunks of one class from `offset`
on; the last one gets `kInvalidOffset`. -/
def linkFreeChunks (chunkSizeBytes : ℕ) : ℕ → ℕ → Memory → Memory
  | 0, offset, data => storeWord data offset kInvalidOffset
  | remaining + 1, offset, data =>
      linkFreeChunks chunkSizeBytes remaining (offset + chunkSizeBytes)
        (storeWord data offset (offset + chunkSizeBytes))

def initialData (data : Memory) : Memory :=
  (List.range kClassCount).foldl (fun data sizeClass =>
    linkFreeChunks (kClassSizeBytes sizeClass)
      (kChunkCountBySizeClass sizeClass - 1) (initialHead sizeClass) data) data

/-- `initialize_shared_data` followed by `initialize_chunk_usage_tracker`, on
the bytes a fresh mapping holds. -/
def initializeSharedData (mapped : SharedData) : SharedData :=
  { mapped with
    descriptorReadIndices := fun slot =>
      if slot < kMaxSubscribers then kInvalidIndex
      else mapped.descriptorReadIndices slot
    descriptorWriteIndex := 0
    head := fun sizeClass =>
      if sizeClass < kClassCount then initialHead sizeClass else mapped.head sizeClass
    tail := fun sizeClass =>
      if sizeClass < kClassCount then initialTail sizeClass else mapped.tail sizeClass
    chunkReferenceCounts := fun chunk =>
      if chunk < kTotalChunkCount then 0 else mapped.chunkReferenceCounts chunk
    data := initialData mapped.data
    isInUse := fun _ _ => false }

/-! ## Arithmetic of the layout -/

theorem findSizeClass_eq_some {size sizeClass : ℕ}
    (hfind : findSizeClass size = some sizeClass) :
    sizeClass < kClassCount ∧ size ≤ kClassSizeBytes sizeClass := by
  have hmem := List.mem_of_find?_eq_some hfind
  have hsize := List.find?_some hfind
  exact ⟨List.mem_range.mp hmem, of_decide_eq_true hsize⟩

theorem initialHead_eq {sizeClass : ℕ} (hclass : sizeClass < kClassCount) :
    initialHead sizeClass = kFirstOffset sizeClass := by
  unfold kClassCount at hclass
  interval_cases sizeClass <;> rfl

theorem initialTail_eq {sizeClass : ℕ} (hclass : sizeClass < kClassCount) :
    initialTail sizeClass = kFirstOffset sizeClass +
      (kChunkCountBySizeClass sizeClass - 1) * kClassSizeBytes sizeClass := by
  unfold kClassCount at hclass
  interval_cases sizeClass <;> rfl

theorem kClassSizeBytes_ge {sizeClass : ℕ} (hclass : sizeClass < kClassCount) :
    16 ≤ kClassSizeBytes sizeClass := by
  unfold kClassCount at hclass
  interval_cases sizeClass <;> decide

theorem kChunkCountBySizeClass_pos {sizeClass : ℕ}
    (hclass : sizeClass < kClassCount) : 0 < kChunkCountBySizeClass sizeClass := by
  unfold kClassCount at hclass
  interval_cases sizeClass <;> decide

theorem mem_chunkOffsets_iff {sizeClass offset : ℕ}
    (hclass : sizeClass < kClassCount) :
    offset ∈ chunkOffsets sizeClass ↔ IsChunk sizeClass offset := by
  simp only [chunkOffsets, IsChunk, List.mem_map, List.mem_range, hclass, true_and]
  constructor <;> rintro ⟨index, hindex, heq⟩ <;> exact ⟨index, hindex, heq.symm⟩

/-- A size class has more than one chunk. -/
theorem exists_isChunk_ne {sizeClass : ℕ} (hclass : sizeClass < kClassCount) (offset : ℕ) :
    ∃ other, IsChunk sizeClass other ∧ other ≠ offset := by
  have hsize := kClassSizeBytes_ge hclass
  have hcount : 1 < kChunkCountBySizeClass sizeClass := by
    unfold kClassCount at hclass
    interval_cases sizeClass <;> decide
  by_cases hfirst : kFirstOffset sizeClass = offset
  · exact ⟨kFirstOffset sizeClass + 1 * kClassSizeBytes sizeClass, ⟨hclass, 1, hcount, rfl⟩,
      by omega⟩
  · exact ⟨kFirstOffset sizeClass, ⟨hclass, 0, by omega, by omega⟩, hfirst⟩

namespace IsChunk

variable {sizeClass sizeClass' offset offset' : ℕ}

theorem class_lt (hchunk : IsChunk sizeClass offset) : sizeClass < kClassCount :=
  hchunk.1

theorem size_ge (hchunk : IsChunk sizeClass offset) :
    16 ≤ kClassSizeBytes sizeClass := kClassSizeBytes_ge hchunk.1

/-- Every chunk lies inside the payload pool. -/
theorem add_size_le (hchunk : IsChunk sizeClass offset) :
    offset + kClassSizeBytes sizeClass ≤ kPayloadPoolSizeBytes := by
  obtain ⟨hclass, index, hindex, rfl⟩ := hchunk
  unfold kClassCount at hclass
  interval_cases sizeClass <;>
    simp only [kChunkCountBySizeClass, kFirstOffset, kClassSizeBytes,
      kPayloadPoolSizeBytes] at hindex ⊢ <;> omega

theorem range (hchunk : IsChunk sizeClass offset) :
    kFirstOffset sizeClass ≤ offset ∧ offset ≤ kLastOffset sizeClass := by
  obtain ⟨hclass, index, hindex, rfl⟩ := hchunk
  unfold kClassCount at hclass
  interval_cases sizeClass <;>
    simp only [kChunkCountBySizeClass, kFirstOffset, kClassSizeBytes, kLastOffset,
      kPayloadPoolSizeBytes] at hindex ⊢ <;> omega

theorem localChunkIndex_lt (hchunk : IsChunk sizeClass offset) :
    localChunkIndex sizeClass offset < kChunkCountBySizeClass sizeClass ∧
      offset = kFirstOffset sizeClass +
        localChunkIndex sizeClass offset * kClassSizeBytes sizeClass := by
  obtain ⟨hclass, index, hindex, rfl⟩ := hchunk
  unfold kClassCount at hclass
  interval_cases sizeClass <;>
    simp only [localChunkIndex, u32Sub, kChunkCountBySizeClass, kFirstOffset,
      kClassSizeBytes] at hindex ⊢ <;> omega

/-- Distinct chunks, of one class or of two, occupy disjoint byte ranges. -/
theorem disjoint (hleft : IsChunk sizeClass offset)
    (hright : IsChunk sizeClass' offset') (hne : offset ≠ offset') :
    offset + kClassSizeBytes sizeClass ≤ offset' ∨
      offset' + kClassSizeBytes sizeClass' ≤ offset := by
  obtain ⟨hclass, index, hindex, rfl⟩ := hleft
  obtain ⟨hclass', index', hindex', rfl⟩ := hright
  unfold kClassCount at hclass hclass'
  interval_cases sizeClass <;> interval_cases sizeClass' <;>
    simp only [kChunkCountBySizeClass, kFirstOffset, kClassSizeBytes]
      at hindex hindex' hne ⊢ <;> omega

/-- An offset belongs to one class only. -/
theorem class_unique (hleft : IsChunk sizeClass offset)
    (hright : IsChunk sizeClass' offset) : sizeClass = sizeClass' := by
  obtain ⟨hclass, index, hindex, rfl⟩ := hleft
  obtain ⟨hclass', index', hindex', heq⟩ := hright
  unfold kClassCount at hclass hclass'
  interval_cases sizeClass <;> interval_cases sizeClass' <;>
    simp only [kChunkCountBySizeClass, kFirstOffset, kClassSizeBytes]
      at hindex hindex' heq ⊢ <;> omega

theorem chunkIndex_lt (hchunk : IsChunk sizeClass offset) :
    chunkIndex sizeClass offset < kTotalChunkCount := by
  obtain ⟨hlt, -⟩ := hchunk.localChunkIndex_lt
  have hclass := hchunk.1
  unfold kClassCount at hclass
  rw [chunkIndex]
  interval_cases sizeClass <;>
    simp only [kChunkCountBySizeClass, kChunkIndexBaseBySizeClass,
      kTotalChunkCount] at hlt ⊢ <;> omega

/-- Distinct chunks have distinct reference mask entries. -/
theorem chunkIndex_injective (hleft : IsChunk sizeClass offset)
    (hright : IsChunk sizeClass' offset')
    (heq : chunkIndex sizeClass offset = chunkIndex sizeClass' offset') :
    offset = offset' := by
  obtain ⟨hlt, hoffset⟩ := hleft.localChunkIndex_lt
  obtain ⟨hlt', hoffset'⟩ := hright.localChunkIndex_lt
  have hclass := hleft.1
  have hclass' := hright.1
  unfold kClassCount at hclass hclass'
  rw [chunkIndex, chunkIndex] at heq
  rw [hoffset, hoffset']
  generalize localChunkIndex sizeClass offset = index at hlt heq ⊢
  generalize localChunkIndex sizeClass' offset' = index' at hlt' heq ⊢
  interval_cases sizeClass <;> interval_cases sizeClass' <;>
    simp only [kChunkCountBySizeClass, kChunkIndexBaseBySizeClass, kFirstOffset,
      kClassSizeBytes] at hlt hlt' heq ⊢ <;> omega

theorem localChunkIndex_injective (hleft : IsChunk sizeClass offset)
    (hright : IsChunk sizeClass offset')
    (heq : localChunkIndex sizeClass offset = localChunkIndex sizeClass offset') :
    offset = offset' :=
  hleft.chunkIndex_injective hright (by rw [chunkIndex, chunkIndex, heq])

end IsChunk

end DriveBus.SharedMemory
