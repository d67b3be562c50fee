import DriveBus.SharedMemory.PoolImage
import DriveBus.SharedMemory.Tracking

/-!
# Reclaiming a dead subscriber's references

`reap_dead_subscribers` walks the descriptors between the victim's read index
and the write index and clears the victim's bit in every chunk they name.  A
chunk may have been recycled into a later descriptor of the same window, in
which case the bit of the later message is cleared at the earlier descriptor;
the loop invariant is therefore about holders and not about positions.
-/

namespace DriveBus.SharedMemory

/-- How the ring and the write index encode the published messages. -/
structure RingHistory (shared : SharedData) (log : List Message) : Prop where
  write_eq : shared.descriptorWriteIndex = log.length % kDescriptorSlotCount
  recent : ∀ {index message}, log[index]? = some message →
    log.length < index + kDescriptorSlotCount →
    shared.descRing (index % kDescriptorSlotCount) = message.descriptor

/-- Only references of `slot` are gone, and no chunk changed hands otherwise. -/
structure Released {log : List Message} (slot : ℕ) (shared shared' : SharedData)
    (pool pool' : Pool log) : Prop where
  readIndices_eq : shared'.descriptorReadIndices = shared.descriptorReadIndices
  writeIndex_eq : shared'.descriptorWriteIndex = shared.descriptorWriteIndex
  descRing_eq : shared'.descRing = shared.descRing
  represents : Represents shared' pool'
  holds_other : ∀ {other index}, other ≠ slot →
    (pool'.holds other index ↔ pool.holds other index)
  holds_own : ∀ {index}, pool'.holds slot index → pool.holds slot index
  returning_iff : ∀ {offset party},
    pool'.owner offset = .returning party ↔ pool.owner offset = .returning party
  lost_iff : ∀ {offset}, pool'.owner offset = .lost ↔ pool.owner offset = .lost

namespace Released

variable {log : List Message} {slot : ℕ} {shared shared' shared'' : SharedData}
variable {pool pool' pool'' : Pool log}

theorem refl (hrep : Represents shared pool) : Released slot shared shared pool pool where
  readIndices_eq := rfl
  writeIndex_eq := rfl
  descRing_eq := rfl
  represents := hrep
  holds_other := fun _ => Iff.rfl
  holds_own := id
  returning_iff := Iff.rfl
  lost_iff := Iff.rfl

theorem trans (hfirst : Released slot shared shared' pool pool')
    (hsecond : Released slot shared' shared'' pool' pool'') :
    Released slot shared shared'' pool pool'' where
  readIndices_eq := hsecond.readIndices_eq.trans hfirst.readIndices_eq
  writeIndex_eq := hsecond.writeIndex_eq.trans hfirst.writeIndex_eq
  descRing_eq := hsecond.descRing_eq.trans hfirst.descRing_eq
  represents := hsecond.represents
  holds_other := fun hne => (hsecond.holds_other hne).trans (hfirst.holds_other hne)
  holds_own := fun hholds => hfirst.holds_own (hsecond.holds_own hholds)
  returning_iff := hsecond.returning_iff.trans hfirst.returning_iff
  lost_iff := hsecond.lost_iff.trans hfirst.lost_iff

end Released

variable {log : List Message} {pool : Pool log} {shared : SharedData}
variable {slot index sizeClass : ℕ}

/-- The party number of the publisher while it returns a chunk. -/
def publisherParty : ℕ := kMaxSubscribers

/-- One iteration of the release loop. -/
theorem releaseChunkReference_spec (hrep : Represents shared pool)
    (hslot : slot < kMaxSubscribers)
    (hclass : findSizeClass (shared.descRing index).len = some sizeClass)
    (hchunk : IsChunk sizeClass (shared.descRing index).offset) :
    ∃ shared' pool', releaseChunkReference shared (subscriberReferenceBit slot) index =
        (.none, shared') ∧
      Released slot shared shared' pool pool' ∧
      ∀ held, pool.owner (shared.descRing index).offset = .message held →
        ¬pool'.holds slot held := by
  set offset := (shared.descRing index).offset with hoffset
  rw [releaseChunkReference, hclass, Option.getD_some, ← hoffset]
  by_cases hbit : shared.chunkReferenceCounts (chunkIndex sizeClass offset) =
      subscriberReferenceBit slot
  · obtain ⟨held, howner, -, honly⟩ := (hrep.mask_eq_bit_iff hchunk hslot).mp hbit
    have hlast : ∃ index, pool.owner offset = .message index ∧
        ∀ other, pool.holds other index → other = slot := ⟨held, howner, honly⟩
    have htaken := hrep.takeLast publisherParty hchunk hlast
    have hreturning : (pool.takeLast slot offset publisherParty hlast).owner offset =
        .returning publisherParty := by simp
    have hused := htaken.inUse hchunk (by simp) (by simp)
    rw [if_pos hbit, if_neg (by rw [hused]; simp)]
    refine ⟨_, _, rfl, ⟨rfl, rfl, rfl, htaken.appendChunk hchunk hreturning, ?_, ?_, ?_,
      ?_⟩, ?_⟩
    · intro other index' hne
      simp [Pool.holdsWithout, hne]
    · intro index' hholds
      exact hholds.1
    · intro other party
      by_cases heq : other = offset
      · simp [heq, howner]
      · simp [heq]
    · intro other
      by_cases heq : other = offset
      · simp [heq, howner]
      · simp [heq]
    · intro index' howner' hholds
      exact hholds.2 ⟨rfl, howner'⟩
  · rw [if_neg hbit]
    have hshared : ∀ held, pool.owner offset = .message held →
        ∃ other, other ≠ slot ∧ pool.holds other held := by
      intro held howner
      by_contra hnone
      push Not at hnone
      have honly : ∀ other, pool.holds other held → other = slot := fun other hholds => by
        by_contra hne
        exact hnone other hne hholds
      obtain ⟨_, _, _, holder, hholder⟩ := pool.owner_message_iff.mp howner
      exact hbit ((hrep.mask_eq_bit_iff hchunk hslot).mpr
        ⟨held, howner, honly holder hholder ▸ hholder, honly⟩)
    refine ⟨_, pool.dropReference slot offset hshared, rfl,
      ⟨rfl, rfl, rfl, hrep.dropReference hchunk hshared, ?_, ?_, Iff.rfl, Iff.rfl⟩, ?_⟩
    · intro other index' hne
      simp [Pool.holdsWithout, hne]
    · intro index' hholds
      exact hholds.1
    · intro index' howner' hholds
      exact hholds.2 ⟨rfl, howner'⟩

/-- The release loop over descriptors of published messages. -/
theorem releaseChunkReferences_spec {indices : List ℕ} (hrep : Represents shared pool)
    (hslot : slot < kMaxSubscribers)
    (hindices : ∀ index ∈ indices, ∃ message ∈ log,
      shared.descRing index = message.descriptor) :
    ∃ shared' pool',
      releaseChunkReferences (subscriberReferenceBit slot) indices shared =
        (.none, shared') ∧
      Released slot shared shared' pool pool' ∧
      ∀ index ∈ indices, ∀ held message, log[held]? = some message →
        shared.descRing index = message.descriptor → ¬pool'.holds slot held := by
  induction indices generalizing shared pool with
  | nil => exact ⟨shared, pool, rfl, .refl hrep, by simp⟩
  | cons index indices ih =>
      obtain ⟨message, hmem, hdescriptor⟩ := hindices index (by simp)
      obtain ⟨-, sizeClass, hclass, hchunk⟩ := pool.wellFormed message hmem
      rw [← hdescriptor] at hclass hchunk
      obtain ⟨shared₁, pool₁, hrun₁, hreleased₁, hgone₁⟩ :=
        releaseChunkReference_spec hrep hslot hclass hchunk
      obtain ⟨shared₂, pool₂, hrun₂, hreleased₂, hgone₂⟩ :=
        ih hreleased₁.represents fun other hother => by
          rw [hreleased₁.descRing_eq]
          exact hindices other (by simp [hother])
      refine ⟨shared₂, pool₂, ?_, hreleased₁.trans hreleased₂, ?_⟩
      · rw [releaseChunkReferences, hrun₁]
        exact hrun₂
      · intro other hother held heldMessage hheld hsame hholds
        rcases List.mem_cons.mp hother with rfl | htail
        · -- A slot that still held the message would own this very chunk.
          have hbefore := hreleased₁.holds_own (hreleased₂.holds_own hholds)
          have howner := pool.owner_of_holds hheld hbefore
          rw [← hsame] at howner
          exact hgone₁ held howner (hreleased₂.holds_own hholds)
        · exact hgone₂ other htail held heldMessage hheld
            (by rw [hreleased₁.descRing_eq, hsame]) hholds

/-! ## The window between a read and the write index -/

def unreadIndices (rd wr : ℕ) : List ℕ :=
  if wr < rd then
    List.range' rd (kDescriptorSlotCount - rd) ++ List.range' 0 wr
  else List.range' rd (wr - rd)

theorem releaseChunkReferences_append (referenceBit : BitVec 32)
    (left right : List ℕ) (shared : SharedData) :
    releaseChunkReferences referenceBit (left ++ right) shared =
      match releaseChunkReferences referenceBit left shared with
      | (.none, released) => releaseChunkReferences referenceBit right released
      | (failed, released) => (failed, released) := by
  induction left generalizing shared with
  | nil => rfl
  | cons index left ih =>
      simp only [List.cons_append, releaseChunkReferences]
      generalize releaseChunkReference shared referenceBit index = result
      obtain ⟨error, released⟩ := result
      cases error <;> first | exact ih released | rfl

/-- The two segments of a wrapped window are one loop. -/
theorem releaseUnreadReferences_eq (shared : SharedData) (rd wr : ℕ)
    (referenceBit : BitVec 32) :
    releaseUnreadReferences shared rd wr referenceBit =
      releaseChunkReferences referenceBit (unreadIndices rd wr) shared := by
  unfold releaseUnreadReferences unreadIndices releaseChunkReferencesInDescriptorRange
  split
  · rw [Nat.sub_zero]
    exact (releaseChunkReferences_append _ _ _ _).symm
  · rfl

/-- The window is the ring positions of the unread messages, in order. -/
theorem unreadIndices_eq {cursor count : ℕ} (hle : cursor ≤ count)
    (hcount : count < cursor + kDescriptorSlotCount) :
    unreadIndices (cursor % kDescriptorSlotCount) (count % kDescriptorSlotCount) =
      (List.range' cursor (count - cursor)).map (· % kDescriptorSlotCount) := by
  simp only [kDescriptorSlotCount] at hcount ⊢
  unfold unreadIndices
  refine List.ext_getElem ?_ fun position hleft hright => ?_
  · split <;> simp [kDescriptorSlotCount] <;> omega
  · simp only [List.length_map, List.length_range'] at hright
    simp only [List.getElem_map, List.getElem_range']
    split
    next hwrapped =>
      simp only [List.getElem_append, kDescriptorSlotCount, List.length_range',
        List.getElem_range']
      split <;> omega
    next hwithin =>
      simp only [List.getElem_range']
      omega

theorem mem_unreadIndices_iff {cursor count index : ℕ} (hle : cursor ≤ count)
    (hcount : count < cursor + kDescriptorSlotCount) :
    index ∈ unreadIndices (cursor % kDescriptorSlotCount) (count % kDescriptorSlotCount) ↔
      ∃ position, cursor ≤ position ∧ position < count ∧
        index = position % kDescriptorSlotCount := by
  rw [unreadIndices_eq hle hcount, List.mem_map]
  simp only [List.mem_range'_1]
  constructor
  · rintro ⟨position, ⟨hposition, hlt⟩, rfl⟩
    exact ⟨position, hposition, by omega, rfl⟩
  · rintro ⟨position, hposition, hlt, rfl⟩
    exact ⟨position, ⟨hposition, by omega⟩, rfl⟩

/-! ## The whole of `reap_dead_subscribers` -/

/-- Reaping a tracked slot never fails and takes away exactly its references. -/
theorem reapDeadSubscribers_spec {process : PublisherProcess} {cursor : ℕ}
    (hrep : Represents process.shared pool) (htables : TrackingTables process)
    (hring : RingHistory process.shared log) (htracked : process.shared.Tracked slot)
    (hcursor : process.shared.descriptorReadIndices slot =
      cursor % kDescriptorSlotCount)
    (hle : cursor ≤ log.length) (hcount : log.length < cursor + kDescriptorSlotCount)
    (hholds : ∀ index, pool.holds slot index → cursor ≤ index) :
    ∃ (process' : PublisherProcess) (released : SharedData) (pool' : Pool log),
      reapDeadSubscribers process slot = (.none, process') ∧
      TrackingTables process' ∧ process'.publisher.seq = process.publisher.seq ∧
      process'.shared = released.storeReadIndex slot kInvalidIndex ∧
      Released slot process.shared released pool pool' ∧
      ∀ index, ¬pool'.holds slot index := by
  obtain ⟨hslot, hvalid⟩ := htracked
  have hindices : ∀ index ∈ unreadIndices (cursor % kDescriptorSlotCount)
      (log.length % kDescriptorSlotCount), ∃ message ∈ log,
      process.shared.descRing index = message.descriptor := by
    intro index hmem
    obtain ⟨position, hposition, hlt, rfl⟩ := (mem_unreadIndices_iff hle hcount).mp hmem
    exact ⟨log[position], List.getElem_mem hlt,
      hring.recent (List.getElem?_eq_getElem hlt) (by omega)⟩
  obtain ⟨released, pool', hrun, hreleased, hgone⟩ :=
    releaseChunkReferences_spec hrep hslot hindices
  obtain ⟨process', hforget, htables', hseq, hshared⟩ :=
    htables.forgetSubscriber_eq ⟨hslot, hvalid⟩
      (released.storeReadIndex slot kInvalidIndex)
      (by rw [SharedData.storeReadIndex, hreleased.readIndices_eq])
  refine ⟨process', released, pool', ?_, htables', hseq, hshared, hreleased, ?_⟩
  · rw [reapDeadSubscribers, if_neg (by omega), if_neg hvalid]
    dsimp only
    rw [releaseUnreadReferences_eq, hcursor, hring.write_eq, hrun]
    exact hforget
  · intro index hindex
    have hown := hreleased.holds_own hindex
    have hlt := (pool.holds_bound hown).2
    have hposition := hholds index hown
    have hmem := (mem_unreadIndices_iff hle hcount).mpr ⟨index, hposition, hlt, rfl⟩
    have hmessage : log[index]? = some log[index] := List.getElem?_eq_getElem hlt
    exact hgone _ hmem index _ hmessage (hring.recent hmessage (by omega)) hindex

end DriveBus.SharedMemory
