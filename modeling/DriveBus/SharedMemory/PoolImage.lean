import DriveBus.Library.LinkedChain
import DriveBus.SharedMemory.Pool
import Mathlib.Data.List.Range

/-!
# The pool in shared memory

How a mapping represents a pool: the free lists are chains of first words, the
masks list the holders of the message a chunk carries, the usage tracker marks
what is not free, and the bytes of a held message are the ones published.  Each
concrete access is matched with the pool operation that it performs.
-/

namespace DriveBus.SharedMemory

open DriveBus.ByteMemory DriveBus.LinkedChain

/-! ## The bytes of a message -/

def messageBytes (seq : ℤ) (payload : List Byte) : List Byte :=
  littleEndian wordSize kMagic ++ littleEndian wordSize (intWord seq) ++ payload

@[simp]
theorem length_messageBytes (seq : ℤ) (payload : List Byte) :
    (messageBytes seq payload).length = payload.length + kMessageHeaderSizeBytes := by
  simp only [messageBytes, List.length_append, length_littleEndian,
    kMessageHeaderSizeBytes]
  omega

/-- The three copies of `try_publish_one` are one store of the whole message. -/
theorem writeMessage_data (shared : SharedData) (wr headOff : ℕ) (seq : ℤ)
    (payload : List Byte) :
    (shared.writeMessage wr headOff seq payload).data =
      store shared.data headOff (messageBytes seq payload) := by
  have hheader : store (storeWord shared.data headOff kMagic) (headOff + wordSize)
      (littleEndian wordSize (intWord seq)) =
      store shared.data headOff
        (littleEndian wordSize kMagic ++ littleEndian wordSize (intWord seq)) := by
    simpa [storeWord] using store_append shared.data headOff
      (littleEndian wordSize kMagic) (littleEndian wordSize (intWord seq))
  cases payload with
  | nil =>
      simpa [SharedData.writeMessage, SharedData.storeDescriptor, messageBytes,
        storeWord] using hheader
  | cons byte bytes =>
      have hbody := store_append shared.data headOff
        (littleEndian wordSize kMagic ++ littleEndian wordSize (intWord seq))
        (byte :: bytes)
      have hlength : headOff + (littleEndian wordSize kMagic ++
          littleEndian wordSize (intWord seq)).length =
          headOff + kMessageHeaderSizeBytes := by
        simp [kMessageHeaderSizeBytes, wordSize]
      rw [hlength, ← hheader] at hbody
      simpa [SharedData.writeMessage, SharedData.storeDescriptor, messageBytes,
        storeWord] using hbody

/-- A store inside one chunk is invisible in every other chunk. -/
theorem IsChunk.load_store {sizeClass sizeClass' offset offset' length : ℕ}
    {bytes : List Byte} (memory : Memory) (hstored : IsChunk sizeClass offset)
    (hloaded : IsChunk sizeClass' offset') (hne : offset ≠ offset')
    (hbytes : bytes.length ≤ kClassSizeBytes sizeClass)
    (hlength : length ≤ kClassSizeBytes sizeClass') :
    load (store memory offset bytes) offset' length = load memory offset' length := by
  refine load_store_of_disjoint memory ?_
  have hdisjoint := hstored.disjoint hloaded hne
  omega

/-! ## Representation -/

structure Represents (shared : SharedData) {log : List Message} (pool : Pool log) :
    Prop where
  chain : ∀ sizeClass < kClassCount,
    Chain shared.link (shared.head sizeClass) (shared.tail sizeClass)
      (pool.free sizeClass)
  mask : ∀ {sizeClass offset slot}, IsChunk sizeClass offset → slot < 32 →
    ((shared.chunkReferenceCounts (chunkIndex sizeClass offset)).getLsbD slot = true ↔
      ∃ index, pool.owner offset = .message index ∧ pool.holds slot index)
  unused : ∀ {sizeClass offset}, IsChunk sizeClass offset →
    pool.owner offset = .free →
    shared.isInUse sizeClass (localChunkIndex sizeClass offset) = false
  inUse : ∀ {sizeClass offset}, IsChunk sizeClass offset →
    pool.owner offset ≠ .free → pool.owner offset ≠ .lost →
    shared.isInUse sizeClass (localChunkIndex sizeClass offset) = true
  content : ∀ {index slot message}, log[index]? = some message →
    pool.holds slot index →
    load shared.data message.descriptor.offset message.descriptor.len =
      messageBytes index message.payload

namespace Represents

variable {shared : SharedData} {log : List Message} {pool : Pool log}
variable {sizeClass offset slot party : ℕ}

/-! ### What the accesses see -/

theorem mask_eq_zero (hrep : Represents shared pool)
    (hchunk : IsChunk sizeClass offset)
    (howner : ∀ index, pool.owner offset ≠ .message index) :
    shared.chunkReferenceCounts (chunkIndex sizeClass offset) = 0 := by
  refine (HolderMask.eq_zero_iff _).mpr fun index hindex => ?_
  rw [← Bool.not_eq_true, hrep.mask hchunk hindex]
  rintro ⟨message, hmessage, -⟩
  exact howner message hmessage

/-- The last-holder test is exact. -/
theorem mask_eq_bit_iff (hrep : Represents shared pool)
    (hchunk : IsChunk sizeClass offset) (hslot : slot < kMaxSubscribers) :
    shared.chunkReferenceCounts (chunkIndex sizeClass offset) =
        subscriberReferenceBit slot ↔
      ∃ index, pool.owner offset = .message index ∧ pool.holds slot index ∧
        ∀ other, pool.holds other index → other = slot := by
  have hslot' : slot < 32 := by
    simp only [kMaxSubscribers] at hslot
    omega
  rw [HolderMask.eq_bit_iff]
  constructor
  · intro hbits
    obtain ⟨index, howner, hholds⟩ :=
      (hrep.mask hchunk hslot').mp ((hbits slot hslot').mpr rfl)
    refine ⟨index, howner, hholds, fun other hother => ?_⟩
    have hbound : other < 32 := by
      have hmax := (pool.holds_bound hother).1
      simp only [kMaxSubscribers] at hmax
      omega
    exact (hbits other hbound).mp ((hrep.mask hchunk hbound).mpr ⟨index, howner, hother⟩)
  · rintro ⟨index, howner, hholds, honly⟩ other hother
    rw [hrep.mask hchunk hother]
    constructor
    · rintro ⟨index', howner', hother'⟩
      rw [howner, Owner.message.injEq] at howner'
      exact honly other (howner' ▸ hother')
    · rintro rfl
      exact ⟨index, howner, hholds⟩

/-- The class of a published descriptor is the one its length selects. -/
theorem chunk_of_message {index : ℕ} {message : Message}
    (pool : Pool log) (hmessage : log[index]? = some message)
    (hclass : findSizeClass message.descriptor.len = some sizeClass) :
    IsChunk sizeClass message.descriptor.offset ∧
      message.descriptor.len ≤ kClassSizeBytes sizeClass := by
  exact ⟨(pool.wellFormed message (List.mem_of_getElem? hmessage)).isChunk hclass,
    (findSizeClass_eq_some hclass).2⟩

/-! ### Clearing a reference -/

private theorem getLsbD_clearReference (hchunk : IsChunk sizeClass offset)
    {otherClass other holder : ℕ} (hother : IsChunk otherClass other)
    (hholder : holder < 32) :
    ((shared.clearReference (chunkIndex sizeClass offset)
        (subscriberReferenceBit slot)).chunkReferenceCounts
          (chunkIndex otherClass other)).getLsbD holder = true ↔
      (shared.chunkReferenceCounts (chunkIndex otherClass other)).getLsbD holder =
          true ∧ ¬(holder = slot ∧ other = offset) := by
  by_cases hoffset : other = offset
  · subst hoffset
    obtain rfl := hother.class_unique hchunk
    simp [SharedData.clearReference, HolderMask.getLsbD_clear _ slot holder hholder]
  · have hne : chunkIndex otherClass other ≠ chunkIndex sizeClass offset :=
      fun heq => hoffset (hother.chunkIndex_injective hchunk heq)
    simp [SharedData.clearReference, hne, hoffset]

/-- The holders that remain visible in the masks after a clear. -/
private theorem mask_clear (hrep : Represents shared pool)
    (hchunk : IsChunk sizeClass offset) {otherClass other holder : ℕ}
    (hother : IsChunk otherClass other) (hholder : holder < 32) :
    ((shared.clearReference (chunkIndex sizeClass offset)
        (subscriberReferenceBit slot)).chunkReferenceCounts
          (chunkIndex otherClass other)).getLsbD holder = true ↔
      ∃ index, pool.owner other = .message index ∧
        pool.holdsWithout slot offset holder index := by
  rw [getLsbD_clearReference hchunk hother hholder, hrep.mask hother hholder]
  constructor
  · rintro ⟨⟨index, howner, hholds⟩, hnot⟩
    refine ⟨index, howner, hholds, ?_⟩
    rintro ⟨rfl, hsame⟩
    -- Two chunks owned by one message are the same chunk.
    obtain ⟨message, hmessage, hoff, -⟩ := pool.owner_message_iff.mp howner
    obtain ⟨message', hmessage', hoff', -⟩ := pool.owner_message_iff.mp hsame
    rw [hmessage, Option.some.injEq] at hmessage'
    exact hnot ⟨rfl, by rw [← hoff, hmessage', hoff']⟩
  · rintro ⟨index, howner, hholds, hnot⟩
    refine ⟨⟨index, howner, hholds⟩, ?_⟩
    rintro ⟨rfl, rfl⟩
    exact hnot ⟨rfl, howner⟩

/-- Clearing a bit that is not the last one only removes the reference. -/
theorem dropReference (hrep : Represents shared pool)
    (hchunk : IsChunk sizeClass offset)
    (hshared : ∀ index, pool.owner offset = .message index →
      ∃ other, other ≠ slot ∧ pool.holds other index) :
    Represents (shared.clearReference (chunkIndex sizeClass offset)
      (subscriberReferenceBit slot)) (pool.dropReference slot offset hshared) where
  chain := hrep.chain
  mask := hrep.mask_clear hchunk
  unused := hrep.unused
  inUse := hrep.inUse
  content := fun hmessage hholds => hrep.content hmessage hholds.1

/-- Clearing the last bit makes the clearing party answer for the chunk. -/
theorem takeLast (hrep : Represents shared pool) (party : ℕ)
    (hchunk : IsChunk sizeClass offset)
    (hlast : ∃ index, pool.owner offset = .message index ∧
      ∀ other, pool.holds other index → other = slot) :
    Represents (shared.clearReference (chunkIndex sizeClass offset)
      (subscriberReferenceBit slot)) (pool.takeLast slot offset party hlast) where
  chain := hrep.chain
  mask := by
    intro otherClass other holder hother hholder
    rw [hrep.mask_clear hchunk hother hholder]
    by_cases hoffset : other = offset
    · subst hoffset
      obtain ⟨index, howner, honly⟩ := hlast
      simp only [Pool.takeLast, Function.update_self, reduceCtorEq, false_and,
        exists_false, iff_false]
      rintro ⟨index', howner', hholds, hnot⟩
      rw [howner, Owner.message.injEq] at howner'
      subst howner'
      exact hnot ⟨honly holder hholds, howner⟩
    · simp [Pool.takeLast, hoffset]
  unused := by
    intro otherClass other hother hfree
    by_cases hoffset : other = offset
    · subst hoffset
      simp [Pool.takeLast] at hfree
    · exact hrep.unused hother (by simpa [Pool.takeLast, hoffset] using hfree)
  inUse := by
    intro otherClass other hother hfree hlost
    by_cases hoffset : other = offset
    · subst hoffset
      obtain ⟨index, howner, -⟩ := hlast
      exact hrep.inUse hother (by simp [howner]) (by simp [howner])
    · exact hrep.inUse hother (by simpa [Pool.takeLast, hoffset] using hfree)
        (by simpa [Pool.takeLast, hoffset] using hlost)
  content := fun hmessage hholds => hrep.content hmessage hholds.1

/-! ### Appending a chunk -/

theorem link_storeLink {tailOff other : ℕ} {tailClass otherClass : ℕ}
    (htail : IsChunk tailClass tailOff) (hother : IsChunk otherClass other)
    (hne : tailOff ≠ other) :
    (shared.storeLink tailOff offset).link other = shared.link other := by
  have htailSize := htail.size_ge
  have hotherSize := hother.size_ge
  exact congrArg ofLittleEndian (htail.load_store shared.data hother hne
    (by simp only [length_littleEndian, wordSize]; omega)
    (by simp only [wordSize]; omega))

theorem link_storeLink_self (hoffset : offset < 2 ^ 32) (tailOff : ℕ) :
    (shared.storeLink tailOff offset).link tailOff = offset :=
  loadWord_storeWord_self shared.data hoffset

theorem isInUse_setInUse_of_ne {otherClass other : ℕ}
    (hchunk : IsChunk sizeClass offset) (hother : IsChunk otherClass other)
    (hne : other ≠ offset) (inUse : Bool) :
    (shared.setInUse sizeClass (localChunkIndex sizeClass offset) inUse).isInUse
        otherClass (localChunkIndex otherClass other) =
      shared.isInUse otherClass (localChunkIndex otherClass other) := by
  by_cases hclass : otherClass = sizeClass
  · subst hclass
    have hlocal : localChunkIndex otherClass other ≠ localChunkIndex otherClass offset :=
      fun heq => hne (hother.localChunkIndex_injective hchunk heq)
    simp [SharedData.setInUse, hlocal]
  · simp [SharedData.setInUse, hclass]

theorem tail_mem (hrep : Represents shared pool) (hclass : sizeClass < kClassCount) :
    IsChunk sizeClass (shared.tail sizeClass) ∧
      pool.owner (shared.tail sizeClass) = .free :=
  pool.mem_free_iff.mp (hrep.chain sizeClass hclass).tail_mem

/-- Writing the link of a tail changes no chain and no held message. -/
theorem storeLink (hrep : Represents shared pool) (hclass : sizeClass < kClassCount)
    (value : ℕ) :
    Represents (shared.storeLink (shared.tail sizeClass) value) pool where
  chain := by
    intro other hother
    refine (hrep.chain other hother).congr (pool.free_nodup other) ?_
    intro node hnode hne
    have hnodeChunk := (pool.mem_free_iff.mp hnode).1
    refine link_storeLink (hrep.tail_mem hclass).1 hnodeChunk fun heq => hne ?_
    have hsame := (hrep.tail_mem hclass).1.class_unique (heq ▸ hnodeChunk)
    rw [← heq, hsame]
  mask := hrep.mask
  unused := hrep.unused
  inUse := hrep.inUse
  content := by
    intro index holder message hmessage hholds
    obtain ⟨-, messageClass, hfind, -⟩ :=
      pool.wellFormed message (List.mem_of_getElem? hmessage)
    obtain ⟨hchunk, hlen⟩ := chunk_of_message pool hmessage hfind
    have hne : shared.tail sizeClass ≠ message.descriptor.offset := fun heq => by
      have howner := pool.owner_of_holds hmessage hholds
      rw [← heq, (hrep.tail_mem hclass).2] at howner
      cases howner
    have hsize := (hrep.tail_mem hclass).1.size_ge
    rw [← hrep.content hmessage hholds]
    exact (hrep.tail_mem hclass).1.load_store shared.data hchunk hne
      (by simp only [length_littleEndian, wordSize]; omega) hlen

/-- Marking a chunk that nobody answers for. -/
theorem setInUse_of_lost (hrep : Represents shared pool)
    (hchunk : IsChunk sizeClass offset) (howner : pool.owner offset = .lost)
    (inUse : Bool) :
    Represents (shared.setInUse sizeClass (localChunkIndex sizeClass offset) inUse)
      pool where
  chain := hrep.chain
  mask := hrep.mask
  unused := by
    intro otherClass other hother hfree
    rw [isInUse_setInUse_of_ne hchunk hother fun heq => ?_]
    · exact hrep.unused hother hfree
    · rw [heq, howner] at hfree
      cases hfree
  inUse := by
    intro otherClass other hother hfree hlost
    rw [isInUse_setInUse_of_ne hchunk hother fun heq => hlost (heq ▸ howner)]
    exact hrep.inUse hother hfree hlost
  content := hrep.content

/-- Read indices are no part of the pool. -/
theorem storeReadIndex (hrep : Represents shared pool) (slot index : ℕ) :
    Represents (shared.storeReadIndex slot index) pool :=
  ⟨hrep.chain, hrep.mask, hrep.unused, hrep.inUse, hrep.content⟩

/-- Losing a chunk leaves memory as it is. -/
theorem lose (hrep : Represents shared pool)
    (hreturning : pool.owner offset = .returning party) :
    Represents shared (pool.lose offset party hreturning) where
  chain := hrep.chain
  mask := by
    intro otherClass other holder hother hholder
    refine (hrep.mask hother hholder).trans ?_
    by_cases hoffset : other = offset
    · subst hoffset
      simp [Pool.lose, hreturning]
    · simp [Pool.lose, hoffset]
  unused := by
    intro otherClass other hother hfree
    by_cases hoffset : other = offset
    · subst hoffset
      simp [Pool.lose] at hfree
    · exact hrep.unused hother (by simpa [Pool.lose, hoffset] using hfree)
  inUse := by
    intro otherClass other hother hfree hlost
    by_cases hoffset : other = offset
    · subst hoffset
      simp [Pool.lose] at hlost
    · exact hrep.inUse hother (by simpa [Pool.lose, hoffset] using hfree)
        (by simpa [Pool.lose, hoffset] using hlost)
  content := hrep.content

/-- Storing the tail of a list whose last link names the chunk puts it at the end. -/
theorem storeTail (hrep : Represents shared pool) (hchunk : IsChunk sizeClass offset)
    (hlost : pool.owner offset = .lost)
    (hlink : shared.link (shared.tail sizeClass) = offset)
    (hunused : shared.isInUse sizeClass (localChunkIndex sizeClass offset) = false) :
    Represents (shared.storeTail sizeClass offset)
      (pool.recover sizeClass offset hchunk hlost) where
  chain := by
    intro other hother
    have hchain := hrep.chain other hother
    change Chain shared.link (shared.head other)
      (Function.update shared.tail sizeClass offset other)
      (Function.update pool.free sizeClass (pool.free sizeClass ++ [offset]) other)
    by_cases hclass : other = sizeClass
    · subst hclass
      rw [Function.update_self, Function.update_self]
      exact hchain.append (pool.free_nodup other) (fun _ _ _ => rfl) hlink
    · rw [Function.update_of_ne hclass, Function.update_of_ne hclass]
      exact hchain
  mask := by
    intro otherClass other holder hother hholder
    refine (hrep.mask hother hholder).trans ?_
    by_cases hoffset : other = offset
    · subst hoffset
      simp [hlost]
    · simp [hoffset]
  unused := by
    intro otherClass other hother hfree
    by_cases hoffset : other = offset
    · subst hoffset
      obtain rfl := hother.class_unique hchunk
      exact hunused
    · rw [Pool.recover_owner, Function.update_of_ne hoffset] at hfree
      exact hrep.unused hother hfree
  inUse := by
    intro otherClass other hother hfree hnotLost
    by_cases hoffset : other = offset
    · subst hoffset
      simp at hfree
    · rw [Pool.recover_owner, Function.update_of_ne hoffset] at hfree hnotLost
      exact hrep.inUse hother hfree hnotLost
  content := hrep.content

/-- The accesses of a return perform the pool's `append`. -/
theorem appendChunk (hrep : Represents shared pool)
    (hchunk : IsChunk sizeClass offset)
    (hreturning : pool.owner offset = .returning party) :
    Represents ((shared.setInUse sizeClass (localChunkIndex sizeClass offset)
        false).appendChunk sizeClass offset)
      (pool.append sizeClass offset party hchunk hreturning) := by
  have hlost : (pool.lose offset party hreturning).owner offset = .lost :=
    Function.update_self ..
  have hunmarked := (hrep.lose hreturning).setInUse_of_lost hchunk hlost false
  have hlinked := hunmarked.storeLink hchunk.class_lt offset
  refine hlinked.storeTail hchunk hlost (link_storeLink_self ?_ _) ?_
  · have hle := hchunk.add_size_le
    simp only [kPayloadPoolSizeBytes] at hle
    omega
  · simp [SharedData.storeLink, SharedData.setInUse]

/-! ### Allocating a chunk -/

/-- Marking the head chunk and storing its link as the new head performs the pool's
`take`. -/
theorem take (hrep : Represents shared pool)
    (hhead : (pool.free sizeClass).head? = some offset)
    (hne : offset ≠ shared.tail sizeClass) :
    Represents (shared.popChunk sizeClass offset) (pool.take sizeClass offset hhead) where
  chain := by
    -- The popped chain loses its first node, every other chain is untouched.
    intro other hother
    have hchain := hrep.chain other hother
    change Chain shared.link
      (Function.update shared.head sizeClass (shared.link offset) other) (shared.tail other)
      (Function.update pool.free sizeClass (pool.free sizeClass).tail other)
    by_cases hsame : other = sizeClass
    · subst hsame
      have hhead' : shared.head other = offset := by
        have heq := hchain.head_eq
        rw [hhead, Option.some.injEq] at heq
        exact heq.symm
      obtain ⟨rest, hrest, hpopped⟩ := hchain.pop (hhead' ▸ hne)
      rw [Function.update_self, Function.update_self, hrest, List.tail_cons, ← hhead']
      exact hpopped
    · rw [Function.update_of_ne hsame, Function.update_of_ne hsame]
      exact hchain
  mask := by
    intro otherClass other holder hother hholder
    have hfree := (pool.mem_free_iff.mp (List.mem_of_mem_head? hhead)).2
    refine (hrep.mask hother hholder).trans ?_
    by_cases hoffset : other = offset
    · subst hoffset
      simp [hfree]
    · simp [hoffset]
  unused := by
    intro otherClass other hother howner
    have hchunk := (pool.mem_free_iff.mp (List.mem_of_mem_head? hhead)).1
    by_cases hoffset : other = offset
    · subst hoffset
      simp at howner
    · rw [Pool.take_owner, Function.update_of_ne hoffset] at howner
      exact (isInUse_setInUse_of_ne hchunk hother hoffset true).trans
        (hrep.unused hother howner)
  inUse := by
    intro otherClass other hother hnotFree hnotLost
    have hchunk := (pool.mem_free_iff.mp (List.mem_of_mem_head? hhead)).1
    by_cases hoffset : other = offset
    · subst hoffset
      simp at hnotLost
    · rw [Pool.take_owner, Function.update_of_ne hoffset] at hnotFree hnotLost
      exact (isInUse_setInUse_of_ne hchunk hother hoffset true).trans
        (hrep.inUse hother hnotFree hnotLost)
  content := hrep.content

/-- Nobody reads the bytes of a chunk that nobody answers for. -/
theorem writeMessage (hrep : Represents shared pool) (hchunk : IsChunk sizeClass offset)
    (hlost : pool.owner offset = .lost) (wr : ℕ) (seq : ℤ) {payload : List Byte}
    (hsize : payload.length + kMessageHeaderSizeBytes ≤ kClassSizeBytes sizeClass) :
    Represents (shared.writeMessage wr offset seq payload) pool where
  chain := by
    intro other hother
    refine (hrep.chain other hother).congr (pool.free_nodup other) fun node hnode _ => ?_
    obtain ⟨hnodeChunk, hfree⟩ := pool.mem_free_iff.mp hnode
    have hnodeSize := hnodeChunk.size_ge
    rw [SharedData.link, writeMessage_data]
    exact congrArg ofLittleEndian (hchunk.load_store _ hnodeChunk
      (fun heq => by rw [← heq, hlost] at hfree; cases hfree)
      (by rw [length_messageBytes]; exact hsize) (by simp only [wordSize]; omega))
  mask := hrep.mask
  unused := hrep.unused
  inUse := hrep.inUse
  content := by
    intro index holder message hmessage hholds
    obtain ⟨-, messageClass, hfind, -⟩ :=
      pool.wellFormed message (List.mem_of_getElem? hmessage)
    obtain ⟨hmessageChunk, hlen⟩ := chunk_of_message pool hmessage hfind
    have howner := pool.owner_of_holds hmessage hholds
    rw [writeMessage_data, hchunk.load_store _ hmessageChunk
      (fun heq => by rw [← heq, hlost] at howner; cases howner)
      (by rw [length_messageBytes]; exact hsize) hlen]
    exact hrep.content hmessage hholds

/-- Adding the references and storing the write index performs the pool's `fill`. -/
theorem fill (hrep : Represents shared pool) {message : Message}
    {slots : ℕ → Prop} {mask : BitVec 32} (index : ℕ)
    (hwellFormed : message.WellFormed)
    (hslots : ∀ slot, slots slot → slot < kMaxSubscribers) (hsome : ∃ slot, slots slot)
    (hclass : findSizeClass message.descriptor.len = some sizeClass)
    (hlost : pool.owner message.descriptor.offset = .lost)
    (hused : shared.isInUse sizeClass
      (localChunkIndex sizeClass message.descriptor.offset) = true)
    (hcontent : load shared.data message.descriptor.offset message.descriptor.len =
      messageBytes log.length message.payload)
    (hmask : ∀ slot < 32, mask.getLsbD slot = true ↔ slots slot) :
    Represents ((shared.addReferences
        (chunkIndex sizeClass message.descriptor.offset) mask).storeWriteIndex index)
      (pool.fill message slots hwellFormed hslots hsome hlost) where
  chain := hrep.chain
  mask := by
    -- The mask of a chunk without a message is zero, so adding stores the new mask.
    intro otherClass other holder hother hholder
    have hchunk := hwellFormed.isChunk hclass
    have hzero := hrep.mask_eq_zero hchunk (by simp [hlost])
    change ((Function.update shared.chunkReferenceCounts
      (chunkIndex sizeClass message.descriptor.offset)
      (shared.chunkReferenceCounts (chunkIndex sizeClass message.descriptor.offset) +
        mask)) (chunkIndex otherClass other)).getLsbD holder = true ↔ _
    by_cases hoffset : other = message.descriptor.offset
    · subst hoffset
      obtain rfl := hother.class_unique hchunk
      have hfresh : ¬pool.holds holder log.length := fun hholds =>
        absurd (pool.holds_bound hholds).2 (lt_irrefl _)
      simp [hzero, hmask holder hholder, hfresh]
    · have hindex : chunkIndex otherClass other ≠
          chunkIndex sizeClass message.descriptor.offset :=
        fun heq => hoffset (hother.chunkIndex_injective hchunk heq)
      rw [Function.update_of_ne hindex, hrep.mask hother hholder]
      simp only [Pool.fill_owner, Function.update_of_ne hoffset, Pool.fill_holds]
      constructor
      · rintro ⟨index, howner, hholds⟩
        exact ⟨index, howner, .inl hholds⟩
      · rintro ⟨index, howner, hholds | ⟨rfl, -⟩⟩
        · exact ⟨index, howner, hholds⟩
        · obtain ⟨_, hnone, -⟩ := pool.owner_message_iff.mp howner
          simp at hnone
  unused := by
    intro otherClass other hother howner
    by_cases hoffset : other = message.descriptor.offset
    · subst hoffset
      simp at howner
    · rw [Pool.fill_owner, Function.update_of_ne hoffset] at howner
      exact hrep.unused hother howner
  inUse := by
    intro otherClass other hother hnotFree hnotLost
    by_cases hoffset : other = message.descriptor.offset
    · subst hoffset
      obtain rfl := hother.class_unique (hwellFormed.isChunk hclass)
      exact hused
    · rw [Pool.fill_owner, Function.update_of_ne hoffset] at hnotFree hnotLost
      exact hrep.inUse hother hnotFree hnotLost
  content := by
    intro held holder other hother hholds
    rcases hholds with hold | ⟨rfl, -⟩
    · have hlt := (pool.holds_bound hold).2
      rw [List.getElem?_append_left hlt] at hother
      exact hrep.content hother hold
    · rw [List.getElem?_concat_length, Option.some.injEq] at hother
      subst hother
      exact hcontent

/-- What `writeMessage` leaves in the chunk. -/
theorem load_writeMessage (shared : SharedData) (wr headOff : ℕ) (seq : ℤ)
    (payload : List Byte) :
    load (shared.writeMessage wr headOff seq payload).data headOff
        (payload.length + kMessageHeaderSizeBytes) = messageBytes seq payload := by
  rw [writeMessage_data, ← length_messageBytes seq payload]
  exact load_store_self _ _ _

end Represents

/-! ## The initial mapping -/

/-- `linkFreeChunks` writes nothing outside the chunks it links. -/
theorem loadWord_linkFreeChunks_of_disjoint {chunkSizeBytes remaining offset other : ℕ}
    (data : Memory)
    (hdisjoint : other + wordSize ≤ offset ∨
      offset + remaining * chunkSizeBytes + wordSize ≤ other) :
    loadWord (linkFreeChunks chunkSizeBytes remaining offset data) other =
      loadWord data other := by
  induction remaining generalizing offset data with
  | zero =>
      exact loadWord_storeWord_of_disjoint data (by omega)
  | succ remaining ih =>
      rw [Nat.succ_mul] at hdisjoint
      rw [linkFreeChunks, ih _ (by omega)]
      exact loadWord_storeWord_of_disjoint data (by omega)

/-- Every chunk but the last links to the next one. -/
theorem loadWord_linkFreeChunks {chunkSizeBytes remaining offset index : ℕ}
    (data : Memory) (hsize : wordSize ≤ chunkSizeBytes) (hindex : index < remaining)
    (hbound : offset + remaining * chunkSizeBytes < 2 ^ 32) :
    loadWord (linkFreeChunks chunkSizeBytes remaining offset data)
        (offset + index * chunkSizeBytes) =
      offset + (index + 1) * chunkSizeBytes := by
  induction remaining generalizing offset data index with
  | zero => omega
  | succ remaining ih =>
      rw [Nat.succ_mul] at hbound
      rw [linkFreeChunks]
      cases index with
      | zero =>
          rw [Nat.zero_mul, Nat.add_zero,
            loadWord_linkFreeChunks_of_disjoint _ (by omega),
            loadWord_storeWord_self _ (by omega)]
          omega
      | succ index =>
          have hnext : loadWord (linkFreeChunks chunkSizeBytes remaining
              (offset + chunkSizeBytes) (storeWord data offset (offset + chunkSizeBytes)))
              (offset + chunkSizeBytes + index * chunkSizeBytes) = _ :=
            ih _ (by omega) (by omega)
          rw [show offset + (index + 1) * chunkSizeBytes =
            offset + chunkSizeBytes + index * chunkSizeBytes by
              rw [Nat.succ_mul]; omega, hnext]
          rw [Nat.succ_mul (index + 1)]
          omega

/-- The classes lie one behind the other. -/
theorem class_end_le {sizeClass later : ℕ} (hlt : sizeClass < later)
    (hlater : later < kClassCount) :
    kFirstOffset sizeClass +
        kChunkCountBySizeClass sizeClass * kClassSizeBytes sizeClass ≤
      kFirstOffset later := by
  unfold kClassCount at hlater
  interval_cases later <;> interval_cases sizeClass <;> decide

theorem loadWord_initialData (data : Memory) {sizeClass index : ℕ}
    (hclass : sizeClass < kClassCount)
    (hindex : index + 1 < kChunkCountBySizeClass sizeClass) :
    loadWord (initialData data)
        (kFirstOffset sizeClass + index * kClassSizeBytes sizeClass) =
      kFirstOffset sizeClass + (index + 1) * kClassSizeBytes sizeClass := by
  -- Induction over the classes threaded so far.
  suffices hclasses : ∀ count ≤ kClassCount, sizeClass < count →
      loadWord ((List.range count).foldl (fun data sizeClass =>
          linkFreeChunks (kClassSizeBytes sizeClass)
            (kChunkCountBySizeClass sizeClass - 1) (initialHead sizeClass) data) data)
        (kFirstOffset sizeClass + index * kClassSizeBytes sizeClass) =
      kFirstOffset sizeClass + (index + 1) * kClassSizeBytes sizeClass from
    hclasses kClassCount le_rfl hclass
  have hsize := kClassSizeBytes_ge hclass
  intro count hcount hlt
  induction count with
  | zero => omega
  | succ count ih =>
      have hcountClass : count < kClassCount := by omega
      have hcountSize := kClassSizeBytes_ge hcountClass
      rw [List.range_succ, List.foldl_append, List.foldl_cons, List.foldl_nil,
        initialHead_eq hcountClass]
      by_cases hlast : sizeClass = count
      · subst hlast
        refine loadWord_linkFreeChunks _ (by simp only [wordSize]; omega) (by omega) ?_
        have hlastChunk : IsChunk sizeClass (kFirstOffset sizeClass +
            (kChunkCountBySizeClass sizeClass - 1) * kClassSizeBytes sizeClass) :=
          ⟨hclass, _, by omega, rfl⟩
        have hle := hlastChunk.add_size_le
        simp only [kPayloadPoolSizeBytes] at hle
        omega
      · have hbefore : sizeClass < count := by omega
        have hend := class_end_le hbefore hcountClass
        rw [loadWord_linkFreeChunks_of_disjoint _, ih (by omega) hbefore]
        left
        have hmul : (index + 1) * kClassSizeBytes sizeClass ≤
            kChunkCountBySizeClass sizeClass * kClassSizeBytes sizeClass :=
          Nat.mul_le_mul_right _ (by omega)
        rw [Nat.succ_mul] at hmul
        simp only [wordSize]
        omega

/-- A freshly initialized mapping represents the initial pool. -/
theorem represents_initial (mapped : SharedData) :
    Represents (initializeSharedData mapped) Pool.initial where
  chain := by
    intro sizeClass hclass
    have hpos := kChunkCountBySizeClass_pos hclass
    simp only [initializeSharedData, Pool.initial, hclass, if_true,
      initialHead_eq hclass, initialTail_eq hclass]
    refine ⟨?_, ?_, ?_⟩
    · simp [chunkOffsets, List.head?_range, show kChunkCountBySizeClass sizeClass ≠ 0
        by omega]
    · simp [chunkOffsets, List.getLast?_range, show kChunkCountBySizeClass sizeClass ≠ 0
        by omega]
    · rw [chunkOffsets, List.isChain_map, List.isChain_range]
      intro index hindex
      exact loadWord_initialData mapped.data hclass (by omega)
  mask := by
    intro sizeClass offset slot hchunk _
    simp [initializeSharedData, Pool.initial, hchunk.chunkIndex_lt]
  unused := by
    intro sizeClass offset _ _
    rfl
  inUse := by
    intro sizeClass offset _ hfree
    exact absurd rfl hfree
  content := fun _ hholds => hholds.elim

end DriveBus.SharedMemory
