import DriveBus.SharedMemory.Delivery

/-!
# Chunk conservation

Three ways to count a chunk, each read off the concrete state: its occurrences
on the stored chain, the parties that have yet to append it, and the published
messages that some tracked slot still refers to.  The counts always sum to one,
and the reference masks say exactly which slots refer to the allocated ones.
-/

namespace DriveBus.SharedMemory

open DriveBus.LinkedChain DriveBus.Transition

/-! ## The places a chunk can be in -/

/-- The free chunks in the order in which the publisher would pop them. -/
def SharedData.freeChain (shared : SharedData) (sizeClass : ℕ) : List ℕ :=
  follow shared.link (shared.tail sizeClass) kTotalChunkCount (shared.head sizeClass)

namespace State

/-- Slot `slot` is tracked and has not cleared its bit for message `index`. -/
def refersTo (state : State) (slot index : ℕ) : Bool :=
  match state.readers slot with
  | some reader => reader.heldFrom ≤ index ∧ index < state.published.length
  | none => false

/-- Slot `slot` saw itself as the last holder of a chunk and has not appended it. -/
def returns (state : State) (slot offset : ℕ) : Bool :=
  (state.readers slot).bind Reader.returningOffset = some offset

/-- Message `index` occupies the chunk and some slot still refers to it. -/
def allocatedTo (state : State) (offset index : ℕ) : Bool :=
  (state.published[index]?.map fun message => message.descriptor.offset) = some offset ∧
    (List.range kMaxSubscribers).any fun slot => state.refersTo slot index

/-- In how many places a chunk is. -/
def placeCount (state : State) (sizeClass offset : ℕ) : ℕ :=
  (state.shared.freeChain sizeClass).count offset +
    (List.range kMaxSubscribers).countP (state.returns · offset) +
    (List.range state.published.length).countP (state.allocatedTo offset ·)

end State

/-- The error returns that a broken pool would trigger.  `publishAttemptFailed`
is what `try_publish_one` returns for a head out of range or already in use. -/
def Outcome.IsPoolError : Outcome → Prop
  | .publish result => result = .error .publishAttemptFailed
  | .readPayload result => result = .error .chunkOffset
  | .returnChunk result => result = .error .chunkDoubleFree
  | .reap error => error = .chunkReferenceReleaseFailed
  | _ => False

/-! ## Reading the places off the pool -/

namespace Invariant

variable {state : State} {pool : Pool state.published}

theorem refersTo_iff (hinv : Invariant state pool) {slot index : ℕ} :
    state.refersTo slot index = true ↔ pool.holds slot index := by
  rw [hinv.holds_iff, State.refersTo]
  cases state.readers slot <;> simp

theorem returns_iff (hinv : Invariant state pool) {slot offset : ℕ} :
    state.returns slot offset = true ↔ pool.owner offset = .returning slot := by
  simp [hinv.returning_iff, State.returns, Option.bind_eq_some_iff]

theorem allocatedTo_iff (hinv : Invariant state pool) {offset index : ℕ} :
    state.allocatedTo offset index = true ↔ pool.owner offset = .message index := by
  rw [pool.owner_message_iff, State.allocatedTo]
  simp only [decide_eq_true_eq, Option.map_eq_some_iff, List.any_eq_true, List.mem_range,
    hinv.refersTo_iff]
  constructor
  · rintro ⟨⟨message, hmessage, hoffset⟩, slot, -, hholds⟩
    exact ⟨message, hmessage, hoffset, slot, hholds⟩
  · rintro ⟨message, hmessage, hoffset, slot, hholds⟩
    exact ⟨⟨message, hmessage, hoffset⟩, slot, (pool.holds_bound hholds).1, hholds⟩

/-- The stored chain is the pool's free list. -/
theorem freeChain_eq (hinv : Invariant state pool) {sizeClass : ℕ}
    (hclass : sizeClass < kClassCount) :
    state.shared.freeChain sizeClass = pool.free sizeClass :=
  (hinv.represents.chain sizeClass hclass).follow_eq (pool.free_nodup sizeClass)
    ((pool.length_free_le sizeClass).trans (Nat.le_succ _))

theorem count_freeChain (hinv : Invariant state pool) {sizeClass offset : ℕ}
    (hchunk : IsChunk sizeClass offset) :
    (state.shared.freeChain sizeClass).count offset =
      if pool.owner offset = .free then 1 else 0 := by
  rw [hinv.freeChain_eq hchunk.class_lt]
  split
  next hfree =>
    exact List.count_eq_one_of_mem (pool.free_nodup sizeClass)
      (pool.mem_free_iff.mpr ⟨hchunk, hfree⟩)
  next hnot =>
    exact List.count_eq_zero_of_not_mem fun hmem => hnot (pool.mem_free_iff.mp hmem).2

end Invariant

/-- A test that one index below `bound` passes is passed once. -/
theorem countP_range_eq_one {test : ℕ → Bool} {bound found : ℕ} (hfound : found < bound)
    (htest : ∀ index, test index = true ↔ index = found) :
    (List.range bound).countP test = 1 := by
  have hcount : (List.range bound).countP test = (List.range bound).count found := by
    rw [List.count]
    exact List.countP_congr fun index _ => by simp [htest]
  rw [hcount]
  exact List.count_eq_one_of_mem List.nodup_range (List.mem_range.mpr hfound)

theorem countP_range_eq_zero {test : ℕ → Bool} {bound : ℕ}
    (htest : ∀ index, ¬test index = true) : (List.range bound).countP test = 0 :=
  List.countP_eq_zero.mpr fun index _ => htest index

/-- An explained state with no lost chunk has every chunk in one place. -/
theorem Invariant.placeCount_eq_one {state : State} {pool : Pool state.published}
    (hinv : Invariant state pool) (hnone : pool.NoneLost) {sizeClass offset : ℕ}
    (hchunk : IsChunk sizeClass offset) : state.placeCount sizeClass offset = 1 := by
  rw [State.placeCount, hinv.count_freeChain hchunk]
  cases howner : pool.owner offset with
  | free =>
      rw [if_pos rfl, countP_range_eq_zero fun slot => by simp [hinv.returns_iff, howner],
        countP_range_eq_zero fun index => by simp [hinv.allocatedTo_iff, howner]]
  | returning party =>
      obtain ⟨reader, hreader, -⟩ := hinv.returning_iff.mp howner
      rw [if_neg (by simp), countP_range_eq_one (hinv.slot_lt hreader) fun slot => by
          rw [hinv.returns_iff, howner, Owner.returning.injEq, eq_comm],
        countP_range_eq_zero fun index => by simp [hinv.allocatedTo_iff, howner]]
  | message found =>
      obtain ⟨message, hmessage, -⟩ := pool.owner_message_iff.mp howner
      rw [if_neg (by simp), countP_range_eq_zero fun slot => by
          simp [hinv.returns_iff, howner],
        countP_range_eq_one (List.getElem?_eq_some_iff.mp hmessage).1 fun index => by
          rw [hinv.allocatedTo_iff, howner, Owner.message.injEq, eq_comm]]
  | lost => exact absurd howner (hnone offset)

/-- The mask of an allocated chunk has the bits of the slots that still refer to
the message in it. -/
theorem Invariant.mask_iff_refersTo {state : State} {pool : Pool state.published}
    (hinv : Invariant state pool) {sizeClass offset index slot : ℕ}
    (hchunk : IsChunk sizeClass offset) (hslot : slot < 32)
    (hallocated : state.allocatedTo offset index = true) :
    (state.shared.chunkReferenceCounts (chunkIndex sizeClass offset)).getLsbD slot =
      state.refersTo slot index := by
  rw [hinv.allocatedTo_iff] at hallocated
  rw [Bool.eq_iff_iff, hinv.represents.mask hchunk hslot, hinv.refersTo_iff, hallocated]
  constructor
  · rintro ⟨other, hother, hholds⟩
    rw [Owner.message.injEq] at hother
    exact hother ▸ hholds
  · exact fun hholds => ⟨index, rfl, hholds⟩

theorem Outcome.not_isPoolError_of_sound {outcome : Outcome} {published : ℕ}
    (hsound : outcome.Sound published) : ¬outcome.IsPoolError := by
  intro herror
  match outcome, hsound, herror with
  | .publish (.error _), hsound, herror => simp_all [Outcome.Sound, Outcome.IsPoolError]
  | .reap _, hsound, herror => simp_all [Outcome.Sound, Outcome.IsPoolError]
  | .readPayload (.error _), hsound, herror =>
      simp_all [Outcome.Sound, Outcome.IsPoolError]
  | .returnChunk (.error _), hsound, _ => exact hsound

/-- Chunk conservation and mask exactness, in every state that runs without a
mid-message kill reach: each chunk is in one place, the stored chains end at
their tails and hold chunks of their class only, masks are exact, and no step
returns a pool error. -/
theorem chunk_in_one_place (mapped : SharedData) {state : State}
    (hreach : (dataPlane mapped).ReachableWith StopsBetweenMessages state) :
    (∀ sizeClass offset, IsChunk sizeClass offset →
      state.placeCount sizeClass offset = 1) ∧
    (∀ sizeClass < kClassCount,
      Chain state.shared.link (state.shared.head sizeClass)
        (state.shared.tail sizeClass) (state.shared.freeChain sizeClass) ∧
      ∀ offset ∈ state.shared.freeChain sizeClass, IsChunk sizeClass offset ∧
        state.shared.chunkReferenceCounts (chunkIndex sizeClass offset) = 0) ∧
    (∀ sizeClass offset index slot, IsChunk sizeClass offset → slot < 32 →
      state.allocatedTo offset index = true →
      (state.shared.chunkReferenceCounts (chunkIndex sizeClass offset)).getLsbD slot =
        state.refersTo slot index) ∧
    ∀ action outcome state', state.step action = some (outcome, state') →
      ¬outcome.IsPoolError := by
  obtain ⟨pool, hinv, hnone⟩ := noneLost_of_reachable (hreach.mono fun _ _ =>
    reapsNoReturner_of_stopsBetweenMessages)
  refine ⟨fun _ _ => hinv.placeCount_eq_one hnone, fun sizeClass hclass => ?_,
    fun _ _ _ _ => hinv.mask_iff_refersTo, fun action outcome state' hstep => ?_⟩
  · rw [hinv.freeChain_eq hclass]
    refine ⟨hinv.represents.chain sizeClass hclass, fun offset hmem => ?_⟩
    obtain ⟨hchunk, hfree⟩ := pool.mem_free_iff.mp hmem
    exact ⟨hchunk, hinv.represents.mask_eq_zero hchunk (by simp [hfree])⟩
  · obtain ⟨-, -, hsound, -⟩ := hinv.step hstep
    exact Outcome.not_isPoolError_of_sound hsound

/-- After a late join, the first chunk is being returned and the second one is
allocated to a message that both slots refer to. -/
theorem chunk_in_one_place_lateJoin : ∃ state,
    (dataPlane zeroedMapping).ReachableWith StopsBetweenMessages state ∧
    state.returns 0 0 = true ∧ state.placeCount 0 0 = 1 ∧
    state.allocatedTo 16 1 = true ∧ state.placeCount 0 16 = 1 ∧
    ∀ slot < 32, (state.shared.chunkReferenceCounts (chunkIndex 0 16)).getLsbD slot =
      state.refersTo slot 1 := by
  have hview : ((dataPlane zeroedMapping).run (State.created zeroedMapping)
      lateJoinActions).map (fun state => (state.returns 0 0, state.allocatedTo 16 1)) =
      some (true, true) := by decide +kernel
  obtain ⟨state, hrun, hstate⟩ := Option.map_eq_some_iff.mp hview
  simp only [Prod.mk.injEq] at hstate
  obtain ⟨hreturns, hallocated⟩ := hstate
  have hreach := lateJoin_reachable hrun
  obtain ⟨hplaces, -, hmasks, -⟩ := chunk_in_one_place zeroedMapping hreach
  have hfirst : IsChunk 0 0 := ⟨by decide, 0, by decide, rfl⟩
  have hsecond : IsChunk 0 16 := ⟨by decide, 1, by decide, rfl⟩
  exact ⟨state, hreach, hreturns, hplaces 0 0 hfirst, hallocated, hplaces 0 16 hsecond,
    fun slot hslot => hmasks 0 16 1 slot hsecond hslot hallocated⟩

end DriveBus.SharedMemory
