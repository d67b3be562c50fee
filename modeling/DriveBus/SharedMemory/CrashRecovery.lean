import DriveBus.SharedMemory.Conservation

/-!
# Crash recovery

A subscriber can be killed between any two accesses of its iteration, the three
accesses of the append included.  Reaping it gives back everything it still
referred to, with one exception: a victim that has cleared the last reference to
a chunk and has not stored the tail takes the chunk with it, because its bit is
already clear when the publisher looks.
-/

namespace DriveBus.SharedMemory

open DriveBus.ByteMemory DriveBus.LinkedChain DriveBus.Transition

/-! ## Kills and their aftermath -/

/-- Where a kill falls: between two steps of the reader, or inside the append
after the named access. -/
inductive KillPoint
  | betweenSteps
  | afterTrackerClear
  | afterTailLoad
  | afterTailLink
  deriving DecidableEq, Repr

/-- The mapping as a reader killed at `point` leaves it. -/
def Reader.killedAt (reader : Reader) (shared : SharedData) :
    KillPoint → Option SharedData
  | .betweenSteps => some shared
  | point =>
      match reader.phase with
      | .indexStored descriptor sizeClass =>
          let localChunk := localChunkIndex sizeClass descriptor.offset
          if shared.isInUse sizeClass localChunk = false then none
          else
            let cleared := shared.setInUse sizeClass localChunk false
            match point with
            | .afterTailLink =>
                some (cleared.storeLink (cleared.tail sizeClass) descriptor.offset)
            | _ => some cleared
      | _ => none

/-- The subscriber of `slotIndex` is killed at `point`, and the publisher reaps
the slot. -/
def State.killAndReap (state : State) (slotIndex : ℕ) (point : KillPoint) :
    Option (RunError × State) := do
  let reader ← state.readers slotIndex
  let shared ← reader.killedAt state.shared point
  let (error, process) :=
    reapDeadSubscribers { state.toPublisherProcess with shared } slotIndex
  some (error, { state with
    toPublisherProcess := process
    readers := Function.update state.readers slotIndex none
    retired := state.retired ++ [reader] })

/-- Every chunk is on its chain, once, or is referred to by the set bit of a
tracked slot that has yet to consume it, or is about to be appended by a
subscriber that is still alive. -/
def State.PoolWhole (state : State) : Prop :=
  ∀ sizeClass offset, IsChunk sizeClass offset →
    (state.shared.freeChain sizeClass).count offset = 1 ∨
    (∃ index slot, state.allocatedTo offset index = true ∧
      state.refersTo slot index = true ∧
      (state.shared.chunkReferenceCounts (chunkIndex sizeClass offset)).getLsbD slot =
        true) ∨
    ∃ slot, state.returns slot offset = true

/-- The chains are intact and hold no chunk twice. -/
def State.ChainsIntact (state : State) : Prop :=
  ∀ sizeClass < kClassCount,
    Chain state.shared.link (state.shared.head sizeClass)
      (state.shared.tail sizeClass) (state.shared.freeChain sizeClass) ∧
    (state.shared.freeChain sizeClass).Nodup

/-- What slot `slot` is still due: its reader, and the payloads it will find in
memory behind the descriptors it has not copied yet. -/
def State.due (state : State) (slot : ℕ) : Option (Reader × List (List Byte)) :=
  (state.readers slot).map fun reader =>
    (reader, (state.published.drop reader.next).map fun message =>
      load state.shared.data (message.descriptor.offset + kMessageHeaderSizeBytes)
        (message.descriptor.len - kMessageHeaderSizeBytes))

/-- The ring, the write index, and what the slots other than `slot` have in the mapping and
are still due, are the same in both states. -/
structure State.SparesOthers (state state' : State) (slot : ℕ) : Prop where
  descRing : state'.shared.descRing = state.shared.descRing
  writeIndex : state'.shared.descriptorWriteIndex = state.shared.descriptorWriteIndex
  readIndex : ∀ other ≠ slot, state'.shared.descriptorReadIndices other =
    state.shared.descriptorReadIndices other
  references : ∀ other ≠ slot, other < 32 → ∀ sizeClass offset, IsChunk sizeClass offset →
    (state'.shared.chunkReferenceCounts (chunkIndex sizeClass offset)).getLsbD other =
      (state.shared.chunkReferenceCounts (chunkIndex sizeClass offset)).getLsbD other
  due : ∀ other ≠ slot, state'.due other = state.due other

/-! ## Consequences of the invariant -/

namespace Invariant

variable {state : State} {pool : Pool state.published} {slot : ℕ} {reader : Reader}

/-- A bit in a mask is a message in that chunk which the slot's reader has yet to give up. -/
theorem mask_iff_reader (hinv : Invariant state pool) {sizeClass offset : ℕ}
    (hchunk : IsChunk sizeClass offset) (hslot : slot < 32) :
    (state.shared.chunkReferenceCounts (chunkIndex sizeClass offset)).getLsbD slot = true ↔
      ∃ index message reader, state.published[index]? = some message ∧
        message.descriptor.offset = offset ∧ state.readers slot = some reader ∧
        reader.heldFrom ≤ index := by
  rw [hinv.represents.mask hchunk hslot]
  constructor
  · rintro ⟨index, howner, hholds⟩
    obtain ⟨message, hmessage, hoffset, -⟩ := pool.owner_message_iff.mp howner
    obtain ⟨reader, hreader, hle, -⟩ := hinv.holds_iff.mp hholds
    exact ⟨index, message, reader, hmessage, hoffset, hreader, hle⟩
  · rintro ⟨index, message, reader, hmessage, rfl, hreader, hle⟩
    have hholds : pool.holds slot index := hinv.holds_iff.mpr
      ⟨reader, hreader, hle, (List.getElem?_eq_some_iff.mp hmessage).1⟩
    exact ⟨index, pool.owner_of_holds hmessage hholds, hholds⟩

theorem chainsIntact (hinv : Invariant state pool) : state.ChainsIntact := by
  intro sizeClass hclass
  rw [hinv.freeChain_eq hclass]
  exact ⟨hinv.represents.chain sizeClass hclass, pool.free_nodup sizeClass⟩

/-- The pool is whole exactly when no chunk is lost. -/
theorem poolWhole_iff (hinv : Invariant state pool) :
    state.PoolWhole ↔ ∀ sizeClass offset, IsChunk sizeClass offset →
      pool.owner offset ≠ .lost := by
  constructor
  · intro hwhole sizeClass offset hchunk hlost
    rcases hwhole sizeClass offset hchunk with hcount | ⟨index, slot, hallocated, -⟩ |
      ⟨slot, hreturns⟩
    · simp [hinv.count_freeChain hchunk, hlost] at hcount
    · simp [hinv.allocatedTo_iff, hlost] at hallocated
    · simp [hinv.returns_iff, hlost] at hreturns
  · intro hnone sizeClass offset hchunk
    cases howner : pool.owner offset with
    | free => exact .inl (by simp [hinv.count_freeChain hchunk, howner])
    | returning party => exact .inr (.inr ⟨party, hinv.returns_iff.mpr howner⟩)
    | message index =>
        obtain ⟨-, -, -, slot, hholds⟩ := pool.owner_message_iff.mp howner
        have hslot : slot < 32 := by
          have hbound := (pool.holds_bound hholds).1
          simp only [kMaxSubscribers] at hbound
          omega
        have hallocated := hinv.allocatedTo_iff.mpr howner
        have hrefers := hinv.refersTo_iff.mpr hholds
        exact .inr (.inl ⟨index, slot, hallocated, hrefers,
          (hinv.mask_iff_refersTo hchunk hslot hallocated).trans hrefers⟩)
    | lost => exact absurd howner (hnone sizeClass offset hchunk)

/-- What a reader is due is what was published. -/
theorem due_eq (hinv : Invariant state pool) (hreader : state.readers slot = some reader) :
    state.due slot =
      some (reader, (state.published.drop reader.next).map Message.payload) := by
  rw [State.due, hreader, Option.map_some, Option.some.injEq, Prod.mk.injEq]
  refine ⟨rfl, List.map_congr_left fun message hmem => ?_⟩
  obtain ⟨position, hposition⟩ := List.getElem?_of_mem hmem
  rw [List.getElem?_drop] at hposition
  have hlt := (List.getElem?_eq_some_iff.mp hposition).1
  have hholds : pool.holds slot (reader.next + position) :=
    (hinv.holds_own_iff hreader).mpr
      ⟨Reader.heldFrom_le_next.trans (Nat.le_add_right _ _), hlt⟩
  have hcontent := hinv.represents.content hposition hholds
  have hlen := (pool.wellFormed message (List.mem_of_getElem? hposition)).1
  rw [hlen] at hcontent ⊢
  rw [Nat.add_sub_cancel]
  exact (loadWord_of_messageBytes hcontent).2.2

/-- The chunk that a reader is returning. -/
theorem returningOffset_isChunk (hinv : Invariant state pool)
    (hreader : state.readers slot = some reader) {offset : ℕ}
    (hreturning : reader.returningOffset = some offset) :
    ∃ sizeClass, IsChunk sizeClass offset := by
  unfold Reader.returningOffset at hreturning
  split at hreturning
  next descriptor sizeClass hphase =>
    cases hreturning
    exact ⟨sizeClass, (hinv.reader hreader).current_isChunk
      (by simp [Reader.currentChunk, hphase])⟩
  next descriptor sizeClass hphase =>
    cases hreturning
    exact ⟨sizeClass, (hinv.reader hreader).current_isChunk
      (by simp [Reader.currentChunk, hphase])⟩
  next => cases hreturning

/-! ## Kills inside the append -/

/-- Whatever part of its append a victim has executed, memory represents the
pool in which its chunk is abandoned, and the ring is untouched. -/
theorem killedAt_represents (hinv : Invariant state pool)
    (hreader : state.readers slot = some reader) {abandoned : Pool state.published}
    (hrep : Represents state.shared abandoned)
    (hlost : ∀ offset, abandoned.owner offset = .lost ↔
      pool.owner offset = .lost ∨ reader.returningOffset = some offset)
    {point : KillPoint} {shared : SharedData}
    (hkilled : reader.killedAt state.shared point = some shared) :
    Represents shared abandoned ∧
      shared.descriptorReadIndices = state.shared.descriptorReadIndices ∧
      shared.descriptorWriteIndex = state.shared.descriptorWriteIndex ∧
      shared.descRing = state.shared.descRing := by
  unfold Reader.killedAt at hkilled
  split at hkilled
  next =>
    cases hkilled
    exact ⟨hrep, rfl, rfl, rfl⟩
  next =>
    split at hkilled
    next descriptor sizeClass hphase =>
      have hchunk : IsChunk sizeClass descriptor.offset :=
        (hinv.reader hreader).current_isChunk (by simp [Reader.currentChunk, hphase])
      have howner : abandoned.owner descriptor.offset = .lost :=
        (hlost _).mpr (.inr (by simp [Reader.returningOffset, hphase]))
      have hcleared := hrep.setInUse_of_lost hchunk howner false
      dsimp only at hkilled
      split at hkilled
      next => cases hkilled
      next =>
        split at hkilled
        next =>
          cases hkilled
          exact ⟨hcleared.storeLink hchunk.class_lt _, rfl, rfl, rfl⟩
        next =>
          cases hkilled
          exact ⟨hcleared, rfl, rfl, rfl⟩
    next => cases hkilled

/-- Reaping a subscriber killed at any point leads to an explained state, in
which the chunk that the victim was returning is lost and nothing else is. -/
theorem killAndReap (hinv : Invariant state pool) {point : KillPoint} {error : RunError}
    {state' : State} (hkill : state.killAndReap slot point = some (error, state')) :
    ∃ (reader : Reader) (pool' : Pool state'.published),
      state.readers slot = some reader ∧ error = .none ∧ Invariant state' pool' ∧
      state'.published = state.published ∧
      state'.readers = Function.update state.readers slot none ∧
      (∀ offset, pool'.owner offset = .lost ↔
        pool.owner offset = .lost ∨ reader.returningOffset = some offset) ∧
      state'.shared.descRing = state.shared.descRing ∧
      state'.shared.descriptorWriteIndex = state.shared.descriptorWriteIndex ∧
      ∀ other ≠ slot, state'.shared.descriptorReadIndices other =
        state.shared.descriptorReadIndices other := by
  simp only [State.killAndReap, Option.bind_eq_bind, Option.bind_eq_some_iff] at hkill
  obtain ⟨reader, hreader, shared, hkilled, hkill⟩ := hkill
  obtain ⟨abandoned, hrep, hholds, -, howner⟩ := hinv.exists_abandoned hreader
  have hlost := abandoned_lost_iff howner hinv hreader
  obtain ⟨hrep', hreads, hwrite, hdescRing⟩ :=
    hinv.killedAt_represents hreader hrep hlost hkilled
  obtain ⟨process, pool', hreap, hinv', hlost', hspared⟩ :=
    hinv.reapAbandoned hreader hrep' hreads hwrite hdescRing hholds
      (abandoned_returning_iff howner)
  rw [hreap] at hkill
  simp only [Option.some.injEq, Prod.mk.injEq] at hkill
  obtain ⟨rfl, rfl⟩ := hkill
  exact ⟨reader, pool', hreader, rfl, hinv', rfl, rfl, fun offset =>
    (hlost' offset).trans (hlost offset), hspared⟩

/-- A reap takes nothing from the other slots, and its own slot is free again. -/
theorem killAndReap_spares (hinv : Invariant state pool) {point : KillPoint}
    {error : RunError} {state' : State}
    (hkill : state.killAndReap slot point = some (error, state')) :
    state.SparesOthers state' slot ∧ ¬state'.shared.Tracked slot := by
  obtain ⟨-, pool', -, -, hinv', hpublished, hreaders, -, hdescRing, hwrite, hreads⟩ :=
    hinv.killAndReap hkill
  have hsame : ∀ other ≠ slot, state'.readers other = state.readers other := fun other hne => by
    rw [hreaders, Function.update_of_ne hne]
  refine ⟨⟨hdescRing, hwrite, hreads, fun other hne hother sizeClass offset hchunk => ?_,
    fun other hne => ?_⟩, fun htracked => ?_⟩
  · rw [Bool.eq_iff_iff, hinv'.mask_iff_reader hchunk hother,
      hinv.mask_iff_reader hchunk hother, hsame other hne, hpublished]
  · cases hother : state.readers other with
    | none => simp [State.due, hsame other hne, hother]
    | some survivor =>
        rw [hinv.due_eq hother, hinv'.due_eq ((hsame other hne).trans hother), hpublished]
  · obtain ⟨reader, hreader⟩ := hinv'.tracked_iff.mp htracked
    rw [hreaders, Function.update_self] at hreader
    cases hreader

/-- The pool is whole after a reap unless the victim was a last holder on its
way to the tail store. -/
theorem poolWhole_killAndReap_iff (hinv : Invariant state pool) (hnone : pool.NoneLost)
    {point : KillPoint} {error : RunError} {state' : State}
    (hkill : state.killAndReap slot point = some (error, state')) :
    state'.PoolWhole ↔ ∀ offset, state.returns slot offset = false := by
  obtain ⟨reader, pool', hreader, -, hinv', -, -, hlost, -⟩ := hinv.killAndReap hkill
  rw [hinv'.poolWhole_iff]
  constructor
  · intro hwhole offset
    by_contra hreturns
    have hreturning : reader.returningOffset = some offset := by
      simpa [State.returns, hreader] using hreturns
    obtain ⟨sizeClass, hchunk⟩ := hinv.returningOffset_isChunk hreader hreturning
    exact hwhole sizeClass offset hchunk ((hlost offset).mpr (.inr hreturning))
  · intro hspared sizeClass offset _ howner
    rcases (hlost offset).mp howner with hold | hreturning
    · exact hnone offset hold
    · have hreturns := hspared offset
      simp [State.returns, hreader, hreturning] at hreturns

end Invariant

/-! ## Recovery -/

/-- Crash safety of message consumption, exactly where it holds.  From any state
reached without having reaped a returner, and for a kill at any point of the
victim's iteration: the reap succeeds, the chains stay intact, the ring and what the
survivors have and are due in it are as before, the victim's slot is free, and the pool
is whole again if and only if the victim was not a last holder between its mask clear
and its tail store. -/
theorem reap_restores_pool_iff (mapped : SharedData) {state state' : State} {slot : ℕ}
    {point : KillPoint} {error : RunError}
    (hreach : (dataPlane mapped).ReachableWith ReapsNoReturner state)
    (hkill : state.killAndReap slot point = some (error, state')) :
    error = .none ∧ state'.ChainsIntact ∧ state.SparesOthers state' slot ∧
      ¬state'.shared.Tracked slot ∧
      (state'.PoolWhole ↔ ∀ offset, state.returns slot offset = false) := by
  obtain ⟨pool, hinv, hnone⟩ := noneLost_of_reachable hreach
  have hwhole := hinv.poolWhole_killAndReap_iff hnone hkill
  obtain ⟨hspares, huntracked⟩ := hinv.killAndReap_spares hkill
  obtain ⟨-, pool', -, rfl, hinv', -⟩ := hinv.killAndReap hkill
  exact ⟨rfl, hinv'.chainsIntact, hspares, huntracked, hwhole⟩

/-- One subscriber reads one message and clears the last reference to it. -/
def lastHolderActions : List Action :=
  [.track 7 0, .publish [1], .fetchDescriptors 0, .readPayload 0, .clearReference 0]

/-- A second subscriber holds the message as well, so the first one's clear does
not make it the last holder. -/
def sharedHolderActions : List Action :=
  [.track 7 0, .track 8 1, .publish [1], .fetchDescriptors 0, .readPayload 0,
    .clearReference 0]

theorem lastHolder_reachable {final : State}
    (hrun : (dataPlane zeroedMapping).run (State.created zeroedMapping)
      lastHolderActions = some final) :
    (dataPlane zeroedMapping).ReachableWith StopsBetweenMessages final := by
  refine System.ReachableWith.initial.run (fun state action hmem => ?_) hrun
  simp only [lastHolderActions, List.mem_cons, List.not_mem_nil, or_false] at hmem
  rcases hmem with rfl | rfl | rfl | rfl | rfl <;> trivial

theorem sharedHolder_reachable {final : State}
    (hrun : (dataPlane zeroedMapping).run (State.created zeroedMapping)
      sharedHolderActions = some final) :
    (dataPlane zeroedMapping).ReachableWith ReapsNoReturner final := by
  refine System.ReachableWith.initial.run (fun state action hmem => ?_) hrun
  simp only [sharedHolderActions, List.mem_cons, List.not_mem_nil, or_false] at hmem
  rcases hmem with rfl | rfl | rfl | rfl | rfl | rfl <;> trivial

/-- Killing the first of two holders after its mask clear is harmless. -/
theorem reap_restores_pool_sharedHolder : ∃ state state' error,
    (dataPlane zeroedMapping).ReachableWith ReapsNoReturner state ∧
    state.killAndReap 0 .betweenSteps = some (error, state') ∧
    error = .none ∧ (∃ reader, state.readers 1 = some reader) ∧
    state'.due 1 = state.due 1 ∧ ¬state'.shared.Tracked 0 ∧
    (state'.PoolWhole ↔ ∀ offset, state.returns 0 offset = false) := by
  have hview : ((dataPlane zeroedMapping).run (State.created zeroedMapping)
      sharedHolderActions).bind (fun state => (state.killAndReap 0 .betweenSteps).map
        fun _ => (state.readers 1).isSome) = some true := by decide +kernel
  obtain ⟨state, hrun, hafter⟩ := Option.bind_eq_some_iff.mp hview
  obtain ⟨⟨error, state'⟩, hkill, hsurvivor⟩ := Option.map_eq_some_iff.mp hafter
  have hreach := sharedHolder_reachable hrun
  obtain ⟨herror, -, hspares, huntracked, hwhole⟩ :=
    reap_restores_pool_iff zeroedMapping hreach hkill
  exact ⟨state, state', error, hreach, hkill, herror, Option.isSome_iff_exists.mp hsurvivor,
    hspares.due 1 (by decide), huntracked, hwhole⟩

/-- Crash safety fails for a subscriber killed right after clearing the last
reference: its chunk is on no chain, in no mask and with no living party. -/
theorem reap_loses_chunk_of_last_holder :
    ¬∀ (mapped : SharedData) (state state' : State) (slot : ℕ) (point : KillPoint)
      (error : RunError),
      (dataPlane mapped).ReachableWith StopsBetweenMessages state →
      state.killAndReap slot point = some (error, state') → state'.PoolWhole := by
  intro hclaim
  have hview : ((dataPlane zeroedMapping).run (State.created zeroedMapping)
      lastHolderActions).bind (fun state => (state.killAndReap 0 .betweenSteps).map
        fun _ => state.returns 0 0) = some true := by decide +kernel
  obtain ⟨state, hrun, hafter⟩ := Option.bind_eq_some_iff.mp hview
  obtain ⟨⟨error, state'⟩, hkill, hreturns⟩ := Option.map_eq_some_iff.mp hafter
  have hreach := lastHolder_reachable hrun
  have hwhole := hclaim zeroedMapping state state' 0 .betweenSteps error hreach hkill
  obtain ⟨pool, hinv, hnone⟩ := noneLost_of_reachable (hreach.mono fun _ _ =>
    reapsNoReturner_of_stopsBetweenMessages)
  have hspared := (hinv.poolWhole_killAndReap_iff hnone hkill).mp hwhole 0
  rw [hreturns] at hspared
  cases hspared

end DriveBus.SharedMemory
