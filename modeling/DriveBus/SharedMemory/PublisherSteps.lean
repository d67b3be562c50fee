import DriveBus.SharedMemory.ReaderSteps
import DriveBus.SharedMemory.RingAdmission

/-!
# Publisher steps preserve the invariant

Publishing, tracking and reaping, each as the one step it is for the readers.
A publish that passes the admission test has room for one more descriptor
behind every reader and a free chunk that nobody is still reading; a reap takes
the victim out of every mask, and loses a chunk exactly when the victim was
killed on its way to returning one.
-/

namespace DriveBus.SharedMemory

open DriveBus.ByteMemory DriveBus.Transition

/-- A published message reaches a reader that has room for it. -/
theorem ReaderInvariant.publish {log : List Message} {readIndex slot : ℕ}
    {reader : Reader} (hinv : ReaderInvariant log readIndex slot reader)
    (message : Message)
    (hroom : log.length + 1 < reader.cursor + kDescriptorSlotCount) :
    ReaderInvariant (log ++ [message]) readIndex slot reader := by
  have hextend : ∀ {index other}, log[index]? = some other →
      (log ++ [message])[index]? = some other := fun hother => by
    rw [List.getElem?_append_left (List.getElem?_eq_some_iff.mp hother).1, hother]
  have hlength : (log ++ [message]).length = log.length + 1 := by simp
  exact
    { slotIndex_eq := hinv.slotIndex_eq
      slot_lt := hinv.slot_lt
      readIndex_eq := hinv.readIndex_eq
      joinedAt_le := hinv.joinedAt_le
      next_le := by rw [hlength]; exact hinv.next_le.trans (Nat.le_succ _)
      length_lt := by rw [hlength]; exact hroom
      localIndex := hinv.localIndex
      copied := fun hcopied => by
        obtain ⟨other, hother, hdescriptor⟩ := hinv.copied hcopied
        exact ⟨other, hextend hother, hdescriptor⟩
      messages_eq := by
        rw [Reader.delivered_append hinv.next_le]
        exact hinv.messages_eq
      expected := fun hbound => hinv.expected (by omega)
      current_isChunk := hinv.current_isChunk
      current_message := fun hphase => by
        obtain ⟨other, hother, hdescriptor⟩ := hinv.current_message hphase
        exact ⟨other, hextend hother, hdescriptor⟩ }

namespace Invariant

variable {state state' : State} {pool : Pool state.published} {slot : ℕ}
variable {outcome : Outcome}

/-! ## Publishing -/

theorem ringIndices (hinv : Invariant state pool) : RingIndices state.shared where
  write_lt := hinv.write_lt
  read_lt := by
    intro slot hslot
    cases hreader : state.readers slot with
    | none => exact .inl (hinv.untracked hslot hreader)
    | some reader =>
        right
        rw [(hinv.reader hreader).readIndex_eq]
        exact Nat.mod_lt _ (by decide)

/-- The admission test leaves room for a descriptor behind every reader. -/
theorem room_of_admitted (hinv : Invariant state pool)
    (hadmitted : ¬DescriptorsBlocked (findSlowestReadIndex state.shared)
      state.shared.descriptorWriteIndex) :
    (∃ slot, state.shared.Tracked slot) ∧
      ∀ {slot reader}, state.readers slot = some reader →
        state.published.length + 1 < reader.cursor + kDescriptorSlotCount := by
  rw [descriptorsBlocked_iff hinv.ringIndices, not_or] at hadmitted
  obtain ⟨hsome, hroom⟩ := hadmitted
  push Not at hsome hroom
  refine ⟨hsome, fun {slot reader} hreader => ?_⟩
  have htracked := hinv.tracked_iff.mpr ⟨reader, hreader⟩
  have hunread := hroom slot htracked.1 htracked.2
  have hrinv := hinv.reader hreader
  have hle : reader.cursor ≤ state.published.length :=
    Reader.cursor_le_heldFrom.trans (Reader.heldFrom_le_next.trans hrinv.next_le)
  have hlt := hrinv.length_lt
  rw [hrinv.readIndex_eq, hinv.ring.write_eq, unreadCount] at hunread
  simp only [kDescriptorSlotCount] at hunread hlt ⊢
  omega

/-- The free list's first node is the stored head. -/
theorem head?_free (hinv : Invariant state pool) {sizeClass : ℕ}
    (hclass : sizeClass < kClassCount) :
    (pool.free sizeClass).head? = some (state.shared.head sizeClass) :=
  (hinv.represents.chain sizeClass hclass).head_eq

/-- What `try_publish_one` can return, and the process that a success leaves. -/
theorem tryPublishOne_cases (hinv : Invariant state pool) (payload : List Byte) :
    tryPublishOne state.toPublisherProcess payload =
        (.error .messageSizeClassInvalid, state.toPublisherProcess) ∨
      tryPublishOne state.toPublisherProcess payload =
        (.ok .blocked, state.toPublisherProcess) ∨
      ∃ (sizeClass : ℕ) (mask : BitVec 32) (eventFds : EventFdTable),
        findSizeClass (payload.length + kMessageHeaderSizeBytes) = some sizeClass ∧
        ¬DescriptorsBlocked (findSlowestReadIndex state.shared)
          state.shared.descriptorWriteIndex ∧
        state.shared.head sizeClass ≠ state.shared.tail sizeClass ∧
        (∀ slot < 32, mask.getLsbD slot = true ↔ state.shared.Tracked slot) ∧
        (∀ eventFd, (eventFds eventFd).isSome = (state.eventFds eventFd).isSome) ∧
        tryPublishOne state.toPublisherProcess payload =
          (.ok .succeeded,
            { shared := (((state.shared.popChunk sizeClass
                  (state.shared.head sizeClass)).writeMessage
                    state.shared.descriptorWriteIndex (state.shared.head sizeClass)
                    state.publisher.seq payload).addReferences
                  (chunkIndex sizeClass (state.shared.head sizeClass))
                  mask).storeWriteIndex
                  (nextWriteIndex state.shared.descriptorWriteIndex)
              publisher := { state.publisher with seq := state.publisher.seq + 1 }
              eventFds }) := by
  unfold tryPublishOne
  dsimp only
  split
  next => exact .inl rfl
  next =>
    split
    next => exact .inl rfl
    next sizeClass hclass =>
      right
      split
      next => exact .inl rfl
      next hadmitted =>
        split
        next => exact .inl rfl
        next hne =>
          obtain ⟨hlt, -⟩ := findSizeClass_eq_some hclass
          obtain ⟨hchunk, hfree⟩ :=
            pool.mem_free_iff.mp (hinv.represents.chain sizeClass hlt).head_mem
          obtain ⟨hfirst, hlast⟩ := hchunk.range
          have hunused := hinv.represents.unused hchunk hfree
          obtain ⟨mask, hmask, hbits⟩ := hinv.tables.chunkReferenceMask_eq
          obtain ⟨eventFds, hsignal, hopen⟩ := signalSubscribers_of_open
            fun eventFd hmem => hinv.tables.isSome_of_mem hmem
          rw [if_neg (by omega), if_neg (by rw [hunused]; simp)]
          refine .inr ⟨sizeClass, mask, eventFds, hclass, hadmitted, hne, hbits, hopen, ?_⟩
          simp only [publishChunk, hmask, hsignal]

theorem nextWriteIndex_mod (count : ℕ) :
    nextWriteIndex (count % kDescriptorSlotCount) = (count + 1) % kDescriptorSlotCount := by
  rw [nextWriteIndex]
  split <;> simp only [kDescriptorSlotCount] at * <;> omega

/-- The descriptor at the write index belongs to no recent message. -/
theorem ringHistory_storeDescriptor {shared shared' : SharedData} {log : List Message}
    {descriptor : MessageDescriptor} (hring : RingHistory shared log)
    (hdescRing : shared'.descRing =
      Function.update shared.descRing shared.descriptorWriteIndex descriptor)
    (hwrite : shared'.descriptorWriteIndex = shared.descriptorWriteIndex) :
    RingHistory shared' log where
  write_eq := hwrite.trans hring.write_eq
  recent := by
    intro index message hmessage hrecent
    have hlt := (List.getElem?_eq_some_iff.mp hmessage).1
    have hne : index % kDescriptorSlotCount ≠ log.length % kDescriptorSlotCount := by
      simp only [kDescriptorSlotCount] at hrecent ⊢
      omega
    rw [hdescRing, hring.write_eq, Function.update_of_ne hne]
    exact hring.recent hmessage hrecent

/-- Moving the write index publishes the descriptor that it pointed to. -/
theorem ringHistory_publish {shared shared' : SharedData} {log : List Message}
    (hring : RingHistory shared log) {message : Message}
    (hdescriptor : shared.descRing shared.descriptorWriteIndex = message.descriptor)
    (hdescRing : shared'.descRing = shared.descRing)
    (hwrite : shared'.descriptorWriteIndex =
      nextWriteIndex shared.descriptorWriteIndex) :
    RingHistory shared' (log ++ [message]) where
  write_eq := by
    rw [hwrite, hring.write_eq, nextWriteIndex_mod, List.length_append,
      List.length_singleton]
  recent := by
    intro index other hother hrecent
    rw [List.length_append, List.length_singleton] at hrecent
    rw [hdescRing]
    rcases Nat.lt_or_ge index log.length with hlt | hge
    · rw [List.getElem?_append_left hlt] at hother
      exact hring.recent hother (by omega)
    · have hindex : index = log.length := by
        have hlength := (List.getElem?_eq_some_iff.mp hother).1
        rw [List.length_append, List.length_singleton] at hlength
        omega
      subst hindex
      rw [List.getElem?_concat_length, Option.some.injEq] at hother
      rw [← hring.write_eq, hdescriptor, hother]

/-- A change of the mapping that keeps the holders and the returning parties. -/
theorem changePool (hinv : Invariant state pool) {shared' : SharedData}
    {pool' : Pool state.published} (hrep : Represents shared' pool')
    (hring : RingHistory shared' state.published)
    (hreads : shared'.descriptorReadIndices = state.shared.descriptorReadIndices)
    (hholds : pool'.holds = pool.holds)
    (hreturning : ∀ {offset party},
      pool'.owner offset = .returning party ↔ pool.owner offset = .returning party) :
    Invariant { state with shared := shared' } pool' where
  represents := hrep
  ring := hring
  tables := hinv.tables.congr rfl rfl rfl
    (fun slot => by rw [SharedData.Tracked, hreads, SharedData.Tracked]) fun _ => rfl
  seq_eq := hinv.seq_eq
  reader := by
    intro slot reader hreader
    dsimp only
    rw [hreads]
    exact hinv.reader hreader
  untracked := by
    intro slot hslot hnone
    dsimp only
    rw [hreads]
    exact hinv.untracked hslot hnone
  holds_iff := by
    intro slot index
    rw [hholds]
    exact hinv.holds_iff
  returning_iff := hreturning.trans hinv.returning_iff
  retired := hinv.retired

/-- The last step of a publish: its message has been written into a chunk that is on no
list. -/
theorem fill (hinv : Invariant state pool) {message : Message} {sizeClass : ℕ}
    {mask : BitVec 32} {eventFds : EventFdTable} (hwellFormed : message.WellFormed)
    (hclass : findSizeClass message.descriptor.len = some sizeClass)
    (hlost : pool.owner message.descriptor.offset = .lost)
    (hused : state.shared.isInUse sizeClass
      (localChunkIndex sizeClass message.descriptor.offset) = true)
    (hcontent : load state.shared.data message.descriptor.offset message.descriptor.len =
      messageBytes state.published.length message.payload)
    (hdescriptor : state.shared.descRing state.shared.descriptorWriteIndex =
      message.descriptor)
    (hmask : ∀ slot < 32, mask.getLsbD slot = true ↔ state.shared.Tracked slot)
    (hsome : ∃ slot, state.shared.Tracked slot)
    (hroom : ∀ {slot reader}, state.readers slot = some reader →
      state.published.length + 1 < reader.cursor + kDescriptorSlotCount)
    (hopen : ∀ eventFd, (eventFds eventFd).isSome = (state.eventFds eventFd).isSome) :
    Invariant { state with
      shared := (state.shared.addReferences
        (chunkIndex sizeClass message.descriptor.offset) mask).storeWriteIndex
          (nextWriteIndex state.shared.descriptorWriteIndex)
      publisher := { state.publisher with seq := state.publisher.seq + 1 }
      eventFds
      published := state.published ++ [message] }
    (pool.fill message state.shared.Tracked hwellFormed (fun _ htracked => htracked.1)
      hsome hlost) := by
  have hlength : (state.published ++ [message]).length =
      state.published.length + 1 := by simp
  constructor
  · exact hinv.represents.fill _ hwellFormed (fun _ htracked => htracked.1) hsome hclass
      hlost hused hcontent hmask
  · exact ringHistory_publish hinv.ring hdescriptor rfl rfl
  · exact hinv.tables.congr rfl rfl rfl (fun _ => Iff.rfl) hopen
  · change state.publisher.seq + 1 = _
    rw [hinv.seq_eq, hlength, Nat.cast_succ]
  · intro slot reader hreader
    exact (hinv.reader hreader).publish message (hroom hreader)
  · exact hinv.untracked
  · intro slot index
    rw [Pool.fill_holds, hlength, hinv.holds_iff, hinv.tracked_iff]
    constructor
    · rintro (⟨reader, hreader, hle, hlt⟩ | ⟨rfl, reader, hreader⟩)
      · exact ⟨reader, hreader, hle, by omega⟩
      · exact ⟨reader, hreader, Reader.heldFrom_le_next.trans
          (hinv.reader hreader).next_le, by omega⟩
    · rintro ⟨reader, hreader, hle, hlt⟩
      rcases Nat.lt_succ_iff_lt_or_eq.mp hlt with hold | hnew
      · exact .inl ⟨reader, hreader, hle, hold⟩
      · exact .inr ⟨hnew, reader, hreader⟩
  · intro offset slot
    rw [Pool.fill_owner]
    by_cases heq : offset = message.descriptor.offset
    · subst heq
      have hnot : pool.owner message.descriptor.offset ≠ .returning slot := by
        simp [hlost]
      rw [Function.update_self]
      exact iff_of_false (by simp) (fun hreturning =>
        hnot (hinv.returning_iff.mpr hreturning))
    · rw [Function.update_of_ne heq]
      exact hinv.returning_iff
  · intro reader hmem
    obtain ⟨stop, hstop, hmessages⟩ := hinv.retired reader hmem
    refine ⟨stop, by rw [hlength]; omega, ?_⟩
    rw [hmessages]
    exact (Reader.delivered_append hstop message).symm

theorem publish (hinv : Invariant state pool) (payload : List Byte)
    (hstep : state.publish payload = (outcome, state')) :
    Preserved state pool outcome state' := by
  unfold State.publish at hstep
  dsimp only at hstep
  rcases hinv.tryPublishOne_cases payload with hresult | hresult |
    ⟨sizeClass, mask, eventFds, hclass, hadmitted, hne, hbits, hopen, hresult⟩
  · rw [hresult, Prod.mk.injEq] at hstep
    obtain ⟨rfl, rfl⟩ := hstep
    exact ⟨pool, hinv, rfl, id⟩
  · rw [hresult, Prod.mk.injEq] at hstep
    obtain ⟨rfl, rfl⟩ := hstep
    exact ⟨pool, hinv, trivial, id⟩
  · obtain ⟨hsome, hroom⟩ := hinv.room_of_admitted hadmitted
    have hclassLt := (findSizeClass_eq_some hclass).1
    let message : Message :=
      { payload
        descriptor :=
          { offset := state.shared.head sizeClass
            len := payload.length + kMessageHeaderSizeBytes } }
    have hhead : (pool.free sizeClass).head? = some message.descriptor.offset :=
      hinv.head?_free hclassLt
    obtain ⟨hchunk, hfree⟩ := pool.mem_free_iff.mp (List.mem_of_mem_head? hhead)
    have hwellFormed : message.WellFormed := ⟨rfl, sizeClass, hclass, hchunk⟩
    rw [hresult, Prod.mk.injEq] at hstep
    obtain ⟨rfl, hstate⟩ := hstep
    -- The descriptor read back for the history is the one just stored.
    have hpublished : state'.published = state.published ++ [message] := by
      rw [← hstate]
      simp [SharedData.popChunk, SharedData.writeMessage, SharedData.storeDescriptor,
        SharedData.addReferences, SharedData.storeWriteIndex, message]
    have htaken : (pool.take sizeClass message.descriptor.offset hhead).owner
        message.descriptor.offset = .lost := Function.update_self ..
    have hwritten : Invariant { state with
        shared := (state.shared.popChunk sizeClass (state.shared.head sizeClass)).writeMessage
          state.shared.descriptorWriteIndex (state.shared.head sizeClass)
          state.publisher.seq payload } (pool.take sizeClass _ hhead) := by
      refine hinv.changePool ((hinv.represents.take hhead hne).writeMessage hchunk htaken _ _
        (findSizeClass_eq_some hclass).2) (ringHistory_storeDescriptor hinv.ring rfl rfl) rfl rfl
        fun {offset party} => ?_
      by_cases heq : offset = message.descriptor.offset
      · subst heq
        simp [hfree]
      · simp [heq]
    have hfilled := hwritten.fill hwellFormed hclass htaken
      (by simp [SharedData.popChunk, SharedData.writeMessage, SharedData.storeHead,
        SharedData.storeDescriptor, SharedData.setInUse, message])
      (by rw [← hinv.seq_eq]; exact Represents.load_writeMessage _ _ _ _ _)
      (Function.update_self ..) hbits hsome hroom hopen
    obtain rfl : state' = { state with
        shared := (((state.shared.popChunk sizeClass
            (state.shared.head sizeClass)).writeMessage
              state.shared.descriptorWriteIndex (state.shared.head sizeClass)
              state.publisher.seq payload).addReferences
            (chunkIndex sizeClass (state.shared.head sizeClass))
            mask).storeWriteIndex (nextWriteIndex state.shared.descriptorWriteIndex)
        publisher := { state.publisher with seq := state.publisher.seq + 1 }
        eventFds
        published := state.published ++ [message] } := by
      rw [← hpublished, ← hstate]
    refine ⟨_, hfilled, trivial, fun hnone offset => ?_⟩
    change Function.update (Function.update pool.owner message.descriptor.offset .lost)
      message.descriptor.offset (.message state.published.length) offset ≠ .lost
    by_cases heq : offset = message.descriptor.offset
    · simp [heq]
    · simpa [heq] using hnone offset

/-! ## Tracking -/

/-- A fresh attachment starts at the write index with nothing to deliver. -/
theorem attached_readerInvariant {log : List Message} {slot : ℕ}
    (hslot : slot < kMaxSubscribers) :
    ReaderInvariant log (log.length % kDescriptorSlotCount) slot
      (Reader.attached slot log.length) where
  slotIndex_eq := rfl
  slot_lt := hslot
  readIndex_eq := rfl
  joinedAt_le := le_rfl
  next_le := le_rfl
  length_lt := by simp [Reader.attached, kDescriptorSlotCount]
  localIndex := .inr ⟨rfl, rfl, rfl⟩
  copied := by simp [Reader.attached]
  messages_eq := by simp [Reader.attached, Reader.delivered]
  expected := fun _ => .inl ⟨rfl, rfl⟩
  current_isChunk := by simp [Reader.attached, Reader.currentChunk]
  current_message := by simp [Reader.attached]

/-- A refused registration closes the descriptor it came with again. -/
theorem trackSubscriber_refused {process : PublisherProcess} {eventFd slot : ℕ}
    (hfresh : process.eventFds eventFd = none)
    (hrefused : kMaxSubscribers ≤ slot ∨
      process.shared.descriptorReadIndices slot ≠ kInvalidIndex) :
    ∃ error, trackSubscriber { process with
      eventFds := Function.update process.eventFds eventFd (some 0) } eventFd slot =
        (some error, process) := by
  have hclosed : Function.update (Function.update process.eventFds eventFd (some 0))
      eventFd none = process.eventFds := by
    rw [Function.update_idem, ← hfresh, Function.update_eq_self]
  unfold trackSubscriber
  dsimp only
  rw [hclosed]
  split
  next => exact ⟨_, rfl⟩
  next hslot =>
    rw [if_pos (hrefused.resolve_left hslot)]
    exact ⟨_, rfl⟩

/-- A subscriber joins behind all messages. -/
theorem joined (hinv : Invariant state pool) {process : PublisherProcess}
    (hslot : slot < kMaxSubscribers) (hnone : state.readers slot = none)
    (htables : TrackingTables process)
    (hseq : process.publisher.seq = state.publisher.seq)
    (hshared : process.shared =
      state.shared.storeReadIndex slot state.shared.descriptorWriteIndex) :
    Invariant { state with
      toPublisherProcess := process
      readers := Function.update state.readers slot
        (some (Reader.attached slot state.published.length)) } pool := by
  constructor
  · dsimp only
    rw [hshared]
    exact hinv.represents.storeReadIndex _ _
  · dsimp only
    rw [hshared]
    exact ⟨hinv.ring.write_eq, hinv.ring.recent⟩
  · exact htables
  · exact hseq.trans hinv.seq_eq
  · intro other reader hreader
    dsimp only at hreader ⊢
    rw [hshared, SharedData.storeReadIndex]
    by_cases heq : other = slot
    · subst heq
      rw [Function.update_self, Option.some.injEq] at hreader
      subst hreader
      dsimp only
      rw [Function.update_self, hinv.ring.write_eq]
      exact attached_readerInvariant hslot
    · rw [Function.update_of_ne heq] at hreader
      dsimp only
      rw [Function.update_of_ne heq]
      exact hinv.reader hreader
  · intro other hlt hother
    dsimp only at hother ⊢
    rw [hshared, SharedData.storeReadIndex]
    by_cases heq : other = slot
    · simp [heq] at hother
    · rw [Function.update_of_ne heq] at hother
      dsimp only
      rw [Function.update_of_ne heq]
      exact hinv.untracked hlt hother
  · intro other index
    rw [hinv.holds_iff]
    by_cases heq : other = slot
    · subst heq
      simp [hnone, Reader.attached, Reader.heldFrom]
    · simp [heq]
  · intro offset other
    rw [hinv.returning_iff]
    by_cases heq : other = slot
    · subst heq
      simp [hnone, Reader.attached, Reader.returningOffset]
    · simp [heq]
  · exact hinv.retired

theorem untracked_iff (hinv : Invariant state pool) :
    ¬state.shared.Tracked slot ↔ state.readers slot = none := by
  rw [hinv.tracked_iff, ← Option.isSome_iff_exists, Bool.not_eq_true, Option.isSome_eq_false_iff,
    Option.isNone_iff_eq_none]

/-- A registration is refused without a trace, or it takes a free slot. -/
theorem track_cases {state : State} (htables : TrackingTables state.toPublisherProcess)
    (hwrite : state.shared.descriptorWriteIndex < kDescriptorSlotCount) {eventFd : ℕ}
    (hstep : state.track eventFd slot = some (outcome, state')) :
    (∃ error, outcome = .track error) ∧
      (state' = state ∨
        ∃ process, state' = { state with
            toPublisherProcess := process
            readers := Function.update state.readers slot
              (some (Reader.attached slot state.published.length)) } ∧
          slot < kMaxSubscribers ∧ ¬state.shared.Tracked slot ∧ TrackingTables process ∧
          process.publisher.seq = state.publisher.seq ∧
          process.shared =
            state.shared.storeReadIndex slot state.shared.descriptorWriteIndex) := by
  unfold State.track at hstep
  split at hstep
  next => cases hstep
  next hclosed =>
    have hfresh : state.eventFds eventFd = none := by simpa using hclosed
    dsimp only at hstep
    by_cases hrefused : kMaxSubscribers ≤ slot ∨
        state.shared.descriptorReadIndices slot ≠ kInvalidIndex
    · obtain ⟨error, herror⟩ := trackSubscriber_refused hfresh hrefused
      rw [herror] at hstep
      cases hstep
      exact ⟨⟨_, rfl⟩, .inl rfl⟩
    · push Not at hrefused
      obtain ⟨hslot, hfree⟩ := hrefused
      obtain ⟨process, htrack, htables', hseq, hshared⟩ :=
        htables.trackSubscriber_eq hfresh hslot hfree hwrite
      rw [htrack] at hstep
      cases hstep
      exact ⟨⟨_, rfl⟩, .inr ⟨process, rfl, hslot, fun htracked => htracked.2 hfree, htables',
        hseq, hshared⟩⟩

theorem track (hinv : Invariant state pool) {eventFd : ℕ}
    (hstep : state.track eventFd slot = some (outcome, state')) :
    Preserved state pool outcome state' := by
  obtain ⟨⟨error, rfl⟩, rfl | ⟨process, rfl, hslot, huntracked, htables, hseq, hshared⟩⟩ :=
    track_cases hinv.tables hinv.write_lt hstep
  · exact ⟨pool, hinv, trivial, id⟩
  · exact ⟨pool, hinv.joined hslot (hinv.untracked_iff.mp huntracked) htables hseq hshared,
      trivial, id⟩

/-! ## Reaping -/

/-- The pool in which nobody will return what `reader` was returning. -/
theorem exists_abandoned (hinv : Invariant state pool) {reader : Reader}
    (hreader : state.readers slot = some reader) :
    ∃ abandoned : Pool state.published, Represents state.shared abandoned ∧
      abandoned.holds = pool.holds ∧ abandoned.free = pool.free ∧
      ∀ offset, pool.owner offset = .returning slot ∧ abandoned.owner offset = .lost ∨
        pool.owner offset ≠ .returning slot ∧ abandoned.owner offset = pool.owner offset := by
  cases hreturning : reader.returningOffset with
  | none =>
      refine ⟨pool, hinv.represents, rfl, rfl, fun offset => .inr ⟨fun howner => ?_, rfl⟩⟩
      rw [hinv.returning_own_iff hreader, hreturning] at howner
      cases howner
  | some lost =>
      have howner := (hinv.returning_own_iff hreader).mpr hreturning
      refine ⟨pool.lose lost slot howner, hinv.represents.lose howner, rfl, rfl,
        fun offset => ?_⟩
      by_cases heq : offset = lost
      · exact .inl ⟨heq ▸ howner, by simp [heq]⟩
      · refine .inr ⟨fun hother => ?_, by simp [heq]⟩
        rw [hinv.returning_own_iff hreader, hreturning, Option.some.injEq] at hother
        exact heq hother.symm

section Abandoned

variable {abandoned : Pool state.published}
variable (habandoned : ∀ offset,
  pool.owner offset = .returning slot ∧ abandoned.owner offset = .lost ∨
    pool.owner offset ≠ .returning slot ∧ abandoned.owner offset = pool.owner offset)

include habandoned

theorem abandoned_returning_iff (offset other : ℕ) :
    abandoned.owner offset = .returning other ↔
      other ≠ slot ∧ pool.owner offset = .returning other := by
  rcases habandoned offset with ⟨hwas, hlost⟩ | ⟨hnot, hsame⟩
  · rw [hwas, hlost]
    simp only [reduceCtorEq, Owner.returning.injEq, false_iff, not_and]
    exact fun hne heq => hne heq.symm
  · rw [hsame]
    exact ⟨fun howner => ⟨fun heq => hnot (heq ▸ howner), howner⟩, And.right⟩

theorem abandoned_lost_iff (hinv : Invariant state pool) {reader : Reader}
    (hreader : state.readers slot = some reader) (offset : ℕ) :
    abandoned.owner offset = .lost ↔
      pool.owner offset = .lost ∨ reader.returningOffset = some offset := by
  rw [← hinv.returning_own_iff hreader]
  rcases habandoned offset with ⟨hwas, hlost⟩ | ⟨hnot, hsame⟩
  · simp [hwas, hlost]
  · simp [hsame, hnot]

end Abandoned

/-- Reaping a killed subscriber, on the memory it left behind: the victim may
have been inside its append, so `shared` is only known to represent the pool in
which its chunk is abandoned. -/
theorem reapAbandoned (hinv : Invariant state pool) {reader : Reader}
    (hreader : state.readers slot = some reader) {shared : SharedData}
    {abandoned : Pool state.published} (hrep : Represents shared abandoned)
    (hreads : shared.descriptorReadIndices = state.shared.descriptorReadIndices)
    (hwrite : shared.descriptorWriteIndex = state.shared.descriptorWriteIndex)
    (hdescRing : shared.descRing = state.shared.descRing)
    (hholds : abandoned.holds = pool.holds)
    (hreturning : ∀ offset other, abandoned.owner offset = .returning other ↔
      other ≠ slot ∧ pool.owner offset = .returning other) :
    ∃ (process : PublisherProcess) (pool' : Pool state.published),
      reapDeadSubscribers { state.toPublisherProcess with shared } slot =
        (.none, process) ∧
      Invariant { state with
        toPublisherProcess := process
        readers := Function.update state.readers slot none
        retired := state.retired ++ [reader] } pool' ∧
      (∀ offset, pool'.owner offset = .lost ↔ abandoned.owner offset = .lost) ∧
      process.shared.descRing = state.shared.descRing ∧
      process.shared.descriptorWriteIndex = state.shared.descriptorWriteIndex ∧
      ∀ other ≠ slot, process.shared.descriptorReadIndices other =
        state.shared.descriptorReadIndices other := by
  have hrinv := hinv.reader hreader
  have htracked := hinv.tracked_iff.mpr ⟨reader, hreader⟩
  have hsame : ∀ other, shared.Tracked other ↔ state.shared.Tracked other := by
    intro other
    rw [SharedData.Tracked, SharedData.Tracked, hreads]
  have htables : TrackingTables { state.toPublisherProcess with shared } :=
    hinv.tables.congr rfl rfl rfl hsame fun _ => rfl
  have hring : RingHistory shared state.published := by
    constructor
    · rw [hwrite, hinv.ring.write_eq]
    · rw [hdescRing]
      exact hinv.ring.recent
  have hcursor : shared.descriptorReadIndices slot =
      reader.cursor % kDescriptorSlotCount := by
    rw [hreads, hrinv.readIndex_eq]
  have hown : ∀ index, abandoned.holds slot index → reader.cursor ≤ index := by
    intro index hindex
    rw [hholds, hinv.holds_own_iff hreader] at hindex
    exact Reader.cursor_le_heldFrom.trans hindex.1
  have hle : reader.cursor ≤ state.published.length :=
    Reader.cursor_le_heldFrom.trans (Reader.heldFrom_le_next.trans hrinv.next_le)
  obtain ⟨process, released, pool', hreap, htables', hseq, hshared, hreleased, hgone⟩ :=
    reapDeadSubscribers_spec hrep htables hring ((hsame slot).mpr htracked) hcursor hle
      hrinv.length_lt hown
  have hholds' : ∀ other index,
      pool'.holds other index ↔ other ≠ slot ∧ pool.holds other index := by
    intro other index
    by_cases heq : other = slot
    · subst heq
      simp [hgone index]
    · rw [hreleased.holds_other heq, hholds]
      simp [heq]
  have hkept : ∀ other ≠ slot, process.shared.descriptorReadIndices other =
      state.shared.descriptorReadIndices other := by
    intro other hne
    rw [hshared]
    refine (Function.update_of_ne hne ..).trans ?_
    rw [hreleased.readIndices_eq]
    exact congrFun hreads other
  have hring' : process.shared.descRing = state.shared.descRing := by
    rw [hshared]
    exact hreleased.descRing_eq.trans hdescRing
  have hwrite' : process.shared.descriptorWriteIndex =
      state.shared.descriptorWriteIndex := by
    rw [hshared]
    exact hreleased.writeIndex_eq.trans hwrite
  refine ⟨process, pool', hreap, ?_, fun offset => hreleased.lost_iff, hring', hwrite',
    hkept⟩
  constructor
  · dsimp only
    rw [hshared]
    exact hreleased.represents.storeReadIndex _ _
  · constructor
    · exact hwrite'.trans hinv.ring.write_eq
    · intro index message hmessage hrecent
      exact (congrFun hring' _).trans (hinv.ring.recent hmessage hrecent)
  · exact htables'
  · exact hseq.trans hinv.seq_eq
  · intro other otherReader hother
    dsimp only at hother ⊢
    have hne : other ≠ slot := by
      rintro rfl
      simp at hother
    rw [Function.update_of_ne hne] at hother
    rw [hkept other hne]
    exact hinv.reader hother
  · intro other hlt hother
    dsimp only at hother ⊢
    by_cases heq : other = slot
    · rw [hshared, heq]
      exact Function.update_self ..
    · rw [Function.update_of_ne heq] at hother
      rw [hkept other heq]
      exact hinv.untracked hlt hother
  · intro other index
    rw [hholds', hinv.holds_iff]
    by_cases heq : other = slot
    · simp [heq]
    · simp [heq]
  · intro offset other
    rw [hreleased.returning_iff, hreturning, hinv.returning_iff]
    by_cases heq : other = slot
    · simp [heq]
    · simp [heq]
  · intro other hother
    rcases List.mem_append.mp hother with hold | hnew
    · exact hinv.retired other hold
    · rw [List.mem_singleton.mp hnew]
      exact ⟨reader.next, hrinv.next_le, hrinv.messages_eq⟩

/-- Reaping a subscriber that stopped anywhere between two accesses. -/
theorem reap (hinv : Invariant state pool)
    (hstep : state.reap slot = some (outcome, state')) :
    ∃ (reader : Reader) (pool' : Pool state'.published),
      state.readers slot = some reader ∧ outcome = .reap .none ∧
      Invariant state' pool' ∧
      ∀ offset, pool'.owner offset = .lost ↔
        pool.owner offset = .lost ∨ reader.returningOffset = some offset := by
  unfold State.reap at hstep
  split at hstep
  next => cases hstep
  next reader hreader =>
    obtain ⟨abandoned, hrep, hholds, -, howner⟩ := hinv.exists_abandoned hreader
    have hlost := abandoned_lost_iff howner hinv hreader
    obtain ⟨process, pool', hreap, hinv', hlost', -⟩ :=
      hinv.reapAbandoned hreader hrep rfl rfl rfl hholds (abandoned_returning_iff howner)
    rw [hreap] at hstep
    simp only [Option.some.injEq, Prod.mk.injEq] at hstep
    obtain ⟨rfl, rfl⟩ := hstep
    exact ⟨reader, pool', hreader, rfl, hinv', fun offset =>
      (hlost' offset).trans (hlost offset)⟩

/-! ## All steps -/

/-- Every step from an explained state leads to an explained state and returns
no internal error; only a returner's reap loses a chunk. -/
theorem step (hinv : Invariant state pool) {action : Action}
    (hstep : state.step action = some (outcome, state')) :
    ∃ pool' : Pool state'.published, Invariant state' pool' ∧
      outcome.Sound state.published.length ∧
      (ReapsNoReturner state action → pool.NoneLost → pool'.NoneLost) := by
  have hweaken : Preserved state pool outcome state' →
      ∃ pool' : Pool state'.published, Invariant state' pool' ∧
        outcome.Sound state.published.length ∧
        (ReapsNoReturner state action → pool.NoneLost → pool'.NoneLost) := by
    rintro ⟨pool', hinv', hsound, hnone⟩
    exact ⟨pool', hinv', hsound, fun _ => hnone⟩
  cases action with
  | publish payload =>
      rw [State.step, Option.some.injEq] at hstep
      exact hweaken (hinv.publish payload hstep)
  | track eventFd slot => exact hweaken (hinv.track hstep)
  | reap slot =>
      obtain ⟨reader, pool', hreader, rfl, hinv', hlost⟩ := hinv.reap hstep
      refine ⟨pool', hinv', rfl, fun hspared hnone offset howner => ?_⟩
      rcases (hlost offset).mp howner with hold | hreturning
      · exact hnone offset hold
      · rw [hspared reader hreader] at hreturning
        cases hreturning
  | fetchDescriptors slot => exact hweaken (hinv.fetchDescriptors hstep).preserved
  | readPayload slot => exact hweaken (hinv.readPayload hstep).preserved
  | clearReference slot => exact hweaken (hinv.clearReference hstep).preserved
  | storeReadIndex slot => exact hweaken (hinv.storeReadIndex hstep).preserved
  | returnChunk slot => exact hweaken (hinv.returnChunk hstep)
  | signalSpace slot => exact hweaken (hinv.signalSpace hstep).preserved

end Invariant

/-- The run lemma: every reachable state is explained by a pool. -/
theorem invariant_of_reachable {mapped : SharedData} {state : State}
    (hreach : (dataPlane mapped).Reachable state) :
    ∃ pool : Pool state.published, Invariant state pool := by
  refine hreach.invariant (fun state => ∃ pool, Invariant state pool)
    ⟨_, Invariant.created mapped⟩ ?_
  rintro state action state' ⟨pool, hinv⟩ - hnext
  obtain ⟨⟨outcome, next⟩, hstep, rfl⟩ := Option.map_eq_some_iff.mp hnext
  obtain ⟨pool', hinv', -, -⟩ := hinv.step hstep
  exact ⟨pool', hinv'⟩

/-- As long as no returner is reaped, every chunk has an owner. -/
theorem noneLost_of_reachable {mapped : SharedData} {state : State}
    (hreach : (dataPlane mapped).ReachableWith ReapsNoReturner state) :
    ∃ pool : Pool state.published, Invariant state pool ∧ pool.NoneLost := by
  refine hreach.invariant
    (fun state => ∃ pool : Pool state.published, Invariant state pool ∧ pool.NoneLost)
    ⟨_, Invariant.created mapped, by simp [Pool.NoneLost, Pool.initial]⟩ ?_
  rintro state action state' ⟨pool, hinv, hnone⟩ hspared hnext
  obtain ⟨⟨outcome, next⟩, hstep, rfl⟩ := Option.map_eq_some_iff.mp hnext
  obtain ⟨pool', hinv', -, hnone'⟩ := hinv.step hstep
  exact ⟨pool', hinv', hnone' hspared hnone⟩

end DriveBus.SharedMemory
