import DriveBus.SharedMemory.SplitReturn

/-!
# The accesses of a publish

The publisher pops the head of a list in four accesses and fills the chunk.  Until it has
stored the new head the chunk stays free for everybody else, and afterwards it is nobody's;
the subscribers that have given up a message of the chunk are past it by then, since the
last one on a list is not popped.
-/

namespace DriveBus.SharedMemory

open DriveBus.ByteMemory DriveBus.Transition

namespace SplitInvariant

variable {state : State} {phases : ℕ → ReturnPhase} {publisherPhase : PublisherPhase}
variable {popped returned : ℕ → List ℕ} {pool : Pool state.published}
variable {payload : List Byte} {sizeClass headOff : ℕ}

/-- The publisher goes on without taking or giving a chunk. -/
theorem proceed (hinv : SplitInvariant state phases publisherPhase popped returned pool)
    {shared' : SharedData} {publisherPhase' : PublisherPhase}
    (hexplained : Invariant { (explaining phases publisherPhase).apply state with
      shared := publisherPhase'.unmark shared' } pool)
    (hin : ∀ {sizeClass offset phase}, InReturn state.shared pool sizeClass offset phase →
      InReturn shared' pool sizeClass offset phase)
    (hpublishes : ∀ {payload sizeClass phase},
      publisherPhase' = .publishing payload sizeClass phase →
      Publishes { state with shared := shared' } pool payload sizeClass phase) :
    SplitInvariant { state with shared := shared' } phases publisherPhase' popped returned
      pool where
  explained := hexplained
  ahead := hinv.ahead
  alone := hinv.alone
  settled := hinv.settled
  inReturn := by
    intro slot hreturning
    obtain ⟨reader, descriptor, sizeClass, hreader, hphase, hold⟩ := hinv.inReturn hreturning
    exact ⟨reader, descriptor, sizeClass, hreader, hphase, hin hold⟩
  publishes := hpublishes
  account := hinv.account

/-- The publisher goes on without changing the mapping. -/
theorem rephase (hinv : SplitInvariant state phases publisherPhase popped returned pool)
    {publisherPhase' : PublisherPhase}
    (hunmark : publisherPhase'.unmark state.shared = publisherPhase.unmark state.shared)
    (hpublishes : ∀ {payload sizeClass phase},
      publisherPhase' = .publishing payload sizeClass phase →
      Publishes state pool payload sizeClass phase) :
    SplitInvariant state phases publisherPhase' popped returned pool :=
  hinv.proceed (hinv.explained.of_eq hunmark rfl) id hpublishes

/-- An attempt that ends before it has marked its chunk. -/
theorem giveUp (hinv : SplitInvariant state phases publisherPhase popped returned pool)
    (hunmark : publisherPhase.unmark state.shared = state.shared) :
    SplitInvariant state phases .idle popped returned pool :=
  hinv.rephase hunmark.symm (by simp)

/-- `try_publish_one` passes its admission test. -/
theorem beginPublish (hinv : SplitInvariant state phases .idle popped returned pool)
    (hclass : findSizeClass (payload.length + kMessageHeaderSizeBytes) = some sizeClass)
    (hadmitted : ¬DescriptorsBlocked (findSlowestReadIndex state.shared)
      state.shared.descriptorWriteIndex) :
    SplitInvariant state phases (.publishing payload sizeClass .admitted) popped returned
      pool := by
  refine hinv.rephase rfl ?_
  rintro _ _ _ ⟨⟩
  obtain ⟨⟨slot, htracked⟩, hroom⟩ := hinv.explained.room_of_admitted hadmitted
  refine ⟨hclass, ?_, ?_, trivial⟩
  · obtain ⟨_, hview⟩ := hinv.explained.tracked_iff.mp htracked
    obtain ⟨reader, hreader, -⟩ := Option.map_eq_some_iff.mp hview
    exact ⟨slot, reader, hreader⟩
  · intro slot reader hreader
    have hview := hroom (explained_reader hreader)
    rwa [ReturnPhase.view_cursor] at hview

section Publishing

variable {phase : PublishPhase}
variable (hinv : SplitInvariant state phases (.publishing payload sizeClass phase) popped
  returned pool)

include hinv

/-- A publish that goes on to its next check. -/
theorem toPhase {phase' : PublishPhase}
    (hunmark : PublisherPhase.unmark (.publishing payload sizeClass phase') state.shared =
      PublisherPhase.unmark (.publishing payload sizeClass phase) state.shared)
    (hconsistent : phase'.Consistent state pool payload sizeClass) :
    SplitInvariant state phases (.publishing payload sizeClass phase') popped returned pool := by
  refine hinv.rephase hunmark ?_
  rintro _ _ _ ⟨⟩
  have hpublishes := hinv.publishes rfl
  exact ⟨hpublishes.class_eq, hpublishes.subscribed, hpublishes.room, hconsistent⟩

theorem class_lt : sizeClass < kClassCount :=
  (findSizeClass_eq_some (hinv.publishes rfl).class_eq).1

/-- The head is a free chunk. -/
theorem head_free : IsChunk sizeClass (state.shared.head sizeClass) ∧
    pool.owner (state.shared.head sizeClass) = .free := by
  have hmem := (hinv.explained.represents.chain sizeClass hinv.class_lt).head_mem
  change (PublisherPhase.unmark _ state.shared).head sizeClass ∈ _ at hmem
  rw [(PublisherPhase.unmark_lists _ state.shared).1] at hmem
  exact pool.mem_free_iff.mp hmem

end Publishing

/-- The publisher marks the head chunk. -/
theorem markHead
    (hinv : SplitInvariant state phases
      (.publishing payload sizeClass (.tailCompared headOff)) popped returned pool)
    (hunused : state.shared.isInUse sizeClass (localChunkIndex sizeClass headOff) = false) :
    SplitInvariant
      { state with
        shared := state.shared.setInUse sizeClass (localChunkIndex sizeClass headOff) true }
      phases (.publishing payload sizeClass (.marked headOff)) popped returned pool := by
  have hpublishes := hinv.publishes rfl
  obtain ⟨rfl, hne⟩ := hpublishes.consistent
  obtain ⟨hchunk, hfree⟩ := hinv.head_free
  have hunmarked : PublisherPhase.unmark (.publishing payload sizeClass
      (.marked (state.shared.head sizeClass)))
      (state.shared.setInUse sizeClass
        (localChunkIndex sizeClass (state.shared.head sizeClass)) true) = state.shared :=
    state.shared.setInUse_restore hunused true
  refine hinv.proceed (hinv.explained.of_eq hunmarked rfl) ?_ ?_
  · intro otherClass offset phase hin
    refine ⟨hin.isChunk, hin.lost, ?_, hin.tailLoaded, hin.tailLinked⟩
    rw [Represents.isInUse_setInUse_of_ne hchunk hin.isChunk fun heq => ?_]
    · exact hin.unmarked
    · rw [← heq, hin.lost] at hfree
      cases hfree
  · rintro _ _ _ ⟨⟩
    exact ⟨hpublishes.class_eq, hpublishes.subscribed, hpublishes.room, rfl, hne, by
      simp [SharedData.setInUse]⟩

/-- A subscriber that has given up a message of the chunk at the head of a list is past it,
unless the chunk is the list's last one. -/
theorem head_unhandled
    (hinv : SplitInvariant state phases publisherPhase popped returned pool)
    (hclass : sizeClass < kClassCount) (hchunk : IsChunk sizeClass (state.shared.head sizeClass))
    (hfree : pool.owner (state.shared.head sizeClass) = .free)
    (hne : state.shared.head sizeClass ≠ state.shared.tail sizeClass) {slot : ℕ} {reader : Reader}
    (hreader : state.readers slot = some reader) :
    reader.handledOffset ≠ some (state.shared.head sizeClass) := by
  intro hhandled
  cases hphase : reader.phase with
  | bitCleared descriptor readerClass lastHolder =>
      rw [Reader.handledOffset, hphase, Option.some.injEq] at hhandled
      have hready := hinv.ready_of_phase hreader (by simp [hphase])
      have hreaderChunk : IsChunk readerClass descriptor.offset :=
        (hinv.reader_of_ready hreader hready).current_isChunk
          (by simp [Reader.currentChunk, hphase])
      rw [hhandled] at hreaderChunk
      obtain rfl := hreaderChunk.class_unique hchunk
      have hlast := ((hinv.settled hreader hphase).free_last (hhandled ▸ hfree)).1
      have htail := (hinv.explained.represents.chain readerClass hclass).tail_eq
      change (pool.free readerClass).getLast? =
        some ((publisherPhase.unmark state.shared).tail readerClass) at htail
      rw [(publisherPhase.unmark_lists state.shared).2.1, hlast, Option.some.injEq,
        hhandled] at htail
      exact hne htail
  | indexStored descriptor readerClass =>
      rw [Reader.handledOffset, hphase, Option.some.injEq] at hhandled
      have hnotMem := hinv.returned_notMem hreader hphase
      have hreaderChunk := (hinv.returned_chunk hreader hphase).1
      rw [hhandled] at hnotMem hreaderChunk
      exact hnotMem (pool.mem_free_iff.mpr ⟨hreaderChunk, hfree⟩)
  | _ => simp [Reader.handledOffset, hphase] at hhandled

section StoreHead

variable (hhead : (pool.free sizeClass).head? = some (state.shared.head sizeClass))

/-- A subscriber between its bit and its read index stays settled when another chunk is
popped: the list goes on behind its head up to the same end. -/
theorem settled_storeHead
    (hinv : SplitInvariant state phases publisherPhase popped returned pool) {slot : ℕ}
    {reader : Reader} {descriptor : MessageDescriptor} {readerClass : ℕ} {lastHolder : Bool}
    (hreader : state.readers slot = some reader)
    (hphase : reader.phase = .bitCleared descriptor readerClass lastHolder)
    (hother : descriptor.offset ≠ state.shared.head sizeClass) :
    Settled (pool.take sizeClass (state.shared.head sizeClass) hhead) state.readers reader.cursor
      descriptor readerClass := by
  have hsettled := hinv.settled hreader hphase
  refine ⟨hsettled.message, fun {index} hmessage => hsettled.owner_le ?_, fun hstill => ?_⟩
  · simpa [hother] using hmessage
  · obtain ⟨hlast, hnobody⟩ := hsettled.free_last (by simpa [hother] using hstill)
    refine ⟨?_, hnobody⟩
    by_cases heq : readerClass = sizeClass
    · subst heq
      obtain ⟨rest, hrest⟩ := List.head?_eq_some_iff.mp hhead
      rw [hrest] at hlast
      simp only [Pool.take_free, Function.update_self, hrest, List.tail_cons]
      cases rest with
      | nil =>
          rw [List.getLast?_singleton, Option.some.injEq] at hlast
          exact absurd hlast.symm hother
      | cons second rest => rwa [List.getLast?_cons_cons] at hlast
    · simpa [heq] using hlast

theorem account_storeHead
    (hinv : SplitInvariant state phases publisherPhase popped returned pool) {other : ℕ}
    (hotherClass : other < kClassCount) :
    recordChunk popped sizeClass (state.shared.head sizeClass) other ++
        (pool.take sizeClass (state.shared.head sizeClass) hhead).free other =
      chunkOffsets other ++ returned other := by
  by_cases heq : other = sizeClass
  · subst heq
    obtain ⟨rest, hrest⟩ := List.head?_eq_some_iff.mp hhead
    have haccount := hinv.account other hotherClass
    rw [hrest] at haccount
    simp only [recordChunk, Function.update_self, Pool.take_free, hrest, List.tail_cons]
    rw [← haccount, List.append_assoc, List.singleton_append]
  · simpa [recordChunk, heq] using hinv.account other hotherClass

end StoreHead

/-- The store of the new head takes the chunk off its list. -/
theorem storeHead {nextHeadOff : ℕ}
    (hinv : SplitInvariant state phases
      (.publishing payload sizeClass (.linkRead headOff nextHeadOff)) popped returned pool) :
    ∃ pool' : Pool state.published,
      SplitInvariant { state with shared := state.shared.storeHead sizeClass nextHeadOff } phases
        (.publishing payload sizeClass (.headStored headOff))
        (recordChunk popped sizeClass headOff) returned pool' := by
  have hpublishes := hinv.publishes rfl
  obtain ⟨rfl, hne, hmarked, rfl⟩ := hpublishes.consistent
  obtain ⟨hchunk, hfree⟩ := hinv.head_free
  have hclass := hinv.class_lt
  have hhead : (pool.free sizeClass).head? = some (state.shared.head sizeClass) :=
    hinv.explained.head?_free hclass
  have hunhandled : ∀ {slot reader}, state.readers slot = some reader →
      reader.handledOffset ≠ some (state.shared.head sizeClass) :=
    fun hreader => hinv.head_unhandled hclass hchunk hfree hne hreader
  -- The pop of the data plane marks the chunk that the tracker has marked already.
  have hpopped : (((explaining phases (.publishing payload sizeClass (.linkRead
      (state.shared.head sizeClass) (state.shared.link (state.shared.head sizeClass))))).apply
      state).shared.popChunk sizeClass (state.shared.head sizeClass)) =
      state.shared.storeHead sizeClass (state.shared.link (state.shared.head sizeClass)) :=
    congrArg (fun shared : SharedData => shared.storeHead sizeClass
      (state.shared.link (state.shared.head sizeClass)))
      (state.shared.setInUse_restore hmarked false)
  have hrep := hinv.explained.represents.take hhead hne
  rw [hpopped] at hrep
  refine ⟨pool.take sizeClass _ hhead, ?_, hinv.ahead, hinv.alone, fun hreader hphase => ?_, ?_,
    ?_, fun _ => hinv.account_storeHead hhead⟩
  · exact hinv.explained.changePool hrep
      ⟨hinv.explained.ring.write_eq, hinv.explained.ring.recent⟩ rfl rfl fun {offset party} => by
        by_cases heq : offset = state.shared.head sizeClass
        · simp [heq, hfree]
        · simp [heq]
  · exact hinv.settled_storeHead hhead hreader hphase fun heq =>
      hunhandled hreader (by simp [Reader.handledOffset, hphase, heq])
  · intro slot hreturning
    obtain ⟨reader, descriptor, readerClass, hreader, hphase, hin⟩ := hinv.inReturn hreturning
    refine ⟨reader, descriptor, readerClass, hreader, hphase, hin.isChunk, ?_, hin.unmarked,
      hin.tailLoaded, hin.tailLinked⟩
    by_cases heq : descriptor.offset = state.shared.head sizeClass
    · simp [heq]
    · simpa [heq] using hin.lost
  · rintro _ _ _ ⟨⟩
    exact ⟨hpublishes.class_eq, hpublishes.subscribed, hpublishes.room, hchunk,
      Function.update_self .., hmarked, hunhandled⟩

/-- The publisher writes its message into the chunk and its descriptor into the ring. -/
theorem writeMessage
    (hinv : SplitInvariant state phases (.publishing payload sizeClass (.headStored headOff))
      popped returned pool) :
    SplitInvariant
      { state with
        shared := state.shared.writeMessage state.shared.descriptorWriteIndex headOff
          state.publisher.seq payload }
      phases (.publishing payload sizeClass (.written headOff)) popped returned pool := by
  have hpublishes := hinv.publishes rfl
  have hpopped : Popped state pool sizeClass headOff := hpublishes.consistent
  have hsize := (findSizeClass_eq_some hpublishes.class_eq).2
  have hexplained := hinv.explained.changePool
    (hinv.explained.represents.writeMessage hpopped.isChunk hpopped.lost
      state.shared.descriptorWriteIndex state.publisher.seq hsize)
    (Invariant.ringHistory_storeDescriptor hinv.explained.ring rfl rfl) rfl rfl Iff.rfl
  refine hinv.proceed hexplained ?_ ?_
  · intro otherClass offset phase hin
    refine ⟨hin.isChunk, hin.lost, hin.unmarked, hin.tailLoaded, fun hlinked => ?_⟩
    obtain ⟨htail, htailFree⟩ := hinv.explained.represents.tail_mem hin.isChunk.class_lt
    have htailSize := htail.size_ge
    rw [← hin.tailLinked hlinked, SharedData.link, SharedData.link, writeMessage_data]
    exact congrArg ofLittleEndian (hpopped.isChunk.load_store _ htail
      (fun heq => by cases (heq ▸ hpopped.lost).symm.trans htailFree)
      (by rw [length_messageBytes]; exact hsize) (by simp only [wordSize]; omega))
  · rintro _ _ _ ⟨⟩
    refine ⟨hpublishes.class_eq, hpublishes.subscribed, hpublishes.room,
      ⟨hpopped.isChunk, hpopped.lost, hpopped.marked, hpopped.unhandled⟩, ?_, ?_⟩
    · rw [← show state.publisher.seq = state.published.length from hinv.explained.seq_eq]
      exact Represents.load_writeMessage _ _ _ _ _
    · simp [SharedData.writeMessage, SharedData.storeDescriptor]

/-- The data plane's half of the end of a publish: the chunk becomes the message's, and
neither of the two ways to fail is taken. -/
theorem exists_filled
    (hinv : SplitInvariant state phases (.publishing payload sizeClass (.written headOff))
      popped returned pool) {message : Message}
    (hmessage : message =
      { payload
        descriptor := { offset := headOff, len := payload.length + kMessageHeaderSizeBytes } }) :
    ∃ (mask : BitVec 32) (eventFds : EventFdTable) (pool' : Pool (state.published ++ [message])),
      chunkReferenceMask state.publisher.subscriberSlotIndexByDataAvailableEventFd
        state.publisher.dataAvailableEventFds 0 = some mask ∧
      signalSubscribers state.publisher.dataAvailableEventFds state.eventFds =
        (true, eventFds) ∧
      Invariant ((explaining phases .idle).apply { state with
        shared := (state.shared.addReferences (chunkIndex sizeClass headOff)
          mask).storeWriteIndex (nextWriteIndex state.shared.descriptorWriteIndex)
        publisher := { state.publisher with seq := state.publisher.seq + 1 }
        eventFds
        published := state.published ++ [message] }) pool' ∧
      pool'.free = pool.free ∧
      ∀ {offset}, offset ≠ headOff → pool'.owner offset = pool.owner offset := by
  have hpublishes := hinv.publishes rfl
  obtain ⟨hpopped, hcontent, hdescriptor⟩ := hpublishes.consistent
  obtain ⟨mask, hmask, hbits⟩ := hinv.explained.tables.chunkReferenceMask_eq
  obtain ⟨eventFds, hsignal, hopen⟩ := signalSubscribers_of_open
    fun eventFd hmem => hinv.explained.tables.isSome_of_mem hmem
  have hsome : ∃ slot, state.shared.Tracked slot := by
    obtain ⟨slot, reader, hreader⟩ := hpublishes.subscribed
    exact ⟨slot, hinv.explained.tracked_iff.mpr ⟨_, explained_reader hreader⟩⟩
  have hroom : ∀ {slot reader},
      ((explaining phases (.publishing payload sizeClass (.written headOff))).apply
        state).readers slot = some reader →
      state.published.length + 1 < reader.cursor + kDescriptorSlotCount := by
    intro slot view hview
    obtain ⟨reader, hreader, rfl⟩ := Option.map_eq_some_iff.mp hview
    rw [ReturnPhase.view_cursor]
    exact hpublishes.room hreader
  have hwellFormed : message.WellFormed := by
    subst hmessage
    exact ⟨rfl, sizeClass, hpublishes.class_eq, hpopped.isChunk⟩
  subst hmessage
  exact ⟨mask, eventFds, _, hmask, hsignal,
    hinv.explained.fill hwellFormed hpublishes.class_eq hpopped.lost hpopped.marked hcontent
      hdescriptor hbits hsome hroom hopen,
    rfl, fun hne => Function.update_of_ne hne ..⟩

/-- The message becomes visible. -/
theorem publishWritten
    (hinv : SplitInvariant state phases (.publishing payload sizeClass (.written headOff))
      popped returned pool) :
    ∃ (mask : BitVec 32) (eventFds : EventFdTable) (message : Message),
      chunkReferenceMask state.publisher.subscriberSlotIndexByDataAvailableEventFd
        state.publisher.dataAvailableEventFds 0 = some mask ∧
      signalSubscribers state.publisher.dataAvailableEventFds state.eventFds =
        (true, eventFds) ∧
      message = { payload, descriptor := state.shared.descRing state.shared.descriptorWriteIndex } ∧
      ∃ pool' : Pool (state.published ++ [message]),
        SplitInvariant
          { state with
            shared := (state.shared.addReferences (chunkIndex sizeClass headOff)
              mask).storeWriteIndex (nextWriteIndex state.shared.descriptorWriteIndex)
            publisher := { state.publisher with seq := state.publisher.seq + 1 }
            eventFds
            published := state.published ++ [message] }
          phases .idle popped returned pool' := by
  obtain ⟨hpopped, -, hdescriptor⟩ := (hinv.publishes rfl).consistent
  obtain ⟨mask, eventFds, pool', hmask, hsignal, hfilled, hfree, howner⟩ := hinv.exists_filled rfl
  -- The subscribers that have given up a message of the chunk are past it.
  have hunhandled : ∀ {slot reader}, state.readers slot = some reader → ∀ {offset},
      reader.handledOffset = some offset → pool'.owner offset = pool.owner offset :=
    fun hreader _ hhandled => howner fun heq => hpopped.unhandled hreader (heq ▸ hhandled)
  refine ⟨mask, eventFds, _, hmask, hsignal, by rw [hdescriptor], pool', hfilled, hinv.ahead,
    hinv.alone, ?_, ?_, by simp, by rw [hfree]; exact hinv.account⟩
  · intro slot reader descriptor readerClass lastHolder hreader hphase
    have hsettled := hinv.settled hreader hphase
    have hsame : pool'.owner descriptor.offset = pool.owner descriptor.offset :=
      hunhandled hreader (by simp [Reader.handledOffset, hphase])
    refine ⟨?_, fun hmessage => hsettled.owner_le (hsame.symm.trans hmessage), fun hstill => by
      rw [hfree]
      exact hsettled.free_last (hsame.symm.trans hstill)⟩
    obtain ⟨old, hold, hdescribed⟩ := hsettled.message
    refine ⟨old, ?_, hdescribed⟩
    rw [List.getElem?_append_left (List.getElem?_eq_some_iff.mp hold).1]
    exact hold
  · intro slot hreturning
    obtain ⟨reader, descriptor, readerClass, hreader, hphase, hin⟩ := hinv.inReturn hreturning
    have hsame : pool'.owner descriptor.offset = pool.owner descriptor.offset :=
      hunhandled hreader (by simp [Reader.handledOffset, hphase])
    exact ⟨reader, descriptor, readerClass, hreader, hphase, hin.isChunk, hsame.trans hin.lost,
      hin.unmarked, hin.tailLoaded, hin.tailLinked⟩

/-! ## Tracking -/

theorem heldFrom_le_length
    (hinv : SplitInvariant state phases publisherPhase popped returned pool) {slot : ℕ}
    {reader : Reader} (hreader : state.readers slot = some reader) :
    reader.heldFrom ≤ state.published.length := by
  rw [← hinv.view_heldFrom hreader]
  exact Reader.heldFrom_le_next.trans (hinv.explained.reader (explained_reader hreader)).next_le

section Newcomer

variable {readers : ℕ → Option Reader} {newcomer : Reader}
variable (hinv : SplitInvariant state phases publisherPhase popped returned pool)
variable (hcases : ∀ {other reader}, readers other = some reader →
  reader = newcomer ∨ state.readers other = some reader)
variable (hidle : newcomer.phase = .idle)

include hinv hcases hidle

/-- A subscriber with nothing in hand comes in behind those who return a chunk. -/
theorem ahead_newcomer (hbehind : ∀ {other reader}, state.readers other = some reader →
      reader.returningOffset ≠ none → reader.heldFrom ≤ newcomer.heldFrom)
    {left right : ℕ} {leftReader rightReader : Reader} (hleft : readers left = some leftReader)
    (hreturning : leftReader.returningOffset ≠ none)
    (hright : readers right = some rightReader) :
    leftReader.heldFrom ≤ rightReader.heldFrom := by
  obtain rfl | hleft := hcases hleft
  · simp [Reader.returningOffset, hidle] at hreturning
  obtain rfl | hright := hcases hright
  · exact hbehind hleft hreturning
  · exact hinv.ahead hleft hreturning hright

theorem alone_newcomer {left right : ℕ} {leftReader rightReader : Reader}
    (hleft : readers left = some leftReader) (hreturning : leftReader.returningOffset ≠ none)
    (hright : readers right = some rightReader)
    (hrightReturning : rightReader.returningOffset ≠ none) : left = right := by
  obtain rfl | hleft := hcases hleft
  · simp [Reader.returningOffset, hidle] at hreturning
  obtain rfl | hright := hcases hright
  · simp [Reader.returningOffset, hidle] at hrightReturning
  · exact hinv.alone hleft hreturning hright hrightReturning

/-- The others stay settled if at most lost chunks have come about. -/
theorem settled_newcomer {pool' : Pool state.published} (hfree : pool'.free = pool.free)
    (howner : ∀ {offset owner}, owner ≠ .lost → pool'.owner offset = owner →
      pool.owner offset = owner)
    {other : ℕ} {reader : Reader} {descriptor : MessageDescriptor} {readerClass : ℕ}
    {lastHolder : Bool} (hother : readers other = some reader)
    (hphase : reader.phase = .bitCleared descriptor readerClass lastHolder) :
    Settled pool' readers reader.cursor descriptor readerClass := by
  obtain rfl | hother := hcases hother
  · rw [hidle] at hphase
    cases hphase
  have hsettled := hinv.settled hother hphase
  refine ⟨hsettled.message, fun hmine => hsettled.owner_le (howner (by simp) hmine),
    fun hstill => ?_⟩
  obtain ⟨hlast, hnobody⟩ := hsettled.free_last (howner (by simp) hstill)
  refine ⟨hfree ▸ hlast, fun hholder => ?_⟩
  obtain rfl | hholder := hcases hholder
  · simp [Reader.returningOffset, hidle]
  · exact hnobody hholder

end Newcomer

/-- A subscriber joins behind all messages. -/
theorem track (hinv : SplitInvariant state phases .idle popped returned pool) {eventFd slot : ℕ}
    {outcome : Outcome} {next : State}
    (hstep : state.track eventFd slot = some (outcome, next)) :
    ∃ pool' : Pool next.published, SplitInvariant next phases .idle popped returned pool' := by
  have htracking : TrackingTables state.toPublisherProcess := hinv.explained.tables
  have hwrite : state.shared.descriptorWriteIndex < kDescriptorSlotCount :=
    hinv.explained.write_lt
  obtain ⟨-, rfl | ⟨process, rfl, hslot, huntracked, htables, hseq, hshared⟩⟩ :=
    Invariant.track_cases htracking hwrite hstep
  · exact ⟨pool, hinv⟩
  have hfree := hinv.explained.untracked_iff.mp huntracked
  have hnone : state.readers slot = none := Option.map_eq_none_iff.mp hfree
  have hready : phases slot = .ready := by
    by_contra hreturning
    obtain ⟨reader, _, _, hreader, -⟩ := hinv.inReturn hreturning
    rw [hnone] at hreader
    cases hreader
  have hjoined := (hinv.explained.joined hslot hfree htables hseq hshared).of_eq rfl
    ((explaining_transparent .idle hready).update state.readers
      (Reader.attached slot state.published.length))
  -- The new subscriber holds nothing, and the others are as they were.
  have hcases : ∀ {other reader}, Function.update state.readers slot
      (some (Reader.attached slot state.published.length)) other = some reader →
      reader = Reader.attached slot state.published.length ∨
        state.readers other = some reader := by
    intro other reader hreader
    by_cases heq : other = slot
    · subst heq
      rw [Function.update_self, Option.some.injEq] at hreader
      exact .inl hreader.symm
    · rw [Function.update_of_ne heq] at hreader
      exact .inr hreader
  refine ⟨pool, hjoined,
    hinv.ahead_newcomer hcases rfl fun hother _ => hinv.heldFrom_le_length hother,
    hinv.alone_newcomer hcases rfl, hinv.settled_newcomer hcases rfl rfl fun _ hmine => hmine,
    ?_, by simp, hinv.account⟩
  intro other hreturning
  obtain ⟨reader, descriptor, sizeClass, hreader, hphase, hin⟩ := hinv.inReturn hreturning
  have hne : other ≠ slot := fun heq => hreturning (heq ▸ hready)
  refine ⟨reader, descriptor, sizeClass, (Function.update_of_ne hne ..).trans hreader, hphase,
    hin.isChunk, hin.lost, ?_, ?_, ?_⟩
  · dsimp only
    rw [hshared]
    exact hin.unmarked
  · dsimp only
    rw [hshared]
    exact hin.tailLoaded
  · dsimp only
    rw [hshared]
    exact hin.tailLinked

end SplitInvariant

end DriveBus.SharedMemory
