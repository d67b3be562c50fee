import DriveBus.SharedMemory.SplitSubscriber

/-!
# The accesses of a return

From the tracker's check to the store of the tail the chunk is nobody's, and nobody else is
in a return.  So the tail that has been loaded stays the tail, and its link stays the one
that has been written.
-/

namespace DriveBus.SharedMemory

open DriveBus.ByteMemory DriveBus.Transition


namespace SharedData

theorem isInUse_setInUse (shared : SharedData) (sizeClass localChunk other otherChunk : ℕ)
    (inUse : Bool) : (shared.setInUse sizeClass localChunk inUse).isInUse other otherChunk =
      if other = sizeClass ∧ otherChunk = localChunk then inUse
      else shared.isInUse other otherChunk := by
  by_cases hclass : other = sizeClass
  · subst hclass
    by_cases hchunk : otherChunk = localChunk <;> simp [setInUse, hchunk]
  · simp [setInUse, hclass]

/-- A mark that is changed and set again. -/
theorem setInUse_restore (shared : SharedData) {sizeClass localChunk : ℕ} {inUse : Bool}
    (hwas : shared.isInUse sizeClass localChunk = inUse) (other : Bool) :
    (shared.setInUse sizeClass localChunk other).setInUse sizeClass localChunk inUse = shared := by
  have hmarks : ((shared.setInUse sizeClass localChunk other).setInUse sizeClass localChunk
      inUse).isInUse = shared.isInUse := by
    funext left right
    simp only [isInUse_setInUse]
    split
    next hsame => rw [hsame.1, hsame.2, hwas]
    next => rfl
  exact congrArg (fun isInUse => { shared with isInUse }) hmarks

/-- Two equal marks can be set in any order. -/
theorem setInUse_comm (shared : SharedData) (sizeClass localChunk other otherChunk : ℕ)
    (inUse : Bool) :
    (shared.setInUse sizeClass localChunk inUse).setInUse other otherChunk inUse =
      (shared.setInUse other otherChunk inUse).setInUse sizeClass localChunk inUse := by
  have hmarks : ((shared.setInUse sizeClass localChunk inUse).setInUse other otherChunk
        inUse).isInUse =
      ((shared.setInUse other otherChunk inUse).setInUse sizeClass localChunk inUse).isInUse := by
    funext left right
    simp only [isInUse_setInUse]
    split <;> split <;> rfl
  exact congrArg (fun isInUse => { shared with isInUse }) hmarks

end SharedData

namespace Invariant

variable {state : State} {pool : Pool state.published}

/-- A subscriber that has passed the tracker's check answers for its chunk no more. -/
theorem unmark (hinv : Invariant state pool) {slot : ℕ} {reader : Reader}
    (hreader : state.readers slot = some reader) {descriptor : MessageDescriptor}
    {sizeClass : ℕ} (hphase : reader.phase = .indexStored descriptor sizeClass)
    (hchunk : IsChunk sizeClass descriptor.offset)
    (hreturning : pool.owner descriptor.offset = .returning slot) :
    Invariant (State.setReader { state with
          shared := state.shared.setInUse sizeClass
            (localChunkIndex sizeClass descriptor.offset) false } slot
        { reader with phase := .chunkAppended })
      (pool.lose descriptor.offset slot hreturning) := by
  refine hinv.updateReader hreader
    ((hinv.represents.lose hreturning).setInUse_of_lost hchunk (Function.update_self ..) false)
    rfl rfl (fun _ _ => rfl)
    ((hinv.reader hreader).setPhase (by simp [hphase]) (by simp [Reader.next, hphase])
      (by simp [Reader.currentChunk]) (by simp)) (fun _ => Iff.rfl) ?_ ?_ ?_
  · intro index
    rw [Pool.lose_holds, hinv.holds_own_iff hreader]
    simp [Reader.heldFrom, hphase]
  · intro offset other hne
    by_cases heq : offset = descriptor.offset
    · simp [heq, hreturning, Ne.symm hne]
    · simp [heq]
  · intro offset
    by_cases heq : offset = descriptor.offset
    · simp [heq, Reader.returningOffset]
    · simp [heq, Reader.returningOffset, hinv.returning_own_iff hreader, hphase, Ne.symm heq]

end Invariant

namespace PublisherPhase

/-- At most one mark is taken back. -/
theorem unmark_cases (publisherPhase : PublisherPhase) :
    (∀ shared, publisherPhase.unmark shared = shared) ∨
      ∃ sizeClass localChunk, ∀ shared,
        publisherPhase.unmark shared = shared.setInUse sizeClass localChunk false := by
  cases publisherPhase with
  | publishing _ _ phase =>
      cases phase with
      | marked _ => exact .inr ⟨_, _, fun _ => rfl⟩
      | linkRead _ _ => exact .inr ⟨_, _, fun _ => rfl⟩
      | _ => exact .inl fun _ => rfl
  | _ => exact .inl fun _ => rfl

variable (publisherPhase : PublisherPhase) (shared : SharedData)

theorem isInUse_of_unmark {sizeClass localChunk : ℕ}
    (hused : (publisherPhase.unmark shared).isInUse sizeClass localChunk = true) :
    shared.isInUse sizeClass localChunk = true := by
  obtain hsame | ⟨other, otherChunk, hset⟩ := publisherPhase.unmark_cases
  · rwa [hsame] at hused
  · rw [hset, SharedData.isInUse_setInUse] at hused
    split at hused
    · cases hused
    · exact hused

theorem unmark_isInUse_of_not {sizeClass localChunk : ℕ}
    (hunused : shared.isInUse sizeClass localChunk = false) :
    (publisherPhase.unmark shared).isInUse sizeClass localChunk = false := by
  cases hused : (publisherPhase.unmark shared).isInUse sizeClass localChunk with
  | false => rfl
  | true =>
      rw [publisherPhase.isInUse_of_unmark shared hused] at hunused
      cases hunused

theorem unmark_setInUse (sizeClass localChunk : ℕ) :
    publisherPhase.unmark (shared.setInUse sizeClass localChunk false) =
      (publisherPhase.unmark shared).setInUse sizeClass localChunk false := by
  obtain hsame | ⟨other, otherChunk, hset⟩ := publisherPhase.unmark_cases
  · rw [hsame, hsame]
  · rw [hset, hset, SharedData.setInUse_comm]

theorem unmark_storeLink (lastTailOff offset : ℕ) :
    publisherPhase.unmark (shared.storeLink lastTailOff offset) =
      (publisherPhase.unmark shared).storeLink lastTailOff offset := by
  obtain hsame | ⟨other, otherChunk, hset⟩ := publisherPhase.unmark_cases
  · rw [hsame, hsame]
  · rw [hset, hset]
    rfl

theorem unmark_storeTail (sizeClass offset : ℕ) :
    publisherPhase.unmark (shared.storeTail sizeClass offset) =
      (publisherPhase.unmark shared).storeTail sizeClass offset := by
  obtain hsame | ⟨other, otherChunk, hset⟩ := publisherPhase.unmark_cases
  · rw [hsame, hsame]
  · rw [hset, hset]
    rfl

theorem unmark_lists : (publisherPhase.unmark shared).head = shared.head ∧
    (publisherPhase.unmark shared).tail = shared.tail ∧
    (publisherPhase.unmark shared).data = shared.data := by
  obtain hsame | ⟨other, otherChunk, hset⟩ := publisherPhase.unmark_cases
  · rw [hsame]
    exact ⟨rfl, rfl, rfl⟩
  · rw [hset]
    exact ⟨rfl, rfl, rfl⟩

end PublisherPhase

namespace SplitInvariant

variable {state : State} {phases : ℕ → ReturnPhase} {publisherPhase : PublisherPhase}
variable {popped returned : ℕ → List ℕ} {pool : Pool state.published}
variable {slot : ℕ} {reader : Reader} {descriptor : MessageDescriptor} {sizeClass : ℕ}

/-- A party that passes the tracker's check, or is past it, counts as having appended. -/
theorem readers_advance (hreader : state.readers slot = some reader) {phase : ReturnPhase}
    (hnot : phase ≠ .ready) :
    (explaining (Function.update phases slot phase) publisherPhase).readers state.readers =
      Function.update ((explaining phases publisherPhase).readers state.readers) slot
        (some { reader with phase := .chunkAppended }) := by
  funext other
  simp only [explaining]
  by_cases heq : other = slot
  · subst heq
    simp only [hreader, Function.update_self, Option.map_some]
    cases phase with
    | ready => exact absurd rfl hnot
    | _ => rfl
  · simp only [Function.update_of_ne heq]

section Return

variable (hinv : SplitInvariant state phases publisherPhase popped returned pool)
variable (hreader : state.readers slot = some reader)
variable (hphase : reader.phase = .indexStored descriptor sizeClass)

include hinv hreader hphase

/-- Nobody else is in a return. -/
theorem eq_of_inReturn {other : ℕ} (hother : phases other ≠ .ready) : other = slot := by
  obtain ⟨otherReader, _, _, hotherReader, hotherPhase, -⟩ := hinv.inReturn hother
  exact hinv.alone hotherReader (by simp [Reader.returningOffset, hotherPhase]) hreader
    (by simp [Reader.returningOffset, hphase])

/-- The chunk that is being returned is nobody else's. -/
theorem returned_chunk : IsChunk sizeClass descriptor.offset ∧
    (phases slot = .ready → pool.owner descriptor.offset = .returning slot) ∧
    (phases slot ≠ .ready →
      InReturn state.shared pool sizeClass descriptor.offset (phases slot)) := by
  by_cases hready : phases slot = .ready
  · refine ⟨(hinv.reader_of_ready hreader hready).current_isChunk (by
      simp [Reader.currentChunk, hphase]), fun _ => ?_, fun hnot => absurd hready hnot⟩
    refine hinv.explained.returning_iff.mpr ⟨reader, ?_, by simp [Reader.returningOffset, hphase]⟩
    rw [explained_reader hreader, hready]
    rfl
  · obtain ⟨other, descriptor', sizeClass', hother, hstored, hin⟩ := hinv.inReturn hready
    rw [hreader, Option.some.injEq] at hother
    subst hother
    rw [hphase] at hstored
    cases hstored
    exact ⟨hin.isChunk, fun hyes => absurd hyes hready, fun _ => hin⟩

theorem returned_notMem : descriptor.offset ∉ pool.free sizeClass := by
  intro hmem
  have hfree := (pool.mem_free_iff.mp hmem).2
  obtain ⟨-, howner, hin⟩ := hinv.returned_chunk hreader hphase
  by_cases hready : phases slot = .ready
  · rw [howner hready] at hfree
    cases hfree
  · rw [(hin hready).lost] at hfree
    cases hfree

/-- The publisher's chunk is another one. -/
theorem ne_returned {payload : List Byte} {phase : PublishPhase} {otherClass offset : ℕ}
    (hpublishing : publisherPhase = .publishing payload otherClass phase)
    (hoffset : offset = state.shared.head otherClass ∨ Popped state pool otherClass offset) :
    IsChunk otherClass offset ∧ offset ≠ descriptor.offset := by
  rcases hoffset with rfl | hpopped
  · have hclass := (findSizeClass_eq_some (hinv.publishes hpublishing).class_eq).1
    have hmem := (hinv.explained.represents.chain otherClass hclass).head_mem
    change (publisherPhase.unmark state.shared).head otherClass ∈ _ at hmem
    rw [(publisherPhase.unmark_lists state.shared).1] at hmem
    obtain ⟨hchunk, hfree⟩ := pool.mem_free_iff.mp hmem
    refine ⟨hchunk, fun heq => ?_⟩
    obtain ⟨hreturned, -⟩ := hinv.returned_chunk hreader hphase
    rw [heq] at hmem hchunk
    rw [hchunk.class_unique hreturned] at hmem
    exact hinv.returned_notMem hreader hphase hmem
  · exact ⟨hpopped.isChunk, fun heq => hpopped.unhandled hreader
      (by simp [Reader.handledOffset, hphase, heq])⟩

/-- The tracker's check of a return, which no party fails. -/
theorem unmarkChunk (hready : phases slot = .ready) :
    state.shared.isInUse sizeClass (localChunkIndex sizeClass descriptor.offset) = true ∧
      SplitPreserved { state with
          shared := state.shared.setInUse sizeClass
            (localChunkIndex sizeClass descriptor.offset) false }
        (Function.update phases slot .unmarked) publisherPhase popped returned pool := by
  obtain ⟨hchunk, howner, -⟩ := hinv.returned_chunk hreader hphase
  have hreturning := howner hready
  have hused := hinv.explained.represents.inUse hchunk (by simp [hreturning])
    (by simp [hreturning])
  refine ⟨publisherPhase.isInUse_of_unmark _ hused, pool.lose descriptor.offset slot hreturning,
    ⟨?_, hinv.ahead, hinv.alone, ?_, ?_, ?_, hinv.account⟩, ?_⟩
  · have hview : ((explaining phases publisherPhase).apply state).readers slot = some reader := by
      rw [explained_reader hreader, hready]
      rfl
    exact (hinv.explained.unmark hview hphase hchunk hreturning).of_eq
      (publisherPhase.unmark_setInUse _ _ _) (readers_advance hreader (by simp))
  · intro other otherReader otherDescriptor otherClass lastHolder hother hotherPhase
    have hsettled := hinv.settled hother hotherPhase
    refine ⟨hsettled.message, fun {index} hmessage => hsettled.owner_le ?_,
      fun hfree => hsettled.free_last ?_⟩
    · by_cases heq : otherDescriptor.offset = descriptor.offset
      · simp [heq] at hmessage
      · simpa [heq] using hmessage
    · by_cases heq : otherDescriptor.offset = descriptor.offset
      · simp [heq] at hfree
      · simpa [heq] using hfree
  · intro other hother
    obtain rfl : other = slot := by
      by_contra hne
      rw [Function.update_of_ne hne] at hother
      exact hne (hinv.eq_of_inReturn hreader hphase hother)
    refine ⟨reader, descriptor, sizeClass, hreader, hphase, hchunk, Function.update_self .., ?_, ?_,
      ?_⟩
    · simp [SharedData.setInUse]
    · simp
    · simp
  · intro payload publishedClass phase hpublishing
    refine (hinv.publishes hpublishing).change (fun hother => ⟨_, hother⟩)
      (fun hother => ⟨_, hother, le_rfl⟩) rfl id (fun _ => rfl) ?_ ?_
      (fun hpopped => hpopped.unhandled) (fun _ => rfl) rfl rfl
    · intro offset hoffset
      obtain ⟨hother, hne⟩ := hinv.ne_returned hreader hphase hpublishing hoffset
      exact Represents.isInUse_setInUse_of_ne hchunk hother hne false
    · intro offset hpopped
      have hne := (hinv.ne_returned hreader hphase hpublishing (.inr hpopped)).2
      simpa [hne] using hpopped.lost
  · intro offset index hmessage
    by_cases heq : offset = descriptor.offset
    · simp [heq] at hmessage
    · simpa [heq] using hmessage

/-- A return goes on without giving its chunk away. -/
theorem stay (hnot : phases slot ≠ .ready) {phase : ReturnPhase} (hnot' : phase ≠ .ready)
    {shared' : SharedData}
    (hexplained : Invariant { (explaining phases publisherPhase).apply state with
      shared := publisherPhase.unmark shared' } pool)
    (hin : InReturn shared' pool sizeClass descriptor.offset phase)
    (hpublishes : ∀ {payload publishedClass publishPhase},
      publisherPhase = .publishing payload publishedClass publishPhase →
      Publishes { state with shared := shared' } pool payload publishedClass publishPhase) :
    SplitPreserved { state with shared := shared' } (Function.update phases slot phase)
      publisherPhase popped returned pool := by
  have hreaders : (explaining (Function.update phases slot phase) publisherPhase).readers
      state.readers = (explaining phases publisherPhase).readers state.readers := by
    rw [readers_advance hreader hnot', ← readers_advance hreader hnot, Function.update_eq_self]
  refine ⟨pool, ⟨hexplained.of_eq rfl hreaders, hinv.ahead, hinv.alone, hinv.settled, ?_,
    hpublishes, hinv.account⟩, id⟩
  intro other hother
  obtain rfl : other = slot := by
    by_contra hne
    rw [Function.update_of_ne hne] at hother
    exact hne (hinv.eq_of_inReturn hreader hphase hother)
  refine ⟨reader, descriptor, sizeClass, hreader, hphase, ?_⟩
  rw [Function.update_self]
  exact hin

theorem loadTail (hunmarked : phases slot = .unmarked) :
    SplitPreserved state (Function.update phases slot (.tailLoaded (state.shared.tail sizeClass)))
      publisherPhase popped returned pool := by
  have hnot : phases slot ≠ .ready := by simp [hunmarked]
  have hin := (hinv.returned_chunk hreader hphase).2.2 hnot
  exact hinv.stay hreader hphase hnot (by simp) hinv.explained
    ⟨hin.isChunk, hin.lost, hin.unmarked, fun heq => by cases heq; rfl, by simp⟩ hinv.publishes

theorem linkTail {lastTailOff : ℕ} (hloaded : phases slot = .tailLoaded lastTailOff) :
    SplitPreserved { state with shared := state.shared.storeLink lastTailOff descriptor.offset }
      (Function.update phases slot .tailLinked) publisherPhase popped returned pool := by
  have hnot : phases slot ≠ .ready := by simp [hloaded]
  have hin := (hinv.returned_chunk hreader hphase).2.2 hnot
  obtain rfl := hin.tailLoaded hloaded
  obtain ⟨-, htailEq, -⟩ := publisherPhase.unmark_lists state.shared
  have hrep := hinv.explained.represents
  obtain ⟨htail, htailFree⟩ := hrep.tail_mem hin.isChunk.class_lt
  have hlinked := hrep.storeLink hin.isChunk.class_lt descriptor.offset
  change IsChunk sizeClass ((publisherPhase.unmark state.shared).tail sizeClass) at htail
  change pool.owner ((publisherPhase.unmark state.shared).tail sizeClass) = .free at htailFree
  change Represents ((publisherPhase.unmark state.shared).storeLink
    ((publisherPhase.unmark state.shared).tail sizeClass) descriptor.offset) pool at hlinked
  rw [htailEq] at htail htailFree hlinked
  have hoffset : descriptor.offset < 2 ^ 32 := by
    have hle := hin.isChunk.add_size_le
    simp only [kPayloadPoolSizeBytes] at hle
    omega
  refine hinv.stay hreader hphase hnot (by simp) ?_ ?_ ?_
  · have hchanged := hinv.explained.changePool hlinked ⟨hinv.explained.ring.write_eq,
      hinv.explained.ring.recent⟩ rfl rfl Iff.rfl
    exact hchanged.of_eq (publisherPhase.unmark_storeLink _ _ _) rfl
  · exact ⟨hin.isChunk, hin.lost, hin.unmarked, by simp, fun _ =>
      Represents.link_storeLink_self hoffset _⟩
  · intro payload publishedClass phase hpublishing
    have hpublishes := hinv.publishes hpublishing
    have hclass := (findSizeClass_eq_some hpublishes.class_eq)
    refine hpublishes.change (fun hother => ⟨_, hother⟩) (fun hother => ⟨_, hother, le_rfl⟩) rfl id
      (fun hne => ?_) (fun _ => rfl) (fun hpopped => hpopped.lost)
      (fun hpopped => hpopped.unhandled) (fun {offset} hpopped => ?_) rfl rfl
    · have hhead := (hinv.ne_returned hreader hphase hpublishing (.inl rfl)).1
      refine Represents.link_storeLink htail hhead fun heq => hne ?_
      rw [← heq, htail.class_unique (heq ▸ hhead)]
    · have htailSize := htail.size_ge
      exact htail.load_store _ hpopped.isChunk
        (fun heq => by rw [heq, hpopped.lost] at htailFree; cases htailFree)
        (by simp only [length_littleEndian, wordSize]; omega) hclass.2

/-- After the end of its return no subscriber is in one. -/
theorem nobody_returns {other : ℕ} {otherReader : Reader}
    (hother : Function.update state.readers slot
      (some { reader with phase := .chunkAppended }) other = some otherReader) :
    otherReader.returningOffset = none := by
  by_cases heq : other = slot
  · subst heq
    rw [Function.update_self, Option.some.injEq] at hother
    subst hother
    rfl
  · rw [Function.update_of_ne heq] at hother
    by_contra hreturning
    exact heq (hinv.alone hother hreturning hreader (by simp [Reader.returningOffset, hphase]))

section StoreTail

variable (hlinked : phases slot = .tailLinked)
variable (hin : InReturn state.shared pool sizeClass descriptor.offset (phases slot))

include hlinked

omit hphase in
theorem explained_storeTail :
    Invariant ((explaining (Function.update phases slot .ready) publisherPhase).apply
        (State.setReader { state with
            shared := state.shared.storeTail sizeClass descriptor.offset } slot
          { reader with phase := .chunkAppended }))
      (pool.recover sizeClass descriptor.offset hin.isChunk hin.lost) := by
  obtain ⟨-, htailEq, hdataEq⟩ := publisherPhase.unmark_lists state.shared
  have hrep : Represents ((publisherPhase.unmark state.shared).storeTail sizeClass
      descriptor.offset) (pool.recover sizeClass descriptor.offset hin.isChunk hin.lost) := by
    refine hinv.explained.represents.storeTail hin.isChunk hin.lost ?_
      (publisherPhase.unmark_isInUse_of_not _ hin.unmarked)
    change loadWord (publisherPhase.unmark state.shared).data
      ((publisherPhase.unmark state.shared).tail sizeClass) = _
    rw [hdataEq, htailEq]
    exact hin.tailLinked hlinked
  have hreaders : (explaining (Function.update phases slot .ready) publisherPhase).readers
      (Function.update state.readers slot (some { reader with phase := .chunkAppended })) =
      (explaining phases publisherPhase).readers state.readers := by
    rw [(explaining_transparent publisherPhase (Function.update_self ..)).update]
    funext other
    by_cases heq : other = slot
    · subst heq
      simp [explaining, hreader, hlinked, ReturnPhase.view]
    · simp [explaining, heq]
  have hchanged := hinv.explained.changePool hrep
    ⟨hinv.explained.ring.write_eq, hinv.explained.ring.recent⟩ rfl rfl
    fun {offset party} => by
      by_cases heq : offset = descriptor.offset
      · simp [heq, hin.lost]
      · simp [heq]
  exact hchanged.of_eq (publisherPhase.unmark_storeTail _ _ _) hreaders

omit hlinked

/-- Another subscriber between its bit and its read index stays settled: the chunk that has
come back can only be the one it has handled. -/
theorem settled_storeTail {other : ℕ} {otherReader : Reader}
    {otherDescriptor : MessageDescriptor} {otherClass : ℕ} {lastHolder : Bool}
    (hother : Function.update state.readers slot
      (some { reader with phase := .chunkAppended }) other = some otherReader)
    (hotherPhase : otherReader.phase = .bitCleared otherDescriptor otherClass lastHolder) :
    Settled (pool.recover sizeClass descriptor.offset hin.isChunk hin.lost)
      (Function.update state.readers slot (some { reader with phase := .chunkAppended }))
      otherReader.cursor otherDescriptor otherClass := by
  have hne : other ≠ slot := by
    rintro rfl
    rw [Function.update_self, Option.some.injEq] at hother
    rw [← hother] at hotherPhase
    cases hotherPhase
  have hold := hother
  rw [Function.update_of_ne hne] at hold
  have hsettled := hinv.settled hold hotherPhase
  refine ⟨hsettled.message, fun {index} hmessage => hsettled.owner_le ?_,
    fun hfree => ⟨?_, hinv.nobody_returns hreader hphase⟩⟩
  · by_cases heq : otherDescriptor.offset = descriptor.offset
    · simp [heq] at hmessage
    · simpa [heq] using hmessage
  · by_cases heq : otherDescriptor.offset = descriptor.offset
    · have hotherChunk : IsChunk otherClass otherDescriptor.offset :=
        (hinv.reader_of_ready hold (hinv.ready_of_phase hold
          (by simp [hotherPhase]))).current_isChunk (by simp [Reader.currentChunk, hotherPhase])
      rw [heq] at hotherChunk
      obtain rfl := hotherChunk.class_unique hin.isChunk
      simp [heq]
    · -- Before, somebody was in a return, so the chunk was not free.
      rw [Pool.recover_owner, Function.update_of_ne heq] at hfree
      have hnone := (hsettled.free_last hfree).2 hreader
      simp [Reader.returningOffset, hphase] at hnone

theorem publishes_storeTail {payload : List Byte} {publishedClass : ℕ} {phase : PublishPhase}
    (hpublishing : publisherPhase = .publishing payload publishedClass phase) :
    Publishes (State.setReader { state with
          shared := state.shared.storeTail sizeClass descriptor.offset } slot
        { reader with phase := .chunkAppended })
      (pool.recover sizeClass descriptor.offset hin.isChunk hin.lost) payload publishedClass
      phase := by
  refine (hinv.publishes hpublishing).change ?_ ?_ rfl
    (fun hne => ?_) (fun _ => rfl) (fun _ => rfl) (fun {offset} hpopped => ?_)
    (fun {offset} hpopped other otherReader hother hhandled => ?_) (fun _ => rfl) rfl rfl
  · intro other otherReader hother
    by_cases heq : other = slot
    · exact ⟨_, by rw [heq]; exact Function.update_self ..⟩
    · exact ⟨otherReader, by simpa [heq] using hother⟩
  · intro other otherReader hother
    by_cases heq : other = slot
    · subst heq
      rw [Function.update_self, Option.some.injEq] at hother
      exact ⟨reader, hreader, by rw [← hother]⟩
    · rw [Function.update_of_ne heq] at hother
      exact ⟨otherReader, hother, le_rfl⟩
  · have hhead := (hinv.ne_returned hreader hphase hpublishing (.inl rfl)).2
    by_cases heq : publishedClass = sizeClass
    · subst heq
      simpa [SharedData.storeTail] using hhead
    · simpa [SharedData.storeTail, heq] using hne
  · have hne := (hinv.ne_returned hreader hphase hpublishing (.inr hpopped)).2
    simpa [hne] using hpopped.lost
  · by_cases heq : other = slot
    · subst heq
      rw [Function.update_self, Option.some.injEq] at hother
      rw [← hother] at hhandled
      cases hhandled
    · rw [Function.update_of_ne heq] at hother
      exact hpopped.unhandled hother hhandled

omit hreader hphase in
theorem account_storeTail {other : ℕ} (hclass : other < kClassCount) :
    popped other ++ (pool.recover sizeClass descriptor.offset hin.isChunk hin.lost).free other =
      chunkOffsets other ++ recordChunk returned sizeClass descriptor.offset other := by
  by_cases heq : other = sizeClass
  · subst heq
    simp only [recordChunk, Function.update_self, Pool.recover_free]
    rw [← List.append_assoc, hinv.account other hclass, List.append_assoc]
  · simpa [recordChunk, heq] using hinv.account other hclass

end StoreTail

/-- The end of a return: the chunk is the last one of its list. -/
theorem storeTail (hlinked : phases slot = .tailLinked) :
    SplitPreserved (State.setReader { state with
          shared := state.shared.storeTail sizeClass descriptor.offset } slot
        { reader with phase := .chunkAppended })
      (Function.update phases slot .ready) publisherPhase popped
      (recordChunk returned sizeClass descriptor.offset) pool := by
  have hnot : phases slot ≠ .ready := by simp [hlinked]
  have hin := (hinv.returned_chunk hreader hphase).2.2 hnot
  refine ⟨pool.recover sizeClass descriptor.offset hin.isChunk hin.lost,
    ⟨hinv.explained_storeTail hreader hlinked hin,
      fun hother hreturning => absurd (hinv.nobody_returns hreader hphase hother) hreturning,
      fun hother hreturning => absurd (hinv.nobody_returns hreader hphase hother) hreturning,
      hinv.settled_storeTail hreader hphase hin, ?_,
      hinv.publishes_storeTail hreader hphase hin, fun _ => hinv.account_storeTail hin⟩, ?_⟩
  · intro other hother
    have hne : other ≠ slot := by
      rintro rfl
      simp at hother
    rw [Function.update_of_ne hne] at hother
    exact absurd (hinv.eq_of_inReturn hreader hphase hother) hne
  · intro offset index hmessage
    by_cases heq : offset = descriptor.offset
    · simp [heq] at hmessage
    · simpa [heq] using hmessage

theorem access_goesOn {phase : ReturnPhase} {shared' : SharedData}
    (haccess : (phases slot).access sizeClass descriptor.offset state.shared =
      (.goesOn phase, shared')) :
    SplitPreserved { state with shared := shared' } (Function.update phases slot phase)
      publisherPhase popped returned pool := by
  cases hwas : phases slot with
  | ready =>
      obtain ⟨hused, hkept⟩ := hinv.unmarkChunk hreader hphase hwas
      simp only [hwas, ReturnPhase.access, hused, Bool.true_eq_false, if_false] at haccess
      cases haccess
      exact hkept
  | unmarked =>
      rw [hwas] at haccess
      cases haccess
      exact hinv.loadTail hreader hphase hwas
  | tailLoaded lastTailOff =>
      rw [hwas] at haccess
      cases haccess
      exact hinv.linkTail hreader hphase hwas
  | tailLinked =>
      rw [hwas] at haccess
      cases haccess

/-- The tracker's check never fails. -/
theorem access_ne_doubleFree {shared' : SharedData} :
    (phases slot).access sizeClass descriptor.offset state.shared ≠ (.doubleFree, shared') := by
  intro haccess
  cases hwas : phases slot with
  | ready =>
      obtain ⟨hused, -⟩ := hinv.unmarkChunk hreader hphase hwas
      simp [hwas, ReturnPhase.access, hused] at haccess
  | _ =>
      rw [hwas] at haccess
      cases haccess

theorem access_returned {shared' : SharedData}
    (haccess : (phases slot).access sizeClass descriptor.offset state.shared =
      (.returned, shared')) :
    SplitPreserved (State.setReader { state with shared := shared' } slot
        { reader with phase := .chunkAppended })
      (Function.update phases slot .ready) publisherPhase popped
      (recordChunk returned sizeClass descriptor.offset) pool := by
  cases hwas : phases slot with
  | ready =>
      obtain ⟨hused, -⟩ := hinv.unmarkChunk hreader hphase hwas
      simp [hwas, ReturnPhase.access, hused] at haccess
  | tailLinked =>
      rw [hwas] at haccess
      cases haccess
      exact hinv.storeTail hreader hphase hwas
  | _ =>
      rw [hwas] at haccess
      cases haccess

end Return

end SplitInvariant

end DriveBus.SharedMemory
