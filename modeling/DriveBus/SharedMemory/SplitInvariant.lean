import DriveBus.SharedMemory.SplitPlane

/-!
# The invariant between two accesses

Between two accesses of a pop or a return the mapping is not one that the data
plane could show, but it is a small change away from one: a chunk that is marked
before it is popped counts as unmarked, and a party that has passed the
tracker's check of its return counts as having appended, its chunk being
nobody's until the tail is stored.  With these changes the data plane's
invariant goes on holding.  What it needs in addition is an order of the
subscribers: while one of them returns a chunk no other holds an older message,
so that no second one can be a last holder.
-/

namespace DriveBus.SharedMemory

open DriveBus.ByteMemory DriveBus.Transition

/-! ## Changes that a subscriber does not see -/

/-- A change of the mapping and of the subscribers. -/
structure Overlay where
  mapping : SharedData → SharedData
  readers : (ℕ → Option Reader) → ℕ → Option Reader

def Overlay.apply (overlay : Overlay) (state : State) : State :=
  { state with
    shared := overlay.mapping state.shared
    readers := overlay.readers state.readers }

/-- The steps of the subscriber of the slot, but for its append, neither see the change nor
touch what it changes. -/
structure Overlay.Transparent (overlay : Overlay) (slot : ℕ) : Prop where
  reader : ∀ readers, overlay.readers readers slot = readers slot
  update : ∀ readers reader, overlay.readers (Function.update readers slot (some reader)) =
    Function.update (overlay.readers readers) slot (some reader)
  writeIndex : ∀ shared, (overlay.mapping shared).descriptorWriteIndex =
    shared.descriptorWriteIndex
  descRing : ∀ shared, (overlay.mapping shared).descRing = shared.descRing
  data : ∀ shared, (overlay.mapping shared).data = shared.data
  counts : ∀ shared, (overlay.mapping shared).chunkReferenceCounts =
    shared.chunkReferenceCounts
  readIndex : ∀ shared, (overlay.mapping shared).descriptorReadIndices slot =
    shared.descriptorReadIndices slot
  clear : ∀ shared chunk bit, overlay.mapping (shared.clearReference chunk bit) =
    (overlay.mapping shared).clearReference chunk bit
  store : ∀ shared index, overlay.mapping (shared.storeReadIndex slot index) =
    (overlay.mapping shared).storeReadIndex slot index

/-- A payload is read from the bytes alone. -/
theorem Reader.readPayload_congr (reader : Reader) {shared shared' : SharedData}
    (hdata : shared'.data = shared.data) (descriptor : MessageDescriptor) :
    reader.readPayload shared' descriptor = reader.readPayload shared descriptor := by
  unfold Reader.readPayload
  rw [hdata]

namespace Overlay.Transparent

variable {overlay : Overlay} {slot : ℕ} {state next : State} {outcome : Outcome}

/-- The change commutes with a step that moves the subscriber of the slot. -/
theorem apply_setReader (hoverlay : overlay.Transparent slot) (state : State)
    (shared : SharedData) (spaceAvailable : ℕ) (reader : Reader) :
    overlay.apply ({ state with shared, spaceAvailable }.setReader slot reader) =
      { overlay.apply state with
        shared := overlay.mapping shared
        spaceAvailable }.setReader slot reader := by
  simp only [Overlay.apply, State.setReader, hoverlay.update]

theorem apply_readers (hoverlay : overlay.Transparent slot) (state : State) :
    (overlay.apply state).readers slot = state.readers slot :=
  hoverlay.reader _

theorem fetchDescriptors (hoverlay : overlay.Transparent slot)
    (hslot : ∀ reader, state.readers slot = some reader → reader.slotIndex = slot)
    (hstep : state.fetchDescriptors slot = some (outcome, next)) :
    (overlay.apply state).fetchDescriptors slot = some (outcome, overlay.apply next) := by
  unfold State.fetchDescriptors at hstep ⊢
  rw [hoverlay.apply_readers]
  cases hreader : state.readers slot with
  | none => simp [hreader] at hstep
  | some reader =>
      rw [hreader] at hstep
      dsimp only at hstep ⊢
      split at hstep
      next hidle =>
        cases hstep
        have hfetched : reader.fetchDescriptors (overlay.apply state).shared =
            reader.fetchDescriptors state.shared := by
          simp only [Overlay.apply, Reader.fetchDescriptors, Reader.initializeSubscriberReadIndex,
            Reader.unreadSegment, hslot reader hreader, hoverlay.readIndex,
            hoverlay.writeIndex, hoverlay.descRing]
        rw [if_pos hidle, hfetched]
        exact congrArg (fun moved => some (_, moved))
          (hoverlay.apply_setReader state state.shared state.spaceAvailable _).symm
      next => cases hstep

theorem readPayload (hoverlay : overlay.Transparent slot)
    (hstep : state.readPayload slot = some (outcome, next)) :
    (overlay.apply state).readPayload slot = some (outcome, overlay.apply next) := by
  simp only [State.readPayload, Option.bind_eq_bind, Option.bind_eq_some_iff] at hstep ⊢
  obtain ⟨reader, hreader, ⟨result, started⟩, hstart, hstep⟩ := hstep
  cases hstep
  refine ⟨reader, (hoverlay.apply_readers _).trans hreader, ⟨result, started⟩, ?_, ?_⟩
  · rw [← hstart]
    unfold Reader.startIteration
    simp only [Overlay.apply, Reader.readPayload_congr _ (hoverlay.data state.shared)]
  · exact congrArg (fun moved => some (_, moved))
      (hoverlay.apply_setReader state state.shared state.spaceAvailable started).symm

theorem clearReference (hoverlay : overlay.Transparent slot)
    (hstep : state.clearReference slot = some (outcome, next)) :
    (overlay.apply state).clearReference slot = some (outcome, overlay.apply next) := by
  simp only [State.clearReference, Option.bind_eq_bind, Option.bind_eq_some_iff] at hstep ⊢
  obtain ⟨reader, hreader, ⟨cleared, shared⟩, hclear, hstep⟩ := hstep
  cases hstep
  refine ⟨reader, (hoverlay.apply_readers _).trans hreader,
    ⟨cleared, overlay.mapping shared⟩, ?_, ?_⟩
  · unfold Reader.clearOwnReference at hclear ⊢
    split at hclear
    next =>
      cases hclear
      simp only [Overlay.apply, hoverlay.counts, hoverlay.clear]
    next => cases hclear
  · exact congrArg (fun moved => some (_, moved))
      (hoverlay.apply_setReader state shared state.spaceAvailable cleared).symm

theorem storeReadIndex (hoverlay : overlay.Transparent slot)
    (hslot : ∀ reader, state.readers slot = some reader → reader.slotIndex = slot)
    (hstep : state.storeReadIndex slot = some (outcome, next)) :
    (overlay.apply state).storeReadIndex slot = some (outcome, overlay.apply next) := by
  simp only [State.storeReadIndex, Option.bind_eq_bind, Option.bind_eq_some_iff] at hstep ⊢
  obtain ⟨reader, hreader, ⟨stored, shared⟩, hstore, hstep⟩ := hstep
  cases hstep
  refine ⟨reader, (hoverlay.apply_readers _).trans hreader,
    ⟨stored, overlay.mapping shared⟩, ?_, ?_⟩
  · unfold Reader.storeOwnReadIndex at hstore ⊢
    split at hstore
    next =>
      cases hstore
      simp only [Overlay.apply, hslot reader hreader, hoverlay.store]
    next => cases hstore
  · exact congrArg (fun moved => some (_, moved))
      (hoverlay.apply_setReader state shared state.spaceAvailable stored).symm

theorem signalSpace (hoverlay : overlay.Transparent slot)
    (hstep : state.signalSpace slot = some (outcome, next)) :
    (overlay.apply state).signalSpace slot = some (outcome, overlay.apply next) := by
  simp only [State.signalSpace, Option.bind_eq_bind, Option.bind_eq_some_iff] at hstep ⊢
  obtain ⟨reader, hreader, ⟨signalled, spaceAvailable⟩, hsignal, hstep⟩ := hstep
  cases hstep
  refine ⟨reader, (hoverlay.apply_readers _).trans hreader,
    ⟨signalled, spaceAvailable⟩, hsignal, ?_⟩
  exact congrArg (fun moved => some (_, moved))
    (hoverlay.apply_setReader state state.shared spaceAvailable signalled).symm

end Overlay.Transparent

/-! ## The state that the data plane's invariant speaks of -/

/-- The mapping without the mark of a chunk that is still on its list. -/
def PublisherPhase.unmark : PublisherPhase → SharedData → SharedData
  | .publishing _ sizeClass (.marked headOff), shared =>
      shared.setInUse sizeClass (localChunkIndex sizeClass headOff) false
  | .publishing _ sizeClass (.linkRead headOff _), shared =>
      shared.setInUse sizeClass (localChunkIndex sizeClass headOff) false
  | _, shared => shared

/-- A subscriber that has passed the tracker's check counts as having appended. -/
def ReturnPhase.view : ReturnPhase → Reader → Reader
  | .ready, reader => reader
  | _, reader => { reader with phase := .chunkAppended }

namespace ReturnPhase

variable (phase : ReturnPhase) (reader : Reader)

@[simp]
theorem view_slotIndex : (phase.view reader).slotIndex = reader.slotIndex := by
  cases phase <;> rfl

@[simp]
theorem view_joinedAt : (phase.view reader).joinedAt = reader.joinedAt := by
  cases phase <;> rfl

@[simp]
theorem view_cursor : (phase.view reader).cursor = reader.cursor := by
  cases phase <;> rfl

@[simp]
theorem view_messages : (phase.view reader).messages = reader.messages := by
  cases phase <;> rfl

end ReturnPhase

/-- What the accesses that are under way have to be taken for. -/
def explaining (phases : ℕ → ReturnPhase) (phase : PublisherPhase) : Overlay where
  mapping := phase.unmark
  readers := fun readers slot => (readers slot).map (phases slot).view

theorem explaining_transparent {phases : ℕ → ReturnPhase} {slot : ℕ}
    (phase : PublisherPhase) (hready : phases slot = .ready) :
    (explaining phases phase).Transparent slot := by
  have hview : ∀ reader : Option Reader, reader.map (phases slot).view = reader := by
    intro reader
    rw [hready]
    cases reader <;> rfl
  constructor
  case reader => exact fun readers => hview _
  case update =>
    intro readers reader
    funext other
    by_cases heq : other = slot
    · subst heq
      simp only [explaining, Function.update_self, hview]
    · simp only [explaining, Function.update_of_ne heq]
  all_goals
    intros
    cases phase with
    | publishing _ _ phase => cases phase <;> rfl
    | _ => rfl

/-- The chunk that a subscriber has given up its reference to. -/
def Reader.handledOffset (reader : Reader) : Option ℕ :=
  match reader.phase with
  | .bitCleared descriptor _ _ => some descriptor.offset
  | .indexStored descriptor _ => some descriptor.offset
  | _ => none

/-- A party has passed the tracker's check of its return and not yet stored the tail. -/
structure InReturn (shared : SharedData) {log : List Message} (pool : Pool log)
    (sizeClass offset : ℕ) (phase : ReturnPhase) : Prop where
  isChunk : IsChunk sizeClass offset
  lost : pool.owner offset = .lost
  unmarked : shared.isInUse sizeClass (localChunkIndex sizeClass offset) = false
  tailLoaded : ∀ {lastTailOff}, phase = .tailLoaded lastTailOff →
    lastTailOff = shared.tail sizeClass
  tailLinked : phase = .tailLinked → shared.link (shared.tail sizeClass) = offset

/-- A subscriber that has cleared its reference but not stored its read index keeps its
chunk from being used again: it holds all later messages, so nobody returns a chunk behind
this one. -/
structure Settled {log : List Message} (pool : Pool log) (readers : ℕ → Option Reader)
    (cursor : ℕ) (descriptor : MessageDescriptor) (sizeClass : ℕ) : Prop where
  message : ∃ message, log[cursor]? = some message ∧ message.descriptor = descriptor
  owner_le : ∀ {index}, pool.owner descriptor.offset = .message index → index ≤ cursor
  free_last : pool.owner descriptor.offset = .free →
    (pool.free sizeClass).getLast? = some descriptor.offset ∧
      ∀ {slot reader}, readers slot = some reader → reader.returningOffset = none

/-- The publisher has popped the chunk and not yet published it. -/
structure Popped (state : State) (pool : Pool state.published) (sizeClass headOff : ℕ) :
    Prop where
  isChunk : IsChunk sizeClass headOff
  lost : pool.owner headOff = .lost
  marked : state.shared.isInUse sizeClass (localChunkIndex sizeClass headOff) = true
  unhandled : ∀ {slot reader}, state.readers slot = some reader →
    reader.handledOffset ≠ some headOff

/-- What the publisher's locals say about the mapping. -/
def PublishPhase.Consistent (state : State) (pool : Pool state.published)
    (payload : List Byte) (sizeClass : ℕ) : PublishPhase → Prop
  | .admitted => True
  | .headLoaded headOff => headOff = state.shared.head sizeClass
  | .tailCompared headOff =>
      headOff = state.shared.head sizeClass ∧ headOff ≠ state.shared.tail sizeClass
  | .marked headOff =>
      headOff = state.shared.head sizeClass ∧ headOff ≠ state.shared.tail sizeClass ∧
        state.shared.isInUse sizeClass (localChunkIndex sizeClass headOff) = true
  | .linkRead headOff nextHeadOff =>
      headOff = state.shared.head sizeClass ∧ headOff ≠ state.shared.tail sizeClass ∧
        state.shared.isInUse sizeClass (localChunkIndex sizeClass headOff) = true ∧
        state.shared.link headOff = nextHeadOff
  | .headStored headOff => Popped state pool sizeClass headOff
  | .written headOff =>
      Popped state pool sizeClass headOff ∧
        load state.shared.data headOff (payload.length + kMessageHeaderSizeBytes) =
          messageBytes state.published.length payload ∧
        state.shared.descRing state.shared.descriptorWriteIndex =
          { offset := headOff, len := payload.length + kMessageHeaderSizeBytes }

/-- What an admitted publish can rely on. -/
structure Publishes (state : State) (pool : Pool state.published) (payload : List Byte)
    (sizeClass : ℕ) (phase : PublishPhase) : Prop where
  class_eq : findSizeClass (payload.length + kMessageHeaderSizeBytes) = some sizeClass
  subscribed : ∃ slot reader, state.readers slot = some reader
  room : ∀ {slot reader}, state.readers slot = some reader →
    state.published.length + 1 < reader.cursor + kDescriptorSlotCount
  consistent : phase.Consistent state pool payload sizeClass

/-- The state between two accesses is explained by `pool`. -/
structure SplitInvariant (state : State) (phases : ℕ → ReturnPhase)
    (publisherPhase : PublisherPhase) (popped returned : ℕ → List ℕ)
    (pool : Pool state.published) : Prop where
  explained : Invariant ((explaining phases publisherPhase).apply state) pool
  ahead : ∀ {slot reader other otherReader}, state.readers slot = some reader →
    reader.returningOffset ≠ none → state.readers other = some otherReader →
    reader.heldFrom ≤ otherReader.heldFrom
  alone : ∀ {slot reader other otherReader}, state.readers slot = some reader →
    reader.returningOffset ≠ none → state.readers other = some otherReader →
    otherReader.returningOffset ≠ none → slot = other
  settled : ∀ {slot reader descriptor sizeClass lastHolder},
    state.readers slot = some reader →
    reader.phase = .bitCleared descriptor sizeClass lastHolder →
    Settled pool state.readers reader.cursor descriptor sizeClass
  inReturn : ∀ {slot}, phases slot ≠ .ready →
    ∃ reader descriptor sizeClass, state.readers slot = some reader ∧
      reader.phase = .indexStored descriptor sizeClass ∧
      InReturn state.shared pool sizeClass descriptor.offset (phases slot)
  publishes : ∀ {payload sizeClass phase},
    publisherPhase = .publishing payload sizeClass phase →
    Publishes state pool payload sizeClass phase
  account : ∀ sizeClass < kClassCount,
    popped sizeClass ++ pool.free sizeClass = chunkOffsets sizeClass ++ returned sizeClass

namespace Invariant

variable {state : State} {pool : Pool state.published}

theorem of_eq (hinv : Invariant state pool) {shared : SharedData}
    {readers : ℕ → Option Reader} (hshared : shared = state.shared)
    (hreaders : readers = state.readers) : Invariant { state with shared, readers } pool := by
  subst hshared hreaders
  exact hinv

/-- A subscriber that has a message whose chunk is not this message's is past it. -/
theorem lt_heldFrom (hinv : Invariant state pool) {index : ℕ} {message : Message}
    (hmessage : state.published[index]? = some message)
    (howner : pool.owner message.descriptor.offset ≠ .message index) {slot : ℕ}
    {reader : Reader} (hreader : state.readers slot = some reader) :
    index < reader.heldFrom := by
  by_contra hbehind
  exact howner (pool.owner_of_holds hmessage ((hinv.holds_own_iff hreader).mpr
    ⟨by omega, (List.getElem?_eq_some_iff.mp hmessage).1⟩))

end Invariant

namespace SplitInvariant

variable {state : State} {phases : ℕ → ReturnPhase} {publisherPhase : PublisherPhase}
variable {popped returned : ℕ → List ℕ} {pool : Pool state.published}
variable {slot : ℕ} {reader : Reader}

/-- A subscriber as the data plane's invariant has it. -/
theorem explained_reader (hreader : state.readers slot = some reader) :
    ((explaining phases publisherPhase).apply state).readers slot =
      some ((phases slot).view reader) := by
  simp [explaining, Overlay.apply, hreader]

theorem explained_readerInvariant
    (hinv : SplitInvariant state phases publisherPhase popped returned pool)
    (hreader : state.readers slot = some reader) :
    ReaderInvariant state.published
      ((publisherPhase.unmark state.shared).descriptorReadIndices slot) slot
      ((phases slot).view reader) :=
  hinv.explained.reader (explained_reader hreader)

theorem slotIndex_eq
    (hinv : SplitInvariant state phases publisherPhase popped returned pool)
    (hreader : state.readers slot = some reader) : reader.slotIndex = slot := by
  simpa using (hinv.explained_readerInvariant hreader).slotIndex_eq

/-- Only a subscriber whose read index is stored is in a return. -/
theorem ready_of_phase
    (hinv : SplitInvariant state phases publisherPhase popped returned pool)
    (hreader : state.readers slot = some reader)
    (hphase : ∀ descriptor sizeClass, reader.phase ≠ .indexStored descriptor sizeClass) :
    phases slot = .ready := by
  by_contra hreturning
  obtain ⟨other, descriptor, sizeClass, hother, hstored, -⟩ := hinv.inReturn hreturning
  rw [hreader, Option.some.injEq] at hother
  subst hother
  exact hphase _ _ hstored

theorem view_heldFrom
    (hinv : SplitInvariant state phases publisherPhase popped returned pool)
    (hreader : state.readers slot = some reader) :
    ((phases slot).view reader).heldFrom = reader.heldFrom := by
  by_cases hready : phases slot = .ready
  · rw [hready]
    rfl
  · obtain ⟨other, descriptor, sizeClass, hother, hstored, -⟩ := hinv.inReturn hready
    rw [hreader, Option.some.injEq] at hother
    subst hother
    have hcursor : reader.heldFrom = reader.cursor := by simp [Reader.heldFrom, hstored]
    rw [hcursor]
    cases hphase : phases slot with
    | ready => exact absurd hphase hready
    | _ => rfl

/-- In the data plane's terms: who has a message whose chunk is not this message's any
more is past it. -/
theorem lt_heldFrom
    (hinv : SplitInvariant state phases publisherPhase popped returned pool)
    {index : ℕ} {message : Message} (hmessage : state.published[index]? = some message)
    (howner : pool.owner message.descriptor.offset ≠ .message index)
    (hreader : state.readers slot = some reader) : index < reader.heldFrom := by
  rw [← hinv.view_heldFrom hreader]
  exact hinv.explained.lt_heldFrom hmessage howner (explained_reader hreader)

end SplitInvariant

end DriveBus.SharedMemory
