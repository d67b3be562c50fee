import DriveBus.SharedMemory.SplitInvariant

/-!
# The accesses of the subscribers

Outside its append a subscriber touches no free list: its accesses keep the invariant
between two accesses, whatever returns and publishes are under way.
-/

namespace DriveBus.SharedMemory

open DriveBus.ByteMemory DriveBus.Transition

/-! ## Moves of a subscriber -/

/-- How an access that is not one to a free list moves a subscriber. -/
inductive Reader.Moves (reader reader' : Reader) : Prop
  | leaves (hbefore : reader.handledOffset = none) (hafter : reader'.handledOffset = none)
      (hcursor : reader'.cursor = reader.cursor)
  | clears {descriptor : MessageDescriptor} {sizeClass : ℕ} {lastHolder : Bool}
      (hbefore : reader.phase = .payloadRead descriptor sizeClass)
      (hafter : reader'.phase = .bitCleared descriptor sizeClass lastHolder)
      (hcursor : reader'.cursor = reader.cursor)
  | stores {descriptor : MessageDescriptor} {sizeClass : ℕ} {lastHolder : Bool}
      (hbefore : reader.phase = .bitCleared descriptor sizeClass lastHolder)
      (hafter : reader'.phase = if lastHolder then .indexStored descriptor sizeClass else .idle)
      (hcursor : reader'.cursor = reader.cursor + 1)

namespace Reader

variable {reader reader' : Reader} {shared shared' : SharedData}

theorem heldFrom_of_not_handled (hhandled : reader.handledOffset = none) :
    reader.heldFrom = reader.cursor := by
  cases hphase : reader.phase <;> simp_all [handledOffset, heldFrom]

theorem returningOffset_of_not_handled (hhandled : reader.handledOffset = none) :
    reader.returningOffset = none := by
  cases hphase : reader.phase <;> simp_all [handledOffset, returningOffset]

theorem handledOffset_of_idle (hphase : reader.phase = .idle) :
    reader.handledOffset = none := by
  simp [handledOffset, hphase]

theorem moves_fetchDescriptors (hphase : reader.phase = .idle) (shared : SharedData) :
    reader.Moves (reader.fetchDescriptors shared) := by
  have hfetched : (reader.fetchDescriptors shared).phase = reader.phase ∧
      (reader.fetchDescriptors shared).cursor = reader.cursor := by
    simp only [fetchDescriptors, initializeSubscriberReadIndex]
    split <;> exact ⟨rfl, rfl⟩
  exact .leaves (handledOffset_of_idle hphase)
    (handledOffset_of_idle (hfetched.1.trans hphase)) hfetched.2

theorem moves_startIteration {result : Except ReadFault (List Byte)}
    (hstart : reader.startIteration shared = some (result, reader')) :
    reader.phase = .idle ∧ reader.Moves reader' := by
  unfold startIteration at hstart
  split at hstart
  next descriptor rest hphase hcopies =>
    obtain ⟨hcursor, hposition⟩ :=
      { reader with descRing := rest }.readPayload_position shared descriptor
    have hhandled : ({ reader with descRing := rest }.readPayload shared
        descriptor).2.handledOffset = none := by
      rcases hposition with hsame | ⟨sizeClass, hcopied⟩
      · exact handledOffset_of_idle (hsame.trans hphase)
      · simp [handledOffset, hcopied]
    refine ⟨hphase, ?_⟩
    split at hstart
    all_goals
      next hread =>
        cases hstart
        rw [hread] at hcursor hhandled
        exact .leaves (handledOffset_of_idle hphase) hhandled hcursor
  next => cases hstart

theorem moves_clearOwnReference
    (hclear : reader.clearOwnReference shared = some (reader', shared')) :
    (∃ descriptor sizeClass, reader.phase = .payloadRead descriptor sizeClass) ∧
      reader.Moves reader' := by
  unfold clearOwnReference at hclear
  split at hclear
  next descriptor sizeClass hphase =>
    cases hclear
    exact ⟨⟨_, _, hphase⟩, .clears hphase rfl rfl⟩
  next => cases hclear

theorem moves_storeOwnReadIndex
    (hstore : reader.storeOwnReadIndex shared = some (reader', shared')) :
    (∃ descriptor sizeClass lastHolder,
      reader.phase = .bitCleared descriptor sizeClass lastHolder) ∧
      reader.Moves reader' := by
  unfold storeOwnReadIndex at hstore
  split at hstore
  next descriptor sizeClass lastHolder hphase =>
    cases hstore
    exact ⟨⟨_, _, _, hphase⟩, .stores hphase rfl rfl⟩
  next => cases hstore

theorem moves_signalSpaceAvailable {spaceAvailable spaceAvailable' : ℕ}
    (hsignal : reader.signalSpaceAvailable spaceAvailable = some (reader', spaceAvailable')) :
    reader.phase = .chunkAppended ∧ reader.Moves reader' := by
  unfold signalSpaceAvailable at hsignal
  split at hsignal
  next hphase =>
    cases hsignal
    exact ⟨hphase, .leaves (by simp [handledOffset, hphase]) rfl rfl⟩
  next => cases hsignal

namespace Moves

theorem cursor_le (hmoves : reader.Moves reader') : reader.cursor ≤ reader'.cursor := by
  cases hmoves with
  | leaves _ _ hcursor => exact hcursor.ge
  | clears _ _ hcursor => exact hcursor.ge
  | stores _ _ hcursor => omega

theorem heldFrom_le (hmoves : reader.Moves reader') : reader.heldFrom ≤ reader'.heldFrom := by
  cases hmoves with
  | leaves hbefore hafter hcursor =>
      rw [heldFrom_of_not_handled hbefore, heldFrom_of_not_handled hafter, hcursor]
  | clears hbefore hafter hcursor => simp [heldFrom, hbefore, hafter, hcursor]
  | @stores _ _ lastHolder hbefore hafter hcursor =>
      cases lastHolder <;> simp [heldFrom, hbefore, hafter, hcursor]

/-- A subscriber that has become a last holder has just cleared its reference. -/
theorem newly (hmoves : reader.Moves reader') (hreturning : reader'.returningOffset ≠ none) :
    reader.returningOffset ≠ none ∧ reader'.heldFrom = reader.heldFrom ∨
      ∃ descriptor sizeClass, reader.phase = .payloadRead descriptor sizeClass ∧
        reader'.phase = .bitCleared descriptor sizeClass true ∧
        reader'.cursor = reader.cursor := by
  cases hmoves with
  | leaves hbefore hafter hcursor =>
      exact absurd (returningOffset_of_not_handled hafter) hreturning
  | @clears descriptor sizeClass lastHolder hbefore hafter hcursor =>
      cases lastHolder with
      | false => simp [returningOffset, hafter] at hreturning
      | true => exact .inr ⟨_, _, hbefore, hafter, hcursor⟩
  | @stores descriptor sizeClass lastHolder hbefore hafter hcursor =>
      cases lastHolder with
      | false => simp [returningOffset, hafter] at hreturning
      | true => exact .inl ⟨by simp [returningOffset, hbefore],
          by simp [heldFrom, hbefore, hafter, hcursor]⟩

/-- The chunk that a subscriber comes to handle is the one that it has read. -/
theorem handles (hmoves : reader.Moves reader') {offset : ℕ}
    (hhandled : reader'.handledOffset = some offset) :
    reader.handledOffset = some offset ∨
      ∃ descriptor sizeClass, reader.phase = .payloadRead descriptor sizeClass ∧
        descriptor.offset = offset := by
  cases hmoves with
  | leaves hbefore hafter hcursor => rw [hafter] at hhandled; cases hhandled
  | @clears descriptor sizeClass lastHolder hbefore hafter hcursor =>
      refine .inr ⟨_, _, hbefore, ?_⟩
      simpa [handledOffset, hafter] using hhandled
  | @stores descriptor sizeClass lastHolder hbefore hafter hcursor =>
      cases lastHolder with
      | false => simp [handledOffset, hafter] at hhandled
      | true => exact .inl (by simpa [handledOffset, hafter, hbefore] using hhandled)

end Moves

end Reader

/-! ## What a publish goes on relying on -/

/-- Others keep what an admitted publish relies on, if they leave its chunk, the head of its
list and the descriptor that it has written alone. -/
theorem Publishes.change {state : State} {pool pool' : Pool state.published}
    {payload : List Byte} {sizeClass : ℕ} {phase : PublishPhase} {shared' : SharedData}
    {readers' : ℕ → Option Reader} {spaceAvailable : ℕ}
    (hpublishes : Publishes state pool payload sizeClass phase)
    (hforth : ∀ {slot reader}, state.readers slot = some reader →
      ∃ reader', readers' slot = some reader')
    (hback : ∀ {slot reader'}, readers' slot = some reader' →
      ∃ reader, state.readers slot = some reader ∧ reader.cursor ≤ reader'.cursor)
    (hhead : shared'.head sizeClass = state.shared.head sizeClass)
    (htail : state.shared.head sizeClass ≠ state.shared.tail sizeClass →
      state.shared.head sizeClass ≠ shared'.tail sizeClass)
    (hlink : state.shared.head sizeClass ≠ state.shared.tail sizeClass →
      shared'.link (state.shared.head sizeClass) =
        state.shared.link (state.shared.head sizeClass))
    (hmark : ∀ {offset}, offset = state.shared.head sizeClass ∨
        Popped state pool sizeClass offset →
      shared'.isInUse sizeClass (localChunkIndex sizeClass offset) =
        state.shared.isInUse sizeClass (localChunkIndex sizeClass offset))
    (hlost : ∀ {offset}, Popped state pool sizeClass offset → pool'.owner offset = .lost)
    (hunhandled : ∀ {offset}, Popped state pool sizeClass offset →
      ∀ {slot reader'}, readers' slot = some reader' → reader'.handledOffset ≠ some offset)
    (hload : ∀ {offset}, Popped state pool sizeClass offset →
      load shared'.data offset (payload.length + kMessageHeaderSizeBytes) =
        load state.shared.data offset (payload.length + kMessageHeaderSizeBytes))
    (hdescRing : shared'.descRing = state.shared.descRing)
    (hwrite : shared'.descriptorWriteIndex = state.shared.descriptorWriteIndex) :
    Publishes { state with shared := shared', readers := readers', spaceAvailable } pool'
      payload sizeClass phase where
  class_eq := hpublishes.class_eq
  subscribed := by
    obtain ⟨slot, reader, hreader⟩ := hpublishes.subscribed
    obtain ⟨reader', hreader'⟩ := hforth hreader
    exact ⟨slot, reader', hreader'⟩
  room := by
    intro slot reader' hreader'
    obtain ⟨reader, hreader, hle⟩ := hback hreader'
    exact (hpublishes.room hreader).trans_le (Nat.add_le_add_right hle _)
  consistent := by
    have hpopped : ∀ {offset}, Popped state pool sizeClass offset →
        Popped { state with shared := shared', readers := readers', spaceAvailable } pool'
          sizeClass offset := fun {offset} hold =>
      { isChunk := hold.isChunk
        lost := hlost hold
        marked := (hmark (.inr hold)).trans hold.marked
        unhandled := hunhandled hold }
    have hconsistent := hpublishes.consistent
    cases phase with
    | admitted => trivial
    | headLoaded headOff => exact hconsistent.trans hhead.symm
    | tailCompared headOff =>
        obtain ⟨rfl, hne⟩ := hconsistent
        exact ⟨hhead.symm, htail hne⟩
    | marked headOff =>
        obtain ⟨rfl, hne, hmarked⟩ := hconsistent
        exact ⟨hhead.symm, htail hne, (hmark (.inl rfl)).trans hmarked⟩
    | linkRead headOff nextHeadOff =>
        obtain ⟨rfl, hne, hmarked, hnext⟩ := hconsistent
        exact ⟨hhead.symm, htail hne, (hmark (.inl rfl)).trans hmarked, (hlink hne).trans hnext⟩
    | headStored headOff => exact hpopped hconsistent
    | written headOff =>
        obtain ⟨hold, hcontent, hdescriptor⟩ := hconsistent
        refine ⟨hpopped hold, (hload hold).trans hcontent, ?_⟩
        dsimp only
        rw [hdescRing, hwrite]
        exact hdescriptor

/-! ## Accesses of the subscribers -/

/-- What no subscriber changes outside its append. -/
structure SharedData.SameLists (shared shared' : SharedData) : Prop where
  head : shared'.head = shared.head
  tail : shared'.tail = shared.tail
  data : shared'.data = shared.data
  isInUse : shared'.isInUse = shared.isInUse
  descRing : shared'.descRing = shared.descRing
  writeIndex : shared'.descriptorWriteIndex = shared.descriptorWriteIndex

/-- The invariant goes on holding, and no message has got a chunk. -/
def SplitPreserved (state : State) (phases : ℕ → ReturnPhase) (publisherPhase : PublisherPhase)
    (popped returned : ℕ → List ℕ) {log : List Message} (pool : Pool log) : Prop :=
  ∃ pool' : Pool state.published,
    SplitInvariant state phases publisherPhase popped returned pool' ∧
    ∀ {offset index}, pool'.owner offset = .message index → pool.owner offset = .message index

namespace SplitInvariant

variable {state : State} {phases : ℕ → ReturnPhase} {publisherPhase : PublisherPhase}
variable {popped returned : ℕ → List ℕ} {pool : Pool state.published}
variable {slot : ℕ} {reader reader' : Reader} {shared' : SharedData} {spaceAvailable : ℕ}

/-- The reader of a slot that is in no return, as the data plane's invariant has it. -/
theorem reader_of_ready
    (hinv : SplitInvariant state phases publisherPhase popped returned pool)
    (hreader : state.readers slot = some reader) (hready : phases slot = .ready) :
    ReaderInvariant state.published
      ((publisherPhase.unmark state.shared).descriptorReadIndices slot) slot reader := by
  have hrinv := hinv.explained_readerInvariant hreader
  rwa [hready] at hrinv

/-- The message that a subscriber has read is its own until it clears its reference. -/
theorem message_of_payloadRead
    (hinv : SplitInvariant state phases publisherPhase popped returned pool)
    (hreader : state.readers slot = some reader) (hready : phases slot = .ready)
    {descriptor : MessageDescriptor} {sizeClass : ℕ}
    (hphase : reader.phase = .payloadRead descriptor sizeClass) :
    (∃ message, state.published[reader.cursor]? = some message ∧
      message.descriptor = descriptor) ∧
      pool.owner descriptor.offset = .message reader.cursor := by
  obtain ⟨message, hmessage, rfl⟩ := (hinv.reader_of_ready hreader hready).current_message hphase
  refine ⟨⟨message, hmessage, rfl⟩, ?_⟩
  by_contra howner
  have hlt := hinv.lt_heldFrom hmessage howner hreader
  simp [Reader.heldFrom, hphase] at hlt

section Consume

variable (hinv : SplitInvariant state phases publisherPhase popped returned pool)
variable (hreader : state.readers slot = some reader) (hready : phases slot = .ready)
variable (hmoves : reader.Moves reader') {pool' : Pool state.published}
variable (hexplained : Invariant ((explaining phases publisherPhase).apply
  (State.setReader { state with shared := shared', spaceAvailable } slot reader')) pool')

include hinv hreader hready hmoves hexplained

/-- Whoever becomes a last holder is the last one to read its message. -/
theorem behind_of_newly (hreturning : reader'.returningOffset ≠ none)
    (hnew : reader.returningOffset = none) {other : ℕ} {otherReader : Reader}
    (hne : other ≠ slot) (hother : state.readers other = some otherReader) :
    reader.cursor < otherReader.heldFrom ∧ reader'.heldFrom = reader.cursor + 1 := by
  obtain ⟨hold, -⟩ | ⟨descriptor, sizeClass, hbefore, hafter, hcursor⟩ :=
    hmoves.newly hreturning
  · exact absurd hnew hold
  · obtain ⟨⟨message, hmessage, rfl⟩, -⟩ :=
      hinv.message_of_payloadRead hreader hready hbefore
    have howner : pool'.owner message.descriptor.offset = .returning slot := by
      refine hexplained.returning_iff.mpr ⟨reader', ?_, by simp [Reader.returningOffset, hafter]⟩
      simp [explaining, Overlay.apply, State.setReader, hready, ReturnPhase.view]
    have hother' : (State.setReader { state with shared := shared', spaceAvailable } slot
        reader').readers other = some otherReader := by
      simp [State.setReader, hne, hother]
    have hlt := hexplained.lt_heldFrom hmessage (by rw [howner]; simp) (explained_reader hother')
    rw [hinv.view_heldFrom hother] at hlt
    exact ⟨hlt, by simp [Reader.heldFrom, hafter, hcursor]⟩

/-- A subscriber that has become a last holder is ahead of nobody. -/
theorem consume_ahead {left right : ℕ} {leftReader rightReader : Reader}
    (hleft : Function.update state.readers slot (some reader') left = some leftReader)
    (hreturning : leftReader.returningOffset ≠ none)
    (hright : Function.update state.readers slot (some reader') right = some rightReader) :
    leftReader.heldFrom ≤ rightReader.heldFrom := by
  by_cases hsame : left = slot
  · subst hsame
    rw [Function.update_self, Option.some.injEq] at hleft
    subst hleft
    by_cases hrightSame : right = left
    · subst hrightSame
      rw [Function.update_self, Option.some.injEq] at hright
      rw [hright]
    rw [Function.update_of_ne hrightSame] at hright
    by_cases hold : reader.returningOffset = none
    · obtain ⟨hbehind, hheld⟩ := hinv.behind_of_newly hreader hready hmoves hexplained
        hreturning hold hrightSame hright
      omega
    · obtain ⟨-, hheld⟩ | ⟨descriptor, sizeClass, hbefore, -⟩ := hmoves.newly hreturning
      · rw [hheld]
        exact hinv.ahead hreader hold hright
      · simp [Reader.returningOffset, hbefore] at hold
  · rw [Function.update_of_ne hsame] at hleft
    by_cases hrightSame : right = slot
    · subst hrightSame
      rw [Function.update_self, Option.some.injEq] at hright
      subst hright
      exact (hinv.ahead hleft hreturning hreader).trans hmoves.heldFrom_le
    · rw [Function.update_of_ne hrightSame] at hright
      exact hinv.ahead hleft hreturning hright

/-- Two subscribers are never last holders at a time. -/
theorem consume_alone {left right : ℕ} {leftReader rightReader : Reader}
    (hleft : Function.update state.readers slot (some reader') left = some leftReader)
    (hleftReturning : leftReader.returningOffset ≠ none)
    (hright : Function.update state.readers slot (some reader') right = some rightReader)
    (hrightReturning : rightReader.returningOffset ≠ none) : left = right := by
  -- Of two the one that has been a last holder before is not behind the other one.
  have hmixed : ∀ {other otherReader}, other ≠ slot →
      state.readers other = some otherReader → otherReader.returningOffset ≠ none →
      reader'.returningOffset ≠ none → False := by
    intro other otherReader hne hother hotherReturning hreturning
    by_cases hold : reader.returningOffset = none
    · have hbehind := (hinv.behind_of_newly hreader hready hmoves hexplained hreturning hold
        hne hother).1
      have hahead := hinv.ahead hother hotherReturning hreader
      obtain ⟨hwas, -⟩ | ⟨descriptor, sizeClass, hbefore, -⟩ := hmoves.newly hreturning
      · exact hwas hold
      · simp only [Reader.heldFrom, hbefore] at hahead hbehind
        omega
    · exact hne (hinv.alone hother hotherReturning hreader hold)
  by_cases hsame : left = slot
  · subst hsame
    rw [Function.update_self, Option.some.injEq] at hleft
    subst hleft
    by_contra hne
    rw [Function.update_of_ne (Ne.symm hne)] at hright
    exact hmixed (Ne.symm hne) hright hrightReturning hleftReturning
  · rw [Function.update_of_ne hsame] at hleft
    by_cases hrightSame : right = slot
    · subst hrightSame
      rw [Function.update_self, Option.some.injEq] at hright
      subst hright
      exact (hmixed hsame hleft hleftReturning hrightReturning).elim
    · rw [Function.update_of_ne hrightSame] at hright
      exact hinv.alone hleft hleftReturning hright hrightReturning

/-- A chunk whose reference is cleared stays unused until the read index is stored. -/
theorem consume_settled (hfree : pool'.free = pool.free)
    (howner : ∀ offset, pool'.owner offset = pool.owner offset ∨
      (∃ index, pool.owner offset = .message index) ∧ pool'.owner offset = .returning slot)
    {other : ℕ} {otherReader : Reader} {descriptor : MessageDescriptor} {sizeClass : ℕ}
    {lastHolder : Bool}
    (hother : Function.update state.readers slot (some reader') other = some otherReader)
    (hphase : otherReader.phase = .bitCleared descriptor sizeClass lastHolder) :
    Settled pool' (Function.update state.readers slot (some reader')) otherReader.cursor
      descriptor sizeClass := by
  have hkept : ∀ {offset}, pool'.owner offset = .free → pool.owner offset = .free := by
    intro offset hnew
    rcases howner offset with hsame | ⟨-, hreturning⟩
    · exact hsame.symm.trans hnew
    · rw [hnew] at hreturning
      cases hreturning
  have hheld : ∀ {offset index}, pool'.owner offset = .message index →
      pool.owner offset = .message index := by
    intro offset index hnew
    rcases howner offset with hsame | ⟨-, hreturning⟩
    · exact hsame.symm.trans hnew
    · rw [hnew] at hreturning
      cases hreturning
  by_cases hsame : other = slot
  · subst hsame
    rw [Function.update_self, Option.some.injEq] at hother
    subst hother
    -- The message has been the subscriber's own until this access.
    obtain ⟨descriptor', sizeClass', hbefore, rfl, hcursor⟩ :
        ∃ descriptor' sizeClass', reader.phase = .payloadRead descriptor' sizeClass' ∧
          descriptor' = descriptor ∧ reader'.cursor = reader.cursor := by
      cases hmoves with
      | leaves hbefore hafter hcursor => simp [Reader.handledOffset, hphase] at hafter
      | clears hbefore hafter hcursor =>
          rw [hphase] at hafter
          cases hafter
          exact ⟨_, _, hbefore, rfl, hcursor⟩
      | @stores _ _ lastHolder hbefore hafter hcursor =>
          rw [hphase] at hafter
          cases lastHolder <;> cases hafter
    obtain ⟨hmessage, hown⟩ := hinv.message_of_payloadRead hreader hready hbefore
    rw [hcursor]
    refine ⟨hmessage, fun hnew => ?_, fun hnew => ?_⟩
    · have hindex := hheld hnew
      rw [hown, Owner.message.injEq] at hindex
      exact hindex.ge
    · have hold := hkept hnew
      rw [hown] at hold
      cases hold
  · have hold := hother
    rw [Function.update_of_ne hsame] at hold
    have hsettled := hinv.settled hold hphase
    refine ⟨hsettled.message, fun hnew => hsettled.owner_le (hheld hnew), fun hnew => ?_⟩
    obtain ⟨hlast, hnobody⟩ := hsettled.free_last (hkept hnew)
    refine ⟨by rw [hfree]; exact hlast, fun {holder holderReader} hholder => ?_⟩
    by_cases hholderSame : holder = slot
    · subst hholderSame
      rw [Function.update_self, Option.some.injEq] at hholder
      subst hholder
      by_contra hreturning
      -- A new last holder had the later messages, this one's chunk among them.
      have hnone := hnobody hreader
      obtain ⟨hwas, -⟩ | ⟨descriptor', sizeClass', hbefore, -⟩ := hmoves.newly hreturning
      · exact hwas hnone
      · have hbehind := (hinv.behind_of_newly hreader hready hmoves hexplained hreturning hnone
          hsame hold).1
        obtain ⟨message, hmessage, rfl⟩ := hsettled.message
        have hlt := hinv.lt_heldFrom hmessage (by rw [hkept hnew]; simp) hreader
        simp only [Reader.heldFrom, hbefore, hphase] at hbehind hlt
        omega
    · rw [Function.update_of_ne hholderSame] at hholder
      exact hnobody hholder

/-- Accesses of a subscriber that are no accesses to a free list. -/
theorem consume (hlists : state.shared.SameLists shared') (hfree : pool'.free = pool.free)
    (howner : ∀ offset, pool'.owner offset = pool.owner offset ∨
      (∃ index, pool.owner offset = .message index) ∧ pool'.owner offset = .returning slot) :
    SplitPreserved (State.setReader { state with shared := shared', spaceAvailable } slot reader')
      phases publisherPhase popped returned pool := by
  have hlost : ∀ {offset}, pool.owner offset = .lost → pool'.owner offset = .lost := by
    intro offset hold
    rcases howner offset with hsame | ⟨⟨index, hmessage⟩, -⟩
    · exact hsame.trans hold
    · rw [hold] at hmessage
      cases hmessage
  refine ⟨pool', ⟨hexplained, ?_, ?_, ?_, ?_, ?_, ?_⟩, ?_⟩
  · exact hinv.consume_ahead hreader hready hmoves hexplained
  · exact hinv.consume_alone hreader hready hmoves hexplained
  · exact hinv.consume_settled hreader hready hmoves hexplained hfree howner
  · intro other hreturning
    have hne : other ≠ slot := fun heq => hreturning (heq ▸ hready)
    obtain ⟨otherReader, descriptor, sizeClass, hother, hphase, hin⟩ := hinv.inReturn hreturning
    refine ⟨otherReader, descriptor, sizeClass, ?_, hphase, hin.isChunk, hlost hin.lost, ?_, ?_,
      ?_⟩
    · simpa [State.setReader, hne] using hother
    · exact (congrFun (congrFun hlists.isInUse _) _).trans hin.unmarked
    · intro lastTailOff hloaded
      exact (hin.tailLoaded hloaded).trans (congrFun hlists.tail _).symm
    · intro hlinked
      change loadWord shared'.data (shared'.tail sizeClass) = _
      rw [hlists.data, hlists.tail]
      exact hin.tailLinked hlinked
  · intro payload sizeClass phase hpublishing
    refine (hinv.publishes hpublishing).change ?_ ?_ (congrFun hlists.head _) ?_ ?_ ?_
      (fun hpopped => hlost hpopped.lost) ?_ ?_ hlists.descRing hlists.writeIndex
    · intro other otherReader hother
      by_cases hsame : other = slot
      · exact ⟨reader', by simp [hsame]⟩
      · exact ⟨otherReader, by simpa [hsame] using hother⟩
    · intro other otherReader hother
      by_cases hsame : other = slot
      · subst hsame
        rw [Function.update_self, Option.some.injEq] at hother
        exact ⟨reader, hreader, hother ▸ hmoves.cursor_le⟩
      · rw [Function.update_of_ne hsame] at hother
        exact ⟨otherReader, hother, le_rfl⟩
    · rw [hlists.tail]
      exact id
    · intro _
      rw [SharedData.link, hlists.data]
      rfl
    · intro offset _
      rw [hlists.isInUse]
    · intro offset hpopped other otherReader hother hhandled
      by_cases hsame : other = slot
      · subst hsame
        rw [Function.update_self, Option.some.injEq] at hother
        subst hother
        obtain hold | ⟨descriptor, sizeClass, hbefore, rfl⟩ := hmoves.handles hhandled
        · exact hpopped.unhandled hreader hold
        · have hown := (hinv.message_of_payloadRead hreader hready hbefore).2
          rw [hpopped.lost] at hown
          cases hown
      · rw [Function.update_of_ne hsame] at hother
        exact hpopped.unhandled hother hhandled
    · intro offset _
      rw [hlists.data]
  · intro sizeClass hclass
    rw [hfree]
    exact hinv.account sizeClass hclass
  · intro offset index hmessage
    rcases howner offset with hsame | ⟨-, hreturning⟩
    · exact hsame.symm.trans hmessage
    · rw [hmessage] at hreturning
      cases hreturning

end Consume

variable {outcome : Outcome} {next : State}

/-- A subscriber that is in no return does what the data plane's one does. -/
theorem of_consumed
    (hinv : SplitInvariant state phases publisherPhase popped returned pool)
    (hreader : state.readers slot = some reader) (hready : phases slot = .ready)
    (hmoves : reader.Moves reader') (hlists : state.shared.SameLists shared')
    (hconsumed : Consumed ((explaining phases publisherPhase).apply state) pool slot outcome
      ((explaining phases publisherPhase).apply
        (State.setReader { state with shared := shared', spaceAvailable } slot reader'))) :
    SplitPreserved (State.setReader { state with shared := shared', spaceAvailable } slot reader')
      phases publisherPhase popped returned pool := by
  obtain ⟨pool', hexplained, -, hfree, howner⟩ := hconsumed
  exact hinv.consume hreader hready hmoves hexplained hlists hfree howner

/-- A step of one subscriber that touches nothing but what it has of a message. -/
theorem moveReader (hinv : SplitInvariant state phases .idle popped returned pool)
    (hreader : state.readers slot = some reader) (hready : phases slot = .ready)
    (hbefore : reader.handledOffset = none) (hafter : reader'.handledOffset = none)
    (hcursor : reader'.cursor = reader.cursor)
    (hreader' : ReaderInvariant state.published (state.shared.descriptorReadIndices slot) slot
      reader') :
    SplitPreserved (state.setReader slot reader') phases .idle popped returned pool := by
  have hview : ((explaining phases .idle).apply state).readers slot = some reader := by
    rw [explained_reader hreader, hready]
    rfl
  have hmoved : Invariant (((explaining phases .idle).apply state).setReader slot reader') pool :=
    hinv.explained.moveReader hview hreader'
    (by rw [Reader.heldFrom_of_not_handled hbefore, Reader.heldFrom_of_not_handled hafter, hcursor])
    (by rw [Reader.returningOffset_of_not_handled hbefore,
      Reader.returningOffset_of_not_handled hafter])
  exact hinv.consume hreader hready (.leaves hbefore hafter hcursor)
    (hmoved.of_eq rfl ((explaining_transparent .idle hready).update ..))
    ⟨rfl, rfl, rfl, rfl, rfl, rfl⟩ rfl fun _ => .inl rfl

theorem fetchDescriptors
    (hinv : SplitInvariant state phases publisherPhase popped returned pool)
    (hstep : state.fetchDescriptors slot = some (outcome, next)) :
    SplitPreserved next phases publisherPhase popped returned pool := by
  obtain ⟨reader, hreader, hidle, rfl⟩ : ∃ reader, state.readers slot = some reader ∧
      reader.phase = .idle ∧
        next = state.setReader slot (reader.fetchDescriptors state.shared) := by
    unfold State.fetchDescriptors at hstep
    split at hstep
    next => cases hstep
    next reader hreader =>
      split at hstep
      next hidle =>
        cases hstep
        exact ⟨reader, hreader, hidle.1, rfl⟩
      next => cases hstep
  have hready := hinv.ready_of_phase hreader (by simp [hidle])
  have hslot : ∀ other, state.readers slot = some other → other.slotIndex = slot := fun _ hother =>
    (hinv.reader_of_ready hother hready).slotIndex_eq
  exact hinv.of_consumed hreader hready (Reader.moves_fetchDescriptors hidle _)
    ⟨rfl, rfl, rfl, rfl, rfl, rfl⟩ (hinv.explained.fetchDescriptors
      ((explaining_transparent publisherPhase hready).fetchDescriptors hslot hstep))

theorem readPayload
    (hinv : SplitInvariant state phases publisherPhase popped returned pool)
    (hstep : state.readPayload slot = some (outcome, next)) :
    SplitPreserved next phases publisherPhase popped returned pool := by
  have hop := hstep
  simp only [State.readPayload, Option.bind_eq_bind, Option.bind_eq_some_iff] at hop
  obtain ⟨reader, hreader, ⟨result, started⟩, hstart, hop⟩ := hop
  cases hop
  obtain ⟨hidle, hmoves⟩ := Reader.moves_startIteration hstart
  have hready := hinv.ready_of_phase hreader (by simp [hidle])
  exact hinv.of_consumed hreader hready hmoves ⟨rfl, rfl, rfl, rfl, rfl, rfl⟩
    (hinv.explained.readPayload
      ((explaining_transparent publisherPhase hready).readPayload hstep))

theorem clearReference
    (hinv : SplitInvariant state phases publisherPhase popped returned pool)
    (hstep : state.clearReference slot = some (outcome, next)) :
    SplitPreserved next phases publisherPhase popped returned pool := by
  have hop := hstep
  simp only [State.clearReference, Option.bind_eq_bind, Option.bind_eq_some_iff] at hop
  obtain ⟨reader, hreader, ⟨cleared, shared⟩, hclear, hop⟩ := hop
  cases hop
  obtain ⟨⟨descriptor, sizeClass, hphase⟩, hmoves⟩ := Reader.moves_clearOwnReference hclear
  have hready := hinv.ready_of_phase hreader (by simp [hphase])
  have hlists : state.shared.SameLists shared := by
    simp only [Reader.clearOwnReference, hphase, Option.some.injEq, Prod.mk.injEq] at hclear
    obtain ⟨-, rfl⟩ := hclear
    exact ⟨rfl, rfl, rfl, rfl, rfl, rfl⟩
  exact hinv.of_consumed hreader hready hmoves hlists (hinv.explained.clearReference
    ((explaining_transparent publisherPhase hready).clearReference hstep))

theorem storeReadIndex
    (hinv : SplitInvariant state phases publisherPhase popped returned pool)
    (hstep : state.storeReadIndex slot = some (outcome, next)) :
    SplitPreserved next phases publisherPhase popped returned pool := by
  have hop := hstep
  simp only [State.storeReadIndex, Option.bind_eq_bind, Option.bind_eq_some_iff] at hop
  obtain ⟨reader, hreader, ⟨stored, shared⟩, hstore, hop⟩ := hop
  cases hop
  obtain ⟨⟨descriptor, sizeClass, lastHolder, hphase⟩, hmoves⟩ :=
    Reader.moves_storeOwnReadIndex hstore
  have hready := hinv.ready_of_phase hreader (by simp [hphase])
  have hlists : state.shared.SameLists shared := by
    simp only [Reader.storeOwnReadIndex, hphase, Option.some.injEq, Prod.mk.injEq] at hstore
    obtain ⟨-, rfl⟩ := hstore
    exact ⟨rfl, rfl, rfl, rfl, rfl, rfl⟩
  have hslot : ∀ other, state.readers slot = some other → other.slotIndex = slot := fun _ hother =>
    (hinv.reader_of_ready hother hready).slotIndex_eq
  exact hinv.of_consumed hreader hready hmoves hlists (hinv.explained.storeReadIndex
    ((explaining_transparent publisherPhase hready).storeReadIndex hslot hstep))

theorem signalSpace
    (hinv : SplitInvariant state phases publisherPhase popped returned pool)
    (hstep : state.signalSpace slot = some (outcome, next)) :
    SplitPreserved next phases publisherPhase popped returned pool := by
  have hop := hstep
  simp only [State.signalSpace, Option.bind_eq_bind, Option.bind_eq_some_iff] at hop
  obtain ⟨reader, hreader, ⟨signalled, spaceAvailable⟩, hsignal, hop⟩ := hop
  cases hop
  obtain ⟨hphase, hmoves⟩ := Reader.moves_signalSpaceAvailable hsignal
  have hready := hinv.ready_of_phase hreader (by simp [hphase])
  exact hinv.of_consumed hreader hready hmoves ⟨rfl, rfl, rfl, rfl, rfl, rfl⟩
    (hinv.explained.signalSpace
      ((explaining_transparent publisherPhase hready).signalSpace hstep))

end SplitInvariant

end DriveBus.SharedMemory
