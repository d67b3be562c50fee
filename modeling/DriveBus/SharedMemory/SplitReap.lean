import DriveBus.SharedMemory.SplitPublish

/-!
# Standing in for a killed subscriber

While the publisher reaps a subscriber it stands in for it: releasing a descriptor is what
the subscriber would do with the message, except that its read index is not moved.  So a
reap is explained by a subscriber in the slot that consumes the victim's messages one by
one and holds a read index of its own.
-/

namespace DriveBus.SharedMemory

open DriveBus.ByteMemory DriveBus.Transition

/-! ## The stand-in -/

/-- The victim of a reap as if it had consumed everything before message `cursor`. -/
def Reader.resumed (victim : Reader) (log : List Message) (cursor : ℕ) (phase : Phase) :
    Reader where
  slotIndex := victim.slotIndex
  subscriberReadIndex := cursor % kDescriptorSlotCount
  expectedSeq := cursor
  descRing := []
  phase := phase
  messages := victim.delivered log cursor
  joinedAt := victim.joinedAt
  cursor := cursor

/-- The victim as if it had read message `cursor` and not yet stored its read index. -/
def Reader.inside (victim : Reader) (log : List Message) (cursor : ℕ) (phase : Phase) : Reader :=
  { victim.resumed log (cursor + 1) phase with
    subscriberReadIndex := cursor % kDescriptorSlotCount
    cursor }

/-- A subscriber with its read index in an empty slot. -/
def standingIn (slotIndex : ℕ) (reader : Reader) : Overlay where
  mapping shared := shared.storeReadIndex slotIndex (reader.cursor % kDescriptorSlotCount)
  readers readers := Function.update readers slotIndex (some reader)

theorem standingIn_transparent {slotIndex slot : ℕ} (hne : slot ≠ slotIndex) (reader : Reader) :
    (standingIn slotIndex reader).Transparent slot where
  reader := fun _ => Function.update_of_ne hne ..
  update := fun _ _ => Function.update_comm hne ..
  writeIndex := fun _ => rfl
  descRing := fun _ => rfl
  data := fun _ => rfl
  counts := fun _ => rfl
  readIndex := fun _ => Function.update_of_ne hne ..
  clear := fun _ _ _ => rfl
  store := fun shared _ => congrArg (fun descriptorReadIndices =>
    { shared with descriptorReadIndices }) (Function.update_comm hne ..)

section StandingIn

variable (state : State) {slot : ℕ} {victim : Reader} (hslot : victim.slotIndex = slot)
variable {log : List Message} {cursor : ℕ} {descriptor : MessageDescriptor} {sizeClass : ℕ}

theorem standingIn_setReader (slot : ℕ) (victim : Reader) (log : List Message) (cursor : ℕ)
    (phase : Phase) :
    ((standingIn slot (victim.resumed log cursor .idle)).apply state).setReader slot
        (victim.inside log cursor phase) =
      (standingIn slot (victim.inside log cursor phase)).apply state := by
  simp only [Overlay.apply, standingIn, State.setReader, Function.update_idem]
  rfl

include hslot

theorem standingIn_clearReference :
    ((standingIn slot (victim.inside log cursor (.payloadRead descriptor sizeClass))).apply
        state).clearReference slot =
      some (.done, (standingIn slot (victim.inside log cursor (.bitCleared descriptor sizeClass
          (state.shared.chunkReferenceCounts (chunkIndex sizeClass descriptor.offset) =
            subscriberReferenceBit slot)))).apply
        { state with
          shared := state.shared.clearReference (chunkIndex sizeClass descriptor.offset)
            (subscriberReferenceBit slot) }) := by
  subst hslot
  simp only [State.clearReference, Overlay.apply, standingIn, Function.update_self,
    Option.bind_eq_bind, Option.bind_some, Reader.clearOwnReference, Reader.inside, Reader.resumed,
    State.setReader, Function.update_idem]
  rfl

theorem standingIn_storeReadIndex {lastHolder : Bool} :
    ((standingIn slot (victim.inside log cursor
        (.bitCleared descriptor sizeClass lastHolder))).apply state).storeReadIndex slot =
      some (.done, (standingIn slot (victim.resumed log (cursor + 1)
        (if lastHolder then .indexStored descriptor sizeClass else .idle))).apply state) := by
  subst hslot
  simp only [State.storeReadIndex, Overlay.apply, standingIn, Function.update_self,
    Option.bind_eq_bind, Option.bind_some, Reader.storeOwnReadIndex, Reader.inside, Reader.resumed,
    State.setReader, SharedData.storeReadIndex, Function.update_idem,
    ReaderInvariant.incrementReadIndex_mod]

end StandingIn

theorem resumed_readerInvariant {log : List Message} {slot cursor : ℕ} {victim : Reader}
    (hslot : victim.slotIndex = slot) (hlt : slot < kMaxSubscribers)
    (hjoined : victim.joinedAt ≤ cursor) (hle : cursor ≤ log.length)
    (hwindow : log.length < cursor + kDescriptorSlotCount) :
    ReaderInvariant log (cursor % kDescriptorSlotCount) slot
      (victim.resumed log cursor .idle) where
  slotIndex_eq := hslot
  slot_lt := hlt
  readIndex_eq := rfl
  joinedAt_le := hjoined
  next_le := hle
  length_lt := hwindow
  localIndex := .inl rfl
  copied := by simp [Reader.resumed]
  messages_eq := rfl
  expected := fun _ => .inr rfl
  current_isChunk := by simp [Reader.resumed, Reader.currentChunk]
  current_message := by simp [Reader.resumed]

/-! ## Consuming the victim's messages -/

namespace SplitInvariant

variable {state : State} {phases : ℕ → ReturnPhase} {publisherPhase : PublisherPhase}
variable {popped returned : ℕ → List ℕ} {pool : Pool state.published}
variable {slot : ℕ} {reader reader' : Reader}

/-- Releasing a message is what its reader would do with it. -/
theorem consumeMessage {victim : Reader} {cursor : ℕ} {message : Message} {sizeClass : ℕ}
    (hinv : SplitInvariant
      ((standingIn slot (victim.resumed state.published cursor .idle)).apply state) phases .idle
      popped returned pool)
    (hready : phases slot = .ready) (hslot : victim.slotIndex = slot)
    (hmessage : state.published[cursor]? = some message)
    (hchunk : IsChunk sizeClass message.descriptor.offset) {lastHolder : Bool}
    (hlast : lastHolder = decide (state.shared.chunkReferenceCounts
      (chunkIndex sizeClass message.descriptor.offset) = subscriberReferenceBit slot)) :
    SplitPreserved
      ((standingIn slot (victim.resumed state.published (cursor + 1)
          (if lastHolder then .indexStored message.descriptor sizeClass else .idle))).apply
        { state with
          shared := state.shared.clearReference
            (chunkIndex sizeClass message.descriptor.offset) (subscriberReferenceBit slot) })
      phases .idle popped returned pool := by
  have hreader : ((standingIn slot (victim.resumed state.published cursor .idle)).apply
      state).readers slot = some (victim.resumed state.published cursor .idle) :=
    Function.update_self ..
  have hidle := hinv.reader_of_ready hreader hready
  have hlt := (List.getElem?_eq_some_iff.mp hmessage).1
  -- The message is read, its reference cleared, and the read index stored.
  have hinside : ReaderInvariant state.published (cursor % kDescriptorSlotCount) slot
      (victim.inside state.published cursor (.payloadRead message.descriptor sizeClass)) :=
    { slotIndex_eq := hslot
      slot_lt := hidle.slot_lt
      readIndex_eq := rfl
      joinedAt_le := hidle.joinedAt_le
      next_le := hlt
      length_lt := hidle.length_lt
      localIndex := .inl rfl
      copied := by simp [Reader.inside, Reader.resumed]
      messages_eq := rfl
      expected := fun _ => .inr rfl
      current_isChunk := by
        rintro _ _ ⟨⟩
        exact hchunk
      current_message := by
        rintro _ _ ⟨⟩
        exact ⟨message, hmessage, rfl⟩ }
  have hcopied := hinv.moveReader hreader hready rfl (by rfl) (by rfl)
    (hidle.readIndex_eq ▸ hinside)
  rw [standingIn_setReader] at hcopied
  obtain ⟨pool₁, hread, hback₁⟩ := hcopied
  obtain ⟨pool₂, hcleared, hback₂⟩ :=
    hread.clearReference (standingIn_clearReference state hslot)
  obtain ⟨pool₃, hstored, hback₃⟩ := hcleared.storeReadIndex (standingIn_storeReadIndex _ hslot)
  subst hlast
  exact ⟨pool₃, hstored, fun hmine => hback₁ (hback₂ (hback₃ hmine))⟩

/-- The append of a stand-in is the end of its iteration. -/
theorem appended {victim : Reader} {cursor : ℕ}
    (hinv : SplitInvariant
      ((standingIn slot (victim.resumed state.published cursor .chunkAppended)).apply state) phases
      .idle popped returned pool) :
    SplitPreserved
      ((standingIn slot (victim.resumed state.published cursor .idle)).apply state) phases .idle
      popped returned pool := by
  have hreader : ((standingIn slot (victim.resumed state.published cursor .chunkAppended)).apply
      state).readers slot = some (victim.resumed state.published cursor .chunkAppended) :=
    Function.update_self ..
  have hready := hinv.ready_of_phase hreader (by simp [Reader.resumed])
  have hnext : ({ victim.resumed state.published cursor .chunkAppended with
      phase := .idle } : Reader).next =
        (victim.resumed state.published cursor .chunkAppended).next := rfl
  have hidle := (hinv.reader_of_ready hreader hready).setPhase (by simp [Reader.resumed]) hnext
    (by simp [Reader.currentChunk]) (by simp)
  have hmoved := hinv.moveReader hreader hready rfl (by rfl) (by rfl) hidle
  have hsame : ((standingIn slot (victim.resumed state.published cursor .chunkAppended)).apply
      state).setReader slot
        { victim.resumed state.published cursor .chunkAppended with phase := .idle } =
      (standingIn slot (victim.resumed state.published cursor .idle)).apply state := by
    simp only [Overlay.apply, standingIn, State.setReader, Function.update_idem]
    rfl
  rwa [hsame] at hmoved

end SplitInvariant

/-! ## Taking a slot over and leaving it -/

/-- Another subscriber takes a slot over and leaves the chunk behind that its predecessor
was returning. -/
theorem Invariant.replaceReader {state : State} {pool abandoned : Pool state.published}
    (hinv : Invariant state pool) {slot : ℕ} {reader : Reader} (reader' : Reader)
    (hreader : state.readers slot = some reader) (hrep : Represents state.shared abandoned)
    (hholds : abandoned.holds = pool.holds)
    (howner : ∀ offset, pool.owner offset = .returning slot ∧ abandoned.owner offset = .lost ∨
      pool.owner offset ≠ .returning slot ∧ abandoned.owner offset = pool.owner offset)
    (hreader' : ReaderInvariant state.published (reader'.cursor % kDescriptorSlotCount) slot
      reader')
    (hheld : reader'.heldFrom = reader.heldFrom) (hnothing : reader'.returningOffset = none) :
    Invariant (State.setReader { state with
        shared := state.shared.storeReadIndex slot (reader'.cursor % kDescriptorSlotCount) } slot
      reader') abandoned := by
  have hstored : ReaderInvariant state.published ((state.shared.storeReadIndex slot
      (reader'.cursor % kDescriptorSlotCount)).descriptorReadIndices slot) slot reader' := by
    simpa [SharedData.storeReadIndex] using hreader'
  refine hinv.updateReader hreader (hrep.storeReadIndex slot _) rfl rfl
    (fun other hne => Function.update_of_ne hne ..) hstored (fun _ => by rw [hholds]) ?_ ?_ ?_
  · intro index
    rw [hholds, hinv.holds_own_iff hreader, hheld]
  · intro offset other hne
    rw [abandoned_returning_iff howner]
    exact and_iff_right hne
  · intro offset
    rw [abandoned_returning_iff howner, hnothing]
    simp

/-- A subscriber that holds nothing any more is forgotten. -/
theorem Invariant.forget {state : State} {pool : Pool state.published}
    (hinv : Invariant state pool) {slot : ℕ} {reader victim : Reader}
    (hreader : state.readers slot = some reader) (hholds : ∀ index, ¬pool.holds slot index)
    (hnothing : reader.returningOffset = none) {shared : SharedData}
    (hshared : shared = state.shared.storeReadIndex slot kInvalidIndex)
    (hvictim : ∃ stop ≤ state.published.length,
      victim.messages = victim.delivered state.published stop) :
    (forgetSubscriber { state.toPublisherProcess with shared } slot).2.shared = shared ∧
      Invariant { state with
        toPublisherProcess := (forgetSubscriber { state.toPublisherProcess with shared } slot).2
        readers := Function.update state.readers slot none
        retired := state.retired ++ [victim] } pool := by
  obtain ⟨process, hforget, htables, hseq, rfl⟩ := hinv.tables.forgetSubscriber_eq
    (hinv.tracked_iff.mpr ⟨reader, hreader⟩) shared (by rw [hshared, SharedData.storeReadIndex])
  rw [hforget]
  refine ⟨rfl, ?_⟩
  constructor
  · dsimp only
    rw [hshared]
    exact hinv.represents.storeReadIndex _ _
  · dsimp only
    rw [hshared]
    exact ⟨hinv.ring.write_eq, hinv.ring.recent⟩
  · exact htables
  · exact hseq.trans hinv.seq_eq
  · intro other otherReader hother
    dsimp only at hother ⊢
    have hne : other ≠ slot := by
      rintro rfl
      simp at hother
    rw [Function.update_of_ne hne] at hother
    rw [hshared, SharedData.storeReadIndex]
    dsimp only
    rw [Function.update_of_ne hne]
    exact hinv.reader hother
  · intro other hlt hother
    dsimp only at hother ⊢
    rw [hshared, SharedData.storeReadIndex]
    by_cases heq : other = slot
    · simp [heq]
    · rw [Function.update_of_ne heq] at hother
      exact (Function.update_of_ne heq ..).trans (hinv.untracked hlt hother)
  · intro other index
    by_cases heq : other = slot
    · simp [heq, hholds]
    · simp [heq, hinv.holds_iff]
  · intro offset other
    by_cases heq : other = slot
    · simp [heq, hinv.returning_own_iff hreader, hnothing]
    · simp [heq, hinv.returning_iff]
  · intro other hother
    rcases List.mem_append.mp hother with hold | hnew
    · exact hinv.retired other hold
    · rw [List.mem_singleton.mp hnew]
      exact hvictim

namespace SplitInvariant

variable {state : State} {phases : ℕ → ReturnPhase}
variable {popped returned : ℕ → List ℕ} {pool : Pool state.published}
variable {slot : ℕ} {reader : Reader}

/-- The victim of a reap is taken over behind everything that it holds no reference to. -/
theorem takeOver (hinv : SplitInvariant state phases .idle popped returned pool)
    (hreader : state.readers slot = some reader) :
    SplitPreserved
      ((standingIn slot (reader.resumed state.published reader.heldFrom .idle)).apply
        { state with readers := Function.update state.readers slot none })
      (Function.update phases slot .ready) .idle popped returned pool := by
  have hview : ((explaining phases .idle).apply state).readers slot =
      some ((phases slot).view reader) := explained_reader hreader
  have hrinv := hinv.explained_readerInvariant hreader
  have hjoined : reader.joinedAt ≤ reader.heldFrom := by
    have hle := hrinv.joinedAt_le
    rw [ReturnPhase.view_cursor, ReturnPhase.view_joinedAt] at hle
    exact hle.trans Reader.cursor_le_heldFrom
  have hwindow : state.published.length < reader.heldFrom + kDescriptorSlotCount := by
    have hlt := hrinv.length_lt
    rw [ReturnPhase.view_cursor] at hlt
    exact hlt.trans_le (Nat.add_le_add_right Reader.cursor_le_heldFrom _)
  have hstandIn := resumed_readerInvariant (hinv.slotIndex_eq hreader) hrinv.slot_lt hjoined
    (hinv.heldFrom_le_length hreader) hwindow
  obtain ⟨abandoned, hrep, hholds, hfree, howner⟩ := hinv.explained.exists_abandoned hview
  have hkept : ∀ {offset owner}, owner ≠ .lost → abandoned.owner offset = owner →
      pool.owner offset = owner := by
    intro offset owner hne hnow
    rcases howner offset with ⟨-, hlost⟩ | ⟨-, hsame⟩
    · exact absurd (hnow.symm.trans hlost) hne
    · exact hsame.symm.trans hnow
  have hlost : ∀ {offset}, pool.owner offset = .lost → abandoned.owner offset = .lost := by
    intro offset hwas
    rcases howner offset with ⟨-, hlost⟩ | ⟨-, hsame⟩
    · exact hlost
    · exact hsame.trans hwas
  -- The victim's place is taken by a subscriber that returns nothing.
  have hcases : ∀ {other otherReader}, Function.update (Function.update state.readers slot none)
      slot (some (reader.resumed state.published reader.heldFrom .idle)) other =
        some otherReader →
      otherReader = reader.resumed state.published reader.heldFrom .idle ∨
        state.readers other = some otherReader := by
    intro other otherReader hother
    by_cases heq : other = slot
    · subst heq
      rw [Function.update_self, Option.some.injEq] at hother
      exact .inl hother.symm
    · rw [Function.update_idem, Function.update_of_ne heq] at hother
      exact .inr hother
  refine ⟨abandoned, ⟨?_, hinv.ahead_newcomer hcases rfl fun hother hreturning =>
      (hinv.ahead hother hreturning hreader).trans_eq rfl, hinv.alone_newcomer hcases rfl,
    hinv.settled_newcomer hcases rfl hfree hkept, ?_, by simp, ?_⟩, hkept (by simp)⟩
  · refine (hinv.explained.replaceReader
      (reader.resumed state.published reader.heldFrom .idle) hview hrep hholds howner hstandIn
      (hinv.view_heldFrom hreader).symm rfl).of_eq rfl ?_
    funext other
    by_cases heq : other = slot
    · subst heq
      simp [explaining, standingIn, Overlay.apply, State.setReader, ReturnPhase.view]
    · simp [explaining, standingIn, Overlay.apply, State.setReader, heq]
  · intro other hreturning
    have hne : other ≠ slot := by
      rintro rfl
      simp at hreturning
    rw [Function.update_of_ne hne] at hreturning ⊢
    obtain ⟨otherReader, descriptor, sizeClass, hother, hphase, hin⟩ := hinv.inReturn hreturning
    refine ⟨otherReader, descriptor, sizeClass, ?_, hphase, hin.isChunk, hlost hin.lost,
      hin.unmarked, hin.tailLoaded, hin.tailLinked⟩
    exact (Function.update_of_ne hne ..).trans ((Function.update_of_ne hne ..).trans hother)
  · rw [hfree]
    exact hinv.account

/-- Whoever stands in for a victim leaves behind the last message. -/
theorem leave {victim : Reader}
    (hinv : SplitInvariant ((standingIn slot
      (victim.resumed state.published state.published.length .idle)).apply state) phases .idle
      popped returned pool)
    (hgone : state.readers slot = none)
    (hvictim : ∃ stop ≤ state.published.length,
      victim.messages = victim.delivered state.published stop) :
    SplitInvariant { state with
        toPublisherProcess := (forgetSubscriber { state.toPublisherProcess with
          shared := state.shared.storeReadIndex slot kInvalidIndex } slot).2
        retired := state.retired ++ [victim] } phases .idle popped returned pool := by
  have hreader : ((standingIn slot (victim.resumed state.published state.published.length
      .idle)).apply state).readers slot =
      some (victim.resumed state.published state.published.length .idle) :=
    Function.update_self ..
  have hready := hinv.ready_of_phase hreader (by simp [Reader.resumed])
  have hview : ((explaining phases .idle).apply ((standingIn slot (victim.resumed state.published
      state.published.length .idle)).apply state)).readers slot =
      some (victim.resumed state.published state.published.length .idle) := by
    rw [explained_reader hreader, hready]
    rfl
  have hnone : ∀ index, ¬pool.holds slot index := fun index hholds => by
    obtain ⟨hle, hlt⟩ := (hinv.explained.holds_own_iff hview).mp hholds
    exact absurd hlt hle.not_gt
  have hshared : state.shared.storeReadIndex slot kInvalidIndex =
      ((explaining phases .idle).apply ((standingIn slot (victim.resumed state.published
        state.published.length .idle)).apply state)).shared.storeReadIndex slot kInvalidIndex := by
    simp [explaining, Overlay.apply, standingIn, SharedData.storeReadIndex, PublisherPhase.unmark]
  obtain ⟨hstored, hforgotten⟩ := hinv.explained.forget hview hnone rfl hshared hvictim
  have hother : ∀ {other reader}, state.readers other = some reader →
      ((standingIn slot (victim.resumed state.published state.published.length .idle)).apply
        state).readers other = some reader := by
    intro other reader hother
    have hne : other ≠ slot := by
      rintro rfl
      rw [hgone] at hother
      cases hother
    exact (Function.update_of_ne hne ..).trans hother
  refine ⟨hforgotten.of_eq rfl ?_, fun hleft hreturning hright =>
    hinv.ahead (hother hleft) hreturning (hother hright), fun hleft hreturning hright =>
    hinv.alone (hother hleft) hreturning (hother hright), ?_, ?_, by simp, hinv.account⟩
  · funext other
    by_cases heq : other = slot
    · subst heq
      simp [explaining, Overlay.apply, hgone]
    · simp [explaining, Overlay.apply, standingIn, heq]
  · intro other reader descriptor sizeClass lastHolder hreader hphase
    have hsettled := hinv.settled (hother hreader) hphase
    exact ⟨hsettled.message, hsettled.owner_le, fun hstill =>
      ⟨(hsettled.free_last hstill).1,
        fun hholder => (hsettled.free_last hstill).2 (hother hholder)⟩⟩
  · intro other hreturning
    have hne : other ≠ slot := fun heq => hreturning (heq ▸ hready)
    obtain ⟨reader, descriptor, sizeClass, hreader, hphase, hin⟩ := hinv.inReturn hreturning
    refine ⟨reader, descriptor, sizeClass, (Function.update_of_ne hne ..).symm.trans hreader,
      hphase, hin.isChunk, hin.lost, ?_, ?_, ?_⟩
    all_goals
      change (forgetSubscriber { state.toPublisherProcess with
        shared := state.shared.storeReadIndex slot kInvalidIndex } slot).2.shared = _ at hstored
      dsimp only
      rw [hstored]
    · exact hin.unmarked
    · exact hin.tailLoaded
    · exact hin.tailLinked

/-- What a reap has to release. -/
theorem unread (hinv : SplitInvariant state phases .idle popped returned pool)
    (hreader : state.readers slot = some reader) :
    ¬(kMaxSubscribers ≤ slot ∨ state.shared.descriptorReadIndices slot = kInvalidIndex) ∧
      reader.cursor ≤ state.published.length ∧
      state.published.length < reader.cursor + kDescriptorSlotCount ∧
      unreadIndices (state.shared.descriptorReadIndices slot) state.shared.descriptorWriteIndex =
        (List.range' reader.cursor (state.published.length - reader.cursor)).map
          (· % kDescriptorSlotCount) := by
  have hrinv := hinv.explained_readerInvariant hreader
  have hread : state.shared.descriptorReadIndices slot = reader.cursor % kDescriptorSlotCount := by
    simpa [PublisherPhase.unmark] using hrinv.readIndex_eq
  have hwrite : state.shared.descriptorWriteIndex = state.published.length % kDescriptorSlotCount :=
    hinv.explained.ring.write_eq
  have hle : reader.cursor ≤ state.published.length :=
    Reader.cursor_le_heldFrom.trans (hinv.heldFrom_le_length hreader)
  have hwindow : state.published.length < reader.cursor + kDescriptorSlotCount := by
    simpa using hrinv.length_lt
  have htracked : slot < kMaxSubscribers ∧
      state.shared.descriptorReadIndices slot ≠ kInvalidIndex :=
    hinv.explained.tracked_iff.mpr ⟨_, explained_reader hreader⟩
  refine ⟨not_or.mpr ⟨htracked.1.not_ge, htracked.2⟩, hle, hwindow, ?_⟩
  rw [hread, hwrite]
  exact unreadIndices_eq hle hwindow

end SplitInvariant

end DriveBus.SharedMemory
