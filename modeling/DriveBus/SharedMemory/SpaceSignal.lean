import DriveBus.SharedMemory.PublisherSteps

/-!
# Who will signal space

A blocked publisher waits for the space signal of a last holder.  A subscriber that
still has a message to release, or a chunk to return, owes that signal: releasing a
message passes the debt on to the other holders of its chunk until the last of them
signals.  Whatever blocks the publisher is such a debt, or nobody is tracked.
-/

namespace DriveBus.SharedMemory

open DriveBus.ByteMemory DriveBus.LinkedChain

/-! ## Debts -/

/-- The reader has a published message to release, or a chunk to return or to signal. -/
def Reader.Owes (reader : Reader) (published : ℕ) : Prop :=
  reader.heldFrom < published ∨ reader.returningOffset.isSome ∨
    reader.phase = .chunkAppended

/-- Some tracked subscriber owes a space signal. -/
def State.OwesSpace (state : State) : Prop :=
  ∃ slot reader, state.readers slot = some reader ∧ reader.Owes state.published.length

/-- Nobody is tracked, or some tracked subscriber owes a space signal. -/
def State.AwaitsSubscribers (state : State) : Prop :=
  (∀ slot, state.readers slot = none) ∨ state.OwesSpace

namespace Reader

variable {reader : Reader} {shared : SharedData} {published : ℕ}

theorem owes_of_idle (hphase : reader.phase = .idle) :
    reader.Owes published ↔ reader.cursor < published := by
  simp [Owes, heldFrom, returningOffset, hphase]

/-- A reader between messages that has consumed everything owes nothing. -/
theorem not_owes_of_consumed (hphase : reader.phase = .idle)
    (hcursor : published ≤ reader.cursor) : ¬reader.Owes published := by
  rw [owes_of_idle hphase]
  omega

theorem owes_of_payloadRead {descriptor : MessageDescriptor} {sizeClass : ℕ}
    (hphase : reader.phase = .payloadRead descriptor sizeClass) :
    reader.Owes published ↔ reader.cursor < published := by
  simp [Owes, heldFrom, returningOffset, hphase]

theorem Owes.fetchDescriptors (howes : reader.Owes published) :
    (reader.fetchDescriptors shared).Owes published := by
  unfold Reader.fetchDescriptors initializeSubscriberReadIndex
  dsimp only
  split <;> exact howes

theorem Owes.startIteration {result : Except ReadFault (List Byte)} {started : Reader}
    (howes : reader.Owes published)
    (hstart : reader.startIteration shared = some (result, started)) :
    started.Owes published := by
  unfold Reader.startIteration at hstart
  split at hstart
  next descriptor rest hphase hcopies =>
    rw [owes_of_idle hphase] at howes
    obtain ⟨hcursor, hposition⟩ :=
      { reader with descRing := rest }.readPayload_position shared descriptor
    split at hstart
    all_goals
      next hread =>
        simp only [Option.some.injEq, Prod.mk.injEq] at hstart
        obtain ⟨-, rfl⟩ := hstart
        rw [hread] at hcursor hposition
        rcases hposition with hidle | ⟨sizeClass, hcopied⟩
        · exact (owes_of_idle (hidle.trans hphase)).mpr (hcursor ▸ howes)
        · exact (owes_of_payloadRead hcopied).mpr (hcursor ▸ howes)
  next => cases hstart

/-- Storing the read index changes neither what is held nor what is to be returned. -/
theorem Owes.storeOwnReadIndex {stored : Reader} {shared' : SharedData}
    (howes : reader.Owes published)
    (hstore : reader.storeOwnReadIndex shared = some (stored, shared')) :
    stored.Owes published := by
  unfold Reader.storeOwnReadIndex at hstore
  split at hstore
  next descriptor sizeClass lastHolder hphase =>
    simp only [Option.some.injEq, Prod.mk.injEq] at hstore
    obtain ⟨rfl, -⟩ := hstore
    cases lastHolder with
    | true => simp [Owes, returningOffset]
    | false => simpa [Owes, heldFrom, returningOffset, hphase] using howes
  next => cases hstore

/-- A returned chunk has still to be signalled. -/
theorem owes_of_returned {returned : Reader} {shared' : SharedData}
    (hreturn : reader.returnChunk shared = some (.ok (), returned, shared')) :
    returned.Owes published := by
  unfold Reader.returnChunk at hreturn
  split at hreturn
  next =>
    dsimp only at hreturn
    split at hreturn
    next => simp at hreturn
    next =>
      simp only [Option.some.injEq, Prod.mk.injEq] at hreturn
      obtain ⟨-, rfl, -⟩ := hreturn
      exact .inr (.inr rfl)
  next => cases hreturn

end Reader

/-! ## The steps of a subscriber -/

/-- A step that moves one reader keeps the debts if it keeps those of that reader. -/
theorem State.OwesSpace.setReader {state : State} {slot : ℕ} {reader reader' : Reader}
    {shared : SharedData} (howes : state.OwesSpace)
    (hreader : state.readers slot = some reader)
    (hkeeps : reader.Owes state.published.length → reader'.Owes state.published.length) :
    ({ state with shared }.setReader slot reader').OwesSpace := by
  obtain ⟨debtor, debtorReader, hdebtor, hdebt⟩ := howes
  by_cases heq : debtor = slot
  · subst heq
    rw [hreader, Option.some.injEq] at hdebtor
    subst hdebtor
    exact ⟨debtor, reader', by simp [State.setReader], hkeeps hdebt⟩
  · exact ⟨debtor, debtorReader, by simpa [State.setReader, heq] using hdebtor, hdebt⟩

/-- Behind all its checks an attempt is never blocked. -/
theorem publishChunk_ne_blocked (process : PublisherProcess) (payload : List Byte)
    (sizeClass headOff : ℕ) :
    (publishChunk process payload sizeClass headOff).1 ≠ .ok .blocked := by
  unfold publishChunk
  dsimp only
  split
  · simp
  · split <;> simp

/-- Without subscribers there are no steps of subscribers. -/
theorem State.step_of_untracked {state : State} {action : Action}
    (hconsumes : ConsumesMessages action) (hnone : ∀ slot, state.readers slot = none) :
    state.step action = none := by
  cases action with
  | publish | track | reap => exact absurd hconsumes id
  | _ => simp [step, fetchDescriptors, readPayload, clearReference, storeReadIndex, returnChunk,
      signalSpace, hnone]

namespace Invariant

variable {state state' : State} {pool : Pool state.published} {slot : ℕ} {outcome : Outcome}

/-- Clearing a reference either makes the subscriber the one to return the chunk, or leaves
the chunk to another holder. -/
theorem owesSpace_clearReference (hinv : Invariant state pool)
    (hstep : state.clearReference slot = some (outcome, state')) : state'.OwesSpace := by
  simp only [State.clearReference, Option.bind_eq_bind, Option.bind_eq_some_iff] at hstep
  obtain ⟨reader, hreader, ⟨cleared, shared⟩, hclear, hstep⟩ := hstep
  simp only [Option.some.injEq, Prod.mk.injEq] at hstep
  obtain ⟨-, rfl⟩ := hstep
  have hrinv := hinv.reader hreader
  obtain rfl := hrinv.slotIndex_eq
  unfold Reader.clearOwnReference at hclear
  split at hclear
  next descriptor sizeClass hphase =>
    simp only [Option.some.injEq, Prod.mk.injEq] at hclear
    obtain ⟨rfl, -⟩ := hclear
    obtain ⟨message, hmessage, rfl⟩ := hrinv.current_message hphase
    have hchunk : IsChunk sizeClass message.descriptor.offset :=
      hrinv.current_isChunk (by simp [Reader.currentChunk, hphase])
    have hlt := (List.getElem?_eq_some_iff.mp hmessage).1
    have hholds : pool.holds reader.slotIndex reader.cursor :=
      (hinv.holds_own_iff hreader).mpr ⟨by simp [Reader.heldFrom, hphase], hlt⟩
    by_cases hbit : state.shared.chunkReferenceCounts
        (chunkIndex sizeClass message.descriptor.offset) =
          subscriberReferenceBit reader.slotIndex
    · exact ⟨reader.slotIndex, _, Function.update_self .., .inr (.inl (by
        simp [Reader.returningOffset, hbit]))⟩
    · obtain ⟨other, hother, hne⟩ :
          ∃ other, pool.holds other reader.cursor ∧ other ≠ reader.slotIndex := by
        by_contra hnone
        push Not at hnone
        exact hbit ((hinv.represents.mask_eq_bit_iff hchunk hrinv.slot_lt).mpr
          ⟨_, pool.owner_of_holds hmessage hholds, hholds, hnone⟩)
      obtain ⟨otherReader, hotherReader, hheld, -⟩ := hinv.holds_iff.mp hother
      exact ⟨other, otherReader, by simpa [State.setReader, hne] using hotherReader,
        .inl (hheld.trans_lt hlt)⟩
  next => cases hclear

/-- A subscriber's step other than the signal keeps the debts. -/
theorem owesSpace_step (hinv : Invariant state pool) {action : Action}
    (hconsumes : ConsumesMessages action) (hsilent : ∀ slot, action ≠ .signalSpace slot)
    (hstep : state.step action = some (outcome, state')) (howes : state.OwesSpace) :
    state'.OwesSpace := by
  cases action with
  | publish | track | reap => exact absurd hconsumes id
  | signalSpace slot => exact absurd rfl (hsilent slot)
  | fetchDescriptors slot =>
      simp only [State.step, State.fetchDescriptors] at hstep
      split at hstep
      next => cases hstep
      next reader hreader =>
        split at hstep
        next =>
          simp only [Option.some.injEq, Prod.mk.injEq] at hstep
          obtain ⟨-, rfl⟩ := hstep
          exact howes.setReader hreader Reader.Owes.fetchDescriptors
        next => cases hstep
  | readPayload slot =>
      simp only [State.step, State.readPayload, Option.bind_eq_bind,
        Option.bind_eq_some_iff] at hstep
      obtain ⟨reader, hreader, ⟨result, started⟩, hstart, hstep⟩ := hstep
      simp only [Option.some.injEq, Prod.mk.injEq] at hstep
      obtain ⟨-, rfl⟩ := hstep
      exact howes.setReader hreader fun hdebt => hdebt.startIteration hstart
  | clearReference slot => exact hinv.owesSpace_clearReference hstep
  | storeReadIndex slot =>
      simp only [State.step, State.storeReadIndex, Option.bind_eq_bind,
        Option.bind_eq_some_iff] at hstep
      obtain ⟨reader, hreader, ⟨stored, shared⟩, hstore, hstep⟩ := hstep
      simp only [Option.some.injEq, Prod.mk.injEq] at hstep
      obtain ⟨-, rfl⟩ := hstep
      exact howes.setReader hreader fun hdebt => hdebt.storeOwnReadIndex hstore
  | returnChunk slot =>
      obtain ⟨-, -, hsound, -⟩ := hinv.returnChunk hstep
      simp only [State.step, State.returnChunk, Option.bind_eq_bind,
        Option.bind_eq_some_iff] at hstep
      obtain ⟨reader, hreader, ⟨result, returned, shared⟩, hreturn, hstep⟩ := hstep
      simp only [Option.some.injEq, Prod.mk.injEq] at hstep
      obtain ⟨rfl, rfl⟩ := hstep
      cases result with
      | error => exact absurd hsound id
      | ok => exact howes.setReader hreader fun _ => Reader.owes_of_returned hreturn

/-! ## What blocks the publisher -/

/-- A full ring is a debt of its slowest subscriber. -/
theorem awaitsSubscribers_of_descriptorsBlocked (hinv : Invariant state pool)
    (hblocked : DescriptorsBlocked (findSlowestReadIndex state.shared)
      state.shared.descriptorWriteIndex) : state.AwaitsSubscribers := by
  rcases (descriptorsBlocked_iff hinv.ringIndices).mp hblocked with
    hnone | ⟨slot, hslot, hvalid, hunread⟩
  · left
    intro slot
    by_contra hreader
    obtain ⟨reader, hreader⟩ := Option.ne_none_iff_exists'.mp hreader
    have htracked := hinv.tracked_iff.mpr ⟨reader, hreader⟩
    exact htracked.2 (hnone slot htracked.1)
  · right
    obtain ⟨reader, hreader⟩ := hinv.tracked_iff.mp ⟨hslot, hvalid⟩
    refine ⟨slot, reader, hreader, .inl ?_⟩
    have hrinv := hinv.reader hreader
    have hlength := hrinv.length_lt
    have hheld : reader.heldFrom ≤ reader.cursor + 1 := by
      unfold Reader.heldFrom
      split <;> omega
    rw [hrinv.readIndex_eq, hinv.ring.write_eq, unreadCount] at hunread
    simp only [kDescriptorSlotCount] at hunread hlength
    have hle := Reader.cursor_le_heldFrom.trans (Reader.heldFrom_le_next.trans hrinv.next_le)
    omega

/-- A chunk that is not free is a debt of its holder or of the one who returns it. -/
theorem owesSpace_of_not_free (hinv : Invariant state pool) (hkept : pool.NoneLost)
    {offset : ℕ} (hused : pool.owner offset ≠ .free) : state.OwesSpace := by
  cases howner : pool.owner offset with
  | free => exact absurd howner hused
  | lost => exact absurd howner (hkept offset)
  | returning slot =>
      obtain ⟨reader, hreader, hreturning⟩ := hinv.returning_iff.mp howner
      exact ⟨slot, reader, hreader, .inr (.inl (by simp [hreturning]))⟩
  | message index =>
      obtain ⟨-, -, -, slot, hholds⟩ := pool.owner_message_iff.mp howner
      obtain ⟨reader, hreader, hheld, hlt⟩ := hinv.holds_iff.mp hholds
      exact ⟨slot, reader, hreader, .inl (hheld.trans_lt hlt)⟩

/-- An exhausted size class has chunks that are not free. -/
theorem owesSpace_of_exhausted (hinv : Invariant state pool) (hkept : pool.NoneLost)
    {sizeClass : ℕ} (hclass : sizeClass < kClassCount)
    (hempty : state.shared.head sizeClass = state.shared.tail sizeClass) :
    state.OwesSpace := by
  have hchain := hinv.represents.chain sizeClass hclass
  rw [hempty] at hchain
  have hfree := hchain.eq_singleton (pool.free_nodup sizeClass)
  obtain ⟨offset, hchunk, hne⟩ := exists_isChunk_ne hclass (state.shared.tail sizeClass)
  have hused : pool.owner offset ≠ .free := by
    intro howner
    have hmem := pool.mem_free_iff.mpr ⟨hchunk, howner⟩
    rw [hfree, List.mem_singleton] at hmem
    exact hne hmem
  exact hinv.owesSpace_of_not_free hkept hused

/-- An attempt is blocked for want of a descriptor or of a chunk. -/
theorem awaitsSubscribers_of_blocked (hinv : Invariant state pool) (hkept : pool.NoneLost)
    {payload : List Byte}
    (hblocked : (tryPublishOne state.toPublisherProcess payload).1 = .ok .blocked) :
    state.AwaitsSubscribers := by
  unfold tryPublishOne at hblocked
  dsimp only at hblocked
  split at hblocked
  next => cases hblocked
  next =>
    split at hblocked
    next => cases hblocked
    next sizeClass hclass =>
      split at hblocked
      next hring => exact hinv.awaitsSubscribers_of_descriptorsBlocked hring
      next =>
        split at hblocked
        next hempty =>
          exact .inr (hinv.owesSpace_of_exhausted hkept (findSizeClass_eq_some hclass).1 hempty)
        next =>
          split at hblocked
          next => cases hblocked
          next =>
            split at hblocked
            next => cases hblocked
            next => exact absurd hblocked (publishChunk_ne_blocked _ _ _ _)

end Invariant

end DriveBus.SharedMemory
