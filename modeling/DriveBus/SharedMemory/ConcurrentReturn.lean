import DriveBus.SharedMemory.CrashRecovery
import DriveBus.SharedMemory.SplitAtomic

/-!
# Returns to one free list

A return is three accesses behind the tracker's check: load the tail, write the link behind
it, store the new tail.  They are not atomic together, and two returns that overlapped would
lose a chunk.  They never do: a last holder is behind no other holder, so at most one party
is a last holder at a time.  With this every list is a queue, whatever is popped meanwhile:
returns happen in the order of their tail stores.
-/

namespace DriveBus.SharedMemory

open DriveBus.ByteMemory DriveBus.LinkedChain DriveBus.Transition

/-- Only the tracker's check fails. -/
theorem ReturnPhase.access_doubleFree {sizeClass offset : ℕ} {shared shared' : SharedData}
    {phase : ReturnPhase} (view : SharedData)
    (haccess : phase.access sizeClass offset shared = (.doubleFree, shared'))
    (hisInUse : view.isInUse = shared.isInUse) :
    phase.access sizeClass offset view = (.doubleFree, view) := by
  cases phase with
  | ready =>
      unfold access at haccess ⊢
      dsimp only at haccess ⊢
      split at haccess
      next hunused => rw [hisInUse, if_pos hunused]
      next => cases haccess
  | _ => cases haccess

/-- A last holder goes on until it has appended its chunk. -/
theorem Reader.Moves.returningOffset_eq {reader reader' : Reader} (hmoves : reader.Moves reader')
    {offset : ℕ} (hreturning : reader.returningOffset = some offset) :
    reader'.returningOffset = some offset := by
  cases hmoves with
  | leaves hbefore hafter hcursor =>
      rw [Reader.returningOffset_of_not_handled hbefore] at hreturning
      cases hreturning
  | clears hbefore hafter hcursor => simp [Reader.returningOffset, hbefore] at hreturning
  | @stores descriptor sizeClass lastHolder hbefore hafter hcursor =>
      cases lastHolder with
      | false => simp [Reader.returningOffset, hbefore] at hreturning
      | true => simpa [Reader.returningOffset, hbefore, hafter] using hreturning

/-! ## Who returns, and what is on a list -/

/-- Those that return chunks. -/
inductive Party
  | subscriber (slotIndex : ℕ)
  | publisher
  deriving DecidableEq

namespace SplitState

/-- The chunk that a party, having cleared the last reference to it, has yet to append. -/
def returning (state : SplitState) : Party → Option ℕ
  | .subscriber slotIndex => (state.readers slotIndex).bind Reader.returningOffset
  | .publisher =>
      match state.publisherPhase with
      | .releasing _ _ _ descriptor _ _ => some descriptor.offset
      | _ => none

/-- The chain from the head to the tail of a free list is `nodes`. -/
structure FreeList (state : SplitState) (sizeClass : ℕ) (nodes : List ℕ) : Prop where
  chain : Chain state.shared.link (state.shared.head sizeClass) (state.shared.tail sizeClass)
    nodes
  nodup : nodes.Nodup
  isChunk : ∀ offset ∈ nodes, IsChunk sizeClass offset

variable {state next : SplitState}

/-- In every explained state there is one that the invariant speaks of, with the same free
lists and the same subscribers. -/
theorem Explained.exists_view (hexplained : state.Explained) :
    ∃ (view : State) (phases : ℕ → ReturnPhase) (publisherPhase : PublisherPhase)
      (pool : Pool view.published),
      SplitInvariant view phases publisherPhase state.popped state.returned pool ∧
      (∀ {slot reader}, state.readers slot = some reader →
        view.readers slot = some reader ∧ phases slot = state.returnPhases slot) ∧
      view.shared.head = state.shared.head ∧ view.shared.tail = state.shared.tail ∧
      view.shared.data = state.shared.data ∧ view.shared.isInUse = state.shared.isInUse := by
  cases hexplained with
  | idle hphase hinv =>
      exact ⟨_, _, _, _, hinv, fun hreader => ⟨hreader, rfl⟩, rfl, rfl, rfl, rfl⟩
  | publishing hphase hinv =>
      exact ⟨_, _, _, _, hinv, fun hreader => ⟨hreader, rfl⟩, rfl, rfl, rfl, rfl⟩
  | reaping hphase hstandIn hreaps =>
      exact ⟨_, _, _, _, hreaps.split, fun hreader => ⟨hreaps.standingIn_reader hreader,
        Function.update_of_ne (hreaps.ne_of_reader hreader) ..⟩, rfl, rfl, rfl, rfl⟩
  | releasing hphase hstandIn hpast hreaps =>
      exact ⟨_, _, _, _, hreaps.split, fun hreader => ⟨hreaps.standingIn_reader hreader,
        Function.update_of_ne (hreaps.ne_of_reader hreader) ..⟩, rfl, rfl, rfl, rfl⟩

/-- The lists are queues: what has been taken from the front is followed by the list, and
both together are what was there at first and what has been returned. -/
theorem Explained.freeList (hexplained : state.Explained) {sizeClass : ℕ}
    (hclass : sizeClass < kClassCount) :
    ∃ nodes, state.FreeList sizeClass nodes ∧
      state.popped sizeClass ++ nodes = chunkOffsets sizeClass ++ state.returned sizeClass := by
  obtain ⟨view, phases, publisherPhase, pool, hinv, -, hhead, htail, hdata, -⟩ :=
    hexplained.exists_view
  obtain ⟨hviewHead, hviewTail, hviewData⟩ := publisherPhase.unmark_lists view.shared
  have hchain : Chain (publisherPhase.unmark view.shared).link
      ((publisherPhase.unmark view.shared).head sizeClass)
      ((publisherPhase.unmark view.shared).tail sizeClass) (pool.free sizeClass) :=
    hinv.explained.represents.chain sizeClass hclass
  have hlink : (publisherPhase.unmark view.shared).link = state.shared.link := by
    funext offset
    rw [SharedData.link, SharedData.link, hviewData, hdata]
  rw [hlink, hviewHead, hhead, hviewTail, htail] at hchain
  exact ⟨_, ⟨hchain, pool.free_nodup sizeClass, fun offset hmem =>
    (pool.mem_free_iff.mp hmem).1⟩, hinv.account sizeClass hclass⟩

/-- What a subscriber returns is a chunk, and the tracker's check lets it through. -/
theorem Explained.returned_chunk (hexplained : state.Explained) {slot : ℕ} {reader : Reader}
    {descriptor : MessageDescriptor} {sizeClass : ℕ} (hreader : state.readers slot = some reader)
    (hphase : reader.phase = .indexStored descriptor sizeClass) :
    IsChunk sizeClass descriptor.offset ∧
      ∀ shared, (state.returnPhases slot).access sizeClass descriptor.offset state.shared ≠
        (.doubleFree, shared) := by
  obtain ⟨view, phases, publisherPhase, pool, hinv, hsame, -, -, -, hisInUse⟩ :=
    hexplained.exists_view
  obtain ⟨hview, hreturnPhase⟩ := hsame hreader
  refine ⟨(hinv.returned_chunk hview hphase).1, fun shared haccess => ?_⟩
  exact hinv.access_ne_doubleFree hview hphase
    (ReturnPhase.access_doubleFree view.shared (hreturnPhase ▸ haccess) hisInUse)

/-- Nor does it stop the publisher. -/
theorem Explained.released_chunk (hexplained : state.Explained) {slotIndex sizeClass : ℕ}
    {victim : Reader} {indices : List ℕ} {descriptor : MessageDescriptor} {phase : ReturnPhase}
    (hphase : state.publisherPhase =
      .releasing slotIndex victim indices descriptor sizeClass phase) :
    IsChunk sizeClass descriptor.offset ∧
      ∀ shared, phase.access sizeClass descriptor.offset state.shared ≠ (.doubleFree, shared) := by
  cases hexplained with
  | idle hother => cases hphase.symm.trans hother
  | publishing hother => cases hphase.symm.trans hother
  | reaping hother => cases hphase.symm.trans hother
  | @releasing _ _ standIn _ _ _ _ _ hother hstandIn _ hreaps =>
      cases hphase.symm.trans hother
      have hreturning : standIn.phase = .indexStored descriptor sizeClass := by
        rw [hstandIn]
        rfl
      refine ⟨(hreaps.split.returned_chunk Reaps.standIn_reader hreturning).1,
        fun shared haccess => ?_⟩
      have hview := ReturnPhase.access_doubleFree
        ((standingIn slotIndex standIn).apply state.toState).shared haccess rfl
      rw [← Function.update_self slotIndex phase state.returnPhases] at hview
      exact hreaps.split.access_ne_doubleFree Reaps.standIn_reader hreturning hview

theorem returning_subscriber {slot : ℕ} (hreturning : (state.returning (.subscriber slot)).isSome) :
    ∃ reader, state.readers slot = some reader ∧ reader.returningOffset ≠ none := by
  obtain ⟨offset, hsome⟩ := Option.isSome_iff_exists.mp hreturning
  obtain ⟨reader, hreader, hoffset⟩ := Option.bind_eq_some_iff.mp hsome
  exact ⟨reader, hreader, by simp [hoffset]⟩

/-- No two parties return chunks at a time. -/
theorem Explained.returning_unique (hexplained : state.Explained) {left right : Party}
    (hleft : (state.returning left).isSome) (hright : (state.returning right).isSome) :
    left = right := by
  -- Subscribers are ordered by what they hold, and a last holder is behind nobody.
  have hsubscribers : ∀ {slot other : ℕ}, (state.returning (.subscriber slot)).isSome →
      (state.returning (.subscriber other)).isSome → slot = other := by
    intro slot other hslot hother
    obtain ⟨reader, hreader, hreturning⟩ := returning_subscriber hslot
    obtain ⟨otherReader, hotherReader, hotherReturning⟩ := returning_subscriber hother
    obtain ⟨view, phases, publisherPhase, pool, hinv, hsame, -⟩ := hexplained.exists_view
    exact hinv.alone (hsame hreader).1 hreturning (hsame hotherReader).1 hotherReturning
  -- A publisher that returns a chunk stands in for a last holder.
  have hpublisher : ∀ {slot : ℕ}, (state.returning (.subscriber slot)).isSome →
      ¬(state.returning .publisher).isSome := by
    intro slot hslot hreaping
    obtain ⟨reader, hreader, hreturning⟩ := returning_subscriber hslot
    cases hexplained with
    | releasing hphase hstandIn _ hreaps =>
        have hsame := hreaps.split.alone (hreaps.standingIn_reader hreader) hreturning
          Reaps.standIn_reader (by rw [hstandIn]; simp [Reader.resumed, Reader.returningOffset])
        exact hreaps.ne_of_reader hreader hsame
    | idle hphase _ => simp [returning, hphase] at hreaping
    | publishing hphase _ => simp [returning, hphase] at hreaping
    | reaping hphase _ _ => simp [returning, hphase] at hreaping
  cases left with
  | subscriber slot =>
      cases right with
      | subscriber other => rw [hsubscribers hleft hright]
      | publisher => exact absurd hright (hpublisher hleft)
  | publisher =>
      cases right with
      | subscriber other => exact absurd hleft (hpublisher hright)
      | publisher => rfl

/-! ## A return ends with its append -/

theorem returning_subscriberStep {slot : ℕ} {step : State → Option (Outcome × State)}
    (hop : SubscriberStep slot step) (hstep : state.lift (step state.toState) = some next)
    {party : Party} {offset : ℕ} (hreturning : state.returning party = some offset) :
    next.returning party = some offset := by
  obtain ⟨⟨outcome, moved⟩, hmoved, rfl⟩ := Option.map_eq_some_iff.mp hstep
  obtain ⟨reader, reader', shared, spaceAvailable, hreader, hmoves, rfl⟩ := hop.moves hmoved
  cases party with
  | publisher => exact hreturning
  | subscriber other =>
      obtain ⟨otherReader, hother, hoffset⟩ := Option.bind_eq_some_iff.mp hreturning
      refine Option.bind_eq_some_iff.mpr ?_
      by_cases heq : other = slot
      · subst heq
        obtain rfl := Option.some.inj (hreader.symm.trans hother)
        exact ⟨reader', Function.update_self .., hmoves.returningOffset_eq hoffset⟩
      · exact ⟨otherReader, (Function.update_of_ne heq ..).trans hother, hoffset⟩

theorem returning_returnAccess (hexplained : state.Explained) {slot : ℕ}
    (hstep : state.returnAccess slot = some next) {party : Party} {offset : ℕ}
    (hreturning : state.returning party = some offset) :
    next.returning party = some offset ∨
      ∃ sizeClass, IsChunk sizeClass offset ∧
        next.returned = recordChunk state.returned sizeClass offset := by
  obtain ⟨reader, descriptor, sizeClass, shared, hreader, hphase, hcases⟩ :=
    returnAccess_cases hstep
  obtain ⟨hchunk, hpasses⟩ := hexplained.returned_chunk hreader hphase
  obtain ⟨phase, haccess, rfl⟩ | haccess | ⟨haccess, rfl⟩ := hcases
  · exact .inl hreturning
  · exact absurd haccess (hpasses shared)
  · cases party with
    | publisher => exact .inl hreturning
    | subscriber other =>
        obtain ⟨otherReader, hother, hoffset⟩ := Option.bind_eq_some_iff.mp hreturning
        by_cases heq : other = slot
        · subst heq
          obtain rfl := Option.some.inj (hreader.symm.trans hother)
          obtain rfl : descriptor.offset = offset := by
            simpa [Reader.returningOffset, hphase] using hoffset
          exact .inr ⟨sizeClass, hchunk, rfl⟩
        · exact .inl (Option.bind_eq_some_iff.mpr
            ⟨otherReader, (Function.update_of_ne heq ..).trans hother, hoffset⟩)

theorem returning_reapAccess (hexplained : state.Explained)
    (hstep : state.reapAccess = some next) {party : Party} {offset : ℕ}
    (hreturning : state.returning party = some offset) :
    next.returning party = some offset ∨
      ∃ sizeClass, IsChunk sizeClass offset ∧
        next.returned = recordChunk state.returned sizeClass offset := by
  cases party with
  | subscriber slot =>
      have hreaders : next.readers = state.readers := by
        unfold reapAccess at hstep
        split at hstep
        next => cases hstep; rfl
        next => cases hstep; rfl
        next => split at hstep <;> cases hstep <;> rfl
        next => cases hstep
      exact .inl (by rw [returning, hreaders]; exact hreturning)
  | publisher =>
      obtain ⟨slotIndex, victim, indices, descriptor, sizeClass, phase, hphase, rfl⟩ :
          ∃ slotIndex victim indices descriptor sizeClass phase, state.publisherPhase =
            .releasing slotIndex victim indices descriptor sizeClass phase ∧
            descriptor.offset = offset := by
        cases hphase : state.publisherPhase with
        | releasing _ _ _ descriptor _ _ =>
            rw [returning, hphase] at hreturning
            exact ⟨_, _, _, _, _, _, rfl, Option.some.inj hreturning⟩
        | _ => simp [returning, hphase] at hreturning
      obtain ⟨hchunk, hpasses⟩ := hexplained.released_chunk hphase
      simp only [reapAccess, hphase] at hstep
      split at hstep
      next => cases hstep; exact .inl rfl
      next shared haccess => exact absurd haccess (hpasses shared)
      next => cases hstep; exact .inr ⟨sizeClass, hchunk, rfl⟩

theorem returning_of_readers (hreaders : next.readers = state.readers)
    (hpublisher : state.returning .publisher = none) {party : Party} {offset : ℕ}
    (hreturning : state.returning party = some offset) :
    next.returning party = some offset := by
  cases party with
  | subscriber slot => rw [returning, hreaders]; exact hreturning
  | publisher => rw [hpublisher] at hreturning; cases hreturning

/-- A new subscriber takes nobody's slot. -/
theorem returning_track (hexplained : state.Explained) {eventFd slot : ℕ}
    (hidle : state.publisherPhase = .idle)
    (hstep : state.lift (state.toState.track eventFd slot) = some next) {party : Party}
    {offset : ℕ} (hreturning : state.returning party = some offset) :
    next.returning party = some offset := by
  obtain ⟨⟨outcome, moved⟩, hmoved, rfl⟩ := Option.map_eq_some_iff.mp hstep
  obtain ⟨pool, hinv⟩ := hexplained.of_idle hidle
  have htracking : TrackingTables state.toPublisherProcess := hinv.explained.tables
  have hwrite : state.shared.descriptorWriteIndex < kDescriptorSlotCount :=
    hinv.explained.write_lt
  obtain ⟨-, rfl | ⟨process, rfl, -, huntracked, -, -, -⟩⟩ :=
    Invariant.track_cases htracking hwrite hmoved
  · exact hreturning
  · cases party with
    | publisher => exact hreturning
    | subscriber other =>
        obtain ⟨reader, hreader, hoffset⟩ := Option.bind_eq_some_iff.mp hreturning
        have hne : other ≠ slot := by
          rintro rfl
          exact huntracked (hinv.explained.tracked_iff.mpr
            ⟨_, SplitInvariant.explained_reader hreader⟩)
        exact Option.bind_eq_some_iff.mpr
          ⟨reader, (Function.update_of_ne hne ..).trans hreader, hoffset⟩

theorem publishAccess_readers (hstep : state.publishAccess = some next) :
    next.readers = state.readers ∧ state.returning .publisher = none := by
  unfold publishAccess at hstep
  split at hstep
  next payload sizeClass phase hphase =>
    rw [Option.some.injEq] at hstep
    subst hstep
    refine ⟨?_, by simp [returning, hphase]⟩
    cases phase with
    | admitted => rfl
    | headLoaded headOff =>
        dsimp only
        split
        next => rfl
        next => split <;> rfl
    | tailCompared headOff => dsimp only; split <;> rfl
    | marked headOff => rfl
    | linkRead headOff nextHeadOff => rfl
    | headStored headOff => rfl
    | written headOff =>
        dsimp only
        unfold publishWritten
        dsimp only
        split
        next => rfl
        next => split <;> rfl
  next => cases hstep

/-- A return goes on until its chunk is appended, or its subscriber is killed. -/
theorem returning_step (hexplained : state.Explained) {action : SplitAction}
    (hstep : state.step action = some next) {party : Party} {offset : ℕ}
    (hreturning : state.returning party = some offset)
    (hspared : ∀ slotIndex, party = .subscriber slotIndex → action ≠ .beginReap slotIndex) :
    next.returning party = some offset ∨
      ∃ sizeClass, IsChunk sizeClass offset ∧
        next.returned = recordChunk state.returned sizeClass offset := by
  cases action with
  | fetchDescriptors slot =>
      exact .inl (returning_subscriberStep (fetchDescriptors_subscriberStep slot) hstep hreturning)
  | readPayload slot =>
      exact .inl (returning_subscriberStep (readPayload_subscriberStep slot) hstep hreturning)
  | clearReference slot =>
      exact .inl (returning_subscriberStep (clearReference_subscriberStep slot) hstep hreturning)
  | storeReadIndex slot =>
      exact .inl (returning_subscriberStep (storeReadIndex_subscriberStep slot) hstep hreturning)
  | returnAccess slot => exact returning_returnAccess hexplained hstep hreturning
  | signalSpace slot =>
      exact .inl (returning_subscriberStep (signalSpace_subscriberStep slot) hstep hreturning)
  | track eventFd slot =>
      unfold step at hstep
      dsimp only at hstep
      split at hstep
      next hidle => exact .inl (returning_track hexplained hidle hstep hreturning)
      next => cases hstep
  | beginPublish payload =>
      simp only [step, beginPublish] at hstep
      split at hstep
      next hidle =>
        refine .inl (returning_of_readers ?_ (by simp [returning, hidle]) hreturning)
        split at hstep
        next => cases hstep; rfl
        next =>
          split at hstep
          next => cases hstep; rfl
          next => split at hstep <;> cases hstep <;> rfl
      next => cases hstep
  | publishAccess =>
      obtain ⟨hreaders, hpublisher⟩ := publishAccess_readers hstep
      exact .inl (returning_of_readers hreaders hpublisher hreturning)
  | beginReap slot =>
      simp only [step, beginReap] at hstep
      split at hstep
      next hidle _ =>
        cases party with
        | publisher => simp [returning, hidle] at hreturning
        | subscriber other =>
            have hne : other ≠ slot := by
              rintro rfl
              exact hspared other rfl rfl
            have hkept : next.readers other = state.readers other := by
              split at hstep <;> cases hstep <;> exact Function.update_of_ne hne ..
            exact .inl (by rw [returning, hkept]; exact hreturning)
      next => cases hstep
  | reapAccess => exact returning_reapAccess hexplained hstep hreturning

/-! ## The histories grow -/

theorem prefix_recordChunk (history : ℕ → List ℕ) (sizeClass offset other : ℕ) :
    history other <+: recordChunk history sizeClass offset other := by
  unfold recordChunk
  by_cases heq : other = sizeClass
  · subst heq
    rw [Function.update_self]
    exact List.prefix_append _ _
  · rw [Function.update_of_ne heq]

/-- Nothing is taken out of a history. -/
def Grows (state next : SplitState) : Prop :=
  ∀ sizeClass, state.popped sizeClass <+: next.popped sizeClass ∧
    state.returned sizeClass <+: next.returned sizeClass

theorem grows_of_eq (hpopped : next.popped = state.popped)
    (hreturned : next.returned = state.returned) : state.Grows next :=
  fun sizeClass => by rw [hpopped, hreturned]; exact ⟨List.prefix_rfl, List.prefix_rfl⟩

theorem grows_returned {sizeClass offset : ℕ} (hpopped : next.popped = state.popped)
    (hreturned : next.returned = recordChunk state.returned sizeClass offset) :
    state.Grows next :=
  fun other => by
    rw [hpopped, hreturned]
    exact ⟨List.prefix_rfl, prefix_recordChunk state.returned sizeClass offset other⟩

theorem grows_popped {sizeClass offset : ℕ}
    (hpopped : next.popped = recordChunk state.popped sizeClass offset)
    (hreturned : next.returned = state.returned) : state.Grows next :=
  fun other => by
    rw [hpopped, hreturned]
    exact ⟨prefix_recordChunk state.popped sizeClass offset other, List.prefix_rfl⟩

theorem grows_lift {result : Option (Outcome × State)} (hstep : state.lift result = some next) :
    state.Grows next := by
  obtain ⟨moved, -, rfl⟩ := Option.map_eq_some_iff.mp hstep
  exact grows_of_eq rfl rfl

theorem grows_returnAccess {slot : ℕ} (hstep : state.returnAccess slot = some next) :
    state.Grows next := by
  unfold returnAccess at hstep
  split at hstep
  next => cases hstep
  next =>
    split at hstep
    next =>
      split at hstep
      next => cases hstep; exact grows_of_eq rfl rfl
      next => cases hstep; exact grows_of_eq rfl rfl
      next => cases hstep; exact grows_returned rfl rfl
    next => cases hstep

theorem grows_beginPublish {payload : List Byte} (hstep : state.beginPublish payload = some next) :
    state.Grows next := by
  unfold beginPublish at hstep
  split at hstep
  next =>
    split at hstep
    next => cases hstep; exact grows_of_eq rfl rfl
    next =>
      split at hstep
      next => cases hstep; exact grows_of_eq rfl rfl
      next => split at hstep <;> cases hstep <;> exact grows_of_eq rfl rfl
  next => cases hstep

theorem grows_publishWritten (payload : List Byte) (sizeClass headOff : ℕ) :
    state.Grows (state.publishWritten payload sizeClass headOff) := by
  unfold publishWritten
  dsimp only
  split
  next => exact grows_of_eq rfl rfl
  next => split <;> exact grows_of_eq rfl rfl

theorem grows_publishAccess (hstep : state.publishAccess = some next) : state.Grows next := by
  unfold publishAccess at hstep
  split at hstep
  next payload sizeClass phase _ =>
    rw [Option.some.injEq] at hstep
    subst hstep
    cases phase with
    | admitted => exact grows_of_eq rfl rfl
    | headLoaded headOff =>
        dsimp only
        split
        next => exact grows_of_eq rfl rfl
        next => split <;> exact grows_of_eq rfl rfl
    | tailCompared headOff => dsimp only; split <;> exact grows_of_eq rfl rfl
    | marked headOff => exact grows_of_eq rfl rfl
    | linkRead headOff nextHeadOff => exact grows_popped rfl rfl
    | headStored headOff => exact grows_of_eq rfl rfl
    | written headOff => exact grows_publishWritten payload sizeClass headOff
  next => cases hstep

theorem grows_beginReap {slot : ℕ} (hstep : state.beginReap slot = some next) :
    state.Grows next := by
  unfold beginReap at hstep
  split at hstep
  next => dsimp only at hstep; split at hstep <;> cases hstep <;> exact grows_of_eq rfl rfl
  next => cases hstep

theorem grows_reapAccess (hstep : state.reapAccess = some next) : state.Grows next := by
  unfold reapAccess at hstep
  split at hstep
  next => cases hstep; exact grows_of_eq rfl rfl
  next => cases hstep; exact grows_of_eq rfl rfl
  next =>
    split at hstep
    next => cases hstep; exact grows_of_eq rfl rfl
    next => cases hstep; exact grows_of_eq rfl rfl
    next => cases hstep; exact grows_returned rfl rfl
  next => cases hstep

theorem grows_step {action : SplitAction} (hstep : state.step action = some next) :
    state.Grows next := by
  cases action with
  | returnAccess slot => exact grows_returnAccess hstep
  | track eventFd slot =>
      unfold step at hstep
      dsimp only at hstep
      split at hstep
      next => exact grows_lift hstep
      next => cases hstep
  | beginPublish payload => exact grows_beginPublish hstep
  | publishAccess => exact grows_publishAccess hstep
  | beginReap slot => exact grows_beginReap hstep
  | reapAccess => exact grows_reapAccess hstep
  | _ => exact grows_lift hstep

/-! ## Runs -/

/-- The chunk has been returned to its list since `state`. -/
def ReturnedSince (state final : SplitState) (sizeClass offset : ℕ) : Prop :=
  ∃ returned, final.returned sizeClass = state.returned sizeClass ++ returned ∧
    offset ∈ returned

theorem ReturnedSince.of_step {final : SplitState} {sizeClass offset : ℕ}
    (hreturned : ReturnedSince next final sizeClass offset) (hgrows : state.Grows next) :
    ReturnedSince state final sizeClass offset := by
  obtain ⟨returned, hfinal, hmem⟩ := hreturned
  obtain ⟨earlier, hnext⟩ := (hgrows sizeClass).2
  exact ⟨earlier ++ returned, by rw [hfinal, ← hnext, List.append_assoc],
    List.mem_append_right _ hmem⟩

theorem returnedSince_of_record {final : SplitState} {sizeClass offset : ℕ}
    (hreturned : next.returned = recordChunk state.returned sizeClass offset)
    (hgrows : next.Grows final) : ReturnedSince state final sizeClass offset := by
  obtain ⟨later, hfinal⟩ := (hgrows sizeClass).2
  rw [hreturned, recordChunk, Function.update_self] at hfinal
  exact ⟨offset :: later, by rw [← hfinal, List.append_assoc, List.singleton_append],
    List.mem_cons_self⟩

theorem Grows.trans {final : SplitState} (hfirst : state.Grows next) (hsecond : next.Grows final) :
    state.Grows final := fun sizeClass =>
  ⟨(hfirst sizeClass).1.trans (hsecond sizeClass).1,
    (hfirst sizeClass).2.trans (hsecond sizeClass).2⟩

variable {mapped : SharedData} {final : SplitState} {actions : List SplitAction}

theorem Explained.run (hexplained : state.Explained)
    (hrun : (splitPlane mapped).run state actions = some final) :
    final.Explained ∧ state.Grows final := by
  induction actions generalizing state with
  | nil =>
      obtain rfl := Option.some.inj hrun
      exact ⟨hexplained, grows_of_eq rfl rfl⟩
  | cons action actions ih =>
      obtain ⟨next, hstep, hrest⟩ := Option.bind_eq_some_iff.mp hrun
      obtain ⟨hfinal, hgrows⟩ := ih (hexplained.step hstep) hrest
      exact ⟨hfinal, (grows_step hstep).trans hgrows⟩

/-- Over a run, a return goes on until its chunk is appended, or its subscriber is killed. -/
theorem returning_run (hexplained : state.Explained)
    (hrun : (splitPlane mapped).run state actions = some final) {party : Party} {offset : ℕ}
    (hreturning : state.returning party = some offset)
    (hspared : ∀ slotIndex, party = .subscriber slotIndex →
      SplitAction.beginReap slotIndex ∉ actions) :
    final.returning party = some offset ∨
      ∃ sizeClass, IsChunk sizeClass offset ∧ ReturnedSince state final sizeClass offset := by
  induction actions generalizing state with
  | nil =>
      obtain rfl := Option.some.inj hrun
      exact .inl hreturning
  | cons action actions ih =>
      obtain ⟨next, hstep, hrest⟩ := Option.bind_eq_some_iff.mp hrun
      have hhead : ∀ slotIndex, party = .subscriber slotIndex → action ≠ .beginReap slotIndex :=
        fun slotIndex hparty heq => hspared slotIndex hparty (by simp [heq])
      have htail : ∀ slotIndex, party = .subscriber slotIndex →
          SplitAction.beginReap slotIndex ∉ actions :=
        fun slotIndex hparty hmem => hspared slotIndex hparty (List.mem_cons_of_mem _ hmem)
      obtain hstill | ⟨sizeClass, hchunk, hreturned⟩ :=
        returning_step hexplained hstep hreturning hhead
      · obtain hlater | ⟨sizeClass, hchunk, hreturned⟩ :=
          ih (hexplained.step hstep) hrest hstill htail
        · exact .inl hlater
        · exact .inr ⟨sizeClass, hchunk, hreturned.of_step (grows_step hstep)⟩
      · exact .inr ⟨sizeClass, hchunk,
          returnedSince_of_record hreturned ((hexplained.step hstep).run hrest).2⟩

end SplitState

/-! ## Returns in sequence -/

/-- Concurrent returns behave like a sequence of returns.  Over any interleaving of the
accesses of the subscribers and of the publisher: at no time are two parties last holders
with a return ahead of them; the list is at both ends a chain of distinct chunks of its class
from its head to its tail; what has been popped and then the list is what was on the list
and then what has been returned; and a return that has been begun goes on until its chunk is
among these, or its subscriber is killed. -/
theorem concurrent_returns_sequential {mapped : SharedData} {state final : SplitState}
    {actions : List SplitAction} {sizeClass : ℕ}
    (hreach : (splitPlane mapped).Reachable state)
    (hrun : (splitPlane mapped).run state actions = some final)
    (hclass : sizeClass < kClassCount) :
    (∀ left right, (state.returning left).isSome → (state.returning right).isSome →
      left = right) ∧
    ∃ nodes nodes' taken appended,
      state.FreeList sizeClass nodes ∧ final.FreeList sizeClass nodes' ∧
      final.popped sizeClass = state.popped sizeClass ++ taken ∧
      final.returned sizeClass = state.returned sizeClass ++ appended ∧
      taken ++ nodes' = nodes ++ appended ∧
      ∀ party offset, state.returning party = some offset → IsChunk sizeClass offset →
        (∀ slotIndex, party = .subscriber slotIndex →
          SplitAction.beginReap slotIndex ∉ actions) →
        final.returning party = some offset ∨ offset ∈ appended := by
  have hexplained := explained_of_reachable hreach
  obtain ⟨hfinal, hgrows⟩ := hexplained.run hrun
  obtain ⟨nodes, hlist, haccount⟩ := hexplained.freeList hclass
  obtain ⟨nodes', hlist', haccount'⟩ := hfinal.freeList hclass
  obtain ⟨⟨taken, htaken⟩, appended, happended⟩ := hgrows sizeClass
  refine ⟨fun left right => hexplained.returning_unique, nodes, nodes', taken, appended, hlist,
    hlist', htaken.symm, happended.symm, ?_, ?_⟩
  · rw [← htaken, ← happended, List.append_assoc, ← List.append_assoc (chunkOffsets sizeClass),
      ← haccount, List.append_assoc] at haccount'
    exact List.append_cancel_left haccount'
  · intro party offset hreturning hchunk hspared
    obtain hstill | ⟨otherClass, hotherChunk, returned, hreturned, hmem⟩ :=
      SplitState.returning_run hexplained hrun hreturning hspared
    · exact .inl hstill
    · obtain rfl := hotherChunk.class_unique hchunk
      rw [← happended] at hreturned
      exact .inr (List.append_cancel_left hreturned ▸ hmem)

/-- The accesses of a successful publish. -/
def publishAccesses : List SplitAction :=
  .beginPublish [1] :: List.replicate 7 .publishAccess

/-- Subscriber 1 has cleared the last reference to the first message. -/
def lastHolderAccesses : List SplitAction :=
  [.track 7 0, .track 8 1] ++ publishAccesses ++ publishAccesses ++
    [.fetchDescriptors 0, .readPayload 0, .clearReference 0, .storeReadIndex 0,
      .fetchDescriptors 1, .readPayload 1, .clearReference 1]

/-- While it returns the chunk, the publisher pops the head, and subscriber 0 goes on, is
killed and reaped. -/
def interleavedAccesses : List SplitAction :=
  [.storeReadIndex 1, .beginPublish [1], .publishAccess, .publishAccess, .returnAccess 1,
    .returnAccess 1, .publishAccess, .readPayload 0, .publishAccess, .clearReference 0,
    .publishAccess, .returnAccess 1, .publishAccess, .publishAccess, .beginReap 0,
    .reapAccess, .returnAccess 1, .reapAccess, .reapAccess]

theorem concurrent_returns_interleaved : ∃ state final,
    (splitPlane zeroedMapping).Reachable state ∧
    (splitPlane zeroedMapping).run state interleavedAccesses = some final ∧
    state.returning (.subscriber 1) = some 0 ∧ final.returning (.subscriber 1) = none ∧
    ∃ nodes nodes' taken appended,
      state.FreeList 0 nodes ∧ final.FreeList 0 nodes' ∧ taken ++ nodes' = nodes ++ appended ∧
      0 ∈ appended := by
  have hview : ((splitPlane zeroedMapping).run (splitPlane zeroedMapping).initial
      lastHolderAccesses).bind (fun state =>
        ((splitPlane zeroedMapping).run state interleavedAccesses).map fun final =>
          (state.returning (.subscriber 1), final.returning (.subscriber 1))) =
      some (some 0, none) := by decide +kernel
  obtain ⟨state, hstate, hafter⟩ := Option.bind_eq_some_iff.mp hview
  obtain ⟨final, hrun, hreturning⟩ := Option.map_eq_some_iff.mp hafter
  obtain ⟨hbefore, hnow⟩ := Prod.mk.inj hreturning
  have hreach : (splitPlane zeroedMapping).Reachable state :=
    System.ReachableWith.initial.run (fun _ _ _ => trivial) hstate
  obtain ⟨-, nodes, nodes', taken, appended, hlist, hlist', -, -, hsequence, hreturned⟩ :=
    concurrent_returns_sequential hreach hrun (show 0 < kClassCount by decide)
  have hchunk : IsChunk 0 0 := ⟨by decide, 0, by decide, rfl⟩
  have hspared : ∀ slotIndex, Party.subscriber 1 = .subscriber slotIndex →
      SplitAction.beginReap slotIndex ∉ interleavedAccesses := by
    rintro _ ⟨⟩
    simp [interleavedAccesses]
  refine ⟨state, final, hreach, hrun, hbefore, hnow, nodes, nodes', taken, appended, hlist,
    hlist', hsequence, (hreturned _ 0 hbefore hchunk hspared).resolve_left ?_⟩
  rw [hnow]
  simp

end DriveBus.SharedMemory
