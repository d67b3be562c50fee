import DriveBus.SharedMemory.SplitReap

/-!
# All accesses

What explains a state between two accesses is the invariant as it is, or, while a subscriber
is being reaped, the invariant with somebody in its place.  Every access leads from an
explained state to an explained one.
-/

namespace DriveBus.SharedMemory

open DriveBus.ByteMemory DriveBus.Transition

namespace SharedData

/-- Clearing a reference that is not there changes nothing. -/
theorem clearReference_of_not_holder {shared : SharedData} {chunk slot : ℕ}
    (habsent : (shared.chunkReferenceCounts chunk).getLsbD slot = false) :
    shared.clearReference chunk (subscriberReferenceBit slot) = shared := by
  rw [clearReference, HolderMask.clear_of_not_holder habsent, Function.update_eq_self]

end SharedData

/-! ## The steps of the subscribers -/

/-- What the steps of the subscriber of a slot have in common, its append aside. -/
structure SubscriberStep (slot : ℕ) (step : State → Option (Outcome × State)) : Prop where
  moves : ∀ {state outcome next}, step state = some (outcome, next) →
    ∃ reader reader' shared spaceAvailable, state.readers slot = some reader ∧
      reader.Moves reader' ∧
      next = State.setReader { state with shared, spaceAvailable } slot reader'
  transparent : ∀ {overlay : Overlay} {state outcome next}, overlay.Transparent slot →
    (∀ reader, state.readers slot = some reader → reader.slotIndex = slot) →
    step state = some (outcome, next) →
    step (overlay.apply state) = some (outcome, overlay.apply next)
  keeps : ∀ {state phases publisherPhase popped returned outcome next}
    {pool : Pool state.published},
    SplitInvariant state phases publisherPhase popped returned pool →
    step state = some (outcome, next) →
    SplitPreserved next phases publisherPhase popped returned pool

theorem fetchDescriptors_subscriberStep (slot : ℕ) :
    SubscriberStep slot (·.fetchDescriptors slot) where
  moves := by
    intro state outcome next hstep
    unfold State.fetchDescriptors at hstep
    split at hstep
    next => cases hstep
    next reader hreader =>
      split at hstep
      next hidle =>
        cases hstep
        exact ⟨reader, _, _, _, hreader, Reader.moves_fetchDescriptors hidle.1 _, rfl⟩
      next => cases hstep
  transparent hoverlay hslot hstep := hoverlay.fetchDescriptors hslot hstep
  keeps hinv hstep := hinv.fetchDescriptors hstep

theorem readPayload_subscriberStep (slot : ℕ) : SubscriberStep slot (·.readPayload slot) where
  moves := by
    intro state outcome next hstep
    simp only [State.readPayload, Option.bind_eq_bind, Option.bind_eq_some_iff] at hstep
    obtain ⟨reader, hreader, ⟨result, started⟩, hstart, hstep⟩ := hstep
    cases hstep
    exact ⟨reader, _, _, _, hreader, (Reader.moves_startIteration hstart).2, rfl⟩
  transparent hoverlay _ hstep := hoverlay.readPayload hstep
  keeps hinv hstep := hinv.readPayload hstep

theorem clearReference_subscriberStep (slot : ℕ) :
    SubscriberStep slot (·.clearReference slot) where
  moves := by
    intro state outcome next hstep
    simp only [State.clearReference, Option.bind_eq_bind, Option.bind_eq_some_iff] at hstep
    obtain ⟨reader, hreader, ⟨cleared, shared⟩, hclear, hstep⟩ := hstep
    cases hstep
    exact ⟨reader, _, _, _, hreader, (Reader.moves_clearOwnReference hclear).2, rfl⟩
  transparent hoverlay _ hstep := hoverlay.clearReference hstep
  keeps hinv hstep := hinv.clearReference hstep

theorem storeReadIndex_subscriberStep (slot : ℕ) :
    SubscriberStep slot (·.storeReadIndex slot) where
  moves := by
    intro state outcome next hstep
    simp only [State.storeReadIndex, Option.bind_eq_bind, Option.bind_eq_some_iff] at hstep
    obtain ⟨reader, hreader, ⟨stored, shared⟩, hstore, hstep⟩ := hstep
    cases hstep
    exact ⟨reader, _, _, _, hreader, (Reader.moves_storeOwnReadIndex hstore).2, rfl⟩
  transparent hoverlay hslot hstep := hoverlay.storeReadIndex hslot hstep
  keeps hinv hstep := hinv.storeReadIndex hstep

theorem signalSpace_subscriberStep (slot : ℕ) : SubscriberStep slot (·.signalSpace slot) where
  moves := by
    intro state outcome next hstep
    simp only [State.signalSpace, Option.bind_eq_bind, Option.bind_eq_some_iff] at hstep
    obtain ⟨reader, hreader, ⟨signalled, spaceAvailable⟩, hsignal, hstep⟩ := hstep
    cases hstep
    exact ⟨reader, _, _, _, hreader, (Reader.moves_signalSpaceAvailable hsignal).2, rfl⟩
  transparent hoverlay _ hstep := hoverlay.signalSpace hstep
  keeps hinv hstep := hinv.signalSpace hstep

/-- A return sees no read index. -/
theorem ReturnPhase.access_storeReadIndex {sizeClass offset : ℕ} {shared shared' : SharedData}
    {phase : ReturnPhase} {progress : ReturnProgress}
    (haccess : phase.access sizeClass offset shared = (progress, shared')) (slot index : ℕ) :
    phase.access sizeClass offset (shared.storeReadIndex slot index) =
      (progress, shared'.storeReadIndex slot index) := by
  cases phase with
  | ready =>
      unfold access at haccess ⊢
      dsimp only at haccess ⊢
      split at haccess
      next hunused =>
        cases haccess
        exact if_pos hunused
      next hused =>
        cases haccess
        exact if_neg hused
  | _ => cases haccess; rfl

/-- The subscriber of a slot makes its next access to the free list. -/
theorem SplitState.returnAccess_cases {state next : SplitState} {slot : ℕ}
    (hstep : state.returnAccess slot = some next) :
    ∃ reader descriptor sizeClass shared, state.readers slot = some reader ∧
      reader.phase = .indexStored descriptor sizeClass ∧
      ((∃ phase, (state.returnPhases slot).access sizeClass descriptor.offset state.shared =
          (.goesOn phase, shared) ∧
        next = { state with
          shared
          returnPhases := Function.update state.returnPhases slot phase }) ∨
      (state.returnPhases slot).access sizeClass descriptor.offset state.shared =
          (.doubleFree, shared) ∨
      (state.returnPhases slot).access sizeClass descriptor.offset state.shared =
          (.returned, shared) ∧
        next = { state with
          toState := State.setReader { state.toState with shared } slot
            { reader with phase := .chunkAppended }
          returnPhases := Function.update state.returnPhases slot .ready
          returned := recordChunk state.returned sizeClass descriptor.offset }) := by
  unfold returnAccess at hstep
  split at hstep
  next => cases hstep
  next reader hreader =>
    split at hstep
    next descriptor sizeClass hphase =>
      refine ⟨reader, descriptor, sizeClass, ((state.returnPhases slot).access sizeClass
        descriptor.offset state.shared).2, hreader, hphase, ?_⟩
      split at hstep
      next phase shared haccess =>
        cases hstep
        exact .inl ⟨phase, by rw [haccess], by rw [haccess]⟩
      next shared haccess => exact .inr (.inl (by rw [haccess]))
      next shared haccess =>
        cases hstep
        exact .inr (.inr ⟨by rw [haccess], by rw [haccess]⟩)
    next => cases hstep

/-! ## The invariant of a reap -/

/-- The publisher is reaping the subscriber that was killed as `victim` and has the
descriptors `indices` still to release; `standIn` takes the victim's place. -/
structure Reaps (state : SplitState) (slotIndex : ℕ) (victim : Reader) (indices : List ℕ)
    (standIn : Reader) (phase : ReturnPhase) (pool : Pool state.published) : Prop where
  split : SplitInvariant ((standingIn slotIndex standIn).apply state.toState)
    (Function.update state.returnPhases slotIndex phase) .idle state.popped state.returned pool
  gone : state.readers slotIndex = none
  ready : state.returnPhases slotIndex = .ready
  slot_eq : victim.slotIndex = slotIndex
  length_le : indices.length ≤ state.published.length
  window : indices.length < kDescriptorSlotCount
  indices_eq : indices =
    (List.range' (state.published.length - indices.length) indices.length).map
      (· % kDescriptorSlotCount)
  heldFrom_le : victim.heldFrom ≤ state.published.length - indices.length + 1
  heldFrom_le_length : victim.heldFrom ≤ state.published.length
  messages : ∃ stop ≤ state.published.length,
    victim.messages = victim.delivered state.published stop
  skipped : state.published.length - indices.length < victim.heldFrom →
    ∀ {message index},
      state.published[state.published.length - indices.length]? = some message →
      pool.owner message.descriptor.offset = .message index →
      index ≤ state.published.length - indices.length

namespace SplitState

/-- What explains a state between two accesses. -/
inductive Explained (state : SplitState) : Prop
  | idle {pool : Pool state.published} (hphase : state.publisherPhase = .idle)
      (hinv : SplitInvariant state.toState state.returnPhases .idle state.popped state.returned
        pool)
  | publishing {payload : List Byte} {sizeClass : ℕ} {phase : PublishPhase}
      {pool : Pool state.published}
      (hphase : state.publisherPhase = .publishing payload sizeClass phase)
      (hinv : SplitInvariant state.toState state.returnPhases
        (.publishing payload sizeClass phase) state.popped state.returned pool)
  | reaping {slotIndex : ℕ} {victim standIn : Reader} {indices : List ℕ}
      {pool : Pool state.published}
      (hphase : state.publisherPhase = .reaping slotIndex victim indices)
      (hstandIn : standIn = victim.resumed state.published
        (max (state.published.length - indices.length) victim.heldFrom) .idle)
      (hreaps : Reaps state slotIndex victim indices standIn .ready pool)
  | releasing {slotIndex : ℕ} {victim standIn : Reader} {indices : List ℕ}
      {descriptor : MessageDescriptor} {sizeClass : ℕ} {phase : ReturnPhase}
      {pool : Pool state.published}
      (hphase : state.publisherPhase =
        .releasing slotIndex victim indices descriptor sizeClass phase)
      (hstandIn : standIn = victim.resumed state.published
        (state.published.length - indices.length) (.indexStored descriptor sizeClass))
      (hpast : victim.heldFrom ≤ state.published.length - indices.length)
      (hreaps : Reaps state slotIndex victim indices standIn phase pool)

end SplitState

namespace Reaps

variable {state next : SplitState} {slotIndex : ℕ} {victim standIn : Reader}
variable {indices : List ℕ} {phase : ReturnPhase} {pool : Pool state.published}

/-- Subscribers go on while the publisher reaps another one. -/
theorem goOn (hreaps : Reaps state slotIndex victim indices standIn phase pool)
    (hlog : next.published = state.published) (hgone : next.readers slotIndex = none)
    (hready : next.returnPhases slotIndex = .ready)
    (hkept : SplitPreserved ((standingIn slotIndex standIn).apply next.toState)
      (Function.update next.returnPhases slotIndex phase) .idle next.popped next.returned pool) :
    ∃ pool', Reaps next slotIndex victim indices standIn phase pool' := by
  obtain ⟨pool', hsplit, howner⟩ := hkept
  refine ⟨pool', hsplit, hgone, hready, hreaps.slot_eq, ?_, hreaps.window, ?_, ?_, ?_, ?_, ?_⟩
  · exact hlog ▸ hreaps.length_le
  · rw [hlog]
    exact hreaps.indices_eq
  · exact hlog ▸ hreaps.heldFrom_le
  · exact hlog ▸ hreaps.heldFrom_le_length
  · exact hlog ▸ hreaps.messages
  · intro hbefore message index hmessage hmine
    rw [hlog] at hbefore hmessage ⊢
    exact hreaps.skipped hbefore hmessage (howner hmine)

/-- Only other slots have subscribers. -/
theorem ne_of_reader (hreaps : Reaps state slotIndex victim indices standIn phase pool)
    {slot : ℕ} {reader : Reader} (hreader : state.readers slot = some reader) :
    slot ≠ slotIndex := by
  rintro rfl
  rw [hreaps.gone] at hreader
  cases hreader

theorem standingIn_reader (hreaps : Reaps state slotIndex victim indices standIn phase pool)
    {slot : ℕ} {reader : Reader} (hreader : state.readers slot = some reader) :
    ((standingIn slotIndex standIn).apply state.toState).readers slot = some reader :=
  (Function.update_of_ne (hreaps.ne_of_reader hreader) ..).trans hreader

theorem subscriberStep (hreaps : Reaps state slotIndex victim indices standIn phase pool)
    {slot : ℕ} {step : State → Option (Outcome × State)} (hop : SubscriberStep slot step)
    {outcome : Outcome} {moved : State} (hstep : step state.toState = some (outcome, moved)) :
    ∃ pool', Reaps { state with toState := moved } slotIndex victim indices standIn phase
      pool' := by
  obtain ⟨reader, reader', shared, spaceAvailable, hreader, -, rfl⟩ := hop.moves hstep
  have hne := hreaps.ne_of_reader hreader
  have hslot : ∀ other, state.readers slot = some other → other.slotIndex = slot :=
    fun _ hother => hreaps.split.slotIndex_eq (hreaps.standingIn_reader hother)
  have hkept := hop.keeps hreaps.split
    (hop.transparent (standingIn_transparent hne standIn) hslot hstep)
  exact hreaps.goOn rfl ((Function.update_of_ne hne.symm ..).trans hreaps.gone) hreaps.ready hkept

theorem returnAccess (hreaps : Reaps state slotIndex victim indices standIn phase pool) {slot : ℕ}
    (hstep : state.returnAccess slot = some next) :
    next.publisherPhase = state.publisherPhase ∧ next.published = state.published ∧
      ∃ pool', Reaps next slotIndex victim indices standIn phase pool' := by
  obtain ⟨reader, descriptor, sizeClass, shared, hreader, hphase, hcases⟩ :=
    SplitState.returnAccess_cases hstep
  have hne := hreaps.ne_of_reader hreader
  have hview := hreaps.standingIn_reader hreader
  have hreturnPhase : Function.update state.returnPhases slotIndex phase slot =
      state.returnPhases slot := Function.update_of_ne hne ..
  obtain ⟨readerPhase, haccess, rfl⟩ | haccess | ⟨haccess, rfl⟩ := hcases
  · rw [← hreturnPhase] at haccess
    have hkept := hreaps.split.access_goesOn hview hphase
      (ReturnPhase.access_storeReadIndex haccess slotIndex _)
    rw [Function.update_comm hne.symm] at hkept
    exact ⟨rfl, rfl, hreaps.goOn rfl hreaps.gone
      ((Function.update_of_ne hne.symm ..).trans hreaps.ready) hkept⟩
  · rw [← hreturnPhase] at haccess
    exact absurd (ReturnPhase.access_storeReadIndex haccess slotIndex _)
      (hreaps.split.access_ne_doubleFree hview hphase)
  · rw [← hreturnPhase] at haccess
    have hkept := hreaps.split.access_returned hview hphase
      (ReturnPhase.access_storeReadIndex haccess slotIndex _)
    rw [Function.update_comm hne.symm] at hkept
    refine ⟨rfl, rfl, hreaps.goOn rfl ((Function.update_of_ne hne.symm ..).trans hreaps.gone)
      ((Function.update_of_ne hne.symm ..).trans hreaps.ready) ?_⟩
    have hreaders := (standingIn_transparent hne standIn).update state.readers
      { reader with phase := .chunkAppended }
    unfold Overlay.apply
    dsimp only [State.setReader]
    rw [hreaders]
    exact hkept

theorem standIn_reader :
    ((standingIn slotIndex standIn).apply state.toState).readers slotIndex = some standIn :=
  Function.update_self ..

theorem slot_lt (hreaps : Reaps state slotIndex victim indices standIn phase pool) :
    slotIndex < 32 := by
  have hlt := (hreaps.split.explained_readerInvariant standIn_reader).slot_lt
  simp only [kMaxSubscribers] at hlt
  omega

theorem referenceBit_self (hreaps : Reaps state slotIndex victim indices standIn phase pool) :
    (subscriberReferenceBit slotIndex).getLsbD slotIndex = true := by
  simp [HolderMask.getLsbD_bit slotIndex slotIndex hreaps.slot_lt]

/-- The next descriptor that a reap looks at is that of a message. -/
theorem next_message
    (hreaps : Reaps state slotIndex victim (index :: indices) standIn phase pool) :
    ∃ message sizeClass,
      state.published[state.published.length - (indices.length + 1)]? = some message ∧
        state.shared.descRing index = message.descriptor ∧
        findSizeClass message.descriptor.len = some sizeClass ∧
        IsChunk sizeClass message.descriptor.offset := by
  have hlength := hreaps.length_le
  have hwindow := hreaps.window
  have hindices := hreaps.indices_eq
  rw [List.length_cons] at hlength hwindow hindices
  rw [List.range'_succ, List.map_cons, List.cons.injEq] at hindices
  have hlt : state.published.length - (indices.length + 1) < state.published.length := by omega
  have hmessage := List.getElem?_eq_getElem hlt
  obtain ⟨-, sizeClass, hclass, hchunk⟩ := pool.wellFormed _ (List.mem_of_getElem? hmessage)
  refine ⟨_, sizeClass, hmessage, ?_, hclass, hchunk⟩
  rw [hindices.1]
  exact hreaps.split.explained.ring.recent hmessage (by
    change state.published.length < _
    omega)

/-- The reap goes on with its next descriptor. -/
theorem advance (hreaps : Reaps state slotIndex victim (index :: indices) standIn phase pool)
    {next : SplitState} {standIn' : Reader} {phase' : ReturnPhase} {pool' : Pool next.published}
    (hlog : next.published = state.published) (hgone : next.readers slotIndex = none)
    (hready : next.returnPhases slotIndex = .ready)
    (hpast : victim.heldFrom ≤ state.published.length - indices.length)
    (hsplit : SplitInvariant ((standingIn slotIndex standIn').apply next.toState)
      (Function.update next.returnPhases slotIndex phase') .idle next.popped next.returned pool') :
    Reaps next slotIndex victim indices standIn' phase' pool' := by
  have hlength := hreaps.length_le
  have hwindow := hreaps.window
  have hindices := hreaps.indices_eq
  rw [List.length_cons] at hlength hwindow hindices
  rw [List.range'_succ, List.map_cons, List.cons.injEq] at hindices
  refine ⟨hsplit, hgone, hready, hreaps.slot_eq, ?_, ?_, ?_, ?_, ?_, ?_, ?_⟩
  · rw [hlog]
    omega
  · omega
  · rw [hlog, hindices.2, List.length_map, List.length_range']
    congr 2
    omega
  · rw [hlog]
    exact hpast.trans (Nat.le_succ _)
  · exact hlog ▸ hreaps.heldFrom_le_length
  · exact hlog ▸ hreaps.messages
  · intro hbefore
    rw [hlog] at hbefore
    exact absurd hpast hbefore.not_ge

/-- The reference to a message that the victim has given up before is gone. -/
theorem not_holder (hreaps : Reaps state slotIndex victim (index :: indices) standIn .ready pool)
    (hstandIn : standIn = victim.resumed state.published
      (max (state.published.length - (indices.length + 1)) victim.heldFrom) .idle)
    (hskip : state.published.length - (indices.length + 1) < victim.heldFrom)
    {message : Message} {sizeClass : ℕ}
    (hmessage : state.published[state.published.length - (indices.length + 1)]? = some message)
    (hchunk : IsChunk sizeClass message.descriptor.offset) :
    (state.shared.chunkReferenceCounts (chunkIndex sizeClass message.descriptor.offset)).getLsbD
      slotIndex = false := by
  have hview : ((explaining (Function.update state.returnPhases slotIndex .ready) .idle).apply
      ((standingIn slotIndex standIn).apply state.toState)).readers slotIndex = some standIn := by
    rw [SplitInvariant.explained_reader standIn_reader, Function.update_self]
    rfl
  rw [← Bool.not_eq_true]
  intro hholder
  obtain ⟨held, howner, hholds⟩ :=
    (hreaps.split.explained.represents.mask hchunk hreaps.slot_lt).mp hholder
  have hle := hreaps.skipped hskip hmessage howner
  have hheld := ((hreaps.split.explained.holds_own_iff hview).mp hholds).1
  rw [hstandIn] at hheld
  simp only [Reader.heldFrom, Reader.resumed] at hheld
  rw [List.length_cons] at hle
  change max (state.published.length - (indices.length + 1)) victim.heldFrom ≤ held at hheld
  omega

end Reaps

/-! ## One access -/

namespace SplitState

variable {state next : SplitState}

/-- A step of a subscriber, its append aside. -/
theorem Explained.subscriberStep (hexplained : state.Explained) {slot : ℕ}
    {step : State → Option (Outcome × State)} (hop : SubscriberStep slot step)
    (hstep : state.lift (step state.toState) = some next) : next.Explained := by
  obtain ⟨⟨outcome, moved⟩, hmoved, rfl⟩ := Option.map_eq_some_iff.mp hstep
  have hlog : moved.published = state.published := by
    obtain ⟨_, _, _, _, -, -, rfl⟩ := hop.moves hmoved
    rfl
  cases hexplained with
  | idle hphase hinv =>
      obtain ⟨pool', hinv', -⟩ := hop.keeps hinv hmoved
      exact .idle hphase hinv'
  | publishing hphase hinv =>
      obtain ⟨pool', hinv', -⟩ := hop.keeps hinv hmoved
      exact .publishing hphase hinv'
  | reaping hphase hstandIn hreaps =>
      obtain ⟨pool', hreaps'⟩ := hreaps.subscriberStep hop hmoved
      exact .reaping hphase (by rw [hstandIn, hlog]) hreaps'
  | releasing hphase hstandIn hpast hreaps =>
      obtain ⟨pool', hreaps'⟩ := hreaps.subscriberStep hop hmoved
      exact .releasing hphase (by rw [hstandIn, hlog]) (by rw [hlog]; exact hpast) hreaps'

/-- An access of a subscriber to a free list. -/
theorem Explained.returnAccess (hexplained : state.Explained) {slot : ℕ}
    (hstep : state.returnAccess slot = some next) : next.Explained := by
  have hsplit : ∀ {publisherPhase} {pool : Pool state.published},
      state.publisherPhase = publisherPhase →
      SplitInvariant state.toState state.returnPhases publisherPhase state.popped
        state.returned pool →
      next.publisherPhase = publisherPhase ∧ ∃ pool' : Pool next.published,
        SplitInvariant next.toState next.returnPhases publisherPhase next.popped next.returned
          pool' := by
    intro publisherPhase pool hpublisher hinv
    obtain ⟨reader, descriptor, sizeClass, shared, hreader, hphase, hcases⟩ :=
      returnAccess_cases hstep
    obtain ⟨phase, haccess, rfl⟩ | haccess | ⟨haccess, rfl⟩ := hcases
    · obtain ⟨pool', hinv', -⟩ := hinv.access_goesOn hreader hphase haccess
      exact ⟨hpublisher, pool', hinv'⟩
    · exact absurd haccess (hinv.access_ne_doubleFree hreader hphase)
    · obtain ⟨pool', hinv', -⟩ := hinv.access_returned hreader hphase haccess
      exact ⟨hpublisher, pool', hinv'⟩
  cases hexplained with
  | idle hphase hinv =>
      obtain ⟨hphase', pool', hinv'⟩ := hsplit hphase hinv
      exact .idle hphase' hinv'
  | publishing hphase hinv =>
      obtain ⟨hphase', pool', hinv'⟩ := hsplit hphase hinv
      exact .publishing hphase' hinv'
  | reaping hphase hstandIn hreaps =>
      obtain ⟨hsame, hlog, pool', hreaps'⟩ := hreaps.returnAccess hstep
      exact .reaping (hsame.trans hphase) (by rw [hstandIn, hlog]) hreaps'
  | releasing hphase hstandIn hpast hreaps =>
      obtain ⟨hsame, hlog, pool', hreaps'⟩ := hreaps.returnAccess hstep
      exact .releasing (hsame.trans hphase) (by rw [hstandIn, hlog]) (by rw [hlog]; exact hpast)
        hreaps'

/-- Between two calls of the publisher the invariant holds as it is. -/
theorem Explained.of_idle (hexplained : state.Explained) (hidle : state.publisherPhase = .idle) :
    ∃ pool : Pool state.published, SplitInvariant state.toState state.returnPhases .idle
      state.popped state.returned pool := by
  cases hexplained with
  | idle _ hinv => exact ⟨_, hinv⟩
  | publishing hphase => cases hidle.symm.trans hphase
  | reaping hphase => cases hidle.symm.trans hphase
  | releasing hphase => cases hidle.symm.trans hphase

/-- The victim is killed and its place is taken. -/
theorem Explained.beginReap (hexplained : state.Explained) {slot : ℕ}
    (hstep : state.beginReap slot = some next) : next.Explained := by
  unfold SplitState.beginReap at hstep
  split at hstep
  next victim hidle hreader =>
    obtain ⟨pool, hinv⟩ := hexplained.of_idle hidle
    obtain ⟨hvalid, hle, hwindow, hindices⟩ := hinv.unread hreader
    dsimp only at hstep
    rw [if_neg hvalid, hindices] at hstep
    cases hstep
    have hlength : ((List.range' victim.cursor (state.published.length - victim.cursor)).map
        (· % kDescriptorSlotCount)).length = state.published.length - victim.cursor := by
      rw [List.length_map, List.length_range']
    have hback : state.published.length - (state.published.length - victim.cursor) =
        victim.cursor := by
      omega
    have hheld : victim.heldFrom ≤ victim.cursor + 1 := by
      unfold Reader.heldFrom
      split <;> omega
    obtain ⟨pool', htaken, hmine⟩ := hinv.takeOver hreader
    refine @Explained.reaping _ slot victim _ _ pool' rfl rfl ?_
    rw [hlength, hback, max_eq_right Reader.cursor_le_heldFrom]
    constructor
    case split =>
      rw [Function.update_idem]
      exact htaken
    case gone => exact Function.update_self ..
    case ready => exact Function.update_self ..
    case slot_eq => exact hinv.slotIndex_eq hreader
    case heldFrom_le_length => exact hinv.heldFrom_le_length hreader
    case messages =>
      have hrinv := hinv.explained_readerInvariant hreader
      refine ⟨_, hrinv.next_le, ?_⟩
      simpa [Reader.delivered] using hrinv.messages_eq
    case skipped =>
      rw [hlength, hback]
      intro hbefore message index hmessage howner
      -- The victim has cleared its reference and not stored its read index.
      obtain ⟨descriptor, sizeClass, lastHolder, hphase⟩ : ∃ descriptor sizeClass lastHolder,
          victim.phase = .bitCleared descriptor sizeClass lastHolder := by
        unfold Reader.heldFrom at hbefore
        split at hbefore
        next hphase => exact ⟨_, _, _, hphase⟩
        next => exact absurd hbefore (lt_irrefl _)
      have hsettled := hinv.settled hreader hphase
      obtain ⟨settled, hsame, rfl⟩ := hsettled.message
      obtain rfl := Option.some.inj (hmessage.symm.trans hsame)
      exact hsettled.owner_le (hmine howner)
    case length_le => exact hlength.trans_le (Nat.sub_le ..)
    case window =>
      rw [hlength]
      omega
    case indices_eq => rw [hlength, hback]
    case heldFrom_le =>
      rw [hlength, hback]
      exact hheld
  next => cases hstep

/-- The reap looks at its next descriptor. -/
theorem reapDescriptor {slotIndex index : ℕ} {victim standIn : Reader} {indices : List ℕ}
    {pool : Pool state.published}
    (hphase : state.publisherPhase = .reaping slotIndex victim (index :: indices))
    (hstandIn : standIn = victim.resumed state.published
      (max (state.published.length - (indices.length + 1)) victim.heldFrom) .idle)
    (hreaps : Reaps state slotIndex victim (index :: indices) standIn .ready pool)
    (hstep : state.reapAccess = some next) : next.Explained := by
  obtain ⟨message, sizeClass, hmessage, hdescriptor, hclass, hchunk⟩ := hreaps.next_message
  have hlength := hreaps.length_le
  rw [List.length_cons] at hlength
  have hback : state.published.length - (indices.length + 1) + 1 =
      state.published.length - indices.length := by
    omega
  simp only [reapAccess, hphase, Option.some.injEq, hdescriptor, hclass, Option.getD_some] at hstep
  subst hstep
  by_cases hskip : state.published.length - (indices.length + 1) < victim.heldFrom
  · -- The victim has cleared this reference itself.
    have habsent := hreaps.not_holder hstandIn hskip hmessage hchunk
    have hheld := hreaps.heldFrom_le
    rw [List.length_cons] at hheld
    rw [if_neg (fun heq => by simp [heq, hreaps.referenceBit_self] at habsent),
      SharedData.clearReference_of_not_holder habsent]
    refine @Explained.reaping _ slotIndex victim _ indices pool rfl rfl ?_
    have hsame : max (state.published.length - indices.length) victim.heldFrom =
        max (state.published.length - (indices.length + 1)) victim.heldFrom := by
      omega
    rw [hsame, ← hstandIn]
    exact hreaps.advance rfl hreaps.gone hreaps.ready (by omega) hreaps.split
  · have hpast : victim.heldFrom ≤ state.published.length - (indices.length + 1) := not_lt.mp hskip
    have hpast' : victim.heldFrom ≤ state.published.length - indices.length := by omega
    rw [max_eq_left hpast] at hstandIn
    subst hstandIn
    have hconsumed := hreaps.split.consumeMessage (Function.update_self ..) hreaps.slot_eq hmessage
      hchunk rfl
    rw [hback] at hconsumed
    by_cases hlast : state.shared.chunkReferenceCounts
        (chunkIndex sizeClass message.descriptor.offset) = subscriberReferenceBit slotIndex
    · rw [decide_eq_true hlast, if_pos rfl] at hconsumed
      rw [if_pos hlast]
      obtain ⟨pool', hsplit, -⟩ := hconsumed
      exact @Explained.releasing _ slotIndex victim _ indices _ sizeClass _ pool' rfl rfl hpast'
        (hreaps.advance rfl hreaps.gone hreaps.ready hpast' hsplit)
    · rw [decide_eq_false hlast, if_neg Bool.false_ne_true] at hconsumed
      rw [if_neg hlast]
      obtain ⟨pool', hsplit, -⟩ := hconsumed
      exact @Explained.reaping _ slotIndex victim _ indices pool' rfl
        (by rw [max_eq_left hpast'])
        (hreaps.advance rfl hreaps.gone hreaps.ready hpast' hsplit)

/-- The reap makes its next access to a free list. -/
theorem reapReturn {slotIndex sizeClass : ℕ} {victim standIn : Reader} {indices : List ℕ}
    {descriptor : MessageDescriptor} {phase : ReturnPhase} {pool : Pool state.published}
    (hphase : state.publisherPhase =
      .releasing slotIndex victim indices descriptor sizeClass phase)
    (hstandIn : standIn = victim.resumed state.published
      (state.published.length - indices.length) (.indexStored descriptor sizeClass))
    (hpast : victim.heldFrom ≤ state.published.length - indices.length)
    (hreaps : Reaps state slotIndex victim indices standIn phase pool)
    (hstep : state.reapAccess = some next) : next.Explained := by
  have hview : ((standingIn slotIndex standIn).apply state.toState).readers slotIndex =
      some standIn := Reaps.standIn_reader
  have hreturning : standIn.phase = .indexStored descriptor sizeClass := by rw [hstandIn]; rfl
  have hself : Function.update state.returnPhases slotIndex phase slotIndex = phase :=
    Function.update_self ..
  simp only [reapAccess, hphase] at hstep
  split at hstep
  next phase' shared haccess =>
    cases hstep
    have hkept := hreaps.split.access_goesOn hview hreturning
      (by rw [hself]; exact ReturnPhase.access_storeReadIndex haccess slotIndex _)
    rw [Function.update_idem] at hkept
    obtain ⟨pool', hsplit, hmine⟩ := hkept
    exact @Explained.releasing _ slotIndex victim standIn indices descriptor sizeClass phase' pool'
      rfl hstandIn hpast
      { hreaps with
        split := hsplit
        skipped := fun hbefore => absurd hpast hbefore.not_ge }
  next shared haccess =>
    exact absurd (by rw [hself]; exact ReturnPhase.access_storeReadIndex haccess slotIndex _)
      (hreaps.split.access_ne_doubleFree hview hreturning)
  next shared haccess =>
    cases hstep
    have hkept := hreaps.split.access_returned hview hreturning
      (by rw [hself]; exact ReturnPhase.access_storeReadIndex haccess slotIndex _)
    rw [Function.update_idem] at hkept
    have hsame : State.setReader { (standingIn slotIndex standIn).apply state.toState with
          shared := shared.storeReadIndex slotIndex (standIn.cursor % kDescriptorSlotCount) }
          slotIndex { standIn with phase := .chunkAppended } =
        (standingIn slotIndex (victim.resumed state.published
          (state.published.length - indices.length) .chunkAppended)).apply
          { state.toState with shared } := by
      rw [hstandIn]
      simp only [Overlay.apply, standingIn, State.setReader, Function.update_idem]
      rfl
    rw [hsame] at hkept
    obtain ⟨pool₁, hreturned, -⟩ := hkept
    obtain ⟨pool₂, hsplit, -⟩ := hreturned.appended
    exact @Explained.reaping _ slotIndex victim _ indices pool₂ rfl
      (by rw [max_eq_left hpast])
      { hreaps with
        split := hsplit
        skipped := fun hbefore => absurd hpast hbefore.not_ge }

/-- Every access of a reap. -/
theorem Explained.reapAccess (hexplained : state.Explained)
    (hstep : state.reapAccess = some next) : next.Explained := by
  cases hexplained with
  | idle hphase hinv => simp [SplitState.reapAccess, hphase] at hstep
  | publishing hphase hinv => simp [SplitState.reapAccess, hphase] at hstep
  | @reaping slotIndex victim standIn indices pool hphase hstandIn hreaps =>
      cases indices with
      | nil =>
          have hlast : max (state.published.length - ([] : List ℕ).length) victim.heldFrom =
              state.published.length := max_eq_left hreaps.heldFrom_le_length
          have hsplit := hreaps.split
          rw [hstandIn, hlast, ← hreaps.ready, Function.update_eq_self] at hsplit
          simp only [SplitState.reapAccess, hphase, Option.some.injEq] at hstep
          subst hstep
          exact .idle rfl (hsplit.leave hreaps.gone hreaps.messages)
      | cons index indices => exact reapDescriptor hphase hstandIn hreaps hstep
  | releasing hphase hstandIn hpast hreaps => exact reapReturn hphase hstandIn hpast hreaps hstep

/-- Between two calls of the publisher a subscriber may join. -/
theorem Explained.track (hexplained : state.Explained) {eventFd slot : ℕ}
    (hidle : state.publisherPhase = .idle)
    (hstep : state.lift (state.toState.track eventFd slot) = some next) : next.Explained := by
  obtain ⟨⟨outcome, moved⟩, hmoved, rfl⟩ := Option.map_eq_some_iff.mp hstep
  obtain ⟨pool, hinv⟩ := hexplained.of_idle hidle
  obtain ⟨pool', hinv'⟩ := hinv.track hmoved
  exact .idle hidle hinv'

theorem Explained.beginPublish (hexplained : state.Explained) {payload : List Byte}
    (hstep : state.beginPublish payload = some next) : next.Explained := by
  unfold SplitState.beginPublish at hstep
  split at hstep
  next hidle =>
    split at hstep
    next => cases hstep; exact hexplained
    next =>
      split at hstep
      next => cases hstep; exact hexplained
      next sizeClass hclass =>
        split at hstep
        next => cases hstep; exact hexplained
        next hadmitted =>
          cases hstep
          obtain ⟨pool, hinv⟩ := hexplained.of_idle hidle
          exact .publishing rfl (hinv.beginPublish hclass hadmitted)
  next => cases hstep

/-- Every access of a publish. -/
theorem Explained.publishAccess (hexplained : state.Explained)
    (hstep : state.publishAccess = some next) : next.Explained := by
  cases hexplained with
  | idle hphase => simp [SplitState.publishAccess, hphase] at hstep
  | reaping hphase => simp [SplitState.publishAccess, hphase] at hstep
  | releasing hphase => simp [SplitState.publishAccess, hphase] at hstep
  | @publishing payload sizeClass phase pool hphase hinv =>
      simp only [SplitState.publishAccess, hphase, Option.some.injEq] at hstep
      cases phase with
      | admitted =>
          subst hstep
          exact .publishing rfl (hinv.toPhase rfl rfl)
      | headLoaded headOff =>
          dsimp only at hstep
          split at hstep
          next => subst hstep; exact .idle rfl (hinv.giveUp rfl)
          next hne =>
            split at hstep
            next => subst hstep; exact .idle rfl (hinv.giveUp rfl)
            next =>
              subst hstep
              exact .publishing rfl (hinv.toPhase rfl ⟨(hinv.publishes rfl).consistent, hne⟩)
      | tailCompared headOff =>
          dsimp only at hstep
          split at hstep
          next => subst hstep; exact .idle rfl (hinv.giveUp rfl)
          next hunused =>
            subst hstep
            exact .publishing rfl (hinv.markHead (Bool.not_eq_true _ ▸ hunused))
      | marked headOff =>
          subst hstep
          obtain ⟨hhead, hne, hmarked⟩ := (hinv.publishes rfl).consistent
          exact .publishing rfl (hinv.toPhase rfl ⟨hhead, hne, hmarked, rfl⟩)
      | linkRead headOff nextHeadOff =>
          subst hstep
          obtain ⟨pool', hinv'⟩ := hinv.storeHead
          exact .publishing rfl hinv'
      | headStored headOff =>
          subst hstep
          exact .publishing rfl hinv.writeMessage
      | written headOff =>
          subst hstep
          obtain ⟨mask, eventFds, message, hmask, hsignal, rfl, pool', hinv'⟩ :=
            hinv.publishWritten
          unfold SplitState.publishWritten
          dsimp only
          rw [hmask]
          dsimp only
          rw [hsignal]
          exact .idle rfl hinv'

/-- Every access leads from an explained state to an explained one. -/
theorem Explained.step (hexplained : state.Explained) {action : SplitAction}
    (hstep : state.step action = some next) : next.Explained := by
  cases action with
  | fetchDescriptors slot =>
      exact hexplained.subscriberStep (fetchDescriptors_subscriberStep slot) hstep
  | readPayload slot => exact hexplained.subscriberStep (readPayload_subscriberStep slot) hstep
  | clearReference slot =>
      exact hexplained.subscriberStep (clearReference_subscriberStep slot) hstep
  | storeReadIndex slot =>
      exact hexplained.subscriberStep (storeReadIndex_subscriberStep slot) hstep
  | returnAccess slot => exact hexplained.returnAccess hstep
  | signalSpace slot => exact hexplained.subscriberStep (signalSpace_subscriberStep slot) hstep
  | track eventFd slot =>
      unfold SplitState.step at hstep
      dsimp only at hstep
      split at hstep
      next hidle => exact hexplained.track hidle hstep
      next => cases hstep
  | beginPublish payload => exact hexplained.beginPublish hstep
  | publishAccess => exact hexplained.publishAccess hstep
  | beginReap slot => exact hexplained.beginReap hstep
  | reapAccess => exact hexplained.reapAccess hstep

end SplitState

/-! ## Runs -/

/-- A created publisher has no subscribers. -/
theorem SplitInvariant.created (mapped : SharedData) :
    SplitInvariant (State.created mapped) (fun _ => .ready) .idle (fun _ => []) (fun _ => [])
      Pool.initial where
  explained := (Invariant.created mapped).of_eq rfl (by funext; rfl)
  ahead := by simp [State.created]
  alone := by simp [State.created]
  settled := by simp [State.created]
  inReturn := by simp
  publishes := by simp
  account := by
    intro sizeClass hclass
    simp [Pool.initial, hclass]

/-- The run lemma: every state between two accesses is explained. -/
theorem explained_of_reachable {mapped : SharedData} {state : SplitState}
    (hreach : (splitPlane mapped).Reachable state) : state.Explained :=
  hreach.invariant SplitState.Explained (.idle rfl (.created mapped))
    fun _ _ _ hexplained _ hstep => hexplained.step hstep

end DriveBus.SharedMemory
