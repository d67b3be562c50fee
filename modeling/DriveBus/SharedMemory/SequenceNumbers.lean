import DriveBus.SharedMemory.Delivery
import DriveBus.SharedMemory.SpaceSignal

/-!
# Sequence numbers

The publisher numbers its messages with the `int` member `seq_`, and a subscriber
counts along in `expected_seq`, where `-1` says that no message has been read yet.
Both are integers here, so a value outside the range of `int` is visible as such:
the increment that produces it overflows in the source.  The counters are sound as
long as fewer than 2^31 messages have been published, and a run of 2^31 messages
exists.
-/

namespace DriveBus.SharedMemory

open DriveBus.ByteMemory DriveBus.Transition

/-- The values of a 32-bit `int`. -/
def IsInt (value : ℤ) : Prop := -2 ^ 31 ≤ value ∧ value < 2 ^ 31

/-- The number in the header of the message that a descriptor points to. -/
def SharedData.messageSeq (shared : SharedData) (descriptor : MessageDescriptor) : ℤ :=
  wordInt (loadWord shared.data (descriptor.offset + wordSize))

/-- What the two counters are for: they stay in the range of `int`, every message
is accepted and stored under its own number, and a subscriber that has read a
message accepts no other number than the next one, whatever the mapping holds. -/
structure State.CountsSoundly (state : State) : Prop where
  seq_isInt : IsInt state.publisher.seq
  expected_isInt : ∀ {slot reader}, state.readers slot = some reader →
    IsInt reader.expectedSeq
  accepts : ∀ {slot outcome state'},
    state.step (.readPayload slot) = some (outcome, state') →
      ∃ payload, outcome = .readPayload (.ok payload)
  numbered : ∀ {slot reader index message}, state.readers slot = some reader →
    reader.heldFrom ≤ index → state.published[index]? = some message →
      state.shared.messageSeq message.descriptor = index
  reports : ∀ {slot reader}, state.readers slot = some reader →
    reader.joinedAt < reader.next → ∀ (shared : SharedData) (descriptor : MessageDescriptor),
      shared.messageSeq descriptor ≠ (reader.next : ℤ) →
        ∃ fault stopped, reader.readPayload shared descriptor = (.error fault, stopped)

/-- Once a number is expected, every other one is refused. -/
theorem Reader.readPayload_refuses {reader : Reader} {shared : SharedData}
    {descriptor : MessageDescriptor} (hset : reader.expectedSeq ≠ -1)
    (hother : shared.messageSeq descriptor ≠ reader.expectedSeq) :
    ∃ fault stopped, reader.readPayload shared descriptor = (.error fault, stopped) := by
  unfold SharedData.messageSeq at hother
  unfold Reader.readPayload
  dsimp only
  rw [if_neg hset]
  split
  · exact ⟨_, _, rfl⟩
  · repeat' split
    all_goals exact ⟨_, _, rfl⟩

/-- A copied payload leaves the reader inside the iteration of its descriptor. -/
theorem Reader.readPayload_started {reader started : Reader} {shared : SharedData}
    {descriptor : MessageDescriptor} {payload : List Byte}
    (hread : reader.readPayload shared descriptor = (.ok payload, started)) :
    ∃ sizeClass, started.phase = .payloadRead descriptor sizeClass ∧
      started.descRing = reader.descRing ∧ started.cursor = reader.cursor := by
  unfold Reader.readPayload at hread
  dsimp only at hread
  repeat' split at hread
  all_goals cases hread
  all_goals exact ⟨_, rfl, rfl, rfl⟩

namespace Invariant

variable {state : State} {pool : Pool state.published}

theorem messageSeq_eq (hinv : Invariant state pool)
    (hbound : state.published.length < 2 ^ 31) {slot : ℕ} {reader : Reader}
    (hreader : state.readers slot = some reader) {index : ℕ} {message : Message}
    (hheld : reader.heldFrom ≤ index) (hmessage : state.published[index]? = some message) :
    state.shared.messageSeq message.descriptor = index := by
  have hlt := (List.getElem?_eq_some_iff.mp hmessage).1
  have hcontent := hinv.represents.content hmessage
    ((hinv.holds_own_iff hreader).mpr ⟨hheld, hlt⟩)
  rw [(pool.wellFormed message (List.mem_of_getElem? hmessage)).1] at hcontent
  rw [SharedData.messageSeq, (loadWord_of_messageBytes hcontent).2.1]
  exact wordInt_intWord (by omega)

theorem countsSoundly (hinv : Invariant state pool)
    (hbound : state.published.length < 2 ^ 31) : state.CountsSoundly where
  seq_isInt := by
    rw [hinv.seq_eq]
    constructor <;> omega
  expected_isInt hreader := by
    have hrinv := hinv.reader hreader
    have hnext := hrinv.next_le
    rcases hrinv.expected hbound with ⟨hnone, -⟩ | hexpected
    · rw [hnone]
      constructor <;> norm_num
    · rw [hexpected]
      constructor <;> omega
  accepts hstep := hinv.readPayload_ok hbound hstep
  numbered hreader hheld hmessage := hinv.messageSeq_eq hbound hreader hheld hmessage
  reports hreader hread shared descriptor hother := by
    rcases (hinv.reader hreader).expected hbound with ⟨-, hnone⟩ | hexpected
    · omega
    · exact Reader.readPayload_refuses (by omega) (hexpected ▸ hother)

/-- The publisher's counter is the number of its messages, so it is an `int` only
below 2^31. -/
theorem countsSoundly_iff (hinv : Invariant state pool) :
    state.CountsSoundly ↔ state.published.length < 2 ^ 31 := by
  constructor
  · intro hsound
    have hseq := hsound.seq_isInt.2
    rw [hinv.seq_eq] at hseq
    omega
  · exact hinv.countsSoundly

end Invariant

/-- The runs in which the publisher publishes fewer than 2^31 messages. -/
def NumbersFit (state : State) : Action → Prop
  | .publish _ => state.published.length + 1 < 2 ^ 31
  | _ => True

/-- Only a publish adds to the log, and at most one message. -/
theorem State.published_of_step {state state' : State} {action : Action}
    {outcome : Outcome} (hstep : state.step action = some (outcome, state')) :
    state'.published = state.published ∨ ∃ payload message, action = .publish payload ∧
      state'.published = state.published ++ [message] := by
  cases action with
  | publish payload =>
      simp only [State.step, State.publish, Option.some.injEq, Prod.mk.injEq] at hstep
      obtain ⟨-, rfl⟩ := hstep
      generalize tryPublishOne state.toPublisherProcess payload = attempt
      dsimp only
      split
      · exact .inr ⟨payload, _, rfl, rfl⟩
      · exact .inl rfl
  | track | reap | fetchDescriptors =>
      simp only [State.step, State.track, State.reap, State.fetchDescriptors] at hstep
      repeat' split at hstep
      all_goals cases hstep
      all_goals exact .inl rfl
  | readPayload | clearReference | storeReadIndex | signalSpace =>
      simp only [State.step, State.readPayload, State.clearReference, State.storeReadIndex,
        State.signalSpace, Option.bind_eq_bind, Option.bind_eq_some_iff] at hstep
      obtain ⟨reader, -, ⟨_, _⟩, -, hstep⟩ := hstep
      cases hstep
      exact .inl rfl
  | returnChunk =>
      simp only [State.step, State.returnChunk, Option.bind_eq_bind,
        Option.bind_eq_some_iff] at hstep
      obtain ⟨reader, -, ⟨_, _, _⟩, -, hstep⟩ := hstep
      cases hstep
      exact .inl rfl

/-! ## A run of any length -/

theorem publishChunk_ne_sizeInvalid (process : PublisherProcess) (payload : List Byte)
    (sizeClass headOff : ℕ) :
    (publishChunk process payload sizeClass headOff).1 ≠ .error .messageSizeClassInvalid := by
  unfold publishChunk
  dsimp only
  split
  · simp
  · split <;> simp

/-- Only a message that fits no size class is refused for its size. -/
theorem tryPublishOne_ne_sizeInvalid {process : PublisherProcess} {payload : List Byte}
    {sizeClass : ℕ}
    (hsize : findSizeClass (payload.length + kMessageHeaderSizeBytes) = some sizeClass)
    (hshort : payload.length ≤ 2 ^ 32 - 1 - kMessageHeaderSizeBytes) :
    (tryPublishOne process payload).1 ≠ .error .messageSizeClassInvalid := by
  simp only [tryPublishOne, if_neg hshort.not_gt, hsize]
  repeat' split
  all_goals first | exact publishChunk_ne_sizeInvalid _ _ _ _ | simp

/-- A run leads to a state with the log `log` and one tracked slot, whose reader has
copied nothing ahead and meets `condition`. -/
def ReachesReader (mapped : SharedData) (log : List Message)
    (condition : Reader → Prop) : Prop :=
  ∃ state reader, (dataPlane mapped).ReachableWith ReapsNoReturner state ∧
    state.published = log ∧ state.readers = Function.update (fun _ => none) 0 (some reader) ∧
    condition reader

namespace ReachesReader

variable {mapped : SharedData} {log : List Message} {condition next : Reader → Prop}

/-- One step of the reader of slot 0. -/
theorem step (hfrom : ReachesReader mapped log condition) (action : Action)
    (hconsumes : ConsumesMessages action)
    (hstep : ∀ state reader pool, Invariant state pool → state.published = log →
      state.readers 0 = some reader → condition reader →
      ∃ outcome reader' shared spaceAvailable, state.step action = some (outcome,
        ({ state with shared, spaceAvailable } : State).setReader 0 reader') ∧
          next reader') :
    ReachesReader mapped log next := by
  obtain ⟨state, reader, hreach, hlog, hreaders, hcondition⟩ := hfrom
  obtain ⟨pool, hinv⟩ := invariant_of_reachable hreach.reachable
  obtain ⟨outcome, reader', shared, spaceAvailable, heq, hnext⟩ :=
    hstep state reader pool hinv hlog (by rw [hreaders, Function.update_self]) hcondition
  refine ⟨_, reader', hreach.step ?_ (congrArg (Option.map Prod.snd) heq), hlog, ?_, hnext⟩
  · cases action with
    | reap => cases hconsumes
    | _ => trivial
  · dsimp only [State.setReader]
    rw [hreaders, Function.update_idem]

/-- The reader copies the descriptor of the one unread message. -/
theorem fetchDescriptors (hfrom : ReachesReader mapped log fun reader =>
      reader.phase = .idle ∧ reader.descRing = [] ∧ reader.cursor + 1 = log.length) :
    ReachesReader mapped log fun reader => reader.phase = .idle ∧
      reader.descRing.length = 1 ∧ reader.cursor + 1 = log.length := by
  refine hfrom.step (.fetchDescriptors 0) trivial ?_
  rintro state reader pool hinv rfl hreader ⟨hphase, hcopies, hcursor⟩
  have hrinv := hinv.reader hreader
  have hfetched : reader.fetchDescriptors state.shared = { reader with
      subscriberReadIndex := reader.cursor % kDescriptorSlotCount
      descRing := Reader.unreadSegment state.shared
        (reader.cursor % kDescriptorSlotCount) } := by
    rw [Reader.fetchDescriptors, hrinv.initializeReadIndex]
  refine ⟨.done, reader.fetchDescriptors state.shared, state.shared,
    state.spaceAvailable, ?_, ?_⟩
  · simp [State.step, State.fetchDescriptors, hreader, hphase, hcopies]
  · rw [hfetched]
    refine ⟨hphase, ?_, hcursor⟩
    rw [Reader.unreadSegment, List.length_map, List.length_range', hinv.ring.write_eq,
      ← hcursor]
    by_cases hwrapped :
        (reader.cursor + 1) % kDescriptorSlotCount < reader.cursor % kDescriptorSlotCount
    · rw [if_pos hwrapped]
      simp only [kDescriptorSlotCount] at hwrapped ⊢
      omega
    · rw [if_neg hwrapped]
      simp only [kDescriptorSlotCount] at hwrapped ⊢
      omega

/-- The reader copies the payload, since its sequence check passes. -/
theorem readPayload (hbound : log.length < 2 ^ 31)
    (hfrom : ReachesReader mapped log fun reader => reader.phase = .idle ∧
      reader.descRing.length = 1 ∧ reader.cursor + 1 = log.length) :
    ReachesReader mapped log fun reader =>
      (∃ descriptor sizeClass, reader.phase = .payloadRead descriptor sizeClass) ∧
      reader.descRing = [] ∧ reader.cursor + 1 = log.length := by
  refine hfrom.step (.readPayload 0) trivial ?_
  rintro state reader pool hinv rfl hreader ⟨hphase, hcopies, hcursor⟩
  obtain ⟨descriptor, hdescriptor⟩ := List.length_eq_one_iff.mp hcopies
  have hstart : reader.startIteration state.shared = _ :=
    Reader.startIteration_eq hphase hdescriptor
  cases hread : Reader.readPayload { reader with descRing := [] } state.shared descriptor with
  | mk result started =>
  rw [hread] at hstart
  have hstep : state.step (.readPayload 0) = (reader.startIteration state.shared).map
      fun pair => (Outcome.readPayload pair.1, state.setReader 0 pair.2) := by
    simp [State.step, State.readPayload, hreader, Option.map_eq_bind]
  cases result with
  | error fault =>
      rw [hstart] at hstep
      obtain ⟨payload, houtcome⟩ := hinv.readPayload_ok hbound hstep
      cases houtcome
  | ok payload =>
      obtain ⟨sizeClass, hstarted, hrest, hsame⟩ := Reader.readPayload_started hread
      rw [hstart] at hstep
      exact ⟨_, started, state.shared, state.spaceAvailable, hstep,
        ⟨descriptor, sizeClass, hstarted⟩, hrest, hsame ▸ hcursor⟩

/-- The reader gives up its reference. -/
theorem clearReference (hfrom : ReachesReader mapped log fun reader =>
      (∃ descriptor sizeClass, reader.phase = .payloadRead descriptor sizeClass) ∧
      reader.descRing = [] ∧ reader.cursor + 1 = log.length) :
    ReachesReader mapped log fun reader =>
      (∃ descriptor sizeClass lastHolder,
        reader.phase = .bitCleared descriptor sizeClass lastHolder) ∧
      reader.descRing = [] ∧ reader.cursor + 1 = log.length := by
  refine hfrom.step (.clearReference 0) trivial ?_
  rintro state reader pool - rfl hreader ⟨⟨descriptor, sizeClass, hphase⟩, hrest⟩
  have hstep : state.step (.clearReference 0) = some (.done,
      { state with
        shared := state.shared.clearReference (chunkIndex sizeClass descriptor.offset)
          (subscriberReferenceBit reader.slotIndex) }.setReader 0 { reader with
        phase := .bitCleared descriptor sizeClass
          (state.shared.chunkReferenceCounts (chunkIndex sizeClass descriptor.offset) =
            subscriberReferenceBit reader.slotIndex) }) := by
    simp [State.step, State.clearReference, hreader, Reader.clearOwnReference, hphase]
  exact ⟨_, _, _, state.spaceAvailable, hstep, ⟨_, _, _, rfl⟩, hrest⟩

/-- The reader moves past the message. -/
theorem storeReadIndex (hfrom : ReachesReader mapped log fun reader =>
      (∃ descriptor sizeClass lastHolder,
        reader.phase = .bitCleared descriptor sizeClass lastHolder) ∧
      reader.descRing = [] ∧ reader.cursor + 1 = log.length) :
    ReachesReader mapped log fun reader => (reader.phase = .idle ∨
        ∃ descriptor sizeClass, reader.phase = .indexStored descriptor sizeClass) ∧
      reader.descRing = [] ∧ reader.cursor = log.length := by
  refine hfrom.step (.storeReadIndex 0) trivial ?_
  rintro state reader pool - rfl hreader
    ⟨⟨descriptor, sizeClass, lastHolder, hphase⟩, hrest⟩
  have hstep : state.step (.storeReadIndex 0) = some (.done,
      { state with
        shared := state.shared.storeReadIndex reader.slotIndex
          (Reader.incrementReadIndex reader.subscriberReadIndex) }.setReader 0 { reader with
        subscriberReadIndex := Reader.incrementReadIndex reader.subscriberReadIndex
        cursor := reader.cursor + 1
        phase := if lastHolder then .indexStored descriptor sizeClass else .idle }) := by
    simp [State.step, State.storeReadIndex, hreader, Reader.storeOwnReadIndex, hphase]
  refine ⟨_, _, _, state.spaceAvailable, hstep, ?_, hrest⟩
  cases lastHolder with
  | true => exact .inr ⟨descriptor, sizeClass, rfl⟩
  | false => exact .inl rfl

/-- The last holder returns the chunk and signals the space. -/
theorem returnChunk (hfrom : ReachesReader mapped log fun reader =>
      (∃ descriptor sizeClass, reader.phase = .indexStored descriptor sizeClass) ∧
      reader.descRing = [] ∧ reader.cursor = log.length) :
    ReachesReader mapped log fun reader => reader.phase = .idle ∧
      reader.descRing = [] ∧ reader.cursor = log.length := by
  have hreturned : ReachesReader mapped log fun reader => reader.phase = .chunkAppended ∧
      reader.descRing = [] ∧ reader.cursor = log.length := by
    refine hfrom.step (.returnChunk 0) trivial ?_
    rintro state reader pool hinv rfl hreader ⟨⟨descriptor, sizeClass, hphase⟩, hrest⟩
    cases hreturn : reader.returnChunk state.shared with
    | none => simp [Reader.returnChunk, hphase] at hreturn; split at hreturn <;> cases hreturn
    | some returned =>
    obtain ⟨result, returned, shared⟩ := returned
    have hstep : state.step (.returnChunk 0) =
        some (.returnChunk result, { state with shared }.setReader 0 returned) := by
      simp only [State.step, State.returnChunk, hreader, hreturn, Option.bind_eq_bind,
        Option.bind_some]
    obtain ⟨-, -, hsound, -⟩ := hinv.step hstep
    simp only [Reader.returnChunk, hphase] at hreturn
    split at hreturn <;> cases hreturn
    · exact absurd hsound id
    · exact ⟨_, _, _, state.spaceAvailable, hstep, rfl, hrest⟩
  refine hreturned.step (.signalSpace 0) trivial ?_
  rintro state reader pool - rfl hreader ⟨hphase, hrest⟩
  have hstep : state.step (.signalSpace 0) = some (.done,
      { state with
        spaceAvailable := min (state.spaceAvailable + 1) kEventfdMaxCount }.setReader 0
          { reader with phase := .idle }) := by
    simp [State.step, State.signalSpace, hreader, Reader.signalSpaceAvailable, hphase]
  exact ⟨_, _, state.shared, _, hstep, rfl, hrest⟩

/-- A reader behind by one message catches up. -/
theorem catchUp (hbound : log.length < 2 ^ 31)
    (hfrom : ReachesReader mapped log fun reader =>
      reader.phase = .idle ∧ reader.descRing = [] ∧ reader.cursor + 1 = log.length) :
    ReachesReader mapped log fun reader =>
      reader.phase = .idle ∧ reader.descRing = [] ∧ reader.cursor = log.length := by
  obtain ⟨state, reader, hreach, hlog, hreaders, hphase | hphase, hrest⟩ :=
    (readPayload hbound hfrom.fetchDescriptors).clearReference.storeReadIndex
  · exact ⟨state, reader, hreach, hlog, hreaders, hphase, hrest⟩
  · exact returnChunk ⟨state, reader, hreach, hlog, hreaders, hphase, hrest⟩

/-- A publisher whose reader has caught up publishes one more message. -/
theorem publish (hfrom : ReachesReader mapped log fun reader =>
      reader.phase = .idle ∧ reader.descRing = [] ∧ reader.cursor = log.length) :
    ∃ message, ReachesReader mapped (log ++ [message]) fun reader =>
      reader.phase = .idle ∧ reader.descRing = [] ∧
        reader.cursor + 1 = (log ++ [message]).length := by
  obtain ⟨state, reader, hreach, rfl, hreaders, hphase, hcopies, hcursor⟩ := hfrom
  obtain ⟨pool, hinv, hkept⟩ := noneLost_of_reachable hreach
  have hsize : findSizeClass (([] : List Byte).length + kMessageHeaderSizeBytes) = some 0 := by
    decide
  have hshort : ([] : List Byte).length ≤ 2 ^ 32 - 1 - kMessageHeaderSizeBytes := by decide
  have hidle : ¬ state.AwaitsSubscribers := by
    rintro (hnone | ⟨slot, other, hother, howes⟩)
    · have hsome := hnone 0
      simp [hreaders] at hsome
    · rw [hreaders] at hother
      obtain rfl | hne := eq_or_ne slot 0
      · rw [Function.update_self, Option.some.injEq] at hother
        subst hother
        exact Reader.not_owes_of_consumed hphase hcursor.ge howes
      · simp [hne] at hother
  have hsucceeded : (tryPublishOne state.toPublisherProcess []).1 = .ok .succeeded := by
    rcases hinv.tryPublishOne_cases [] with hinvalid | hblocked | ⟨_, _, _, -, -, -, -, -, hok⟩
    · exact absurd (congrArg Prod.fst hinvalid) (tryPublishOne_ne_sizeInvalid hsize hshort)
    · exact absurd (hinv.awaitsSubscribers_of_blocked hkept (congrArg Prod.fst hblocked)) hidle
    · rw [hok]
  have hpublished : ∃ message, (state.publish []).2.published =
      state.published ++ [message] := by
    simp [State.publish, hsucceeded]
  obtain ⟨message, hpublished⟩ := hpublished
  have hnext : (dataPlane mapped).next state (.publish []) = some (state.publish []).2 := rfl
  have hreaps : ReapsNoReturner state (.publish []) := trivial
  refine ⟨message, (state.publish []).2, reader, hreach.step hreaps hnext, hpublished,
    hreaders, hphase, hcopies, ?_⟩
  rw [List.length_append, List.length_singleton, hcursor]

end ReachesReader

/-- Runs with one attached reader go on for as long as sequence numbers fit. -/
theorem reachesReader_of_le (mapped : SharedData) {count : ℕ} (hcount : count < 2 ^ 31) :
    ∃ log : List Message, log.length = count ∧ ReachesReader mapped log fun reader =>
      reader.phase = .idle ∧ reader.descRing = [] ∧ reader.cursor = log.length := by
  induction count with
  | zero =>
      have hnext : ∃ state, (dataPlane mapped).next (dataPlane mapped).initial (.track 0 0) =
          some state ∧ state.published = [] ∧
          state.readers = Function.update (fun _ => none) 0 (some (Reader.attached 0 0)) :=
        ⟨_, rfl, rfl, rfl⟩
      obtain ⟨state, hnext, hpublished, hreaders⟩ := hnext
      have hreaps : ReapsNoReturner (dataPlane mapped).initial (.track 0 0) := trivial
      exact ⟨[], rfl, state, _, System.ReachableWith.initial.step hreaps hnext, hpublished,
        hreaders, rfl, rfl, rfl⟩
  | succ count ih =>
      obtain ⟨log, hlength, hfrom⟩ := ih (by omega)
      obtain ⟨message, hpublished⟩ := hfrom.publish
      have hnext : (log ++ [message]).length = count + 1 := by
        rw [List.length_append, List.length_singleton, hlength]
      exact ⟨_, hnext, hpublished.catchUp (by omega)⟩

/-- The counters are sound in every run of fewer than 2^31 messages, and in no state
with more. -/
theorem sequenceNumbers_sound (mapped : SharedData) :
    (∀ state, (dataPlane mapped).ReachableWith NumbersFit state → state.CountsSoundly) ∧
      ∀ state, (dataPlane mapped).Reachable state →
        (state.CountsSoundly ↔ state.published.length < 2 ^ 31) := by
  refine ⟨fun state hreach => ?_, fun state hreach => ?_⟩
  · obtain ⟨pool, hinv⟩ := invariant_of_reachable hreach.reachable
    refine hinv.countsSoundly ?_
    refine hreach.invariant (fun state => state.published.length < 2 ^ 31)
      (by simp [dataPlane, State.created]) ?_
    rintro state action state' hbound hfit hnext
    obtain ⟨⟨outcome, next⟩, hstep, rfl⟩ := Option.map_eq_some_iff.mp hnext
    rcases State.published_of_step hstep with hsame | ⟨payload, message, rfl, hpublished⟩
    · rwa [hsame]
    · rw [hpublished, List.length_append, List.length_singleton]
      exact hfit
  · obtain ⟨pool, hinv⟩ := invariant_of_reachable hreach
    exact hinv.countsSoundly_iff

theorem sequenceNumbers_sound_lateJoin : ∃ state,
    (dataPlane zeroedMapping).Reachable state ∧ state.published.length = 2 ∧
      state.CountsSoundly := by
  have hlength : ((dataPlane zeroedMapping).run (State.created zeroedMapping)
      lateJoinActions).map (fun state => state.published.length) = some 2 := by decide +kernel
  obtain ⟨state, hrun, hlength⟩ := Option.map_eq_some_iff.mp hlength
  have hreach := (lateJoin_reachable hrun).reachable
  exact ⟨state, hreach, hlength,
    ((sequenceNumbers_sound zeroedMapping).2 state hreach).mpr (by rw [hlength]; norm_num)⟩

/-- The increment after the message numbered `INT_MAX` overflows `seq_`. -/
theorem sequenceNumbers_overflow : ∃ state,
    (dataPlane zeroedMapping).Reachable state ∧ ¬ state.CountsSoundly := by
  have hcount : 2 ^ 31 - 1 < 2 ^ 31 := by norm_num
  obtain ⟨log, hlength, hfrom⟩ := reachesReader_of_le zeroedMapping hcount
  obtain ⟨message, state, reader, hreach, hpublished, -⟩ := hfrom.publish
  refine ⟨state, hreach.reachable, fun hsound => ?_⟩
  obtain ⟨pool, hinv⟩ := invariant_of_reachable hreach.reachable
  have hlt := hinv.countsSoundly_iff.mp hsound
  rw [hpublished, List.length_append, List.length_singleton, hlength] at hlt
  omega

end DriveBus.SharedMemory
