import DriveBus.SharedMemory.DataEvents
import DriveBus.SharedMemory.Delivery

/-!
# The position of an event

What each position inside `handle_data_available_event` promises about the messages that
are still unread, what the two kinds of loads of the write index decide, and what the single
accesses change of the state that the events look at.
-/

namespace DriveBus.SharedMemory

open DriveBus.ByteMemory DriveBus.Transition

/-! ## The data plane behind the events -/

/-- The invariant looks at which eventfds are open, not at their counters. -/
theorem Invariant.setEventFds {state : State} {pool : Pool state.published}
    (hinv : Invariant state pool) {eventFds : EventFdTable}
    (hopen : ∀ eventFd, (eventFds eventFd).isSome = (state.eventFds eventFd).isSome) :
    Invariant { state with eventFds } pool where
  represents := hinv.represents
  ring := hinv.ring
  tables := hinv.tables.congr rfl rfl rfl (fun _ => Iff.rfl) hopen
  seq_eq := hinv.seq_eq
  reader := hinv.reader
  untracked := hinv.untracked
  holds_iff := hinv.holds_iff
  returning_iff := hinv.returning_iff
  retired := hinv.retired

/-- What a publish changes of the state that the events look at. -/
theorem Invariant.publish_effect {state : State} {pool : Pool state.published}
    (hinv : Invariant state pool) (payload : List Byte) :
    let stored := (state.publish payload).2
    stored.publisher.dataAvailableEventFds = state.publisher.dataAvailableEventFds ∧
      stored.publisher.subscriberSlotIndexByDataAvailableEventFd =
        state.publisher.subscriberSlotIndexByDataAvailableEventFd ∧
      (∀ eventFd, (stored.eventFds eventFd).isSome = (state.eventFds eventFd).isSome) ∧
      (stored.published = state.published ∨
        ∃ message, stored.published = state.published ++ [message]) := by
  unfold State.publish
  dsimp only
  rcases hinv.tryPublishOne_cases payload with hresult | hresult |
    ⟨sizeClass, mask, eventFds, -, -, -, -, hopen, hresult⟩
  · rw [hresult]
    exact ⟨rfl, rfl, fun _ => rfl, .inl rfl⟩
  · rw [hresult]
    exact ⟨rfl, rfl, fun _ => rfl, .inl rfl⟩
  · rw [hresult]
    exact ⟨rfl, rfl, hopen, .inr ⟨_, rfl⟩⟩

theorem Invariant.store {state : State} {pool : Pool state.published}
    (hinv : Invariant state pool) (payload : List Byte) :
    ∃ pool' : Pool (state.publish payload).2.published,
      Invariant { (state.publish payload).2 with eventFds := state.eventFds } pool' := by
  obtain ⟨-, -, hopen, -⟩ := hinv.publish_effect payload
  obtain ⟨pool', hinv', -, -⟩ := hinv.publish payload rfl
  exact ⟨pool', hinv'.setEventFds fun eventFd => (hopen eventFd).symm⟩

/-! ## The position of a handler -/

/-- Stopping at `stop` loses nothing: what was published after the load at `seen` is
signalled or about to be, and up to that load the writer had not wrapped. -/
def StopsCovered (log : List Message) (signalled : Prop) (stop : ℕ) : Prop :=
  ∃ seen ≤ log.length, (seen < log.length → signalled) ∧
    (stop % kDescriptorSlotCount = 0 ∨
      stop ≤ seen ∧ stop / kDescriptorSlotCount = seen / kDescriptorSlotCount)

/-- What the position of a handler promises; `signalled` says whether its eventfd is
readable or about to be signalled. -/
def HandlerPhase.Promises (log : List Message) (signalled : Prop) (reader : Reader) :
    HandlerPhase → Prop
  | .waiting => reader.descRing = [] ∧ (reader.cursor < log.length → signalled)
  | .drained => reader.descRing = []
  | .initialized => reader.descRing = [] ∧
      reader.subscriberReadIndex = reader.cursor % kDescriptorSlotCount
  | .copying stop =>
      reader.subscriberReadIndex = reader.cursor % kDescriptorSlotCount ∧
        reader.subscriberReadIndex + reader.descRing.length ≤ stop ∧
        stop ≤ kDescriptorSlotCount ∧
        reader.cursor + (stop - reader.subscriberReadIndex) ≤ log.length ∧
        StopsCovered log signalled (reader.cursor + (stop - reader.subscriberReadIndex))
  | .reading =>
      reader.subscriberReadIndex = reader.cursor % kDescriptorSlotCount ∧
        StopsCovered log signalled (reader.next + reader.descRing.length)
  | .failed => 2 ^ 31 ≤ log.length

/-- What holds of the handler and the reader of a tracked slot. -/
structure HandlerInvariant (log : List Message) (signalled : Prop) (handler : EventHandler)
    (reader : Reader) : Prop where
  resting : handler.phase ≠ .reading → reader.phase = .idle
  promises : handler.phase.Promises log signalled reader
  between : handler.phase = .waiting → handler.messages = []
  messages_eq : handler.handedOver.flatten ++ handler.messages = reader.messages

theorem StopsCovered.mono {log : List Message} {signalled signalled' : Prop} {stop : ℕ}
    (hcovered : StopsCovered log signalled stop) (hmono : signalled → signalled') :
    StopsCovered log signalled' stop := by
  obtain ⟨seen, hseen, hsince, hstop⟩ := hcovered
  exact ⟨seen, hseen, fun hlt => hmono (hsince hlt), hstop⟩

/-- A message that is about to be signalled. -/
theorem StopsCovered.publish {log : List Message} {signalled : Prop} {stop : ℕ}
    (hcovered : StopsCovered log signalled stop) (message : Message) :
    StopsCovered (log ++ [message]) True stop := by
  obtain ⟨seen, hseen, -, hstop⟩ := hcovered
  exact ⟨seen, by rw [List.length_append]; omega, fun _ => trivial, hstop⟩

theorem HandlerInvariant.mono {log : List Message} {signalled signalled' : Prop}
    {handler : EventHandler} {reader : Reader}
    (hinv : HandlerInvariant log signalled handler reader) (hmono : signalled → signalled') :
    HandlerInvariant log signalled' handler reader := by
  refine ⟨hinv.resting, ?_, hinv.between, hinv.messages_eq⟩
  have hpromises := hinv.promises
  cases hphase : handler.phase with
  | waiting =>
      rw [hphase] at hpromises
      exact ⟨hpromises.1, fun hlt => hmono (hpromises.2 hlt)⟩
  | copying stop =>
      rw [hphase] at hpromises
      obtain ⟨hlocal, hcopied, hstop, hlength, hcovered⟩ := hpromises
      exact ⟨hlocal, hcopied, hstop, hlength, hcovered.mono hmono⟩
  | reading =>
      rw [hphase] at hpromises
      exact ⟨hpromises.1, hpromises.2.mono hmono⟩
  | drained | initialized | failed =>
      rw [hphase] at hpromises
      exact hpromises

/-- Storing a message that is about to be signalled. -/
theorem HandlerInvariant.publish {log : List Message} {signalled : Prop}
    {handler : EventHandler} {reader : Reader}
    (hinv : HandlerInvariant log signalled handler reader) (message : Message) :
    HandlerInvariant (log ++ [message]) True handler reader := by
  refine ⟨hinv.resting, ?_, hinv.between, hinv.messages_eq⟩
  have hpromises := hinv.promises
  have hlength : (log ++ [message]).length = log.length + 1 := by simp
  cases hphase : handler.phase with
  | waiting =>
      rw [hphase] at hpromises
      exact ⟨hpromises.1, fun _ => trivial⟩
  | copying stop =>
      rw [hphase] at hpromises
      obtain ⟨hlocal, hcopied, hstop, hbound, hcovered⟩ := hpromises
      exact ⟨hlocal, hcopied, hstop, by omega, hcovered.publish message⟩
  | reading =>
      rw [hphase] at hpromises
      exact ⟨hpromises.1, hpromises.2.publish message⟩
  | drained | initialized =>
      rw [hphase] at hpromises
      exact hpromises
  | failed =>
      rw [hphase] at hpromises
      exact hpromises.trans (by omega)

/-! ## What the loads decide -/

section Loads

variable {log : List Message} {signalled : Prop} {readIndex slot : ℕ} {reader : Reader}

/-- A reader between messages is at most one ring behind. -/
theorem ReaderInvariant.cursor_le (hinv : ReaderInvariant log readIndex slot reader)
    (hidle : reader.phase = .idle) : reader.cursor ≤ log.length := by
  have hnext := hinv.next_le
  rwa [Reader.next_of_idle hidle] at hnext

/-- The writer has wrapped: the tail of the ring is unread. -/
theorem ReaderInvariant.load_wrapped (hinv : ReaderInvariant log readIndex slot reader)
    (hidle : reader.phase = .idle)
    (hwrapped : log.length % kDescriptorSlotCount < reader.cursor % kDescriptorSlotCount) :
    reader.cursor + (kDescriptorSlotCount - reader.cursor % kDescriptorSlotCount) ≤ log.length ∧
      StopsCovered log signalled
        (reader.cursor + (kDescriptorSlotCount - reader.cursor % kDescriptorSlotCount)) := by
  have hle := hinv.cursor_le hidle
  have hlt := hinv.length_lt
  simp only [kDescriptorSlotCount] at hwrapped hlt ⊢
  refine ⟨by omega, log.length, le_rfl, fun hself => absurd hself (lt_irrefl _), .inl ?_⟩
  simp only [kDescriptorSlotCount]
  omega

/-- Stopping at the end of the log leaves nothing behind. -/
theorem stopsCovered_length : StopsCovered log signalled log.length :=
  ⟨log.length, le_rfl, fun hself => absurd hself (lt_irrefl _), .inr ⟨le_rfl, rfl⟩⟩

/-- The writer has not wrapped: the segment up to the write index is all that is unread. -/
theorem ReaderInvariant.cursor_add (hinv : ReaderInvariant log readIndex slot reader)
    (hidle : reader.phase = .idle)
    (hahead : reader.cursor % kDescriptorSlotCount ≤ log.length % kDescriptorSlotCount) :
    reader.cursor + (log.length % kDescriptorSlotCount -
      reader.cursor % kDescriptorSlotCount) = log.length := by
  have hle := hinv.cursor_le hidle
  have hlt := hinv.length_lt
  simp only [kDescriptorSlotCount] at hahead hlt ⊢
  omega

/-- Behind a load that found no wrapped writer. -/
theorem ReaderInvariant.load_ahead (hinv : ReaderInvariant log readIndex slot reader)
    (hidle : reader.phase = .idle)
    (hahead : reader.cursor % kDescriptorSlotCount ≤ log.length % kDescriptorSlotCount) :
    StopsCovered log signalled reader.cursor := by
  have hle := hinv.cursor_le hidle
  have hlt := hinv.length_lt
  refine ⟨log.length, le_rfl, fun hself => absurd hself (lt_irrefl _), .inr ⟨hle, ?_⟩⟩
  simp only [kDescriptorSlotCount] at hahead hlt ⊢
  omega

/-- The event ends where the writer is not ahead: what is still unread was published after
the load before. -/
theorem ReaderInvariant.reload_covered (hinv : ReaderInvariant log readIndex slot reader)
    (hcovered : StopsCovered log signalled reader.cursor)
    (hbehind : log.length % kDescriptorSlotCount ≤ reader.cursor % kDescriptorSlotCount)
    (hunread : reader.cursor < log.length) : signalled := by
  have hlt := hinv.length_lt
  obtain ⟨seen, hseen, hsince, hstop⟩ := hcovered
  apply hsince
  simp only [kDescriptorSlotCount] at hbehind hlt hstop
  omega

theorem ReaderInvariant.setLocalIndex (hinv : ReaderInvariant log readIndex slot reader)
    {index : ℕ} (hindex : index = reader.cursor % kDescriptorSlotCount) :
    ReaderInvariant log readIndex slot { reader with subscriberReadIndex := index } where
  slotIndex_eq := hinv.slotIndex_eq
  slot_lt := hinv.slot_lt
  readIndex_eq := hinv.readIndex_eq
  joinedAt_le := hinv.joinedAt_le
  next_le := hinv.next_le
  length_lt := hinv.length_lt
  localIndex := .inl hindex
  copied := hinv.copied
  messages_eq := hinv.messages_eq
  expected := hinv.expected
  current_isChunk := hinv.current_isChunk
  current_message := hinv.current_message

/-- Copying the next unread descriptor, whatever has been published meanwhile. -/
theorem ReaderInvariant.copyDescriptor {shared : SharedData}
    (hinv : ReaderInvariant log readIndex slot reader) (hring : RingHistory shared log)
    (hidle : reader.phase = .idle)
    (hlocal : reader.subscriberReadIndex = reader.cursor % kDescriptorSlotCount)
    (hindex : reader.subscriberReadIndex + reader.descRing.length < kDescriptorSlotCount)
    (hunread : reader.cursor + reader.descRing.length < log.length) :
    ReaderInvariant log readIndex slot { reader with
      descRing := reader.descRing ++
        [shared.descRing (reader.subscriberReadIndex + reader.descRing.length)] } where
  slotIndex_eq := hinv.slotIndex_eq
  slot_lt := hinv.slot_lt
  readIndex_eq := hinv.readIndex_eq
  joinedAt_le := hinv.joinedAt_le
  next_le := hinv.next_le
  length_lt := hinv.length_lt
  localIndex := .inl hlocal
  copied := by
    intro position descriptor hcopied
    have hnext : ({ reader with
        descRing := reader.descRing ++
          [shared.descRing (reader.subscriberReadIndex + reader.descRing.length)] } :
        Reader).next = reader.next := rfl
    rw [hnext]
    dsimp only at hcopied
    rcases Nat.lt_or_ge position reader.descRing.length with hlt | hge
    · rw [List.getElem?_append_left hlt] at hcopied
      exact hinv.copied hcopied
    · have hposition : position = reader.descRing.length := by
        have hbound := (List.getElem?_eq_some_iff.mp hcopied).1
        rw [List.length_append, List.length_singleton] at hbound
        omega
      subst hposition
      rw [List.getElem?_concat_length, Option.some.injEq] at hcopied
      have hmessage := List.getElem?_eq_getElem hunread
      rw [Reader.next_of_idle hidle]
      refine ⟨_, hmessage, ?_⟩
      have hlength := hinv.length_lt
      rw [← hcopied, ← hring.recent hmessage (by omega), hlocal]
      congr 1
      simp only [kDescriptorSlotCount] at hlocal hindex ⊢
      omega
  messages_eq := hinv.messages_eq
  expected := hinv.expected
  current_isChunk := hinv.current_isChunk
  current_message := hinv.current_message

end Loads

/-! ## Effects of the accesses -/

/-- A signal makes its eventfd readable and drains none. -/
theorem signalEventfd_readable {eventFds : EventFdTable} {eventFd : ℕ}
    (hopen : (eventFds eventFd).isSome) :
    ∃ signalled, signalEventfd eventFds eventFd = (true, signalled) ∧
      (∀ other, (signalled other).isSome = (eventFds other).isSome) ∧
      (signalled eventFd).any (0 < ·) = true ∧
      ∀ other, (eventFds other).any (0 < ·) = true → (signalled other).any (0 < ·) = true := by
  obtain ⟨count, hcount⟩ := Option.isSome_iff_exists.mp hopen
  rw [signalEventfd, hcount]
  dsimp only
  split
  next hroom =>
    refine ⟨_, rfl, fun other => ?_, by simp, fun other hreadable => ?_⟩
    · by_cases heq : other = eventFd
      · subst heq
        simp [hcount]
      · simp [heq]
    · by_cases heq : other = eventFd
      · subst heq
        simp
      · simpa [heq] using hreadable
  next hfull =>
    refine ⟨_, rfl, fun _ => rfl, ?_, fun _ => id⟩
    have hmax : 0 < kEventfdMaxCount := by decide
    simp only [hcount, Option.any_some, decide_eq_true_eq]
    omega

/-- What `track` changes of the state that the events look at. -/
theorem Invariant.track_effect {state state' : State} {pool : Pool state.published}
    (hinv : Invariant state pool) {eventFd slot : ℕ} {outcome : Outcome}
    (hstep : state.track eventFd slot = some (outcome, state')) :
    (∃ error, outcome = .track (some error)) ∧ state' = state ∨
      outcome = .track none ∧ state.eventFds eventFd = none ∧
        state'.readers = Function.update state.readers slot
          (some (Reader.attached slot state.published.length)) ∧
        state'.published = state.published ∧
        state'.eventFds = Function.update state.eventFds eventFd (some 0) ∧
        state'.publisher.subscriberSlotIndexByDataAvailableEventFd =
          state.publisher.subscriberSlotIndexByDataAvailableEventFd.insert eventFd slot := by
  unfold State.track at hstep
  split at hstep
  next => cases hstep
  next hclosed =>
    have hfresh : state.eventFds eventFd = none := by simpa using hclosed
    dsimp only at hstep
    by_cases hrefused : kMaxSubscribers ≤ slot ∨
        state.shared.descriptorReadIndices slot ≠ kInvalidIndex
    · obtain ⟨error, herror⟩ := trackSubscriber_refused hfresh hrefused
      rw [herror] at hstep
      simp only [Option.some.injEq, Prod.mk.injEq] at hstep
      obtain ⟨rfl, rfl⟩ := hstep
      exact .inl ⟨⟨error, rfl⟩, rfl⟩
    · push Not at hrefused
      obtain ⟨hslot, hfree⟩ := hrefused
      have habsent : state.publisher.subscriberSlotIndexByDataAvailableEventFd.lookup eventFd =
          none := by
        by_contra hfound
        obtain ⟨other, hother⟩ := Option.ne_none_iff_exists'.mp hfound
        have hopen := (hinv.tables.slot_of_lookup hother).2.2
        simp [hfresh] at hopen
      rw [trackSubscriber, if_neg (by omega), if_neg (by simp [hfree]),
        if_neg (by simp [habsent])] at hstep
      simp only [Option.some.injEq, Prod.mk.injEq] at hstep
      obtain ⟨rfl, rfl⟩ := hstep
      exact .inr ⟨rfl, hfresh, rfl, rfl, rfl, rfl⟩

/-- What `reap_dead_subscribers` does to the tables once it succeeds. -/
theorem reapDeadSubscribers_effect {process process' : PublisherProcess} {slot : ℕ}
    (hreap : reapDeadSubscribers process slot = (.none, process')) :
    let eventFd := process.publisher.dataAvailableEventFdBySubscriberSlotIndex slot
    process'.eventFds = Function.update process.eventFds eventFd none ∧
      process'.publisher.subscriberSlotIndexByDataAvailableEventFd =
        process.publisher.subscriberSlotIndexByDataAvailableEventFd.erase eventFd := by
  unfold reapDeadSubscribers at hreap
  dsimp only at hreap
  split at hreap
  next => cases hreap
  next =>
    split at hreap
    next => cases hreap
    next =>
      split at hreap
      next =>
        unfold forgetSubscriber at hreap
        dsimp only at hreap
        split at hreap
        next => cases hreap
        next =>
          cases hreap
          exact ⟨rfl, rfl⟩
      next failed released hfailed _ =>
        cases hreap
        exact absurd rfl hfailed

/-- A step of `read_data` keeps where its segment ends. -/
structure Reader.Continues (reader reader' : Reader) : Prop where
  stop_eq : reader'.next + reader'.descRing.length = reader.next + reader.descRing.length
  localIndex : reader.subscriberReadIndex = reader.cursor % kDescriptorSlotCount →
    reader'.subscriberReadIndex = reader'.cursor % kDescriptorSlotCount

namespace Reader

variable {reader reader' : Reader} {shared shared' : SharedData}

theorem readPayload_ok {descriptor : MessageDescriptor} {payload : List Byte}
    (hread : reader.readPayload shared descriptor = (.ok payload, reader')) :
    ∃ sizeClass expectedSeq, reader' = { reader with
      messages := reader.messages ++ [payload]
      expectedSeq
      phase := .payloadRead descriptor sizeClass } := by
  unfold readPayload at hread
  dsimp only at hread
  repeat' split at hread
  all_goals cases hread
  all_goals exact ⟨_, _, rfl⟩

theorem readPayload_error {descriptor : MessageDescriptor} {fault : ReadFault}
    (hread : reader.readPayload shared descriptor = (.error fault, reader')) :
    reader'.phase = reader.phase ∧ reader'.messages = reader.messages := by
  unfold readPayload at hread
  dsimp only at hread
  repeat' split at hread
  all_goals cases hread
  all_goals exact ⟨rfl, rfl⟩

/-- An iteration that fails leaves its reader between messages. -/
theorem startIteration_error {fault : ReadFault}
    (hstart : reader.startIteration shared = some (.error fault, reader')) :
    reader'.phase = .idle ∧ reader'.messages = reader.messages := by
  unfold startIteration at hstart
  split at hstart
  next descriptor rest hphase hcopies =>
    split at hstart
    next => simp at hstart
    next error stopped hread =>
      simp only [Option.some.injEq, Prod.mk.injEq] at hstart
      obtain ⟨-, rfl⟩ := hstart
      obtain ⟨hidle, hmessages⟩ := readPayload_error hread
      exact ⟨hidle.trans hphase, hmessages⟩
  next => cases hstart

/-- Copying a payload moves one descriptor from the copied ones into the iteration. -/
theorem continues_startIteration {payload : List Byte}
    (hstart : reader.startIteration shared = some (.ok payload, reader')) :
    reader.Continues reader' ∧ reader'.messages = reader.messages ++ [payload] := by
  unfold startIteration at hstart
  split at hstart
  next descriptor rest hphase hcopies =>
    split at hstart
    next copied started hread =>
      simp only [Option.some.injEq, Prod.mk.injEq, Except.ok.injEq] at hstart
      obtain ⟨rfl, rfl⟩ := hstart
      obtain ⟨sizeClass, expectedSeq, rfl⟩ := readPayload_ok hread
      refine ⟨⟨?_, id⟩, rfl⟩
      simp only [next, hphase, hcopies, List.length_cons]
      omega
    next => simp at hstart
  next => cases hstart

theorem continues_clearOwnReference
    (hclear : reader.clearOwnReference shared = some (reader', shared')) :
    reader.Continues reader' ∧ reader'.messages = reader.messages := by
  unfold clearOwnReference at hclear
  split at hclear
  next descriptor sizeClass hphase =>
    simp only [Option.some.injEq, Prod.mk.injEq] at hclear
    obtain ⟨rfl, -⟩ := hclear
    exact ⟨⟨by simp [next, hphase], id⟩, rfl⟩
  next => cases hclear

theorem continues_storeOwnReadIndex
    (hstore : reader.storeOwnReadIndex shared = some (reader', shared')) :
    reader.Continues reader' ∧ reader'.messages = reader.messages := by
  unfold storeOwnReadIndex at hstore
  split at hstore
  next descriptor sizeClass lastHolder hphase =>
    simp only [Option.some.injEq, Prod.mk.injEq] at hstore
    obtain ⟨rfl, -⟩ := hstore
    refine ⟨⟨?_, fun hlocal => ?_⟩, rfl⟩
    · cases lastHolder <;> simp [next, hphase]
    · dsimp only
      rw [hlocal, ReaderInvariant.incrementReadIndex_mod]
  next => cases hstore

theorem continues_returnChunk
    (hreturn : reader.returnChunk shared = some (.ok (), reader', shared')) :
    reader.Continues reader' ∧ reader'.messages = reader.messages := by
  unfold returnChunk at hreturn
  split at hreturn
  next descriptor sizeClass hphase =>
    dsimp only at hreturn
    split at hreturn
    next => simp at hreturn
    next =>
      simp only [Option.some.injEq, Prod.mk.injEq] at hreturn
      obtain ⟨-, rfl, -⟩ := hreturn
      exact ⟨⟨by simp [next, hphase], id⟩, rfl⟩
  next => cases hreturn

theorem continues_signalSpaceAvailable {spaceAvailable spaceAvailable' : ℕ}
    (hsignal : reader.signalSpaceAvailable spaceAvailable = some (reader', spaceAvailable')) :
    reader.Continues reader' ∧ reader'.messages = reader.messages := by
  unfold signalSpaceAvailable at hsignal
  split at hsignal
  next hphase =>
    simp only [Option.some.injEq, Prod.mk.injEq] at hsignal
    obtain ⟨rfl, -⟩ := hsignal
    exact ⟨⟨by simp [next, hphase], id⟩, rfl⟩
  next => cases hsignal

end Reader

end DriveBus.SharedMemory
