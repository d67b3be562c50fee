import DriveBus.SharedMemory.Reclaim

/-!
# The data plane invariant

One abstract pool explains the whole state: its holders are read off the
readers' positions, its returning chunks off their phases, and the mapping
represents it.  A reader's position is its unwrapped `cursor`; the indices it
keeps locally and in shared memory are the cursor modulo the ring size.
-/

namespace DriveBus.SharedMemory

/-! ## Positions of a reader -/

namespace Reader

/-- The next published message that the reader will copy. -/
def next (reader : Reader) : ℕ :=
  match reader.phase with
  | .payloadRead .. | .bitCleared .. => reader.cursor + 1
  | _ => reader.cursor

/-- The first published message whose reference the reader has not cleared. -/
def heldFrom (reader : Reader) : ℕ :=
  match reader.phase with
  | .bitCleared .. => reader.cursor + 1
  | _ => reader.cursor

/-- The chunk that the reader, as its last holder, has yet to append. -/
def returningOffset (reader : Reader) : Option ℕ :=
  match reader.phase with
  | .bitCleared descriptor _ true => some descriptor.offset
  | .indexStored descriptor _ => some descriptor.offset
  | _ => none

/-- The chunk of the message being consumed. -/
def currentChunk (reader : Reader) : Option (ℕ × ℕ) :=
  match reader.phase with
  | .payloadRead descriptor sizeClass => some (sizeClass, descriptor.offset)
  | .bitCleared descriptor sizeClass _ => some (sizeClass, descriptor.offset)
  | .indexStored descriptor sizeClass => some (sizeClass, descriptor.offset)
  | _ => none

/-- The payloads published from the reader's start up to message `stop`. -/
def delivered (reader : Reader) (log : List Message) (stop : ℕ) : List (List ByteMemory.Byte) :=
  ((log.take stop).drop reader.joinedAt).map Message.payload

end Reader

/-- What holds of the reader of a tracked slot whose shared read index is
`readIndex`. -/
structure ReaderInvariant (log : List Message) (readIndex slot : ℕ) (reader : Reader) :
    Prop where
  slotIndex_eq : reader.slotIndex = slot
  slot_lt : slot < kMaxSubscribers
  readIndex_eq : readIndex = reader.cursor % kDescriptorSlotCount
  joinedAt_le : reader.joinedAt ≤ reader.cursor
  next_le : reader.next ≤ log.length
  length_lt : log.length < reader.cursor + kDescriptorSlotCount
  localIndex : reader.subscriberReadIndex = reader.cursor % kDescriptorSlotCount ∨
    reader.subscriberReadIndex = kInvalidIndex ∧ reader.phase = .idle ∧
      reader.descRing = []
  copied : ∀ {position descriptor}, reader.descRing[position]? = some descriptor →
    ∃ message, log[reader.next + position]? = some message ∧
      message.descriptor = descriptor
  messages_eq : reader.messages = reader.delivered log reader.next
  expected : log.length < 2 ^ 31 →
    reader.expectedSeq = -1 ∧ reader.next = reader.joinedAt ∨
      reader.expectedSeq = reader.next
  current_isChunk : ∀ {sizeClass offset},
    reader.currentChunk = some (sizeClass, offset) → IsChunk sizeClass offset
  current_message : ∀ {descriptor sizeClass},
    reader.phase = .payloadRead descriptor sizeClass →
    ∃ message, log[reader.cursor]? = some message ∧ message.descriptor = descriptor

/-- The state of the data plane is explained by `pool`. -/
structure Invariant (state : State) (pool : Pool state.published) : Prop where
  represents : Represents state.shared pool
  ring : RingHistory state.shared state.published
  tables : TrackingTables state.toPublisherProcess
  seq_eq : state.publisher.seq = state.published.length
  reader : ∀ {slot reader}, state.readers slot = some reader →
    ReaderInvariant state.published (state.shared.descriptorReadIndices slot) slot reader
  untracked : ∀ {slot}, slot < kMaxSubscribers → state.readers slot = none →
    state.shared.descriptorReadIndices slot = kInvalidIndex
  holds_iff : ∀ {slot index}, pool.holds slot index ↔
    ∃ reader, state.readers slot = some reader ∧ reader.heldFrom ≤ index ∧
      index < state.published.length
  returning_iff : ∀ {offset slot}, pool.owner offset = .returning slot ↔
    ∃ reader, state.readers slot = some reader ∧ reader.returningOffset = some offset
  retired : ∀ reader ∈ state.retired, ∃ stop ≤ state.published.length,
    reader.messages = reader.delivered state.published stop

/-- No chunk has been abandoned by a killed subscriber. -/
def Pool.NoneLost {log : List Message} (pool : Pool log) : Prop :=
  ∀ offset, pool.owner offset ≠ .lost

/-- The runs in which no subscriber is reaped that was killed between clearing
the last reference to a chunk and finishing its append. -/
def ReapsNoReturner (state : State) : Action → Prop
  | .reap slotIndex => ∀ reader, state.readers slotIndex = some reader →
      reader.returningOffset = none
  | _ => True

theorem reapsNoReturner_of_stopsBetweenMessages {state : State} {action : Action}
    (hstops : StopsBetweenMessages state action) : ReapsNoReturner state action := by
  cases action with
  | reap slotIndex =>
      intro reader hreader
      simp [Reader.returningOffset, hstops reader hreader]
  | _ => trivial

/-- A step returns no internal error.  The sequence check is the one test that
counts without bound, so it is covered for as long as the counter fits. -/
def Outcome.Sound (published : ℕ) : Outcome → Prop
  | .publish (.error error) => error = .messageSizeClassInvalid
  | .reap error => error = .none
  | .readPayload (.error fault) => fault = .seqMismatch ∧ 2 ^ 31 ≤ published
  | .returnChunk (.error _) => False
  | _ => True

/-- What every step establishes: the invariant again, a sound outcome, and no
lost chunk unless there was one before. -/
def Preserved (state : State) (pool : Pool state.published) (outcome : Outcome)
    (state' : State) : Prop :=
  ∃ pool' : Pool state'.published, Invariant state' pool' ∧
    outcome.Sound state.published.length ∧ (pool.NoneLost → pool'.NoneLost)

/-- What a step of a subscriber other than its append establishes: the free lists are as
they were, and a chunk changes hands only if its last holder takes it over. -/
def Consumed (state : State) (pool : Pool state.published) (slot : ℕ) (outcome : Outcome)
    (state' : State) : Prop :=
  ∃ pool' : Pool state'.published, Invariant state' pool' ∧
    outcome.Sound state.published.length ∧ pool'.free = pool.free ∧
    ∀ offset, pool'.owner offset = pool.owner offset ∨
      (∃ index, pool.owner offset = .message index) ∧ pool'.owner offset = .returning slot

theorem Consumed.preserved {state state' : State} {pool : Pool state.published} {slot : ℕ}
    {outcome : Outcome} (hconsumed : Consumed state pool slot outcome state') :
    Preserved state pool outcome state' := by
  obtain ⟨pool', hinv, hsound, -, howner⟩ := hconsumed
  refine ⟨pool', hinv, hsound, fun hnone offset hlost => ?_⟩
  rcases howner offset with hsame | ⟨-, htaken⟩
  · exact hnone offset (hsame ▸ hlost)
  · rw [htaken] at hlost
    cases hlost

namespace Reader

variable {reader : Reader} {log : List Message}

theorem heldFrom_le_next : reader.heldFrom ≤ reader.next := by
  unfold heldFrom next
  split <;> split <;> simp_all

theorem cursor_le_heldFrom : reader.cursor ≤ reader.heldFrom := by
  unfold heldFrom
  split <;> omega

theorem next_of_idle (hphase : reader.phase = .idle) : reader.next = reader.cursor := by
  simp [next, hphase]

theorem delivered_append {stop : ℕ} (hstop : stop ≤ log.length) (message : Message) :
    reader.delivered (log ++ [message]) stop = reader.delivered log stop := by
  rw [delivered, delivered, List.take_append_of_le_length hstop]

/-- Copying message `stop` extends what has been delivered. -/
theorem delivered_succ {stop : ℕ} {message : Message}
    (hmessage : log[stop]? = some message) (hjoined : reader.joinedAt ≤ stop) :
    reader.delivered log (stop + 1) = reader.delivered log stop ++ [message.payload] := by
  obtain ⟨hlt, hget⟩ := List.getElem?_eq_some_iff.mp hmessage
  have hlength : reader.joinedAt ≤ (log.take stop).length := by
    rw [List.length_take]
    omega
  rw [delivered, delivered, List.take_succ_eq_append_getElem hlt, hget,
    List.drop_append_of_le_length hlength, List.map_append]
  rfl

theorem delivered_prefix (stop : ℕ) :
    reader.delivered log stop <+:
      (log.drop reader.joinedAt).map Message.payload := by
  rw [delivered, List.drop_take]
  exact (List.take_prefix _ _).map _

end Reader

namespace Invariant

variable {state : State} {pool : Pool state.published} {slot : ℕ} {reader : Reader}

theorem slot_lt (hinv : Invariant state pool) (hreader : state.readers slot = some reader) :
    slot < kMaxSubscribers := (hinv.reader hreader).slot_lt

/-- The tracked slots are the slots with a reader. -/
theorem tracked_iff (hinv : Invariant state pool) :
    state.shared.Tracked slot ↔ ∃ reader, state.readers slot = some reader := by
  constructor
  · rintro ⟨hslot, hvalid⟩
    cases hreader : state.readers slot with
    | none => exact absurd (hinv.untracked hslot hreader) hvalid
    | some reader => exact ⟨reader, rfl⟩
  · rintro ⟨reader, hreader⟩
    have hslot := hinv.reader hreader
    refine ⟨hslot.slot_lt, ?_⟩
    rw [hslot.readIndex_eq]
    simp only [kDescriptorSlotCount, kInvalidIndex]
    omega

theorem write_lt (hinv : Invariant state pool) :
    state.shared.descriptorWriteIndex < kDescriptorSlotCount := by
  rw [hinv.ring.write_eq]
  exact Nat.mod_lt _ (by decide)

/-- A step of one reader that leaves the ring and the publisher alone keeps the
invariant when the new pool and reader describe each other. -/
theorem updateReader (hinv : Invariant state pool) {reader' : Reader}
    {shared' : SharedData} {pool' : Pool state.published} {spaceAvailable : ℕ}
    (hreader : state.readers slot = some reader) (hrep : Represents shared' pool')
    (hdescRing : shared'.descRing = state.shared.descRing)
    (hwrite : shared'.descriptorWriteIndex = state.shared.descriptorWriteIndex)
    (hreads : ∀ other ≠ slot, shared'.descriptorReadIndices other =
      state.shared.descriptorReadIndices other)
    (hreader' : ReaderInvariant state.published (shared'.descriptorReadIndices slot)
      slot reader')
    (hothers : ∀ {other index}, other ≠ slot →
      (pool'.holds other index ↔ pool.holds other index))
    (hown : ∀ {index}, pool'.holds slot index ↔
      reader'.heldFrom ≤ index ∧ index < state.published.length)
    (hreturningOthers : ∀ {offset other}, other ≠ slot →
      (pool'.owner offset = .returning other ↔ pool.owner offset = .returning other))
    (hreturning : ∀ {offset}, pool'.owner offset = .returning slot ↔
      reader'.returningOffset = some offset) :
    Invariant ({ state with shared := shared', spaceAvailable }.setReader slot reader')
      pool' where
  represents := hrep
  ring := by
    constructor
    · exact hwrite.trans hinv.ring.write_eq
    · intro index message hmessage hrecent
      exact (congrFun hdescRing _).trans (hinv.ring.recent hmessage hrecent)
  tables := by
    refine hinv.tables.congr rfl rfl rfl (fun other => ?_) fun _ => rfl
    change other < kMaxSubscribers ∧ shared'.descriptorReadIndices other ≠ kInvalidIndex ↔ _
    by_cases heq : other = slot
    · subst heq
      have htracked := hinv.tracked_iff.mpr ⟨reader, hreader⟩
      refine iff_of_true ⟨hreader'.slot_lt, ?_⟩ htracked
      rw [hreader'.readIndex_eq]
      simp only [kDescriptorSlotCount, kInvalidIndex]
      omega
    · rw [hreads other heq, SharedData.Tracked]
  seq_eq := hinv.seq_eq
  reader := by
    intro other otherReader hother
    by_cases heq : other = slot
    · subst heq
      simp only [State.setReader, Function.update_self, Option.some.injEq] at hother
      exact hother ▸ hreader'
    · simp only [State.setReader, Function.update_of_ne heq] at hother
      have hold := hinv.reader hother
      rw [← hreads other heq] at hold
      exact hold
  untracked := by
    intro other hlt hnone
    by_cases heq : other = slot
    · subst heq
      simp [State.setReader] at hnone
    · simp only [State.setReader, Function.update_of_ne heq] at hnone
      exact (hreads other heq).trans (hinv.untracked hlt hnone)
  holds_iff := by
    intro other index
    by_cases heq : other = slot
    · subst heq
      simp [State.setReader, hown]
    · rw [hothers heq, hinv.holds_iff]
      simp [State.setReader, heq]
  returning_iff := by
    intro offset other
    by_cases heq : other = slot
    · subst heq
      simp [State.setReader, hreturning]
    · rw [hreturningOthers heq, hinv.returning_iff]
      simp [State.setReader, heq]
  retired := hinv.retired

/-- A created publisher satisfies the invariant. -/
theorem created (mapped : SharedData) : Invariant (State.created mapped) Pool.initial where
  represents := represents_initial mapped
  ring := ⟨rfl, by simp [State.created]⟩
  tables := by
    constructor
    · exact List.nodup_nil
    · simp [State.created]
    · simp [State.created]
    · rintro slot ⟨hslot, hvalid⟩
      simp [State.created, initializeSharedData, hslot] at hvalid
  seq_eq := rfl
  reader := by simp [State.created]
  untracked := by
    intro slot hslot _
    simp [State.created, initializeSharedData, hslot]
  holds_iff := by simp [State.created, Pool.initial]
  returning_iff := by simp [State.created, Pool.initial]
  retired := by simp [State.created]

end Invariant

end DriveBus.SharedMemory
