import DriveBus.SharedMemory.Subscriber

/-!
# Reading a batch

`handle_data_available_event` as the synchronous `subscribe` calls it: `read_data`
acknowledges the messages of a segment one by one and returns them as a batch, which
`consume_contiguous_messages` and the handler join with the batches of other segments.
The mapping holds anything, and the other parties change it between the accesses as the
call's script says.
-/

namespace DriveBus.Synchronous.Subscriber

open DriveBus.ByteMemory DriveBus.SharedMemory

abbrev MessageBatch := List (List Byte)

inductive RunError
  | none
  | epollWaitFailed
  | unexpectedEpollTimeout
  | dataAvailableEventAttachmentMissing
  | dataAvailableEventReadFailed
  | wrappedDescriptorReadFailed
  | contiguousMessageConsumptionFailed
  | brokerControlMessageProcessingFailed
  | publisherDisconnectedPayloadSizeMismatch
  | publisherDisconnectedAttachmentMissing
  | publisherDisconnectedEventFdMissing
  | shutdownEventReadFailed
  | workerException
  deriving DecidableEq, Repr

inductive SubscribeError
  | timeout
  | eventWaitFailed
  | brokerUnavailable
  | dataPathFailed
  deriving DecidableEq, Repr

/-- How a function of the handler ends: with a value, with an error, or with the
`bad_alloc` that a vector throws. -/
inductive Completion (α : Type)
  | ok (value : α)
  | error (error : RunError)
  | threw

/-- What a function has returned, if it has. -/
def Completion.result {α : Type} : Completion α → Option (Except RunError α)
  | .ok value => some (.ok value)
  | .error failure => some (.error failure)
  | .threw => none

/-- `map_run_error_to_subscribe_error`; no caller passes `RunError::None`, on which it
would terminate the process. -/
def mapRunErrorToSubscribeError : RunError → SubscribeError
  | .epollWaitFailed => .eventWaitFailed
  | .unexpectedEpollTimeout => .timeout
  | .brokerControlMessageProcessingFailed | .publisherDisconnectedPayloadSizeMismatch
  | .publisherDisconnectedAttachmentMissing | .publisherDisconnectedEventFdMissing =>
      .brokerUnavailable
  | _ => .dataPathFailed

/-! ## One iteration of `read_data` -/

/-- What the other parties do before an iteration's accesses, whether `emplace_back` gets
its memory, and whether the space eventfd takes the signal. -/
structure IterationTurn where
  beforeRead : SharedData → SharedData
  beforeClear : SharedData → SharedData
  beforeStore : SharedData → SharedData
  beforeReturn : SharedData → SharedData
  allocates : Bool
  signals : Bool

/-- One iteration: the descriptor, and the reader and the mapping as it finds them. -/
structure Iteration where
  turn : IterationTurn
  descriptor : MessageDescriptor
  reader : Reader
  shared : SharedData

structure IterationEnd where
  completion : Completion (List Byte)
  reader : Reader
  shared : SharedData

namespace Iteration

variable (iteration : Iteration)

def sizeClass : ℕ := (findSizeClass iteration.descriptor.len).getD kClassCount

def chunk : ℕ := chunkIndex iteration.sizeClass iteration.descriptor.offset

def referenceBit : BitVec 32 := subscriberReferenceBit iteration.reader.slotIndex

/-- The mapping when the payload is read. -/
def atRead : SharedData := iteration.turn.beforeRead iteration.shared

/-- The mapping when the reference bit is cleared. -/
def atClear : SharedData := iteration.turn.beforeClear iteration.atRead

/-- The mapping when the read index is stored. -/
def atStore : SharedData :=
  iteration.turn.beforeStore (iteration.atClear.clearReference iteration.chunk
    iteration.referenceBit)

def readIndex : ℕ := Reader.incrementReadIndex iteration.reader.subscriberReadIndex

/-- The mapping with the read index stored. -/
def stored : SharedData :=
  iteration.atStore.storeReadIndex iteration.reader.slotIndex iteration.readIndex

/-- The mapping when the last holder returns the chunk. -/
def atReturn : SharedData := iteration.turn.beforeReturn iteration.stored

def LastHolder : Prop :=
  iteration.atClear.chunkReferenceCounts iteration.chunk = iteration.referenceBit

instance instDecidableLastHolder : Decidable iteration.LastHolder :=
  inferInstanceAs (Decidable (_ = _))

/-- The debug check finds the chunk marked, and the signal is taken. -/
def Returns : Prop :=
  iteration.atReturn.isInUse iteration.sizeClass
      (localChunkIndex iteration.sizeClass iteration.descriptor.offset) = true ∧
    iteration.turn.signals = true

/-- The mapping with the chunk behind its free list. -/
def returned : SharedData :=
  (iteration.atReturn.setInUse iteration.sizeClass
    (localChunkIndex iteration.sizeClass iteration.descriptor.offset) false).appendChunk
      iteration.sizeClass iteration.descriptor.offset

/-- The number that the reader expects, if it adopts the one that it finds first. -/
def expectedSeq : ℤ :=
  if iteration.reader.expectedSeq = -1 then
    wordInt (loadWord iteration.atRead.data (iteration.descriptor.offset + wordSize))
  else iteration.reader.expectedSeq

/-- The body of the loop of `read_data`. -/
def run : IterationEnd :=
  match iteration.reader.readPayload iteration.atRead iteration.descriptor with
  | (.error _, refused) =>
      { completion := .error .contiguousMessageConsumptionFailed
        reader := refused
        shared := iteration.atRead }
  | (.ok payload, copied) =>
      if iteration.turn.allocates = false then
        -- `emplace_back` throws before `++expected_seq`.
        { completion := .threw
          reader := { iteration.reader with expectedSeq := iteration.expectedSeq }
          shared := iteration.atRead }
      else
        let reader := { copied with
          subscriberReadIndex := iteration.readIndex
          cursor := copied.cursor + 1
          phase := .idle }
        if iteration.LastHolder then
          if iteration.atReturn.isInUse iteration.sizeClass
              (localChunkIndex iteration.sizeClass iteration.descriptor.offset) = false then
            { completion := .error .contiguousMessageConsumptionFailed
              reader
              shared := iteration.atReturn }
          else if iteration.turn.signals = false then
            { completion := .error .contiguousMessageConsumptionFailed
              reader
              shared := iteration.returned }
          else { completion := .ok payload, reader, shared := iteration.returned }
        else { completion := .ok payload, reader, shared := iteration.stored }

/-- The message passes the checks of `read_data`. -/
structure Passes : Prop where
  size : ∃ sizeClass, findSizeClass iteration.descriptor.len = some sizeClass ∧
    kFirstOffset sizeClass ≤ iteration.descriptor.offset ∧
    iteration.descriptor.offset ≤ kLastOffset sizeClass
  header : kMessageHeaderSizeBytes ≤ iteration.descriptor.len
  magic : loadWord iteration.atRead.data iteration.descriptor.offset = kMagic
  seq : wordInt (loadWord iteration.atRead.data (iteration.descriptor.offset + wordSize)) =
    iteration.expectedSeq

/-- The message gets into the batch. -/
def Accepted : Prop := iteration.Passes ∧ iteration.turn.allocates = true

/-- A last holder can return the chunk and signal the space. -/
def ReturnsIfLast : Prop := iteration.LastHolder → iteration.Returns

/-- The iteration has advanced the read index. -/
def Advances : Prop :=
  iteration.run.reader.subscriberReadIndex ≠ iteration.reader.subscriberReadIndex

instance instDecidablePredAdvances : DecidablePred Advances :=
  fun iteration => inferInstanceAs (Decidable
    (iteration.run.reader.subscriberReadIndex ≠ iteration.reader.subscriberReadIndex))

/-- The iteration makes the steps of the data plane on `payload`, each in the mapping that
the other parties have left: it copies the payload, clears the own reference, stores the
next read index, and tries to return the chunk if it was the last holder. -/
def Acknowledges (payload : List Byte) : Prop :=
  ∃ copied cleared advanced,
    iteration.reader.readPayload iteration.atRead iteration.descriptor =
        (.ok payload, copied) ∧
      copied.clearOwnReference iteration.atClear = some (cleared,
        iteration.atClear.clearReference iteration.chunk iteration.referenceBit) ∧
      cleared.storeOwnReadIndex iteration.atStore = some (advanced, iteration.stored) ∧
      iteration.run.reader = { advanced with phase := .idle } ∧
      if iteration.LastHolder then
        ∃ outcome returned, advanced.returnChunk iteration.atReturn =
          some (outcome, returned, iteration.run.shared)
      else iteration.run.shared = iteration.stored

/-- The iteration writes nothing and stays where it was. -/
def LeavesUnacknowledged : Prop :=
  iteration.run.shared = iteration.atRead ∧
    iteration.run.reader.subscriberReadIndex = iteration.reader.subscriberReadIndex

end Iteration

/-! ## The batch of one event -/

/-- How one of the three functions ends, `none` as long as it has not.  `iterations` and
`starved`, whether a vector of descriptors or of batches got no memory, are history. -/
structure BatchRun where
  completion : Option (Completion MessageBatch)
  iterations : List Iteration
  starved : Bool
  reader : Reader
  shared : SharedData

namespace BatchRun

def ended (completion : Completion MessageBatch) (reader : Reader) (shared : SharedData) :
    BatchRun where
  completion := some completion
  iterations := []
  starved := false
  reader := reader
  shared := shared

/-- The run that ends with a vector's `bad_alloc`. -/
def starving (run : BatchRun) : BatchRun :=
  { run with completion := some .threw, starved := true }

/-- The run that first made `iterations`. -/
def behind (iterations : List Iteration) (run : BatchRun) : BatchRun :=
  { run with iterations := iterations ++ run.iterations }

/-- The run with its batch moved behind `messages`, one by one unless there are none. -/
def join (joins : Bool) (messages : MessageBatch) (run : BatchRun) : BatchRun :=
  match run.completion with
  | some (.ok others) =>
      if joins = false ∧ messages ≠ [] ∧ others ≠ [] then run.starving
      else { run with completion := some (.ok (messages ++ others)) }
  | _ => run

def result (run : BatchRun) : Option (Except RunError MessageBatch) :=
  run.completion.bind Completion.result

/-- The iterations that have advanced the read index. -/
def acknowledged (run : BatchRun) : List Iteration :=
  run.iterations.filter Iteration.Advances

end BatchRun

/-- `read_data` with the `messages` that it has collected; `turns` are indexed by the number
of descriptors behind the one that is read. -/
def readData (turns : ℕ → IterationTurn) :
    List MessageDescriptor → MessageBatch → Reader → SharedData → BatchRun
  | [], messages, reader, shared => .ended (.ok messages) reader shared
  | descriptor :: rest, messages, reader, shared =>
      let iteration : Iteration := { turn := turns rest.length, descriptor, reader, shared }
      let last := iteration.run
      BatchRun.behind [iteration]
        (match last.completion with
        | .ok payload => readData turns rest (messages ++ [payload]) last.reader last.shared
        | .error error => .ended (.error error) last.reader last.shared
        | .threw => .ended .threw last.reader last.shared)

/-- What happens around one load of the write index in `consume_contiguous_messages`, and
whether the copy of the descriptors and the collected batch get their memory. -/
structure Segment where
  beforeLoad : SharedData → SharedData
  beforeCopy : SharedData → SharedData
  copies : Bool
  turns : ℕ → IterationTurn
  joins : Bool

/-- `consume_contiguous_messages` with the `messages` that it has collected; the loop goes
on while the writer is ahead, and the segments say what it finds at each load. -/
def consumeContiguousMessages :
    List Segment → MessageBatch → Reader → SharedData → BatchRun
  | [], _, reader, shared =>
      { completion := none, iterations := [], starved := false, reader, shared }
  | segment :: segments, messages, reader, shared =>
      let loaded := segment.beforeLoad shared
      let wr := loaded.descriptorWriteIndex
      if wr ≤ reader.subscriberReadIndex then .ended (.ok messages) reader loaded
      else if segment.copies = false then (BatchRun.ended .threw reader loaded).starving
      else
        let copied := segment.beforeCopy loaded
        let descRing := (List.range' reader.subscriberReadIndex
          (wr - reader.subscriberReadIndex)).map copied.descRing
        let read := (readData segment.turns descRing [] reader copied).join segment.joins
          messages
        match read.completion with
        | some (.ok messages) =>
            BatchRun.behind read.iterations
              (consumeContiguousMessages segments messages read.reader read.shared)
        | _ => read

/-- What happens around one event: whether its eventfd drains, what the others do before
the first load of the write index and before the copy of a wrapped segment, the segments of
`consume_contiguous_messages`, and whether the copy and the joined batch get their
memory. -/
structure EventScript where
  drains : Bool
  beforeInitialize : SharedData → SharedData
  beforeLoad : SharedData → SharedData
  copies : Bool
  beforeCopy : SharedData → SharedData
  wrappedTurns : ℕ → IterationTurn
  segments : List Segment
  joins : Bool

/-- `handle_data_available_event` on an attachment, or on an event descriptor that has
none.  The write index and the read indices are ring positions, as all parties keep
them. -/
def handleDataAvailableEvent (script : EventScript) (attachment : Option Reader)
    (shared : SharedData) : BatchRun :=
  match attachment with
  | none => .ended (.error .dataAvailableEventAttachmentMissing) (.attached 0 0) shared
  | some reader =>
      if script.drains = false then
        .ended (.error .dataAvailableEventReadFailed) reader shared
      else
        let found := script.beforeInitialize shared
        let reader := reader.initializeSubscriberReadIndex found
        let loaded := script.beforeLoad found
        let wr := loaded.descriptorWriteIndex
        if wr < reader.subscriberReadIndex then
          if script.copies = false then (BatchRun.ended .threw reader loaded).starving
          else
            let copied := script.beforeCopy loaded
            let descRing := (List.range' reader.subscriberReadIndex
              (kDescriptorSlotCount - reader.subscriberReadIndex)).map copied.descRing
            let wrapped := readData script.wrappedTurns descRing [] reader copied
            match wrapped.completion with
            | some (.ok messages) =>
                BatchRun.behind wrapped.iterations
                  ((consumeContiguousMessages script.segments [] wrapped.reader
                    wrapped.shared).join script.joins messages)
            | some .threw => wrapped
            | _ => { wrapped with completion := some (.error .wrappedDescriptorReadFailed) }
        else (consumeContiguousMessages script.segments [] reader loaded).join script.joins []

/-- What `subscribe` does with the result of a data event: it goes on waiting on an empty
batch, and returns otherwise. -/
def subscribeDataEvent (result : Except RunError MessageBatch) :
    Option (Except SubscribeError MessageBatch) :=
  match result with
  | .error error => some (.error (mapRunErrorToSubscribeError error))
  | .ok messages => if messages.isEmpty then none else some (.ok messages)

/-- The messages that the caller of `subscribe` gets from a data event; an exception leaves
`subscribe` as well. -/
def handedOver (completion : Completion MessageBatch) : MessageBatch :=
  match completion.result.bind subscribeDataEvent with
  | some (.ok messages) => messages
  | _ => []

/-! ## The errors of an event -/

theorem Iteration.run_error {iteration : Iteration} {error : RunError}
    (herror : iteration.run.completion = .error error) :
    error = .contiguousMessageConsumptionFailed := by
  unfold Iteration.run at herror
  repeat' split at herror
  all_goals cases herror
  all_goals rfl

theorem readData_error {turns : ℕ → IterationTurn} {descRing : List MessageDescriptor}
    {messages : MessageBatch} {reader : Reader} {shared : SharedData} {error : RunError}
    (herror : (readData turns descRing messages reader shared).completion =
      some (.error error)) : error = .contiguousMessageConsumptionFailed := by
  induction descRing generalizing messages reader shared with
  | nil => simp [readData, BatchRun.ended] at herror
  | cons descriptor rest ih =>
      rw [readData] at herror
      dsimp only [BatchRun.behind] at herror
      split at herror
      next => exact ih herror
      next hlast =>
        cases herror
        exact Iteration.run_error hlast
      next => simp [BatchRun.ended] at herror

/-- Joining batches adds no error. -/
theorem BatchRun.join_error {run : BatchRun} {joins : Bool} {messages : MessageBatch}
    {error : RunError} (herror : (run.join joins messages).completion = some (.error error)) :
    run.completion = some (.error error) := by
  unfold BatchRun.join at herror
  split at herror
  next =>
    split at herror
    next => simp [BatchRun.starving] at herror
    next => simp at herror
  next => exact herror

theorem consumeContiguousMessages_error {segments : List Segment} {messages : MessageBatch}
    {reader : Reader} {shared : SharedData} {error : RunError}
    (herror : (consumeContiguousMessages segments messages reader shared).completion =
      some (.error error)) : error = .contiguousMessageConsumptionFailed := by
  induction segments generalizing messages reader shared with
  | nil => cases herror
  | cons segment segments ih =>
      rw [consumeContiguousMessages] at herror
      dsimp only at herror
      split at herror
      next => simp [BatchRun.ended] at herror
      next =>
        split at herror
        next => simp [BatchRun.starving] at herror
        next =>
          split at herror
          next => exact ih herror
          next => exact readData_error (BatchRun.join_error herror)

theorem BatchRun.result_eq_error {run : BatchRun} {error : RunError}
    (herror : run.result = some (.error error)) : run.completion = some (.error error) := by
  obtain ⟨completion, hcompletion, hresult⟩ := Option.bind_eq_some_iff.mp herror
  cases completion with
  | ok | threw => cases hresult
  | error failure =>
      cases hresult
      exact hcompletion

/-- Whatever fails in a data event, `subscribe` reports a failed data path. -/
theorem handleDataAvailableEvent_error {script : EventScript} {attachment : Option Reader}
    {shared : SharedData} {error : RunError}
    (herror : (handleDataAvailableEvent script attachment shared).result =
      some (.error error)) : mapRunErrorToSubscribeError error = .dataPathFailed := by
  replace herror := BatchRun.result_eq_error herror
  cases attachment with
  | none =>
      cases herror
      rfl
  | some reader =>
      rw [handleDataAvailableEvent] at herror
      dsimp only at herror
      split at herror
      next =>
        cases herror
        rfl
      next =>
        split at herror
        next =>
          split at herror
          next => simp [BatchRun.starving] at herror
          next =>
            split at herror
            next =>
              rw [consumeContiguousMessages_error (BatchRun.join_error herror)]
              rfl
            next hthrew =>
              rw [hthrew] at herror
              cases herror
            next =>
              cases herror
              rfl
        next =>
          rw [consumeContiguousMessages_error (BatchRun.join_error herror)]
          rfl

end DriveBus.Synchronous.Subscriber
