import DriveBus.SharedMemory.Publisher

/-!
# The subscriber's side of the data plane

One iteration of `read_data` as the accesses it makes to shared memory, in
program order: the payload read with its checks, the reference bit clear, the
read index store, and, for the last holder, the return of the chunk and the
space signal.  The locals that live across these accesses are the iteration's
`Phase`.
-/

namespace DriveBus.SharedMemory

open DriveBus.ByteMemory

/-- The error returns of `read_data`, by the condition that triggers them.
All of them surface as `ContiguousMessageConsumptionFailed`. -/
inductive ReadFault
  | messageSizeClass
  | chunkOffset
  | messageHeaderSize
  | magicMismatch
  | seqMismatch
  | chunkDoubleFree
  deriving DecidableEq, Repr

/-- Where a subscriber is inside one `read_data` iteration, with the locals
`offset`, `message_size_bytes` and `size_class` and the outcome of the test
`previous_reference_count == subscriber_reference_bit`. -/
inductive Phase
  | idle
  | payloadRead (descriptor : MessageDescriptor) (sizeClass : ℕ)
  | bitCleared (descriptor : MessageDescriptor) (sizeClass : ℕ) (lastHolder : Bool)
  | indexStored (descriptor : MessageDescriptor) (sizeClass : ℕ)
  | chunkAppended
  deriving DecidableEq, Repr

/-- The members of `PublisherAttachment` that consumption uses, together with
the local copy `desc_ring` of the descriptors being consumed and the messages
handed over so far.  `joinedAt` and `cursor` are history: how many messages had
been published when the slot was tracked, and the unwrapped read index. -/
structure Reader where
  slotIndex : ℕ
  subscriberReadIndex : ℕ
  expectedSeq : ℤ
  descRing : List MessageDescriptor
  phase : Phase
  messages : List (List Byte)
  joinedAt : ℕ
  cursor : ℕ

namespace Reader

/-- A subscriber as the broker's attachment record creates it. -/
def attached (slotIndex published : ℕ) : Reader where
  slotIndex := slotIndex
  subscriberReadIndex := kInvalidIndex
  expectedSeq := -1
  descRing := []
  phase := .idle
  messages := []
  joinedAt := published
  cursor := published

/-- `initialize_subscriber_read_index`. -/
def initializeSubscriberReadIndex (reader : Reader) (shared : SharedData) : Reader :=
  if reader.subscriberReadIndex = kInvalidIndex then
    { reader with
      subscriberReadIndex := shared.descriptorReadIndices reader.slotIndex }
  else reader

/-- The descriptors copied for one call of `read_data`: the tail segment of
the ring when the writer has wrapped, otherwise the contiguous unread range. -/
def unreadSegment (shared : SharedData) (rd : ℕ) : List MessageDescriptor :=
  let wr := shared.descriptorWriteIndex
  let stop := if wr < rd then kDescriptorSlotCount else wr
  (List.range' rd (stop - rd)).map shared.descRing

/-- Between two calls of `read_data`: load the write index and copy a segment. -/
def fetchDescriptors (reader : Reader) (shared : SharedData) : Reader :=
  let initialized := reader.initializeSubscriberReadIndex shared
  { initialized with
    descRing := unreadSegment shared initialized.subscriberReadIndex }

/-- `read_data` up to and including `++expected_seq`. -/
def readPayload (reader : Reader) (shared : SharedData)
    (descriptor : MessageDescriptor) : Except ReadFault (List Byte) × Reader :=
  let offset := descriptor.offset
  let messageSizeBytes := descriptor.len
  match findSizeClass messageSizeBytes with
  | none => (.error .messageSizeClass, reader)
  | some sizeClass =>
      if offset < kFirstOffset sizeClass ∨ kLastOffset sizeClass < offset then
        (.error .chunkOffset, reader)
      else if messageSizeBytes < kMessageHeaderSizeBytes then
        (.error .messageHeaderSize, reader)
      else
        let magic := loadWord shared.data offset
        let seq := wordInt (loadWord shared.data (offset + wordSize))
        let expecting :=
          if reader.expectedSeq = -1 then { reader with expectedSeq := seq }
          else reader
        if magic ≠ kMagic then (.error .magicMismatch, expecting)
        else if seq ≠ expecting.expectedSeq then (.error .seqMismatch, expecting)
        else
          let payload := load shared.data (offset + kMessageHeaderSizeBytes)
            (messageSizeBytes - kMessageHeaderSizeBytes)
          (.ok payload, { expecting with
            messages := expecting.messages ++ [payload]
            expectedSeq := expecting.expectedSeq + 1
            phase := .payloadRead descriptor sizeClass })

/-- Take the next copied descriptor and start its iteration.  An error ends the
call of `read_data` and drops the rest of the copy. -/
def startIteration (reader : Reader) (shared : SharedData) :
    Option (Except ReadFault (List Byte) × Reader) :=
  match reader.phase, reader.descRing with
  | .idle, descriptor :: rest =>
      match readPayload { reader with descRing := rest } shared descriptor with
      | (.ok payload, started) => some (.ok payload, started)
      | (.error fault, stopped) => some (.error fault, { stopped with descRing := [] })
  | _, _ => none

/-- The `fetch_and` that gives up the subscriber's own reference. -/
def clearOwnReference (reader : Reader) (shared : SharedData) :
    Option (Reader × SharedData) :=
  match reader.phase with
  | .payloadRead descriptor sizeClass =>
      let chunk := chunkIndex sizeClass descriptor.offset
      let referenceBit := subscriberReferenceBit reader.slotIndex
      let previousReferenceCount := shared.chunkReferenceCounts chunk
      some ({ reader with
          phase := .bitCleared descriptor sizeClass
            (previousReferenceCount = referenceBit) },
        shared.clearReference chunk referenceBit)
  | _ => none

def incrementReadIndex (readIndex : ℕ) : ℕ :=
  if kDescriptorSlotCount ≤ readIndex + 1 then (readIndex + 1) % kDescriptorSlotCount
  else readIndex + 1

/-- The local increment and the store of the shared read index.  Unless the
subscriber was the last holder, this ends the iteration. -/
def storeOwnReadIndex (reader : Reader) (shared : SharedData) :
    Option (Reader × SharedData) :=
  match reader.phase with
  | .bitCleared descriptor sizeClass lastHolder =>
      let readIndex := incrementReadIndex reader.subscriberReadIndex
      some ({ reader with
          subscriberReadIndex := readIndex
          cursor := reader.cursor + 1
          phase := if lastHolder then .indexStored descriptor sizeClass else .idle },
        shared.storeReadIndex reader.slotIndex readIndex)
  | _ => none

/-- The debug check of the usage tracker and the append of the chunk. -/
def returnChunk (reader : Reader) (shared : SharedData) :
    Option (Except ReadFault Unit × Reader × SharedData) :=
  match reader.phase with
  | .indexStored descriptor sizeClass =>
      let localChunk := localChunkIndex sizeClass descriptor.offset
      if shared.isInUse sizeClass localChunk = false then
        some (.error .chunkDoubleFree, { reader with phase := .idle, descRing := [] },
          shared)
      else
        some (.ok (), { reader with phase := .chunkAppended },
          (shared.setInUse sizeClass localChunk false).appendChunk sizeClass
            descriptor.offset)
  | _ => none

/-- The space signal that ends the last holder's iteration. -/
def signalSpaceAvailable (reader : Reader) (spaceAvailable : ℕ) :
    Option (Reader × ℕ) :=
  match reader.phase with
  | .chunkAppended =>
      some ({ reader with phase := .idle }, min (spaceAvailable + 1) kEventfdMaxCount)
  | _ => none

end Reader

end DriveBus.SharedMemory
