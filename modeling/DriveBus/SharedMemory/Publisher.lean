import DriveBus.Library.HolderMask
import DriveBus.Library.UnorderedMap
import DriveBus.SharedMemory.Layout

/-!
# The publisher's side of the data plane

The functions of `Publisher` that read or write the shared mapping, as the
publisher process runs them: the ring admission test, `try_publish_one`,
`track_subscriber` and `reap_dead_subscribers`, with every early return.  A
loop over descriptors or over event descriptors is a recursion over the list
of its iterations.
-/

namespace DriveBus.SharedMemory

open DriveBus.ByteMemory

/-! ## Result types -/

inductive PublishAttempt
  | succeeded
  | blocked
  deriving DecidableEq, Repr

inductive RunError
  | none
  | epollWaitFailed
  | unexpectedEpollTimeout
  | publishWorkEventReadFailed
  | messageSizeClassInvalid
  | publishAttemptFailed
  | publishWorkRescheduleFailed
  | spaceAvailableEventReadFailed
  | publishWorkResumeFailed
  | chunkReferenceReleaseFailed
  | deadSubscriberReapFailed
  | brokerClosed
  | brokerControlMessageTooShort
  | brokerControlMessageProcessingFailed
  | dynamicSubscriberRegistrationFailed
  | publishWorkBrokerResumeFailed
  | dataAvailableSignalFailed
  | shutdownEventReadFailed
  | workerException
  deriving DecidableEq, Repr

inductive SubscriberTrackingError
  | slotOutOfRange
  | slotAlreadyTracked
  | eventFdAlreadyTracked
  deriving DecidableEq, Repr

/-! ## Event descriptors -/

/-- The counters of the eventfds open in a process, by descriptor number. -/
abbrev EventFdTable := ℕ → Option ℕ

def kEventfdMaxCount : ℕ := 2 ^ 64 - 2

/-- `signal_eventfd`: writing to a saturated counter gives `EAGAIN`, which
counts as success; a descriptor that is not open gives `EBADF`. -/
def signalEventfd (eventFds : EventFdTable) (eventFd : ℕ) : Bool × EventFdTable :=
  match eventFds eventFd with
  | none => (false, eventFds)
  | some count =>
      if count < kEventfdMaxCount then
        (true, Function.update eventFds eventFd (some (count + 1)))
      else (true, eventFds)

/-! ## Single accesses to the mapping -/

namespace SharedData

def storeReadIndex (shared : SharedData) (slot index : ℕ) : SharedData :=
  { shared with
    descriptorReadIndices := Function.update shared.descriptorReadIndices slot index }

def storeWriteIndex (shared : SharedData) (index : ℕ) : SharedData :=
  { shared with descriptorWriteIndex := index }

def storeDescriptor (shared : SharedData) (index : ℕ)
    (descriptor : MessageDescriptor) : SharedData :=
  { shared with descRing := Function.update shared.descRing index descriptor }

def storeHead (shared : SharedData) (sizeClass offset : ℕ) : SharedData :=
  { shared with head := Function.update shared.head sizeClass offset }

def storeTail (shared : SharedData) (sizeClass offset : ℕ) : SharedData :=
  { shared with tail := Function.update shared.tail sizeClass offset }

/-- Write `offset` into the first word of the chunk at `lastTailOff`. -/
def storeLink (shared : SharedData) (lastTailOff offset : ℕ) : SharedData :=
  { shared with data := storeWord shared.data lastTailOff offset }

def setInUse (shared : SharedData) (sizeClass localChunk : ℕ) (inUse : Bool) :
    SharedData :=
  { shared with
    isInUse := Function.update shared.isInUse sizeClass
      (Function.update (shared.isInUse sizeClass) localChunk inUse) }

/-- The update of `chunk_reference_counts[chunk].fetch_and(~bit)`. -/
def clearReference (shared : SharedData) (chunk : ℕ) (bit : BitVec 32) : SharedData :=
  { shared with
    chunkReferenceCounts := Function.update shared.chunkReferenceCounts chunk
      (shared.chunkReferenceCounts chunk &&& ~~~bit) }

/-- The update of `chunk_reference_counts[chunk].fetch_add(mask)`. -/
def addReferences (shared : SharedData) (chunk : ℕ) (mask : BitVec 32) : SharedData :=
  { shared with
    chunkReferenceCounts := Function.update shared.chunkReferenceCounts chunk
      (shared.chunkReferenceCounts chunk + mask) }

/-- Return a chunk to its free list: load the tail, link the chunk behind it,
store the new tail. -/
def appendChunk (shared : SharedData) (sizeClass offset : ℕ) : SharedData :=
  (shared.storeLink (shared.tail sizeClass) offset).storeTail sizeClass offset

end SharedData

/-! ## The publisher process -/

/-- The members of `Publisher` that the data path uses. -/
structure Publisher where
  dataAvailableEventFds : List ℕ
  subscriberSlotIndexByDataAvailableEventFd : AList fun _ : ℕ => ℕ
  dataAvailableEventFdBySubscriberSlotIndex : ℕ → ℕ
  seq : ℤ

/-- A publisher together with its mapping and its event descriptors. -/
structure PublisherProcess where
  shared : SharedData
  publisher : Publisher
  eventFds : EventFdTable

def kMessageHeaderSizeBytes : ℕ := 2 * wordSize

def kMaxPayloadSizeBytes : ℕ :=
  kClassSizeBytes (kClassCount - 1) - kMessageHeaderSizeBytes

/-- `1 << slot`. -/
abbrev subscriberReferenceBit (slot : ℕ) : BitVec 32 := HolderMask.bit 32 slot

/-! ## The ring admission test -/

/-- The two running minima of `find_slowest_read_index`. -/
structure SlowestReadIndices where
  beforeWrite : ℕ
  afterWrite : ℕ

def scanReadIndex (wr : ℕ) (slowest : SlowestReadIndices) (readIndex : ℕ) :
    SlowestReadIndices :=
  if readIndex = kInvalidIndex then slowest
  else if readIndex ≤ wr then
    { slowest with afterWrite := min slowest.afterWrite readIndex }
  else { slowest with beforeWrite := min slowest.beforeWrite readIndex }

def findSlowestReadIndex (shared : SharedData) : ℕ :=
  let slowest := (List.range kMaxSubscribers).foldl
    (fun slowest slot => scanReadIndex shared.descriptorWriteIndex slowest
      (shared.descriptorReadIndices slot))
    { beforeWrite := kInvalidIndex, afterWrite := kInvalidIndex }
  if slowest.beforeWrite ≠ kInvalidIndex then slowest.beforeWrite
  else slowest.afterWrite

/-- The descriptor part of the backpressure test, in `uint32_t` arithmetic. -/
def DescriptorsBlocked (minDescriptorReadIndex wr : ℕ) : Prop :=
  minDescriptorReadIndex = kInvalidIndex ∨
    (wr < minDescriptorReadIndex ∧ minDescriptorReadIndex ≤ (wr + 1) % 2 ^ 32) ∨
    (minDescriptorReadIndex + kDescriptorSlotCount) % 2 ^ 32 ≤ (wr + 1) % 2 ^ 32

instance (minDescriptorReadIndex wr : ℕ) :
    Decidable (DescriptorsBlocked minDescriptorReadIndex wr) :=
  inferInstanceAs (Decidable (_ ∨ _))

/-! ## `try_publish_one` -/

/-- The loop that collects the slots of all tracked subscribers; `none` when
an event descriptor has no slot. -/
def chunkReferenceMask (slotByEventFd : AList fun _ : ℕ => ℕ) :
    List ℕ → BitVec 32 → Option (BitVec 32)
  | [], mask => some mask
  | eventFd :: eventFds, mask =>
      match slotByEventFd.lookup eventFd with
      | none => none
      | some slot =>
          chunkReferenceMask slotByEventFd eventFds
            (mask + subscriberReferenceBit slot)

/-- The loop that signals every subscriber, up to the first failure. -/
def signalSubscribers : List ℕ → EventFdTable → Bool × EventFdTable
  | [], eventFds => (true, eventFds)
  | eventFd :: rest, eventFds =>
      match signalEventfd eventFds eventFd with
      | (true, signalled) => signalSubscribers rest signalled
      | (false, signalled) => (false, signalled)

def nextWriteIndex (wr : ℕ) : ℕ :=
  let candidate := (wr + 1) % kDescriptorSlotCount
  if kDescriptorSlotCount ≤ candidate then candidate % kDescriptorSlotCount
  else candidate

/-- Mark the head chunk as used and pop it. -/
def SharedData.popChunk (shared : SharedData) (sizeClass headOff : ℕ) : SharedData :=
  (shared.setInUse sizeClass (localChunkIndex sizeClass headOff) true).storeHead
    sizeClass (shared.link headOff)

/-- Write the descriptor, the header words and the payload bytes. -/
def SharedData.writeMessage (shared : SharedData) (wr headOff : ℕ) (seq : ℤ)
    (payload : List Byte) : SharedData :=
  let described := shared.storeDescriptor wr
    { offset := headOff, len := payload.length + kMessageHeaderSizeBytes }
  let data := storeWord described.data headOff kMagic
  let data := storeWord data (headOff + wordSize) (intWord seq)
  { described with
    data :=
      if payload.isEmpty then data
      else store data (headOff + kMessageHeaderSizeBytes) payload }

/-- The part of `try_publish_one` after all its checks. -/
def publishChunk (process : PublisherProcess) (payload : List Byte)
    (sizeClass headOff : ℕ) : Except RunError PublishAttempt × PublisherProcess :=
  let wr := process.shared.descriptorWriteIndex
  let written := (process.shared.popChunk sizeClass headOff).writeMessage wr headOff
    process.publisher.seq payload
  let publisher := { process.publisher with seq := process.publisher.seq + 1 }
  match chunkReferenceMask publisher.subscriberSlotIndexByDataAvailableEventFd
      publisher.dataAvailableEventFds 0 with
  | none =>
      (.error .publishAttemptFailed, { process with shared := written, publisher })
  | some mask =>
      let shared := (written.addReferences (chunkIndex sizeClass headOff) mask).storeWriteIndex
        (nextWriteIndex wr)
      match signalSubscribers publisher.dataAvailableEventFds process.eventFds with
      | (false, eventFds) =>
          (.error .publishAttemptFailed, { shared, publisher, eventFds })
      | (true, eventFds) => (.ok .succeeded, { shared, publisher, eventFds })

def tryPublishOne (process : PublisherProcess) (payload : List Byte) :
    Except RunError PublishAttempt × PublisherProcess :=
  let minDescriptorReadIndex := findSlowestReadIndex process.shared
  if 2 ^ 32 - 1 - kMessageHeaderSizeBytes < payload.length then
    (.error .messageSizeClassInvalid, process)
  else
    match findSizeClass (payload.length + kMessageHeaderSizeBytes) with
    | none => (.error .messageSizeClassInvalid, process)
    | some sizeClass =>
        let wr := process.shared.descriptorWriteIndex
        if DescriptorsBlocked minDescriptorReadIndex wr then (.ok .blocked, process)
        else
          let headOff := process.shared.head sizeClass
          let tailOff := process.shared.tail sizeClass
          if headOff = tailOff then (.ok .blocked, process)
          else if headOff < kFirstOffset sizeClass ∨ kLastOffset sizeClass < headOff then
            (.error .publishAttemptFailed, process)
          else if process.shared.isInUse sizeClass (localChunkIndex sizeClass headOff) then
            (.error .publishAttemptFailed, process)
          else publishChunk process payload sizeClass headOff

/-! ## Tracking and reaping subscribers -/

/-- `track_subscriber`; on an error the guard closes the received descriptor. -/
def trackSubscriber (process : PublisherProcess)
    (dataAvailableEventFd slotIndex : ℕ) :
    Option SubscriberTrackingError × PublisherProcess :=
  let closed := { process with
    eventFds := Function.update process.eventFds dataAvailableEventFd none }
  if kMaxSubscribers ≤ slotIndex then (some .slotOutOfRange, closed)
  else if process.shared.descriptorReadIndices slotIndex ≠ kInvalidIndex then
    (some .slotAlreadyTracked, closed)
  else if (process.publisher.subscriberSlotIndexByDataAvailableEventFd.lookup
      dataAvailableEventFd).isSome then
    (some .eventFdAlreadyTracked, closed)
  else
    (none, { process with
      publisher := { process.publisher with
        subscriberSlotIndexByDataAvailableEventFd :=
          process.publisher.subscriberSlotIndexByDataAvailableEventFd.insert
            dataAvailableEventFd slotIndex
        dataAvailableEventFds :=
          process.publisher.dataAvailableEventFds ++ [dataAvailableEventFd]
        dataAvailableEventFdBySubscriberSlotIndex :=
          Function.update process.publisher.dataAvailableEventFdBySubscriberSlotIndex
            slotIndex dataAvailableEventFd }
      shared := process.shared.storeReadIndex slotIndex
        process.shared.descriptorWriteIndex })

/-- One iteration of `release_chunk_references_in_descriptor_range`.  A length
of no size class would make the source index its tables out of bounds; the
model's tables are zero there, and no reachable descriptor has such a length. -/
def releaseChunkReference (shared : SharedData) (referenceBit : BitVec 32)
    (index : ℕ) : RunError × SharedData :=
  let offset := (shared.descRing index).offset
  let sizeClass := (findSizeClass (shared.descRing index).len).getD kClassCount
  let chunk := chunkIndex sizeClass offset
  let previousReferenceCount := shared.chunkReferenceCounts chunk
  let cleared := shared.clearReference chunk referenceBit
  if previousReferenceCount = referenceBit then
    if cleared.isInUse sizeClass (localChunkIndex sizeClass offset) = false then
      (.chunkReferenceReleaseFailed, cleared)
    else
      (.none, (cleared.setInUse sizeClass (localChunkIndex sizeClass offset)
        false).appendChunk sizeClass offset)
  else (.none, cleared)

def releaseChunkReferences (referenceBit : BitVec 32) :
    List ℕ → SharedData → RunError × SharedData
  | [], shared => (.none, shared)
  | index :: indices, shared =>
      match releaseChunkReference shared referenceBit index with
      | (.none, released) => releaseChunkReferences referenceBit indices released
      | (failed, released) => (failed, released)

def releaseChunkReferencesInDescriptorRange (shared : SharedData)
    (start stop : ℕ) (referenceBit : BitVec 32) : RunError × SharedData :=
  releaseChunkReferences referenceBit (List.range' start (stop - start)) shared

/-- The two calls that release everything between a read and the write index. -/
def releaseUnreadReferences (shared : SharedData) (rd wr : ℕ)
    (referenceBit : BitVec 32) : RunError × SharedData :=
  if wr < rd then
    match releaseChunkReferencesInDescriptorRange shared rd kDescriptorSlotCount
        referenceBit with
    | (.none, released) =>
        releaseChunkReferencesInDescriptorRange released 0 wr referenceBit
    | (failed, released) => (failed, released)
  else releaseChunkReferencesInDescriptorRange shared rd wr referenceBit

/-- Drop a retired slot from the three tables and close its event descriptor. -/
def forgetSubscriber (process : PublisherProcess) (slotIndex : ℕ) :
    RunError × PublisherProcess :=
  let eventFd :=
    process.publisher.dataAvailableEventFdBySubscriberSlotIndex slotIndex
  if process.publisher.subscriberSlotIndexByDataAvailableEventFd.lookup eventFd ≠
      some slotIndex then
    (.deadSubscriberReapFailed, process)
  else
    (.none, { process with
      publisher := { process.publisher with
        subscriberSlotIndexByDataAvailableEventFd :=
          process.publisher.subscriberSlotIndexByDataAvailableEventFd.erase eventFd
        dataAvailableEventFds :=
          process.publisher.dataAvailableEventFds.filter (· ≠ eventFd) }
      eventFds := Function.update process.eventFds eventFd none })

def reapDeadSubscribers (process : PublisherProcess) (slotIndex : ℕ) :
    RunError × PublisherProcess :=
  if kMaxSubscribers ≤ slotIndex then (.deadSubscriberReapFailed, process)
  else
    let rd := process.shared.descriptorReadIndices slotIndex
    if rd = kInvalidIndex then (.deadSubscriberReapFailed, process)
    else
      let wr := process.shared.descriptorWriteIndex
      match releaseUnreadReferences process.shared rd wr
          (subscriberReferenceBit slotIndex) with
      | (.none, released) =>
          forgetSubscriber { process with
            shared := released.storeReadIndex slotIndex kInvalidIndex } slotIndex
      | (failed, released) => (failed, { process with shared := released })

end DriveBus.SharedMemory
