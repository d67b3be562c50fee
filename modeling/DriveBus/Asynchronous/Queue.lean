import DriveBus.SharedMemory.Publisher

/-!
# The queue of an asynchronous publisher

The messages that `publish(payload)` has accepted and the worker has not settled
yet: one in flight and the pending ones behind it.  Every section that runs under
`publish_state_mutex_` is one function.  A message carries the number of its
promise, and `Journal` is the history of the promises and of the shared ring.
-/

namespace DriveBus.Asynchronous

open DriveBus.ByteMemory DriveBus.SharedMemory

/-! ## Messages -/

inductive PublishCompletion
  | published
  | overwritten
  | workerStopped
  | workerFailed
  deriving DecidableEq, Repr

inductive PublishDisposition
  | published
  | enqueued
  | enqueuedAfterOverwritingOldest
  deriving DecidableEq, Repr

inductive PublishError
  | modeMismatch
  | payloadTooLarge
  | workerExited
  | notificationFailed
  | timeout
  | eventWaitFailed
  | brokerUnavailable
  | dataPathFailed
  deriving DecidableEq, Repr

/-- A queued payload; `ticket` names its `completion_promise`. -/
structure PendingMessage where
  payload : List Byte
  ticket : ℕ
  deriving DecidableEq, Repr

inductive InFlightState
  | publishing
  | blocked
  deriving DecidableEq, Repr

structure InFlightMessage where
  message : PendingMessage
  state : InFlightState
  deriving DecidableEq, Repr

def kMaxOutstandingMessages : ℕ := 64
def kMaxPublishesPerWorkEvent : ℕ := 64

/-- `in_flight_message_` and `pending_messages_`. -/
structure MessageQueue where
  inFlight : Option InFlightMessage
  pending : List PendingMessage
  deriving DecidableEq, Repr

namespace MessageQueue

def empty : MessageQueue where
  inFlight := none
  pending := []

/-- The message in flight followed by the pending ones. -/
def outstanding (queue : MessageQueue) : List PendingMessage :=
  (queue.inFlight.map InFlightMessage.message).toList ++ queue.pending

def queuedMessageCount (queue : MessageQueue) : ℕ :=
  queue.pending.length + if queue.inFlight.isSome then 1 else 0

@[simp]
theorem length_outstanding (queue : MessageQueue) :
    queue.outstanding.length = queue.queuedMessageCount := by
  obtain ⟨inFlight, pending⟩ := queue
  cases inFlight <;> simp [outstanding, queuedMessageCount]

/-! ## The producer's section -/

/-- Move the message to be overwritten out of a full queue: the one in flight if it
is blocked, else the first pending one. -/
def takeOverwritten (queue : MessageQueue) : Option PendingMessage × MessageQueue :=
  if kMaxOutstandingMessages ≤ queue.queuedMessageCount then
    match queue.inFlight, queue.pending with
    | some ⟨message, .blocked⟩, pending => (some message, ⟨none, pending⟩)
    | inFlight, message :: pending => (some message, ⟨inFlight, pending⟩)
    | _, [] => (none, queue)
  else (none, queue)

def pushBack (queue : MessageQueue) (message : PendingMessage) : MessageQueue :=
  { queue with pending := queue.pending ++ [message] }

def popBack (queue : MessageQueue) : MessageQueue :=
  { queue with pending := queue.pending.dropLast }

def pushFront (queue : MessageQueue) (message : PendingMessage) : MessageQueue :=
  { queue with pending := message :: queue.pending }

end MessageQueue

/-- What the environment does to one call: whether the copy into the queue finds
memory, whether the work event is signalled, and whether putting the overwritten
message back finds memory. -/
structure EnqueueEnv where
  copies : Bool
  signals : Bool
  reinserts : Bool
  deriving DecidableEq, Repr

/-- How the producer's section ends.  An exception destroys the message that has been
moved out, together with its promise. -/
inductive EnqueueResult
  | accepted (overwritten : Option PendingMessage)
  | notificationFailed
  | thrown (destroyed : Option PendingMessage)
  deriving DecidableEq, Repr

def MessageQueue.enqueue (queue : MessageQueue) (env : EnqueueEnv)
    (message : PendingMessage) : EnqueueResult × MessageQueue :=
  let (overwritten, taken) := queue.takeOverwritten
  if env.copies then
    let grown := taken.pushBack message
    if env.signals then (.accepted overwritten, grown)
    else
      let shrunk := grown.popBack
      match overwritten with
      | none => (.notificationFailed, shrunk)
      | some victim =>
          if env.reinserts then (.notificationFailed, shrunk.pushFront victim)
          else (.thrown (some victim), shrunk)
  else (.thrown overwritten, taken)

/-! ## The worker's sections -/

namespace MessageQueue

/-- Put the next message in flight. -/
def beginPublishing (queue : MessageQueue) : Option (PendingMessage × MessageQueue) :=
  match queue.inFlight, queue.pending with
  | some inFlight, pending =>
      some (inFlight.message, ⟨some ⟨inFlight.message, .publishing⟩, pending⟩)
  | none, message :: pending => some (message, ⟨some ⟨message, .publishing⟩, pending⟩)
  | none, [] => none

/-- The attempt was blocked. -/
def block (queue : MessageQueue) : MessageQueue :=
  { queue with inFlight := queue.inFlight.map fun inFlight => ⟨inFlight.message, .blocked⟩ }

/-- The message in flight has been published. -/
def clearInFlight (queue : MessageQueue) : MessageQueue :=
  { queue with inFlight := none }

end MessageQueue

/-! ## Space for the next message -/

inductive PublishReadiness
  | ready
  | blocked
  | noMessage
  deriving DecidableEq, Repr

/-- `can_publish_next_message`. -/
def canPublishNextMessage (shared : SharedData) (queue : MessageQueue) :
    Except RunError PublishReadiness :=
  match queue.outstanding with
  | [] => .ok .noMessage
  | message :: _ =>
      match findSizeClass (kMessageHeaderSizeBytes + message.payload.length) with
      | none => .error .messageSizeClassInvalid
      | some sizeClass =>
          if DescriptorsBlocked (findSlowestReadIndex shared) shared.descriptorWriteIndex then
            .ok .blocked
          else if shared.head sizeClass = shared.tail sizeClass then .ok .blocked
          else .ok .ready

/-! ## History -/

/-- The history of one shared ring: the messages whose `publish` returned a ticket,
the messages that appeared in the ring, the messages that an exception destroyed, and
the values each promise was set to. -/
structure Journal where
  nextTicket : ℕ
  accepted : List PendingMessage
  appended : List PendingMessage
  destroyed : List PendingMessage
  completions : ℕ → List PublishCompletion

namespace Journal

def empty : Journal where
  nextTicket := 0
  accepted := []
  appended := []
  destroyed := []
  completions := fun _ => []

def setValue (journal : Journal) (completion : PublishCompletion) (message : PendingMessage) :
    Journal :=
  { journal with
    completions := Function.update journal.completions message.ticket
      (journal.completions message.ticket ++ [completion]) }

def destroy (journal : Journal) (message : PendingMessage) : Journal :=
  { journal with destroyed := journal.destroyed ++ [message] }

end Journal

/-- The bytes that an attempt has added to the ring, read back through the
descriptor at the old write index. -/
def appendedPayload (before after : SharedData) : Option (List Byte) :=
  if after.descriptorWriteIndex = before.descriptorWriteIndex then none
  else
    let descriptor := after.descRing before.descriptorWriteIndex
    some (load after.data (descriptor.offset + kMessageHeaderSizeBytes)
      (descriptor.len - kMessageHeaderSizeBytes))

end DriveBus.Asynchronous
