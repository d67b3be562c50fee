import DriveBus.Library.Transition
import DriveBus.SharedMemory.Subscriber

/-!
# The data plane as a transition system

One publisher and the subscribers attached to its slots.  A publisher function
runs as one step; a subscriber's iteration is split at its shared memory
accesses, and the steps of all parties interleave freely.  `published` and
`retired` are history: the messages whose `try_publish_one` returned
`Succeeded`, and the subscribers that have been reaped.
-/

namespace DriveBus.SharedMemory

open DriveBus.ByteMemory DriveBus.Transition

structure Message where
  payload : List Byte
  descriptor : MessageDescriptor
  deriving DecidableEq

structure State extends PublisherProcess where
  spaceAvailable : ℕ
  readers : ℕ → Option Reader
  published : List Message
  retired : List Reader

inductive Action
  | publish (payload : List Byte)
  | track (dataAvailableEventFd slotIndex : ℕ)
  | reap (slotIndex : ℕ)
  | fetchDescriptors (slotIndex : ℕ)
  | readPayload (slotIndex : ℕ)
  | clearReference (slotIndex : ℕ)
  | storeReadIndex (slotIndex : ℕ)
  | returnChunk (slotIndex : ℕ)
  | signalSpace (slotIndex : ℕ)

/-- What the function that a step runs returns. -/
inductive Outcome
  | publish (result : Except RunError PublishAttempt)
  | track (error : Option SubscriberTrackingError)
  | reap (error : RunError)
  | readPayload (result : Except ReadFault (List Byte))
  | returnChunk (result : Except ReadFault Unit)
  | done

namespace State

def setReader (state : State) (slotIndex : ℕ) (reader : Reader) : State :=
  { state with readers := Function.update state.readers slotIndex (some reader) }

def publish (state : State) (payload : List Byte) : Outcome × State :=
  let wr := state.shared.descriptorWriteIndex
  let (result, process) := tryPublishOne state.toPublisherProcess payload
  (.publish result, { state with
    toPublisherProcess := process
    published :=
      if result matches .ok .succeeded then
        state.published ++ [{ payload, descriptor := process.shared.descRing wr }]
      else state.published })

/-- A registration record arrives: the kernel installs its descriptor under an
unused number, and the subscriber starts from its fresh attachment. -/
def track (state : State) (dataAvailableEventFd slotIndex : ℕ) :
    Option (Outcome × State) :=
  if (state.eventFds dataAvailableEventFd).isSome then none
  else
    let received := { state.toPublisherProcess with
      eventFds := Function.update state.eventFds dataAvailableEventFd (some 0) }
    match trackSubscriber received dataAvailableEventFd slotIndex with
    | (none, process) =>
        some (.track none, { state with
          toPublisherProcess := process
          readers := Function.update state.readers slotIndex
            (some (Reader.attached slotIndex state.published.length)) })
    | (some error, process) =>
        some (.track (some error), { state with toPublisherProcess := process })

/-- The subscriber of the slot has stopped for good and the publisher hears of
it. -/
def reap (state : State) (slotIndex : ℕ) : Option (Outcome × State) :=
  match state.readers slotIndex with
  | none => none
  | some reader =>
      let (error, process) := reapDeadSubscribers state.toPublisherProcess slotIndex
      some (.reap error, { state with
        toPublisherProcess := process
        readers := Function.update state.readers slotIndex none
        retired := state.retired ++ [reader] })

def fetchDescriptors (state : State) (slotIndex : ℕ) : Option (Outcome × State) :=
  match state.readers slotIndex with
  | none => none
  | some reader =>
      if reader.phase = .idle ∧ reader.descRing = [] then
        some (.done, state.setReader slotIndex (reader.fetchDescriptors state.shared))
      else none

def readPayload (state : State) (slotIndex : ℕ) : Option (Outcome × State) := do
  let reader ← state.readers slotIndex
  let (result, started) ← reader.startIteration state.shared
  some (.readPayload result, state.setReader slotIndex started)

def clearReference (state : State) (slotIndex : ℕ) : Option (Outcome × State) := do
  let reader ← state.readers slotIndex
  let (cleared, shared) ← reader.clearOwnReference state.shared
  some (.done, { state with shared }.setReader slotIndex cleared)

def storeReadIndex (state : State) (slotIndex : ℕ) : Option (Outcome × State) := do
  let reader ← state.readers slotIndex
  let (stored, shared) ← reader.storeOwnReadIndex state.shared
  some (.done, { state with shared }.setReader slotIndex stored)

def returnChunk (state : State) (slotIndex : ℕ) : Option (Outcome × State) := do
  let reader ← state.readers slotIndex
  let (result, returned, shared) ← reader.returnChunk state.shared
  some (.returnChunk result, { state with shared }.setReader slotIndex returned)

def signalSpace (state : State) (slotIndex : ℕ) : Option (Outcome × State) := do
  let reader ← state.readers slotIndex
  let (signalled, spaceAvailable) ← reader.signalSpaceAvailable state.spaceAvailable
  some (.done, { state with spaceAvailable }.setReader slotIndex signalled)

def step (state : State) : Action → Option (Outcome × State)
  | .publish payload => some (state.publish payload)
  | .track dataAvailableEventFd slotIndex => state.track dataAvailableEventFd slotIndex
  | .reap slotIndex => state.reap slotIndex
  | .fetchDescriptors slotIndex => state.fetchDescriptors slotIndex
  | .readPayload slotIndex => state.readPayload slotIndex
  | .clearReference slotIndex => state.clearReference slotIndex
  | .storeReadIndex slotIndex => state.storeReadIndex slotIndex
  | .returnChunk slotIndex => state.returnChunk slotIndex
  | .signalSpace slotIndex => state.signalSpace slotIndex

/-- A created publisher: the mapping is initialized and nobody is tracked. -/
def created (mapped : SharedData) : State where
  shared := initializeSharedData mapped
  publisher :=
    { dataAvailableEventFds := []
      subscriberSlotIndexByDataAvailableEventFd := ∅
      dataAvailableEventFdBySubscriberSlotIndex := fun _ => 0
      seq := 0 }
  eventFds := fun _ => none
  spaceAvailable := 0
  readers := fun _ => none
  published := []
  retired := []

end State

/-- The data plane over a fresh mapping. -/
def dataPlane (mapped : SharedData) : System State Action where
  initial := State.created mapped
  next state action := (state.step action).map Prod.snd

/-- The steps of a subscriber. -/
def ConsumesMessages : Action → Prop
  | .publish _ | .track .. | .reap _ => False
  | _ => True

instance instDecidableConsumesMessages (action : Action) :
    Decidable (ConsumesMessages action) := by
  cases action <;> simp only [ConsumesMessages] <;> infer_instance

/-- The side condition under which only subscribers that stopped between two
messages are reaped. -/
def StopsBetweenMessages (state : State) : Action → Prop
  | .reap slotIndex => ∀ reader, state.readers slotIndex = some reader →
      reader.phase = .idle
  | _ => True

end DriveBus.SharedMemory
