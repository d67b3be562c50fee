import DriveBus.SharedMemory.PublisherSteps

/-!
# The data plane, access by access

The data plane once more, with every access to a free list as a step of its own.
A return is the check of the usage tracker, the load of the tail, the store of
the link and the store of the tail, whether a subscriber makes it or the
publisher that reaps one; a pop is the loads of head and tail, the tracker's
check, the load of the link and the store of the head.  A subscriber can be
killed between any two of its accesses.  The other steps are those of the data
plane.
-/

namespace DriveBus.SharedMemory

open DriveBus.ByteMemory DriveBus.Transition

/-! ## Returning a chunk -/

/-- Where a party is in its return, with the local `last_tail_off`. -/
inductive ReturnPhase
  | ready
  | unmarked
  | tailLoaded (lastTailOff : ℕ)
  | tailLinked
  deriving DecidableEq, Repr

inductive ReturnProgress
  | goesOn (phase : ReturnPhase)
  | doubleFree
  | returned

/-- The next access of the return of the chunk at `offset`. -/
def ReturnPhase.access (sizeClass offset : ℕ) (shared : SharedData) :
    ReturnPhase → ReturnProgress × SharedData
  | .ready =>
      let localChunk := localChunkIndex sizeClass offset
      if shared.isInUse sizeClass localChunk = false then (.doubleFree, shared)
      else (.goesOn .unmarked, shared.setInUse sizeClass localChunk false)
  | .unmarked => (.goesOn (.tailLoaded (shared.tail sizeClass)), shared)
  | .tailLoaded lastTailOff => (.goesOn .tailLinked, shared.storeLink lastTailOff offset)
  | .tailLinked => (.returned, shared.storeTail sizeClass offset)

/-! ## The publisher between two accesses -/

/-- Where `try_publish_one` is, with its locals `head_off` and `next_head_off`. -/
inductive PublishPhase
  | admitted
  | headLoaded (headOff : ℕ)
  | tailCompared (headOff : ℕ)
  | marked (headOff : ℕ)
  | linkRead (headOff nextHeadOff : ℕ)
  | headStored (headOff : ℕ)
  | written (headOff : ℕ)
  deriving DecidableEq, Repr

/-- What the publisher is doing.  `indices` are the descriptors that a reap has
still to release, and `victim` is history, the subscriber as it was killed. -/
inductive PublisherPhase
  | idle
  | publishing (payload : List Byte) (sizeClass : ℕ) (phase : PublishPhase)
  | reaping (slotIndex : ℕ) (victim : Reader) (indices : List ℕ)
  | releasing (slotIndex : ℕ) (victim : Reader) (indices : List ℕ)
      (descriptor : MessageDescriptor) (sizeClass : ℕ) (phase : ReturnPhase)

/-- `popped` and `returned` are history, by size class: the heads that have been
stored past and the tails that have been stored. -/
structure SplitState extends State where
  returnPhases : ℕ → ReturnPhase
  publisherPhase : PublisherPhase
  popped : ℕ → List ℕ
  returned : ℕ → List ℕ

inductive SplitAction
  | fetchDescriptors (slotIndex : ℕ)
  | readPayload (slotIndex : ℕ)
  | clearReference (slotIndex : ℕ)
  | storeReadIndex (slotIndex : ℕ)
  | returnAccess (slotIndex : ℕ)
  | signalSpace (slotIndex : ℕ)
  | track (dataAvailableEventFd slotIndex : ℕ)
  | beginPublish (payload : List Byte)
  | publishAccess
  | beginReap (slotIndex : ℕ)
  | reapAccess

/-- Add a chunk to a history. -/
def recordChunk (history : ℕ → List ℕ) (sizeClass offset : ℕ) : ℕ → List ℕ :=
  Function.update history sizeClass (history sizeClass ++ [offset])

namespace SplitState

/-- A step of the data plane. -/
def lift (state : SplitState) (result : Option (Outcome × State)) : Option SplitState :=
  result.map fun next => { state with toState := next.2 }

/-- A subscriber's next access to the free list of the chunk that it returns. -/
def returnAccess (state : SplitState) (slotIndex : ℕ) : Option SplitState :=
  match state.readers slotIndex with
  | none => none
  | some reader =>
      match reader.phase with
      | .indexStored descriptor sizeClass =>
          match (state.returnPhases slotIndex).access sizeClass descriptor.offset
              state.shared with
          | (.goesOn phase, shared) =>
              some { state with
                shared
                returnPhases := Function.update state.returnPhases slotIndex phase }
          | (.doubleFree, shared) =>
              some { state with
                toState := { state.toState with shared }.setReader slotIndex
                  { reader with phase := .idle, descRing := [] } }
          | (.returned, shared) =>
              some { state with
                toState := { state.toState with shared }.setReader slotIndex
                  { reader with phase := .chunkAppended }
                returnPhases := Function.update state.returnPhases slotIndex .ready
                returned := recordChunk state.returned sizeClass descriptor.offset }
      | _ => none

/-- `try_publish_one` up to its admission test. -/
def beginPublish (state : SplitState) (payload : List Byte) : Option SplitState :=
  match state.publisherPhase with
  | .idle =>
      if 2 ^ 32 - 1 - kMessageHeaderSizeBytes < payload.length then some state
      else
        match findSizeClass (payload.length + kMessageHeaderSizeBytes) with
        | none => some state
        | some sizeClass =>
            if DescriptorsBlocked (findSlowestReadIndex state.shared)
                state.shared.descriptorWriteIndex then some state
            else
              some { state with publisherPhase := .publishing payload sizeClass .admitted }
  | _ => none

/-- The last part of `try_publish_one`: the message becomes visible. -/
def publishWritten (state : SplitState) (payload : List Byte) (sizeClass headOff : ℕ) :
    SplitState :=
  let wr := state.shared.descriptorWriteIndex
  let publisher := { state.publisher with seq := state.publisher.seq + 1 }
  match chunkReferenceMask publisher.subscriberSlotIndexByDataAvailableEventFd
      publisher.dataAvailableEventFds 0 with
  | none => { state with publisher, publisherPhase := .idle }
  | some mask =>
      let shared := (state.shared.addReferences (chunkIndex sizeClass headOff)
        mask).storeWriteIndex (nextWriteIndex wr)
      match signalSubscribers publisher.dataAvailableEventFds state.eventFds with
      | (false, eventFds) =>
          { state with shared, publisher, eventFds, publisherPhase := .idle }
      | (true, eventFds) =>
          { state with
            shared
            publisher
            eventFds
            published := state.published ++ [{ payload, descriptor := shared.descRing wr }]
            publisherPhase := .idle }

/-- The next access of `try_publish_one`. -/
def publishAccess (state : SplitState) : Option SplitState :=
  match state.publisherPhase with
  | .publishing payload sizeClass phase =>
      let goOn := fun (phase : PublishPhase) (shared : SharedData) =>
        { state with shared, publisherPhase := .publishing payload sizeClass phase }
      some (match phase with
        | .admitted => goOn (.headLoaded (state.shared.head sizeClass)) state.shared
        | .headLoaded headOff =>
            if headOff = state.shared.tail sizeClass then
              { state with publisherPhase := .idle }
            else if headOff < kFirstOffset sizeClass ∨ kLastOffset sizeClass < headOff then
              { state with publisherPhase := .idle }
            else goOn (.tailCompared headOff) state.shared
        | .tailCompared headOff =>
            let localChunk := localChunkIndex sizeClass headOff
            if state.shared.isInUse sizeClass localChunk then
              { state with publisherPhase := .idle }
            else goOn (.marked headOff) (state.shared.setInUse sizeClass localChunk true)
        | .marked headOff =>
            goOn (.linkRead headOff (state.shared.link headOff)) state.shared
        | .linkRead headOff nextHeadOff =>
            { goOn (.headStored headOff) (state.shared.storeHead sizeClass nextHeadOff) with
              popped := recordChunk state.popped sizeClass headOff }
        | .headStored headOff =>
            goOn (.written headOff) (state.shared.writeMessage
              state.shared.descriptorWriteIndex headOff state.publisher.seq payload)
        | .written headOff => state.publishWritten payload sizeClass headOff)
  | _ => none

/-- The subscriber is killed where it is, and the publisher hears of it:
`reap_dead_subscribers` up to its two loops. -/
def beginReap (state : SplitState) (slotIndex : ℕ) : Option SplitState :=
  match state.publisherPhase, state.readers slotIndex with
  | .idle, some victim =>
      let rd := state.shared.descriptorReadIndices slotIndex
      let killed := { state with
        readers := Function.update state.readers slotIndex none
        returnPhases := Function.update state.returnPhases slotIndex .ready }
      if kMaxSubscribers ≤ slotIndex ∨ rd = kInvalidIndex then
        some { killed with retired := state.retired ++ [victim] }
      else
        some { killed with
          publisherPhase := .reaping slotIndex victim
            (unreadIndices rd state.shared.descriptorWriteIndex) }
  | _, _ => none

/-- The next access of the loops of `reap_dead_subscribers`, and its end. -/
def reapAccess (state : SplitState) : Option SplitState :=
  match state.publisherPhase with
  | .reaping slotIndex victim (index :: indices) =>
      let descriptor := state.shared.descRing index
      let sizeClass := (findSizeClass descriptor.len).getD kClassCount
      let chunk := chunkIndex sizeClass descriptor.offset
      let referenceBit := subscriberReferenceBit slotIndex
      some { state with
        shared := state.shared.clearReference chunk referenceBit
        publisherPhase :=
          if state.shared.chunkReferenceCounts chunk = referenceBit then
            .releasing slotIndex victim indices descriptor sizeClass .ready
          else .reaping slotIndex victim indices }
  | .reaping slotIndex victim [] =>
      let process := { state.toPublisherProcess with
        shared := state.shared.storeReadIndex slotIndex kInvalidIndex }
      some { state with
        toPublisherProcess := (forgetSubscriber process slotIndex).2
        retired := state.retired ++ [victim]
        publisherPhase := .idle }
  | .releasing slotIndex victim indices descriptor sizeClass phase =>
      match phase.access sizeClass descriptor.offset state.shared with
      | (.goesOn phase, shared) =>
          some { state with
            shared
            publisherPhase :=
              .releasing slotIndex victim indices descriptor sizeClass phase }
      | (.doubleFree, shared) =>
          some { state with
            shared
            retired := state.retired ++ [victim]
            publisherPhase := .idle }
      | (.returned, shared) =>
          some { state with
            shared
            publisherPhase := .reaping slotIndex victim indices
            returned := recordChunk state.returned sizeClass descriptor.offset }
  | _ => none

def step (state : SplitState) : SplitAction → Option SplitState
  | .fetchDescriptors slotIndex => state.lift (state.toState.fetchDescriptors slotIndex)
  | .readPayload slotIndex => state.lift (state.toState.readPayload slotIndex)
  | .clearReference slotIndex => state.lift (state.toState.clearReference slotIndex)
  | .storeReadIndex slotIndex => state.lift (state.toState.storeReadIndex slotIndex)
  | .returnAccess slotIndex => state.returnAccess slotIndex
  | .signalSpace slotIndex => state.lift (state.toState.signalSpace slotIndex)
  | .track dataAvailableEventFd slotIndex =>
      match state.publisherPhase with
      | .idle => state.lift (state.toState.track dataAvailableEventFd slotIndex)
      | _ => none
  | .beginPublish payload => state.beginPublish payload
  | .publishAccess => state.publishAccess
  | .beginReap slotIndex => state.beginReap slotIndex
  | .reapAccess => state.reapAccess

/-- A state between two calls of the publisher, nobody being in a return. -/
def resting (state : State) (popped returned : ℕ → List ℕ) : SplitState where
  toState := state
  returnPhases := fun _ => .ready
  publisherPhase := .idle
  popped := popped
  returned := returned

end SplitState

/-- The data plane over a fresh mapping, access by access. -/
def splitPlane (mapped : SharedData) : System SplitState SplitAction where
  initial := .resting (State.created mapped) (fun _ => []) fun _ => []
  next := SplitState.step

end DriveBus.SharedMemory
