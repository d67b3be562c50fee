import DriveBus.SharedMemory.DataPlane

/-!
# Handling data events

The data plane with its eventfds in the open: a publish ends with one signal for each
subscriber, and a subscriber consumes inside `handle_data_available_event`, from the drain
of its eventfd to the load of the write index that ends its last loop.  Every access to the
ring indices, the descriptors and the eventfds is a step of its own.
-/

namespace DriveBus.SharedMemory

open DriveBus.ByteMemory DriveBus.Transition

/-- `drain_eventfd`: reading an empty counter gives `EAGAIN`, which counts as success. -/
def drainEventfd (eventFds : EventFdTable) (eventFd : ℕ) : Bool × EventFdTable :=
  match eventFds eventFd with
  | none => (false, eventFds)
  | some _ => (true, Function.update eventFds eventFd (some 0))

/-- Where a subscriber is inside `handle_data_available_event`; `copying stop` copies the
descriptors up to ring position `stop`, and `reading` is inside `read_data` or behind it. -/
inductive HandlerPhase
  | waiting
  | drained
  | initialized
  | copying (stop : ℕ)
  | reading
  | failed
  deriving DecidableEq, Repr

/-- The handler of one attachment: its eventfd, the messages of the event being handled,
and the batches that earlier events have handed over. -/
structure EventHandler where
  eventFd : ℕ
  phase : HandlerPhase
  messages : List (List Byte)
  handedOver : List (List (List Byte))

def EventHandler.registered (eventFd : ℕ) : EventHandler where
  eventFd := eventFd
  phase := .waiting
  messages := []
  handedOver := []

/-- `signalling` are the eventfds that the publish in progress has still to signal. -/
structure EventPlane where
  plane : State
  signalling : List ℕ
  handlers : ℕ → EventHandler

inductive EventAction
  | store (payload : List Byte)
  | signal
  | track (dataAvailableEventFd slotIndex : ℕ)
  | reap (slotIndex : ℕ)
  | drain (slotIndex : ℕ)
  | initializeReadIndex (slotIndex : ℕ)
  | load (slotIndex : ℕ)
  | copy (slotIndex : ℕ)
  | readPayload (slotIndex : ℕ)
  | clearReference (slotIndex : ℕ)
  | storeReadIndex (slotIndex : ℕ)
  | returnChunk (slotIndex : ℕ)
  | signalSpace (slotIndex : ℕ)
  | reload (slotIndex : ℕ)

namespace EventPlane

def setHandler (events : EventPlane) (slotIndex : ℕ) (handler : EventHandler) : EventPlane :=
  { events with handlers := Function.update events.handlers slotIndex handler }

def setPhase (events : EventPlane) (slotIndex : ℕ) (phase : HandlerPhase) : EventPlane :=
  events.setHandler slotIndex { events.handlers slotIndex with phase }

/-! ## The publisher -/

/-- `try_publish_one` up to the store of the write index; the signals are its last
accesses. -/
def store (events : EventPlane) (payload : List Byte) : Option EventPlane :=
  if events.signalling = [] then
    let stored := (events.plane.publish payload).2
    some { events with
      plane := { stored with eventFds := events.plane.eventFds }
      signalling :=
        if stored.shared.descriptorWriteIndex = events.plane.shared.descriptorWriteIndex then []
        else stored.publisher.dataAvailableEventFds }
  else none

/-- Signal the next subscriber; a failure ends the publish. -/
def signal (events : EventPlane) : Option EventPlane :=
  match events.signalling with
  | [] => none
  | eventFd :: signalling =>
      match signalEventfd events.plane.eventFds eventFd with
      | (true, eventFds) => some { events with plane := { events.plane with eventFds }, signalling }
      | (false, eventFds) =>
          some { events with plane := { events.plane with eventFds }, signalling := [] }

def track (events : EventPlane) (dataAvailableEventFd slotIndex : ℕ) : Option EventPlane :=
  if events.signalling = [] then
    match events.plane.track dataAvailableEventFd slotIndex with
    | some (.track none, plane) =>
        some ({ events with plane }.setHandler slotIndex (.registered dataAvailableEventFd))
    | some (_, plane) => some { events with plane }
    | none => none
  else none

def reap (events : EventPlane) (slotIndex : ℕ) : Option EventPlane :=
  if events.signalling = [] then
    (events.plane.reap slotIndex).map fun (_, plane) => { events with plane }
  else none

/-! ## The subscriber -/

/-- The event begins: drain the eventfd. -/
def drain (events : EventPlane) (slotIndex : ℕ) : Option EventPlane :=
  let handler := events.handlers slotIndex
  if (events.plane.readers slotIndex).isSome ∧ handler.phase = .waiting then
    match drainEventfd events.plane.eventFds handler.eventFd with
    | (true, eventFds) =>
        some ({ events with plane := { events.plane with eventFds } }.setPhase slotIndex .drained)
    | (false, _) => some (events.setPhase slotIndex .failed)
  else none

def initializeReadIndex (events : EventPlane) (slotIndex : ℕ) : Option EventPlane :=
  match events.plane.readers slotIndex, (events.handlers slotIndex).phase with
  | some reader, .drained =>
      let initialized := reader.initializeSubscriberReadIndex events.plane.shared
      some ({ events with plane := events.plane.setReader slotIndex initialized }.setPhase
        slotIndex .initialized)
  | _, _ => none

/-- The first load of the write index, which looks for a wrapped writer. -/
def load (events : EventPlane) (slotIndex : ℕ) : Option EventPlane :=
  match events.plane.readers slotIndex, (events.handlers slotIndex).phase with
  | some reader, .initialized =>
      if events.plane.shared.descriptorWriteIndex < reader.subscriberReadIndex then
        some (events.setPhase slotIndex (.copying kDescriptorSlotCount))
      else some (events.setPhase slotIndex .reading)
  | _, _ => none

/-- Copy the next descriptor of the segment, or go on to `read_data`. -/
def copy (events : EventPlane) (slotIndex : ℕ) : Option EventPlane :=
  match events.plane.readers slotIndex, (events.handlers slotIndex).phase with
  | some reader, .copying stop =>
      let index := reader.subscriberReadIndex + reader.descRing.length
      if index < stop then
        let descRing := reader.descRing ++ [events.plane.shared.descRing index]
        some { events with plane := events.plane.setReader slotIndex { reader with descRing } }
      else some (events.setPhase slotIndex .reading)
  | _, _ => none

/-- The steps of `read_data` are those of the data plane. -/
def read (events : EventPlane) (slotIndex : ℕ) (step : Option (Outcome × State)) :
    Option (Outcome × EventPlane) :=
  if (events.handlers slotIndex).phase = .reading then
    step.map fun (outcome, plane) => (outcome, { events with plane })
  else none

/-- Copy a payload; on an error the event fails. -/
def readPayload (events : EventPlane) (slotIndex : ℕ) : Option EventPlane :=
  (events.read slotIndex (events.plane.readPayload slotIndex)).map fun (outcome, copied) =>
    match outcome with
    | .readPayload (.ok payload) =>
        let handler := events.handlers slotIndex
        copied.setHandler slotIndex { handler with messages := handler.messages ++ [payload] }
    | _ => copied.setPhase slotIndex .failed

/-- Return a chunk; on an error the event fails. -/
def returnChunk (events : EventPlane) (slotIndex : ℕ) : Option EventPlane :=
  (events.read slotIndex (events.plane.returnChunk slotIndex)).map fun (outcome, returned) =>
    match outcome with
    | .returnChunk (.ok ()) => returned
    | _ => returned.setPhase slotIndex .failed

/-- A load of the write index in `consume_contiguous_messages`; the event ends when the
writer is not ahead. -/
def reload (events : EventPlane) (slotIndex : ℕ) : Option EventPlane :=
  match events.plane.readers slotIndex, (events.handlers slotIndex).phase with
  | some reader, .reading =>
      if reader.phase = .idle ∧ reader.descRing = [] then
        let wr := events.plane.shared.descriptorWriteIndex
        if reader.subscriberReadIndex < wr then
          some (events.setPhase slotIndex (.copying wr))
        else
          let handler := events.handlers slotIndex
          some (events.setHandler slotIndex { handler with
            phase := .waiting
            messages := []
            handedOver := handler.handedOver ++ [handler.messages] })
      else none
  | _, _ => none

def next (events : EventPlane) : EventAction → Option EventPlane
  | .store payload => events.store payload
  | .signal => events.signal
  | .track dataAvailableEventFd slotIndex => events.track dataAvailableEventFd slotIndex
  | .reap slotIndex => events.reap slotIndex
  | .drain slotIndex => events.drain slotIndex
  | .initializeReadIndex slotIndex => events.initializeReadIndex slotIndex
  | .load slotIndex => events.load slotIndex
  | .copy slotIndex => events.copy slotIndex
  | .readPayload slotIndex => events.readPayload slotIndex
  | .clearReference slotIndex =>
      (events.read slotIndex (events.plane.clearReference slotIndex)).map Prod.snd
  | .storeReadIndex slotIndex =>
      (events.read slotIndex (events.plane.storeReadIndex slotIndex)).map Prod.snd
  | .returnChunk slotIndex => events.returnChunk slotIndex
  | .signalSpace slotIndex =>
      (events.read slotIndex (events.plane.signalSpace slotIndex)).map Prod.snd
  | .reload slotIndex => events.reload slotIndex

end EventPlane

/-- Data events over a fresh mapping. -/
def eventPlane (mapped : SharedData) : System EventPlane EventAction where
  initial :=
    { plane := State.created mapped
      signalling := []
      handlers := fun _ => .registered 0 }
  next := EventPlane.next

end DriveBus.SharedMemory
