import DriveBus.Asynchronous.Lifecycle
import DriveBus.SharedMemory.DataPlane

/-!
# The event loop over its data plane

One asynchronous publisher, the data plane behind its mapping and the records that the
broker has sent to it.  Producers, the worker and the subscribers step independently, and
a subscriber's iteration is split at its accesses to the mapping.  An eventfd is readable
from a signal until the worker drains it.
-/

namespace DriveBus.Asynchronous

open DriveBus.ByteMemory DriveBus.SharedMemory DriveBus.Transition

/-- A record on the publisher's control socket. -/
inductive ControlRecord
  | subscriberRegistered (slotIndex : ℕ)
  | subscriberDisconnected (slotIndex : ℕ)
  deriving DecidableEq, Repr

structure EventLoop where
  publisher : AsyncPublisher
  plane : State
  control : List ControlRecord

inductive LoopAction
  | thread (action : Action)
  | attempt
  | check
  | arrive (record : ControlRecord)
  | control (dataAvailableEventFd : ℕ)
  | controlDrained
  | subscriber (action : SharedMemory.Action)

/-- The steps of the threads that neither read the mapping nor the control socket. -/
def Action.Local : Action → Prop
  | .attempt .. | .checked _ | .controlProcessed _ | .signal _ => False
  | _ => True

instance instDecidableLocal (action : Action) : Decidable action.Local := by
  cases action <;> simp only [Action.Local] <;> infer_instance

namespace EventLoop

/-- Let the publisher take a step. -/
def advance (loop : EventLoop) (action : Action) : Option EventLoop :=
  (loop.publisher.next action).map fun publisher => { loop with publisher }

/-- `try_publish_one` for the message in flight. -/
def attempt (loop : EventLoop) : Option EventLoop :=
  match loop.publisher.queue.inFlight with
  | none => none
  | some inFlight =>
      let payload := inFlight.message.payload
      let plane := (loop.plane.publish payload).2
      { loop with plane }.advance
        (.attempt (tryPublishOne loop.plane.toPublisherProcess payload).1
          (appendedPayload loop.plane.shared plane.shared))

def check (loop : EventLoop) : Option EventLoop :=
  loop.advance (.checked (canPublishNextMessage loop.plane.shared loop.publisher.queue))

/-- The broker sends a record. -/
def arrive (loop : EventLoop) (record : ControlRecord) : EventLoop :=
  { loop with
    publisher := loop.publisher.setSignalled .broker true
    control := loop.control ++ [record] }

/-- The event of the broker has failed, or goes on with the next record. -/
def settleRecord (loop : EventLoop) (error : RunError) : Option EventLoop :=
  if error = .none then some loop else loop.advance (.controlProcessed error)

/-- Process the first record; a registration carries an eventfd, which the kernel installs
as `dataAvailableEventFd`. -/
def processRecord (loop : EventLoop) (dataAvailableEventFd : ℕ) : Option EventLoop :=
  if loop.publisher.worker = some .controlling then
    match loop.control with
    | [] => none
    | .subscriberRegistered slotIndex :: control =>
        match loop.plane.track dataAvailableEventFd slotIndex with
        | some (.track none, plane) => some { loop with plane, control }
        | some (_, plane) =>
            { loop with plane, control }.settleRecord .dynamicSubscriberRegistrationFailed
        | none => none
    | .subscriberDisconnected slotIndex :: control =>
        match loop.plane.reap slotIndex with
        | some (.reap error, plane) => { loop with plane, control }.settleRecord error
        | _ => { loop with control }.settleRecord .deadSubscriberReapFailed
  else none

/-- A subscriber takes a step; the last holder of a chunk signals space. -/
def subscriber (loop : EventLoop) (action : SharedMemory.Action) : Option EventLoop :=
  (loop.plane.step action).map fun (_, plane) => { loop with
    plane
    publisher := match action with
      | .signalSpace _ => loop.publisher.setSignalled .spaceAvailable true
      | _ => loop.publisher }

def next (loop : EventLoop) : LoopAction → Option EventLoop
  | .thread action => if action.Local then loop.advance action else none
  | .attempt => loop.attempt
  | .check => loop.check
  | .arrive record => some (loop.arrive record)
  | .control dataAvailableEventFd => loop.processRecord dataAvailableEventFd
  | .controlDrained =>
      if loop.control = [] then loop.advance (.controlProcessed .none) else none
  | .subscriber action => if ConsumesMessages action then loop.subscriber action else none

end EventLoop

/-- The event loop of a publisher that has just been created over a data plane. -/
def eventLoop (plane : State) : System EventLoop LoopAction where
  initial :=
    { publisher := (PublisherObject.created plane.toPublisherProcess).toAsyncPublisher
      plane
      control := [] }
  next := EventLoop.next

/-- The side condition under which only subscribers that stopped between two messages are
reaped. -/
def EventLoop.StopsBetweenMessages (loop : EventLoop) : LoopAction → Prop
  | .control _ => ∀ slotIndex control,
      loop.control = .subscriberDisconnected slotIndex :: control →
      SharedMemory.StopsBetweenMessages loop.plane (.reap slotIndex)
  | _ => True

end DriveBus.Asynchronous
