import DriveBus.Library.EdgeTrigger
import DriveBus.Library.UnorderedMap
import DriveBus.SharedMemory.EventFrame

/-!
# The worker of an asynchronous subscriber

One thread runs `run` over an edge-triggered epoll instance: it fetches a batch of events
and handles them one after the other, the broker's records, the data events of any number
of publishers, and the shutdown event that ends it.  A move stops the worker and starts it
again in the other object, with the epoll instance and the rest of the batch; meanwhile the
publishers and their other subscribers go on.
-/

namespace DriveBus.Asynchronous.Subscriber

open DriveBus.EdgeTrigger DriveBus.SharedMemory DriveBus.Transition DriveBus.UnorderedMap

/-- What an entry of `events_` says. -/
inductive EventId
  | broker
  | shutdown
  | attachment (id : ℕ)
  deriving DecidableEq, Repr

/-- An attachment as the broker has made it, with the number that its eventfd has in the
publisher's process; `installed` once the subscriber has it in its maps and in epoll. -/
structure Attachment where
  publisher : ℕ
  slotIndex : ℕ
  dataAvailableEventFd : ℕ
  installed : Bool
  deriving DecidableEq, Repr

inductive BrokerRecord
  | subscriberAttachmentBatch (ids : List ℕ)
  | publisherDisconnected (id : ℕ)
  deriving DecidableEq, Repr

/-- Where the worker is: between two events, inside `process_broker_control_messages` or
`handle_data_available_event`, or after `run`, which has returned `RunError::None` or not. -/
inductive Phase
  | running
  | receiving
  | handling (id : ℕ)
  | stopped
  | failed
  | released
  deriving DecidableEq, Repr

/-- `stopping` is set from the call of `stop_run_thread` until the worker is started
again. -/
structure Worker where
  planes : ℕ → EventPlane
  attachments : Map ℕ Attachment
  nextAttachmentId : ℕ
  inbox : List BrokerRecord
  shutdownSignalled : Bool
  poll : Poll EventId
  phase : Phase
  stopping : Bool

inductive WorkerAction
  /-- A step of a publisher or of another one of its subscribers. -/
  | plane (publisher : ℕ) (action : EventAction)
  /-- The broker makes an attachment. -/
  | allot (id publisher slotIndex dataAvailableEventFd : ℕ)
  /-- The broker sends a record. -/
  | send (record : BrokerRecord)
  /-- `epoll_wait`, with the events that it reports. -/
  | wait (batch : List EventId)
  /-- The next event of the batch. -/
  | dispatch
  /-- The next record; the system calls for so many of its attachments succeed. -/
  | receive (succeeding : ℕ)
  /-- The socket is drained. -/
  | drained
  /-- An access of the data event that is being handled. -/
  | handle (action : EventAction)
  /-- A call fails or throws, and the worker ends. -/
  | fail
  /-- `stop_run_thread`, which signals unless the worker has ended. -/
  | stop
  /-- A move starts the worker again. -/
  | restart
  /-- `release_resources`, once the worker has been joined. -/
  | release

namespace Worker

/-- The eventfd of an attachment is readable. -/
def readable (worker : Worker) (attachment : Attachment) : Bool :=
  ((worker.planes attachment.publisher).plane.eventFds
    attachment.dataAvailableEventFd).any (0 < ·)

/-- What `epoll_wait` may report. -/
def reportable (worker : Worker) : EventId → Bool
  | .broker => worker.inbox ≠ []
  | .shutdown => worker.shutdownSignalled
  | .attachment id => (worker.attachments.lookup id).any fun attachment =>
      attachment.installed && worker.readable attachment

/-- The worker has not ended. -/
def Active (worker : Worker) : Prop :=
  match worker.phase with
  | .running | .receiving | .handling _ => True
  | .stopped | .failed | .released => False

instance instDecidableActive (worker : Worker) : Decidable worker.Active := by
  unfold Active
  split <;> infer_instance

/-- The worker sleeps in `epoll_wait`. -/
def Asleep (worker : Worker) : Prop :=
  worker.phase = .running ∧ worker.poll.batch = [] ∧ worker.poll.Blocked worker.reportable

/-- The steps of others leave the attachments to the subscriber. -/
def Spares (worker : Worker) (publisher : ℕ) (action : EventAction) : Prop :=
  ∀ entry ∈ worker.attachments.entries, entry.2.publisher = publisher →
    action.Spares entry.2.slotIndex entry.2.dataAvailableEventFd

instance instDecidableSpares (worker : Worker) (publisher : ℕ) (action : EventAction) :
    Decidable (worker.Spares publisher action) :=
  inferInstanceAs (Decidable (∀ entry ∈ worker.attachments.entries, _))

/-- The state of a publisher and its mapping changes; a write to an eventfd is an edge in
the epoll instances that have it. -/
def setPlane (worker : Worker) (publisher : ℕ) (events : EventPlane) : Worker :=
  let planes := Function.update worker.planes publisher events
  let written : EventId → Bool
    | .attachment id => (worker.attachments.lookup id).any fun attachment =>
        attachment.installed &&
          (planes attachment.publisher).plane.eventFds attachment.dataAvailableEventFd ≠
            (worker.planes attachment.publisher).plane.eventFds
              attachment.dataAvailableEventFd
    | _ => false
  { worker with
    planes
    poll := worker.poll.raise written }

/-- The slot and the eventfd are unused, also by another attachment. -/
def Unused (worker : Worker) (publisher slotIndex dataAvailableEventFd : ℕ) : Prop :=
  (worker.planes publisher).plane.readers slotIndex = none ∧
    (worker.planes publisher).plane.eventFds dataAvailableEventFd = none ∧
    ∀ entry ∈ worker.attachments.entries, entry.2.publisher = publisher →
      entry.2.slotIndex ≠ slotIndex ∧ entry.2.dataAvailableEventFd ≠ dataAvailableEventFd

instance instDecidableUnused (worker : Worker) (publisher slotIndex eventFd : ℕ) :
    Decidable (worker.Unused publisher slotIndex eventFd) :=
  inferInstanceAs (Decidable (_ ∧ _ ∧ ∀ entry ∈ worker.attachments.entries, _))

/-- One attachment of a batch.  An eventfd that is readable when it is added to epoll is an
edge. -/
def install (worker : Worker) (id : ℕ) : Option Worker :=
  match worker.attachments.lookup id with
  | some attachment =>
      if attachment.installed then none
      else some { worker with
        attachments := worker.attachments.insert id { attachment with installed := true }
        poll := worker.poll.raise fun source =>
          source = .attachment id && worker.readable attachment }
  | none => none

/-- `install_subscriber_attachment_batch`: whether it succeeds, and the worker. -/
def installBatch : List ℕ → ℕ → Worker → Bool × Worker
  | [], _, worker => (true, worker)
  | _ :: _, 0, worker => (false, worker)
  | id :: ids, succeeding + 1, worker =>
      match worker.install id with
      | some installed => installBatch ids succeeding installed
      | none => (false, worker)

/-- `handle_publisher_disconnected`. -/
def disconnect (worker : Worker) (id : ℕ) : Option Worker :=
  match worker.attachments.lookup id with
  | some attachment =>
      if attachment.installed then
        some { worker with
          attachments := worker.attachments.erase id
          poll := worker.poll.drop (.attachment id) }
      else none
  | none => none

/-- The next record. -/
def receive (worker : Worker) (succeeding : ℕ) : Option Worker :=
  match worker.phase, worker.inbox with
  | .receiving, record :: inbox =>
      let worker := { worker with inbox }
      match record with
      | .subscriberAttachmentBatch ids =>
          match installBatch ids succeeding worker with
          | (true, installed) => some installed
          | (false, installed) => some { installed with phase := .failed }
      | .publisherDisconnected id =>
          some ((worker.disconnect id).getD { worker with phase := .failed })
  | _, _ => none

/-- The next event of the batch.  A data event begins with the drain of its eventfd; one
whose attachment is gone is ignored. -/
def dispatch (worker : Worker) : Option Worker :=
  let rest := { worker with poll := worker.poll.advance }
  match worker.phase, worker.poll.batch with
  | .running, .shutdown :: _ =>
      some { rest with shutdownSignalled := false, phase := .stopped }
  | .running, .broker :: _ => some { rest with phase := .receiving }
  | .running, .attachment id :: _ =>
      match worker.attachments.lookup id with
      | some attachment =>
          if attachment.installed then
            ((worker.planes attachment.publisher).drain attachment.slotIndex).map fun events =>
              let drained := rest.setPlane attachment.publisher events
              { drained with
                phase :=
                  if (events.handlers attachment.slotIndex).phase = .failed then .failed
                  else .handling id }
          else some rest
      | none => some rest
  | _, _ => none

/-- An access of the data event that is being handled, until the event ends. -/
def handle (worker : Worker) (action : EventAction) : Option Worker :=
  match worker.phase with
  | .handling id => (worker.attachments.lookup id).bind fun attachment =>
      if action.handles = some attachment.slotIndex then
        ((worker.planes attachment.publisher).next action).map fun events =>
          let handled := worker.setPlane attachment.publisher events
          { handled with
            phase :=
              match (events.handlers attachment.slotIndex).phase with
              | .waiting => .running
              | .failed => .failed
              | _ => .handling id }
      else none
  | _ => none

def next (worker : Worker) : WorkerAction → Option Worker
  | .plane publisher action =>
      if worker.Spares publisher action then
        ((worker.planes publisher).next action).map (worker.setPlane publisher)
      else none
  | .allot id publisher slotIndex dataAvailableEventFd =>
      if worker.phase ≠ .released ∧ worker.nextAttachmentId ≤ id ∧
          worker.Unused publisher slotIndex dataAvailableEventFd then
        some { worker with
          attachments := worker.attachments.insert id
            { publisher, slotIndex, dataAvailableEventFd, installed := false }
          nextAttachmentId := id + 1 }
      else none
  | .send record =>
      if worker.phase = .released then none
      else some { worker with
        inbox := worker.inbox ++ [record]
        poll := worker.poll.raise (· = .broker) }
  | .wait batch =>
      if worker.phase = .running ∧ worker.poll.Gives worker.reportable kMaxEvents batch then
        some { worker with poll := worker.poll.fetch batch }
      else none
  | .dispatch => worker.dispatch
  | .receive succeeding => worker.receive succeeding
  | .drained =>
      if worker.phase = .receiving ∧ worker.inbox = [] then
        some { worker with phase := .running }
      else none
  | .handle action => worker.handle action
  | .fail => if worker.Active then some { worker with phase := .failed } else none
  | .stop =>
      if worker.stopping ∨ worker.phase = .released then none
      else if worker.Active then
        some { worker with
          shutdownSignalled := true
          poll := worker.poll.raise (· = .shutdown)
          stopping := true }
      else some { worker with stopping := true }
  | .restart =>
      if worker.phase = .stopped ∧ worker.stopping then
        some { worker with shutdownSignalled := false, phase := .running, stopping := false }
      else none
  | .release =>
      if worker.stopping ∧ (worker.phase = .stopped ∨ worker.phase = .failed) then
        some { worker with
          attachments := ∅
          inbox := []
          shutdownSignalled := false
          poll := .initial
          phase := .released }
      else none

end Worker

/-- The worker of a fresh subscriber, among publishers over fresh mappings. -/
def subscriberWorker (mapped : ℕ → SharedData) : System Worker WorkerAction where
  initial :=
    { planes := fun publisher => (eventPlane (mapped publisher)).initial
      attachments := ∅
      nextAttachmentId := 1
      inbox := []
      shutdownSignalled := false
      poll := .initial
      phase := .running
      stopping := false }
  next := Worker.next

end DriveBus.Asynchronous.Subscriber
