import DriveBus.Agreement.Joint
import DriveBus.Clients.SubscriberTable

/-!
# The subscriber's program

The event loop that `run` and `subscribe` share: it takes a batch of events from epoll and
handles them one after the other, looking each id up only when its turn comes.  A broker
event starts `process_broker_control_messages`, which takes one record after the other
until the socket is drained.  The loop may be entered again whatever a call has returned.
-/

namespace DriveBus.Agreement

open DriveBus.ByteMemory DriveBus.Clients DriveBus.ControlPlane

def kBrokerEventId : ℕ := 0
def kShutdownEventId : ℕ := 2 ^ 64 - 1

/-- What epoll reports: the socket, the shutdown event or an attachment's event. -/
inductive Report
  | broker
  | shutdown
  | data (eventFd : Fd)

/-- An entry of `events_`, which holds the id alone; `registered` is history, the event
descriptor that was reported and the attachment that had it. -/
structure Event where
  eventId : ℕ
  registered : Option (Fd × PublisherAttachment)

/-- What becomes of an event that is neither the socket's nor the shutdown's; the last is
`RunError::DataAvailableEventAttachmentMissing`. -/
inductive Dispatch
  | ignored
  | handled (eventFd : FdVariable) (attachment : PublisherAttachment)
  | attachmentMissing

/-- `failures` and `dispatched` are history: the failed calls of
`process_broker_control_messages`, and what became of the data events. -/
structure SubscriberState where
  asynchronous : Bool
  client : SubscriberClient
  events : List Event
  draining : Bool
  failures : List ControlError
  dispatched : List (Event × Dispatch)

inductive SubscriberMove
  /-- `epoll_wait`, with the events it reports. -/
  | wait (reports : List Report)
  /-- The next event of the batch; reading leaves an attachment with these indices. -/
  | dispatch (readIndex : ℕ) (expectedSeq : ℤ)
  /-- The next record, in a buffer with old contents and with its descriptors under these
  numbers. -/
  | receive (buffer : Memory) (fds : List Fd) (answers : ℕ → InstallAnswers)
  /-- The socket is drained. -/
  | drained
  /-- `recvmsg` fails. -/
  | receiveFailed
  /-- `recvmsg` finds that the broker has closed its end. -/
  | closed

/-- The lookup in the event loop and the one in `handle_data_available_event`. -/
def dispatchDataEvent (client : SubscriberClient) (eventId : ℕ) : Dispatch :=
  match client.dataAvailableEventFdByAttachmentId.lookup eventId with
  | none => .ignored
  | some eventFd =>
      match client.publisherAttachmentByDataAvailableEventFd.lookup eventFd with
      | none => .attachmentMissing
      | some attachment => .handled eventFd attachment

/-- Reading changes the attachment that the event is handled on. -/
def Dispatch.read (dispatch : Dispatch) (readIndex : ℕ) (expectedSeq : ℤ)
    (client : SubscriberClient) : SubscriberClient :=
  match dispatch with
  | .handled eventFd attachment =>
      client.readAttachmentAt eventFd attachment readIndex expectedSeq
  | _ => client

namespace SubscriberState

def initial (asynchronous : Bool) : SubscriberState where
  asynchronous := asynchronous
  client := .initial
  events := []
  draining := false
  failures := []
  dispatched := []

/-- The event that epoll makes of a report, if there is a registration for it. -/
def event (state : SubscriberState) : Report → Option Event
  | .broker => some { eventId := kBrokerEventId, registered := none }
  | .shutdown =>
      if state.asynchronous then some { eventId := kShutdownEventId, registered := none }
      else none
  | .data eventFd => (state.client.interest eventFd).map fun eventId =>
      { eventId
        registered := (state.client.publisherAttachmentByDataAvailableEventFd.lookup
          (some eventFd)).map fun attachment => (eventFd, attachment) }

/-- `process_broker_control_messages` after a receipt; a failure ends the call. -/
def receive (state : SubscriberState) (receipt : ControlReceipt) (buffer : Memory) :
    SubscriberState :=
  let run := processBrokerControlMessages [receipt] buffer state.client
  match run.result with
  | .ok () => { state with client := run.client }
  | .error error =>
      { state with
        client := run.client
        draining := false
        failures := state.failures ++ [error] }

/-- Numbers that the kernel may choose for descriptors that come with a record. -/
def FreeFds (state : SubscriberState) (fds : List Fd) : Prop :=
  fds.Nodup ∧ ∀ fd ∈ fds, fd ∉ state.client.held

instance instDecidableFreeFds (state : SubscriberState) (fds : List Fd) :
    Decidable (state.FreeFds fds) :=
  inferInstanceAs (Decidable (_ ∧ _))

/-- The next event of the batch. -/
def dispatch (state : SubscriberState) (event : Event) (rest : List Event)
    (readIndex : ℕ) (expectedSeq : ℤ) : SubscriberState :=
  if state.asynchronous ∧ event.eventId = kShutdownEventId then { state with events := rest }
  else if event.eventId = kBrokerEventId then { state with events := rest, draining := true }
  else
    let result := dispatchDataEvent state.client event.eventId
    { state with
      client := result.read readIndex expectedSeq state.client
      events := rest
      dispatched := state.dispatched ++ [(event, result)] }

def next (state : SubscriberState) (channel : List BrokerMessage) :
    SubscriberMove → Option (SubscriberState × ℕ)
  | .wait reports =>
      if state.draining = false ∧ state.events = [] ∧
          ∀ report ∈ reports, (state.event report).isSome then
        some ({ state with events := reports.filterMap state.event }, 0)
      else none
  | .dispatch readIndex expectedSeq =>
      match state.events with
      | [] => none
      | event :: rest =>
          if state.draining then none
          else some (state.dispatch event rest readIndex expectedSeq, 0)
  | .receive buffer fds answers =>
      match channel with
      | [] => none
      | record :: _ =>
          if state.draining ∧ fds.length = (record.packet.rights.getD []).length ∧
              state.FreeFds fds then
            let received := recvmsg kMaxMessageSize kSubscriberControlSize
              record.packet.bytes fds
            some (state.receive (.record received answers) buffer, 1)
          else none
  | .drained =>
      if state.draining ∧ channel = [] then some ({ state with draining := false }, 0)
      else none
  | .receiveFailed =>
      if state.draining then some (state.receive .failed fun _ => 0, 0) else none
  | .closed =>
      if state.draining ∧ channel = [] then
        some (state.receive (.record { bytes := [], truncated := false, control := none }
          fun _ => .generous) fun _ => 0, 0)
      else none

end SubscriberState

/-- Subscribers, asynchronous or not. -/
def subscriberProgram : Program Bool SubscriberState SubscriberMove where
  initial := .initial
  Sends := fun request => ∃ topics, request = .subscribe topics
  next := SubscriberState.next

end DriveBus.Agreement
