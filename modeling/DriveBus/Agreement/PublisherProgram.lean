import DriveBus.Agreement.Joint
import DriveBus.Clients.PublisherControl

/-!
# The publisher's program

What a publisher does with the records of the broker, from the count that opens
`Publisher::create` to the drained socket of its event loop, together with its data plane.
The subscribers of its slots are part of the state: one reads from the moment on which its
slot is tracked, and it has stopped before the broker frees the slot.
-/

namespace DriveBus.Agreement

open DriveBus.ByteMemory DriveBus.Clients DriveBus.ControlPlane

open DriveBus.SharedMemory (PublisherProcess Reader SharedData ConsumesMessages)

/-! ## The data plane of a publisher -/

instance instDecidableTracked (shared : SharedData) (slot : ℕ) :
    Decidable (shared.Tracked slot) :=
  inferInstanceAs (Decidable (_ ∧ _))

/-- The publisher's process after a call, with the subscribers of the slots that are
tracked now. -/
def settlePlane (plane : SharedMemory.State) (process : PublisherProcess) :
    SharedMemory.State :=
  { plane with
    toPublisherProcess := process
    readers := fun slot =>
      if process.shared.Tracked slot then
        some ((plane.readers slot).getD (Reader.attached slot plane.published.length))
      else none
    retired := plane.retired ++ (List.range SharedMemory.kMaxSubscribers).filterMap fun slot =>
      if process.shared.Tracked slot then none else plane.readers slot }

/-! ## The state -/

/-- Where `Publisher::create` is, and then the event loop. -/
inductive PublisherPhase
  | counting
  | registering (remaining : ℕ)
  | idle
  | draining
  | stopped
  deriving DecidableEq, Repr

/-- The failures of `create`, and those of `process_broker_control_messages`. -/
inductive PublisherFailure
  | create (error : RegistrationError)
  | createThrew
  | control (result : ControlResult)
  deriving DecidableEq, Repr

/-- `eventFdOf` and `failures` are history: which descriptor of the broker each number
stands for, and the calls that failed, each with the record it failed on if there is one. -/
structure PublisherState where
  plane : SharedMemory.State
  brokerFd : Option Fd
  closed : List Fd
  phase : PublisherPhase
  eventFdOf : Fd → Fd
  failures : List (Option BrokerMessage × PublisherFailure)

inductive PublisherMove
  /-- A publish, or a step of a subscriber. -/
  | data (action : SharedMemory.Action)
  /-- The count of the first registrations. -/
  | count
  /-- The next of the first registrations, with its descriptors under these numbers. -/
  | register (fds : List Fd) (answers : TrackAnswers)
  /-- The event of the socket. -/
  | wake
  /-- The next record of the event loop, in a buffer with old contents. -/
  | receive (buffer : Memory) (fds : List Fd) (answers : TrackAnswers)
  /-- The socket is drained. -/
  | drained
  /-- A receive fails. -/
  | receiveFailed
  /-- A receive finds that the broker has closed its end. -/
  | closed
  /-- `create` fails otherwise, or the publisher is destroyed. -/
  | abandon

def kPublisherControlSize : ℕ := cmsgSpace kFdSize

/-- Publishing and the socket's records take turns on one thread. -/
def PublisherPhase.Runs (phase : PublisherPhase) : SharedMemory.Action → Prop
  | .publish _ => phase = .idle
  | action => ConsumesMessages action

instance instDecidableRuns (phase : PublisherPhase) (action : SharedMemory.Action) :
    Decidable (phase.Runs action) :=
  match action with
  | .publish _ => inferInstanceAs (Decidable (phase = .idle))
  | .track .. | .reap _ => instDecidableFalse
  | .fetchDescriptors _ | .readPayload _ | .clearReference _ | .storeReadIndex _
  | .returnChunk _ | .signalSpace _ => instDecidableTrue

namespace PublisherState

/-- A publisher that has sent its registration; `mapped` is what the mapping held before
it was initialized. -/
def initial (setup : SharedData × Fd) : PublisherState where
  plane := .created setup.1
  brokerFd := some setup.2
  closed := []
  phase := .counting
  eventFdOf := id
  failures := []

def client (state : PublisherState) : PublisherClient where
  process := state.plane.toPublisherProcess
  brokerFd := state.brokerFd
  closed := state.closed

/-- The state after a call that leaves the publisher like this. -/
def become (state : PublisherState) (client : PublisherClient) : PublisherState :=
  { state with
    plane := settlePlane state.plane client.process
    brokerFd := client.brokerFd
    closed := client.closed }

/-- The descriptors of a record get numbers. -/
def name (state : PublisherState) (record : BrokerMessage) (fds : List Fd) : PublisherState :=
  { state with
    eventFdOf := (fds.zip (record.packet.rights.getD [])).foldl
      (fun eventFdOf pair => Function.update eventFdOf pair.1 pair.2) state.eventFdOf }

/-- `create` after some of the first registrations. -/
def register (state : PublisherState) (record : Option BrokerMessage)
    (run : PublisherRun RegistrationResult) (remaining : ℕ) : PublisherState :=
  let after := state.become run.client
  match run.result with
  | .waiting => { after with phase := .registering remaining }
  | .returned (.ok ()) => { after with phase := .idle }
  | .returned (.error error) =>
      { after with
        phase := .stopped
        failures := state.failures ++ [(record, .create error)] }
  | .threw =>
      { after with
        phase := .stopped
        failures := state.failures ++ [(record, .createThrew)] }

/-- `process_broker_control_messages` after a receipt; a failure ends the call. -/
def handle (state : PublisherState) (record : Option BrokerMessage)
    (run : PublisherRun ControlResult) : PublisherState :=
  let after := state.become run.client
  if run.result = .returned .none then after
  else
    { after with
      phase := .idle
      failures := state.failures ++ [(record, .control run.result)] }

/-- `create` after it has received the count, or has not. -/
def count (state : PublisherState) (record : Option BrokerMessage)
    (bytes : Option (List Byte)) : PublisherState :=
  state.register record
    (PublisherClient.receiveAndTrackInitialSubscriberRegistrations bytes [] state.client)
    (ofLittleEndian ((bytes.getD []).take 4))

/-- A receive that brings no record, which the count is received without. -/
def receiveNothing (state : PublisherState) (receipt : Receipt TrackAnswers)
    (bytes : Option (List Byte)) : Option PublisherState :=
  match state.phase with
  | .counting => some (state.count none bytes)
  | .registering (remaining + 1) => some (state.register none
      (PublisherClient.trackInitialSubscribers (remaining + 1) [receipt] state.client) remaining)
  | .draining => some (state.handle none
      (PublisherClient.processBrokerControlMessages [receipt] (fun _ => 0) state.client))
  | _ => none

/-- Numbers that the kernel may choose for descriptors that come with a record. -/
def FreeFds (state : PublisherState) (fds : List Fd) : Prop :=
  fds.Nodup ∧ ∀ fd ∈ fds, state.plane.eventFds fd = none ∧ some fd ≠ state.brokerFd

instance instDecidableFreeFds (state : PublisherState) (fds : List Fd) :
    Decidable (state.FreeFds fds) :=
  inferInstanceAs (Decidable (_ ∧ _))

def next (state : PublisherState) (channel : List BrokerMessage) :
    PublisherMove → Option (PublisherState × ℕ)
  | .data action =>
      if state.phase.Runs action then
        (state.plane.step action).map fun stepped => ({ state with plane := stepped.2 }, 0)
      else none
  | .count =>
      match channel with
      | [] => none
      | record :: _ =>
          if state.phase = .counting then some (state.count record record.packet.bytes, 1)
          else none
  | .register fds answers =>
      match state.phase, channel with
      | .registering (remaining + 1), record :: _ =>
          if fds.length = (record.packet.rights.getD []).length ∧ state.FreeFds fds then
            let received := recvmsg kSubscriberEventFdAndSlotMessageSize kPublisherControlSize
              record.packet.bytes fds
            some ((state.name record fds).register record
              (PublisherClient.trackInitialSubscribers (remaining + 1)
                [.record received answers] state.client) remaining, 1)
          else none
      | _, _ => none
  | .wake =>
      if state.phase = .idle ∧ state.brokerFd.isSome then
        some ({ state with phase := .draining }, 0)
      else none
  | .receive buffer fds answers =>
      match channel with
      | [] => none
      | record :: _ =>
          if state.phase = .draining ∧ fds.length = (record.packet.rights.getD []).length ∧
              state.FreeFds fds then
            let received := recvmsg kMaxMessageSize kPublisherControlSize record.packet.bytes fds
            some ((state.name record fds).handle record
              (PublisherClient.processBrokerControlMessages [.record received answers] buffer
                state.client), 1)
          else none
  | .drained =>
      if state.phase = .draining ∧ channel = [] then some ({ state with phase := .idle }, 0)
      else none
  | .receiveFailed => (state.receiveNothing .failed none).map fun after => (after, 0)
  | .closed =>
      if channel = [] then
        (state.receiveNothing (.record { bytes := [], truncated := false, control := none }
          ⟨true, true⟩) (some [])).map fun after => (after, 0)
      else none
  | .abandon => some ({ state with phase := .stopped }, 0)

end PublisherState

/-- Publishers, each over a mapping and with a socket. -/
def publisherProgram : Program (SharedData × Fd) PublisherState PublisherMove where
  initial := .initial
  Sends := fun request => ∃ topicId shmFd spaceAvailableEventFd,
    request = .publish topicId shmFd spaceAvailableEventFd
  next := PublisherState.next

end DriveBus.Agreement
