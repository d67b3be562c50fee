import DriveBus.Clients.ControlSocket
import DriveBus.Library.DescriptorTable
import DriveBus.SharedMemory.Tracking

/-!
# The publisher's control records

What a publisher does with the descriptors that the broker sends it: the registrations
that follow its own, and later the records of its event loop.  A descriptor is guarded
from the message to the tables, so that it ends up tracked or closed whichever step
between them fails.
-/

namespace DriveBus.Clients

open DriveBus.ByteMemory DriveBus.UnorderedMap DriveBus.DescriptorTable

open DriveBus.ControlPlane hiding kMaxSubscribers

open DriveBus.SharedMemory (PublisherProcess Publisher RunError SubscriberTrackingError
  kInvalidIndex kMaxSubscribers)

/-! ## Tracking -/

/-- A publisher, its broker socket and, as history, every descriptor it has closed. -/
structure PublisherClient where
  process : PublisherProcess
  brokerFd : Option Fd
  closed : List Fd

/-- Whether the map of `track_subscriber` and its vector get the memory they need. -/
structure TrackAnswers where
  insert : Bool
  emplaceBack : Bool
  deriving DecidableEq, Repr

inductive Tracking
  | tracked
  | refused (error : SubscriberTrackingError)
  | threw
  deriving DecidableEq, Repr

namespace PublisherClient

/-- Descriptors that have come in are open. -/
def receiveFds (client : PublisherClient) (fds : List Fd) : PublisherClient :=
  { client with process := { client.process with
      eventFds := install client.process.eventFds (fds.map fun fd => (fd, 0)) } }

def closeFds (client : PublisherClient) (fds : List Fd) : PublisherClient :=
  { client with
    process := { client.process with eventFds := closeAll client.process.eventFds fds }
    closed := client.closed ++ fds }

def setPublisher (client : PublisherClient) (publisher : Publisher) : PublisherClient :=
  { client with process := { client.process with publisher } }

/-- `track_subscriber`, with the guard of its argument and the exceptions of its two
containers. -/
def trackSubscriber (answers : TrackAnswers) (client : PublisherClient)
    (dataAvailableEventFd slotIndex : ℕ) : Tracking × PublisherClient :=
  let publisher := client.process.publisher
  let guarded := client.closeFds [dataAvailableEventFd]
  if kMaxSubscribers ≤ slotIndex then (.refused .slotOutOfRange, guarded)
  else if client.process.shared.descriptorReadIndices slotIndex ≠ kInvalidIndex then
    (.refused .slotAlreadyTracked, guarded)
  else if (publisher.subscriberSlotIndexByDataAvailableEventFd.lookup
      dataAvailableEventFd).isSome then
    (.refused .eventFdAlreadyTracked, guarded)
  else if answers.insert = false then (.threw, guarded)
  else
    let inserted := { publisher with
      subscriberSlotIndexByDataAvailableEventFd :=
        publisher.subscriberSlotIndexByDataAvailableEventFd.insert dataAvailableEventFd
          slotIndex }
    if answers.emplaceBack = false then
      (.threw, (client.setPublisher { inserted with
        subscriberSlotIndexByDataAvailableEventFd :=
          inserted.subscriberSlotIndexByDataAvailableEventFd.erase
            dataAvailableEventFd }).closeFds [dataAvailableEventFd])
    else
      (.tracked, { client with process := { client.process with
        publisher := { inserted with
          dataAvailableEventFds := publisher.dataAvailableEventFds ++ [dataAvailableEventFd]
          dataAvailableEventFdBySubscriberSlotIndex :=
            Function.update publisher.dataAvailableEventFdBySubscriberSlotIndex slotIndex
              dataAvailableEventFd }
        shared := client.process.shared.storeReadIndex slotIndex
          client.process.shared.descriptorWriteIndex } })

/-- `reap_dead_subscribers`; it closes the slot's descriptor as its last action. -/
def reapDeadSubscribers (client : PublisherClient) (slotIndex : ℕ) :
    RunError × PublisherClient :=
  let eventFd := client.process.publisher.dataAvailableEventFdBySubscriberSlotIndex slotIndex
  let reaped := SharedMemory.reapDeadSubscribers client.process slotIndex
  (reaped.1, { client with
    process := reaped.2
    closed := if reaped.1 = .none then client.closed ++ [eventFd] else client.closed })

end PublisherClient

/-! ## The records of the event loop -/

/-- What a control handler of the publisher returns, or that it throws. -/
inductive ControlResult
  | returned (error : RunError)
  | threw
  deriving DecidableEq, Repr

namespace PublisherClient

def handleSubscriberDisconnectedMessage (packet : Memory) (bodyLen : ℕ)
    (client : PublisherClient) : RunError × PublisherClient :=
  if bodyLen ≠ 4 then (.brokerControlMessageProcessingFailed, client)
  else client.reapDeadSubscribers (ofLittleEndian (load packet 1 4))

/-- `handle_subscriber_registered_message`, with the control message as it leaves it; the
checks of the control message let one descriptor pass. -/
def handleSubscriberRegisteredMessage (answers : TrackAnswers) (packet : Memory)
    (bodyLen : ℕ) (cmsg : Option ControlMessage) (client : PublisherClient) :
    ControlResult × Option ControlMessage × PublisherClient :=
  if bodyLen ≠ 4 then (.returned .brokerControlMessageProcessingFailed, cmsg, client)
  else
    match cmsg with
    | some (.rights [some dataAvailableEventFd]) =>
        let tracked := client.trackSubscriber answers dataAvailableEventFd
          (ofLittleEndian (load packet 1 4))
        (match tracked.1 with
          | .tracked => .returned .none
          | .refused _ => .returned .dynamicSubscriberRegistrationFailed
          | .threw => .threw,
          some (.rights [none]), tracked.2)
    | _ => (.returned .brokerControlMessageProcessingFailed, cmsg, client)

/-- The body of the loop after `recvmsg`, with the control message as it leaves it. -/
def handleControlRecord (answers : TrackAnswers) (packet : Memory) (received : Received)
    (client : PublisherClient) :
    ControlResult × Option ControlMessage × PublisherClient :=
  if received.bytes.length = 0 then
    (.returned .brokerClosed, received.control,
      { client.closeFds client.brokerFd.toList with brokerFd := none })
  else if received.truncated then
    (.returned .brokerControlMessageProcessingFailed, received.control, client)
  else if received.bytes.length < 1 then
    (.returned .brokerControlMessageTooShort, received.control, client)
  else
    let bodyLen := received.bytes.length - 1
    let messageType := packet 0
    if messageType = BrokerMessageType.subscriberDisconnected.code then
      let handled := client.handleSubscriberDisconnectedMessage packet bodyLen
      (.returned handled.1, received.control, handled.2)
    else if messageType = BrokerMessageType.subscriberEventFdAndSlot.code then
      client.handleSubscriberRegisteredMessage answers packet bodyLen received.control
    else (.returned .brokerControlMessageProcessingFailed, received.control, client)

end PublisherClient

/-- A call of the publisher; `received` is history, the descriptors that came with the
records taken. -/
structure PublisherRun (Result : Type) where
  result : Result
  received : List Fd
  client : PublisherClient

namespace PublisherClient

/-- `process_broker_control_messages`; the buffer keeps what a record does not
overwrite. -/
def processBrokerControlMessages :
    List (Receipt TrackAnswers) → Memory → PublisherClient → PublisherRun ControlResult
  | [], _, client => { result := .returned .none, received := [], client }
  | .failed :: _, _, client =>
      { result := .returned .brokerControlMessageProcessingFailed, received := [], client }
  | .record received answers :: receipts, buffer, client =>
      let packet := store buffer 0 received.bytes
      let handled := handleControlRecord answers packet received
        (client.receiveFds received.fds)
      -- the guard of the record
      let guarded := handled.2.2.closeFds (receivedFds handled.2.1)
      if handled.1 = .returned .none then
        let rest := processBrokerControlMessages receipts packet guarded
        { rest with received := received.fds ++ rest.received }
      else { result := handled.1, received := received.fds, client := guarded }

end PublisherClient

/-! ## The registrations that follow the publisher's own -/

/-- The failures of the first registrations, by the `CreateError` that each one gives. -/
inductive RegistrationError
  | initialSubscriberCountReceiveFailed
  | initialSubscriberRegistrationReceiveFailed
  | initialSubscriberRegistrationEventFdMissing
  | initialSubscriberRegistrationTypeInvalid
  | subscriberSlotOutOfRange
  | subscriberSlotAlreadyTracked
  | subscriberEventFdAlreadyTracked
  deriving DecidableEq, Repr

def RegistrationError.ofTracking : SubscriberTrackingError → RegistrationError
  | .slotOutOfRange => subscriberSlotOutOfRange
  | .slotAlreadyTracked => subscriberSlotAlreadyTracked
  | .eventFdAlreadyTracked => subscriberEventFdAlreadyTracked

structure SubscriberRegistration where
  dataAvailableEventFd : Fd
  slotIndex : ℕ
  deriving DecidableEq, Repr

/-- `receive_packet_with_fd` on a record: the size it returns, if not −1, the descriptor
it takes, and what its guard closes. -/
def receivePacketWithFd (received : Received) : Option ℕ × FdVariable × List Fd :=
  if received.bytes.length = 0 then (some 0, none, received.fds)
  else if received.truncated then (none, none, received.fds)
  else
    match received.control with
    | some (.rights [some fd]) => (some received.bytes.length, some fd, [])
    | _ => (none, none, received.fds)

namespace PublisherClient

/-- `receive_subscriber_registration`, with the two guards. -/
def receiveSubscriberRegistration (received : Received) (client : PublisherClient) :
    Except RegistrationError SubscriberRegistration × PublisherClient :=
  let packet := receivePacketWithFd received
  let guarded := client.closeFds packet.2.2
  if packet.1 ≠ some 5 then
    (.error .initialSubscriberRegistrationReceiveFailed,
      guarded.closeFds packet.2.1.toList)
  else
    match packet.2.1 with
    | none => (.error .initialSubscriberRegistrationEventFdMissing, guarded)
    | some fd =>
        if received.bytes.head? ≠ some BrokerMessageType.subscriberEventFdAndSlot.code then
          (.error .initialSubscriberRegistrationTypeInvalid, guarded.closeFds [fd])
        else
          (.ok { dataAvailableEventFd := fd, slotIndex := ofLittleEndian received.bytes.tail },
            guarded)

/-- `close_initial_subscriber_event_fds`; the entries of the vector become −1. -/
def closeInitialSubscriberEventFds (client : PublisherClient) : PublisherClient :=
  let publisher := client.process.publisher
  (client.setPublisher { publisher with dataAvailableEventFds := [] }).closeFds
    publisher.dataAvailableEventFds

end PublisherClient

/-- How the first registrations end, if they have. -/
inductive RegistrationResult
  | waiting
  | returned (result : Except RegistrationError Unit)
  | threw

namespace PublisherClient

/-- The loop of `receive_and_track_initial_subscriber_registrations`. -/
def trackInitialSubscribers :
    ℕ → List (Receipt TrackAnswers) → PublisherClient → PublisherRun RegistrationResult
  | 0, _, client => { result := .returned (.ok ()), received := [], client }
  | _ + 1, [], client => { result := .waiting, received := [], client }
  | _ + 1, .failed :: _, client =>
      { result := .returned (.error .initialSubscriberRegistrationReceiveFailed)
        received := []
        client := client.closeInitialSubscriberEventFds }
  | remaining + 1, .record received answers :: receipts, client =>
      let registered := receiveSubscriberRegistration received
        (client.receiveFds received.fds)
      match registered.1 with
      | .error error =>
          { result := .returned (.error error)
            received := received.fds
            client := registered.2.closeInitialSubscriberEventFds }
      | .ok registration =>
          let tracked := registered.2.trackSubscriber answers
            registration.dataAvailableEventFd registration.slotIndex
          match tracked.1 with
          | .tracked =>
              let rest := trackInitialSubscribers remaining receipts tracked.2
              { rest with received := received.fds ++ rest.received }
          | .refused error =>
              { result := .returned (.error (.ofTracking error))
                received := received.fds
                client := tracked.2.closeInitialSubscriberEventFds }
          | .threw => { result := .threw, received := received.fds, client := tracked.2 }

/-- `receive_and_track_initial_subscriber_registrations`; `count` is the record of the
count, if it is received. -/
def receiveAndTrackInitialSubscriberRegistrations (count : Option (List Byte))
    (receipts : List (Receipt TrackAnswers)) (client : PublisherClient) :
    PublisherRun RegistrationResult :=
  let bytes := (count.getD []).take 4
  if bytes.length ≠ 4 then
    { result := .returned (.error .initialSubscriberCountReceiveFailed), received := [], client }
  else trackInitialSubscribers (ofLittleEndian bytes) receipts client

end PublisherClient

/-! ## Where the descriptors are -/

namespace PublisherClient

/-- The descriptors of the tracked subscribers and of the broker's socket. -/
def held (client : PublisherClient) : Multiset Fd :=
  client.process.publisher.dataAvailableEventFds + (client.brokerFd.toList : Multiset Fd)

/-- The descriptors held, and those closed so far. -/
def account (client : PublisherClient) : Multiset Fd := client.held + client.closed

/-- The vector has the keys of the map, each once. -/
structure Registered (client : PublisherClient) : Prop where
  nodup : client.process.publisher.dataAvailableEventFds.Nodup
  mem_iff : ∀ {eventFd}, eventFd ∈ client.process.publisher.dataAvailableEventFds ↔
    (client.process.publisher.subscriberSlotIndexByDataAvailableEventFd.lookup eventFd).isSome

variable {client : PublisherClient}

theorem account_closeFds (client : PublisherClient) (fds : List Fd) :
    (client.closeFds fds).account = client.account + fds := by
  rw [account, closeFds, ← Multiset.coe_add, ← add_assoc]
  rfl

/-- A subscriber is tracked under a new descriptor, or its descriptor is closed. -/
theorem trackSubscriber_cases (answers : TrackAnswers) (client : PublisherClient)
    (eventFd slotIndex : ℕ) :
    (∃ after : PublisherClient,
      client.trackSubscriber answers eventFd slotIndex = (.tracked, after) ∧
      client.process.publisher.subscriberSlotIndexByDataAvailableEventFd.lookup eventFd = none ∧
      after.process.publisher.dataAvailableEventFds =
        client.process.publisher.dataAvailableEventFds ++ [eventFd] ∧
      after.process.publisher.subscriberSlotIndexByDataAvailableEventFd =
        client.process.publisher.subscriberSlotIndexByDataAvailableEventFd.insert eventFd
          slotIndex ∧
      after.brokerFd = client.brokerFd ∧ after.closed = client.closed) ∨
    ∃ result, result ≠ .tracked ∧
      client.trackSubscriber answers eventFd slotIndex = (result, client.closeFds [eventFd]) := by
  rw [trackSubscriber]
  dsimp only
  by_cases hrange : kMaxSubscribers ≤ slotIndex
  · exact .inr ⟨.refused .slotOutOfRange, by decide, if_pos hrange⟩
  rw [if_neg hrange]
  by_cases hslot : client.process.shared.descriptorReadIndices slotIndex ≠ kInvalidIndex
  · exact .inr ⟨.refused .slotAlreadyTracked, by decide, if_pos hslot⟩
  rw [if_neg hslot]
  by_cases htracked : (client.process.publisher.subscriberSlotIndexByDataAvailableEventFd.lookup
      eventFd).isSome
  · exact .inr ⟨.refused .eventFdAlreadyTracked, by decide, if_pos htracked⟩
  have hnone : client.process.publisher.subscriberSlotIndexByDataAvailableEventFd.lookup
      eventFd = none := by
    simpa using htracked
  rw [if_neg htracked]
  by_cases hinsert : answers.insert = false
  · exact .inr ⟨.threw, by decide, if_pos hinsert⟩
  rw [if_neg hinsert]
  by_cases hemplace : answers.emplaceBack = false
  · refine .inr ⟨.threw, by decide, ?_⟩
    rw [if_pos hemplace, erase_insert_of_notMem _ hnone]
    rfl
  rw [if_neg hemplace]
  exact .inl ⟨_, rfl, hnone, rfl, rfl, rfl, rfl⟩

/-- A subscriber that is reaped loses its entries, and otherwise the tables stay. -/
theorem reapDeadSubscribers_cases (process : PublisherProcess) (slotIndex : ℕ) :
    let reaped := SharedMemory.reapDeadSubscribers process slotIndex
    let eventFd := process.publisher.dataAvailableEventFdBySubscriberSlotIndex slotIndex
    (reaped.1 ≠ .none ∧ reaped.2.publisher = process.publisher) ∨
    (reaped.1 = .none ∧
      process.publisher.subscriberSlotIndexByDataAvailableEventFd.lookup eventFd =
        some slotIndex ∧
      reaped.2.publisher = { process.publisher with
        subscriberSlotIndexByDataAvailableEventFd :=
          process.publisher.subscriberSlotIndexByDataAvailableEventFd.erase eventFd
        dataAvailableEventFds :=
          process.publisher.dataAvailableEventFds.filter (· ≠ eventFd) }) := by
  rw [SharedMemory.reapDeadSubscribers]
  split
  · exact .inl ⟨by simp, rfl⟩
  dsimp only
  split
  · exact .inl ⟨by simp, rfl⟩
  split
  next released hreleased =>
    rw [SharedMemory.forgetSubscriber]
    dsimp only
    split
    · exact .inl ⟨by simp, rfl⟩
    next hfound => exact .inr ⟨rfl, not_not.mp hfound, rfl⟩
  next failed released hfailed hreleased => exact .inl ⟨fun heq => hfailed heq, rfl⟩

/-- The descriptors that came in are held or closed, and what was closed stays closed. -/
structure Accounts (before after : PublisherClient) (received : List Fd) : Prop where
  account : after.account = before.account + received
  log : before.closed <+: after.closed

/-- The tables of the publisher agree as well. -/
structure Settles (before after : PublisherClient) (received : List Fd) : Prop
    extends Accounts before after received where
  registered : after.Registered

theorem Accounts.trans {before middle after : PublisherClient} {first second : List Fd}
    (hfirst : Accounts before middle first) (hsecond : Accounts middle after second) :
    Accounts before after (first ++ second) :=
  ⟨by rw [hsecond.account, hfirst.account, ← Multiset.coe_add, add_assoc],
    hfirst.log.trans hsecond.log⟩

namespace Settles

variable {before middle after : PublisherClient} {first second : List Fd}

theorem refl (hregistered : client.Registered) : Settles client client [] :=
  ⟨⟨(add_zero _).symm, List.prefix_refl _⟩, hregistered⟩

theorem trans (hfirst : Settles before middle first) (hsecond : Settles middle after second) :
    Settles before after (first ++ second) :=
  ⟨hfirst.toAccounts.trans hsecond.toAccounts, hsecond.registered⟩

theorem receiveFds (hregistered : client.Registered) (fds : List Fd) :
    Settles client (client.receiveFds fds) [] :=
  ⟨⟨(add_zero _).symm, List.prefix_refl _⟩, ⟨hregistered.nodup, hregistered.mem_iff⟩⟩

theorem closeFds (hregistered : client.Registered) (fds : List Fd) :
    Settles client (client.closeFds fds) fds :=
  ⟨⟨account_closeFds client fds, List.prefix_append _ _⟩,
    ⟨hregistered.nodup, hregistered.mem_iff⟩⟩

end Settles

theorem trackSubscriber_settles (hregistered : client.Registered) (answers : TrackAnswers)
    (eventFd slotIndex : ℕ) :
    Settles client (client.trackSubscriber answers eventFd slotIndex).2 [eventFd] := by
  obtain ⟨after, htracked, hnone, hvector, hmap, hbroker, hclosed⟩ | ⟨result, -, hrefused⟩ :=
    trackSubscriber_cases answers client eventFd slotIndex
  · rw [htracked]
    have habsent : eventFd ∉ client.process.publisher.dataAvailableEventFds := by
      rw [hregistered.mem_iff, hnone]
      simp
    refine ⟨⟨?_, by rw [hclosed]⟩, ⟨?_, fun {other} => ?_⟩⟩
    · rw [account, account, held, held, hvector, hbroker, hclosed, ← Multiset.coe_add]
      abel
    · rw [hvector]
      exact hregistered.nodup.append (List.nodup_singleton _)
        (List.disjoint_singleton.mpr habsent)
    · rw [hvector, hmap, List.mem_append, List.mem_singleton, lookup_insert, hregistered.mem_iff]
      by_cases heq : other = eventFd
      · simp [heq]
      · simp [heq]
  · rw [hrefused]
    exact .closeFds hregistered [eventFd]

theorem reapDeadSubscribers_settles (hregistered : client.Registered) (slotIndex : ℕ) :
    Settles client (client.reapDeadSubscribers slotIndex).2 [] := by
  rw [reapDeadSubscribers]
  dsimp only
  obtain ⟨hfailed, hsame⟩ | ⟨hnone, hfound, hpublisher⟩ :=
    reapDeadSubscribers_cases client.process slotIndex
  · refine ⟨⟨?_, ?_⟩, ⟨?_, ?_⟩⟩
    · rw [account, held, if_neg hfailed, hsame]
      exact (add_zero _).symm
    · rw [if_neg hfailed]
    · dsimp only
      rw [hsame]
      exact hregistered.nodup
    · dsimp only
      rw [hsame]
      exact hregistered.mem_iff
  · have hmem := hregistered.mem_iff.mpr (by rw [hfound]; rfl)
    have hperm : (client.process.publisher.dataAvailableEventFds : Multiset Fd) =
        (client.process.publisher.dataAvailableEventFds.filter
          (· ≠ client.process.publisher.dataAvailableEventFdBySubscriberSlotIndex slotIndex) :
          List Fd) +
        [client.process.publisher.dataAvailableEventFdBySubscriberSlotIndex slotIndex] := by
      rw [Multiset.coe_add, Multiset.coe_eq_coe]
      refine (List.perm_cons_erase hmem).trans ?_
      rw [hregistered.nodup.erase_eq_filter]
      simp only [ne_eq, decide_not, bne]
      exact (List.perm_append_singleton _ _).symm
    refine ⟨⟨?_, ?_⟩, ⟨?_, ?_⟩⟩
    · rw [account, held, if_pos hnone, hpublisher, account, held, hperm, ← Multiset.coe_add]
      dsimp only
      rw [Multiset.coe_nil, add_zero]
      abel
    · rw [if_pos hnone]
      exact List.prefix_append _ _
    · dsimp only
      rw [hpublisher]
      exact hregistered.nodup.filter _
    · dsimp only
      rw [hpublisher]
      intro eventFd
      dsimp only
      rw [List.mem_filter, hregistered.mem_iff, lookup_erase]
      by_cases heq : eventFd =
          client.process.publisher.dataAvailableEventFdBySubscriberSlotIndex slotIndex
      · simp [heq]
      · simp [heq]

/-- A registration moves its descriptor out of the control message, or leaves it there. -/
theorem handleSubscriberRegisteredMessage_settles (hregistered : client.Registered)
    (answers : TrackAnswers) (packet : Memory) (bodyLen : ℕ) (cmsg : Option ControlMessage) :
    let handled := client.handleSubscriberRegisteredMessage answers packet bodyLen cmsg
    Settles client (handled.2.2.closeFds (receivedFds handled.2.1)) (receivedFds cmsg) := by
  rw [handleSubscriberRegisteredMessage.eq_def]
  by_cases hbody : bodyLen ≠ 4
  · rw [if_pos hbody]
    exact .closeFds hregistered _
  rw [if_neg hbody]
  split
  next eventFd =>
    have htracked := trackSubscriber_settles hregistered answers eventFd
      (ofLittleEndian (load packet 1 4))
    exact htracked.trans (.closeFds htracked.registered [])
  next => exact .closeFds hregistered _

theorem handleSubscriberDisconnectedMessage_settles (hregistered : client.Registered)
    (packet : Memory) (bodyLen : ℕ) :
    Settles client (client.handleSubscriberDisconnectedMessage packet bodyLen).2 [] := by
  rw [handleSubscriberDisconnectedMessage]
  split
  · exact .refl hregistered
  · exact reapDeadSubscribers_settles hregistered _

/-- Closing the broker's socket gives up a descriptor that was held. -/
theorem closeBroker_settles (hregistered : client.Registered) :
    Settles client { client.closeFds client.brokerFd.toList with brokerFd := none } [] := by
  refine ⟨⟨?_, List.prefix_append _ _⟩, ⟨hregistered.nodup, hregistered.mem_iff⟩⟩
  simp only [account, held, PublisherClient.closeFds, Option.toList_none, Multiset.coe_nil,
    add_zero, ← Multiset.coe_add]
  abel

/-- A record and its guard settle the descriptors that came with it. -/
theorem handleControlRecord_settles (hregistered : client.Registered)
    (answers : TrackAnswers) (packet : Memory) (received : Received) :
    let handled := client.handleControlRecord answers packet received
    Settles client (handled.2.2.closeFds (receivedFds handled.2.1)) received.fds := by
  have hguard : ∀ {after : PublisherClient}, Settles client after [] →
      Settles client (after.closeFds received.fds) received.fds := fun hafter =>
    hafter.trans (.closeFds hafter.registered received.fds)
  rw [handleControlRecord]
  split
  · exact hguard (closeBroker_settles hregistered)
  split
  · exact hguard (.refl hregistered)
  split
  · exact hguard (.refl hregistered)
  dsimp only
  split
  · exact hguard (handleSubscriberDisconnectedMessage_settles hregistered packet _)
  split
  · exact handleSubscriberRegisteredMessage_settles hregistered answers packet _ _
  · exact hguard (.refl hregistered)

theorem processBrokerControlMessages_settles (hregistered : client.Registered)
    (receipts : List (Receipt TrackAnswers)) (buffer : Memory) :
    let run := processBrokerControlMessages receipts buffer client
    Settles client run.client run.received := by
  induction receipts generalizing buffer client with
  | nil => exact .refl hregistered
  | cons receipt receipts ih =>
      cases receipt with
      | failed => exact .refl hregistered
      | record received answers =>
          have hopened := Settles.receiveFds hregistered received.fds
          have hrecord := hopened.trans (handleControlRecord_settles hopened.registered answers
            (store buffer 0 received.bytes) received)
          rw [processBrokerControlMessages]
          dsimp only
          split
          · exact hrecord.trans (ih hrecord.registered _)
          · exact hrecord

/-! ## The first registrations -/

/-- The descriptor that is taken from a packet was the only one, or all are closed. -/
theorem receivePacketWithFd_cases (received : Received) :
    (∃ size, receivePacketWithFd received = (size, none, received.fds)) ∨
    ∃ fd, received.fds = [fd] ∧
      receivePacketWithFd received = (some received.bytes.length, some fd, []) := by
  rw [receivePacketWithFd.eq_def]
  split
  · exact .inl ⟨_, rfl⟩
  split
  · exact .inl ⟨_, rfl⟩
  split
  next fd hcontrol => exact .inr ⟨fd, by rw [Received.fds, hcontrol]; rfl, rfl⟩
  next => exact .inl ⟨_, rfl⟩

/-- A registration that is received holds the one descriptor that came with it; another
record's descriptors are closed. -/
theorem receiveSubscriberRegistration_settles (hregistered : client.Registered)
    (received : Received) :
    (∃ error after, client.receiveSubscriberRegistration received = (.error error, after) ∧
      Settles client after received.fds) ∨
    ∃ registration after, client.receiveSubscriberRegistration received =
        (.ok registration, after) ∧
      received.fds = [registration.dataAvailableEventFd] ∧ Settles client after [] := by
  rw [receiveSubscriberRegistration.eq_def]
  dsimp only
  obtain ⟨size, hpacket⟩ | ⟨fd, hfds, hpacket⟩ := receivePacketWithFd_cases received
  · rw [hpacket]
    have hguarded := Settles.closeFds hregistered received.fds
    refine .inl ?_
    dsimp only
    split
    · refine ⟨_, _, rfl, ?_⟩
      have hboth := hguarded.trans (.closeFds hguarded.registered [])
      rwa [List.append_nil] at hboth
    · exact ⟨_, _, rfl, hguarded⟩
  · rw [hpacket, hfds]
    have hguarded := Settles.closeFds hregistered []
    have hclosed := hguarded.trans (.closeFds hguarded.registered [fd])
    dsimp only
    split
    · exact .inl ⟨_, _, rfl, hclosed⟩
    split
    · exact .inl ⟨_, _, rfl, hclosed⟩
    · exact .inr ⟨_, _, rfl, rfl, hguarded⟩

/-- Giving up closes every descriptor that has been tracked. -/
theorem closeInitialSubscriberEventFds_accounts (client : PublisherClient) :
    Accounts client client.closeInitialSubscriberEventFds [] := by
  refine ⟨?_, List.prefix_append _ _⟩
  simp only [account, held, closeInitialSubscriberEventFds, setPublisher,
    PublisherClient.closeFds, Multiset.coe_nil, zero_add, add_zero, ← Multiset.coe_add]
  abel

theorem trackInitialSubscribers_accounts (hregistered : client.Registered) (remaining : ℕ)
    (receipts : List (Receipt TrackAnswers)) :
    let run := trackInitialSubscribers remaining receipts client
    Accounts client run.client run.received := by
  induction remaining generalizing receipts client with
  | zero => exact (Settles.refl hregistered).toAccounts
  | succ remaining ih =>
      match receipts with
      | [] => exact (Settles.refl hregistered).toAccounts
      | .failed :: _ => exact closeInitialSubscriberEventFds_accounts client
      | .record received answers :: receipts =>
          have hopened := Settles.receiveFds hregistered received.fds
          rw [trackInitialSubscribers]
          dsimp only
          obtain ⟨error, after, herror, hsettles⟩ | ⟨registration, after, hok, hfds, hsettles⟩ :=
            receiveSubscriberRegistration_settles hopened.registered received
          · rw [herror]
            have hclosed := (hopened.trans hsettles).toAccounts.trans
              (closeInitialSubscriberEventFds_accounts after)
            rwa [List.nil_append, List.append_nil] at hclosed
          · rw [hok, hfds]
            dsimp only
            have htracked := (hopened.trans hsettles).trans (trackSubscriber_settles
              hsettles.registered answers registration.dataAvailableEventFd
              registration.slotIndex)
            split
            · exact htracked.toAccounts.trans (ih htracked.registered receipts)
            · have hclosed := htracked.toAccounts.trans
                (closeInitialSubscriberEventFds_accounts _)
              rwa [List.append_nil] at hclosed
            · exact htracked.toAccounts

theorem receiveAndTrackInitialSubscriberRegistrations_accounts
    (hregistered : client.Registered) (count : Option (List Byte))
    (receipts : List (Receipt TrackAnswers)) :
    let run := receiveAndTrackInitialSubscriberRegistrations count receipts client
    Accounts client run.client run.received := by
  rw [receiveAndTrackInitialSubscriberRegistrations]
  dsimp only
  split
  · exact (Settles.refl hregistered).toAccounts
  · exact trackInitialSubscribers_accounts hregistered _ receipts

theorem Accounts.accounted {before after : PublisherClient} {received : List Fd}
    (haccounts : Accounts before after received) :
    Accounted before.held after.held before.closed after.closed received :=
  accounted_of_balance haccounts.account haccounts.log

/-- Without failing allocations this is the `track_subscriber` of the data plane. -/
theorem trackSubscriber_generous (client : PublisherClient) (eventFd slotIndex : ℕ) :
    client.trackSubscriber ⟨true, true⟩ eventFd slotIndex =
      let tracked := SharedMemory.trackSubscriber client.process eventFd slotIndex
      match tracked.1 with
      | none => (.tracked, { client with process := tracked.2 })
      | some error => (.refused error,
          { client with process := tracked.2, closed := client.closed ++ [eventFd] }) := by
  rw [trackSubscriber, SharedMemory.trackSubscriber]
  dsimp only
  by_cases hrange : kMaxSubscribers ≤ slotIndex
  · rw [if_pos hrange, if_pos hrange]
    rfl
  by_cases hslot : client.process.shared.descriptorReadIndices slotIndex ≠ kInvalidIndex
  · rw [if_neg hrange, if_neg hrange, if_pos hslot, if_pos hslot]
    rfl
  by_cases htracked : (client.process.publisher.subscriberSlotIndexByDataAvailableEventFd.lookup
      eventFd).isSome
  · rw [if_neg hrange, if_neg hrange, if_neg hslot, if_neg hslot, if_pos htracked,
      if_pos htracked]
    rfl
  · rw [if_neg hrange, if_neg hrange, if_neg hslot, if_neg hslot, if_neg htracked,
      if_neg htracked, if_neg (by decide), if_neg (by decide)]

end PublisherClient

end DriveBus.Clients
