import DriveBus.ControlPlane.Network
import DriveBus.ControlPlane.SubscriberDisconnect
import DriveBus.ControlPlane.PublisherDisconnect
import DriveBus.ControlPlane.SubscriberRegistration
import DriveBus.ControlPlane.PublisherRegistration

/-!
# Handling one event

The receive loop reads back what the client libraries write, and each branch of
it meets one contract: the membership changes by the client alone, both sides of
every attachment made or lost are notified, and the only reasons to stop are the
environment's.
-/

namespace DriveBus.ControlPlane

open DriveBus.ByteMemory DriveBus.Contract

/-! ## Reading the clients' records -/

theorem load_receiveBuffer (env : Env) {bytes : List Byte} {address length : ℕ}
    (hbound : address + length ≤ bytes.length) :
    load (receiveBuffer env bytes) address length = (bytes.drop address).take length := by
  apply List.ext_getElem
  · simp
    omega
  · intro index hleft hright
    have hindex : address + index < bytes.length := by
      simp only [length_load] at hleft
      omega
    simp [load, receiveBuffer, hindex]

theorem TopicList.count_bytes (topics : TopicList) :
    ofLittleEndian (littleEndian 4 topics.topicIds.length) = topics.topicIds.length := by
  have hbounded := topics.bounded
  rw [kMaxSubscriberTopicCount] at hbounded
  rw [ofLittleEndian_littleEndian, Nat.mod_eq_of_lt (by omega)]

@[simp]
theorem Request.member_packet (request : Request) :
    request.packet.member = request.member := by
  cases request with
  | statusQuery => rfl
  | publish topicId shmFd spaceAvailableEventFd => rfl
  | subscribe topics =>
      have htake : ((littleEndian 4 topics.topicIds.length ++ topics.topicIds) ++
          List.replicate (kMaxSubscriberTopicCount - topics.topicIds.length) 0).take 4 =
            littleEndian 4 topics.topicIds.length := by
        rw [List.append_assoc, List.take_left' (by simp)]
      simp only [Request.packet, TopicList.bytes, Packet.member, if_true, htake,
        topics.count_bytes, Request.member]
      rw [List.append_assoc, List.drop_left' (by simp), List.take_left' rfl]

/-- A subscriber's record of the right size, whatever its count and its topics. -/
theorem handleRecord_subscriberTopicRegistration (env : Env) (fd : Fd) {body : List Byte}
    (hlength : body.length + 1 = kSubscriberTopicRegistrationMessageSize)
    (session : Session) :
    handleRecord env fd
        ⟨BrokerMessageType.subscriberTopicRegistration.code :: body, none⟩ session =
      (do
        require (ofLittleEndian (body.take 4) ≠ 0 ∧
          ofLittleEndian (body.take 4) ≤ kMaxSubscriberTopicCount)
          .subscriberTopicRegistrationCount
        let session ← registerSubscriber env fd
          ((body.drop 4).take (ofLittleEndian (body.take 4))) session
        pure (session, false)) := by
  rw [kSubscriberTopicRegistrationMessageSize, kMaxSubscriberTopicCount] at hlength
  generalize hbytes : BrokerMessageType.subscriberTopicRegistration.code :: body = bytes
  have hsize : bytes.length = kSubscriberTopicRegistrationMessageSize := by
    rw [← hbytes, List.length_cons, hlength]
    rfl
  have hten : bytes.length = 10 := hsize
  have htake : bytes.take kMaxMessageSize = bytes :=
    List.take_of_length_le (by rw [hten, kMaxMessageSize]; omega)
  have hne : bytes ≠ [] := by simp [← hbytes]
  have hcode : receiveBuffer env bytes 0 =
      BrokerMessageType.subscriberTopicRegistration.code := by
    simp [receiveBuffer, ← hbytes]
  have hcount : load (receiveBuffer env bytes) 1 4 = body.take 4 := by
    rw [load_receiveBuffer env (by omega), ← hbytes, List.drop_succ_cons, List.drop_zero]
  have hother : BrokerMessageType.subscriberTopicRegistration.code ≠
      BrokerMessageType.statusQuery.code := by decide
  simp only [handleRecord, htake, hne, if_false, hcode, hcount, hother, if_true,
    Option.getD_none, List.length_nil, Nat.zero_le, hsize]
  generalize hcounted : ofLittleEndian (body.take 4) = count
  by_cases hvalid : count ≠ 0 ∧ count ≤ kMaxSubscriberTopicCount
  · have hbound := hvalid.2
    rw [kMaxSubscriberTopicCount] at hbound
    have htopics : load (receiveBuffer env bytes) 5 count = (body.drop 4).take count := by
      rw [load_receiveBuffer env (by omega), ← hbytes, List.drop_succ_cons]
    rw [htopics]
    rfl
  · simp only [Contract.require, hvalid, if_false, if_true]
    rfl

theorem handleRecord_subscribe (env : Env) (fd : Fd) (topics : TopicList)
    (session : Session) :
    handleRecord env fd (Request.subscribe topics).packet session =
      (registerSubscriber env fd topics.topicIds session).map fun session =>
        (session, false) := by
  have hbounded := topics.bounded
  have hlength : (littleEndian 4 topics.topicIds.length ++ topics.topicIds ++
      List.replicate (kMaxSubscriberTopicCount - topics.topicIds.length) 0).length + 1 =
        kSubscriberTopicRegistrationMessageSize := topics.length_bytes
  have hpos : topics.topicIds.length ≠ 0 :=
    fun hzero => topics.nonempty (List.length_eq_zero_iff.mp hzero)
  rw [show (Request.subscribe topics).packet =
    ⟨BrokerMessageType.subscriberTopicRegistration.code :: _, none⟩ from rfl,
    handleRecord_subscriberTopicRegistration env fd hlength, List.append_assoc,
    List.take_left' (by simp), List.drop_left' (by simp), topics.count_bytes,
    List.take_left' rfl, Contract.require, if_pos ⟨hpos, hbounded⟩]
  cases registerSubscriber env fd topics.topicIds session <;> rfl

theorem handleRecord_publish (env : Env) (fd : Fd) (topicId : TopicId)
    (shmFd spaceAvailableEventFd : Fd) (session : Session) :
    handleRecord env fd (Request.publish topicId shmFd spaceAvailableEventFd).packet
        session =
      (registerPublisher env fd topicId shmFd spaceAvailableEventFd session).map
        fun session => (session, false) := by
  change (do
    let session ← registerPublisher env fd topicId shmFd spaceAvailableEventFd session
    pure (session, false)) = _
  cases registerPublisher env fd topicId shmFd spaceAvailableEventFd session <;> rfl

theorem handleRecord_statusQuery (env : Env) (fd : Fd) (session : Session) :
    handleRecord env fd Request.statusQuery.packet session =
      .ok (handleStatusQuery env fd session, true) := rfl

/-! ## The contract of an event -/

/-- What the handling of one event has achieved, whatever the event. -/
structure Attended (before : Broker) (client : Fd) (members : Members)
    (after : Session) : Prop where
  routes : Routes after.broker members
  notified : Notified before after.broker client after.sent
  others : ∀ fd ∈ before.clientFds, fd ≠ client → fd ∈ after.broker.clientFds
  stays : client ∈ before.clientFds → members client ≠ none →
    client ∈ after.broker.clientFds

theorem Settled.attended {before : Broker} {client : Fd} {members : Members}
    {after : Session} (hsettled : Settled before client members after) :
    Attended before client members after where
  routes := hsettled.routes
  notified := hsettled.notified
  others _ hmem _ := hsettled.clientFds ▸ hmem
  stays hmem _ := hsettled.clientFds ▸ hmem

/-- The routing does not depend on the set of client descriptors. -/
theorem Routes.withClientFds {broker : Broker} {members : Members}
    (hroutes : Routes broker members) (clientFds : Finset Fd) :
    Routes { broker with clientFds := clientFds } members where
  role := hroutes.role
  topicIds := hroutes.topicIds
  attachments := hroutes.attachments
  shmFd := hroutes.shmFd
  spaceEventFd := hroutes.spaceEventFd
  publishers := hroutes.publishers
  publishers_ne_nil := hroutes.publishers_ne_nil
  freeSlots := hroutes.freeSlots
  subscribers := hroutes.subscribers
  attached := hroutes.attached
  attachedTopic := hroutes.attachedTopic
  slots := hroutes.slots

/-- The peers to notify when a registered client disappears. -/
def Broker.departureDue (broker : Broker) (fd : Fd) : List Fd :=
  match broker.roleByFd.lookup fd with
  | none => []
  | some .subscriber => (broker.attachmentsOf fd).map (·.publisherFd)
  | some .publisher =>
      ((findPublisherTopic broker fd).map fun found => broker.subscribersOf found.1).getD []

/-- The peers of the records that a registration owes. -/
def Broker.registrationDue (broker : Broker) (fd : Fd) : Member → List Fd
  | .subscriber topicIds => broker.publishersOfTopics topicIds ++ [fd]
  | .publisher topicId => publisherPeers fd (broker.subscribersOf topicId)

section Contracts

variable {env : Env} {members : Members} {session : Session} {fd : Fd} {member : Member}

/-- The disconnect handler of a member's role. -/
theorem disconnect_meets (hroutes : Routes session.broker members)
    (hsent : session.sent = []) (hmember : members fd = some member) (firstId : ℕ) :
    Meets (match member.role with
        | .subscriber => handleSubsciberDisconect env fd session
        | .publisher => handlePublisherDisconnect env fd session)
      (Settled session.broker fd (members.leave fd))
      (Excused env firstId (session.broker.departureDue fd)) := by
  have hrole : session.broker.roleByFd.lookup fd = some member.role := by
    rw [hroutes.role, hmember]
    rfl
  rw [Broker.departureDue, hrole]
  cases member with
  | subscriber topicIds => exact handleSubsciberDisconect_meets hroutes hsent hmember
  | publisher topicId =>
      have htopic : members.topic fd = some topicId := by
        simp [Members.topic, hmember, Member.topicId]
      simpa [Member.role, hroutes.findPublisherTopic_eq htopic] using
        handlePublisherDisconnect_meets hroutes hsent hmember

theorem handleClosure_meets (hroutes : Routes session.broker members)
    (hsent : session.sent = []) (hmember : members fd = some member) (firstId : ℕ) :
    Meets (handleClosure env fd session)
      (Attended session.broker fd (members.leave fd))
      (Excused env firstId (session.broker.departureDue fd)) := by
  have hrole : session.broker.roleByFd.lookup fd = some member.role := by
    rw [hroutes.role, hmember]
    rfl
  refine (Meets.orStop_some hrole).bind ?_
  rintro _ rfl
  exact (disconnect_meets hroutes hsent hmember firstId).mono
    (fun _ hsettled => hsettled.attended) fun _ hexcused => hexcused

theorem handleReceiveError_meets (hroutes : Routes session.broker members)
    (hsent : session.sent = []) (hmember : members fd = some member)
    (hclient : fd ∈ session.broker.clientFds) (firstId : ℕ) :
    Meets (handleReceiveError env fd session)
      (Attended session.broker fd (members.leave fd))
      (Excused env firstId (session.broker.departureDue fd)) := by
  have hrole : session.broker.roleByFd.lookup fd = some member.role := by
    rw [hroutes.role, hmember]
    rfl
  refine (Meets.orStop_some hrole).bind ?_
  rintro _ rfl
  refine (Meets.require_of hclient).bind fun _ _ => ?_
  have hupdated : Routes (session.update fun broker =>
      { broker with clientFds := broker.clientFds.erase fd }).broker members :=
    hroutes.withClientFds _
  refine (disconnect_meets hupdated hsent hmember firstId).mono (fun after hsettled => ?_)
    fun _ hexcused => hexcused
  constructor
  · exact hsettled.routes
  · exact ⟨hsettled.notified.attached, hsettled.notified.detached⟩
  · intro other hmem hne
    rw [hsettled.clientFds]
    exact Finset.mem_erase.mpr ⟨hne, hmem⟩
  · intro _ hregistered
    exact absurd (by simp [Members.leave]) hregistered

theorem register_meets (hroutes : Routes session.broker members)
    (hsent : session.sent = []) (hfresh : members fd = none) {request : Request}
    (hmember : request.member = some member) :
    Meets (handleRecord env fd request.packet session)
      (fun result => Attended session.broker fd (members.join fd member) result.1 ∧
        result.2 = false)
      (Obstructed session.broker member env
        (session.broker.registrationDue fd member)) := by
  cases request with
  | statusQuery => cases hmember
  | subscribe topics =>
      obtain rfl := Option.some.inj hmember
      rw [handleRecord_subscribe]
      have hregister : Meets (registerSubscriber env fd topics.topicIds session) _ _ :=
        registerSubscriber_meets hroutes hsent hfresh
      cases hresult : registerSubscriber env fd topics.topicIds session with
      | error reason => exact hregister.of_error hresult
      | ok after => exact ⟨(hregister.of_ok hresult).attended, rfl⟩
  | publish topicId shmFd spaceAvailableEventFd =>
      obtain rfl := Option.some.inj hmember
      rw [handleRecord_publish]
      have hregister : Meets
          (registerPublisher env fd topicId shmFd spaceAvailableEventFd session) _ _ :=
        registerPublisher_meets hroutes hsent hfresh
      cases hresult : registerPublisher env fd topicId shmFd spaceAvailableEventFd
        session with
      | error reason => exact hregister.of_error hresult
      | ok after => exact ⟨(hregister.of_ok hresult).attended, rfl⟩

/-- A status query is answered, or not, and its connection is given up. -/
theorem handleStatusQuery_attended (hroutes : Routes session.broker members)
    (hfresh : members fd = none) :
    Attended session.broker fd (members.leave fd) (handleStatusQuery env fd session) := by
  have hleave : members.leave fd = members := by
    funext other
    by_cases hother : other = fd <;> simp [Members.leave, hother, hfresh]
  have hbroker : (handleStatusQuery env fd session).broker =
      { session.broker with clientFds := session.broker.clientFds.erase fd } := by
    cases haccepts : env.accepts session.sent.length fd <;>
      simp [handleStatusQuery, Session.send, haccepts]
  constructor
  · rw [hbroker, hleave]
    exact hroutes.withClientFds _
  · rw [hbroker]
    exact ⟨fun _ _ hmem => .inl hmem, fun _ _ hmem => .inl hmem⟩
  · intro other hmem hne
    rw [hbroker]
    exact Finset.mem_erase.mpr ⟨hne, hmem⟩
  · intro _ hregistered
    exact absurd (by simp [Members.leave]) hregistered

end Contracts

end DriveBus.ControlPlane
