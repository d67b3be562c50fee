import DriveBus.ControlPlane.RecordRoles

/-!
# Registrations over capacity

A registration that cannot be served is not refused: it stops the broker.  A
publisher's stops it before any system call.  A subscriber's stops it on the way
through its topics, when the publishers visited before have been told and have
given up a slot, and before any subscriber hears of it.
-/

namespace DriveBus.ControlPlane

open DriveBus.ByteMemory DriveBus.Contract DriveBus.Transition DriveBus.UnorderedMap

/-! ## What a registration asks for -/

/-- A registration that passes the broker's checks of its record. -/
inductive Packet.Asks : Packet → Member → Prop
  | subscriber {body : List Byte}
      (hlength : body.length + 1 = kSubscriberTopicRegistrationMessageSize)
      (hcount : ofLittleEndian (body.take 4) ≠ 0 ∧
        ofLittleEndian (body.take 4) ≤ kMaxSubscriberTopicCount) :
      Asks ⟨BrokerMessageType.subscriberTopicRegistration.code :: body, none⟩
        (.subscriber ((body.drop 4).take (ofLittleEndian (body.take 4))))
  | publisher (topicId : TopicId) (shmFd spaceAvailableEventFd : Fd) :
      Asks ⟨[BrokerMessageType.publisherTopicRegistration.code, topicId],
        some [shmFd, spaceAvailableEventFd]⟩ (.publisher topicId)

section Records

variable {env : Env} {fd : Fd} {packet : Packet} {session : Session} {reason : ExitReason}

/-- The handler stops where the registration of the subscriber stops. -/
theorem Packet.Asks.handleRecord_subscriber {topicIds : List TopicId}
    (hasks : packet.Asks (.subscriber topicIds))
    (hstops : registerSubscriber env fd topicIds session = .error reason) :
    handleRecord env fd packet session = .error reason := by
  cases hasks with
  | subscriber hlength hcount =>
      rw [handleRecord_subscriberTopicRegistration env fd hlength, Contract.require,
        if_pos hcount]
      change (do
        let session ← registerSubscriber env fd _ session
        pure (session, false)) = Except.error reason
      rw [hstops]
      rfl

theorem Packet.Asks.handleRecord_publisher {topicId : TopicId}
    (hasks : packet.Asks (.publisher topicId))
    (hstops : ∀ shmFd spaceAvailableEventFd,
      registerPublisher env fd topicId shmFd spaceAvailableEventFd session =
        .error reason) :
    handleRecord env fd packet session = .error reason := by
  cases hasks with
  | publisher topicId shmFd spaceAvailableEventFd =>
      have hpublish := handleRecord_publish env fd topicId shmFd spaceAvailableEventFd session
      rw [hstops] at hpublish
      exact hpublish

end Records

/-! ## A publisher with too many subscribers waiting -/

/-- The check stands before every system call, so the environment has no say. -/
theorem registerPublisher_overCapacity {env : Env} {members : Members} {session : Session}
    {publisherFd : Fd} {topicId : TopicId} {shmFd spaceAvailableEventFd : Fd}
    (hroutes : Routes session.broker members) (hfresh : members publisherFd = none)
    (hover : ¬session.broker.HasCapacity (.publisher topicId)) :
    registerPublisher env publisherFd topicId shmFd spaceAvailableEventFd session =
      .error .brokerSubscriberSlotCapacity := by
  obtain ⟨hshmFd, hspaceEventFd, hfree⟩ :=
    hroutes.entries_eq_none (Routes.topic_eq_none hfresh) topicId
  have hmeets : Meets
      (registerPublisher env publisherFd topicId shmFd spaceAvailableEventFd session)
      (fun _ => False) (· = .brokerSubscriberSlotCapacity) := by
    refine (Meets.require_of hshmFd).bind fun _ _ => ?_
    refine (Meets.require_of hspaceEventFd).bind fun _ _ => ?_
    refine (Meets.require_of hfree).bind fun _ _ => ?_
    refine Meets.bind (Meets.require fun _ => rfl) fun _ hfits => ?_
    rw [size_initAvailableSubscriberSlots] at hfits
    exact absurd hfits hover
  obtain ⟨reason, hstops, rfl⟩ := hmeets.stops
  exact hstops

/-! ## A subscriber with too many attachments -/

section Subscriber

variable {env : Env} {members : Members} {session : Session} {start : Broker}
  {subscriberFd : Fd} {topicIds listed : List TopicId} {visited : List Fd}
  {attaching : Attaching} {reason : ExitReason}

/-- A registration that has visited all publishers has found a slot for every
occurrence of their topics. -/
theorem Registering.slots_suffice (hroutes : Routes start members)
    (hregistered : Registering start subscriberFd topicIds members listed
      (start.publishersOfTopics topicIds) attaching)
    {topicId : TopicId} {publisherFd : Fd} {heap : SlotHeap}
    (hheap : start.freeSlots topicId publisherFd = some heap) :
    topicIds.count topicId ≤ heap.size := by
  obtain ⟨left, hleft⟩ := Option.isSome_iff_exists.mp
    ((hregistered.slots.isSome_eq topicId publisherFd).symm.trans (by rw [hheap]; rfl))
  have hfree := congrArg Multiset.card (hregistered.slots.free_eq hleft hheap)
  have hcount := hroutes.count_publishersOfTopics topicIds publisherFd
  rw [hroutes.topic_of_freeSlots (by rw [hheap]; rfl), Option.elim_some] at hcount
  rw [Multiset.card_add, card_heldSlots, hregistered.attached, hcount, SlotHeap.card_free,
    SlotHeap.card_free] at hfree
  omega

/-- Only a registration within the capacities completes. -/
theorem registerSubscriber_capacity (hroutes : Routes session.broker members)
    (hsent : session.sent = []) :
    Meets (registerSubscriber env subscriberFd topicIds session)
      (fun _ => session.broker.HasCapacity (.subscriber topicIds)) fun _ => True := by
  have hloop : Meets (topicIds.foldlM (attachTopic env subscriberFd)
      (.start subscriberFd topicIds session)) _ _ :=
    attachTopics_meets hroutes hsent (List.append_nil topicIds).symm
  refine (hloop.mono (fun _ hpost => hpost) fun _ _ => trivial).bind
    fun attaching hregistered => ?_
  have hlength : attaching.attachments.length =
      (session.broker.publishersOfTopics topicIds).length := by
    rw [← hregistered.attached, List.length_map]
  have hcapacity : attaching.attachments.length ≤ kMaxAttachmentsPerBatch →
      session.broker.HasCapacity (.subscriber topicIds) := fun hbatch =>
    ⟨hlength ▸ hbatch, fun _ _ _ hheap => hregistered.slots_suffice hroutes hheap⟩
  have hbatch : Meets (sendAttachmentBatch env attaching.session subscriberFd
      attaching.attachments attaching.shmFds .subscriberTopicAttachmentBatchSend)
      (fun _ => session.broker.HasCapacity (.subscriber topicIds)) fun _ => True := by
    refine Meets.bind .always fun _ _ => (Meets.require fun _ => trivial).bind
      fun _ hbatch => ?_
    exact Meets.always.mono (fun _ _ => hcapacity hbatch) fun _ _ => trivial
  exact hbatch.bind fun _ hfits => .pure hfits

/-- The registration has come to `attaching`, and the next publisher or the batch
stops it. -/
inductive StopsAt (env : Env) (subscriberFd : Fd) (topicIds : List TopicId)
    (session : Session) (attaching : Attaching) (reason : ExitReason) : Prop
  | publisher {done rest : List TopicId} {topicId : TopicId} {reached unreached : List Fd}
      {publisherFd : Fd} {entered : Attaching}
      (htopics : topicIds = done ++ topicId :: rest)
      (hpublishers : session.broker.publishersOf topicId =
        reached ++ publisherFd :: unreached)
      (hdone : done.foldlM (attachTopic env subscriberFd)
        (.start subscriberFd topicIds session) = .ok entered)
      (hreached : reached.foldlM (attachPublisher env topicId)
        (entered.list subscriberFd topicId) = .ok attaching)
      (hstops : attachPublisher env topicId attaching publisherFd = .error reason)
  | batch
      (hdone : topicIds.foldlM (attachTopic env subscriberFd)
        (.start subscriberFd topicIds session) = .ok attaching)
      (hstops : sendAttachmentBatch env attaching.session subscriberFd
        attaching.attachments attaching.shmFds .subscriberTopicAttachmentBatchSend =
          .error reason)

/-- What a registration has done by then: it has told publishers of its topics and
nobody else, it has taken their slots for its attachments, and it has changed nothing
that belongs to other clients. -/
structure PartlyAttached (start : Broker) (subscriberFd : Fd) (topicIds : List TopicId)
    (attaching : Attaching) : Prop where
  peers : attaching.session.sent.map Prod.fst <+: start.publishersOfTopics topicIds
  slots : SlotsMove attaching.session.broker start fun fd =>
    heldSlots fd attaching.attachments
  attachments : attaching.session.broker.subscriberAttachmentsBySubscriberFd =
    start.subscriberAttachmentsBySubscriberFd
  publishers : attaching.session.broker.publisherFdsByTopicId = start.publisherFdsByTopicId
  subscribers : ∀ topicId other, other ≠ subscriberFd →
    (attaching.session.broker.subscribersOf topicId).count other =
      (start.subscribersOf topicId).count other

theorem Registering.partlyAttached
    (hregistering :
      Registering start subscriberFd topicIds members listed visited attaching)
    (hvisited : visited <+: start.publishersOfTopics topicIds) :
    PartlyAttached start subscriberFd topicIds attaching where
  peers := hregistering.peers ▸ hvisited
  slots := hregistering.slots
  attachments := by rw [hregistering.others]
  publishers := by rw [hregistering.others]
  subscribers topicId other hother := by
    rw [hregistering.subscribers, if_neg hother, add_zero]

/-- Where a registration that stops has come to. -/
theorem registerSubscriber_stopsAt (hroutes : Routes session.broker members)
    (hsent : session.sent = [])
    (hstops : registerSubscriber env subscriberFd topicIds session = .error reason) :
    ∃ attaching, StopsAt env subscriberFd topicIds session attaching reason ∧
      PartlyAttached session.broker subscriberFd topicIds attaching := by
  replace hstops : (do
      let attaching ← topicIds.foldlM (attachTopic env subscriberFd)
        (.start subscriberFd topicIds session)
      let session ← sendAttachmentBatch env attaching.session subscriberFd
        attaching.attachments attaching.shmFds .subscriberTopicAttachmentBatchSend
      pure (session.update fun broker => { broker with
        subscriberAttachmentsBySubscriberFd :=
          insertNew broker.subscriberAttachmentsBySubscriberFd subscriberFd
            attaching.attachments })) = Except.error reason := hstops
  cases hloop : topicIds.foldlM (attachTopic env subscriberFd)
      (.start subscriberFd topicIds session) with
  | ok attaching =>
      rw [hloop] at hstops
      have hregistered :=
        (attachTopics_meets hroutes hsent (List.append_nil topicIds).symm).of_ok hloop
      refine ⟨attaching, .batch hloop ?_,
        hregistered.partlyAttached (List.prefix_refl _)⟩
      cases hbatch : sendAttachmentBatch env attaching.session subscriberFd
          attaching.attachments attaching.shmFds .subscriberTopicAttachmentBatchSend with
      | ok after =>
          change (sendAttachmentBatch env attaching.session subscriberFd
            attaching.attachments attaching.shmFds _ >>= _) = _ at hstops
          rw [hbatch] at hstops
          cases hstops
      | error other =>
          change (sendAttachmentBatch env attaching.session subscriberFd
            attaching.attachments attaching.shmFds _ >>= _) = _ at hstops
          rw [hbatch] at hstops
          exact congrArg Except.error (Except.error.inj hstops)
  | error other =>
      rw [hloop] at hstops
      obtain rfl : other = reason := Except.error.inj hstops
      obtain ⟨done, topicId, rest, entered, htopics, hdone, htopic⟩ := foldlM_error hloop
      have hentered := (attachTopics_meets hroutes hsent htopics).of_ok hdone
      rw [attachTopic_eq hroutes hentered] at htopic
      obtain ⟨reached, publisherFd, unreached, attaching, hpublishers, hreached, hlast⟩ :=
        foldlM_error htopic
      have hattaching :=
        (attachPublishers_meets hroutes htopics hpublishers hentered).of_ok hreached
      refine ⟨attaching, .publisher htopics hpublishers hdone hreached hlast,
        hattaching.partlyAttached ?_⟩
      rw [htopics, Broker.publishersOfTopics_append]
      refine (List.prefix_append_right_inj _).mpr ?_
      rw [Broker.publishersOfTopics, List.flatMap_cons, hpublishers, List.append_assoc]
      exact List.prefix_append _ _

end Subscriber

/-! ## Over capacity -/

/-- In every state of a run over admitted records, a registration that exceeds a
capacity stops the broker.  A publisher's does so whatever the environment; a
subscriber's does so at the limit, unless a resource is wanting before that. -/
theorem over_capacity_registration_stops {world : World}
    (hreach : network.ReachableWith AdmittedRecords world) (hrunning : world.exited = none)
    {fd : Fd} {connection : Connection} {packet : Packet} {rest : List Packet}
    (hconnection : world.connections fd = some connection)
    (hinbox : connection.inbox = packet :: rest)
    (hunregistered : world.broker.roleByFd.lookup fd = none) {member : Member}
    (hasks : packet.Asks member) (hover : ¬world.broker.HasCapacity member) (env : Env) :
    ∃ reason,
      network.next world (.receive fd env) = some { world with exited := some reason } ∧
      (∀ topicId, member = .publisher topicId → reason = .brokerSubscriberSlotCapacity) ∧
      ∀ topicIds, member = .subscriber topicIds →
        (reason ∈ member.limits ∨ Excused env world.broker.nextAttachmentId
          (world.broker.registrationDue fd member) reason) ∧
        ∃ attaching, StopsAt env fd topicIds (.start world.broker) attaching reason ∧
          PartlyAttached world.broker fd topicIds attaching := by
  obtain ⟨members, hregistered⟩ := registered_of_reachable hreach
  have hfresh := hregistered.member_eq_none hunregistered
  have hroutes : Routes (Session.start world.broker).broker members := hregistered.routes
  have hnext : ∀ reason, handleRecord env fd packet (.start world.broker) = .error reason →
      network.next world (.receive fd env) = some { world with exited := some reason } := by
    intro reason hstops
    change world.next (.receive fd env) = _
    simp [World.next, World.receive, hrunning, hconnection, hinbox, hstops, Except.map,
      World.settle]
  cases member with
  | publisher topicId =>
      refine ⟨.brokerSubscriberSlotCapacity, hnext _ ?_, fun _ _ => rfl, by rintro _ ⟨⟩⟩
      exact hasks.handleRecord_publisher fun _ _ =>
        registerPublisher_overCapacity hroutes hfresh hover
  | subscriber topicIds =>
      have hmeets : Meets (registerSubscriber env fd topicIds (.start world.broker)) _ _ :=
        registerSubscriber_meets hroutes rfl hfresh
      cases hresult : registerSubscriber env fd topicIds (.start world.broker) with
      | ok after =>
          exact absurd ((registerSubscriber_capacity hroutes rfl).of_ok hresult) hover
      | error reason =>
          refine ⟨reason, hnext _ (hasks.handleRecord_subscriber hresult), by rintro _ ⟨⟩, ?_⟩
          rintro _ ⟨⟩
          exact ⟨(hmeets.of_error hresult).imp_left And.right,
            registerSubscriber_stopsAt hroutes rfl hresult⟩

/-! ## A subscriber behind a full publisher -/

/-- The publishers on the descriptors 3 and 8 have the topics 2 and 1.  Four
subscribers take all slots of the first. -/
def fillsPublisher : List Action :=
  let five : Request := .subscribe ⟨[2, 2, 2, 2, 2], by decide, by decide⟩
  registers 3 (.publish 2 50 51) 100 ++ registers 4 five 100 ++ registers 5 five 105 ++
    registers 6 five 110 ++ registers 7 (.subscribe ⟨[2], by decide, by decide⟩) 115 ++
    registers 8 (.publish 1 52 53) 116

/-- Behind them the client on descriptor 9 asks for both topics. -/
def fullPublisher : World :=
  (network.guardedRun admitsAction World.initial (fillsPublisher ++
    [.accept 9, .request 9 (Request.subscribe ⟨[1, 2], by decide, by decide⟩).packet]
    )).getD World.initial

theorem fullPublisher_reachable : network.ReachableWith AdmittedRecords fullPublisher :=
  System.ReachableWith.initial.guardedRun (fun _ _ => admittedRecords_of_admitsAction)
    (Option.getD_of_ne_none (by decide +kernel) _).symm

theorem fullPublisher_connection : fullPublisher.connections 9 =
    some ⟨[], [(Request.subscribe ⟨[1, 2], by decide, by decide⟩).packet], false⟩ := by
  decide +kernel

theorem fullPublisher_asks :
    (Request.subscribe ⟨[1, 2], by decide, by decide⟩).packet.Asks (.subscriber [1, 2]) :=
  .subscriber (TopicList.length_bytes ⟨[1, 2], by decide, by decide⟩) (by decide)

theorem fullPublisher_overCapacity :
    ¬fullPublisher.broker.HasCapacity (.subscriber [1, 2]) := by
  intro hcapacity
  have hsize : (fullPublisher.broker.freeSlots 2 3).map SlotHeap.size = some 0 := by
    decide +kernel
  obtain ⟨heap, hheap, hempty⟩ := Option.map_eq_some_iff.mp hsize
  have hcount := hcapacity.2 2 3 heap hheap
  rw [hempty] at hcount
  exact absurd hcount (by decide)

theorem over_capacity_registration_stops_fullPublisher :
    ∃ reason, network.next fullPublisher (.receive 9 (.opening 116)) =
        some { fullPublisher with exited := some reason } ∧
      ∃ attaching, StopsAt (.opening 116) 9 [1, 2] (.start fullPublisher.broker) attaching
          reason ∧
        PartlyAttached fullPublisher.broker 9 [1, 2] attaching :=
  have ⟨reason, hnext, _, hsubscriber⟩ :=
    over_capacity_registration_stops fullPublisher_reachable (by decide +kernel)
      fullPublisher_connection rfl (by decide +kernel) fullPublisher_asks
      fullPublisher_overCapacity (.opening 116)
  ⟨reason, hnext, (hsubscriber [1, 2] rfl).2⟩

/-- The record is refused: the broker runs on, and all that belongs to the other
clients, the slots included, is as it was. -/
def Refuses (world : World) (fd : Fd) (env : Env) : Prop :=
  ∃ world', network.next world (.receive fd env) = some world' ∧ world'.exited = none ∧
    (∀ topicId publisherFd,
      world'.broker.freeSlots topicId publisherFd = world.broker.freeSlots topicId publisherFd) ∧
    (∃ sent, world'.sent = world.sent ++ sent ∧ ∀ record ∈ sent, record.1 = fd) ∧
    ∀ other, other ≠ fd →
      world'.broker.attachmentsOf other = world.broker.attachmentsOf other ∧
      ∀ topicId, (world'.broker.publishersOf topicId).count other =
          (world.broker.publishersOf topicId).count other ∧
        (world'.broker.subscribersOf topicId).count other =
          (world.broker.subscribersOf topicId).count other

theorem over_capacity_not_refused :
    ¬∀ world, network.ReachableWith AdmittedRecords world → world.exited = none →
      ∀ fd connection packet rest member, world.connections fd = some connection →
        connection.inbox = packet :: rest → world.broker.roleByFd.lookup fd = none →
        packet.Asks member → ¬world.broker.HasCapacity member →
        ∀ env, Refuses world fd env := by
  intro hclaim
  obtain ⟨world', hnext, hrunning, -⟩ := hclaim fullPublisher fullPublisher_reachable
    (by decide +kernel) 9 _ _ _ _ fullPublisher_connection rfl (by decide +kernel)
    fullPublisher_asks fullPublisher_overCapacity (.opening 116)
  have hexited : (network.next fullPublisher (.receive 9 (.opening 116))).map
      World.exited = some (some .brokerNoFreeSubscriberSlot) := by decide +kernel
  rw [hnext, Option.map_some, hrunning] at hexited
  cases hexited

end DriveBus.ControlPlane
