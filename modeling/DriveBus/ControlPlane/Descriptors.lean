import DriveBus.ControlPlane.Roles
import DriveBus.ControlPlane.Transcript
import DriveBus.Library.DescriptorTable

/-!
# The descriptors of the broker

The broker's maps hold descriptor numbers: connections, event descriptors and what the
publishers have sent.  A handler keeps the books: whatever the maps hold afterwards and
whatever the handler has closed, they had held before or the kernel has handed out
during the handler.  The records of the clients may be any bytes here.
-/

namespace DriveBus.ControlPlane

open DriveBus.Contract DriveBus.DescriptorTable DriveBus.UnorderedMap

/-! ## Who holds a number -/

/-- What a number of the broker's process was handed out for. -/
inductive Owner
  /-- The listening socket, the epoll instance and the signal descriptor. -/
  | main
  | connection
  | dataAvailableEvent (attachmentId : ℕ)
  | sharedMemory (publisherFd : Fd)
  | spaceAvailableEvent (publisherFd : Fd)
  /-- A descriptor that came with a record and that no branch looks at. -/
  | unclaimed
  deriving DecidableEq

/-- The event descriptors that a list of attachments holds. -/
def eventEntries (attachments : List SubscriberAttachment) : List (Fd × Owner) :=
  attachments.map fun attachment =>
    (attachment.dataAvailableEventFd, .dataAvailableEvent attachment.attachmentId)

def heldConnections (clientFds : Finset Fd) : Multiset (Fd × Owner) :=
  clientFds.val.map (·, .connection)

def heldEvents (attachments : Map Fd (List SubscriberAttachment)) : Multiset (Fd × Owner) :=
  total (fun _ attachments => (eventEntries attachments : Multiset (Fd × Owner))) attachments

/-- The descriptors that a map keeps under its publishers. -/
def heldOf (owner : Fd → Owner) (fds : Map Fd Fd) : Multiset (Fd × Owner) :=
  total (fun publisherFd fd => {(fd, owner publisherFd)}) fds

/-- The numbers in the broker's maps, each with what the map takes it for. -/
def Broker.held (broker : Broker) : Multiset (Fd × Owner) :=
  heldConnections broker.clientFds +
    heldEvents broker.subscriberAttachmentsBySubscriberFd +
    heldOf .sharedMemory broker.shmFdByPublisherFd +
    heldOf .spaceAvailableEvent broker.spaceEventFdByPublisherFd

/-- The descriptors that `recvmsg` installs with a record.  Only the publisher's
registration looks at them. -/
def Packet.installs (fd : Fd) (packet : Packet) : List (Fd × Owner) :=
  if packet.bytes.head? = some BrokerMessageType.publisherTopicRegistration.code then
    (packet.rights.getD []).zip [.sharedMemory fd, .spaceAvailableEvent fd]
  else (packet.rights.getD []).map (·, .unclaimed)

/-- The event descriptors that a handler has created, in order; each is for the next
attachment id. -/
def createdEvents (env : Env) (firstId count : ℕ) : List (Fd × Owner) :=
  (List.range count).filterMap fun index =>
    (env.eventfd index).map (·, .dataAvailableEvent (firstId + index))

/-! ## What the updates of the maps hold -/

section Held

variable {broker : Broker} {fd : Fd}

theorem heldConnections_insert {clientFds : Finset Fd} (hnew : fd ∉ clientFds) :
    heldConnections (insert fd clientFds) =
      heldConnections clientFds + {(fd, .connection)} := by
  rw [heldConnections, Finset.insert_val_of_notMem hnew, Multiset.map_cons,
    ← Multiset.singleton_add, add_comm, heldConnections]

theorem heldConnections_erase {clientFds : Finset Fd} (hmem : fd ∈ clientFds) :
    heldConnections (clientFds.erase fd) + {(fd, .connection)} =
      heldConnections clientFds := by
  rw [← heldConnections_insert (Finset.notMem_erase fd clientFds), Finset.insert_erase hmem]

theorem weightAt_eventEntries (map : Map Fd (List SubscriberAttachment)) (fd : Fd) :
    weightAt (fun _ attachments => (eventEntries attachments : Multiset (Fd × Owner)))
      map fd = eventEntries ((map.lookup fd).getD []) := by
  rw [weightAt]
  cases map.lookup fd <;> rfl

theorem heldEvents_insert (map : Map Fd (List SubscriberAttachment))
    (attachments : List SubscriberAttachment) :
    heldEvents (map.insert fd attachments) + eventEntries ((map.lookup fd).getD []) =
      heldEvents map + eventEntries attachments := by
  rw [← weightAt_eventEntries]
  exact total_insert _ map fd attachments

theorem heldEvents_erase (map : Map Fd (List SubscriberAttachment)) (fd : Fd) :
    heldEvents (map.erase fd) + eventEntries ((map.lookup fd).getD []) = heldEvents map := by
  rw [← weightAt_eventEntries]
  exact total_erase _ map fd

/-- Registering a list of attachments only adds, and an entry that exists is kept. -/
theorem heldEvents_insertNew_le (map : Map Fd (List SubscriberAttachment)) (fd : Fd)
    (attachments : List SubscriberAttachment) :
    heldEvents (insertNew map fd attachments) ≤
      heldEvents map + eventEntries attachments := by
  rw [insertNew]
  split
  · exact Multiset.le_add_right _ _
  · rw [← heldEvents_insert]
    exact Multiset.le_add_right _ _

theorem heldOf_insert {owner : Fd → Owner} {map : Map Fd Fd}
    (habsent : map.lookup fd = none) (value : Fd) :
    heldOf owner (map.insert fd value) = heldOf owner map + {(value, owner fd)} := by
  have htotal := total_insert (fun publisherFd value =>
    ({(value, owner publisherFd)} : Multiset (Fd × Owner))) map fd value
  rwa [weightAt, habsent, Option.elim_none, add_zero] at htotal

theorem heldOf_erase {owner : Fd → Owner} {map : Map Fd Fd} {value : Fd}
    (hlookup : map.lookup fd = some value) :
    heldOf owner (map.erase fd) + {(value, owner fd)} = heldOf owner map := by
  have htotal := total_erase (fun publisherFd value =>
    ({(value, owner publisherFd)} : Multiset (Fd × Owner))) map fd
  rwa [weightAt, hlookup, Option.elim_some] at htotal

theorem held_setAttachments (broker : Broker) (fd : Fd)
    (attachments : List SubscriberAttachment) :
    (broker.setAttachments fd attachments).held + eventEntries (broker.attachmentsOf fd) =
      broker.held + eventEntries attachments := by
  have hinsert : heldEvents (broker.setAttachments fd attachments
      ).subscriberAttachmentsBySubscriberFd + eventEntries (broker.attachmentsOf fd) =
        heldEvents broker.subscriberAttachmentsBySubscriberFd + eventEntries attachments :=
    heldEvents_insert _ attachments
  calc
    (broker.setAttachments fd attachments).held + eventEntries (broker.attachmentsOf fd)
      = heldConnections broker.clientFds +
          (heldEvents (broker.setAttachments fd attachments
            ).subscriberAttachmentsBySubscriberFd + eventEntries (broker.attachmentsOf fd)) +
          heldOf .sharedMemory broker.shmFdByPublisherFd +
          heldOf .spaceAvailableEvent broker.spaceEventFdByPublisherFd := by
        rw [Broker.held]
        change heldConnections broker.clientFds + _ +
          heldOf .sharedMemory broker.shmFdByPublisherFd +
          heldOf .spaceAvailableEvent broker.spaceEventFdByPublisherFd + _ = _
        abel
    _ = broker.held + eventEntries attachments := by
        rw [hinsert, Broker.held]
        abel

theorem held_attach (attachment : SubscriberAttachment) :
    (broker.setAttachments fd (broker.attachmentsOf fd ++ [attachment])).held =
      broker.held + {(attachment.dataAvailableEventFd,
        .dataAvailableEvent attachment.attachmentId)} := by
  have hset := held_setAttachments broker fd (broker.attachmentsOf fd ++ [attachment])
  rw [show eventEntries (broker.attachmentsOf fd ++ [attachment]) =
    eventEntries (broker.attachmentsOf fd) ++ eventEntries [attachment] from List.map_append,
    ← Multiset.coe_add, ← add_assoc, add_right_comm] at hset
  exact add_right_cancel hset

theorem held_detach {attachment : SubscriberAttachment}
    {front back : List SubscriberAttachment}
    (hattachments : broker.attachmentsOf fd = front ++ attachment :: back) :
    (broker.setAttachments fd (front ++ back)).held + {(attachment.dataAvailableEventFd,
      .dataAvailableEvent attachment.attachmentId)} = broker.held := by
  have hset := held_setAttachments broker fd (front ++ back)
  have hentries : (eventEntries (front ++ attachment :: back) : Multiset (Fd × Owner)) =
      {(attachment.dataAvailableEventFd, Owner.dataAvailableEvent attachment.attachmentId)} +
        eventEntries (front ++ back) := by
    rw [eventEntries, List.map_append, List.map_cons, Multiset.coe_eq_coe.mpr
      List.perm_middle, ← Multiset.cons_coe, ← Multiset.singleton_add, ← List.map_append,
      eventEntries]
  rw [hattachments, hentries, ← add_assoc] at hset
  exact add_right_cancel hset

end Held

/-! ## Registrations -/

@[simp]
theorem createdEvents_zero (env : Env) (firstId : ℕ) : createdEvents env firstId 0 = [] := rfl

theorem createdEvents_succ {env : Env} {firstId count : ℕ} {fd : Fd}
    (hfd : env.eventfd count = some fd) :
    createdEvents env firstId (count + 1) =
      createdEvents env firstId count ++ [(fd, .dataAvailableEvent (firstId + count))] := by
  simp [createdEvents, List.range_succ, hfd]

/-- What a registration has done to the descriptors so far: nothing is closed, and what
the broker and the locals of the handler hold had been held or was handed out.  The
`received` descriptors are those that the maps have taken from the record. -/
structure Opened (env : Env) (before : Broker) (received pending : Multiset (Fd × Owner))
    (session : Session) : Prop where
  closed : session.closed = []
  clientFds : session.broker.clientFds = before.clientFds
  next : session.broker.nextAttachmentId = before.nextAttachmentId + session.created
  bounded : session.broker.nextAttachmentId < 2 ^ 64
  balance : session.broker.held + pending ≤ before.held + received +
    createdEvents env before.nextAttachmentId session.created

theorem Opened.start (env : Env) {broker : Broker}
    (hbounded : broker.nextAttachmentId < 2 ^ 64) :
    Opened env broker 0 0 (.start broker) where
  closed := rfl
  clientFds := rfl
  next := rfl
  bounded := hbounded
  balance := by simp [Session.start]

section Registrations

variable {env : Env} {before : Broker} {received pending : Multiset (Fd × Owner)}
  {session : Session}

theorem Session.eventfd_created {reason : ExitReason} :
    Meets (session.eventfd env reason)
      (fun result => env.eventfd session.created = some result.1 ∧
        result.2 = { session with created := session.created + 1 })
      fun _ => True := by
  unfold Session.eventfd
  split
  · exact .ok ⟨‹_›, rfl⟩
  · exact .error trivial

/-- One event descriptor and the attachment id that belongs to it. -/
theorem Opened.attach (hopened : Opened env before received pending session) {fd : Fd}
    (hfd : env.eventfd session.created = some fd) {after : Session}
    (hclosed : after.closed = session.closed) (hcreated : after.created = session.created + 1)
    (hclientFds : after.broker.clientFds = session.broker.clientFds)
    (hnext : after.broker.nextAttachmentId = session.broker.nextAttachmentId + 1)
    (hbounded : after.broker.nextAttachmentId < 2 ^ 64) {pending' : Multiset (Fd × Owner)}
    (hheld : after.broker.held + pending' ≤ session.broker.held + pending +
      {(fd, Owner.dataAvailableEvent session.broker.nextAttachmentId)}) :
    Opened env before received pending' after where
  closed := hclosed.trans hopened.closed
  clientFds := hclientFds.trans hopened.clientFds
  next := by rw [hnext, hopened.next, hcreated, add_assoc]
  bounded := hbounded
  balance := by
    refine hheld.trans ?_
    rw [hcreated, createdEvents_succ hfd, ← hopened.next, ← Multiset.coe_add, ← add_assoc]
    exact add_le_add hopened.balance le_rfl

theorem attachPublisher_opened {topicId : TopicId} {attaching : Attaching} {publisherFd : Fd}
    (hopened : Opened env before received (eventEntries attaching.attachments)
      attaching.session) :
    Meets (attachPublisher env topicId attaching publisherFd)
      (fun attaching => Opened env before received (eventEntries attaching.attachments)
        attaching.session) fun _ => True := by
  refine Meets.always.bind fun shmFd _ => Meets.always.bind fun slots _ =>
    Meets.always.bind fun _ _ => Meets.always.bind fun spaceAvailableEventFd _ => ?_
  refine Session.eventfd_created.bind ?_
  rintro ⟨dataAvailableEventFd, _⟩ ⟨hfd, rfl⟩
  refine Session.send_exact.bind ?_
  rintro _ rfl
  refine (Session.takeAttachmentId_exact ?_).bind ?_
  · exact hopened.bounded
  rintro ⟨attachmentId, _⟩ ⟨rfl, hbounded, rfl⟩
  refine .pure ?_
  refine hopened.attach hfd ?_ ?_ ?_ ?_ hbounded ?_
  any_goals rfl
  rw [eventEntries, List.map_append, ← Multiset.coe_add, ← add_assoc]
  exact le_rfl

theorem attachTopic_opened {subscriberFd : Fd} {topicId : TopicId} {attaching : Attaching}
    (hopened : Opened env before received (eventEntries attaching.attachments)
      attaching.session) :
    Meets (attachTopic env subscriberFd attaching topicId)
      (fun attaching => Opened env before received (eventEntries attaching.attachments)
        attaching.session) fun _ => True := by
  have hlisted : Opened env before received (eventEntries attaching.attachments)
      (attaching.list subscriberFd topicId).session :=
    ⟨hopened.closed, hopened.clientFds, hopened.next, hopened.bounded, hopened.balance⟩
  unfold attachTopic
  dsimp only
  split
  · exact .pure hlisted
  · refine Meets.always.bind fun _ _ => Meets.foldlM (fun _ (attaching : Attaching) =>
      Opened env before received (eventEntries attaching.attachments) attaching.session)
      hlisted ?_
    exact fun _ _ _ _ _ hinv => attachPublisher_opened hinv

theorem registerSubscriber_opened {subscriberFd : Fd} {topicIds : List TopicId}
    {broker : Broker} (hbounded : broker.nextAttachmentId < 2 ^ 64) :
    Meets (registerSubscriber env subscriberFd topicIds (.start broker))
      (Opened env broker 0 0) fun _ => True := by
  refine (Meets.foldlM (fun _ attaching =>
    Opened env broker 0 (eventEntries attaching.attachments) attaching.session) ?_ ?_).bind ?_
  · exact ⟨rfl, rfl, rfl, hbounded, (Opened.start env hbounded).balance⟩
  · exact fun _ _ _ _ _ hinv => attachTopic_opened hinv
  intro attaching hopened
  refine Session.sendAttachmentBatch_exact.bind ?_
  rintro _ ⟨rfl, -⟩
  refine .pure ⟨hopened.closed, hopened.clientFds, hopened.next, hopened.bounded, ?_⟩
  refine le_trans ?_ hopened.balance
  have hinsert := heldEvents_insertNew_le
    attaching.session.broker.subscriberAttachmentsBySubscriberFd subscriberFd
    attaching.attachments
  calc
    _ = heldConnections attaching.session.broker.clientFds +
          heldEvents (insertNew attaching.session.broker.subscriberAttachmentsBySubscriberFd
            subscriberFd attaching.attachments) +
          heldOf .sharedMemory attaching.session.broker.shmFdByPublisherFd +
          heldOf .spaceAvailableEvent attaching.session.broker.spaceEventFdByPublisherFd :=
        add_zero _
    _ ≤ heldConnections attaching.session.broker.clientFds +
          (heldEvents attaching.session.broker.subscriberAttachmentsBySubscriberFd +
            eventEntries attaching.attachments) +
          heldOf .sharedMemory attaching.session.broker.shmFdByPublisherFd +
          heldOf .spaceAvailableEvent attaching.session.broker.spaceEventFdByPublisherFd := by
        gcongr
    _ = attaching.session.broker.held + eventEntries attaching.attachments := by
        rw [Broker.held]
        abel

theorem attachSubscriber_opened {publisherFd shmFd spaceAvailableEventFd subscriberFd : Fd}
    {topicId : TopicId} (hopened : Opened env before received 0 session) :
    Meets (attachSubscriber env publisherFd topicId shmFd spaceAvailableEventFd session
        subscriberFd) (Opened env before received 0) fun _ => True := by
  refine Session.eventfd_created.bind ?_
  rintro ⟨dataAvailableEventFd, _⟩ ⟨hfd, rfl⟩
  refine Session.send_exact.bind ?_
  rintro _ rfl
  refine (Session.takeAttachmentId_exact ?_).bind ?_
  · exact hopened.bounded
  rintro ⟨attachmentId, _⟩ ⟨rfl, hbounded, rfl⟩
  refine Session.sendAttachmentBatch_exact.bind ?_
  rintro _ ⟨rfl, -⟩
  refine (Meets.orStop_found trivial).bind fun attachments hlookup => ?_
  obtain rfl := attachmentsOf_of_lookup hlookup
  refine .pure ?_
  refine hopened.attach hfd ?_ ?_ ?_ ?_ hbounded ?_
  any_goals rfl
  rw [add_zero, add_zero]
  exact (held_attach _).le

/-- The two descriptors that a publisher registers. -/
def publisherEntries (publisherFd shmFd spaceAvailableEventFd : Fd) : List (Fd × Owner) :=
  [(shmFd, .sharedMemory publisherFd),
    (spaceAvailableEventFd, .spaceAvailableEvent publisherFd)]

theorem registerPublisher_opened {publisherFd shmFd spaceAvailableEventFd : Fd}
    {topicId : TopicId} {broker : Broker} (hbounded : broker.nextAttachmentId < 2 ^ 64) :
    Meets (registerPublisher env publisherFd topicId shmFd spaceAvailableEventFd
        (.start broker))
      (Opened env broker (publisherEntries publisherFd shmFd spaceAvailableEventFd) 0)
      fun _ => True := by
  refine (Meets.require fun _ => trivial).bind fun _
    (hshmFd : broker.shmFdByPublisherFd.lookup publisherFd = none) => ?_
  refine (Meets.require fun _ => trivial).bind fun _
    (hspaceEventFd : broker.spaceEventFdByPublisherFd.lookup publisherFd = none) => ?_
  refine Meets.always.bind fun _ _ => (Meets.require fun _ => trivial).bind fun _ _ => ?_
  refine Session.send_exact.bind ?_
  rintro _ rfl
  refine (Meets.foldlM (fun _ => Opened env broker
    (publisherEntries publisherFd shmFd spaceAvailableEventFd) 0) ?_ ?_).bind ?_
  · refine ⟨rfl, rfl, rfl, hbounded, ?_⟩
    rw [add_zero]
    refine le_of_eq ?_
    calc
      _ = heldConnections broker.clientFds +
            heldEvents broker.subscriberAttachmentsBySubscriberFd +
            heldOf .sharedMemory (broker.shmFdByPublisherFd.insert publisherFd shmFd) +
            heldOf .spaceAvailableEvent
              (broker.spaceEventFdByPublisherFd.insert publisherFd spaceAvailableEventFd) := rfl
      _ = broker.held + ({(shmFd, .sharedMemory publisherFd)} +
            {(spaceAvailableEventFd, .spaceAvailableEvent publisherFd)}) := by
          rw [heldOf_insert hshmFd, heldOf_insert hspaceEventFd, Broker.held]
          abel
      _ = broker.held + publisherEntries publisherFd shmFd spaceAvailableEventFd := rfl
      _ = _ := (add_zero _).symm
  · exact fun _ _ _ _ _ hinv => attachSubscriber_opened hinv
  · intro after hopened
    exact .pure ⟨hopened.closed, hopened.clientFds, hopened.next, hopened.bounded,
      hopened.balance⟩

end Registrations

/-! ## Departures -/

/-- A disconnect handler closes the client's connection and what it erases from the
maps, and it leaves `client_fds` alone. -/
structure Released (fd : Fd) (before : Broker) (session : Session) : Prop where
  created : session.created = 0
  clientFds : session.broker.clientFds = before.clientFds
  next : session.broker.nextAttachmentId = before.nextAttachmentId
  balance : ∃ closings : List (Fd × Owner),
    session.closed = closings.map Prod.fst ++ [fd] ∧
      session.broker.held + closings ≤ before.held

section Departures

variable {env : Env} {session : Session}

/-- What the loop of a disconnect handler has closed. -/
structure Closing (before : Broker) (closings : List (Fd × Owner)) (session : Session) :
    Prop where
  closed : session.closed = closings.map Prod.fst
  created : session.created = 0
  next : session.broker.nextAttachmentId = before.nextAttachmentId
  clientFds : session.broker.clientFds = before.clientFds
  shmFds : session.broker.shmFdByPublisherFd = before.shmFdByPublisherFd
  spaceEventFds : session.broker.spaceEventFdByPublisherFd = before.spaceEventFdByPublisherFd

theorem Closing.start (broker : Broker) : Closing broker [] (.start broker) :=
  ⟨rfl, rfl, rfl, rfl, rfl, rfl⟩

theorem releaseAttachment_closing {before : Broker} {closings : List (Fd × Owner)}
    {attachment : SubscriberAttachment} (hclosing : Closing before closings session) :
    Meets (releaseAttachment env session attachment)
      (fun after => Closing before (closings ++ eventEntries [attachment]) after ∧
        after.broker.attachmentBook = session.broker.attachmentBook) fun _ => True := by
  refine Session.send_exact.bind ?_
  rintro _ rfl
  refine Meets.always.bind fun _ _ => Meets.always.bind fun _ _ => .pure ⟨?_, rfl⟩
  refine ⟨?_, hclosing.created, hclosing.next, hclosing.clientFds, hclosing.shmFds,
    hclosing.spaceEventFds⟩
  rw [List.map_append, ← hclosing.closed]
  rfl

/-- Dropping a subscriber from a topic's list changes no other map. -/
theorem dropTopicSubscriber_others {subscriberFd : Fd} {broker : Broker}
    {topicId : TopicId} :
    Meets (dropTopicSubscriber subscriberFd broker topicId)
      (fun after => after = { broker with
        subscriberFdsByTopicId := after.subscriberFdsByTopicId }) fun _ => True :=
  Meets.always.bind fun _ _ => Meets.always.bind fun _ _ => .pure rfl

theorem handleSubsciberDisconect_released {subscriberFd : Fd} {broker : Broker} :
    Meets (handleSubsciberDisconect env subscriberFd (.start broker))
      (Released subscriberFd broker) fun _ => True := by
  refine (Meets.orStop_found trivial).bind fun attachments
    (hlookup : broker.subscriberAttachmentsBySubscriberFd.lookup subscriberFd =
      some attachments) => ?_
  refine Meets.always.bind fun topicIds _ => ?_
  refine (Meets.foldlM (fun done (session : Session) =>
    Closing broker (eventEntries done) session ∧
      session.broker.attachmentBook = broker.attachmentBook)
    ⟨.start broker, rfl⟩ ?_).bind ?_
  · rintro done attachment _ session - ⟨hclosing, hbook⟩
    refine (releaseAttachment_closing hclosing).mono (fun after hafter => ?_)
      fun _ _ => trivial
    rw [eventEntries, List.map_append]
    exact ⟨hafter.1, hafter.2.trans hbook⟩
  rintro session ⟨hclosing, hbook⟩
  refine (Meets.foldlM (fun _ (dropped : Broker) => dropped =
    { session.broker with
      subscriberAttachmentsBySubscriberFd :=
        session.broker.subscriberAttachmentsBySubscriberFd.erase subscriberFd
      roleByFd := session.broker.roleByFd.erase subscriberFd
      subscriberFdsByTopicId := dropped.subscriberFdsByTopicId }) rfl ?_).bind ?_
  · rintro done topicId _ dropped - hdropped
    refine dropTopicSubscriber_others.mono (fun after hafter => ?_) fun _ _ => trivial
    rw [hafter, hdropped]
  rintro dropped hdropped
  rw [hdropped]
  refine .pure ⟨hclosing.created, hclosing.clientFds, hclosing.next, eventEntries attachments,
    ?_, le_of_eq ?_⟩
  · rw [← hclosing.closed]
    rfl
  · have hmap : session.broker.subscriberAttachmentsBySubscriberFd =
        broker.subscriberAttachmentsBySubscriberFd := congrArg Prod.fst hbook
    have herase := heldEvents_erase broker.subscriberAttachmentsBySubscriberFd subscriberFd
    rw [hlookup, Option.getD_some] at herase
    calc
      _ = heldConnections session.broker.clientFds +
            heldEvents (session.broker.subscriberAttachmentsBySubscriberFd.erase subscriberFd) +
            heldOf .sharedMemory session.broker.shmFdByPublisherFd +
            heldOf .spaceAvailableEvent session.broker.spaceEventFdByPublisherFd +
            eventEntries attachments := rfl
      _ = heldConnections broker.clientFds +
            (heldEvents (broker.subscriberAttachmentsBySubscriberFd.erase subscriberFd) +
              eventEntries attachments) +
            heldOf .sharedMemory broker.shmFdByPublisherFd +
            heldOf .spaceAvailableEvent broker.spaceEventFdByPublisherFd := by
          rw [hmap, hclosing.clientFds, hclosing.shmFds, hclosing.spaceEventFds]
          abel
      _ = broker.held := by rw [herase, Broker.held]

theorem detachSubscriber_closing {before : Broker} {publisherFd subscriberFd : Fd}
    {closings : List (Fd × Owner)} (hclosing : Closing before closings session)
    (hbalance : session.broker.held + closings = before.held) :
    Meets (detachSubscriber env publisherFd session subscriberFd)
      (fun after => ∃ closings : List (Fd × Owner), Closing before closings after ∧
        after.broker.held + closings = before.held) fun _ => True := by
  refine (Meets.orStop_found trivial).bind fun attachments hlookup => ?_
  have hview := attachmentsOf_of_lookup hlookup
  refine (Meets.orStop_found trivial).bind fun attachment hfind => ?_
  obtain ⟨-, front, back, hattachments, herase⟩ := eraseP_split hfind
  refine Session.send_exact.bind ?_
  rintro _ rfl
  refine .pure ⟨closings ++ eventEntries [attachment], ⟨?_, hclosing.created, hclosing.next,
    hclosing.clientFds, hclosing.shmFds, hclosing.spaceEventFds⟩, ?_⟩
  · rw [List.map_append, ← hclosing.closed]
    rfl
  · have hdetach := held_detach (hview.trans hattachments)
    rw [herase, ← Multiset.coe_add, add_comm (closings : Multiset (Fd × Owner)), ← add_assoc,
      ← hbalance, ← hdetach]
    rfl

theorem handlePublisherDisconnect_released {publisherFd : Fd} {broker : Broker} :
    Meets (handlePublisherDisconnect env publisherFd (.start broker))
      (Released publisherFd broker) fun _ => True := by
  refine (Meets.orStop_found trivial).bind fun shmFd
    (hshmFd : broker.shmFdByPublisherFd.lookup publisherFd = some shmFd) => ?_
  refine Meets.always.bind fun found _ => Meets.always.bind fun slotsByPublisherFd _ =>
    Meets.always.bind fun _ _ => ?_
  refine (Meets.foldlM (fun _ (after : Session) => ∃ closings : List (Fd × Owner),
    Closing broker closings after ∧ after.broker.held + closings = broker.held) ?_ ?_).bind ?_
  · exact ⟨[], .start broker, add_zero _⟩
  · rintro done subscriberFd _ after - ⟨closings, hclosing, hbalance⟩
    exact detachSubscriber_closing hclosing hbalance
  rintro session ⟨closings, hclosing, hbalance⟩
  refine (Meets.orStop_found trivial).bind fun spaceAvailableEventFd
    (hspaceEventFd : session.broker.spaceEventFdByPublisherFd.lookup publisherFd =
      some spaceAvailableEventFd) => ?_
  refine .pure ⟨hclosing.created, hclosing.clientFds, hclosing.next,
    closings ++ publisherEntries publisherFd shmFd spaceAvailableEventFd, ?_, le_of_eq ?_⟩
  · rw [List.map_append, ← hclosing.closed]
    simp [publisherEntries, Session.close, Session.update]
  · rw [← hclosing.shmFds] at hshmFd
    calc
      _ = heldConnections session.broker.clientFds +
            heldEvents session.broker.subscriberAttachmentsBySubscriberFd +
            heldOf .sharedMemory (session.broker.shmFdByPublisherFd.erase publisherFd) +
            heldOf .spaceAvailableEvent
              (session.broker.spaceEventFdByPublisherFd.erase publisherFd) +
            (closings ++ publisherEntries publisherFd shmFd spaceAvailableEventFd :
              List (Fd × Owner)) := rfl
      _ = heldConnections session.broker.clientFds +
            heldEvents session.broker.subscriberAttachmentsBySubscriberFd +
            (heldOf .sharedMemory (session.broker.shmFdByPublisherFd.erase publisherFd) +
              {(shmFd, .sharedMemory publisherFd)}) +
            (heldOf .spaceAvailableEvent
                (session.broker.spaceEventFdByPublisherFd.erase publisherFd) +
              {(spaceAvailableEventFd, .spaceAvailableEvent publisherFd)}) + closings := by
          rw [← Multiset.coe_add, publisherEntries, ← Multiset.cons_coe,
            ← Multiset.singleton_add, Multiset.coe_singleton]
          abel
      _ = session.broker.held + closings := by
          rw [heldOf_erase hshmFd, heldOf_erase hspaceEventFd, Broker.held]
      _ = broker.held := hbalance

end Departures

/-! ## Events -/

/-- What an event has done to the descriptors: `client_fds` loses the connection that is
closed, if any, and whatever the broker holds or has closed had been held or was handed
out. -/
structure Balanced (before : Broker) (acquired : List (Fd × Owner)) (clientFds : Finset Fd)
    (session : Session) : Prop where
  clientFds : session.broker.clientFds = clientFds
  bounded : session.broker.nextAttachmentId < 2 ^ 64
  balance : ∃ closings : List (Fd × Owner), closings.map Prod.fst = session.closed ∧
    session.broker.held + closings ≤ before.held + acquired

section Events

variable {env : Env} {fd : Fd} {broker : Broker} {session : Session}

/-- What a registration leaves aside of a record is not held. -/
theorem Opened.balanced {received : Multiset (Fd × Owner)} {installed : List (Fd × Owner)}
    (hopened : Opened env broker received 0 session)
    (hreceived : received ≤ installed) :
    Balanced broker (installed ++ createdEvents env broker.nextAttachmentId session.created)
      broker.clientFds session where
  clientFds := hopened.clientFds
  bounded := hopened.bounded
  balance := by
    refine ⟨[], hopened.closed.symm, ?_⟩
    have hbalance := hopened.balance
    rw [add_assoc] at hbalance
    rw [← Multiset.coe_add]
    exact hbalance.trans (add_le_add le_rfl (add_le_add hreceived le_rfl))

theorem handleStatusQuery_balanced {acquired : List (Fd × Owner)}
    (hmem : fd ∈ broker.clientFds) (hbounded : broker.nextAttachmentId < 2 ^ 64) :
    Balanced broker acquired (broker.clientFds.erase fd)
      (handleStatusQuery env fd (.start broker)) := by
  have hbroker : (handleStatusQuery env fd (.start broker)).broker =
      { broker with clientFds := broker.clientFds.erase fd } ∧
        (handleStatusQuery env fd (.start broker)).closed = [fd] := by
    cases haccepts : env.accepts 0 fd <;>
      simp [handleStatusQuery, Session.send, Session.start, Session.close, Session.update,
        haccepts]
  refine ⟨by rw [hbroker.1], by rw [hbroker.1]; exact hbounded, [(fd, .connection)],
    hbroker.2.symm, ?_⟩
  rw [hbroker.1]
  refine le_trans (le_of_eq ?_) (Multiset.le_add_right _ _)
  rw [Broker.held, Broker.held, ← heldConnections_erase hmem, Multiset.coe_singleton]
  abel

theorem handleReceiveError_balanced (hbounded : broker.nextAttachmentId < 2 ^ 64) :
    Meets (handleReceiveError env fd (.start broker))
      (Balanced broker [] (broker.clientFds.erase fd)) fun _ => True := by
  refine Meets.always.bind fun role _ => ?_
  refine (Meets.require fun _ => trivial).bind fun _ (hmem : fd ∈ broker.clientFds) => ?_
  let erased : Broker := { broker with clientFds := broker.clientFds.erase fd }
  have hbalanced : ∀ session, Released fd erased session →
      Balanced broker [] (broker.clientFds.erase fd) session := by
    rintro session ⟨-, hclientFds, hnext, closings, hclosed, hheld⟩
    refine ⟨hclientFds, hnext.trans_lt hbounded, closings ++ [(fd, .connection)], ?_, ?_⟩
    · rw [hclosed, List.map_append, List.map_singleton]
    · have herased : erased.held + {(fd, .connection)} = broker.held := by
        rw [Broker.held, Broker.held, ← heldConnections_erase hmem]
        abel
      rw [← Multiset.coe_add, ← add_assoc, Multiset.coe_nil, add_zero, ← herased]
      exact add_le_add hheld le_rfl
  cases role with
  | subscriber =>
      have hreleased : Meets (handleSubsciberDisconect env fd (.start erased)) _ _ :=
        handleSubsciberDisconect_released
      exact hreleased.mono hbalanced fun _ _ => trivial
  | publisher =>
      have hreleased : Meets (handlePublisherDisconnect env fd (.start erased)) _ _ :=
        handlePublisherDisconnect_released
      exact hreleased.mono hbalanced fun _ _ => trivial

theorem handleRecord_balanced (hmem : fd ∈ broker.clientFds)
    (hbounded : broker.nextAttachmentId < 2 ^ 64) {packet : Packet}
    (hbytes : packet.bytes ≠ []) :
    Meets (handleRecord env fd packet (.start broker))
      (fun result => Balanced broker
        (packet.installs fd ++ createdEvents env broker.nextAttachmentId result.1.created)
        (if result.2 then broker.clientFds.erase fd else broker.clientFds) result.1)
      fun _ => True := by
  have hreceived : packet.bytes.take kMaxMessageSize ≠ [] := by
    simpa [kMaxMessageSize] using hbytes
  have hhead := receiveBuffer_zero env hreceived
  unfold handleRecord
  dsimp only
  rw [if_neg hreceived]
  refine Meets.bind .always fun _ _ => ?_
  split
  · refine Meets.bind .always fun _ _ => .pure ?_
    exact handleStatusQuery_balanced hmem hbounded
  · split
    · refine Meets.bind .always fun _ _ => Meets.bind .always fun _ _ => ?_
      refine Meets.bind (registerSubscriber_opened hbounded) fun after hopened => .pure ?_
      exact hopened.balanced (Multiset.zero_le _)
    · split
      · next hcode =>
          split
          · exact .error trivial
          · exact .error trivial
          · next shmFd spaceAvailableEventFd hrights =>
              refine Meets.bind (registerPublisher_opened hbounded)
                fun after hopened => .pure ?_
              refine hopened.balanced (le_of_eq ?_)
              rw [Packet.installs, if_pos (hhead.trans (congrArg some hcode)), hrights]
              rfl
          · exact .error trivial
      · refine .pure ⟨rfl, hbounded, [], rfl, ?_⟩
        rw [Multiset.coe_nil, add_zero]
        exact Multiset.le_add_right _ _

/-- The orderly closure runs the disconnect handler of the role, and nothing else. -/
theorem handleClosure_released :
    Meets (handleClosure env fd (.start broker)) (Released fd broker) fun _ => True := by
  refine Meets.always.bind fun role _ => ?_
  cases role with
  | subscriber => exact handleSubsciberDisconect_released
  | publisher => exact handlePublisherDisconnect_released

theorem handleRecord_empty {packet : Packet} (hbytes : packet.bytes = []) :
    handleRecord env fd packet session =
      (handleClosure env fd session).map fun session => (session, true) := by
  unfold handleRecord
  rw [hbytes]
  cases handleClosure env fd session <;> rfl

end Events

end DriveBus.ControlPlane
