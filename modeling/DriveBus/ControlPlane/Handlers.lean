import DriveBus.ControlPlane.State

/-!
# The broker's handlers

The two disconnect handlers, the cases of the receive loop and the closure and
error branches around them, as they stand in the broker's source.  A `for` loop is a monadic fold, and
every lookup that the source checks stops with the reason the source logs.
-/

namespace DriveBus.ControlPlane

open DriveBus.ByteMemory DriveBus.Contract DriveBus.UnorderedMap

/-! ## A subscriber disconnects -/

/-- One attachment of the disconnecting subscriber: notify the publisher and put
the slot back. -/
def releaseAttachment (env : Env) (session : Session)
    (attachment : SubscriberAttachment) : Except ExitReason Session := do
  let session ← session.send env attachment.publisherFd
    (.subscriberDisconnected attachment.slotIndex) .subscriberDisconnectSend
  let slotsByPublisherFd ← orStop
    (session.broker.availableSubscriberSlotsByTopicIdAndPublisherFd.lookup
      attachment.topicId) .subscriberDisconnectAvailableTopicMapMissing
  let slots ← orStop (slotsByPublisherFd.lookup attachment.publisherFd)
    .subscriberDisconnectAvailablePublisherMapMissing
  pure ((session.update fun broker =>
    broker.setFreeSlots attachment.topicId attachment.publisherFd
      (slots.push attachment.slotIndex)).close attachment.dataAvailableEventFd)

/-- One topic of the disconnecting subscriber: drop one occurrence from the
topic's list. -/
def dropTopicSubscriber (subscriberFd : Fd) (broker : Broker) (topicId : TopicId) :
    Except ExitReason Broker := do
  let subscribers ← orStop (broker.subscriberFdsByTopicId.lookup topicId)
    .subscriberDisconnectTopicSubscribersMissing
  require (subscriberFd ∈ subscribers) .subscriberDisconnectTopicSubscriberMissing
  pure (broker.setSubscribers topicId (subscribers.erase subscriberFd))

def handleSubsciberDisconect (env : Env) (subscriberFd : Fd) (session : Session) :
    Except ExitReason Session := do
  let attachments ← orStop
    (session.broker.subscriberAttachmentsBySubscriberFd.lookup subscriberFd)
    .subscriberDisconnectAttachmentsMissing
  let topicIds ← orStop (session.broker.topicIdsBySubscriberFd.lookup subscriberFd)
    .subscriberDisconnectTopicsMapMissing
  let session ← attachments.foldlM (releaseAttachment env) session
  let broker ← topicIds.foldlM (dropTopicSubscriber subscriberFd)
    { session.broker with
      subscriberAttachmentsBySubscriberFd :=
        session.broker.subscriberAttachmentsBySubscriberFd.erase subscriberFd
      roleByFd := session.broker.roleByFd.erase subscriberFd }
  pure ((session.update fun _ =>
    { broker with
      topicIdsBySubscriberFd :=
        broker.topicIdsBySubscriberFd.erase subscriberFd }).close subscriberFd)

/-! ## A publisher disconnects -/

/-- One entry of the topic's subscriber list: notify the subscriber about its
first attachment to the publisher and erase that attachment. -/
def detachSubscriber (env : Env) (publisherFd : Fd) (session : Session)
    (subscriberFd : Fd) : Except ExitReason Session := do
  let attachments ← orStop
    (session.broker.subscriberAttachmentsBySubscriberFd.lookup subscriberFd)
    .publisherDisconnectSubscriberAttachmentsMissing
  let attachment ← orStop (attachments.find? (·.publisherFd = publisherFd))
    .publisherDisconnectSubscriberAttachmentMissing
  let session ← session.send env subscriberFd
    (.publisherDisconnected attachment.attachmentId) .publisherDisconnectSend
  pure ((session.close attachment.dataAvailableEventFd).update fun broker =>
    broker.setAttachments subscriberFd
      (attachments.eraseP (·.publisherFd = publisherFd)))

/-- The topic whose publisher list holds the descriptor, and that list. -/
def findPublisherTopic (broker : Broker) (publisherFd : Fd) :
    Option (TopicId × List Fd) :=
  (broker.publisherFdsByTopicId.entries.find? fun entry => publisherFd ∈ entry.2).map
    fun entry => (entry.1, entry.2)

def handlePublisherDisconnect (env : Env) (publisherFd : Fd) (session : Session) :
    Except ExitReason Session := do
  let shmFd ← orStop (session.broker.shmFdByPublisherFd.lookup publisherFd)
    .publisherDisconnectShmFdMapMissing
  let (topicId, publishers) ← orStop (findPublisherTopic session.broker publisherFd)
    .publisherDisconnectTopicMapMissing
  let slotsByPublisherFd ← orStop
    (session.broker.availableSubscriberSlotsByTopicIdAndPublisherFd.lookup topicId)
    .publisherDisconnectAvailableTopicMapMissing
  let _ ← orStop (slotsByPublisherFd.lookup publisherFd)
    .publisherDisconnectAvailableSlotMapMissing
  let session ← (session.broker.subscribersOf topicId).foldlM
    (detachSubscriber env publisherFd) session
  let session := (session.close shmFd).update fun broker =>
    { broker with
      -- An emptied list or an emptied map of heaps is erased under its topic.
      publisherFdsByTopicId :=
        if publishers.erase publisherFd = [] then
          broker.publisherFdsByTopicId.erase topicId
        else broker.publisherFdsByTopicId.insert topicId (publishers.erase publisherFd)
      shmFdByPublisherFd := broker.shmFdByPublisherFd.erase publisherFd
      availableSubscriberSlotsByTopicIdAndPublisherFd :=
        if (slotsByPublisherFd.erase publisherFd).entries = [] then
          broker.availableSubscriberSlotsByTopicIdAndPublisherFd.erase topicId
        else
          broker.availableSubscriberSlotsByTopicIdAndPublisherFd.insert topicId
            (slotsByPublisherFd.erase publisherFd) }
  let spaceAvailableEventFd ← orStop
    (session.broker.spaceEventFdByPublisherFd.lookup publisherFd)
    .publisherDisconnectSpaceEventFdMissing
  pure (((session.close spaceAvailableEventFd).update fun broker =>
    { broker with
      spaceEventFdByPublisherFd := broker.spaceEventFdByPublisherFd.erase publisherFd
      roleByFd := broker.roleByFd.erase publisherFd }).close publisherFd)

/-! ## A subscriber registers -/

/-- The locals of the registration: the attachments made so far and their shared
memory descriptors. -/
structure Attaching where
  session : Session
  attachments : List SubscriberAttachment
  shmFds : List Fd

/-- One publisher of one registered topic. -/
def attachPublisher (env : Env) (topicId : TopicId) (attaching : Attaching)
    (publisherFd : Fd) : Except ExitReason Attaching := do
  let session := attaching.session
  let shmFd ← orStop (session.broker.shmFdByPublisherFd.lookup publisherFd)
    .subscriberTopicShmFdMapMissing
  let slots ← orStop (session.broker.freeSlots topicId publisherFd)
    .subscriberTopicAvailablePublisherMapMissing
  require (slots.slots ≠ []) .brokerNoFreeSubscriberSlot
  let spaceAvailableEventFd ← orStop
    (session.broker.spaceEventFdByPublisherFd.lookup publisherFd)
    .subscriberTopicSpaceEventFdMissing
  let (dataAvailableEventFd, session) ← session.eventfd env
    .subscriberTopicDataAvailableEventFdCreate
  let slotIndex := slots.top
  let session := session.update fun broker =>
    broker.setFreeSlots topicId publisherFd slots.pop
  let session ← session.send env publisherFd
    (.subscriberEventFdAndSlot slotIndex dataAvailableEventFd)
    .subscriberTopicPublisherRegistrationSend
  let (attachmentId, session) ← session.takeAttachmentId
  pure
    { session
      attachments := attaching.attachments ++
        [{ attachmentId, topicId, publisherFd, spaceAvailableEventFd,
           dataAvailableEventFd, slotIndex }]
      shmFds := attaching.shmFds ++ [shmFd] }

/-- One registered topic: join its subscriber list and attach its publishers. -/
def attachTopic (env : Env) (subscriberFd : Fd) (attaching : Attaching)
    (topicId : TopicId) : Except ExitReason Attaching := do
  let broker := attaching.session.broker
  let attaching := { attaching with
    session := attaching.session.update fun broker =>
      broker.setSubscribers topicId (broker.subscribersOf topicId ++ [subscriberFd]) }
  match broker.publisherFdsByTopicId.lookup topicId with
  | none => pure attaching
  | some publishers =>
      let _ ← orStop
        (broker.availableSubscriberSlotsByTopicIdAndPublisherFd.lookup topicId)
        .subscriberTopicAvailableTopicMapMissing
      publishers.foldlM (attachPublisher env topicId) attaching

/-- `send_subscriber_attachment_batch_message`: its own size checks fail before
anything is sent. -/
def sendAttachmentBatch (env : Env) (session : Session) (subscriberFd : Fd)
    (attachments : List SubscriberAttachment) (shmFds : List Fd)
    (reason : ExitReason) : Except ExitReason Session := do
  require (shmFds.length = attachments.length) reason
  require (attachments.length ≤ kMaxAttachmentsPerBatch) reason
  session.send env subscriberFd (.subscriberAttachmentBatch attachments shmFds) reason

def registerSubscriber (env : Env) (subscriberFd : Fd) (topicIds : List TopicId)
    (session : Session) : Except ExitReason Session := do
  let session := session.update fun broker =>
    { broker with
      topicIdsBySubscriberFd :=
        insertNew broker.topicIdsBySubscriberFd subscriberFd topicIds
      roleByFd := insertNew broker.roleByFd subscriberFd .subscriber }
  let attaching ← topicIds.foldlM (attachTopic env subscriberFd)
    { session, attachments := [], shmFds := [] }
  let session ← sendAttachmentBatch env attaching.session subscriberFd
    attaching.attachments attaching.shmFds .subscriberTopicAttachmentBatchSend
  pure (session.update fun broker =>
    { broker with
      subscriberAttachmentsBySubscriberFd :=
        insertNew broker.subscriberAttachmentsBySubscriberFd subscriberFd
          attaching.attachments })

/-! ## A publisher registers -/

/-- One entry of the topic's subscriber list: hand out the lowest free slot and
send both sides their half of the attachment. -/
def attachSubscriber (env : Env) (publisherFd : Fd) (topicId : TopicId)
    (shmFd spaceAvailableEventFd : Fd) (session : Session) (subscriberFd : Fd) :
    Except ExitReason Session := do
  let (dataAvailableEventFd, session) ← session.eventfd env
    .publisherRegistrationDataAvailableEventFdCreate
  let slots := (session.broker.freeSlots topicId publisherFd).getD SlotHeap.empty
  let slotIndex := slots.top
  let session := session.update fun broker =>
    broker.setFreeSlots topicId publisherFd slots.pop
  let session ← session.send env publisherFd
    (.subscriberEventFdAndSlot slotIndex dataAvailableEventFd)
    .publisherRegistrationSubscriberRegistrationSend
  let (attachmentId, session) ← session.takeAttachmentId
  let attachment : SubscriberAttachment :=
    { attachmentId, topicId, publisherFd, spaceAvailableEventFd,
      dataAvailableEventFd, slotIndex }
  let session ← sendAttachmentBatch env session subscriberFd [attachment] [shmFd]
    .publisherRegistrationAttachmentBatchSend
  let attachments ← orStop
    (session.broker.subscriberAttachmentsBySubscriberFd.lookup subscriberFd)
    .publisherRegistrationSubscriberAttachmentsMissing
  pure (session.update fun broker =>
    broker.setAttachments subscriberFd (attachments ++ [attachment]))

def registerPublisher (env : Env) (publisherFd : Fd) (topicId : TopicId)
    (shmFd spaceAvailableEventFd : Fd) (session : Session) :
    Except ExitReason Session := do
  require (session.broker.shmFdByPublisherFd.lookup publisherFd = none)
    .publisherRegistrationShmFdAlreadyExists
  require (session.broker.spaceEventFdByPublisherFd.lookup publisherFd = none)
    .publisherRegistrationSpaceEventFdAlreadyExists
  require (session.broker.freeSlots topicId publisherFd = none)
    .publisherSlotIndexHeapAlreadyExists
  let session := session.update fun broker =>
    { broker.setFreeSlots topicId publisherFd initAvailableSubscriberSlots with
      shmFdByPublisherFd := broker.shmFdByPublisherFd.insert publisherFd shmFd
      spaceEventFdByPublisherFd :=
        broker.spaceEventFdByPublisherFd.insert publisherFd spaceAvailableEventFd
      roleByFd := insertNew broker.roleByFd publisherFd .publisher }
  let subscribers := session.broker.subscribersOf topicId
  require (subscribers.length ≤ initAvailableSubscriberSlots.size)
    .brokerSubscriberSlotCapacity
  let session ← session.send env publisherFd
    (.initialSubscriberCount subscribers.length) .initialSubscriberCountSend
  let session ← subscribers.foldlM
    (attachSubscriber env publisherFd topicId shmFd spaceAvailableEventFd) session
  pure (session.update fun broker =>
    { broker with
      publisherFdsByTopicId := broker.publisherFdsByTopicId.insert topicId
        (broker.publishersOf topicId ++ [publisherFd]) })

/-! ## The receive loop -/

/-- The orderly closure branch. -/
def handleClosure (env : Env) (fd : Fd) (session : Session) :
    Except ExitReason Session := do
  let role ← orStop (session.broker.roleByFd.lookup fd) .brokerClosedFdRoleMissing
  match role with
  | .subscriber => handleSubsciberDisconect env fd session
  | .publisher => handlePublisherDisconnect env fd session

/-- The branch for an error of `recvmsg` other than `EAGAIN`. -/
def handleReceiveError (env : Env) (fd : Fd) (session : Session) :
    Except ExitReason Session := do
  let role ← orStop (session.broker.roleByFd.lookup fd) .brokerRecvFdRoleMissing
  require (fd ∈ session.broker.clientFds) .brokerRecvClientFdMissing
  let session := session.update fun broker =>
    { broker with clientFds := broker.clientFds.erase fd }
  match role with
  | .subscriber => handleSubsciberDisconect env fd session
  | .publisher => handlePublisherDisconnect env fd session

/-- A failing send of the snapshot is only logged; the connection is closed. -/
def handleStatusQuery (env : Env) (fd : Fd) (session : Session) : Session :=
  let session := match session.send env fd .statusSnapshot .brokerStatusQuerySize with
    | .ok session => session
    | .error _ => session
  (session.update fun broker =>
    { broker with clientFds := broker.clientFds.erase fd }).close fd

/-- The receive buffer after a record of the given bytes has arrived. -/
def receiveBuffer (env : Env) (bytes : List Byte) : Memory := fun index =>
  if index < bytes.length then bytes.getD index 0 else env.leftover index

/-- One record and the source's `current_fd_closed`; an empty record looks like a
closure to `recvmsg`. -/
def handleRecord (env : Env) (fd : Fd) (packet : Packet) (session : Session) :
    Except ExitReason (Session × Bool) := do
  let received := packet.bytes.take kMaxMessageSize
  if received = [] then
    let session ← handleClosure env fd session
    pure (session, true)
  else
    require ((packet.rights.getD []).length ≤ 2) .brokerControlCmsgTruncated
    let buffer := receiveBuffer env received
    if buffer 0 = BrokerMessageType.statusQuery.code then
      require (received.length = kStatusQuerySize) .brokerStatusQuerySize
      pure (handleStatusQuery env fd session, true)
    else if buffer 0 = BrokerMessageType.subscriberTopicRegistration.code then
      require (received.length = kSubscriberTopicRegistrationMessageSize)
        .subscriberTopicRegistrationMessageSize
      let topicCount := ofLittleEndian (load buffer 1 4)
      require (topicCount ≠ 0 ∧ topicCount ≤ kMaxSubscriberTopicCount)
        .subscriberTopicRegistrationCount
      let session ← registerSubscriber env fd (load buffer 5 topicCount) session
      pure (session, false)
    else if buffer 0 = BrokerMessageType.publisherTopicRegistration.code then
      match packet.rights with
      -- A control message without descriptors is not delivered.
      | none | some [] => .error .publisherRegistrationShmFdMissing
      | some [shmFd, spaceAvailableEventFd] =>
          let session ← registerPublisher env fd (buffer 1) shmFd
            spaceAvailableEventFd session
          pure (session, false)
      | some _ => .error .publisherRegistrationCmsg
    else pure (session, false)

end DriveBus.ControlPlane
