import DriveBus.Library.ByteMemory

/-!
# The broker's control protocol

The records of the control socket.  A record received by the broker is a byte
string with the descriptors of its ancillary data, exactly as the clients'
libraries build it; a record sent by the broker is kept as its contents.
-/

namespace DriveBus.ControlPlane

open DriveBus.ByteMemory

/-- A descriptor number of the broker process. -/
abbrev Fd := ℕ

/-- A topic is one byte on the wire, and the broker routes any value of it. -/
abbrev TopicId := Byte

/-! ## Constants -/

def kMaxMessageSize : ℕ := 1024
def kStatusQuerySize : ℕ := 1
def kMaxSubscriberTopicCount : ℕ := 5
def kSubscriberTopicRegistrationMessageSize : ℕ := 1 + 4 + kMaxSubscriberTopicCount
def kMaxAttachmentsPerBatch : ℕ := 10
def kInvalidAttachmentId : ℕ := 0
def kMaxSubscribers : ℕ := 16

/-! ## Records -/

inductive BrokerMessageType
  | statusQuery
  | statusSnapshot
  | subscriberTopicRegistration
  | subscriberDisconnected
  | subscriberEventFdAndSlot
  | subscriberAttachmentBatch
  | publisherTopicRegistration
  | publisherDisconnected
  deriving DecidableEq, Repr

def BrokerMessageType.code : BrokerMessageType → Byte
  | statusQuery => 0
  | statusSnapshot => 1
  | subscriberTopicRegistration => 2
  | subscriberDisconnected => 3
  | subscriberEventFdAndSlot => 4
  | subscriberAttachmentBatch => 5
  | publisherTopicRegistration => 6
  | publisherDisconnected => 7

inductive BrokerRole
  | subscriber
  | publisher
  deriving DecidableEq, Repr

/-- A record on its way to the broker; `rights` are the descriptors of its
`SCM_RIGHTS` control message. -/
structure Packet where
  bytes : List Byte
  rights : Option (List Fd)
  deriving DecidableEq, Repr

structure SubscriberAttachment where
  attachmentId : ℕ
  topicId : TopicId
  publisherFd : Fd
  spaceAvailableEventFd : Fd
  dataAvailableEventFd : Fd
  slotIndex : ℕ
  deriving DecidableEq, Repr

/-- The records the broker sends.  `initialSubscriberCount` is the bare count
that opens a publisher's registration. -/
inductive BrokerMessage
  | statusSnapshot
  | initialSubscriberCount (count : ℕ)
  | subscriberEventFdAndSlot (slotIndex : ℕ) (dataAvailableEventFd : Fd)
  | subscriberAttachmentBatch (attachments : List SubscriberAttachment)
      (shmFds : List Fd)
  | subscriberDisconnected (slotIndex : ℕ)
  | publisherDisconnected (attachmentId : ℕ)
  deriving DecidableEq, Repr

/-! ## What the clients send -/

/-- The topic list that passes the check of `send_subscriber_topic_registration`. -/
structure TopicList where
  topicIds : List TopicId
  nonempty : topicIds ≠ []
  bounded : topicIds.length ≤ kMaxSubscriberTopicCount

def TopicList.single (topicId : TopicId) : TopicList where
  topicIds := [topicId]
  nonempty := List.cons_ne_nil _ _
  bounded := show 1 ≤ 5 by decide

/-- The one record a client library sends on a connection. -/
inductive Request
  | statusQuery
  | subscribe (topics : TopicList)
  | publish (topicId : TopicId) (shmFd spaceAvailableEventFd : Fd)

def TopicList.bytes (topics : TopicList) : List Byte :=
  BrokerMessageType.subscriberTopicRegistration.code ::
    (littleEndian 4 topics.topicIds.length ++ topics.topicIds ++
      List.replicate (kMaxSubscriberTopicCount - topics.topicIds.length) 0)

def Request.packet : Request → Packet
  | .statusQuery => ⟨[BrokerMessageType.statusQuery.code], none⟩
  | .subscribe topics => ⟨topics.bytes, none⟩
  | .publish topicId shmFd spaceAvailableEventFd =>
      ⟨[BrokerMessageType.publisherTopicRegistration.code, topicId],
        some [shmFd, spaceAvailableEventFd]⟩

@[simp]
theorem TopicList.length_bytes (topics : TopicList) :
    topics.bytes.length = kSubscriberTopicRegistrationMessageSize := by
  have hbounded := topics.bounded
  simp only [TopicList.bytes, List.length_cons, List.length_append, length_littleEndian,
    List.length_replicate, kSubscriberTopicRegistrationMessageSize]
  omega

end DriveBus.ControlPlane
