import DriveBus.ControlPlane.Protocol
import DriveBus.Library.Contract
import DriveBus.Library.UnorderedMap
import Mathlib.Data.List.Sort
import Mathlib.Data.Multiset.Range

/-!
# The broker's state

The global maps of the broker process and the operations its handlers are
written with.  A handler runs in a `Session`, which carries the broker's state
together with what the handler has done to the outside: the records sent and
the descriptors closed.  `Env` answers the system calls: whether a send is
accepted and which descriptor `eventfd` returns.
-/

namespace DriveBus.ControlPlane

open DriveBus.ByteMemory DriveBus.Contract DriveBus.UnorderedMap

/-! ## The heap of free slots -/

/-- `AvailableSubscriberSlotMinHeap`: a priority queue is the sorted list of its
elements. -/
structure SlotHeap where
  slots : List ℕ
  sorted : slots.Pairwise (· ≤ ·)

namespace SlotHeap

def empty : SlotHeap := ⟨[], .nil⟩

def top (heap : SlotHeap) : ℕ := heap.slots.headD 0

def pop (heap : SlotHeap) : SlotHeap := ⟨heap.slots.tail, heap.sorted.tail⟩

def push (heap : SlotHeap) (slot : ℕ) : SlotHeap :=
  ⟨heap.slots.orderedInsert (· ≤ ·) slot, heap.sorted.orderedInsert slot _⟩

def size (heap : SlotHeap) : ℕ := heap.slots.length

@[simp]
theorem size_pop (heap : SlotHeap) : heap.pop.size = heap.size - 1 := by
  simp [size, pop]

/-- The free slots, order forgotten. -/
def free (heap : SlotHeap) : Multiset ℕ := heap.slots

@[simp]
theorem free_push (heap : SlotHeap) (slot : ℕ) :
    (heap.push slot).free = heap.free + {slot} := by
  rw [free, push, Multiset.coe_eq_coe.mpr (List.perm_orderedInsert _ _ _),
    ← Multiset.cons_coe, ← Multiset.singleton_add, add_comm, free]

/-- Popping a heap that is not empty takes its top. -/
theorem free_pop {heap : SlotHeap} (hslots : heap.slots ≠ []) :
    heap.pop.free + {heap.top} = heap.free := by
  obtain ⟨slots, hsorted⟩ := heap
  cases slots with
  | nil => exact absurd rfl hslots
  | cons slot slots =>
      rw [free, free, ← Multiset.cons_coe, ← Multiset.singleton_add, add_comm]
      rfl

theorem card_free (heap : SlotHeap) : heap.free.card = heap.size := rfl

end SlotHeap

/-- `init_available_subscriber_slots` applied to a new heap. -/
def initAvailableSubscriberSlots : SlotHeap :=
  (List.range kMaxSubscribers).foldl SlotHeap.push SlotHeap.empty

theorem slots_initAvailableSubscriberSlots :
    initAvailableSubscriberSlots.slots = List.range kMaxSubscribers := by decide

/-- A new heap holds every slot once. -/
@[simp]
theorem free_initAvailableSubscriberSlots :
    initAvailableSubscriberSlots.free = Multiset.range kMaxSubscribers := by
  rw [SlotHeap.free, slots_initAvailableSubscriberSlots]
  rfl

theorem size_initAvailableSubscriberSlots :
    initAvailableSubscriberSlots.size = kMaxSubscribers := by decide

/-! ## The maps -/

structure Broker where
  nextAttachmentId : ℕ
  availableSubscriberSlotsByTopicIdAndPublisherFd : Map TopicId (Map Fd SlotHeap)
  subscriberAttachmentsBySubscriberFd : Map Fd (List SubscriberAttachment)
  roleByFd : Map Fd BrokerRole
  shmFdByPublisherFd : Map Fd Fd
  topicIdsBySubscriberFd : Map Fd (List TopicId)
  publisherFdsByTopicId : Map TopicId (List Fd)
  spaceEventFdByPublisherFd : Map Fd Fd
  subscriberFdsByTopicId : Map TopicId (List Fd)
  clientFds : Finset Fd

/-- The broker before its first event. -/
def Broker.initial : Broker where
  nextAttachmentId := 1
  availableSubscriberSlotsByTopicIdAndPublisherFd := ∅
  subscriberAttachmentsBySubscriberFd := ∅
  roleByFd := ∅
  shmFdByPublisherFd := ∅
  topicIdsBySubscriberFd := ∅
  publisherFdsByTopicId := ∅
  spaceEventFdByPublisherFd := ∅
  subscriberFdsByTopicId := ∅
  clientFds := ∅

namespace Broker

def attachmentsOf (broker : Broker) (subscriberFd : Fd) : List SubscriberAttachment :=
  (broker.subscriberAttachmentsBySubscriberFd.lookup subscriberFd).getD []

def topicsOf (broker : Broker) (subscriberFd : Fd) : List TopicId :=
  (broker.topicIdsBySubscriberFd.lookup subscriberFd).getD []

def subscribersOf (broker : Broker) (topicId : TopicId) : List Fd :=
  (broker.subscriberFdsByTopicId.lookup topicId).getD []

def publishersOf (broker : Broker) (topicId : TopicId) : List Fd :=
  (broker.publisherFdsByTopicId.lookup topicId).getD []

def freeSlots (broker : Broker) (topicId : TopicId) (publisherFd : Fd) : Option SlotHeap :=
  (broker.availableSubscriberSlotsByTopicIdAndPublisherFd.lookup topicId).bind
    (·.lookup publisherFd)

def setNextAttachmentId (broker : Broker) (attachmentId : ℕ) : Broker :=
  { broker with nextAttachmentId := attachmentId }

/-- Assign the heap of one publisher. -/
def setFreeSlots (broker : Broker) (topicId : TopicId) (publisherFd : Fd)
    (heap : SlotHeap) : Broker :=
  let slotsByTopicId := broker.availableSubscriberSlotsByTopicIdAndPublisherFd
  { broker with
    availableSubscriberSlotsByTopicIdAndPublisherFd :=
      slotsByTopicId.insert topicId
        (((slotsByTopicId.lookup topicId).getD ∅).insert publisherFd heap) }

def setAttachments (broker : Broker) (subscriberFd : Fd)
    (attachments : List SubscriberAttachment) : Broker :=
  { broker with
    subscriberAttachmentsBySubscriberFd :=
      broker.subscriberAttachmentsBySubscriberFd.insert subscriberFd attachments }

def setSubscribers (broker : Broker) (topicId : TopicId) (subscribers : List Fd) :
    Broker :=
  { broker with
    subscriberFdsByTopicId := broker.subscriberFdsByTopicId.insert topicId subscribers }

end Broker

/-! ## Reasons to exit -/

/-- The fatal paths of the broker, named after the message each one logs. -/
inductive ExitReason
  | subscriberDisconnectAttachmentsMissing
  | subscriberDisconnectTopicsMapMissing
  | subscriberDisconnectSend
  | subscriberDisconnectAvailableTopicMapMissing
  | subscriberDisconnectAvailablePublisherMapMissing
  | subscriberDisconnectTopicSubscribersMissing
  | subscriberDisconnectTopicSubscriberMissing
  | publisherDisconnectShmFdMapMissing
  | publisherDisconnectTopicMapMissing
  | publisherDisconnectAvailableTopicMapMissing
  | publisherDisconnectAvailableSlotMapMissing
  | publisherDisconnectSubscriberAttachmentsMissing
  | publisherDisconnectSubscriberAttachmentMissing
  | publisherDisconnectSend
  | publisherDisconnectSpaceEventFdMissing
  | brokerClosedFdRoleMissing
  | brokerRecvFdRoleMissing
  | brokerRecvClientFdMissing
  | brokerControlCmsgTruncated
  | brokerStatusQuerySize
  | subscriberTopicRegistrationMessageSize
  | subscriberTopicRegistrationCount
  | subscriberTopicAvailableTopicMapMissing
  | subscriberTopicShmFdMapMissing
  | subscriberTopicAvailablePublisherMapMissing
  | brokerNoFreeSubscriberSlot
  | subscriberTopicSpaceEventFdMissing
  | subscriberTopicDataAvailableEventFdCreate
  | subscriberTopicPublisherRegistrationSend
  | brokerAttachmentIdExhausted
  | subscriberTopicAttachmentBatchSend
  | publisherRegistrationShmFdMissing
  | publisherRegistrationCmsg
  | publisherRegistrationShmFdAlreadyExists
  | publisherRegistrationSpaceEventFdAlreadyExists
  | publisherSlotIndexHeapAlreadyExists
  | brokerSubscriberSlotCapacity
  | initialSubscriberCountSend
  | publisherRegistrationDataAvailableEventFdCreate
  | publisherRegistrationSubscriberRegistrationSend
  | publisherRegistrationAttachmentBatchSend
  | publisherRegistrationSubscriberAttachmentsMissing
  deriving DecidableEq, Repr

/-! ## Sessions -/

structure Env where
  /-- Whether the send with this number within the handler succeeds. -/
  accepts : ℕ → Fd → Bool
  /-- What the `eventfd` call with this number within the handler returns. -/
  eventfd : ℕ → Option Fd
  /-- The bytes of the receive buffer that a short record does not overwrite. -/
  leftover : ℕ → Byte

/-- Every send is accepted and every `eventfd` call returns a new descriptor. -/
def Env.generous : Env where
  accepts _ _ := true
  eventfd index := some (100 + index)
  leftover _ := 0

structure Session where
  broker : Broker
  sent : List (Fd × BrokerMessage)
  created : ℕ
  closed : List Fd

def Session.start (broker : Broker) : Session where
  broker := broker
  sent := []
  created := 0
  closed := []

namespace Session

def send (env : Env) (session : Session) (peer : Fd) (message : BrokerMessage)
    (reason : ExitReason) : Except ExitReason Session :=
  if env.accepts session.sent.length peer then
    .ok { session with sent := session.sent ++ [(peer, message)] }
  else .error reason

def eventfd (env : Env) (session : Session) (reason : ExitReason) :
    Except ExitReason (Fd × Session) :=
  match env.eventfd session.created with
  | some fd => .ok (fd, { session with created := session.created + 1 })
  | none => .error reason

def close (session : Session) (fd : Fd) : Session :=
  { session with closed := session.closed ++ [fd] }

def update (session : Session) (change : Broker → Broker) : Session :=
  { session with broker := change session.broker }

/-- `next_attachment_id++` and the check for its exhaustion. -/
def takeAttachmentId (session : Session) : Except ExitReason (ℕ × Session) :=
  let attachmentId := session.broker.nextAttachmentId
  let next := (attachmentId + 1) % 2 ^ 64
  if next = kInvalidAttachmentId then .error .brokerAttachmentIdExhausted
  else .ok (attachmentId, session.update (·.setNextAttachmentId next))

end Session

end DriveBus.ControlPlane
