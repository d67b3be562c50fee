import DriveBus.ControlPlane.Handlers

/-!
# Routing

What the broker is for, stated without its maps: every client is a member that
subscribes to a list of topics or publishes one, and a subscriber is attached to
a publisher as often as it lists the publisher's topic.  `Routes` says that the
maps of a broker state describe a given membership, and that every publisher's
slots are shared out between its heap and the attachments to it.
-/

namespace DriveBus.ControlPlane

open DriveBus.Contract DriveBus.UnorderedMap

/-! ## Membership -/

inductive Member
  | subscriber (topicIds : List TopicId)
  | publisher (topicId : TopicId)
  deriving DecidableEq

def Member.role : Member → BrokerRole
  | subscriber _ => .subscriber
  | publisher _ => .publisher

def Member.topicIds : Member → Option (List TopicId)
  | subscriber topicIds => some topicIds
  | publisher _ => none

def Member.topicId : Member → Option TopicId
  | subscriber _ => none
  | publisher topicId => some topicId

/-- Who is registered on which descriptor. -/
abbrev Members := Fd → Option Member

namespace Members

/-- The topics a descriptor subscribes to. -/
def topics (members : Members) (fd : Fd) : List TopicId :=
  ((members fd).bind Member.topicIds).getD []

/-- The topic a descriptor publishes. -/
def topic (members : Members) (fd : Fd) : Option TopicId :=
  (members fd).bind Member.topicId

/-- How often a subscriber has to be attached to a publisher. -/
def matching (members : Members) (subscriberFd publisherFd : Fd) : ℕ :=
  (members.topic publisherFd).elim 0 (members.topics subscriberFd).count

def join (members : Members) (fd : Fd) (member : Member) : Members :=
  Function.update members fd (some member)

def leave (members : Members) (fd : Fd) : Members :=
  Function.update members fd none

section Views

variable {members : Members} {fd other : Fd} {member : Member}

theorem topics_leave :
    (members.leave fd).topics other = if other = fd then [] else members.topics other := by
  by_cases heq : other = fd <;> simp [topics, leave, heq]

theorem topic_leave :
    (members.leave fd).topic other = if other = fd then none else members.topic other := by
  by_cases heq : other = fd <;> simp [topic, leave, heq]

theorem topics_join :
    (members.join fd member).topics other =
      if other = fd then member.topicIds.getD [] else members.topics other := by
  by_cases heq : other = fd <;> simp [topics, join, heq]

theorem topic_join :
    (members.join fd member).topic other =
      if other = fd then member.topicId else members.topic other := by
  by_cases heq : other = fd <;> simp [topic, join, heq]

end Views

end Members

/-! ## Visiting order -/

/-- The publishers a topic list reaches, in the order the registration visits
them. -/
def Broker.publishersOfTopics (broker : Broker) (topicIds : List TopicId) : List Fd :=
  topicIds.flatMap broker.publishersOf

/-! ## Capacities -/

/-- The broker has a slot and a place in the batch for every attachment that the
record asks for. -/
def Broker.HasCapacity (broker : Broker) : Member → Prop
  | .subscriber topicIds =>
      (broker.publishersOfTopics topicIds).length ≤ kMaxAttachmentsPerBatch ∧
        ∀ topicId publisherFd heap, broker.freeSlots topicId publisherFd = some heap →
          topicIds.count topicId ≤ heap.size
  | .publisher topicId => (broker.subscribersOf topicId).length ≤ kMaxSubscribers

/-! ## The slots of a publisher -/

/-- The slots that some attachments hold of a publisher. -/
def heldSlots (publisherFd : Fd) (attachments : List SubscriberAttachment) :
    Multiset ℕ :=
  ((attachments.filter (·.publisherFd = publisherFd)).map (·.slotIndex) : List ℕ)

@[simp]
theorem heldSlots_nil (publisherFd : Fd) : heldSlots publisherFd [] = 0 := rfl

@[simp]
theorem heldSlots_append (publisherFd : Fd) (left right : List SubscriberAttachment) :
    heldSlots publisherFd (left ++ right) =
      heldSlots publisherFd left + heldSlots publisherFd right := by
  simp [heldSlots]

@[simp]
theorem heldSlots_singleton (publisherFd : Fd) (attachment : SubscriberAttachment) :
    heldSlots publisherFd [attachment] =
      if attachment.publisherFd = publisherFd then {attachment.slotIndex} else 0 := by
  by_cases heq : attachment.publisherFd = publisherFd <;> simp [heldSlots, heq]

/-- The slots of a publisher that the attachments of all subscribers hold. -/
def Broker.occupiedSlots (broker : Broker) (publisherFd : Fd) : Multiset ℕ :=
  total (fun _ => heldSlots publisherFd) broker.subscriberAttachmentsBySubscriberFd

section Totals

variable {M : Type*} [AddCommMonoid M] {weight : List SubscriberAttachment → M}

/-- What one subscriber contributes to a total over all attachments. -/
theorem weightAt_attachments (hnil : weight [] = 0) (broker : Broker) (subscriberFd : Fd) :
    weightAt (fun _ => weight) broker.subscriberAttachmentsBySubscriberFd subscriberFd =
      weight (broker.attachmentsOf subscriberFd) := by
  rw [weightAt, Broker.attachmentsOf]
  cases broker.subscriberAttachmentsBySubscriberFd.lookup subscriberFd with
  | none => exact hnil.symm
  | some attachments => rfl

theorem total_attachments_congr (hnil : weight [] = 0) {before after : Broker}
    (heq : ∀ subscriberFd, weight (after.attachmentsOf subscriberFd) =
      weight (before.attachmentsOf subscriberFd)) :
    total (fun _ => weight) after.subscriberAttachmentsBySubscriberFd =
      total (fun _ => weight) before.subscriberAttachmentsBySubscriberFd :=
  total_congr fun subscriberFd => by
    rw [weightAt_attachments hnil, weightAt_attachments hnil, heq]

/-- Changing one subscriber's attachments moves a total by the difference. -/
theorem total_attachments_exchange (hnil : weight [] = 0) {before after : Broker}
    (subscriberFd : Fd) (hother : ∀ other, other ≠ subscriberFd →
      after.attachmentsOf other = before.attachmentsOf other) :
    total (fun _ => weight) after.subscriberAttachmentsBySubscriberFd +
        weight (before.attachmentsOf subscriberFd) =
      total (fun _ => weight) before.subscriberAttachmentsBySubscriberFd +
        weight (after.attachmentsOf subscriberFd) := by
  have hweight : ∀ other, other ≠ subscriberFd →
      weightAt (fun _ => weight) after.subscriberAttachmentsBySubscriberFd other =
        weightAt (fun _ => weight) before.subscriberAttachmentsBySubscriberFd other := by
    intro other hne
    rw [weightAt_attachments hnil, weightAt_attachments hnil, hother other hne]
  have hexchange := total_exchange subscriberFd hweight
  rwa [weightAt_attachments hnil, weightAt_attachments hnil] at hexchange

end Totals

theorem occupiedSlots_congr {before after : Broker} {publisherFd : Fd}
    (heq : ∀ subscriberFd, heldSlots publisherFd (after.attachmentsOf subscriberFd) =
      heldSlots publisherFd (before.attachmentsOf subscriberFd)) :
    after.occupiedSlots publisherFd = before.occupiedSlots publisherFd :=
  total_attachments_congr rfl heq

/-- Changing one subscriber's attachments moves the occupied slots by the
difference. -/
theorem occupiedSlots_exchange {before after : Broker} (publisherFd subscriberFd : Fd)
    (hother : ∀ other, other ≠ subscriberFd →
      after.attachmentsOf other = before.attachmentsOf other) :
    after.occupiedSlots publisherFd +
        heldSlots publisherFd (before.attachmentsOf subscriberFd) =
      before.occupiedSlots publisherFd +
        heldSlots publisherFd (after.attachmentsOf subscriberFd) :=
  total_attachments_exchange rfl subscriberFd hother

/-! ## The routing invariant -/

/-- The maps describe the membership. -/
structure Routes (broker : Broker) (members : Members) : Prop where
  role : ∀ fd, broker.roleByFd.lookup fd = (members fd).map Member.role
  topicIds : ∀ fd,
    broker.topicIdsBySubscriberFd.lookup fd = (members fd).bind Member.topicIds
  attachments : ∀ fd, (broker.subscriberAttachmentsBySubscriberFd.lookup fd).isSome =
    ((members fd).bind Member.topicIds).isSome
  shmFd : ∀ fd, (broker.shmFdByPublisherFd.lookup fd).isSome = (members.topic fd).isSome
  spaceEventFd : ∀ fd,
    (broker.spaceEventFdByPublisherFd.lookup fd).isSome = (members.topic fd).isSome
  publishers : ∀ topicId fd, (broker.publishersOf topicId).count fd =
    if members.topic fd = some topicId then 1 else 0
  publishers_ne_nil : ∀ topicId, broker.publisherFdsByTopicId.lookup topicId ≠ some []
  freeSlots : ∀ topicId fd, (broker.freeSlots topicId fd).isSome =
    decide (members.topic fd = some topicId)
  subscribers : ∀ topicId fd, (broker.subscribersOf topicId).count fd =
    (members.topics fd).count topicId
  attached : ∀ subscriberFd publisherFd,
    (broker.attachmentsOf subscriberFd).countP (·.publisherFd = publisherFd) =
      members.matching subscriberFd publisherFd
  attachedTopic : ∀ subscriberFd, ∀ attachment ∈ broker.attachmentsOf subscriberFd,
    members.topic attachment.publisherFd = some attachment.topicId
  slots : ∀ topicId publisherFd heap, broker.freeSlots topicId publisherFd = some heap →
    heap.free + broker.occupiedSlots publisherFd = Multiset.range kMaxSubscribers

theorem routes_initial : Routes Broker.initial fun _ => none where
  role _ := rfl
  topicIds _ := rfl
  attachments _ := rfl
  shmFd _ := rfl
  spaceEventFd _ := rfl
  publishers _ _ := rfl
  publishers_ne_nil _ := by rintro ⟨⟩
  freeSlots _ _ := rfl
  subscribers _ _ := rfl
  attached _ _ := rfl
  attachedTopic _ _ hmem := absurd hmem (List.not_mem_nil)
  slots _ _ _ hfree := by cases hfree

/-! ## Notifications -/

/-- Both sides of every attachment made, and the other side of every attachment
that went with the client, have been told. -/
structure Notified (before after : Broker) (client : Fd)
    (sent : List (Fd × BrokerMessage)) : Prop where
  attached : ∀ subscriberFd, ∀ attachment ∈ after.attachmentsOf subscriberFd,
    attachment ∈ before.attachmentsOf subscriberFd ∨
      (attachment.publisherFd, .subscriberEventFdAndSlot attachment.slotIndex
        attachment.dataAvailableEventFd) ∈ sent ∧
      ∃ batch shmFds, attachment ∈ batch ∧
        (subscriberFd, .subscriberAttachmentBatch batch shmFds) ∈ sent
  detached : ∀ subscriberFd, ∀ attachment ∈ before.attachmentsOf subscriberFd,
    attachment ∈ after.attachmentsOf subscriberFd ∨
      if subscriberFd = client then
        (attachment.publisherFd, .subscriberDisconnected attachment.slotIndex) ∈ sent
      else (subscriberFd, .publisherDisconnected attachment.attachmentId) ∈ sent

/-- What a handler that returns has achieved for its client. -/
structure Settled (before : Broker) (client : Fd) (members : Members)
    (after : Session) : Prop where
  routes : Routes after.broker members
  notified : Notified before after.broker client after.sent
  clientFds : after.broker.clientFds = before.clientFds

/-! ## Why a handler may stop -/

inductive ExitCause
  | rejectedSend
  | noEventFd
  | noAttachmentId
  | capacity
  | malformedRecord
  | registeredTwice
  | missingEntry
  deriving DecidableEq

def ExitReason.cause : ExitReason → ExitCause
  | subscriberDisconnectSend => .rejectedSend
  | publisherDisconnectSend => .rejectedSend
  | subscriberTopicPublisherRegistrationSend => .rejectedSend
  | subscriberTopicAttachmentBatchSend => .rejectedSend
  | initialSubscriberCountSend => .rejectedSend
  | publisherRegistrationSubscriberRegistrationSend => .rejectedSend
  | publisherRegistrationAttachmentBatchSend => .rejectedSend
  | subscriberTopicDataAvailableEventFdCreate => .noEventFd
  | publisherRegistrationDataAvailableEventFdCreate => .noEventFd
  | brokerAttachmentIdExhausted => .noAttachmentId
  | brokerNoFreeSubscriberSlot => .capacity
  | brokerSubscriberSlotCapacity => .capacity
  | brokerControlCmsgTruncated => .malformedRecord
  | brokerStatusQuerySize => .malformedRecord
  | subscriberTopicRegistrationMessageSize => .malformedRecord
  | subscriberTopicRegistrationCount => .malformedRecord
  | publisherRegistrationShmFdMissing => .malformedRecord
  | publisherRegistrationCmsg => .malformedRecord
  | publisherRegistrationShmFdAlreadyExists => .registeredTwice
  | publisherRegistrationSpaceEventFdAlreadyExists => .registeredTwice
  | publisherSlotIndexHeapAlreadyExists => .registeredTwice
  | _ => .missingEntry

/-- The resources of the environment are the only reasons to stop: a peer to
which one of the `due` sends goes rejects it, no event descriptor is left, or the
attachment ids run out. -/
def Excused (env : Env) (firstId : ℕ) (due : List Fd)
    (reason : ExitReason) : Prop :=
  match reason.cause with
  | .rejectedSend => ∃ index peer, due[index]? = some peer ∧ env.accepts index peer = false
  | .noEventFd => ∃ index, env.eventfd index = none
  | .noAttachmentId => 2 ^ 64 ≤ firstId + due.length
  | _ => False

/-- The limits at which a registration stops. -/
def Member.limits : Member → List ExitReason
  | .subscriber _ => [.brokerNoFreeSubscriberSlot, .subscriberTopicAttachmentBatchSend]
  | .publisher _ => [.brokerSubscriberSlotCapacity]

/-- A registration stops at a limit because it exceeds a capacity, or for want of
resources. -/
def Obstructed (broker : Broker) (member : Member) (env : Env) (due : List Fd)
    (reason : ExitReason) : Prop :=
  (¬broker.HasCapacity member ∧ reason ∈ member.limits) ∨
    Excused env broker.nextAttachmentId due reason

/-! ## Contracts of the session operations -/

namespace Session

@[simp]
theorem broker_update (session : Session) (change : Broker → Broker) :
    (session.update change).broker = change session.broker := rfl

@[simp]
theorem sent_update (session : Session) (change : Broker → Broker) :
    (session.update change).sent = session.sent := rfl

@[simp]
theorem broker_close (session : Session) (fd : Fd) :
    (session.close fd).broker = session.broker := rfl

@[simp]
theorem sent_close (session : Session) (fd : Fd) :
    (session.close fd).sent = session.sent := rfl

variable {env : Env} {session : Session} {firstId : ℕ} {due : List Fd}

theorem send_spec (env : Env) (session : Session) (peer : Fd) (message : BrokerMessage)
    (reason : ExitReason) :
    Meets (session.send env peer message reason)
      (fun session' => env.accepts session.sent.length peer = true ∧
        session' = { session with sent := session.sent ++ [(peer, message)] })
      fun stopped => stopped = reason ∧ env.accepts session.sent.length peer = false := by
  unfold send
  split
  next haccepts => exact .ok ⟨haccepts, rfl⟩
  next hrefuses => exact .error ⟨rfl, eq_false_of_ne_true hrefuses⟩

/-- A refused send is excused if it is the next one due. -/
theorem excused_of_refused {peer : Fd} {reason : ExitReason} {rest : List Fd}
    (hcause : reason.cause = .rejectedSend)
    (hdue : due = session.sent.map Prod.fst ++ peer :: rest)
    (hrefused : env.accepts session.sent.length peer = false) :
    Excused env firstId due reason := by
  rw [Excused, hcause]
  refine ⟨session.sent.length, peer, ?_, hrefused⟩
  rw [hdue, List.getElem?_append_right (by simp)]
  simp

theorem send_meets {peer : Fd} {reason : ExitReason} (message : BrokerMessage)
    (rest : List Fd) (hcause : reason.cause = .rejectedSend)
    (hdue : due = session.sent.map Prod.fst ++ peer :: rest) :
    Meets (session.send env peer message reason)
      (fun session' => session' = { session with sent := session.sent ++ [(peer, message)] })
      (Excused env firstId due) := by
  refine (send_spec env session peer message reason).mono (fun _ hsent => hsent.2) ?_
  rintro _ ⟨rfl, hrefused⟩
  exact excused_of_refused hcause hdue hrefused

theorem eventfd_meets {reason : ExitReason} (hcause : reason.cause = .noEventFd) :
    Meets (session.eventfd env reason)
      (fun result => result.2 = { session with created := session.created + 1 })
      (Excused env firstId due) := by
  unfold eventfd
  split
  · exact .ok rfl
  · refine .error ?_
    rw [Excused, hcause]
    exact ⟨session.created, ‹_›⟩

theorem takeAttachmentId_meets
    (hids : session.broker.nextAttachmentId + 1 ≤ firstId + due.length) :
    Meets session.takeAttachmentId
      (fun result => ∃ next, next ≤ session.broker.nextAttachmentId + 1 ∧
        result.2 = session.update (·.setNextAttachmentId next))
      (Excused env firstId due) := by
  dsimp only [takeAttachmentId]
  split
  · refine .error ?_
    rw [Excused, show ExitReason.brokerAttachmentIdExhausted.cause = .noAttachmentId from rfl]
    have hwrap : (session.broker.nextAttachmentId + 1) % 2 ^ 64 = 0 := ‹_›
    have hge : 2 ^ 64 ≤ session.broker.nextAttachmentId + 1 :=
      Nat.le_of_dvd (Nat.succ_pos _) (Nat.dvd_of_mod_eq_zero hwrap)
    exact hge.trans hids
  · exact .ok ⟨_, Nat.mod_le _ _, rfl⟩

end Session

end DriveBus.ControlPlane
