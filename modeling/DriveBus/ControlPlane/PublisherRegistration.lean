import DriveBus.ControlPlane.Slots

/-!
# A publisher registers

A new publisher starts with a full heap and no attachment.  Every occurrence of a
subscriber in the topic's list takes the lowest slot for a new attachment, so the
heap and the attachments share out the slots at every point of the loop.
-/

namespace DriveBus.ControlPlane

open DriveBus.Contract DriveBus.UnorderedMap

/-- The peers of the records a publisher's registration sends: the count, then a
pair for every listed subscriber. -/
def publisherPeers (publisherFd : Fd) (subscribers : List Fd) : List Fd :=
  publisherFd :: subscribers.flatMap fun subscriberFd => [publisherFd, subscriberFd]

theorem publisherPeers_append (publisherFd : Fd) (left right : List Fd) :
    publisherPeers publisherFd (left ++ right) = publisherPeers publisherFd left ++
      right.flatMap fun subscriberFd => [publisherFd, subscriberFd] := by
  simp [publisherPeers]

@[simp]
theorem length_publisherPeers (publisherFd : Fd) (subscribers : List Fd) :
    (publisherPeers publisherFd subscribers).length = 2 * subscribers.length + 1 := by
  simp [publisherPeers, List.length_flatMap, Nat.mul_comm]

/-- The state after the new publisher's entries have been made. -/
def Broker.withPublisher (broker : Broker) (publisherFd : Fd) (topicId : TopicId)
    (shmFd spaceAvailableEventFd : Fd) : Broker :=
  { broker.setFreeSlots topicId publisherFd initAvailableSubscriberSlots with
    shmFdByPublisherFd := broker.shmFdByPublisherFd.insert publisherFd shmFd
    spaceEventFdByPublisherFd :=
      broker.spaceEventFdByPublisherFd.insert publisherFd spaceAvailableEventFd
    roleByFd := insertNew broker.roleByFd publisherFd .publisher }

/-! ## The loop over the subscribers -/

/-- What the loop over the topic's subscribers has done after some of them. -/
structure Adopting (start : Broker) (publisherFd : Fd) (topicId : TopicId)
    (shmFd spaceAvailableEventFd : Fd) (done : List Fd) (session : Session) : Prop where
  peers : session.sent.map Prod.fst = publisherPeers publisherFd done
  ids : session.broker.nextAttachmentId ≤ start.nextAttachmentId + done.length
  others : session.broker =
    { start.withPublisher publisherFd topicId shmFd spaceAvailableEventFd with
      nextAttachmentId := session.broker.nextAttachmentId
      availableSubscriberSlotsByTopicIdAndPublisherFd :=
        session.broker.availableSubscriberSlotsByTopicIdAndPublisherFd
      subscriberAttachmentsBySubscriberFd :=
        session.broker.subscriberAttachmentsBySubscriberFd }
  registered : ∀ fd,
    (session.broker.subscriberAttachmentsBySubscriberFd.lookup fd).isSome =
      (start.subscriberAttachmentsBySubscriberFd.lookup fd).isSome
  heap : ∃ heap, session.broker.freeSlots topicId publisherFd = some heap ∧
    heap.size + done.length = kMaxSubscribers ∧
    heap.free + session.broker.occupiedSlots publisherFd = Multiset.range kMaxSubscribers
  freeSlots : ∀ other fd, ¬(other = topicId ∧ fd = publisherFd) →
    session.broker.freeSlots other fd = start.freeSlots other fd
  attached : ∀ fd,
    (session.broker.attachmentsOf fd).countP (·.publisherFd = publisherFd) = done.count fd
  kept : ∀ fd, (session.broker.attachmentsOf fd).filter (·.publisherFd ≠ publisherFd) =
    start.attachmentsOf fd
  topics : ∀ fd, ∀ attachment ∈ session.broker.attachmentsOf fd,
    attachment.publisherFd = publisherFd → attachment.topicId = topicId
  notified : ∀ fd, ∀ attachment ∈ session.broker.attachmentsOf fd,
    attachment ∈ start.attachmentsOf fd ∨
      (attachment.publisherFd, .subscriberEventFdAndSlot attachment.slotIndex
        attachment.dataAvailableEventFd) ∈ session.sent ∧
      ∃ batch shmFds, attachment ∈ batch ∧
        (fd, .subscriberAttachmentBatch batch shmFds) ∈ session.sent

/-- One more subscriber of the list is attached. -/
theorem Adopting.adopt {start : Broker} {publisherFd subscriberFd : Fd}
    {topicId : TopicId} {shmFd spaceAvailableEventFd : Fd} {done : List Fd}
    {session session' : Session} {slots : SlotHeap}
    {attachments : List SubscriberAttachment} {attachment : SubscriberAttachment}
    {next : ℕ} {shmFds : List Fd}
    (hadopting : Adopting start publisherFd topicId shmFd spaceAvailableEventFd done session)
    (hslots : session.broker.freeSlots topicId publisherFd = some slots)
    (hnonempty : slots.slots ≠ [])
    (hlookup : session.broker.subscriberAttachmentsBySubscriberFd.lookup subscriberFd =
      some attachments)
    (hnext : next ≤ session.broker.nextAttachmentId + 1)
    (hbroker : session'.broker =
      ((session.broker.setFreeSlots topicId publisherFd slots.pop).setNextAttachmentId
        next).setAttachments subscriberFd (attachments ++ [attachment]))
    (hsent : session'.sent = session.sent ++
      [(publisherFd, .subscriberEventFdAndSlot slots.top attachment.dataAvailableEventFd),
        (subscriberFd, .subscriberAttachmentBatch [attachment] shmFds)])
    (hpublisher : attachment.publisherFd = publisherFd)
    (htopic : attachment.topicId = topicId) (hslot : attachment.slotIndex = slots.top) :
    Adopting start publisherFd topicId shmFd spaceAvailableEventFd
      (done ++ [subscriberFd]) session' := by
  have hview : session.broker.attachmentsOf subscriberFd = attachments := by
    rw [Broker.attachmentsOf, hlookup, Option.getD_some]
  have hattachmentsOf : ∀ fd, session'.broker.attachmentsOf fd =
      if fd = subscriberFd then attachments ++ [attachment]
      else session.broker.attachmentsOf fd := by
    intro fd
    rw [hbroker, Broker.attachmentsOf_setAttachments]
    rfl
  have hfreeSlots : ∀ other fd, session'.broker.freeSlots other fd =
      if other = topicId ∧ fd = publisherFd then some slots.pop
      else session.broker.freeSlots other fd := by
    intro other fd
    rw [hbroker]
    exact Broker.freeSlots_setFreeSlots slots.pop
  constructor
  case peers =>
    rw [hsent, List.map_append, hadopting.peers, publisherPeers_append]
    rfl
  case ids =>
    have hids := hadopting.ids
    rw [hbroker, List.length_append, List.length_singleton]
    change next ≤ _
    omega
  case others =>
    rw [hbroker]
    exact congrArg (fun broker : Broker =>
      ((broker.setFreeSlots topicId publisherFd slots.pop).setNextAttachmentId
        next).setAttachments subscriberFd (attachments ++ [attachment])) hadopting.others
  case registered =>
    intro fd
    rw [← hadopting.registered fd, hbroker, Broker.setAttachments]
    dsimp only
    rw [lookup_insert]
    split
    · rw [‹fd = subscriberFd›, hlookup]
      rfl
    · rfl
  case heap =>
    obtain ⟨heap, hheap, hsize, hshared⟩ := hadopting.heap
    obtain rfl : slots = heap := Option.some.inj (hslots.symm.trans hheap)
    have hpos : 0 < slots.size := List.length_pos_iff.mpr hnonempty
    refine ⟨slots.pop, by rw [hfreeSlots, if_pos ⟨rfl, rfl⟩], ?_, ?_⟩
    · rw [SlotHeap.size_pop, List.length_append, List.length_singleton]
      omega
    · -- The popped slot is what the new attachment holds.
      have hother : ∀ other, other ≠ subscriberFd →
          session'.broker.attachmentsOf other = session.broker.attachmentsOf other :=
        fun other hne => by rw [hattachmentsOf, if_neg hne]
      have hexchange := occupiedSlots_exchange publisherFd subscriberFd hother
      rw [hattachmentsOf, if_pos rfl, hview, heldSlots_append, heldSlots_singleton,
        if_pos hpublisher, hslot, add_comm (heldSlots publisherFd attachments),
        ← add_assoc] at hexchange
      have hoccupied := add_right_cancel hexchange
      rw [hoccupied, ← hshared, ← SlotHeap.free_pop hnonempty]
      abel
  case freeSlots =>
    intro other fd hne
    rw [hfreeSlots, if_neg hne, hadopting.freeSlots other fd hne]
  case attached =>
    intro fd
    rw [hattachmentsOf, List.count_append, ← hadopting.attached fd]
    split
    · rw [‹fd = subscriberFd›, hview, List.countP_append, List.count_singleton_self]
      simp [hpublisher]
    · simp [Ne.symm ‹¬fd = subscriberFd›]
  case kept =>
    intro fd
    rw [hattachmentsOf, ← hadopting.kept fd]
    split
    · rw [‹fd = subscriberFd›, hview, List.filter_append]
      simp [hpublisher]
    · rfl
  case topics =>
    intro fd other hmem heq
    rw [hattachmentsOf] at hmem
    split at hmem
    · rcases List.mem_append.mp hmem with hold | hnew
      · exact hadopting.topics subscriberFd other (hview ▸ hold) heq
      · rw [List.mem_singleton.mp hnew, htopic]
    · exact hadopting.topics fd other hmem heq
  case notified =>
    intro fd other hmem
    rw [hattachmentsOf] at hmem
    have htold : ∀ held, held ∈ session.broker.attachmentsOf fd →
        held ∈ start.attachmentsOf fd ∨
          (held.publisherFd, .subscriberEventFdAndSlot held.slotIndex
            held.dataAvailableEventFd) ∈ session'.sent ∧
          ∃ batch shmFds, held ∈ batch ∧
            (fd, .subscriberAttachmentBatch batch shmFds) ∈ session'.sent := by
      intro held hheld
      rw [hsent]
      refine (hadopting.notified fd held hheld).imp_right ?_
      rintro ⟨hpublisherTold, batch, shmFds, hbatch, hsubscriberTold⟩
      exact ⟨List.mem_append_left _ hpublisherTold, batch, shmFds, hbatch,
        List.mem_append_left _ hsubscriberTold⟩
    split at hmem
    · rcases List.mem_append.mp hmem with hold | hnew
      · refine htold other ?_
        rwa [‹fd = subscriberFd›, hview]
      · rw [List.mem_singleton.mp hnew, ‹fd = subscriberFd›, hpublisher, hslot, hsent]
        exact .inr ⟨by simp, [attachment], shmFds, by simp, by simp⟩
    · exact htold other hmem

theorem attachSubscriber_meets {env : Env} {start : Broker} {members : Members}
    {publisherFd subscriberFd shmFd spaceAvailableEventFd : Fd} {topicId : TopicId}
    {done rest : List Fd} {session : Session} (hroutes : Routes start members)
    (hsplit : start.subscribersOf topicId = done ++ subscriberFd :: rest)
    (hcapacity : (start.subscribersOf topicId).length ≤ kMaxSubscribers)
    (hadopting : Adopting start publisherFd topicId shmFd spaceAvailableEventFd done session) :
    Meets (attachSubscriber env publisherFd topicId shmFd spaceAvailableEventFd session
        subscriberFd)
      (Adopting start publisherFd topicId shmFd spaceAvailableEventFd
        (done ++ [subscriberFd]))
      (Obstructed start (.publisher topicId) env
        (publisherPeers publisherFd (start.subscribersOf topicId))) := by
  obtain ⟨slots, hslots, hsize, hshared⟩ := hadopting.heap
  have hlength : done.length + rest.length + 1 ≤ kMaxSubscribers := by
    rw [hsplit, List.length_append, List.length_cons] at hcapacity
    omega
  have hnonempty : slots.slots ≠ [] := by
    intro hempty
    rw [SlotHeap.size, hempty, List.length_nil] at hsize
    omega
  -- A listed subscriber has an entry to attach to.
  obtain ⟨attachments, hlookup⟩ : ∃ attachments,
      session.broker.subscriberAttachmentsBySubscriberFd.lookup subscriberFd =
        some attachments := by
    have hmem : 0 < (start.subscribersOf topicId).count subscriberFd :=
      List.count_pos_iff.mpr (by simp [hsplit])
    rw [hroutes.subscribers] at hmem
    refine Option.isSome_iff_exists.mp
      ((hadopting.registered _).trans ((hroutes.attachments _).trans ?_))
    cases hmember : (members subscriberFd).bind Member.topicIds with
    | none => simp [Members.topics, hmember] at hmem
    | some topicIds => rfl
  have hview : session.broker.attachmentsOf subscriberFd = attachments := by
    rw [Broker.attachmentsOf, hlookup, Option.getD_some]
  have hheap : (session.broker.freeSlots topicId publisherFd).getD SlotHeap.empty = slots := by
    rw [hslots, Option.getD_some]
  refine (Session.eventfd_meets rfl).orElse.bind ?_
  rintro ⟨dataAvailableEventFd, _⟩ rfl
  dsimp only
  rw [hheap]
  refine (Session.send_meets _ (subscriberFd :: rest.flatMap fun subscriberFd =>
    [publisherFd, subscriberFd]) rfl ?_).orElse.bind ?_
  · rw [hsplit, publisherPeers_append, Session.sent_update, hadopting.peers]
    simp
  rintro _ rfl
  refine (Session.takeAttachmentId_meets ?_).orElse.bind ?_
  · have hids := hadopting.ids
    change session.broker.nextAttachmentId + 1 ≤ _
    rw [length_publisherPeers, hsplit, List.length_append, List.length_cons]
    omega
  rintro ⟨attachmentId, _⟩ ⟨next, hnext, rfl⟩
  replace hnext : next ≤ session.broker.nextAttachmentId + 1 := hnext
  refine (sendAttachmentBatch_meets start.nextAttachmentId (rest.flatMap fun subscriberFd =>
    [publisherFd, subscriberFd]) rfl
    (fun hlong => absurd (by simp [kMaxAttachmentsPerBatch]) hlong) rfl ?_
    fun _ => .inr).bind ?_
  · rw [hsplit, publisherPeers_append]
    simp [hadopting.peers]
  rintro _ rfl
  refine (Meets.orStop_some hlookup).bind ?_
  rintro attachments rfl
  exact .pure (hadopting.adopt hslots hnonempty hlookup hnext rfl
    (List.append_assoc _ _ _) rfl rfl rfl)

/-! ## A publisher joins -/

theorem Routes.topic_eq_none {members : Members} {fd : Fd} (hfresh : members fd = none) :
    members.topic fd = none := by
  simp [Members.topic, hfresh]

/-- A descriptor that publishes nothing has none of a publisher's entries. -/
theorem Routes.entries_eq_none {broker : Broker} {members : Members}
    (hroutes : Routes broker members) {publisherFd : Fd}
    (htopic : members.topic publisherFd = none) (topicId : TopicId) :
    broker.shmFdByPublisherFd.lookup publisherFd = none ∧
      broker.spaceEventFdByPublisherFd.lookup publisherFd = none ∧
      broker.freeSlots topicId publisherFd = none := by
  have hshmFd := hroutes.shmFd publisherFd
  have hspaceEventFd := hroutes.spaceEventFd publisherFd
  have hfree := hroutes.freeSlots topicId publisherFd
  rw [htopic] at hshmFd hspaceEventFd hfree
  exact ⟨by simpa using hshmFd, by simpa using hspaceEventFd, by simpa using hfree⟩

/-- Nobody is attached to a descriptor that publishes nothing. -/
theorem Routes.publisherFd_ne {broker : Broker} {members : Members}
    (hroutes : Routes broker members) {publisherFd : Fd}
    (htopic : members.topic publisherFd = none) {fd : Fd}
    {attachment : SubscriberAttachment} (hmem : attachment ∈ broker.attachmentsOf fd) :
    attachment.publisherFd ≠ publisherFd := by
  rintro rfl
  rw [hroutes.attachedTopic fd attachment hmem] at htopic
  cases htopic

theorem Routes.occupiedSlots_eq_zero {broker : Broker} {members : Members}
    (hroutes : Routes broker members) {publisherFd : Fd}
    (htopic : members.topic publisherFd = none) :
    broker.occupiedSlots publisherFd = 0 := by
  rw [Broker.occupiedSlots, total]
  refine Finset.sum_eq_zero fun fd _ => ?_
  rw [weightAt_attachments rfl, heldSlots, List.filter_eq_nil_iff.mpr]
  · rfl
  · intro attachment hmem
    simpa using hroutes.publisherFd_ne htopic hmem

theorem Adopting.begin {start : Broker} {members : Members} {publisherFd : Fd}
    {topicId : TopicId} {shmFd spaceAvailableEventFd : Fd} {session : Session}
    (hroutes : Routes start members) (htopic : members.topic publisherFd = none)
    (hbroker : session.broker =
      start.withPublisher publisherFd topicId shmFd spaceAvailableEventFd)
    (hpeers : session.sent.map Prod.fst = [publisherFd]) :
    Adopting start publisherFd topicId shmFd spaceAvailableEventFd [] session := by
  have hattachmentsOf : ∀ fd, session.broker.attachmentsOf fd = start.attachmentsOf fd := by
    rw [hbroker]
    exact fun _ => rfl
  have hfreeSlots : ∀ other fd, session.broker.freeSlots other fd =
      if other = topicId ∧ fd = publisherFd then some initAvailableSubscriberSlots
      else start.freeSlots other fd := by
    intro other fd
    rw [hbroker]
    exact Broker.freeSlots_setFreeSlots initAvailableSubscriberSlots
  have hoccupied : session.broker.occupiedSlots publisherFd = 0 := by
    have hcongr : session.broker.occupiedSlots publisherFd =
        start.occupiedSlots publisherFd :=
      occupiedSlots_congr fun fd => by rw [hattachmentsOf]
    rw [hcongr, hroutes.occupiedSlots_eq_zero htopic]
  constructor
  case peers => rw [hpeers]; rfl
  case ids => rw [hbroker]; exact le_rfl
  case others => rw [hbroker]
  case registered => rw [hbroker]; exact fun _ => rfl
  case heap =>
    refine ⟨initAvailableSubscriberSlots, by rw [hfreeSlots, if_pos ⟨rfl, rfl⟩], by decide, ?_⟩
    rw [hoccupied, add_zero, free_initAvailableSubscriberSlots]
  case freeSlots =>
    intro other fd hne
    rw [hfreeSlots, if_neg hne]
  case attached =>
    intro fd
    rw [hattachmentsOf, hroutes.attached, Members.matching, htopic]
    rfl
  case kept =>
    intro fd
    rw [hattachmentsOf, List.filter_eq_self]
    intro attachment hmem
    simpa using hroutes.publisherFd_ne htopic hmem
  case topics =>
    intro fd attachment hmem heq
    rw [hattachmentsOf] at hmem
    exact absurd heq (hroutes.publisherFd_ne htopic hmem)
  case notified =>
    intro fd attachment hmem
    exact .inl (hattachmentsOf fd ▸ hmem)

/-- With the publisher's entries and an attachment for every listed subscriber, the
maps describe the membership with it. -/
theorem Adopting.join_publisher {start after : Broker} {members : Members}
    {publisherFd : Fd} {topicId : TopicId} {shmFd spaceAvailableEventFd : Fd}
    {session : Session} (hroutes : Routes start members)
    (hfresh : members publisherFd = none)
    (hadopted : Adopting start publisherFd topicId shmFd spaceAvailableEventFd
      (start.subscribersOf topicId) session)
    (hafter : after = { session.broker with
      publisherFdsByTopicId := start.publisherFdsByTopicId.insert topicId
        (start.publishersOf topicId ++ [publisherFd]) }) :
    Routes after (members.join publisherFd (.publisher topicId)) := by
  have htopicNone := Routes.topic_eq_none hfresh
  have htopics : (members.join publisherFd (.publisher topicId)).topics =
      members.topics := by
    funext fd
    rw [Members.topics_join]
    split
    · simp [Members.topics, ‹fd = publisherFd›, hfresh, Member.topicIds]
    · rfl
  have hsubscriber : ∀ fd, ((members.join publisherFd (.publisher topicId)) fd).bind
      Member.topicIds = (members fd).bind Member.topicIds := by
    intro fd
    simp only [Members.join, Function.update_apply]
    split
    · simp [‹fd = publisherFd›, hfresh, Member.topicIds]
    · rfl
  have hattachments : ∀ fd, after.attachmentsOf fd = session.broker.attachmentsOf fd := by
    rw [hafter]
    exact fun _ => rfl
  have hfree : ∀ other fd, after.freeSlots other fd = session.broker.freeSlots other fd := by
    rw [hafter]
    exact fun _ _ => rfl
  have hfilter : ∀ other, other ≠ publisherFd → ∀ fd,
      (after.attachmentsOf fd).filter (·.publisherFd = other) =
        (start.attachmentsOf fd).filter (·.publisherFd = other) := by
    intro other hother fd
    rw [hattachments, ← hadopted.kept fd, List.filter_filter]
    refine List.filter_congr fun attachment _ => ?_
    by_cases heq : attachment.publisherFd = other <;> simp [heq, hother]
  have hoccupied : ∀ fd, after.occupiedSlots fd = session.broker.occupiedSlots fd :=
    fun fd => occupiedSlots_congr fun subscriberFd => by rw [hattachments]
  constructor
  case role =>
    intro fd
    rw [hafter, hadopted.others]
    simp only [Members.join, Function.update_apply, Broker.withPublisher]
    rw [lookup_insertNew_of_notMem _ (by rw [hroutes.role, hfresh]; rfl)]
    split
    · rfl
    · exact hroutes.role fd
  case topicIds =>
    intro fd
    rw [hsubscriber, ← hroutes.topicIds, hafter, hadopted.others]
    rfl
  case attachments =>
    intro fd
    rw [hsubscriber, ← hroutes.attachments, ← hadopted.registered, hafter]
  case shmFd =>
    intro fd
    rw [hafter, hadopted.others, Members.topic_join]
    simp only [Broker.withPublisher, lookup_insert]
    split
    · rfl
    · exact hroutes.shmFd fd
  case spaceEventFd =>
    intro fd
    rw [hafter, hadopted.others, Members.topic_join]
    simp only [Broker.withPublisher, lookup_insert]
    split
    · rfl
    · exact hroutes.spaceEventFd fd
  case publishers =>
    intro other fd
    rw [hafter, Broker.publishersOf, lookup_insert, Members.topic_join]
    have hcount := hroutes.publishers other fd
    by_cases hother : other = topicId
    · subst hother
      rw [if_pos rfl, Option.getD_some, List.count_append, hcount, List.count_singleton]
      by_cases hfd : fd = publisherFd
      · simp [hfd, htopicNone, Member.topicId]
      · simp [hfd, Ne.symm hfd]
    · rw [if_neg hother, ← Broker.publishersOf, hcount]
      by_cases hfd : fd = publisherFd
      · simp [hfd, htopicNone, Member.topicId, Ne.symm hother]
      · simp [hfd]
  case publishers_ne_nil =>
    intro other
    rw [hafter, lookup_insert]
    split
    · simp
    · exact hroutes.publishers_ne_nil other
  case freeSlots =>
    intro other fd
    rw [hfree, Members.topic_join]
    by_cases hboth : other = topicId ∧ fd = publisherFd
    · obtain ⟨heap, hheap, -⟩ := hadopted.heap
      rw [hboth.1, hboth.2, hheap]
      simp [Member.topicId]
    · rw [hadopted.freeSlots other fd hboth, hroutes.freeSlots]
      by_cases hfd : fd = publisherFd
      · have hother : topicId ≠ other := fun heq => hboth ⟨heq.symm, hfd⟩
        simp [hfd, htopicNone, Member.topicId, hother]
      · simp [hfd]
  case subscribers =>
    intro other fd
    rw [htopics, ← hroutes.subscribers, hafter, Broker.subscribersOf, hadopted.others]
    rfl
  case attached =>
    intro fd other
    rw [Members.matching, htopics, Members.topic_join]
    split
    · rw [‹other = publisherFd›, hattachments, hadopted.attached, hroutes.subscribers]
      rfl
    · rw [List.countP_eq_length_filter, hfilter other ‹_›, ← List.countP_eq_length_filter]
      exact hroutes.attached fd other
  case attachedTopic =>
    intro fd attachment hmem
    rw [Members.topic_join]
    by_cases heq : attachment.publisherFd = publisherFd
    · rw [if_pos heq, hadopted.topics fd attachment (hattachments fd ▸ hmem) heq]
      rfl
    · rw [if_neg heq]
      have hkept : attachment ∈ (after.attachmentsOf fd).filter
          (·.publisherFd = attachment.publisherFd) :=
        List.mem_filter.mpr ⟨hmem, by simp⟩
      rw [hfilter _ heq] at hkept
      exact hroutes.attachedTopic fd attachment (List.mem_of_mem_filter hkept)
  case slots =>
    intro other fd heap hheap
    rw [hfree] at hheap
    rw [hoccupied]
    by_cases hboth : other = topicId ∧ fd = publisherFd
    · obtain ⟨slots, hslots, -, hshared⟩ := hadopted.heap
      rw [hboth.1, hboth.2, hslots] at hheap
      rw [hboth.2, ← Option.some.inj hheap]
      exact hshared
    · rw [hadopted.freeSlots other fd hboth] at hheap
      have hne : fd ≠ publisherFd := by
        rintro rfl
        have htopic := hroutes.topic_of_freeSlots (by rw [hheap]; rfl)
        rw [htopicNone] at htopic
        cases htopic
      rw [← hroutes.slots other fd heap hheap, ← hoccupied]
      congr 1
      refine occupiedSlots_congr fun subscriberFd => ?_
      rw [heldSlots, hfilter fd hne, heldSlots]

/-- The contract of the publisher registration case. -/
theorem registerPublisher_meets {env : Env} {members : Members} {session : Session}
    {publisherFd : Fd} {topicId : TopicId} {shmFd spaceAvailableEventFd : Fd}
    (hroutes : Routes session.broker members) (hsent : session.sent = [])
    (hfresh : members publisherFd = none) :
    Meets (registerPublisher env publisherFd topicId shmFd spaceAvailableEventFd session)
      (Settled session.broker publisherFd
        (members.join publisherFd (.publisher topicId)))
      (Obstructed session.broker (.publisher topicId) env
        (publisherPeers publisherFd (session.broker.subscribersOf topicId))) := by
  have htopic := Routes.topic_eq_none hfresh
  obtain ⟨hshmFd, hspaceEventFd, hfree⟩ := hroutes.entries_eq_none htopic topicId
  refine (Meets.require_of hshmFd).bind fun _ _ => ?_
  refine (Meets.require_of hspaceEventFd).bind fun _ _ => ?_
  refine (Meets.require_of hfree).bind fun _ _ => ?_
  refine (Meets.require fun hfull => .inl
    ⟨fun hcapacity => hfull (size_initAvailableSubscriberSlots ▸ hcapacity),
      by simp [Member.limits]⟩).bind fun _ hcapacity => ?_
  replace hcapacity : (session.broker.subscribersOf topicId).length ≤ kMaxSubscribers :=
    size_initAvailableSubscriberSlots ▸ hcapacity
  refine (Session.send_meets _ _ rfl
    (by rw [Session.sent_update, hsent]; rfl)).orElse.bind ?_
  rintro _ rfl
  refine (Meets.foldlM (Adopting session.broker publisherFd topicId shmFd
    spaceAvailableEventFd) ?_ ?_).bind ?_
  · exact .begin hroutes htopic rfl (by rw [Session.sent_update, hsent]; rfl)
  · intro done subscriberFd rest adopting hsplit hadopting
    exact attachSubscriber_meets hroutes hsplit hcapacity hadopting
  intro adopted hadopted
  refine .pure ⟨?_, ⟨?_, ?_⟩, ?_⟩
  · refine hadopted.join_publisher hroutes hfresh ?_
    rw [Session.broker_update, hadopted.others]
    rfl
  · exact hadopted.notified
  · intro fd attachment hmem
    left
    have hkept := hadopted.kept fd
    rw [← hkept] at hmem
    exact List.mem_of_mem_filter hmem
  · rw [Session.broker_update, hadopted.others]
    rfl

end DriveBus.ControlPlane
