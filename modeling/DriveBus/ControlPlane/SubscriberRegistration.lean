import DriveBus.ControlPlane.Slots

/-!
# A subscriber registers

The registration walks the topics and, for each, the topic's publishers, so the
publishers are visited once for every listed occurrence of their topic.  The
records it owes go to these publishers in that order and to the subscriber last.
-/

namespace DriveBus.ControlPlane

open DriveBus.Contract DriveBus.UnorderedMap

theorem Routes.count_publishersOfTopics {broker : Broker} {members : Members}
    (hroutes : Routes broker members) (topicIds : List TopicId) (publisherFd : Fd) :
    (broker.publishersOfTopics topicIds).count publisherFd =
      (members.topic publisherFd).elim 0 topicIds.count := by
  induction topicIds with
  | nil => cases members.topic publisherFd <;> rfl
  | cons topicId topicIds ih =>
      rw [Broker.publishersOfTopics, List.flatMap_cons, List.count_append,
        hroutes.publishers, ← Broker.publishersOfTopics, ih]
      cases htopic : members.topic publisherFd with
      | none => simp
      | some other =>
          by_cases heq : other = topicId
          · subst heq
            simp [add_comm]
          · simp [heq, Ne.symm heq]

/-! ## The loops over topics and publishers -/

/-- What the registration has done after the topics `listed` and the publishers
`visited`. -/
structure Registering (start : Broker) (subscriberFd : Fd) (topicIds : List TopicId)
    (members : Members) (listed : List TopicId) (visited : List Fd)
    (attaching : Attaching) : Prop where
  peers : attaching.session.sent.map Prod.fst = visited
  attached : attaching.attachments.map (·.publisherFd) = visited
  shmFds : attaching.shmFds.length = visited.length
  ids : attaching.session.broker.nextAttachmentId ≤
    start.nextAttachmentId + visited.length
  others : attaching.session.broker = { start with
    nextAttachmentId := attaching.session.broker.nextAttachmentId
    availableSubscriberSlotsByTopicIdAndPublisherFd :=
      attaching.session.broker.availableSubscriberSlotsByTopicIdAndPublisherFd
    subscriberFdsByTopicId := attaching.session.broker.subscriberFdsByTopicId
    topicIdsBySubscriberFd := insertNew start.topicIdsBySubscriberFd subscriberFd topicIds
    roleByFd := insertNew start.roleByFd subscriberFd .subscriber }
  slots : SlotsMove attaching.session.broker start fun fd =>
    heldSlots fd attaching.attachments
  subscribers : ∀ topicId fd,
    (attaching.session.broker.subscribersOf topicId).count fd =
      (start.subscribersOf topicId).count fd +
        if fd = subscriberFd then listed.count topicId else 0
  topics : ∀ attachment ∈ attaching.attachments,
    members.topic attachment.publisherFd = some attachment.topicId
  notified : ∀ attachment ∈ attaching.attachments,
    (attachment.publisherFd, .subscriberEventFdAndSlot attachment.slotIndex
      attachment.dataAvailableEventFd) ∈ attaching.session.sent

theorem card_heldSlots (publisherFd : Fd) (attachments : List SubscriberAttachment) :
    (heldSlots publisherFd attachments).card =
      (attachments.map (·.publisherFd)).count publisherFd := by
  rw [heldSlots, Multiset.coe_card, List.length_map, ← List.countP_eq_length_filter,
    List.count, List.countP_map]
  exact List.countP_congr fun attachment _ => by simp

theorem attachPublisher_meets {env : Env} {start : Broker} {members : Members}
    {subscriberFd publisherFd : Fd} {topicId : TopicId} {topicIds listed : List TopicId}
    {visited : List Fd} {attaching : Attaching} (rest : List Fd)
    (hroutes : Routes start members)
    (htopic : members.topic publisherFd = some topicId)
    (hvisits : start.publishersOfTopics topicIds = visited ++ publisherFd :: rest)
    (hregistering :
      Registering start subscriberFd topicIds members listed visited attaching) :
    Meets (attachPublisher env topicId attaching publisherFd)
      (Registering start subscriberFd topicIds members listed (visited ++ [publisherFd]))
      (Obstructed start (.subscriber topicIds) env
        (start.publishersOfTopics topicIds ++ [subscriberFd])) := by
  obtain ⟨shmFd, hshmFd⟩ : ∃ shmFd,
      attaching.session.broker.shmFdByPublisherFd.lookup publisherFd = some shmFd := by
    rw [hregistering.others]
    exact Option.isSome_iff_exists.mp (by rw [hroutes.shmFd, htopic]; rfl)
  obtain ⟨spaceEventFd, hspaceEventFd⟩ : ∃ spaceEventFd,
      attaching.session.broker.spaceEventFdByPublisherFd.lookup publisherFd =
        some spaceEventFd := by
    rw [hregistering.others]
    exact Option.isSome_iff_exists.mp (by rw [hroutes.spaceEventFd, htopic]; rfl)
  obtain ⟨heapStart, hstart⟩ := hroutes.freeSlots_of_topic htopic
  obtain ⟨slots, hslots⟩ := Option.isSome_iff_exists.mp
    ((hregistering.slots.isSome_eq topicId publisherFd).symm.trans (by rw [hstart]; rfl))
  -- Within its capacity the publisher has a slot for every occurrence of its topic.
  have hnonempty : start.HasCapacity (.subscriber topicIds) → slots.slots ≠ [] := by
    intro hcapacity hempty
    have hfree := congrArg Multiset.card (hregistering.slots.free_eq hslots hstart)
    rw [Multiset.card_add, card_heldSlots, hregistering.attached, SlotHeap.card_free,
      SlotHeap.card_free, SlotHeap.size, SlotHeap.size, hempty] at hfree
    have hcount := hroutes.count_publishersOfTopics topicIds publisherFd
    rw [hvisits, List.count_append, List.count_cons_self, htopic, Option.elim_some] at hcount
    have hsize := hcapacity.2 topicId publisherFd heapStart hstart
    rw [SlotHeap.size] at hsize
    simp only [List.length_nil] at hfree
    omega
  refine (Meets.orStop_some hshmFd).bind ?_
  rintro shmFd rfl
  refine (Meets.orStop_some hslots).bind ?_
  rintro slots rfl
  refine (Meets.require fun hempty => .inl ⟨fun hcapacity => hempty (hnonempty hcapacity),
    by simp [Member.limits]⟩).bind fun _ hnonempty => ?_
  refine (Meets.orStop_some hspaceEventFd).bind ?_
  rintro spaceEventFd rfl
  refine (Session.eventfd_meets rfl).orElse.bind ?_
  rintro ⟨dataAvailableEventFd, _⟩ rfl
  refine (Session.send_meets _ (rest ++ [subscriberFd]) rfl ?_).orElse.bind ?_
  · simp [hregistering.peers, hvisits]
  rintro _ rfl
  refine (Session.takeAttachmentId_meets ?_).orElse.bind ?_
  · have hids := hregistering.ids
    change attaching.session.broker.nextAttachmentId + 1 ≤ _
    rw [List.length_append, hvisits, List.length_append, List.length_cons]
    omega
  rintro ⟨attachmentId, _⟩ ⟨next, hnext, rfl⟩
  refine .pure ⟨?_, ?_, ?_, ?_, ?_, ?_, ?_, ?_, ?_⟩
  · simp [hregistering.peers]
  · simp [hregistering.attached]
  · simp [hregistering.shmFds]
  · have hids := hregistering.ids
    replace hnext : next ≤ attaching.session.broker.nextAttachmentId + 1 := hnext
    change next ≤ _
    rw [List.length_append, List.length_singleton]
    omega
  · exact congrArg (fun broker : Broker =>
      (broker.setFreeSlots topicId publisherFd slots.pop).setNextAttachmentId next)
      hregistering.others
  · have htake := hregistering.slots.take
      (fun other hsome => Option.some.inj
        ((hroutes.topic_of_freeSlots hsome).symm.trans htopic))
      hslots (SlotHeap.free_pop hnonempty)
    intro other fd
    simpa using htake other fd
  · exact hregistering.subscribers
  · intro attachment hmem
    rcases List.mem_append.mp hmem with hold | hnew
    · exact hregistering.topics attachment hold
    · rw [List.mem_singleton.mp hnew]
      exact htopic
  · intro attachment hmem
    rcases List.mem_append.mp hmem with hold | hnew
    · exact List.mem_append_left _ (hregistering.notified attachment hold)
    · rw [List.mem_singleton.mp hnew]
      exact List.mem_append_right _ (List.mem_singleton.mpr rfl)

theorem Broker.publishersOfTopics_append (broker : Broker) (left right : List TopicId) :
    broker.publishersOfTopics (left ++ right) =
      broker.publishersOfTopics left ++ broker.publishersOfTopics right :=
  List.flatMap_append

theorem Broker.publishersOfTopics_singleton (broker : Broker) (topicId : TopicId) :
    broker.publishersOfTopics [topicId] = broker.publishersOf topicId := by
  simp [Broker.publishersOfTopics]

/-- Join the list of a topic. -/
def Attaching.list (attaching : Attaching) (subscriberFd : Fd) (topicId : TopicId) :
    Attaching :=
  { attaching with
    session := attaching.session.update fun broker => broker.setSubscribers topicId
      (broker.subscribersOf topicId ++ [subscriberFd]) }

section Topics

variable {env : Env} {start : Broker} {members : Members} {subscriberFd : Fd}
  {topicId : TopicId} {topicIds listed : List TopicId} {visited : List Fd}
  {attaching : Attaching}

/-- Joining a topic's list changes nothing but that list. -/
theorem Registering.list
    (hregistering :
      Registering start subscriberFd topicIds members listed visited attaching)
    (topicId : TopicId) :
    Registering start subscriberFd topicIds members (listed ++ [topicId]) visited
      (attaching.list subscriberFd topicId) where
  peers := hregistering.peers
  attached := hregistering.attached
  shmFds := hregistering.shmFds
  ids := hregistering.ids
  others := congrArg (fun broker : Broker => broker.setSubscribers topicId
    (attaching.session.broker.subscribersOf topicId ++ [subscriberFd])) hregistering.others
  slots := hregistering.slots
  subscribers := by
    intro other fd
    rw [Attaching.list, Session.broker_update, Broker.subscribersOf_setSubscribers]
    have hcount := hregistering.subscribers other fd
    by_cases hother : other = topicId
    · subst hother
      rw [if_pos rfl, List.count_append, hcount, List.count_append,
        List.count_singleton_self, List.count_singleton]
      by_cases hfd : fd = subscriberFd
      · simp [hfd, add_assoc]
      · simp [hfd, Ne.symm hfd]
    · rw [if_neg hother, hcount]
      simp [List.count_append, Ne.symm hother]
  topics := hregistering.topics
  notified := hregistering.notified

/-- A topic with publishers has their heaps, so its publishers are all visited. -/
theorem attachTopic_eq (hroutes : Routes start members)
    (hregistering :
      Registering start subscriberFd topicIds members listed visited attaching) :
    attachTopic env subscriberFd attaching topicId =
      (start.publishersOf topicId).foldlM (attachPublisher env topicId)
        (attaching.list subscriberFd topicId) := by
  have hpublishers : attaching.session.broker.publisherFdsByTopicId =
      start.publisherFdsByTopicId := by
    rw [hregistering.others]
  dsimp only [attachTopic]
  rw [hpublishers]
  cases hlookup : start.publisherFdsByTopicId.lookup topicId with
  | none =>
      rw [Broker.publishersOf, hlookup]
      rfl
  | some publishers =>
      have hview : start.publishersOf topicId = publishers := by
        rw [Broker.publishersOf, hlookup, Option.getD_some]
      obtain ⟨publisherFd, hmem⟩ := List.exists_mem_of_ne_nil publishers
        fun hempty => hroutes.publishers_ne_nil topicId (hempty ▸ hlookup)
      have hfree := (hregistering.slots.isSome_eq topicId publisherFd).symm.trans
        ((hroutes.freeSlots topicId publisherFd).trans
          (decide_eq_true (hroutes.mem_publishersOf.mp (hview ▸ hmem))))
      obtain ⟨heap, hheap⟩ := Option.isSome_iff_exists.mp hfree
      obtain ⟨slotsByPublisherFd, hslots, -⟩ := Broker.freeSlots_eq_some.mp hheap
      rw [hview]
      dsimp only
      rw [hslots]
      rfl

/-- The loop over the first publishers of a topic. -/
theorem attachPublishers_meets {done rest : List TopicId} {reached unreached : List Fd}
    (hroutes : Routes start members) (hsplit : topicIds = done ++ topicId :: rest)
    (hpublishers : start.publishersOf topicId = reached ++ unreached)
    (hregistering : Registering start subscriberFd topicIds members done
      (start.publishersOfTopics done) attaching) :
    Meets (reached.foldlM (attachPublisher env topicId)
        (attaching.list subscriberFd topicId))
      (Registering start subscriberFd topicIds members (done ++ [topicId])
        (start.publishersOfTopics done ++ reached))
      (Obstructed start (.subscriber topicIds) env
        (start.publishersOfTopics topicIds ++ [subscriberFd])) := by
  refine Meets.foldlM (fun visited => Registering start subscriberFd topicIds members
    (done ++ [topicId]) (start.publishersOfTopics done ++ visited)) ?_ ?_
  · rw [List.append_nil]
    exact hregistering.list topicId
  · intro visited publisherFd unvisited attaching' hvisits hinv
    rw [← List.append_assoc]
    refine attachPublisher_meets (unvisited ++ unreached ++ start.publishersOfTopics rest)
      hroutes ?_ ?_ hinv
    · exact hroutes.mem_publishersOf.mp (by simp [hpublishers, hvisits])
    · simp [Broker.publishersOfTopics, hsplit, hpublishers, hvisits]

theorem attachTopic_meets {done rest : List TopicId} (hroutes : Routes start members)
    (hsplit : topicIds = done ++ topicId :: rest)
    (hregistering : Registering start subscriberFd topicIds members done
      (start.publishersOfTopics done) attaching) :
    Meets (attachTopic env subscriberFd attaching topicId)
      (Registering start subscriberFd topicIds members (done ++ [topicId])
        (start.publishersOfTopics (done ++ [topicId])))
      (Obstructed start (.subscriber topicIds) env
        (start.publishersOfTopics topicIds ++ [subscriberFd])) := by
  rw [attachTopic_eq hroutes hregistering, Broker.publishersOfTopics_append,
    Broker.publishersOfTopics_singleton]
  exact attachPublishers_meets hroutes hsplit (List.append_nil _).symm hregistering

end Topics

/-- The locals of the registration before its first topic. -/
def Attaching.start (subscriberFd : Fd) (topicIds : List TopicId) (session : Session) :
    Attaching where
  session := session.update fun broker =>
    { broker with
      topicIdsBySubscriberFd :=
        insertNew broker.topicIdsBySubscriberFd subscriberFd topicIds
      roleByFd := insertNew broker.roleByFd subscriberFd .subscriber }
  attachments := []
  shmFds := []

/-- The loop over the first topics of the list. -/
theorem attachTopics_meets {env : Env} {members : Members} {session : Session}
    {subscriberFd : Fd} {topicIds listed rest : List TopicId}
    (hroutes : Routes session.broker members) (hsent : session.sent = [])
    (hsplit : topicIds = listed ++ rest) :
    Meets (listed.foldlM (attachTopic env subscriberFd)
        (.start subscriberFd topicIds session))
      (Registering session.broker subscriberFd topicIds members listed
        (session.broker.publishersOfTopics listed))
      (Obstructed session.broker (.subscriber topicIds) env
        (session.broker.publishersOfTopics topicIds ++ [subscriberFd])) := by
  refine Meets.foldlM (fun done => Registering session.broker subscriberFd topicIds members
    done (session.broker.publishersOfTopics done)) ?_ ?_
  · exact ⟨by rw [Attaching.start, Session.sent_update, hsent]; rfl, rfl, rfl, le_rfl, rfl,
      .refl _, fun _ _ => by simp [Attaching.start, Broker.subscribersOf],
      by simp [Attaching.start], by simp [Attaching.start]⟩
  · intro done topicId unlisted attaching hlisted hregistering
    have hrest : topicIds = done ++ topicId :: (unlisted ++ rest) := by simp [hsplit, hlisted]
    exact attachTopic_meets hroutes hrest hregistering

/-! ## A subscriber joins -/

/-- With the subscriber's entries, its lists and the attachments to all publishers
of its topics, the maps describe the membership with it. -/
theorem Routes.join_subscriber {start after : Broker} {members : Members}
    (hroutes : Routes start members) {subscriberFd : Fd} {topicIds : List TopicId}
    {attachments : List SubscriberAttachment} (hfresh : members subscriberFd = none)
    (hothers : after = { start with
      nextAttachmentId := after.nextAttachmentId
      availableSubscriberSlotsByTopicIdAndPublisherFd :=
        after.availableSubscriberSlotsByTopicIdAndPublisherFd
      subscriberFdsByTopicId := after.subscriberFdsByTopicId
      topicIdsBySubscriberFd := insertNew start.topicIdsBySubscriberFd subscriberFd topicIds
      roleByFd := insertNew start.roleByFd subscriberFd .subscriber
      subscriberAttachmentsBySubscriberFd :=
        insertNew start.subscriberAttachmentsBySubscriberFd subscriberFd attachments })
    (hslots : SlotsMove after start fun fd => heldSlots fd attachments)
    (hsubscribers : ∀ topicId fd, (after.subscribersOf topicId).count fd =
      (start.subscribersOf topicId).count fd +
        if fd = subscriberFd then topicIds.count topicId else 0)
    (hattached : attachments.map (·.publisherFd) = start.publishersOfTopics topicIds)
    (htopics : ∀ attachment ∈ attachments,
      members.topic attachment.publisherFd = some attachment.topicId) :
    Routes after (members.join subscriberFd (.subscriber topicIds)) := by
  have htopic : (members.join subscriberFd (.subscriber topicIds)).topic =
      members.topic := by
    funext fd
    rw [Members.topic_join]
    split
    · simp [Members.topic, ‹fd = subscriberFd›, hfresh, Member.topicId]
    · rfl
  have hlookup : ∀ fd, after.subscriberAttachmentsBySubscriberFd.lookup fd =
      if fd = subscriberFd then some attachments
      else start.subscriberAttachmentsBySubscriberFd.lookup fd := by
    intro fd
    rw [hothers]
    refine lookup_insertNew_of_notMem _ ?_ fd
    have hisSome := hroutes.attachments subscriberFd
    rw [hfresh] at hisSome
    simpa using hisSome
  have hattachments : ∀ fd, after.attachmentsOf fd =
      if fd = subscriberFd then attachments else start.attachmentsOf fd := by
    intro fd
    rw [Broker.attachmentsOf, hlookup]
    split <;> rfl
  have hnone : start.attachmentsOf subscriberFd = [] :=
    hroutes.attachmentsOf_eq_nil (by simp [hfresh])
  have hpublishers : after.publisherFdsByTopicId = start.publisherFdsByTopicId := by
    rw [hothers]
  constructor
  case role =>
    intro fd
    rw [hothers]
    simp only [Members.join, Function.update_apply]
    rw [lookup_insertNew_of_notMem _ (by rw [hroutes.role, hfresh]; rfl)]
    split
    · rfl
    · exact hroutes.role fd
  case topicIds =>
    intro fd
    rw [hothers]
    simp only [Members.join, Function.update_apply]
    rw [lookup_insertNew_of_notMem _ (by rw [hroutes.topicIds, hfresh]; rfl)]
    split
    · rfl
    · exact hroutes.topicIds fd
  case attachments =>
    intro fd
    rw [hlookup]
    simp only [Members.join, Function.update_apply]
    split
    · rfl
    · exact hroutes.attachments fd
  case shmFd =>
    intro fd
    rw [htopic, ← hroutes.shmFd, hothers]
  case spaceEventFd =>
    intro fd
    rw [htopic, ← hroutes.spaceEventFd, hothers]
  case publishers =>
    intro topicId fd
    rw [Broker.publishersOf, hpublishers, htopic]
    exact hroutes.publishers topicId fd
  case publishers_ne_nil =>
    rw [hpublishers]
    exact hroutes.publishers_ne_nil
  case freeSlots =>
    intro topicId fd
    rw [← hslots.isSome_eq, hroutes.freeSlots, htopic]
  case subscribers =>
    intro topicId fd
    rw [hsubscribers, hroutes.subscribers, Members.topics_join]
    split
    · simp [Members.topics, ‹fd = subscriberFd›, hfresh, Member.topicIds]
    · rfl
  case attached =>
    intro fd publisherFd
    rw [hattachments, Members.matching, htopic, Members.topics_join]
    split
    · have hcount := hroutes.count_publishersOfTopics topicIds publisherFd
      rw [← hattached, List.count, List.countP_map] at hcount
      refine Eq.trans (List.countP_congr fun attachment _ => by simp) hcount
    · exact hroutes.attached fd publisherFd
  case attachedTopic =>
    intro fd attachment hmem
    rw [hattachments] at hmem
    rw [htopic]
    split at hmem
    · exact htopics attachment hmem
    · exact hroutes.attachedTopic fd attachment hmem
  case slots =>
    intro topicId publisherFd heap hheap
    obtain ⟨heapStart, hstart⟩ := Option.isSome_iff_exists.mp
      ((hslots.isSome_eq topicId publisherFd).trans (by rw [hheap]; rfl))
    have hother : ∀ other, other ≠ subscriberFd →
        after.attachmentsOf other = start.attachmentsOf other :=
      fun other hne => by rw [hattachments, if_neg hne]
    have hexchange := occupiedSlots_exchange publisherFd subscriberFd hother
    rw [hnone, hattachments, if_pos rfl, heldSlots_nil, add_zero] at hexchange
    rw [← hroutes.slots topicId publisherFd heapStart hstart,
      hslots.free_eq hheap hstart, hexchange]
    abel

/-- The contract of the subscriber registration case. -/
theorem registerSubscriber_meets {env : Env} {members : Members} {session : Session}
    {subscriberFd : Fd} {topicIds : List TopicId} (hroutes : Routes session.broker members)
    (hsent : session.sent = []) (hfresh : members subscriberFd = none) :
    Meets (registerSubscriber env subscriberFd topicIds session)
      (Settled session.broker subscriberFd
        (members.join subscriberFd (.subscriber topicIds)))
      (Obstructed session.broker (.subscriber topicIds) env
        (session.broker.publishersOfTopics topicIds ++ [subscriberFd])) := by
  refine (attachTopics_meets hroutes hsent (List.append_nil topicIds).symm).bind ?_
  intro attaching hregistered
  have hlength : attaching.attachments.length =
      (session.broker.publishersOfTopics topicIds).length := by
    rw [← hregistered.attached, List.length_map]
  refine (sendAttachmentBatch_meets session.broker.nextAttachmentId []
    (hregistered.shmFds.trans hlength.symm) (fun hlong => .inl
      ⟨fun hcapacity => hlong (hlength ▸ hcapacity.1), by simp [Member.limits]⟩) rfl
    (by rw [hregistered.peers]) fun _ => .inr).bind ?_
  rintro _ rfl
  have hlookup : attaching.session.broker.subscriberAttachmentsBySubscriberFd =
      session.broker.subscriberAttachmentsBySubscriberFd := by
    rw [hregistered.others]
  have hnone : session.broker.subscriberAttachmentsBySubscriberFd.lookup subscriberFd =
      none := by
    have hisSome := hroutes.attachments subscriberFd
    rw [hfresh] at hisSome
    simpa using hisSome
  refine .pure ?_
  generalize hfinal : Session.update _ _ = final
  have hsent' : final.sent = attaching.session.sent ++ [(subscriberFd,
      .subscriberAttachmentBatch attaching.attachments attaching.shmFds)] := by
    rw [← hfinal]
    rfl
  generalize hbroker : final.broker = after
  have hattachments : ∀ fd, after.attachmentsOf fd =
      if fd = subscriberFd then attaching.attachments
      else session.broker.attachmentsOf fd := by
    intro fd
    rw [← hbroker, ← hfinal, Session.broker_update, Broker.attachmentsOf, hlookup,
      lookup_insertNew_of_notMem _ hnone]
    split <;> rfl
  refine ⟨hbroker ▸ ?_, ⟨?_, ?_⟩, ?_⟩
  · refine hroutes.join_subscriber hfresh ?_ ?_ ?_ hregistered.attached hregistered.topics
    · rw [← hbroker, ← hfinal, Session.broker_update, hregistered.others]
    · intro topicId fd
      rw [← hbroker, ← hfinal]
      exact hregistered.slots topicId fd
    · intro topicId fd
      rw [← hbroker, ← hfinal]
      exact hregistered.subscribers topicId fd
  · intro fd attachment hmem
    rw [hbroker, hattachments] at hmem
    rw [hsent']
    split at hmem
    · refine .inr ⟨List.mem_append_left _ (hregistered.notified attachment hmem),
        attaching.attachments, attaching.shmFds, hmem, ?_⟩
      rw [‹fd = subscriberFd›]
      exact List.mem_append_right _ (List.mem_singleton.mpr rfl)
    · exact .inl hmem
  · intro fd attachment hmem
    rw [hbroker, hattachments]
    split
    · rw [‹fd = subscriberFd›, hroutes.attachmentsOf_eq_nil (by simp [hfresh])] at hmem
      cases hmem
    · exact .inl hmem
  · rw [← hfinal, Session.broker_update, hregistered.others]

end DriveBus.ControlPlane
