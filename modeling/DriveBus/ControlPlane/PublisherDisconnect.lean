import DriveBus.ControlPlane.Slots

/-!
# A publisher disconnects

The handler walks the topic's subscriber list, in which a subscriber occurs as
often as it listed the topic, and each occurrence erases one attachment.  When
the list is done no attachment to the publisher is left, and its heap goes with
it.
-/

namespace DriveBus.ControlPlane

open DriveBus.Contract DriveBus.UnorderedMap

/-! ## The attachments to a disconnecting publisher -/

/-- The first attachment to the publisher is the one that is erased. -/
theorem eraseP_split {attachments : List SubscriberAttachment} {publisherFd : Fd}
    {attachment : SubscriberAttachment}
    (hfind : attachments.find? (·.publisherFd = publisherFd) = some attachment) :
    attachment.publisherFd = publisherFd ∧ ∃ before after,
      attachments = before ++ attachment :: after ∧
      attachments.eraseP (·.publisherFd = publisherFd) = before ++ after := by
  obtain ⟨heq, before, after, rfl, hbefore⟩ := List.find?_eq_some_iff_append.mp hfind
  have hpublisher : attachment.publisherFd = publisherFd := by simpa using heq
  refine ⟨hpublisher, before, after, rfl, ?_⟩
  rw [List.eraseP_append_right _ (by simpa using hbefore)]
  simp [hpublisher]

/-- What the loop over the topic's subscribers has done after some of them. -/
structure Detaching (start : Broker) (publisherFd : Fd) (done : List Fd)
    (session : Session) : Prop where
  peers : session.sent.map Prod.fst = done
  others : session.broker = { start with
    subscriberAttachmentsBySubscriberFd :=
      session.broker.subscriberAttachmentsBySubscriberFd }
  registered : ∀ fd,
    (session.broker.subscriberAttachmentsBySubscriberFd.lookup fd).isSome =
      (start.subscriberAttachmentsBySubscriberFd.lookup fd).isSome
  remaining : ∀ fd,
    (session.broker.attachmentsOf fd).countP (·.publisherFd = publisherFd) +
        done.count fd =
      (start.attachmentsOf fd).countP (·.publisherFd = publisherFd)
  kept : ∀ fd, (session.broker.attachmentsOf fd).filter (·.publisherFd ≠ publisherFd) =
    (start.attachmentsOf fd).filter (·.publisherFd ≠ publisherFd)
  subset : ∀ fd, session.broker.attachmentsOf fd ⊆ start.attachmentsOf fd
  notified : ∀ fd, ∀ attachment ∈ start.attachmentsOf fd,
    attachment ∈ session.broker.attachmentsOf fd ∨
      (fd, .publisherDisconnected attachment.attachmentId) ∈ session.sent
  untouched : ∀ fd ∉ done, session.broker.subscriberAttachmentsBySubscriberFd.lookup fd =
    start.subscriberAttachmentsBySubscriberFd.lookup fd

theorem Detaching.start {publisherFd : Fd} {session : Session} (hsent : session.sent = []) :
    Detaching session.broker publisherFd [] session :=
  ⟨by rw [hsent]; rfl, rfl, fun _ => rfl, fun _ => by simp, fun _ => rfl,
    fun _ => List.Subset.refl _, fun _ _ hmem => .inl hmem, fun _ _ => rfl⟩

/-- One iteration returns if the subscriber accepts its record and still has an attachment
to the publisher. -/
theorem detachSubscriber_detaches {env : Env} {start : Broker} {session : Session}
    {publisherFd subscriberFd : Fd} {done : List Fd}
    (hdetaching : Detaching start publisherFd done session) :
    Meets (detachSubscriber env publisherFd session subscriberFd)
      (fun after => env.accepts session.sent.length subscriberFd = true ∧
        Detaching start publisherFd (done ++ [subscriberFd]) after)
      fun reason => reason = .publisherDisconnectSend ∧
          env.accepts session.sent.length subscriberFd = false ∨
        (start.attachmentsOf subscriberFd).countP (·.publisherFd = publisherFd) ≤
          done.count subscriberFd := by
  have hgone : (session.broker.attachmentsOf subscriberFd).countP
      (·.publisherFd = publisherFd) = 0 →
        (start.attachmentsOf subscriberFd).countP (·.publisherFd = publisherFd) ≤
          done.count subscriberFd := fun hzero => by
    have hremaining := hdetaching.remaining subscriberFd
    omega
  refine Meets.bind (Meets.orStop (fun _ hfound => hfound) fun hmissing => .inr (hgone ?_))
    fun attachments hlookup => ?_
  · simp [Broker.attachmentsOf, hmissing]
  have hview : session.broker.attachmentsOf subscriberFd = attachments := by
    rw [Broker.attachmentsOf, hlookup, Option.getD_some]
  refine Meets.bind (Meets.orStop (fun _ hfound => hfound) fun hmissing => .inr (hgone ?_))
    fun attachment hfind => ?_
  · rw [hview, List.countP_eq_zero]
    exact List.find?_eq_none.mp hmissing
  obtain ⟨hpublisher, before, after, hattachments, herase⟩ := eraseP_split hfind
  refine Meets.bind ((Session.send_spec env session _ _ _).mono (fun _ => id)
    fun _ hrefused => .inl hrefused) ?_
  rintro _ ⟨haccepts, rfl⟩
  have hattachmentsOf : ∀ fd, ((session.broker.setAttachments subscriberFd
      (attachments.eraseP (·.publisherFd = publisherFd))).attachmentsOf fd) =
        if fd = subscriberFd then before ++ after else session.broker.attachmentsOf fd := by
    intro fd
    rw [Broker.attachmentsOf_setAttachments, herase]
  rw [hattachments] at hview
  refine .pure ⟨haccepts, ?_, ?_, ?_, ?_, ?_, ?_, ?_, ?_⟩
  · simp [hdetaching.peers]
  · exact congrArg (·.setAttachments subscriberFd
      (attachments.eraseP (·.publisherFd = publisherFd))) hdetaching.others
  · intro fd
    rw [← hdetaching.registered fd]
    simp only [Session.broker_update, Session.broker_close, Broker.setAttachments,
      lookup_insert]
    split
    · rw [‹fd = subscriberFd›, hlookup]
      rfl
    · rfl
  · intro fd
    rw [← hdetaching.remaining fd]
    simp only [Session.broker_update, Session.broker_close, hattachmentsOf,
      List.count_append]
    split
    · rw [‹fd = subscriberFd›, hview, List.countP_append, List.countP_append,
        List.countP_cons_of_pos (by simpa using hpublisher), List.count_singleton_self]
      omega
    · rw [List.count_singleton, if_neg (by simpa using Ne.symm ‹¬fd = subscriberFd›)]
      rfl
  · intro fd
    rw [← hdetaching.kept fd]
    simp only [Session.broker_update, Session.broker_close, hattachmentsOf]
    split
    · rw [‹fd = subscriberFd›, hview, List.filter_append, List.filter_append,
        List.filter_cons_of_neg (by simpa using hpublisher)]
    · rfl
  · intro fd
    simp only [Session.broker_update, Session.broker_close, hattachmentsOf]
    split
    · intro other hmem
      refine hdetaching.subset fd ?_
      rw [‹fd = subscriberFd›, hview]
      exact (List.mem_append.mp hmem).elim (List.mem_append_left _) fun hafter =>
        List.mem_append_right _ (List.mem_cons_of_mem _ hafter)
    · exact hdetaching.subset fd
  · intro fd other hmem
    simp only [Session.broker_update, Session.broker_close, hattachmentsOf,
      Session.sent_update, Session.sent_close]
    rcases hdetaching.notified fd other hmem with hstill | htold
    · by_cases hfd : fd = subscriberFd
      · subst hfd
        rw [hview] at hstill
        rw [if_pos rfl]
        by_cases heq : other = attachment
        · exact .inr (by simp [heq])
        · exact .inl (by simpa [heq] using hstill)
      · rw [if_neg hfd]
        exact .inl hstill
    · exact .inr (List.mem_append_left _ htold)
  · intro fd hnot
    rw [List.mem_append, List.mem_singleton, not_or] at hnot
    rw [← hdetaching.untouched fd hnot.1]
    exact AList.lookup_insert_ne hnot.2

theorem detachSubscriber_meets {env : Env} {firstId : ℕ} {start : Broker}
    {members : Members} {session : Session} {publisherFd subscriberFd : Fd}
    {topicId : TopicId} {done rest : List Fd} (hroutes : Routes start members)
    (htopic : members.topic publisherFd = some topicId)
    (hsplit : start.subscribersOf topicId = done ++ subscriberFd :: rest)
    (hdetaching : Detaching start publisherFd done session) :
    Meets (detachSubscriber env publisherFd session subscriberFd)
      (Detaching start publisherFd (done ++ [subscriberFd]))
      (Excused env firstId (start.subscribersOf topicId)) := by
  refine (detachSubscriber_detaches hdetaching).mono (fun _ hafter => hafter.2) ?_
  rintro reason (⟨rfl, hrefused⟩ | hgone)
  · exact Session.excused_of_refused rfl (by rw [hsplit, hdetaching.peers]) hrefused
  · have hcount : (start.attachmentsOf subscriberFd).countP (·.publisherFd = publisherFd) =
        (done ++ subscriberFd :: rest).count subscriberFd := by
      rw [hroutes.attached, Members.matching, htopic, ← hsplit, hroutes.subscribers]
      rfl
    rw [hcount, List.count_append, List.count_cons_self] at hgone
    omega

/-! ## A publisher leaves -/

theorem Routes.lookup_publishers {broker : Broker} {members : Members}
    (hroutes : Routes broker members) {topicId : TopicId} {publisherFd : Fd}
    (htopic : members.topic publisherFd = some topicId) :
    broker.publisherFdsByTopicId.lookup topicId = some (broker.publishersOf topicId) := by
  have hmem := hroutes.mem_publishersOf.mpr htopic
  rw [Broker.publishersOf] at hmem ⊢
  cases hlookup : broker.publisherFdsByTopicId.lookup topicId with
  | none => simp [hlookup] at hmem
  | some publishers => rfl

/-- The search over all topics finds the one the publisher registered. -/
theorem Routes.findPublisherTopic_eq {broker : Broker} {members : Members}
    (hroutes : Routes broker members) {topicId : TopicId} {publisherFd : Fd}
    (htopic : members.topic publisherFd = some topicId) :
    findPublisherTopic broker publisherFd =
      some (topicId, broker.publishersOf topicId) := by
  have hlookup := hroutes.lookup_publishers htopic
  have hentry : (⟨topicId, broker.publishersOf topicId⟩ : Sigma fun _ => List Fd) ∈
      broker.publisherFdsByTopicId.entries := AList.mem_lookup_iff.mp hlookup
  have hisSome : (broker.publisherFdsByTopicId.entries.find? fun entry =>
      publisherFd ∈ entry.2).isSome :=
    List.find?_isSome.mpr
      ⟨_, hentry, decide_eq_true (hroutes.mem_publishersOf.mpr htopic)⟩
  obtain ⟨entry, hfind⟩ := Option.isSome_iff_exists.mp hisSome
  -- Only the registered topic lists the publisher.
  have hfound : broker.publisherFdsByTopicId.lookup entry.1 = some entry.2 :=
    AList.mem_lookup_iff.mpr (List.mem_of_find?_eq_some hfind)
  have hmem : publisherFd ∈ broker.publishersOf entry.1 := by
    rw [Broker.publishersOf, hfound]
    simpa using List.find?_some hfind
  have hkey : entry.1 = topicId :=
    Option.some.inj ((hroutes.mem_publishersOf.mp hmem).symm.trans htopic)
  rw [findPublisherTopic, hfind, Option.map_some, hkey]
  rw [hkey, hlookup] at hfound
  rw [Option.some.inj hfound]

/-- Without the publisher's entries and without any attachment to it, the maps
describe the membership without it. -/
theorem Routes.leave_publisher {start after : Broker} {members : Members}
    (hroutes : Routes start members) {publisherFd : Fd} {topicId : TopicId}
    (hmember : members publisherFd = some (.publisher topicId))
    (hothers : after = { start with
      availableSubscriberSlotsByTopicIdAndPublisherFd :=
        after.availableSubscriberSlotsByTopicIdAndPublisherFd
      subscriberAttachmentsBySubscriberFd := after.subscriberAttachmentsBySubscriberFd
      roleByFd := start.roleByFd.erase publisherFd
      shmFdByPublisherFd := start.shmFdByPublisherFd.erase publisherFd
      spaceEventFdByPublisherFd := start.spaceEventFdByPublisherFd.erase publisherFd
      publisherFdsByTopicId := after.publisherFdsByTopicId })
    (hfree : ∀ other fd, after.freeSlots other fd =
      if fd = publisherFd then none else start.freeSlots other fd)
    (hpublishers : ∀ other fd, (after.publishersOf other).count fd =
      if fd = publisherFd then 0 else (start.publishersOf other).count fd)
    (hne : ∀ other, after.publisherFdsByTopicId.lookup other ≠ some [])
    (hregistered : ∀ fd, (after.subscriberAttachmentsBySubscriberFd.lookup fd).isSome =
      (start.subscriberAttachmentsBySubscriberFd.lookup fd).isSome)
    (hgone : ∀ fd, (after.attachmentsOf fd).countP (·.publisherFd = publisherFd) = 0)
    (hkept : ∀ fd, (after.attachmentsOf fd).filter (·.publisherFd ≠ publisherFd) =
      (start.attachmentsOf fd).filter (·.publisherFd ≠ publisherFd))
    (hsubset : ∀ fd, after.attachmentsOf fd ⊆ start.attachmentsOf fd) :
    Routes after (members.leave publisherFd) := by
  have htopics : (members.leave publisherFd).topics = members.topics := by
    funext fd
    rw [Members.topics_leave]
    split
    · simp [Members.topics, ‹fd = publisherFd›, hmember, Member.topicIds]
    · rfl
  have hsubscriber : ∀ fd, ((members.leave publisherFd) fd).bind Member.topicIds =
      (members fd).bind Member.topicIds := by
    intro fd
    simp only [Members.leave, Function.update_apply]
    split
    · simp [‹fd = publisherFd›, hmember, Member.topicIds]
    · rfl
  have hfilter : ∀ other, other ≠ publisherFd → ∀ fd,
      (after.attachmentsOf fd).filter (·.publisherFd = other) =
        (start.attachmentsOf fd).filter (·.publisherFd = other) := by
    intro other hother fd
    have hfilters := congrArg (List.filter (·.publisherFd = other)) (hkept fd)
    rw [List.filter_filter, List.filter_filter] at hfilters
    have hpred : ∀ attachment : SubscriberAttachment,
        (decide (attachment.publisherFd = other) &&
          decide (attachment.publisherFd ≠ publisherFd)) =
          decide (attachment.publisherFd = other) := by
      intro attachment
      by_cases heq : attachment.publisherFd = other <;> simp [heq, hother]
    simpa only [hpred] using hfilters
  have hne_of_mem : ∀ fd, ∀ attachment ∈ after.attachmentsOf fd,
      attachment.publisherFd ≠ publisherFd := by
    intro fd attachment hmem heq
    exact absurd (List.countP_eq_zero.mp (hgone fd) attachment hmem) (by simp [heq])
  constructor
  case role =>
    intro fd
    rw [hothers]
    simp only [lookup_erase, hroutes.role, Members.leave, Function.update_apply]
    split <;> rfl
  case topicIds =>
    intro fd
    rw [hsubscriber, ← hroutes.topicIds, hothers]
  case attachments =>
    intro fd
    rw [hsubscriber, hregistered, hroutes.attachments]
  case shmFd =>
    intro fd
    rw [Members.topic_leave, hothers]
    simp only [lookup_erase]
    split
    · rfl
    · exact hroutes.shmFd fd
  case spaceEventFd =>
    intro fd
    rw [Members.topic_leave, hothers]
    simp only [lookup_erase]
    split
    · rfl
    · exact hroutes.spaceEventFd fd
  case publishers =>
    intro other fd
    rw [hpublishers, Members.topic_leave, hroutes.publishers]
    split <;> simp
  case publishers_ne_nil => exact hne
  case freeSlots =>
    intro other fd
    rw [hfree, Members.topic_leave]
    split
    · rfl
    · exact hroutes.freeSlots other fd
  case subscribers =>
    intro other fd
    rw [htopics, ← hroutes.subscribers, Broker.subscribersOf, hothers]
    rfl
  case attached =>
    intro fd other
    rw [Members.matching, htopics, Members.topic_leave]
    split
    · rw [‹other = publisherFd›, hgone]
      rfl
    · rw [List.countP_eq_length_filter, hfilter other ‹_›, ← List.countP_eq_length_filter]
      exact hroutes.attached fd other
  case attachedTopic =>
    intro fd attachment hmem
    rw [Members.topic_leave, if_neg (hne_of_mem fd attachment hmem)]
    exact hroutes.attachedTopic fd attachment (hsubset fd hmem)
  case slots =>
    intro other fd heap hheap
    rw [hfree] at hheap
    split at hheap
    · cases hheap
    · rw [← hroutes.slots other fd heap hheap]
      congr 1
      refine occupiedSlots_congr fun subscriberFd => ?_
      rw [heldSlots, hfilter fd ‹_›, heldSlots]

/-- Erasing a publisher's heap, and the topic's map once it is empty. -/
theorem freeSlots_erase {start after : Broker} {topicId : TopicId} {publisherFd : Fd}
    {slotsByPublisherFd : Map Fd SlotHeap}
    (hlookup : start.availableSubscriberSlotsByTopicIdAndPublisherFd.lookup topicId =
      some slotsByPublisherFd)
    (hafter : after.availableSubscriberSlotsByTopicIdAndPublisherFd =
      if (slotsByPublisherFd.erase publisherFd).entries = [] then
        start.availableSubscriberSlotsByTopicIdAndPublisherFd.erase topicId
      else start.availableSubscriberSlotsByTopicIdAndPublisherFd.insert topicId
        (slotsByPublisherFd.erase publisherFd)) (other : TopicId) (fd : Fd) :
    after.freeSlots other fd =
      if other = topicId ∧ fd = publisherFd then none else start.freeSlots other fd := by
  have herased : (slotsByPublisherFd.erase publisherFd).lookup fd =
      if fd = publisherFd then none else start.freeSlots topicId fd := by
    rw [lookup_erase, Broker.freeSlots, hlookup, Option.bind_some]
  rw [Broker.freeSlots, hafter]
  split
  · -- An empty map has no heap to look up.
    have hempty : (slotsByPublisherFd.erase publisherFd).lookup fd = none := by
      rw [AList.lookup, ‹(slotsByPublisherFd.erase publisherFd).entries = []›]
      rfl
    rw [lookup_erase]
    by_cases htopic : other = topicId
    · subst htopic
      rw [hempty] at herased
      simpa using herased
    · simp [htopic, Broker.freeSlots]
  · rw [lookup_insert]
    by_cases htopic : other = topicId
    · subst htopic
      simpa using herased
    · simp [htopic, Broker.freeSlots]

/-- Erasing a publisher from its topic's list, and the list once it is empty. -/
theorem lookup_publishers_erase {start after : Broker} {topicId : TopicId}
    {publisherFd : Fd}
    (hafter : after.publisherFdsByTopicId =
      if (start.publishersOf topicId).erase publisherFd = [] then
        start.publisherFdsByTopicId.erase topicId
      else start.publisherFdsByTopicId.insert topicId
        ((start.publishersOf topicId).erase publisherFd)) (other : TopicId) :
    after.publisherFdsByTopicId.lookup other =
      if other = topicId then
        if (start.publishersOf topicId).erase publisherFd = [] then none
        else some ((start.publishersOf topicId).erase publisherFd)
      else start.publisherFdsByTopicId.lookup other := by
  rw [hafter]
  split
  · rw [lookup_erase]
  · rw [lookup_insert]

theorem publishersOf_erase {start after : Broker} {topicId : TopicId} {publisherFd : Fd}
    (hlookup : ∀ other, after.publisherFdsByTopicId.lookup other =
      if other = topicId then
        if (start.publishersOf topicId).erase publisherFd = [] then none
        else some ((start.publishersOf topicId).erase publisherFd)
      else start.publisherFdsByTopicId.lookup other) (other : TopicId) :
    after.publishersOf other =
      if other = topicId then (start.publishersOf topicId).erase publisherFd
      else start.publishersOf other := by
  rw [Broker.publishersOf, hlookup]
  split
  · split
    · exact ‹_ = []›.symm
    · rfl
  · rfl

theorem Routes.count_publishers_erase {start after : Broker} {members : Members}
    (hroutes : Routes start members) {topicId : TopicId} {publisherFd : Fd}
    (htopic : members.topic publisherFd = some topicId)
    (hlookup : ∀ other, after.publisherFdsByTopicId.lookup other =
      if other = topicId then
        if (start.publishersOf topicId).erase publisherFd = [] then none
        else some ((start.publishersOf topicId).erase publisherFd)
      else start.publisherFdsByTopicId.lookup other) (other : TopicId) (fd : Fd) :
    (after.publishersOf other).count fd =
      if fd = publisherFd then 0 else (start.publishersOf other).count fd := by
  rw [publishersOf_erase hlookup]
  by_cases hother : other = topicId
  · subst hother
    rw [if_pos rfl]
    split
    · rw [‹fd = publisherFd›, List.count_erase_self, hroutes.publishers, htopic, if_pos rfl]
    · exact List.count_erase_of_ne ‹_›
  · rw [if_neg hother]
    split
    · rw [hroutes.publishers, ‹fd = publisherFd›, htopic, if_neg]
      exact fun heq => hother (Option.some.inj heq).symm
    · rfl

/-- The contract of `handle_publisher_disconnect`. -/
theorem handlePublisherDisconnect_meets {env : Env} {firstId : ℕ}
    {members : Members} {session : Session} {publisherFd : Fd} {topicId : TopicId}
    (hroutes : Routes session.broker members) (hsent : session.sent = [])
    (hmember : members publisherFd = some (.publisher topicId)) :
    Meets (handlePublisherDisconnect env publisherFd session)
      (Settled session.broker publisherFd (members.leave publisherFd))
      (Excused env firstId (session.broker.subscribersOf topicId)) := by
  have htopic : members.topic publisherFd = some topicId := by
    simp [Members.topic, hmember, Member.topicId]
  obtain ⟨shmFd, hshmFd⟩ : ∃ shmFd,
      session.broker.shmFdByPublisherFd.lookup publisherFd = some shmFd :=
    Option.isSome_iff_exists.mp (by rw [hroutes.shmFd, htopic]; rfl)
  obtain ⟨spaceEventFd, hspaceEventFd⟩ : ∃ spaceEventFd,
      session.broker.spaceEventFdByPublisherFd.lookup publisherFd = some spaceEventFd :=
    Option.isSome_iff_exists.mp (by rw [hroutes.spaceEventFd, htopic]; rfl)
  obtain ⟨heap, hheap⟩ := hroutes.freeSlots_of_topic htopic
  obtain ⟨slotsByPublisherFd, hslots, hlookup⟩ := Broker.freeSlots_eq_some.mp hheap
  refine (Meets.orStop_some hshmFd).bind ?_
  rintro shmFd rfl
  refine (Meets.orStop_some (hroutes.findPublisherTopic_eq htopic)).bind ?_
  rintro _ rfl
  refine (Meets.orStop_some hslots).bind ?_
  rintro slotsByPublisherFd rfl
  refine (Meets.orStop_some hlookup).bind ?_
  rintro heap rfl
  refine (Meets.foldlM (Detaching session.broker publisherFd) ?_ ?_).bind ?_
  · exact .start hsent
  · intro done subscriberFd rest detached hsplit hdetaching
    exact detachSubscriber_meets hroutes htopic hsplit hdetaching
  intro detached hdetached
  refine (Meets.orStop_some (α := Fd) (by
    rw [Session.broker_update, Session.broker_close, hdetached.others]
    exact hspaceEventFd)).bind ?_
  rintro spaceEventFd rfl
  refine .pure ?_
  generalize hfinal : Session.close _ publisherFd = final
  generalize hbroker : final.broker = after
  have hsent' : final.sent = detached.sent := by
    rw [← hfinal]
    rfl
  have hmap : after.subscriberAttachmentsBySubscriberFd =
      detached.broker.subscriberAttachmentsBySubscriberFd := by
    rw [← hbroker, ← hfinal]
    rfl
  have hattachments : ∀ fd, after.attachmentsOf fd = detached.broker.attachmentsOf fd :=
    fun fd => by rw [Broker.attachmentsOf, hmap, Broker.attachmentsOf]
  have hothers : after = { session.broker with
      availableSubscriberSlotsByTopicIdAndPublisherFd :=
        after.availableSubscriberSlotsByTopicIdAndPublisherFd
      subscriberAttachmentsBySubscriberFd := after.subscriberAttachmentsBySubscriberFd
      roleByFd := session.broker.roleByFd.erase publisherFd
      shmFdByPublisherFd := session.broker.shmFdByPublisherFd.erase publisherFd
      spaceEventFdByPublisherFd :=
        session.broker.spaceEventFdByPublisherFd.erase publisherFd
      publisherFdsByTopicId := after.publisherFdsByTopicId } := by
    rw [← hbroker, ← hfinal]
    simp only [Session.broker_close, Session.broker_update]
    rw [hdetached.others]
  have hheaps : ∀ other fd, after.freeSlots other fd =
      if other = topicId ∧ fd = publisherFd then none
      else session.broker.freeSlots other fd := by
    refine freeSlots_erase hslots ?_
    rw [← hbroker, ← hfinal]
    simp only [Session.broker_close, Session.broker_update]
    rw [hdetached.others]
  have hpublisherMap : after.publisherFdsByTopicId =
      if (session.broker.publishersOf topicId).erase publisherFd = [] then
        session.broker.publisherFdsByTopicId.erase topicId
      else session.broker.publisherFdsByTopicId.insert topicId
        ((session.broker.publishersOf topicId).erase publisherFd) := by
    rw [← hbroker, ← hfinal]
    simp only [Session.broker_close, Session.broker_update]
    rw [hdetached.others]
  have hlists := lookup_publishers_erase hpublisherMap
  refine ⟨hbroker ▸ ?_, ⟨?_, ?_⟩, ?_⟩
  · refine hroutes.leave_publisher hmember hothers ?_ ?_ ?_ ?_ ?_ ?_ ?_
    · intro other fd
      rw [hheaps]
      by_cases hfd : fd = publisherFd
      · subst hfd
        by_cases hother : other = topicId
        · simp [hother]
        · have hnone := hroutes.freeSlots other fd
          rw [htopic] at hnone
          simpa [hother, Ne.symm hother] using hnone
      · simp [hfd]
    · intro other fd
      exact hroutes.count_publishers_erase htopic hlists other fd
    · intro other
      rw [hlists]
      split_ifs with hother hempty
      · rintro ⟨⟩
      · exact fun heq => hempty (Option.some.inj heq)
      · exact hroutes.publishers_ne_nil other
    · intro fd
      rw [hmap, hdetached.registered]
    · intro fd
      have hremaining := hdetached.remaining fd
      rw [hroutes.attached, Members.matching, htopic, hroutes.subscribers] at hremaining
      rw [hattachments]
      simpa using hremaining
    · intro fd
      rw [hattachments, hdetached.kept]
    · intro fd
      rw [hattachments]
      exact hdetached.subset fd
  · intro fd attachment hmem
    rw [hbroker, hattachments] at hmem
    exact .inl (hdetached.subset fd hmem)
  · intro fd attachment hmem
    rw [hbroker, hattachments, hsent']
    refine (hdetached.notified fd attachment hmem).imp_right fun htold => ?_
    have hne : fd ≠ publisherFd := by
      rintro rfl
      rw [hroutes.attachmentsOf_eq_nil (by simp [hmember, Member.topicIds])] at hmem
      cases hmem
    rw [if_neg hne]
    exact htold
  · rw [hbroker, hothers]

end DriveBus.ControlPlane
