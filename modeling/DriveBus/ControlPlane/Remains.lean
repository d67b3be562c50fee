import DriveBus.ControlPlane.PublisherDisconnect
import DriveBus.ControlPlane.SubscriberDisconnect

/-!
# Removing whatever is there

The disconnect handlers in any state of the maps: the entries that each of them looks up
decide whether it returns, and it changes the entries of no other client than the ones it
tells.
-/

namespace DriveBus.ControlPlane

open DriveBus.Contract DriveBus.UnorderedMap

/-! ## The entries of one client -/

/-- Nothing of a client has changed. -/
structure SameRows (before after : Broker) (client : Fd) : Prop where
  role : after.roleByFd.lookup client = before.roleByFd.lookup client
  topicIds : after.topicIdsBySubscriberFd.lookup client =
    before.topicIdsBySubscriberFd.lookup client
  attachments : after.subscriberAttachmentsBySubscriberFd.lookup client =
    before.subscriberAttachmentsBySubscriberFd.lookup client
  shmFd : after.shmFdByPublisherFd.lookup client = before.shmFdByPublisherFd.lookup client
  spaceEventFd : after.spaceEventFdByPublisherFd.lookup client =
    before.spaceEventFdByPublisherFd.lookup client
  slots : ∀ topicId, after.freeSlots topicId client = before.freeSlots topicId client
  subscriptions : ∀ topicId,
    (after.subscribersOf topicId).count client = (before.subscribersOf topicId).count client
  publications : ∀ topicId,
    (after.publishersOf topicId).count client = (before.publishersOf topicId).count client

/-! ## A subscriber that has left its entries behind -/

/-- What removing a subscriber looks up is there, and the records it owes are accepted. -/
structure SubscriberRows (env : Env) (broker : Broker) (fd : Fd)
    (held : List SubscriberAttachment) (topics : List TopicId) : Prop where
  attachments : broker.subscriberAttachmentsBySubscriberFd.lookup fd = some held
  topicIds : broker.topicIdsBySubscriberFd.lookup fd = some topics
  accepted : ∀ index attachment, held[index]? = some attachment →
    env.accepts index attachment.publisherFd = true
  slots : ∀ attachment ∈ held,
    (broker.freeSlots attachment.topicId attachment.publisherFd).isSome
  listed : ∀ topicId, topics.count topicId ≤ (broker.subscribersOf topicId).count fd

theorem SlotHeap.size_push (heap : SlotHeap) (slot : ℕ) : (heap.push slot).size = heap.size + 1 :=
  List.orderedInsert_length _ _ _

/-- What the loop over the attachments has done after some of them, in any state. -/
structure Freeing (env : Env) (start : Broker) (done : List SubscriberAttachment)
    (session : Session) : Prop where
  sent : session.sent.length = done.length
  others : session.broker = { start with
    availableSubscriberSlotsByTopicIdAndPublisherFd :=
      session.broker.availableSubscriberSlotsByTopicIdAndPublisherFd }
  accepted : ∀ index attachment, done[index]? = some attachment →
    env.accepts index attachment.publisherFd = true
  found : ∀ attachment ∈ done,
    (start.freeSlots attachment.topicId attachment.publisherFd).isSome
  sizes : ∀ topicId publisherFd,
    (session.broker.freeSlots topicId publisherFd).map SlotHeap.size =
      (start.freeSlots topicId publisherFd).map fun heap => heap.size +
        done.countP fun attachment =>
          attachment.topicId = topicId ∧ attachment.publisherFd = publisherFd
  untouched : ∀ topicId publisherFd, publisherFd ∉ done.map (·.publisherFd) →
    session.broker.freeSlots topicId publisherFd = start.freeSlots topicId publisherFd

theorem Freeing.start (env : Env) (broker : Broker) :
    Freeing env broker [] (.start broker) where
  sent := rfl
  others := rfl
  accepted _ _ hattachment := by simp at hattachment
  found _ hmem := by cases hmem
  sizes _ _ := by simp [Session.start]
  untouched _ _ _ := rfl

theorem getElem?_concat_eq_some {α : Type*} {items : List α} {item found : α} {index : ℕ}
    (hfound : (items ++ [item])[index]? = some found) :
    items[index]? = some found ∨ index = items.length ∧ found = item := by
  rw [List.getElem?_append] at hfound
  split at hfound
  · exact .inl hfound
  · right
    have hindex : index - items.length = 0 := by
      by_contra hne
      rw [List.getElem?_eq_none (by simp; omega)] at hfound
      cases hfound
    rw [hindex] at hfound
    exact ⟨by omega, (Option.some.inj hfound).symm⟩

theorem Freeing.next {env : Env} {start : Broker} {session : Session}
    {done : List SubscriberAttachment} (hfreeing : Freeing env start done session)
    (attachment : SubscriberAttachment) :
    Meets (releaseAttachment env session attachment)
      (Freeing env start (done ++ [attachment]))
      fun _ => ¬(env.accepts done.length attachment.publisherFd = true ∧
        (start.freeSlots attachment.topicId attachment.publisherFd).isSome) := by
  have hsizes := hfreeing.sizes attachment.topicId attachment.publisherFd
  refine (releaseAttachment_spec env session attachment).mono ?_ ?_
  · rintro _ ⟨haccepts, heap, hheap, rfl⟩
    rw [hfreeing.sent] at haccepts
    rw [hheap] at hsizes
    obtain ⟨heapStart, hstart, hsize⟩ := Option.map_eq_some_iff.mp hsizes.symm
    refine ⟨by simp [Session.release, hfreeing.sent],
      congrArg (·.setFreeSlots attachment.topicId attachment.publisherFd
        (heap.push attachment.slotIndex)) hfreeing.others,
      fun index found hfound => ?_, fun found hmem => ?_, fun topicId publisherFd => ?_,
      fun topicId publisherFd hnot => ?_⟩
    · obtain hold | ⟨rfl, rfl⟩ := getElem?_concat_eq_some hfound
      · exact hfreeing.accepted index found hold
      · exact haccepts
    · rcases List.mem_append.mp hmem with hold | hnew
      · exact hfreeing.found found hold
      · rw [List.mem_singleton.mp hnew, hstart]
        rfl
    · simp only [Session.release, Session.broker_close, Session.broker_update,
        Broker.freeSlots_setFreeSlots, List.countP_append, List.countP_singleton]
      by_cases hsame : topicId = attachment.topicId ∧ publisherFd = attachment.publisherFd
      · obtain ⟨rfl, rfl⟩ := hsame
        simp only [and_self, if_true, hstart, Option.map_some, SlotHeap.size_push,
          decide_true, Option.some.injEq]
        omega
      · have hother : ¬(attachment.topicId = topicId ∧ attachment.publisherFd = publisherFd) :=
          fun heq => hsame ⟨heq.1.symm, heq.2.symm⟩
        simp only [hsame, if_false, hother, decide_false, Bool.false_eq_true, add_zero]
        exact hfreeing.sizes topicId publisherFd
    · rw [List.map_append, List.mem_append, List.map_singleton, List.mem_singleton,
        not_or] at hnot
      simp only [Session.release, Session.broker_close, Session.broker_update,
        Broker.freeSlots_setFreeSlots, hnot.2, and_false, if_false]
      exact hfreeing.untouched topicId publisherFd hnot.1
  · rintro reason (⟨-, hrefused⟩ | hmissing) ⟨haccepts, hfound⟩
    · rw [hfreeing.sent, haccepts] at hrefused
      cases hrefused
    · rw [hmissing, Option.map_none] at hsizes
      rw [Option.map_eq_none_iff.mp hsizes.symm] at hfound
      cases hfound

/-- A heap that a slot came back to is another one. -/
theorem Freeing.changed {env : Env} {start : Broker} {session : Session}
    {done : List SubscriberAttachment} (hfreeing : Freeing env start done session)
    {attachment : SubscriberAttachment} (hmem : attachment ∈ done) :
    session.broker.freeSlots attachment.topicId attachment.publisherFd ≠
      start.freeSlots attachment.topicId attachment.publisherFd := by
  intro heq
  obtain ⟨heap, hheap⟩ := Option.isSome_iff_exists.mp (hfreeing.found attachment hmem)
  have hsize := hfreeing.sizes attachment.topicId attachment.publisherFd
  rw [heq, hheap, Option.map_some, Option.map_some, Option.some.injEq] at hsize
  have hcounted : 0 < done.countP fun other =>
      other.topicId = attachment.topicId ∧ other.publisherFd = attachment.publisherFd :=
    List.countP_pos_iff.mpr ⟨attachment, hmem, by simp⟩
  omega

/-- The entries after a subscriber has been removed. -/
structure Unsubscribed (before : Broker) (fd : Fd) (held : List SubscriberAttachment)
    (after : Broker) : Prop where
  others : ∀ client, client ≠ fd → client ∉ held.map (·.publisherFd) →
    SameRows before after client
  changed : ∀ attachment ∈ held, ¬SameRows before after attachment.publisherFd

/-- The handler returns if the subscriber's entries are complete. -/
theorem handleSubsciberDisconect_rows (env : Env) (fd : Fd) (broker : Broker) :
    Meets (handleSubsciberDisconect env fd (.start broker))
      (fun after => ∃ held topics, SubscriberRows env broker fd held topics ∧
        Unsubscribed broker fd held after.broker)
      fun _ => ∀ held topics, ¬SubscriberRows env broker fd held topics := by
  refine Meets.bind (Meets.orStop (fun _ hfound => hfound) fun hmissing held topics hrows => ?_)
    fun held hheld => ?_
  · have hattachments := hrows.attachments
    rw [show broker.subscriberAttachmentsBySubscriberFd.lookup fd = none from hmissing]
      at hattachments
    cases hattachments
  refine Meets.bind (Meets.orStop (fun _ hfound => hfound) fun hmissing held topics hrows => ?_)
    fun topics htopics => ?_
  · have htopicIds := hrows.topicIds
    rw [show broker.topicIdsBySubscriberFd.lookup fd = none from hmissing] at htopicIds
    cases htopicIds
  -- Only these lists can be the subscriber's.
  have hunique : ∀ {held' topics'}, SubscriberRows env broker fd held' topics' →
      held' = held ∧ topics' = topics := fun hrows =>
    ⟨Option.some.inj (hrows.attachments.symm.trans hheld),
      Option.some.inj (hrows.topicIds.symm.trans htopics)⟩
  refine Meets.bind (Meets.foldlM (Freeing env broker) (.start env broker) ?_)
    fun released hreleased => ?_
  · intro done attachment rest session hsplit hfreeing
    refine (hfreeing.next attachment).mono (fun _ => id) fun _ hstopped held' topics' hrows => ?_
    obtain ⟨rfl, rfl⟩ := hunique hrows
    exact hstopped ⟨hrows.accepted done.length attachment (by simp [hsplit]),
      hrows.slots attachment (by simp [hsplit])⟩
  refine Meets.bind (Meets.foldlM (Dropping { released.broker with
    subscriberAttachmentsBySubscriberFd :=
      released.broker.subscriberAttachmentsBySubscriberFd.erase fd
    roleByFd := released.broker.roleByFd.erase fd } fd) ⟨rfl, fun _ _ => by simp⟩ ?_)
    fun dropped hdropped => ?_
  · intro done topicId rest current hsplit hdropping
    refine (dropTopicSubscriber_drops hdropping).mono (fun _ => id)
      fun _ hgone held' topics' hrows => ?_
    obtain ⟨rfl, rfl⟩ := hunique hrows
    have hlisted := hrows.listed topicId
    have hsame : (({ released.broker with
        subscriberAttachmentsBySubscriberFd :=
          released.broker.subscriberAttachmentsBySubscriberFd.erase fd
        roleByFd := released.broker.roleByFd.erase fd } : Broker).subscribersOf topicId) =
          broker.subscribersOf topicId := by
      rw [Broker.subscribersOf, hreleased.others]
      rfl
    rw [hsame] at hgone
    rw [hsplit, List.count_append, List.count_cons_self] at hlisted
    omega
  have hcounts : ∀ topicId client, (dropped.subscribersOf topicId).count client +
      (if client = fd then topics.count topicId else 0) =
        (broker.subscribersOf topicId).count client := fun topicId client => by
    refine (hdropped.dropped topicId client).trans ?_
    rw [Broker.subscribersOf, hreleased.others]
    rfl
  have hslots : ∀ topicId client, dropped.freeSlots topicId client =
      released.broker.freeSlots topicId client := fun topicId client => by
    rw [Broker.freeSlots, hdropped.others]
    rfl
  refine .pure ⟨held, topics, ⟨hheld, htopics, hreleased.accepted, hreleased.found,
    fun topicId => ?_⟩, fun client hclient hnot => ?_, fun attachment hmem hsame => ?_⟩
  · have hcount := hcounts topicId fd
    rw [if_pos rfl] at hcount
    omega
  · simp only [Session.broker_close, Session.broker_update]
    refine ⟨?_, ?_, ?_, ?_, ?_, fun topicId => ?_, fun topicId => ?_, fun topicId => ?_⟩
    · rw [hdropped.others, hreleased.others]
      exact AList.lookup_erase_ne hclient
    · rw [hdropped.others, hreleased.others]
      exact AList.lookup_erase_ne hclient
    · rw [hdropped.others, hreleased.others]
      exact AList.lookup_erase_ne hclient
    · rw [hdropped.others, hreleased.others]
    · rw [hdropped.others, hreleased.others]
    · exact (hslots topicId client).trans (hreleased.untouched topicId client hnot)
    · have hcount := hcounts topicId client
      rw [if_neg hclient, Nat.add_zero] at hcount
      exact hcount
    · rw [Broker.publishersOf, hdropped.others, hreleased.others]
      rfl
  · refine hreleased.changed hmem ?_
    rw [← hslots, ← hsame.slots attachment.topicId]
    rfl

/-! ## A publisher that has left its entries behind -/

/-- What removing a publisher looks up is there, and the records it owes are accepted. -/
structure PublisherRows (env : Env) (broker : Broker) (fd : Fd) (topicId : TopicId) :
    Prop where
  shmFd : (broker.shmFdByPublisherFd.lookup fd).isSome
  topic : (findPublisherTopic broker fd).map Prod.fst = some topicId
  slots : (broker.freeSlots topicId fd).isSome
  accepted : ∀ index subscriberFd, (broker.subscribersOf topicId)[index]? = some subscriberFd →
    env.accepts index subscriberFd = true
  attached : ∀ subscriberFd, (broker.subscribersOf topicId).count subscriberFd ≤
    (broker.attachmentsOf subscriberFd).countP (·.publisherFd = fd)
  spaceEventFd : (broker.spaceEventFdByPublisherFd.lookup fd).isSome

/-- The entries after a publisher has been removed. -/
structure Unpublished (before : Broker) (fd : Fd) (subscribers : List Fd) (after : Broker) :
    Prop where
  others : ∀ client, client ≠ fd → client ∉ subscribers → SameRows before after client
  changed : ∀ subscriberFd ∈ subscribers, ¬SameRows before after subscriberFd

/-- The search finds a topic and its list. -/
theorem publishersOf_of_findPublisherTopic {broker : Broker} {fd : Fd} {topicId : TopicId}
    {publishers : List Fd} (hfind : findPublisherTopic broker fd = some (topicId, publishers)) :
    broker.publishersOf topicId = publishers := by
  obtain ⟨entry, hentry, heq⟩ := Option.map_eq_some_iff.mp hfind
  obtain ⟨rfl, rfl⟩ := Prod.mk.inj heq
  have hlookup : broker.publisherFdsByTopicId.lookup entry.1 = some entry.2 :=
    AList.mem_lookup_iff.mpr (List.mem_of_find?_eq_some hentry)
  rw [Broker.publishersOf, hlookup, Option.getD_some]

/-- The lists of publishers keep everybody else. -/
theorem count_publishers_erase_of_ne {start after : Broker} {fd client : Fd}
    {topicId : TopicId} {publishers : List Fd} (hlist : start.publishersOf topicId = publishers)
    (hclient : client ≠ fd)
    (hafter : after.publisherFdsByTopicId =
      if publishers.erase fd = [] then start.publisherFdsByTopicId.erase topicId
      else start.publisherFdsByTopicId.insert topicId (publishers.erase fd))
    (other : TopicId) :
    (after.publishersOf other).count client = (start.publishersOf other).count client := by
  subst hlist
  rw [publishersOf_erase (lookup_publishers_erase hafter) other]
  split
  next heq => rw [List.count_erase_of_ne hclient, heq]
  next => rfl

/-- The handler returns if the publisher's entries are complete. -/
theorem handlePublisherDisconnect_rows (env : Env) (fd : Fd) (broker : Broker) :
    Meets (handlePublisherDisconnect env fd (.start broker))
      (fun after => ∃ topicId, PublisherRows env broker fd topicId ∧
        Unpublished broker fd (broker.subscribersOf topicId) after.broker)
      fun _ => ∀ topicId, ¬PublisherRows env broker fd topicId := by
  refine Meets.bind (Meets.orStop (fun _ hfound => hfound) fun hmissing topicId hrows => ?_)
    fun shmFd hshmFd => ?_
  · have hfound := hrows.shmFd
    rw [show broker.shmFdByPublisherFd.lookup fd = none from hmissing] at hfound
    cases hfound
  refine Meets.bind (Meets.orStop (fun _ hfound => hfound) fun hmissing topicId hrows => ?_) ?_
  · have hfound := hrows.topic
    rw [show findPublisherTopic broker fd = none from hmissing] at hfound
    cases hfound
  rintro ⟨topicId, publishers⟩ hfind
  replace hfind : findPublisherTopic broker fd = some (topicId, publishers) := hfind
  have hunique : ∀ {topicId'}, PublisherRows env broker fd topicId' → topicId' = topicId :=
    fun hrows => by
      have htopic := hrows.topic
      rw [hfind] at htopic
      exact (Option.some.inj htopic).symm
  refine Meets.bind (Meets.orStop (fun _ hfound => hfound) fun hmissing topicId' hrows => ?_)
    fun slotsByPublisherFd hslots => ?_
  · obtain rfl := hunique hrows
    obtain ⟨heap, hheap⟩ := Option.isSome_iff_exists.mp hrows.slots
    obtain ⟨slotsByPublisherFd, hslots, -⟩ := Broker.freeSlots_eq_some.mp hheap
    cases hmissing.symm.trans hslots
  refine Meets.bind (Meets.orStop (fun _ hfound => hfound) fun hmissing topicId' hrows => ?_)
    fun heap hheap => ?_
  · obtain rfl := hunique hrows
    obtain ⟨heap, hheap⟩ := Option.isSome_iff_exists.mp hrows.slots
    obtain ⟨slotsByPublisherFd', hslots', hheap'⟩ := Broker.freeSlots_eq_some.mp hheap
    obtain rfl := Option.some.inj (hslots.symm.trans hslots')
    cases hmissing.symm.trans hheap'
  have hstart : Detaching (Session.start broker).broker fd [] (.start broker) := .start rfl
  refine Meets.bind (Meets.foldlM (fun done session =>
    (∀ index subscriberFd, done[index]? = some subscriberFd →
      env.accepts index subscriberFd = true) ∧
    (∀ subscriberFd, done.count subscriberFd ≤
      (broker.attachmentsOf subscriberFd).countP (·.publisherFd = fd)) ∧
    Detaching broker fd done session) ⟨by simp, by simp, hstart⟩ ?_)
    fun detached hdetached => ?_
  · intro done subscriberFd rest session hsplit hloop
    obtain ⟨haccepted, hattached, hdetaching⟩ := hloop
    replace hsplit : broker.subscribersOf topicId = done ++ subscriberFd :: rest := hsplit
    have hlength : session.sent.length = done.length := by
      rw [← hdetaching.peers, List.length_map]
    refine (detachSubscriber_detaches hdetaching).mono ?_ ?_
    · rintro after ⟨haccepts, hafter⟩
      refine ⟨fun index other hother => ?_, fun other => ?_, hafter⟩
      · obtain hold | ⟨rfl, rfl⟩ := getElem?_concat_eq_some hother
        · exact haccepted index other hold
        · rw [← hlength, haccepts]
      · have hremaining := hafter.remaining other
        omega
    · rintro reason (⟨-, hrefused⟩ | hgone) topicId' hrows
      · obtain rfl := hunique hrows
        have haccepts := hrows.accepted done.length subscriberFd (by simp [hsplit])
        rw [hlength, haccepts] at hrefused
        cases hrefused
      · obtain rfl := hunique hrows
        have hcount := hrows.attached subscriberFd
        rw [hsplit, List.count_append, List.count_cons_self] at hcount
        omega
  obtain ⟨haccepted, hattached, hdetaching⟩ := hdetached
  refine Meets.bind (Meets.orStop (fun _ hfound => hfound) fun hmissing topicId' hrows => ?_)
    fun spaceAvailableEventFd hspace => ?_
  · have hfound := hrows.spaceEventFd
    have hnone : detached.broker.spaceEventFdByPublisherFd.lookup fd = none := hmissing
    rw [hdetaching.others] at hnone
    rw [show broker.spaceEventFdByPublisherFd.lookup fd = none from hnone] at hfound
    cases hfound
  have hspace' : broker.spaceEventFdByPublisherFd.lookup fd = some spaceAvailableEventFd := by
    have hsame : detached.broker.spaceEventFdByPublisherFd.lookup fd =
      some spaceAvailableEventFd := hspace
    rwa [hdetaching.others] at hsame
  have hlist := publishersOf_of_findPublisherTopic hfind
  refine .pure ⟨topicId, ⟨Option.isSome_iff_exists.mpr ⟨shmFd, hshmFd⟩, by rw [hfind]; rfl,
    Option.isSome_iff_exists.mpr ⟨heap, Broker.freeSlots_eq_some.mpr ⟨_, hslots, hheap⟩⟩,
    haccepted, hattached, Option.isSome_iff_exists.mpr ⟨_, hspace'⟩⟩,
    fun client hclient hnot => ?_, fun subscriberFd hmem hsame => ?_⟩
  · simp only [Session.broker_close, Session.broker_update]
    refine ⟨?_, ?_, hdetaching.untouched client hnot, ?_, ?_, fun other => ?_, fun other => ?_,
      fun other => ?_⟩
    · rw [hdetaching.others]
      exact AList.lookup_erase_ne hclient
    · rw [hdetaching.others]
    · rw [hdetaching.others]
      exact AList.lookup_erase_ne hclient
    · rw [hdetaching.others]
      exact AList.lookup_erase_ne hclient
    · refine (freeSlots_erase hslots ?_ other client).trans (if_neg fun heq => hclient heq.2)
      rw [hdetaching.others]
      rfl
    · rw [Broker.subscribersOf, hdetaching.others]
      rfl
    · refine count_publishers_erase_of_ne hlist hclient ?_ other
      rw [hdetaching.others]
  · have hcount : 0 < (broker.subscribersOf topicId).count subscriberFd :=
      List.count_pos_iff.mpr hmem
    have hview : detached.broker.attachmentsOf subscriberFd =
        broker.attachmentsOf subscriberFd := congrArg (·.getD []) hsame.attachments
    have hremaining : (broker.attachmentsOf subscriberFd).countP (·.publisherFd = fd) +
        (broker.subscribersOf topicId).count subscriberFd =
          (broker.attachmentsOf subscriberFd).countP (·.publisherFd = fd) := by
      rw [← hview]
      exact (hdetaching.remaining subscriberFd).trans (by rw [hview])
    omega

end DriveBus.ControlPlane
