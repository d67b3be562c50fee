import DriveBus.ControlPlane.Slots

/-!
# A subscriber disconnects

From a state whose maps describe a membership, the handler reaches the state that
describes the membership without the subscriber, and stops only for want of
resources.  Each of its two loops has an invariant for the items processed so far.
-/

namespace DriveBus.ControlPlane

open DriveBus.Contract DriveBus.UnorderedMap

/-! ## The attachments of a disconnecting subscriber -/

def disconnectNotice (attachment : SubscriberAttachment) : Fd × BrokerMessage :=
  (attachment.publisherFd, .subscriberDisconnected attachment.slotIndex)

/-- The session after one iteration, with the publisher's heap as it was found. -/
def Session.release (session : Session) (attachment : SubscriberAttachment)
    (heap : SlotHeap) : Session :=
  ({ session with sent := session.sent ++ [disconnectNotice attachment] }.update fun broker =>
    broker.setFreeSlots attachment.topicId attachment.publisherFd
      (heap.push attachment.slotIndex)).close attachment.dataAvailableEventFd

/-- One iteration returns if the publisher accepts its record and has a heap. -/
theorem releaseAttachment_spec (env : Env) (session : Session)
    (attachment : SubscriberAttachment) :
    Meets (releaseAttachment env session attachment)
      (fun after => env.accepts session.sent.length attachment.publisherFd = true ∧
        ∃ heap, session.broker.freeSlots attachment.topicId attachment.publisherFd = some heap ∧
          after = session.release attachment heap)
      fun reason => reason = .subscriberDisconnectSend ∧
          env.accepts session.sent.length attachment.publisherFd = false ∨
        session.broker.freeSlots attachment.topicId attachment.publisherFd = none := by
  refine ((Session.send_spec env session _ _ _).mono (fun _ => id)
    fun _ hrefused => .inl hrefused).bind ?_
  rintro _ ⟨haccepts, rfl⟩
  refine (Meets.orStop (fun _ hfound => hfound) fun hmissing => ?_).bind
    fun slotsByPublisherFd hslots => ?_
  · exact .inr (Option.bind_eq_none_iff.mpr fun _ hfound => by simp [hmissing] at hfound)
  refine (Meets.orStop (fun _ hfound => hfound) fun hmissing => ?_).bind fun heap hheap => ?_
  · exact .inr (by rw [Broker.freeSlots, hslots, Option.bind_some, hmissing])
  exact .pure ⟨haccepts, heap, Broker.freeSlots_eq_some.mpr ⟨_, hslots, hheap⟩, rfl⟩

/-- What the loop over the attachments has done after some of them. -/
structure Releasing (start : Broker) (done : List SubscriberAttachment)
    (session : Session) : Prop where
  sent : session.sent = done.map disconnectNotice
  others : session.broker = { start with
    availableSubscriberSlotsByTopicIdAndPublisherFd :=
      session.broker.availableSubscriberSlotsByTopicIdAndPublisherFd }
  slots : SlotsMove start session.broker fun fd => heldSlots fd done

section Release

variable {env : Env} {firstId : ℕ} {start : Broker} {members : Members}

theorem releaseAttachment_meets (hroutes : Routes start members) {session : Session}
    {done rest : List SubscriberAttachment} {attachment : SubscriberAttachment}
    (hreleasing : Releasing start done session)
    (htopic : members.topic attachment.publisherFd = some attachment.topicId) :
    Meets (releaseAttachment env session attachment)
      (Releasing start (done ++ [attachment]))
      (Excused env firstId ((done ++ attachment :: rest).map (·.publisherFd))) := by
  obtain ⟨heapStart, hstart⟩ := hroutes.freeSlots_of_topic htopic
  have hfound : (session.broker.freeSlots attachment.topicId attachment.publisherFd).isSome :=
    (hreleasing.slots.isSome_eq _ _).trans (by rw [hstart]; rfl)
  refine (releaseAttachment_spec env session attachment).mono ?_ ?_
  swap
  · rintro reason (⟨rfl, hrefused⟩ | hmissing)
    · have hdue : (done ++ attachment :: rest).map (·.publisherFd) =
          session.sent.map Prod.fst ++ attachment.publisherFd :: rest.map (·.publisherFd) := by
        simp [hreleasing.sent, disconnectNotice, Function.comp_def]
      exact Session.excused_of_refused rfl hdue hrefused
    · rw [hmissing] at hfound
      cases hfound
  rintro _ ⟨-, heap, hheap, rfl⟩
  refine ⟨?_, ?_, ?_⟩
  · simp [Session.release, hreleasing.sent]
  · exact congrArg (·.setFreeSlots attachment.topicId attachment.publisherFd
      (heap.push attachment.slotIndex)) hreleasing.others
  · have hput := hreleasing.slots.put
      (fun other hsome => Option.some.inj
        ((hroutes.topic_of_freeSlots hsome).symm.trans htopic))
      hheap (SlotHeap.free_push heap attachment.slotIndex)
    simpa [Session.release] using hput

end Release

/-! ## The topics of a disconnecting subscriber -/

/-- What the loop over the topics has done after some of them. -/
structure Dropping (start : Broker) (subscriberFd : Fd) (done : List TopicId)
    (broker : Broker) : Prop where
  others : broker = { start with
    subscriberFdsByTopicId := broker.subscriberFdsByTopicId }
  dropped : ∀ topicId fd, (broker.subscribersOf topicId).count fd +
    (if fd = subscriberFd then done.count topicId else 0) =
      (start.subscribersOf topicId).count fd

/-- One iteration returns if the topic's list still has the subscriber. -/
theorem dropTopicSubscriber_drops {start broker : Broker} {subscriberFd : Fd}
    {topicId : TopicId} {done : List TopicId}
    (hdropping : Dropping start subscriberFd done broker) :
    Meets (dropTopicSubscriber subscriberFd broker topicId)
      (Dropping start subscriberFd (done ++ [topicId]))
      fun _ => (start.subscribersOf topicId).count subscriberFd ≤ done.count topicId := by
  have hleft := hdropping.dropped topicId subscriberFd
  rw [if_pos rfl] at hleft
  have hgone : subscriberFd ∉ broker.subscribersOf topicId →
      (start.subscribersOf topicId).count subscriberFd ≤ done.count topicId := fun hnot => by
    rw [List.count_eq_zero_of_not_mem hnot] at hleft
    omega
  refine Meets.bind (Meets.orStop (fun _ hfound => hfound) fun hmissing => hgone ?_)
    fun subscribers hlookup => ?_
  · simp [Broker.subscribersOf, hmissing]
  have hview : broker.subscribersOf topicId = subscribers := by
    rw [Broker.subscribersOf, hlookup, Option.getD_some]
  refine Meets.bind (Meets.require fun hnot => hgone (hview ▸ hnot)) fun _ hmem =>
    .pure ⟨?_, ?_⟩
  · exact congrArg (·.setSubscribers topicId (subscribers.erase subscriberFd))
      hdropping.others
  · intro other fd
    rw [Broker.subscribersOf_setSubscribers, ← hdropping.dropped other fd]
    by_cases htopic : other = topicId
    · subst htopic
      by_cases hfd : fd = subscriberFd
      · subst hfd
        have hpositive := List.count_pos_iff.mpr hmem
        rw [if_pos rfl, List.count_erase_self, ← hview, if_pos rfl, if_pos rfl,
          List.count_append, List.count_singleton_self]
        rw [← hview] at hpositive
        omega
      · rw [if_pos rfl, List.count_erase_of_ne hfd, if_neg hfd, if_neg hfd, hview]
    · simp [htopic, List.count_append, Ne.symm htopic]

theorem dropTopicSubscriber_meets {stop : ExitReason → Prop} {start broker : Broker}
    {subscriberFd : Fd} {topicId : TopicId} {done : List TopicId} (rest : List TopicId)
    (hcount : (start.subscribersOf topicId).count subscriberFd =
      (done ++ topicId :: rest).count topicId)
    (hdropping : Dropping start subscriberFd done broker) :
    Meets (dropTopicSubscriber subscriberFd broker topicId)
      (Dropping start subscriberFd (done ++ [topicId])) stop := by
  refine (dropTopicSubscriber_drops hdropping).mono (fun _ => id) fun _ hgone => ?_
  rw [hcount, List.count_append, List.count_cons_self] at hgone
  omega

/-! ## A subscriber leaves -/

/-- Without the subscriber's entries and with its slots put back, the maps
describe the membership without it. -/
theorem Routes.leave_subscriber {start after : Broker} {members : Members}
    (hroutes : Routes start members) {subscriberFd : Fd} {topicIds : List TopicId}
    (hmember : members subscriberFd = some (.subscriber topicIds))
    (hothers : after = { start with
      availableSubscriberSlotsByTopicIdAndPublisherFd :=
        after.availableSubscriberSlotsByTopicIdAndPublisherFd
      subscriberAttachmentsBySubscriberFd :=
        start.subscriberAttachmentsBySubscriberFd.erase subscriberFd
      roleByFd := start.roleByFd.erase subscriberFd
      subscriberFdsByTopicId := after.subscriberFdsByTopicId
      topicIdsBySubscriberFd := start.topicIdsBySubscriberFd.erase subscriberFd })
    (hslots : SlotsMove start after fun fd =>
      heldSlots fd (start.attachmentsOf subscriberFd))
    (hsubscribers : ∀ topicId fd, (after.subscribersOf topicId).count fd +
      (if fd = subscriberFd then topicIds.count topicId else 0) =
        (start.subscribersOf topicId).count fd) :
    Routes after (members.leave subscriberFd) := by
  have htopic : (members.leave subscriberFd).topic = members.topic := by
    funext fd
    rw [Members.topic_leave]
    split
    · simp [Members.topic, ‹fd = subscriberFd›, hmember, Member.topicId]
    · rfl
  have htopics : members.topics subscriberFd = topicIds := by
    simp [Members.topics, hmember, Member.topicIds]
  have hattachments : ∀ fd, after.attachmentsOf fd =
      if fd = subscriberFd then [] else start.attachmentsOf fd := by
    intro fd
    rw [hothers]
    simp only [Broker.attachmentsOf, lookup_erase]
    split <;> rfl
  have hpublishers : after.publisherFdsByTopicId = start.publisherFdsByTopicId := by
    rw [hothers]
  constructor
  case role =>
    intro fd
    rw [hothers]
    simp only [lookup_erase, hroutes.role, Members.leave, Function.update_apply]
    split <;> rfl
  case topicIds =>
    intro fd
    rw [hothers]
    simp only [lookup_erase, hroutes.topicIds, Members.leave, Function.update_apply]
    split <;> rfl
  case attachments =>
    intro fd
    rw [hothers]
    simp only [lookup_erase, Members.leave, Function.update_apply]
    split
    · rfl
    · exact hroutes.attachments fd
  case shmFd =>
    intro fd
    rw [htopic, ← hroutes.shmFd, hothers]
  case spaceEventFd =>
    intro fd
    rw [htopic, ← hroutes.spaceEventFd, hothers]
  case publishers =>
    intro topicId fd
    rw [Broker.publishersOf, hpublishers, htopic]
    exact hroutes.publishers topicId fd
  case publishers_ne_nil =>
    rw [hpublishers]
    exact hroutes.publishers_ne_nil
  case freeSlots =>
    intro topicId fd
    rw [hslots.isSome_eq, hroutes.freeSlots, htopic]
  case subscribers =>
    intro topicId fd
    have hcount := hsubscribers topicId fd
    rw [hroutes.subscribers] at hcount
    rw [Members.topics_leave]
    split
    · rw [if_pos ‹_›, ‹fd = subscriberFd›, htopics] at hcount
      rw [‹fd = subscriberFd›, List.count_nil]
      omega
    · simpa [‹¬fd = subscriberFd›] using hcount
  case attached =>
    intro fd publisherFd
    rw [hattachments, Members.matching, htopic, Members.topics_leave]
    split
    · cases members.topic publisherFd <;> rfl
    · exact hroutes.attached fd publisherFd
  case attachedTopic =>
    intro fd attachment hmem
    rw [hattachments] at hmem
    rw [htopic]
    split at hmem
    · cases hmem
    · exact hroutes.attachedTopic fd attachment hmem
  case slots =>
    intro topicId publisherFd heap hheap
    obtain ⟨heapStart, hstart⟩ := Option.isSome_iff_exists.mp
      ((hslots.isSome_eq topicId publisherFd).symm.trans (by rw [hheap]; rfl))
    have hother : ∀ other, other ≠ subscriberFd →
        after.attachmentsOf other = start.attachmentsOf other :=
      fun other hne => by rw [hattachments, if_neg hne]
    have hexchange := occupiedSlots_exchange publisherFd subscriberFd hother
    rw [hattachments, if_pos rfl, heldSlots_nil, add_zero] at hexchange
    rw [hslots.free_eq hstart hheap, ← hroutes.slots topicId publisherFd heapStart hstart,
      ← hexchange]
    abel

/-- The contract of `handle_subsciber_disconect`. -/
theorem handleSubsciberDisconect_meets {env : Env} {firstId : ℕ}
    {members : Members} {session : Session} {subscriberFd : Fd} {topicIds : List TopicId}
    (hroutes : Routes session.broker members) (hsent : session.sent = [])
    (hmember : members subscriberFd = some (.subscriber topicIds)) :
    Meets (handleSubsciberDisconect env subscriberFd session)
      (Settled session.broker subscriberFd (members.leave subscriberFd))
      (Excused env firstId
        ((session.broker.attachmentsOf subscriberFd).map (·.publisherFd))) := by
  have htopicIds : session.broker.topicIdsBySubscriberFd.lookup subscriberFd =
      some topicIds := by
    rw [hroutes.topicIds, hmember]
    rfl
  have htopics : members.topics subscriberFd = topicIds := by
    simp [Members.topics, hmember, Member.topicIds]
  refine (Meets.orStop_some (hroutes.lookup_attachments hmember)).bind ?_
  rintro _ rfl
  refine (Meets.orStop_some htopicIds).bind ?_
  rintro topicIds rfl
  refine (Meets.foldlM (Releasing session.broker) ?_ ?_).bind ?_
  · exact ⟨hsent, rfl, .refl _⟩
  · intro done attachment rest released hsplit hreleasing
    rw [hsplit]
    exact releaseAttachment_meets hroutes hreleasing
      (hroutes.attachedTopic subscriberFd attachment (by simp [hsplit]))
  intro released hreleased
  refine (Meets.foldlM (Dropping { released.broker with
    subscriberAttachmentsBySubscriberFd :=
      released.broker.subscriberAttachmentsBySubscriberFd.erase subscriberFd
    roleByFd := released.broker.roleByFd.erase subscriberFd } subscriberFd) ?_ ?_).bind ?_
  · exact ⟨rfl, fun _ _ => by simp⟩
  · intro done topicId rest broker hsplit hdropping
    refine dropTopicSubscriber_meets rest ?_ hdropping
    rw [← hsplit, ← htopics, ← hroutes.subscribers, Broker.subscribersOf,
      hreleased.others]
    rfl
  intro broker hdropped
  have hattachments : ∀ fd, broker.attachmentsOf fd =
      if fd = subscriberFd then [] else session.broker.attachmentsOf fd := by
    intro fd
    rw [hdropped.others, Broker.attachmentsOf, hreleased.others]
    simp only [lookup_erase]
    split <;> rfl
  refine .pure ⟨?_, ⟨?_, ?_⟩, ?_⟩
  · refine hroutes.leave_subscriber hmember ?_ ?_ ?_
    · rw [Session.broker_close, Session.broker_update, hdropped.others, hreleased.others]
    · intro topicId fd
      rw [← hreleased.slots topicId fd, Session.broker_close, Session.broker_update,
        hdropped.others]
      rfl
    · intro topicId fd
      refine (hdropped.dropped topicId fd).trans ?_
      rw [Broker.subscribersOf, hreleased.others]
      rfl
  · intro fd attachment hmem
    have hrest : attachment ∈ broker.attachmentsOf fd := hmem
    rw [hattachments] at hrest
    split at hrest
    · cases hrest
    · exact .inl hrest
  · intro fd attachment hmem
    by_cases hfd : fd = subscriberFd
    · right
      rw [if_pos hfd, Session.sent_close, Session.sent_update, hreleased.sent]
      exact List.mem_map.mpr ⟨attachment, hfd ▸ hmem, rfl⟩
    · left
      have hrest := hattachments fd
      rw [if_neg hfd] at hrest
      exact hrest ▸ hmem
  · rw [Session.broker_close, Session.broker_update, hdropped.others, hreleased.others]

end DriveBus.ControlPlane
