import DriveBus.ControlPlane.Consistency

/-!
# What handling an event sends

A handler that returns has done one of five things, each with exactly the records
that belong to it: it has answered a status query, let a subscriber or a publisher
go, or taken one in.  The attachments made along the way are numbered with the
next attachment ids.
-/

namespace DriveBus.ControlPlane

open DriveBus.Contract DriveBus.UnorderedMap

/-! ## The records of an attachment -/

/-- What the publisher is told of an attachment. -/
def registrationNotice (attachment : SubscriberAttachment) : Fd × BrokerMessage :=
  (attachment.publisherFd,
    .subscriberEventFdAndSlot attachment.slotIndex attachment.dataAvailableEventFd)

/-- What both sides are told of an attachment that a new publisher brings. -/
def adoptionNotices (shmFd : Fd) (adopted : Fd × SubscriberAttachment) :
    List (Fd × BrokerMessage) :=
  [registrationNotice adopted.2, (adopted.1, .subscriberAttachmentBatch [adopted.2] [shmFd])]

/-- What a subscriber is told of an attachment that a publisher takes with it. -/
def detachmentNotice (detached : Fd × SubscriberAttachment) : Fd × BrokerMessage :=
  (detached.1, .publisherDisconnected detached.2.attachmentId)

/-- The attachments among the pairs that belong to one subscriber. -/
def attachmentsFor (subscriberFd : Fd) (pairs : List (Fd × SubscriberAttachment)) :
    List SubscriberAttachment :=
  (pairs.filter (·.1 = subscriberFd)).map Prod.snd

@[simp]
theorem attachmentsFor_nil (subscriberFd : Fd) : attachmentsFor subscriberFd [] = [] := rfl

theorem attachmentsFor_concat (subscriberFd : Fd) (pairs : List (Fd × SubscriberAttachment))
    (pair : Fd × SubscriberAttachment) :
    attachmentsFor subscriberFd (pairs ++ [pair]) =
      attachmentsFor subscriberFd pairs ++ if pair.1 = subscriberFd then [pair.2] else [] := by
  by_cases heq : pair.1 = subscriberFd <;> simp [attachmentsFor, heq]

theorem mem_attachmentsFor {subscriberFd : Fd} {pairs : List (Fd × SubscriberAttachment)}
    {attachment : SubscriberAttachment} :
    attachment ∈ attachmentsFor subscriberFd pairs ↔ (subscriberFd, attachment) ∈ pairs := by
  simp [attachmentsFor]

/-! ## Attachment ids -/

/-- The attachments carry the next ids, in order. -/
structure Numbered (start after : Broker) (attachments : List SubscriberAttachment) :
    Prop where
  ids : attachments.map (·.attachmentId) =
    List.range' start.nextAttachmentId attachments.length
  next : after.nextAttachmentId = start.nextAttachmentId + attachments.length
  bounded : after.nextAttachmentId < 2 ^ 64

theorem Numbered.concat {start middle after : Broker}
    {attachments : List SubscriberAttachment} {attachment : SubscriberAttachment}
    (hnumbered : Numbered start middle attachments)
    (hid : attachment.attachmentId = middle.nextAttachmentId)
    (hnext : after.nextAttachmentId = middle.nextAttachmentId + 1)
    (hbounded : after.nextAttachmentId < 2 ^ 64) :
    Numbered start after (attachments ++ [attachment]) where
  ids := by
    rw [List.map_append, hnumbered.ids, List.length_append, List.length_singleton,
      List.range'_concat, List.map_singleton, hid, hnumbered.next, one_mul]
  next := by
    rw [hnext, hnumbered.next, List.length_append, List.length_singleton, add_assoc]
  bounded := hbounded

namespace Session

variable {env : Env} {session : Session}

theorem send_exact {peer : Fd} {message : BrokerMessage} {reason : ExitReason} :
    Meets (session.send env peer message reason)
      (fun session' => session' = { session with sent := session.sent ++ [(peer, message)] })
      fun _ => True := by
  unfold send
  split
  · exact .ok rfl
  · exact .error trivial

theorem eventfd_exact {reason : ExitReason} :
    Meets (session.eventfd env reason)
      (fun result => result.2 = { session with created := session.created + 1 })
      fun _ => True := by
  unfold eventfd
  split
  · exact .ok rfl
  · exact .error trivial

theorem takeAttachmentId_exact (hbounded : session.broker.nextAttachmentId < 2 ^ 64) :
    Meets session.takeAttachmentId
      (fun result => result.1 = session.broker.nextAttachmentId ∧
        session.broker.nextAttachmentId + 1 < 2 ^ 64 ∧
        result.2 = session.update
          (·.setNextAttachmentId (session.broker.nextAttachmentId + 1)))
      fun _ => True := by
  dsimp only [takeAttachmentId]
  split
  · exact .error trivial
  · next hnext =>
      have hsucc : session.broker.nextAttachmentId + 1 ≠ 2 ^ 64 := fun heq =>
        hnext (by rw [heq]; rfl)
      have hlt : session.broker.nextAttachmentId + 1 < 2 ^ 64 := by omega
      refine .ok ⟨rfl, hlt, ?_⟩
      rw [Nat.mod_eq_of_lt hlt]

/-- A batch that is not refused is one send. -/
theorem sendAttachmentBatch_exact {subscriberFd : Fd}
    {attachments : List SubscriberAttachment} {shmFds : List Fd} {reason : ExitReason} :
    Meets (sendAttachmentBatch env session subscriberFd attachments shmFds reason)
      (fun session' => session' = { session with sent := session.sent ++
          [(subscriberFd, .subscriberAttachmentBatch attachments shmFds)] } ∧
        shmFds.length = attachments.length ∧
        attachments.length ≤ kMaxAttachmentsPerBatch)
      fun _ => True := by
  refine (Meets.require fun _ => trivial).bind fun _ hshmFds => ?_
  refine (Meets.require fun _ => trivial).bind fun _ hlength => ?_
  exact send_exact.mono (fun _ hsent => ⟨hsent, hshmFds, hlength⟩) fun _ _ => trivial

end Session

/-! ## A subscriber leaves -/

/-- The part of the broker's state that attachments change. -/
def Broker.attachmentBook (broker : Broker) : Map Fd (List SubscriberAttachment) × ℕ :=
  (broker.subscriberAttachmentsBySubscriberFd, broker.nextAttachmentId)

theorem attachmentsOf_of_book {before after : Broker}
    (hbook : after.attachmentBook = before.attachmentBook) (fd : Fd) :
    after.attachmentsOf fd = before.attachmentsOf fd := by
  rw [Broker.attachmentsOf, Broker.attachmentsOf,
    show after.subscriberAttachmentsBySubscriberFd =
      before.subscriberAttachmentsBySubscriberFd from congrArg Prod.fst hbook]

theorem attachmentsOf_of_lookup {broker : Broker} {fd : Fd}
    {attachments : List SubscriberAttachment}
    (hlookup : broker.subscriberAttachmentsBySubscriberFd.lookup fd = some attachments) :
    broker.attachmentsOf fd = attachments := by
  rw [Broker.attachmentsOf, hlookup, Option.getD_some]

section Handlers

variable {env : Env} {session : Session}

theorem releaseAttachment_exact {attachment : SubscriberAttachment} :
    Meets (releaseAttachment env session attachment)
      (fun after => after.sent = session.sent ++ [disconnectNotice attachment] ∧
        after.broker.attachmentBook = session.broker.attachmentBook)
      fun _ => True := by
  refine Session.send_exact.bind ?_
  rintro _ rfl
  exact Meets.always.bind fun _ _ => Meets.always.bind fun _ _ => .pure ⟨rfl, rfl⟩

theorem dropTopicSubscriber_exact {subscriberFd : Fd} {broker : Broker}
    {topicId : TopicId} :
    Meets (dropTopicSubscriber subscriberFd broker topicId)
      (fun after => after.attachmentBook = broker.attachmentBook) fun _ => True :=
  Meets.always.bind fun _ _ => Meets.always.bind fun _ _ => .pure rfl

theorem handleSubsciberDisconect_exact {subscriberFd : Fd} (hsent : session.sent = []) :
    Meets (handleSubsciberDisconect env subscriberFd session)
      (fun after =>
        after.sent = (session.broker.attachmentsOf subscriberFd).map disconnectNotice ∧
        (∀ fd, after.broker.attachmentsOf fd =
          if fd = subscriberFd then [] else session.broker.attachmentsOf fd) ∧
        after.broker.nextAttachmentId = session.broker.nextAttachmentId)
      fun _ => True := by
  refine (Meets.orStop_found trivial).bind fun attachments hlookup => ?_
  obtain rfl := attachmentsOf_of_lookup hlookup
  refine Meets.always.bind fun topicIds _ => ?_
  refine (Meets.foldlM (fun done (released : Session) =>
    released.sent = done.map disconnectNotice ∧
      released.broker.attachmentBook = session.broker.attachmentBook)
    ⟨hsent, rfl⟩ ?_).bind ?_
  · rintro done attachment _ released - ⟨hreleased, hbook⟩
    refine releaseAttachment_exact.mono (fun after hafter => ⟨?_, hafter.2.trans hbook⟩)
      fun _ _ => trivial
    rw [hafter.1, hreleased, List.map_append, List.map_singleton]
  rintro released ⟨hreleased, hbook⟩
  refine (Meets.foldlM (fun _ (dropped : Broker) => dropped.attachmentBook =
    (released.broker.subscriberAttachmentsBySubscriberFd.erase subscriberFd,
      released.broker.nextAttachmentId)) rfl ?_).bind ?_
  · rintro done topicId _ broker - hdropped
    exact dropTopicSubscriber_exact.mono (fun after hafter => hafter.trans hdropped)
      fun _ _ => trivial
  intro dropped hdropped
  refine .pure ⟨hreleased, fun fd => ?_, ?_⟩
  · have hmap : dropped.subscriberAttachmentsBySubscriberFd =
        session.broker.subscriberAttachmentsBySubscriberFd.erase subscriberFd :=
      (congrArg Prod.fst hdropped).trans (congrArg (fun book : _ × ℕ =>
        book.1.erase subscriberFd) hbook)
    change ((dropped.subscriberAttachmentsBySubscriberFd).lookup fd).getD [] = _
    rw [hmap, lookup_erase]
    split <;> rfl
  · exact (congrArg Prod.snd hdropped).trans (congrArg Prod.snd hbook)

/-! ## A publisher leaves -/

/-- What the loop over the topic's subscribers has detached. -/
structure Detached (start : Session) (publisherFd : Fd)
    (detached : List (Fd × SubscriberAttachment)) (session : Session) : Prop where
  sent : session.sent = start.sent ++ detached.map detachmentNotice
  publisher : ∀ pair ∈ detached, pair.2.publisherFd = publisherFd
  attachments : ∀ fd, (session.broker.attachmentsOf fd : Multiset SubscriberAttachment) +
    attachmentsFor fd detached = start.broker.attachmentsOf fd
  next : session.broker.nextAttachmentId = start.broker.nextAttachmentId

theorem detachSubscriber_exact {start : Session} {publisherFd subscriberFd : Fd}
    {detached : List (Fd × SubscriberAttachment)}
    (hdetached : Detached start publisherFd detached session) :
    Meets (detachSubscriber env publisherFd session subscriberFd)
      (fun after => ∃ attachment,
        Detached start publisherFd (detached ++ [(subscriberFd, attachment)]) after)
      fun _ => True := by
  refine (Meets.orStop_found trivial).bind fun attachments hlookup => ?_
  have hview := attachmentsOf_of_lookup hlookup
  refine (Meets.orStop_found trivial).bind fun attachment hfind => ?_
  obtain ⟨hpublisher, before, after, hattachments, herase⟩ := eraseP_split hfind
  refine Session.send_exact.bind ?_
  rintro _ rfl
  refine .pure ⟨attachment, ?_, ?_, fun fd => ?_, hdetached.next⟩
  · simp [hdetached.sent, detachmentNotice]
  · intro pair hmem
    rcases List.mem_append.mp hmem with hold | hnew
    · exact hdetached.publisher pair hold
    · rw [List.mem_singleton.mp hnew]
      exact hpublisher
  · rw [← hdetached.attachments fd, attachmentsFor_concat, Session.broker_update,
      Session.broker_close, Broker.attachmentsOf_setAttachments, herase]
    by_cases hfd : fd = subscriberFd
    · subst hfd
      rw [if_pos rfl, if_pos rfl, hview, hattachments]
      simp only [← Multiset.coe_add, ← Multiset.cons_coe, Multiset.add_cons,
        Multiset.cons_add, Multiset.coe_nil, add_zero]
    · rw [if_neg hfd, if_neg (Ne.symm hfd), List.append_nil]

theorem handlePublisherDisconnect_exact {publisherFd : Fd} :
    Meets (handlePublisherDisconnect env publisherFd session)
      (fun after => ∃ detached, Detached session publisherFd detached after)
      fun _ => True := by
  refine Meets.always.bind fun shmFd _ => Meets.always.bind fun found _ =>
    Meets.always.bind fun slotsByPublisherFd _ => Meets.always.bind fun _ _ => ?_
  refine (Meets.foldlM (fun _ (after : Session) => ∃ detached,
    Detached session publisherFd detached after) ?_ ?_).bind ?_
  · exact ⟨[], by simp, by simp, by simp, rfl⟩
  · rintro done subscriberFd _ after - ⟨detached, hdetached⟩
    exact (detachSubscriber_exact hdetached).mono (fun _ ⟨_, hafter⟩ => ⟨_, hafter⟩)
      fun _ _ => trivial
  rintro after ⟨detached, hdetached⟩
  refine Meets.always.bind fun _ _ => .pure ⟨detached, hdetached.sent,
    hdetached.publisher, hdetached.attachments, hdetached.next⟩

/-! ## A subscriber registers -/

/-- What the registration of a subscriber has attached and sent so far. -/
structure Attached (start : Session) (attaching : Attaching) : Prop where
  sent : attaching.session.sent =
    start.sent ++ attaching.attachments.map registrationNotice
  numbered : Numbered start.broker attaching.session.broker attaching.attachments
  attachments : attaching.session.broker.subscriberAttachmentsBySubscriberFd =
    start.broker.subscriberAttachmentsBySubscriberFd

theorem attachPublisher_exact {start : Session} {topicId : TopicId} {attaching : Attaching}
    {publisherFd : Fd} (hattached : Attached start attaching) :
    Meets (attachPublisher env topicId attaching publisherFd) (Attached start)
      fun _ => True := by
  refine Meets.always.bind fun shmFd _ => Meets.always.bind fun slots _ =>
    Meets.always.bind fun _ _ => Meets.always.bind fun spaceAvailableEventFd _ => ?_
  refine Session.eventfd_exact.bind ?_
  rintro ⟨dataAvailableEventFd, _⟩ rfl
  refine Session.send_exact.bind ?_
  rintro _ rfl
  refine (Session.takeAttachmentId_exact ?_).bind ?_
  · exact hattached.numbered.bounded
  rintro ⟨attachmentId, _⟩ ⟨rfl, hbounded, rfl⟩
  refine .pure ⟨?_, hattached.numbered.concat rfl rfl hbounded, hattached.attachments⟩
  simp [hattached.sent, registrationNotice]

theorem attachTopic_exact {start : Session} {subscriberFd : Fd} {topicId : TopicId}
    {attaching : Attaching} (hattached : Attached start attaching) :
    Meets (attachTopic env subscriberFd attaching topicId) (Attached start)
      fun _ => True := by
  have hlisted : Attached start (attaching.list subscriberFd topicId) :=
    ⟨hattached.sent, ⟨hattached.numbered.ids, hattached.numbered.next,
      hattached.numbered.bounded⟩, hattached.attachments⟩
  unfold attachTopic
  dsimp only
  split
  · exact .pure hlisted
  · refine Meets.always.bind fun _ _ => Meets.foldlM (fun _ => Attached start) hlisted ?_
    exact fun _ _ _ _ _ hinv => attachPublisher_exact hinv

theorem registerSubscriber_exact {subscriberFd : Fd} {topicIds : List TopicId}
    (hsent : session.sent = []) (hbounded : session.broker.nextAttachmentId < 2 ^ 64)
    (hnew : session.broker.subscriberAttachmentsBySubscriberFd.lookup subscriberFd = none) :
    Meets (registerSubscriber env subscriberFd topicIds session)
      (fun after => ∃ attachments shmFds,
        after.sent = attachments.map registrationNotice ++
          [(subscriberFd, .subscriberAttachmentBatch attachments shmFds)] ∧
        (∀ fd, after.broker.attachmentsOf fd =
          if fd = subscriberFd then attachments else session.broker.attachmentsOf fd) ∧
        Numbered session.broker after.broker attachments ∧
        shmFds.length = attachments.length ∧
        attachments.length ≤ kMaxAttachmentsPerBatch)
      fun _ => True := by
  refine (Meets.foldlM (fun _ => Attached session) ?_ ?_).bind ?_
  · exact ⟨by simp, ⟨rfl, rfl, hbounded⟩, rfl⟩
  · exact fun _ _ _ _ _ hinv => attachTopic_exact hinv
  intro attaching hattached
  refine Session.sendAttachmentBatch_exact.bind ?_
  rintro _ ⟨rfl, hshmFds, hlength⟩
  refine .pure ⟨attaching.attachments, attaching.shmFds, ?_, fun fd => ?_,
    ⟨hattached.numbered.ids, hattached.numbered.next, hattached.numbered.bounded⟩,
    hshmFds, hlength⟩
  · simp [hattached.sent, hsent]
  · rw [Session.broker_update, Broker.attachmentsOf]
    dsimp only
    rw [hattached.attachments, lookup_insertNew_of_notMem _ hnew]
    split <;> rfl

/-! ## A publisher registers -/

/-- What the registration of a publisher has attached and sent so far. -/
structure Adopted (start : Session) (publisherFd shmFd : Fd)
    (adopted : List (Fd × SubscriberAttachment)) (session : Session) : Prop where
  sent : session.sent = start.sent ++ adopted.flatMap (adoptionNotices shmFd)
  publisher : ∀ pair ∈ adopted, pair.2.publisherFd = publisherFd
  attachments : ∀ fd, session.broker.attachmentsOf fd =
    start.broker.attachmentsOf fd ++ attachmentsFor fd adopted
  numbered : Numbered start.broker session.broker (adopted.map Prod.snd)

theorem Adopted.adopt {start after : Session} {publisherFd shmFd subscriberFd : Fd}
    {adopted : List (Fd × SubscriberAttachment)} {attachment : SubscriberAttachment}
    (hadopted : Adopted start publisherFd shmFd adopted session)
    (hid : attachment.attachmentId = session.broker.nextAttachmentId)
    (hpublisher : attachment.publisherFd = publisherFd)
    (hsent : after.sent = session.sent ++ adoptionNotices shmFd (subscriberFd, attachment))
    (hattachments : ∀ fd, after.broker.attachmentsOf fd =
      if fd = subscriberFd then session.broker.attachmentsOf subscriberFd ++ [attachment]
      else session.broker.attachmentsOf fd)
    (hnext : after.broker.nextAttachmentId = session.broker.nextAttachmentId + 1)
    (hbounded : after.broker.nextAttachmentId < 2 ^ 64) :
    Adopted start publisherFd shmFd (adopted ++ [(subscriberFd, attachment)]) after where
  sent := by rw [hsent, hadopted.sent, List.flatMap_append, List.append_assoc]; simp
  publisher pair hmem := by
    rcases List.mem_append.mp hmem with hold | hnew
    · exact hadopted.publisher pair hold
    · rw [List.mem_singleton.mp hnew]
      exact hpublisher
  attachments fd := by
    rw [attachmentsFor_concat, ← List.append_assoc, ← hadopted.attachments fd, hattachments]
    by_cases hfd : fd = subscriberFd
    · rw [if_pos hfd, if_pos hfd.symm, hfd]
    · rw [if_neg hfd, if_neg (Ne.symm hfd), List.append_nil]
  numbered := by
    rw [List.map_append]
    exact hadopted.numbered.concat hid hnext hbounded

theorem attachSubscriber_exact {start : Session} {publisherFd shmFd subscriberFd : Fd}
    {topicId : TopicId} {spaceAvailableEventFd : Fd}
    {adopted : List (Fd × SubscriberAttachment)}
    (hadopted : Adopted start publisherFd shmFd adopted session) :
    Meets (attachSubscriber env publisherFd topicId shmFd spaceAvailableEventFd session
        subscriberFd)
      (fun after => ∃ attachment,
        Adopted start publisherFd shmFd (adopted ++ [(subscriberFd, attachment)]) after)
      fun _ => True := by
  refine Session.eventfd_exact.bind ?_
  rintro ⟨dataAvailableEventFd, _⟩ rfl
  refine Session.send_exact.bind ?_
  rintro _ rfl
  refine (Session.takeAttachmentId_exact ?_).bind ?_
  · exact hadopted.numbered.bounded
  rintro ⟨attachmentId, _⟩ ⟨rfl, hbounded, rfl⟩
  refine Session.sendAttachmentBatch_exact.bind ?_
  rintro _ ⟨rfl, -⟩
  refine (Meets.orStop_found trivial).bind fun attachments hlookup => ?_
  obtain rfl := attachmentsOf_of_lookup hlookup
  let attachment : SubscriberAttachment :=
    { attachmentId := session.broker.nextAttachmentId
      topicId
      publisherFd
      spaceAvailableEventFd
      dataAvailableEventFd
      slotIndex :=
        ((session.broker.freeSlots topicId publisherFd).getD SlotHeap.empty).top }
  refine .pure ⟨attachment, hadopted.adopt rfl rfl ?_ (fun fd => ?_) rfl hbounded⟩
  · exact List.append_assoc _ _ _
  · exact Broker.attachmentsOf_setAttachments _ fd

theorem registerPublisher_exact {publisherFd : Fd} {topicId : TopicId}
    {shmFd spaceAvailableEventFd : Fd} (hsent : session.sent = [])
    (hbounded : session.broker.nextAttachmentId < 2 ^ 64) :
    Meets (registerPublisher env publisherFd topicId shmFd spaceAvailableEventFd session)
      (fun after => ∃ adopted, adopted.length ≤ kMaxSubscribers ∧
        Adopted { session with sent :=
          [(publisherFd, .initialSubscriberCount adopted.length)] } publisherFd shmFd
          adopted after)
      fun _ => True := by
  refine Meets.always.bind fun _ _ => Meets.always.bind fun _ _ =>
    Meets.always.bind fun _ _ => (Meets.require fun _ => trivial).bind fun _ hcapacity => ?_
  replace hcapacity : (session.broker.subscribersOf topicId).length ≤ kMaxSubscribers :=
    size_initAvailableSubscriberSlots ▸ hcapacity
  refine Session.send_exact.bind ?_
  rintro _ rfl
  refine (Meets.foldlM (fun done (after : Session) => ∃ adopted,
    adopted.length = done.length ∧ Adopted { session with sent :=
      [(publisherFd, .initialSubscriberCount
        (session.broker.subscribersOf topicId).length)] } publisherFd shmFd adopted after)
    ?_ ?_).bind ?_
  · refine ⟨[], rfl, ?_, by simp, fun fd => ?_, ⟨rfl, rfl, hbounded⟩⟩
    · simp [hsent]
      rfl
    · exact (List.append_nil _).symm
  · rintro done subscriberFd _ after - ⟨adopted, hlength, hadopted⟩
    refine (attachSubscriber_exact hadopted).mono (fun _ ⟨_, hafter⟩ => ⟨_, ?_, hafter⟩)
      fun _ _ => trivial
    rw [List.length_append, List.length_append, hlength]
    rfl
  rintro after ⟨adopted, hlength, hadopted⟩
  have hcount : adopted.length = (session.broker.subscribersOf topicId).length := hlength
  refine .pure ⟨adopted, hcount ▸ hcapacity, ?_, hadopted.publisher, hadopted.attachments,
    hadopted.numbered.ids, hadopted.numbered.next, hadopted.numbered.bounded⟩
  rw [hcount]
  exact hadopted.sent

end Handlers

/-! ## An event -/

/-- What handling an event of a connection has sent, what it has made of the
attachments, and who is registered after it. -/
inductive Transcript (before : Broker) (members : Members) (fd : Fd) (after : Session) :
    Members → Prop
  | answered (hfresh : members fd = none)
      (hsent : ∀ record ∈ after.sent, record = (fd, .statusSnapshot))
      (hbook : after.broker.attachmentBook = before.attachmentBook) :
      Transcript before members fd after (members.leave fd)
  | subscriberLeft {topicIds : List TopicId}
      (hmember : members fd = some (.subscriber topicIds))
      (hsent : after.sent = (before.attachmentsOf fd).map disconnectNotice)
      (hattachments : ∀ other, after.broker.attachmentsOf other =
        if other = fd then [] else before.attachmentsOf other)
      (hnext : after.broker.nextAttachmentId = before.nextAttachmentId) :
      Transcript before members fd after (members.leave fd)
  | publisherLeft {topicId : TopicId} {detached : List (Fd × SubscriberAttachment)}
      (hmember : members fd = some (.publisher topicId))
      (hsent : after.sent = detached.map detachmentNotice)
      (hpublisher : ∀ pair ∈ detached, pair.2.publisherFd = fd)
      (hattachments : ∀ other,
        (after.broker.attachmentsOf other : Multiset SubscriberAttachment) +
          attachmentsFor other detached = before.attachmentsOf other)
      (hnext : after.broker.nextAttachmentId = before.nextAttachmentId) :
      Transcript before members fd after (members.leave fd)
  | subscriberJoined {topicIds : List TopicId} {attachments : List SubscriberAttachment}
      {shmFds : List Fd} (hfresh : members fd = none)
      (hsent : after.sent = attachments.map registrationNotice ++
        [(fd, .subscriberAttachmentBatch attachments shmFds)])
      (hattachments : ∀ other, after.broker.attachmentsOf other =
        if other = fd then attachments else before.attachmentsOf other)
      (hnumbered : Numbered before after.broker attachments)
      (hshmFds : shmFds.length = attachments.length)
      (hlength : attachments.length ≤ kMaxAttachmentsPerBatch) :
      Transcript before members fd after (members.join fd (.subscriber topicIds))
  | publisherJoined {topicId : TopicId} {shmFd : Fd}
      {adopted : List (Fd × SubscriberAttachment)} (hfresh : members fd = none)
      (hsent : after.sent = (fd, .initialSubscriberCount adopted.length) ::
        adopted.flatMap (adoptionNotices shmFd))
      (hpublisher : ∀ pair ∈ adopted, pair.2.publisherFd = fd)
      (hattachments : ∀ other, after.broker.attachmentsOf other =
        before.attachmentsOf other ++ attachmentsFor other adopted)
      (hnumbered : Numbered before after.broker (adopted.map Prod.snd))
      (hcapacity : adopted.length ≤ kMaxSubscribers) :
      Transcript before members fd after (members.join fd (.publisher topicId))

section Events

variable {env : Env} {members : Members} {session : Session} {fd : Fd}

theorem disconnect_transcript {before : Broker} {member : Member}
    (hsent : session.sent = []) (hmember : members fd = some member)
    (hbook : session.broker.attachmentBook = before.attachmentBook) :
    Meets (match member.role with
        | .subscriber => handleSubsciberDisconect env fd session
        | .publisher => handlePublisherDisconnect env fd session)
      (fun after => Transcript before members fd after (members.leave fd))
      fun _ => True := by
  have hattachments := attachmentsOf_of_book hbook
  have hnext : session.broker.nextAttachmentId = before.nextAttachmentId :=
    congrArg Prod.snd hbook
  cases member with
  | subscriber topicIds =>
      refine (handleSubsciberDisconect_exact hsent).mono ?_ fun _ _ => trivial
      rintro after ⟨hafter, hrest, hid⟩
      refine .subscriberLeft hmember (hattachments fd ▸ hafter) (fun other => ?_)
        (hid.trans hnext)
      rw [hrest, hattachments]
  | publisher topicId =>
      refine handlePublisherDisconnect_exact.mono ?_ fun _ _ => trivial
      rintro after ⟨detached, hdetached⟩
      refine .publisherLeft hmember ?_ hdetached.publisher (fun other => ?_)
        (hdetached.next.trans hnext)
      · rw [hdetached.sent, hsent, List.nil_append]
      · rw [hdetached.attachments, hattachments]

theorem handleClosure_transcript (hroutes : Routes session.broker members)
    (hsent : session.sent = []) :
    Meets (handleClosure env fd session)
      (fun after => Transcript session.broker members fd after (members.leave fd))
      fun _ => True := by
  refine (Meets.orStop_found trivial).bind fun role hrole => ?_
  rw [hroutes.role] at hrole
  obtain ⟨member, hmember, rfl⟩ := Option.map_eq_some_iff.mp hrole
  exact disconnect_transcript hsent hmember rfl

theorem handleReceiveError_transcript (hroutes : Routes session.broker members)
    (hsent : session.sent = []) :
    Meets (handleReceiveError env fd session)
      (fun after => Transcript session.broker members fd after (members.leave fd))
      fun _ => True := by
  refine (Meets.orStop_found trivial).bind fun role hrole => ?_
  rw [hroutes.role] at hrole
  obtain ⟨member, hmember, rfl⟩ := Option.map_eq_some_iff.mp hrole
  refine Meets.always.bind fun _ _ => ?_
  exact disconnect_transcript hsent hmember rfl

theorem handleStatusQuery_transcript (hsent : session.sent = [])
    (hfresh : members fd = none) :
    Transcript session.broker members fd (handleStatusQuery env fd session)
      (members.leave fd) := by
  have hquery : (handleStatusQuery env fd session).sent ⊆ [(fd, .statusSnapshot)] ∧
      (handleStatusQuery env fd session).broker.attachmentBook =
        session.broker.attachmentBook := by
    rw [handleStatusQuery, Session.send]
    split_ifs
    · exact ⟨by simp [hsent], rfl⟩
    · exact ⟨by simp [hsent], rfl⟩
  refine .answered hfresh (fun record hmem => ?_) hquery.2
  exact List.mem_singleton.mp (hquery.1 hmem)

/-- A record of a client that is not registered. -/
theorem handleRecord_transcript (hroutes : Routes session.broker members)
    (hsent : session.sent = []) (hfresh : members fd = none)
    (hbounded : session.broker.nextAttachmentId < 2 ^ 64) (request : Request) :
    Meets (handleRecord env fd request.packet session)
      (fun result => Transcript session.broker members fd result.1
          (request.member.elim (members.leave fd) (members.join fd)) ∧
        result.2 = request.member.isNone)
      fun _ => True := by
  cases request with
  | statusQuery => exact .ok ⟨handleStatusQuery_transcript hsent hfresh, rfl⟩
  | subscribe topics =>
      have hnew : session.broker.subscriberAttachmentsBySubscriberFd.lookup fd = none := by
        have hisSome := hroutes.attachments fd
        rw [hfresh] at hisSome
        simpa using hisSome
      have hregister : Meets (registerSubscriber env fd topics.topicIds session) _ _ :=
        registerSubscriber_exact hsent hbounded hnew
      rw [handleRecord_subscribe]
      cases hresult : registerSubscriber env fd topics.topicIds session with
      | error reason => trivial
      | ok after =>
          obtain ⟨attachments, shmFds, hafter, hrest, hnumbered, hshmFds, hlength⟩ :=
            hregister.of_ok hresult
          exact ⟨.subscriberJoined hfresh hafter hrest hnumbered hshmFds hlength, rfl⟩
  | publish topicId shmFd spaceAvailableEventFd =>
      have hregister : Meets
          (registerPublisher env fd topicId shmFd spaceAvailableEventFd session) _ _ :=
        registerPublisher_exact hsent hbounded
      rw [handleRecord_publish]
      cases hresult : registerPublisher env fd topicId shmFd spaceAvailableEventFd
        session with
      | error reason => trivial
      | ok after =>
          obtain ⟨adopted, hcapacity, hadopted⟩ := hregister.of_ok hresult
          exact ⟨.publisherJoined hfresh hadopted.sent hadopted.publisher
            hadopted.attachments ⟨hadopted.numbered.ids, hadopted.numbered.next,
              hadopted.numbered.bounded⟩ hcapacity, rfl⟩

end Events

/-! ## A step of the network -/

/-- What the world becomes when the handler of an event returns. -/
def World.settled (world : World) (fd : Fd) (connection : Option Connection)
    (session : Session) : World :=
  { world.setConnection fd connection with
    broker := session.broker
    sent := world.sent ++ session.sent }

/-- The step that handles an event stops the broker or has a transcript. -/
structure Happened (world : World) (fd : Fd) (world' : World) (session : Session) : Prop
    where
  transcript : Transcript world.broker world.members fd session world'.members
  settled : ∃ connection, world' = world.settled fd connection session

theorem happened_of_settle {world : World} {fd : Fd} {connection : Option Connection}
    {result : Except ExitReason Session} {members : Members}
    (hmeets : Meets result
      (fun session => Transcript world.broker world.members fd session members)
      fun _ => True)
    (hmembers : (world.setConnection fd connection).members = members)
    (hrunning : (world.settle fd connection result).exited = none) :
    ∃ session, Happened world fd (world.settle fd connection result) session := by
  cases result with
  | error reason => cases hrunning
  | ok session =>
      have htranscript : Transcript world.broker world.members fd session members := hmeets
      exact ⟨session, hmembers ▸ htranscript, connection, rfl⟩

theorem Consistent.happened {world world' : World} (hconsistent : Consistent world)
    (hbounded : world.broker.nextAttachmentId < 2 ^ 64) {action : Action} {fd : Fd}
    (hevent : action.event = some fd) (hnext : world.next action = some world')
    (hrunning' : world'.exited = none) : ∃ session, Happened world fd world' session := by
  have hrunning := World.running_of_next hnext
  have hroutes : Routes (Session.start world.broker).broker world.members :=
    hconsistent.routes
  cases action with
  | accept fd => cases hevent
  | request fd packet => cases hevent
  | hangUp fd => cases hevent
  | receive fd' env =>
      obtain rfl : fd' = fd := Option.some.inj hevent
      simp only [World.next, hrunning, Option.bind_eq_some_iff] at hnext
      obtain ⟨connection, hconnection, hnext⟩ := hnext
      cases hinbox : connection.inbox with
      | nil =>
          rw [World.receive, hinbox] at hnext
          dsimp only at hnext
          split at hnext
          · obtain rfl := Option.some.inj hnext
            exact happened_of_settle (handleClosure_transcript hroutes rfl)
              (members_setConnection world fd' none) hrunning'
          · cases hnext
      | cons packet rest =>
          obtain ⟨hreceived, rfl, request, rfl⟩ :=
            (hconsistent.plain fd' connection hconnection).split hinbox
          have hfresh : world.members fd' = none := by
            rw [members_eq hconnection, Connection.member, hreceived]
            rfl
          rw [World.receive, hinbox] at hnext
          obtain rfl := Option.some.inj hnext
          have hrecord : Meets (handleRecord env fd' request.packet (.start world.broker)) _ _ :=
            handleRecord_transcript hroutes rfl hfresh hbounded request
          cases hresult : handleRecord env fd' request.packet (.start world.broker) with
          | error reason =>
              rw [hresult] at hrunning'
              cases hrunning'
          | ok result =>
              obtain ⟨session, closed⟩ := result
              obtain ⟨htranscript, rfl⟩ := hrecord.of_ok hresult
              rw [hresult] at hrunning'
              refine happened_of_settle (.ok htranscript) ?_ hrunning'
              rw [members_setConnection]
              cases hmember : request.member with
              | none => rfl
              | some member => simp [Connection.member, hreceived, hmember, Members.join]
  | receiveError fd' env =>
      obtain rfl : fd' = fd := Option.some.inj hevent
      simp only [World.next, hrunning, Option.bind_eq_some_iff] at hnext
      obtain ⟨connection, hconnection, hnext⟩ := hnext
      obtain rfl := Option.some.inj hnext
      exact happened_of_settle (handleReceiveError_transcript hroutes rfl)
        (members_setConnection world fd' none) hrunning'

/-- A handler that stops the broker leaves the world as it was. -/
theorem World.exited_of_settle {world : World} {fd : Fd} {connection : Option Connection}
    {result : Except ExitReason Session} (hrunning : world.exited = none)
    {reason : ExitReason} (hexited : (world.settle fd connection result).exited = some reason) :
    world.settle fd connection result = { world with exited := some reason } := by
  cases result with
  | error other => exact congrArg (fun exited => { world with exited }) hexited
  | ok session =>
      change world.exited = some reason at hexited
      rw [hrunning] at hexited
      cases hexited

theorem World.exited_of_next {world world' : World} {action : Action} {reason : ExitReason}
    (hnext : world.next action = some world') (hexited : world'.exited = some reason) :
    world' = { world with exited := some reason } := by
  have hrunning := World.running_of_next hnext
  cases action with
  | accept fd =>
      simp only [World.next, hrunning] at hnext
      split at hnext
      · cases hnext
      · obtain rfl := Option.some.inj hnext
        cases hrunning.symm.trans hexited
  | request fd packet =>
      simp only [World.next, hrunning, Option.bind_eq_some_iff] at hnext
      obtain ⟨connection, -, hnext⟩ := hnext
      split at hnext
      · cases hnext
      · obtain rfl := Option.some.inj hnext
        cases hrunning.symm.trans hexited
  | hangUp fd =>
      simp only [World.next, hrunning, Option.bind_eq_some_iff] at hnext
      obtain ⟨connection, -, hnext⟩ := hnext
      split at hnext
      · cases hnext
      · obtain rfl := Option.some.inj hnext
        cases hrunning.symm.trans hexited
  | receive fd env =>
      simp only [World.next, hrunning, Option.bind_eq_some_iff] at hnext
      obtain ⟨connection, -, hnext⟩ := hnext
      rw [World.receive] at hnext
      split at hnext
      · obtain rfl := Option.some.inj hnext
        exact World.exited_of_settle hrunning hexited
      · split at hnext
        · obtain rfl := Option.some.inj hnext
          exact World.exited_of_settle hrunning hexited
        · cases hnext
  | receiveError fd env =>
      simp only [World.next, hrunning, Option.bind_eq_some_iff] at hnext
      obtain ⟨connection, -, hnext⟩ := hnext
      obtain rfl := Option.some.inj hnext
      exact World.exited_of_settle hrunning hexited

/-- An action that is not an event sends nothing and attaches nothing. -/
theorem World.quiet_of_next {world world' : World} {action : Action}
    (hevent : action.event = none) (hnext : world.next action = some world') :
    world'.sent = world.sent ∧
      world'.broker.attachmentBook = world.broker.attachmentBook := by
  have hrunning := World.running_of_next hnext
  cases action with
  | accept fd =>
      simp only [World.next, hrunning] at hnext
      split at hnext
      · cases hnext
      · obtain rfl := Option.some.inj hnext
        exact ⟨rfl, rfl⟩
  | request fd packet =>
      simp only [World.next, hrunning, Option.bind_eq_some_iff] at hnext
      obtain ⟨connection, -, hnext⟩ := hnext
      split at hnext
      · cases hnext
      · obtain rfl := Option.some.inj hnext
        exact ⟨rfl, rfl⟩
  | hangUp fd =>
      simp only [World.next, hrunning, Option.bind_eq_some_iff] at hnext
      obtain ⟨connection, -, hnext⟩ := hnext
      split at hnext
      · cases hnext
      · obtain rfl := Option.some.inj hnext
        exact ⟨rfl, rfl⟩
  | receive fd env => cases hevent
  | receiveError fd env => cases hevent

end DriveBus.ControlPlane
