import DriveBus.ControlPlane.Network

/-!
# Roles

Which descriptors hold a role, whatever the clients send.  A handler gives a role
to its own client only and takes it away only when that client leaves, so a
connection that has sent nothing has none, and its end stops the broker.
-/

namespace DriveBus.ControlPlane

open DriveBus.ByteMemory DriveBus.Contract DriveBus.Transition DriveBus.UnorderedMap

/-! ## What the session operations leave alone -/

theorem Session.send_broker (env : Env) (session : Session) (peer : Fd)
    (message : BrokerMessage) (reason : ExitReason) :
    Meets (session.send env peer message reason) (fun after => after.broker = session.broker)
      fun _ => True := by
  unfold Session.send
  split
  · exact .ok rfl
  · exact .error trivial

theorem Session.eventfd_broker (env : Env) (session : Session) (reason : ExitReason) :
    Meets (session.eventfd env reason) (fun result => result.2.broker = session.broker)
      fun _ => True := by
  unfold Session.eventfd
  split
  · exact .ok rfl
  · exact .error trivial

/-- The roles after a computation that returns. -/
def EndsWithRoles (program : Except ExitReason Session) (roles : Map Fd BrokerRole) :
    Prop :=
  Meets program (fun after => after.broker.roleByFd = roles) fun _ => True

theorem Session.takeAttachmentId_roles (session : Session) :
    Meets session.takeAttachmentId
      (fun result => result.2.broker.roleByFd = session.broker.roleByFd) fun _ => True := by
  dsimp only [Session.takeAttachmentId]
  split
  · exact .error trivial
  · exact .ok rfl

theorem foldlM_roles {α : Type} {items : List α} {body : Session → α → Except ExitReason Session}
    {session : Session}
    (hbody : ∀ session item, EndsWithRoles (body session item) session.broker.roleByFd) :
    EndsWithRoles (items.foldlM body session) session.broker.roleByFd :=
  Meets.foldlM
    (fun _ (after : Session) => after.broker.roleByFd = session.broker.roleByFd) rfl
    fun _ item _ after _ hafter => hafter ▸ hbody after item

theorem sendAttachmentBatch_roles (env : Env) (session : Session) (subscriberFd : Fd)
    (attachments : List SubscriberAttachment) (shmFds : List Fd) (reason : ExitReason) :
    EndsWithRoles
      (sendAttachmentBatch env session subscriberFd attachments shmFds reason)
      session.broker.roleByFd := by
  refine Meets.bind .always fun _ _ => Meets.bind .always fun _ _ => ?_
  exact (session.send_broker _ _ _ _).mono (fun _ hafter => congrArg _ hafter) fun _ => id

/-! ## A client leaves -/

theorem releaseAttachment_roles (env : Env) (session : Session)
    (attachment : SubscriberAttachment) :
    EndsWithRoles (releaseAttachment env session attachment) session.broker.roleByFd := by
  refine Meets.bind (session.send_broker _ _ _ _) fun sent hsent => ?_
  refine Meets.bind .always fun _ _ => Meets.bind .always fun _ _ => .pure ?_
  exact show sent.broker.roleByFd = session.broker.roleByFd by rw [hsent]

theorem dropTopicSubscriber_roles (subscriberFd : Fd) (broker : Broker)
    (topicId : TopicId) :
    Meets (dropTopicSubscriber subscriberFd broker topicId)
      (fun after => after.roleByFd = broker.roleByFd) fun _ => True :=
  Meets.bind .always fun _ _ => Meets.bind .always fun _ _ => .pure rfl

theorem handleSubsciberDisconect_roles (env : Env) (fd : Fd) (session : Session) :
    EndsWithRoles (handleSubsciberDisconect env fd session)
      (session.broker.roleByFd.erase fd) := by
  refine Meets.bind .always fun attachments _ => Meets.bind .always fun topicIds _ => ?_
  refine Meets.bind (foldlM_roles (releaseAttachment_roles env)) fun released hreleased => ?_
  refine Meets.bind (Meets.foldlM
    (fun _ (broker : Broker) => broker.roleByFd = session.broker.roleByFd.erase fd)
    (by rw [← hreleased]) fun _ topicId _ broker _ hbroker =>
      hbroker ▸ dropTopicSubscriber_roles fd broker topicId) fun broker hbroker => ?_
  exact .pure hbroker

theorem detachSubscriber_roles (env : Env) (publisherFd : Fd) (session : Session)
    (subscriberFd : Fd) :
    EndsWithRoles (detachSubscriber env publisherFd session subscriberFd)
      session.broker.roleByFd := by
  refine Meets.bind .always fun _ _ => Meets.bind .always fun _ _ => ?_
  refine Meets.bind (session.send_broker _ _ _ _) fun sent hsent => .pure ?_
  exact show sent.broker.roleByFd = session.broker.roleByFd by rw [hsent]

theorem handlePublisherDisconnect_roles (env : Env) (fd : Fd) (session : Session) :
    EndsWithRoles (handlePublisherDisconnect env fd session)
      (session.broker.roleByFd.erase fd) := by
  refine Meets.bind .always fun _ _ => Meets.bind .always fun _ _ => ?_
  refine Meets.bind .always fun _ _ => Meets.bind .always fun _ _ => ?_
  refine Meets.bind (foldlM_roles (detachSubscriber_roles env fd)) fun detached hdetached => ?_
  refine Meets.bind .always fun _ _ => ?_
  exact .pure (congrArg (·.erase fd) hdetached)

/-! ## A client registers -/

theorem attachPublisher_roles (env : Env) (topicId : TopicId) (attaching : Attaching)
    (publisherFd : Fd) :
    Meets (attachPublisher env topicId attaching publisherFd)
      (fun after => after.session.broker.roleByFd = attaching.session.broker.roleByFd)
      fun _ => True := by
  refine Meets.bind .always fun _ _ => Meets.bind .always fun slots _ => ?_
  refine Meets.bind .always fun _ _ => Meets.bind .always fun _ _ => ?_
  refine Meets.bind (Session.eventfd_broker _ _ _) fun created hcreated => ?_
  refine Meets.bind (Session.send_broker _ _ _ _ _) fun sent hsent => ?_
  refine Meets.bind (Session.takeAttachmentId_roles _) fun taken htaken => ?_
  refine .pure (htaken.trans ?_)
  rw [hsent, Session.broker_update, ← hcreated]
  rfl

theorem attachTopic_roles (env : Env) (subscriberFd : Fd) (attaching : Attaching)
    (topicId : TopicId) :
    Meets (attachTopic env subscriberFd attaching topicId)
      (fun after => after.session.broker.roleByFd = attaching.session.broker.roleByFd)
      fun _ => True := by
  unfold attachTopic
  dsimp only
  split
  · exact .pure rfl
  · refine Meets.bind .always fun _ _ => ?_
    exact Meets.foldlM (fun _ (after : Attaching) =>
      after.session.broker.roleByFd = attaching.session.broker.roleByFd) rfl
      fun _ publisherFd _ after _ hafter =>
        hafter ▸ attachPublisher_roles env topicId after publisherFd

theorem registerSubscriber_roles (env : Env) (fd : Fd) (topicIds : List TopicId)
    (session : Session) :
    EndsWithRoles (registerSubscriber env fd topicIds session)
      (insertNew session.broker.roleByFd fd .subscriber) := by
  refine Meets.bind (Meets.foldlM (fun _ (after : Attaching) => after.session.broker.roleByFd =
    insertNew session.broker.roleByFd fd .subscriber) rfl fun _ topicId _ after _ hafter =>
      hafter ▸ attachTopic_roles env fd after topicId) fun attached hattached => ?_
  refine Meets.bind (sendAttachmentBatch_roles _ _ _ _ _ _) fun batch hbatch => ?_
  exact .pure (hbatch.trans hattached)

theorem attachSubscriber_roles (env : Env) (publisherFd : Fd) (topicId : TopicId)
    (shmFd spaceAvailableEventFd : Fd) (session : Session) (subscriberFd : Fd) :
    EndsWithRoles
      (attachSubscriber env publisherFd topicId shmFd spaceAvailableEventFd session
        subscriberFd) session.broker.roleByFd := by
  refine Meets.bind (Session.eventfd_broker _ _ _) fun created hcreated => ?_
  refine Meets.bind (Session.send_broker _ _ _ _ _) fun sent hsent => ?_
  refine Meets.bind (Session.takeAttachmentId_roles _) fun taken htaken => ?_
  refine Meets.bind (sendAttachmentBatch_roles _ _ _ _ _ _) fun batch hbatch => ?_
  refine Meets.bind .always fun _ _ => .pure (hbatch.trans (htaken.trans ?_))
  rw [hsent, Session.broker_update, ← hcreated]
  rfl

theorem registerPublisher_roles (env : Env) (fd : Fd) (topicId : TopicId)
    (shmFd spaceAvailableEventFd : Fd) (session : Session) :
    EndsWithRoles (registerPublisher env fd topicId shmFd spaceAvailableEventFd session)
      (insertNew session.broker.roleByFd fd .publisher) := by
  refine Meets.bind .always fun _ _ => Meets.bind .always fun _ _ => ?_
  refine Meets.bind .always fun _ _ => Meets.bind .always fun _ _ => ?_
  refine Meets.bind (Session.send_broker _ _ _ _ _) fun sent hsent => ?_
  refine Meets.bind (foldlM_roles (attachSubscriber_roles env fd topicId shmFd _))
    fun attached hattached => ?_
  exact .pure (hattached.trans (congrArg Broker.roleByFd hsent))

/-! ## One event -/

theorem handleClosure_roles (env : Env) (fd : Fd) (session : Session) :
    EndsWithRoles (handleClosure env fd session) (session.broker.roleByFd.erase fd) := by
  refine Meets.bind .always fun role _ => ?_
  cases role with
  | subscriber => exact handleSubsciberDisconect_roles env fd session
  | publisher => exact handlePublisherDisconnect_roles env fd session

theorem handleReceiveError_roles (env : Env) (fd : Fd) (session : Session) :
    EndsWithRoles (handleReceiveError env fd session)
      (session.broker.roleByFd.erase fd) := by
  refine Meets.bind .always fun role _ => Meets.bind .always fun _ _ => ?_
  cases role with
  | subscriber => exact handleSubsciberDisconect_roles env fd _
  | publisher => exact handlePublisherDisconnect_roles env fd _

theorem handleStatusQuery_roles (env : Env) (fd : Fd) (session : Session) :
    (handleStatusQuery env fd session).broker.roleByFd = session.broker.roleByFd := by
  unfold handleStatusQuery Session.send
  split <;> rename_i hsend <;> split at hsend <;> cases hsend <;> rfl

/-- What a record of any content does to the roles. -/
structure RolesAfter (fd : Fd) (packet : Packet) (before : Broker)
    (result : Session × Bool) : Prop where
  others : ∀ other, other ≠ fd →
    result.1.broker.roleByFd.lookup other = before.roleByFd.lookup other
  kept : result.2 = false →
    result.1.broker.roleByFd = before.roleByFd ∨ packet.Registers
  closed : result.2 = true → packet.QueriesStatus ∧
      result.1.broker.roleByFd = before.roleByFd ∨
    result.1.broker.roleByFd.lookup fd = none

theorem receiveBuffer_zero (env : Env) {bytes : List Byte}
    (hne : bytes.take kMaxMessageSize ≠ []) :
    bytes.head? = some (receiveBuffer env (bytes.take kMaxMessageSize) 0) := by
  cases bytes with
  | nil => exact absurd rfl hne
  | cons code bytes => simp [receiveBuffer, kMaxMessageSize]

theorem handleRecord_roles (env : Env) (fd : Fd) (packet : Packet) (session : Session) :
    Meets (handleRecord env fd packet session) (RolesAfter fd packet session.broker)
      fun _ => True := by
  unfold handleRecord
  dsimp only
  split
  · refine Meets.bind (handleClosure_roles env fd session) fun after hroles => .pure ?_
    refine ⟨fun other hother => ?_, by rintro ⟨⟩, fun _ => .inr ?_⟩
    · rw [hroles, lookup_erase, if_neg hother]
    · rw [hroles, lookup_erase, if_pos rfl]
  · have hhead := receiveBuffer_zero env ‹packet.bytes.take kMaxMessageSize ≠ []›
    refine Meets.bind .always fun _ _ => ?_
    split
    · have hquery : packet.QueriesStatus := hhead.trans (congrArg some ‹_›)
      have hroles := handleStatusQuery_roles env fd session
      refine Meets.bind .always fun _ _ => .pure ?_
      exact ⟨fun _ _ => by rw [hroles], by rintro ⟨⟩, fun _ => .inl ⟨hquery, hroles⟩⟩
    · split
      · have hregisters : packet.Registers := .inl (hhead.trans (congrArg some ‹_›))
        refine Meets.bind .always fun _ _ => Meets.bind .always fun _ _ => ?_
        refine Meets.bind (registerSubscriber_roles env fd _ session)
          fun after hroles => .pure ?_
        refine ⟨fun other hother => ?_, fun _ => .inr hregisters, by rintro ⟨⟩⟩
        rw [hroles, lookup_insertNew_ne _ _ hother]
      · split
        · have hregisters : packet.Registers := .inr (hhead.trans (congrArg some ‹_›))
          split
          · exact .error trivial
          · exact .error trivial
          · refine Meets.bind (registerPublisher_roles env fd _ _ _ session)
              fun after hroles => .pure ?_
            refine ⟨fun other hother => ?_, fun _ => .inr hregisters, by rintro ⟨⟩⟩
            rw [hroles, lookup_insertNew_ne _ _ hother]
          · exact .error trivial
        · exact .pure ⟨fun _ _ => rfl, fun _ => .inl rfl, by rintro ⟨⟩⟩

end DriveBus.ControlPlane
