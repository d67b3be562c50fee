import DriveBus.Clients.BatchDecoding
import DriveBus.Library.DescriptorTable
import DriveBus.Synchronous.ReadData

/-!
# The subscriber's control records

`process_broker_control_messages` of the subscriber: one `recvmsg` after the other until
the socket is drained or something fails, each record handled under a guard that closes
the descriptors nobody has taken.  No descriptor that comes in is lost or closed twice,
and a record changes no attachment that it does not name.
-/

namespace DriveBus.Clients

open DriveBus.ByteMemory DriveBus.ControlPlane DriveBus.UnorderedMap

open DriveBus.Synchronous.Subscriber (RunError)

/-! ## The loop -/

/-- The failures of `process_broker_control_messages`; a batch may also end in an
exception. -/
inductive ControlError
  | receive
  | closed
  | truncated
  | headerSize
  | batch (error : BatchError)
  | publisherDisconnected (error : RunError)
  | unexpectedMessageType
  deriving DecidableEq, Repr

/-- `handle_publisher_disconnected`. -/
def handlePublisherDisconnected (packet : Memory) (bodyLen : ℕ) (client : SubscriberClient) :
    RunError × SubscriberClient :=
  if bodyLen ≠ 8 then (.publisherDisconnectedPayloadSizeMismatch, client)
  else
    let attachmentId := ofLittleEndian (load packet 1 8)
    match client.dataAvailableEventFdByAttachmentId.lookup attachmentId with
    | none => (.publisherDisconnectedAttachmentMissing, client)
    | some eventFd =>
        match client.publisherAttachmentByDataAvailableEventFd.lookup eventFd with
        | none => (.publisherDisconnectedEventFdMissing, client)
        | some attachment =>
            (.none, ((client.releasePublisherAttachment attachment).eraseId
              attachmentId).eraseAttachment eventFd)

/-- The body of the loop after `recvmsg`, with the control message as it leaves it. -/
def handleControlRecord (answers : ℕ → InstallAnswers) (packet : Memory)
    (received : Received) (client : SubscriberClient) :
    Except ControlError Unit × Option ControlMessage × SubscriberClient :=
  if received.bytes.length = 0 then (.error .closed, received.control, client)
  else if received.truncated then (.error .truncated, received.control, client)
  else if received.bytes.length < 1 then (.error .headerSize, received.control, client)
  else
    let bodyLen := received.bytes.length - 1
    let messageType := packet 0
    if messageType = BrokerMessageType.subscriberAttachmentBatch.code then
      let installed := installSubscriberAttachmentBatch answers packet bodyLen
        received.control client
      (installed.1.mapError .batch, installed.2)
    else if messageType = BrokerMessageType.publisherDisconnected.code then
      let handled := handlePublisherDisconnected packet bodyLen client
      (if handled.1 = .none then .ok () else .error (.publisherDisconnected handled.1),
        received.control, handled.2)
    else (.error .unexpectedMessageType, received.control, client)

abbrev ControlReceipt := Receipt (ℕ → InstallAnswers)

/-- A call; `received` is history, the descriptors that came with the records taken. -/
structure ControlRun where
  result : Except ControlError Unit
  received : List Fd
  client : SubscriberClient

/-- `process_broker_control_messages`; the buffer keeps what a record does not
overwrite. -/
def processBrokerControlMessages :
    List ControlReceipt → Memory → SubscriberClient → ControlRun
  | [], _, client => { result := .ok (), received := [], client }
  | .failed :: _, _, client => { result := .error .receive, received := [], client }
  | .record received answers :: receipts, buffer, client =>
      let packet := store buffer 0 received.bytes
      let handled := handleControlRecord answers packet received client
      -- the guard of the record
      let guarded := handled.2.2.closeFds (receivedFds handled.2.1)
      match handled.1 with
      | .error error => { result := .error error, received := received.fds, client := guarded }
      | .ok () =>
          let rest := processBrokerControlMessages receipts packet guarded
          { rest with received := received.fds ++ rest.received }

/-! ## Where the descriptors are -/

/-- The descriptors of the installed attachments. -/
def SubscriberClient.held (client : SubscriberClient) : Multiset Fd :=
  total (fun _ attachment => (attachment.fds : Multiset Fd))
    client.publisherAttachmentByDataAvailableEventFd

/-- The descriptors held, and those closed so far. -/
def SubscriberClient.account (client : SubscriberClient) : Multiset Fd :=
  client.held + client.closed

theorem account_congr {client client' : SubscriberClient} {fds : List Fd}
    (hattachments : client'.publisherAttachmentByDataAvailableEventFd =
      client.publisherAttachmentByDataAvailableEventFd)
    (hclosed : client'.closed = client.closed ++ fds) :
    client'.account = client.account + fds := by
  rw [SubscriberClient.account, SubscriberClient.held, hattachments, hclosed,
    ← Multiset.coe_add, ← add_assoc]
  rfl

theorem account_install {client : SubscriberClient} {attachmentId : ℕ}
    {attachment : PublisherAttachment}
    (hnew : client.IsNew attachmentId attachment.dataAvailableEventFd) :
    (client.install attachmentId attachment).account = client.account + attachment.fds := by
  have htotal := total_insert (fun _ attachment => (attachment.fds : Multiset Fd))
    client.publisherAttachmentByDataAvailableEventFd attachment.dataAvailableEventFd attachment
  rw [weightAt, hnew.2, Option.elim_none, add_zero] at htotal
  rw [SubscriberClient.account, SubscriberClient.held, SubscriberClient.install_attachments,
    SubscriberClient.install_closed, htotal]
  exact add_right_comm _ _ _

/-! ## One attachment -/

/-- Nothing was installed: the maps are as before, and these descriptors were closed. -/
structure Refused (before after : SubscriberClient) (fds : List Fd) : Prop where
  ids : after.dataAvailableEventFdByAttachmentId = before.dataAvailableEventFdByAttachmentId
  attachments : after.publisherAttachmentByDataAvailableEventFd =
    before.publisherAttachmentByDataAvailableEventFd
  closed : after.closed = before.closed ++ fds

namespace SubscriberClient

theorem refused_release (client : SubscriberClient) (attachment : PublisherAttachment) :
    Refused client (client.releasePublisherAttachment attachment) attachment.fds :=
  ⟨by simp [releasePublisherAttachment, closeFds],
    by simp [releasePublisherAttachment, closeFds],
    by simp [releasePublisherAttachment, closeFds]⟩

/-- An attachment is installed under a new id and a new event descriptor, or its
descriptors are closed. -/
theorem installAttachment_cases (answers : InstallAnswers) (attachmentId : ℕ)
    (attachment : PublisherAttachment) (client : SubscriberClient) :
    (client.IsNew attachmentId attachment.dataAvailableEventFd ∧
      client.installAttachment answers attachmentId attachment =
        (.ok (), client.install attachmentId attachment)) ∨
    ∃ error after, client.installAttachment answers attachmentId attachment =
        (.error error, after) ∧ Refused client after attachment.fds := by
  rw [installAttachment_eq]
  cases hrefusal : client.refusal answers attachmentId attachment with
  | none => exact .inl ⟨isNew_of_refusal hrefusal, rfl⟩
  | some error => exact .inr ⟨error, _, rfl, client.refused_release attachment⟩

end SubscriberClient

/-! ## One batch -/

/-- The attachments that the loop reads, one after the other. -/
def readAttachments (packet : Memory) : ℕ → BatchCursor → List (ℕ × PublisherAttachment)
  | 0, _ => []
  | remaining + 1, cursor =>
      let read := cursor.readAttachment packet
      (read.1, read.2.1) :: readAttachments packet remaining read.2.2

theorem readAttachments_client (packet : Memory) (remaining : ℕ) (cursor : BatchCursor)
    (client : SubscriberClient) :
    readAttachments packet remaining { cursor with client } =
      readAttachments packet remaining cursor := by
  induction remaining generalizing cursor with
  | zero => rfl
  | succ remaining ih =>
      rw [readAttachments, readAttachments]
      exact congrArg _ (ih (cursor.readAttachment packet).2.2)

/-- An iteration moves three entries of the control message to the attachment. -/
theorem fds_readAttachment (cursor : BatchCursor) (packet : Memory) :
    ((cursor.readAttachment packet).2.1.fds : Multiset Fd) +
        openFds (cursor.readAttachment packet).2.2.fds = openFds cursor.fds := by
  have hshm := openFds_exchange cursor.fds (3 * cursor.attachmentIndex)
  have hspace := openFds_exchange (exchange cursor.fds (3 * cursor.attachmentIndex)).2
    (3 * cursor.attachmentIndex + 1)
  have hdata := openFds_exchange (exchange (exchange cursor.fds
    (3 * cursor.attachmentIndex)).2 (3 * cursor.attachmentIndex + 1)).2
    (3 * cursor.attachmentIndex + 2)
  have hfds : ∀ first second third : FdVariable, (openFds [first, second, third] : Multiset Fd) =
      openFds [first] + (openFds [second] + openFds [third]) := by
    intro first second third
    cases first <;> cases second <;> cases third <;> rfl
  rw [← hshm, ← hspace, ← hdata, ← add_assoc, ← add_assoc]
  refine congrArg (· + _) ((hfds _ _ _).trans ?_)
  rw [← add_assoc]
  rfl

/-- A batch moves its descriptors from the control message to the client. -/
theorem installAttachments_account (answers : ℕ → InstallAnswers) (packet : Memory)
    (remaining : ℕ) (cursor : BatchCursor) :
    let run := installAttachments answers packet remaining cursor
    run.2.client.account + openFds run.2.fds = cursor.client.account + openFds cursor.fds := by
  induction remaining generalizing cursor with
  | zero => rfl
  | succ remaining ih =>
      let read := cursor.readAttachment packet
      have hread := fds_readAttachment cursor packet
      rw [installAttachments]
      dsimp only
      obtain ⟨hnew, hinstalled⟩ | ⟨error, after, hfailed, hrefused⟩ :=
        cursor.client.installAttachment_cases (answers cursor.attachmentIndex) read.1 read.2.1
      · rw [hinstalled, ← hread, ← add_assoc, ← account_install hnew]
        exact ih { read.2.2 with client := cursor.client.install read.1 read.2.1 }
      · rw [hfailed, ← hread, ← add_assoc,
          ← account_congr hrefused.attachments hrefused.closed]

/-- What a batch leaves in the control message is for the guard. -/
theorem installSubscriberAttachmentBatch_account (answers : ℕ → InstallAnswers)
    (packet : Memory) (bodyLen : ℕ) (cmsg : Option ControlMessage)
    (client : SubscriberClient) :
    let installed := installSubscriberAttachmentBatch answers packet bodyLen cmsg client
    installed.2.2.account + receivedFds installed.2.1 = client.account + receivedFds cmsg := by
  obtain ⟨error, hrefused⟩ | ⟨-, rfl, hempty⟩ | ⟨count, fds, hcount, rfl, rfl, hfds⟩ :=
    installSubscriberAttachmentBatch_cases answers packet bodyLen cmsg client
  · rw [hrefused]
  · rw [hempty]
  · rw [installSubscriberAttachmentBatch_eq hcount hfds]
    exact installAttachments_account answers packet count _

/-! ## One record -/

theorem handlePublisherDisconnected_account (packet : Memory) (bodyLen : ℕ)
    (client : SubscriberClient) :
    (handlePublisherDisconnected packet bodyLen client).2.account = client.account := by
  rw [handlePublisherDisconnected]
  split
  · rfl
  dsimp only
  split
  · rfl
  next eventFd hid =>
    split
    · rfl
    next attachment hattachment =>
      have htotal := total_erase (fun _ attachment => (attachment.fds : Multiset Fd))
        client.publisherAttachmentByDataAvailableEventFd eventFd
      rw [weightAt, hattachment, Option.elim_some] at htotal
      rw [SubscriberClient.account, SubscriberClient.account, SubscriberClient.held,
        SubscriberClient.held, ← htotal]
      simp only [SubscriberClient.eraseAttachment, SubscriberClient.eraseId,
        SubscriberClient.releasePublisherAttachment, SubscriberClient.closeFds,
        SubscriberClient.setInterest_attachments, SubscriberClient.setInterest_closed,
        ← Multiset.coe_add]
      rw [add_assoc, add_comm (attachment.fds : Multiset Fd)]

/-- A record and its guard account for every descriptor that came with it. -/
theorem handleControlRecord_account (answers : ℕ → InstallAnswers) (packet : Memory)
    (received : Received) (client : SubscriberClient) :
    let handled := handleControlRecord answers packet received client
    (handled.2.2.closeFds (receivedFds handled.2.1)).account =
      client.account + received.fds := by
  have hguard : ∀ (after : SubscriberClient) fds,
      (after.closeFds fds).account = after.account + fds := fun after fds =>
    account_congr rfl rfl
  dsimp only
  rw [hguard, handleControlRecord]
  split
  · rfl
  split
  · rfl
  split
  · rfl
  dsimp only
  split
  · exact installSubscriberAttachmentBatch_account answers packet _ received.control client
  split
  · rw [handlePublisherDisconnected_account]
    rfl
  · rfl

/-- A call accounts for every descriptor it has received. -/
theorem processBrokerControlMessages_account (receipts : List ControlReceipt)
    (buffer : Memory) (client : SubscriberClient) :
    let run := processBrokerControlMessages receipts buffer client
    run.client.account = client.account + run.received := by
  induction receipts generalizing buffer client with
  | nil => exact (add_zero _).symm
  | cons receipt receipts ih =>
      cases receipt with
      | failed => exact (add_zero _).symm
      | record received answers =>
          have hrecord := handleControlRecord_account answers (store buffer 0 received.bytes)
            received client
          rw [processBrokerControlMessages]
          dsimp only at hrecord ⊢
          split
          · exact hrecord
          · rw [ih, hrecord, ← Multiset.coe_add, add_assoc]

/-! ## The two maps -/

namespace SubscriberClient

/-- The two maps go from the ids to the event descriptors and on to the attachments, and
back. -/
structure Paired (client : SubscriberClient) : Prop where
  forward : ∀ {id eventFd}, client.dataAvailableEventFdByAttachmentId.lookup id =
    some eventFd → (client.publisherAttachmentByDataAvailableEventFd.lookup eventFd).isSome
  backward : ∀ {eventFd attachment}, client.publisherAttachmentByDataAvailableEventFd.lookup
    eventFd = some attachment → attachment.dataAvailableEventFd = eventFd ∧
      ∃ id, client.dataAvailableEventFdByAttachmentId.lookup id = some eventFd
  injective : ∀ {id other eventFd}, client.dataAvailableEventFdByAttachmentId.lookup id =
    some eventFd → client.dataAvailableEventFdByAttachmentId.lookup other = some eventFd →
      id = other

/-- An attachment is installed under an id and an event descriptor. -/
structure Has (client : SubscriberClient) (id : ℕ) (eventFd : FdVariable)
    (attachment : PublisherAttachment) : Prop where
  byId : client.dataAvailableEventFdByAttachmentId.lookup id = some eventFd
  byEventFd : client.publisherAttachmentByDataAvailableEventFd.lookup eventFd =
    some attachment

variable {client client' : SubscriberClient} {id : ℕ} {eventFd : FdVariable}
  {attachment : PublisherAttachment}

theorem Paired.congr (hpaired : client.Paired)
    (hids : client'.dataAvailableEventFdByAttachmentId =
      client.dataAvailableEventFdByAttachmentId)
    (hattachments : client'.publisherAttachmentByDataAvailableEventFd =
      client.publisherAttachmentByDataAvailableEventFd) : client'.Paired := by
  obtain ⟨hattachment, hid, hinjective⟩ := hpaired
  rw [← hids] at hattachment hid hinjective
  rw [← hattachments] at hattachment hid
  exact ⟨hattachment, hid, hinjective⟩

theorem Has.congr (hhas : client.Has id eventFd attachment)
    (hids : client'.dataAvailableEventFdByAttachmentId =
      client.dataAvailableEventFdByAttachmentId)
    (hattachments : client'.publisherAttachmentByDataAvailableEventFd =
      client.publisherAttachmentByDataAvailableEventFd) :
    client'.Has id eventFd attachment :=
  ⟨by rw [hids, hhas.byId], by rw [hattachments, hhas.byEventFd]⟩

theorem paired_initial : initial.Paired where
  forward hlookup := by cases hlookup
  backward hlookup := by cases hlookup
  injective hlookup := by cases hlookup

theorem Paired.install (hpaired : client.Paired)
    (hnew : client.IsNew id attachment.dataAvailableEventFd) :
    (client.install id attachment).Paired := by
  have hunused : ∀ other, client.dataAvailableEventFdByAttachmentId.lookup other ≠
      some attachment.dataAvailableEventFd := fun other hlookup => by
    have hfound := hpaired.forward hlookup
    rw [hnew.2] at hfound
    cases hfound
  constructor
  · intro other eventFd hlookup
    rw [install_ids, lookup_insert] at hlookup
    rw [install_attachments, lookup_insert]
    split at hlookup
    · rw [Option.some.injEq] at hlookup
      rw [if_pos hlookup.symm]
      rfl
    · split
      · rfl
      · exact hpaired.forward hlookup
  · intro eventFd found hlookup
    rw [install_attachments, lookup_insert] at hlookup
    rw [install_ids]
    split at hlookup
    next heq =>
      rw [Option.some.injEq] at hlookup
      exact ⟨by rw [← hlookup, heq], id, by rw [AList.lookup_insert, heq]⟩
    next hne =>
      obtain ⟨hdata, other, hother⟩ := hpaired.backward hlookup
      have hid : other ≠ id := fun heq => by
        rw [heq, hnew.1] at hother
        cases hother
      exact ⟨hdata, other, by rw [AList.lookup_insert_ne hid, hother]⟩
  · intro first second eventFd hfirst hsecond
    rw [install_ids, lookup_insert] at hfirst hsecond
    split at hfirst
    next hfirstId =>
      split at hsecond
      next hsecondId => rw [hfirstId, hsecondId]
      next => exact absurd (hsecond.trans hfirst.symm) (hunused second)
    next =>
      split at hsecond
      next => exact absurd (hfirst.trans hsecond.symm) (hunused first)
      next => exact hpaired.injective hfirst hsecond

theorem has_install (client : SubscriberClient) (id : ℕ) (attachment : PublisherAttachment) :
    (client.install id attachment).Has id attachment.dataAvailableEventFd attachment :=
  ⟨by rw [install_ids, AList.lookup_insert], by rw [install_attachments, AList.lookup_insert]⟩

theorem Has.install (hhas : client.Has id eventFd attachment) {other : ℕ}
    {added : PublisherAttachment} (hnew : client.IsNew other added.dataAvailableEventFd) :
    (client.install other added).Has id eventFd attachment := by
  have hid : id ≠ other := fun heq => by
    have heventFd := hhas.byId
    rw [heq, hnew.1] at heventFd
    cases heventFd
  have hfd : eventFd ≠ added.dataAvailableEventFd := fun heq => by
    have hattachment := hhas.byEventFd
    rw [heq, hnew.2] at hattachment
    cases hattachment
  constructor
  · rw [install_ids, AList.lookup_insert_ne hid, hhas.byId]
  · rw [install_attachments, AList.lookup_insert_ne hfd, hhas.byEventFd]

/-- The state after an attachment has been released and dropped from both maps. -/
def drop (client : SubscriberClient) (id : ℕ) (eventFd : FdVariable)
    (attachment : PublisherAttachment) : SubscriberClient :=
  ((client.releasePublisherAttachment attachment).eraseId id).eraseAttachment eventFd

theorem drop_ids (client : SubscriberClient) (id : ℕ) (eventFd : FdVariable)
    (attachment : PublisherAttachment) :
    (client.drop id eventFd attachment).dataAvailableEventFdByAttachmentId =
      client.dataAvailableEventFdByAttachmentId.erase id := by
  simp [drop, eraseAttachment, eraseId, releasePublisherAttachment, closeFds]

theorem drop_attachments (client : SubscriberClient) (id : ℕ) (eventFd : FdVariable)
    (attachment : PublisherAttachment) :
    (client.drop id eventFd attachment).publisherAttachmentByDataAvailableEventFd =
      client.publisherAttachmentByDataAvailableEventFd.erase eventFd := by
  simp [drop, eraseAttachment, eraseId, releasePublisherAttachment, closeFds]

theorem Paired.drop (hpaired : client.Paired) (hhas : client.Has id eventFd attachment) :
    (client.drop id eventFd attachment).Paired := by
  constructor
  · intro other otherFd hlookup
    rw [drop_ids, lookup_erase] at hlookup
    split at hlookup
    · cases hlookup
    next hne =>
      have hfd : otherFd ≠ eventFd := fun heq =>
        hne (hpaired.injective (heq ▸ hlookup) hhas.byId)
      rw [drop_attachments, AList.lookup_erase_ne hfd]
      exact hpaired.forward hlookup
  · intro otherFd found hlookup
    rw [drop_attachments, lookup_erase] at hlookup
    split at hlookup
    · cases hlookup
    next hne =>
      obtain ⟨hdata, other, hother⟩ := hpaired.backward hlookup
      have hid : other ≠ id := fun heq => by
        rw [heq, hhas.byId, Option.some.injEq] at hother
        exact hne hother.symm
      exact ⟨hdata, other, by rw [drop_ids, AList.lookup_erase_ne hid, hother]⟩
  · intro first second otherFd hfirst hsecond
    rw [drop_ids, lookup_erase] at hfirst hsecond
    split at hfirst
    · cases hfirst
    split at hsecond
    · cases hsecond
    exact hpaired.injective hfirst hsecond

theorem Has.drop (hpaired : client.Paired) (hhas : client.Has id eventFd attachment)
    {other : ℕ} {otherFd : FdVariable} {found : PublisherAttachment}
    (hother : client.Has other otherFd found) (hne : id ≠ other) :
    (client.drop other otherFd found).Has id eventFd attachment := by
  have hfd : eventFd ≠ otherFd := fun heq =>
    hne (hpaired.injective hhas.byId (heq ▸ hother.byId))
  constructor
  · rw [drop_ids, AList.lookup_erase_ne hne, hhas.byId]
  · rw [drop_attachments, AList.lookup_erase_ne hfd, hhas.byEventFd]

end SubscriberClient

/-- What holds of the maps, is kept by an installation under new keys and does not depend
on the rest of the client is kept by a batch. -/
theorem installAttachments_preserves {P : SubscriberClient → Prop}
    (hinstall : ∀ {client : SubscriberClient} {id : ℕ} {attachment : PublisherAttachment},
      P client → client.IsNew id attachment.dataAvailableEventFd →
        P (client.install id attachment))
    (hrefuse : ∀ {before after : SubscriberClient} {fds : List Fd},
      P before → Refused before after fds → P after)
    (answers : ℕ → InstallAnswers) (packet : Memory) (remaining : ℕ) {cursor : BatchCursor}
    (hholds : P cursor.client) :
    P (installAttachments answers packet remaining cursor).2.client := by
  induction remaining generalizing cursor with
  | zero => exact hholds
  | succ remaining ih =>
      let read := cursor.readAttachment packet
      rw [installAttachments]
      dsimp only
      obtain ⟨hnew, hinstalled⟩ | ⟨error, after, hfailed, hrefused⟩ :=
        cursor.client.installAttachment_cases (answers cursor.attachmentIndex) read.1 read.2.1
      · rw [hinstalled]
        exact ih (hinstall hholds hnew)
      · rw [hfailed]
        exact hrefuse hholds hrefused

theorem installSubscriberAttachmentBatch_preserves {P : SubscriberClient → Prop}
    (hinstall : ∀ {client : SubscriberClient} {id : ℕ} {attachment : PublisherAttachment},
      P client → client.IsNew id attachment.dataAvailableEventFd →
        P (client.install id attachment))
    (hrefuse : ∀ {before after : SubscriberClient} {fds : List Fd},
      P before → Refused before after fds → P after)
    (answers : ℕ → InstallAnswers) (packet : Memory) (bodyLen : ℕ)
    (cmsg : Option ControlMessage) {client : SubscriberClient} (hholds : P client) :
    P (installSubscriberAttachmentBatch answers packet bodyLen cmsg client).2.2 := by
  obtain ⟨error, hrefused⟩ | ⟨-, -, hempty⟩ | ⟨count, fds, hcount, rfl, rfl, hfds⟩ :=
    installSubscriberAttachmentBatch_cases answers packet bodyLen cmsg client
  · rwa [hrefused]
  · rwa [hempty]
  · rw [installSubscriberAttachmentBatch_eq hcount hfds]
    exact installAttachments_preserves hinstall hrefuse answers packet count hholds

/-- A disconnection drops one attachment, or nothing happens. -/
theorem handlePublisherDisconnected_cases (packet : Memory) (bodyLen : ℕ)
    (client : SubscriberClient) :
    (∃ error, error ≠ .none ∧
      handlePublisherDisconnected packet bodyLen client = (error, client)) ∨
    ∃ eventFd attachment, bodyLen = 8 ∧
      client.Has (ofLittleEndian (load packet 1 8)) eventFd attachment ∧
      handlePublisherDisconnected packet bodyLen client =
        (.none, client.drop (ofLittleEndian (load packet 1 8)) eventFd attachment) := by
  rw [handlePublisherDisconnected]
  by_cases hbody : bodyLen ≠ 8
  · exact .inl ⟨_, by decide, if_pos hbody⟩
  rw [if_neg hbody]
  dsimp only
  cases hid : client.dataAvailableEventFdByAttachmentId.lookup
      (ofLittleEndian (load packet 1 8)) with
  | none => exact .inl ⟨_, by decide, rfl⟩
  | some eventFd =>
      dsimp only
      cases hattachment : client.publisherAttachmentByDataAvailableEventFd.lookup eventFd with
      | none => exact .inl ⟨_, by decide, rfl⟩
      | some attachment =>
          exact .inr ⟨eventFd, attachment, not_not.mp hbody, ⟨hid, hattachment⟩, rfl⟩

/-- The record says that the publisher of this attachment has gone. -/
def Received.Disconnects (received : Received) (id : ℕ) : Prop :=
  ∃ body, received.bytes = BrokerMessageType.publisherDisconnected.code :: body ∧
    body.length = 8 ∧ ofLittleEndian body = id

/-- What a batch and the disconnections of other attachments keep, a record keeps. -/
theorem handleControlRecord_preserves {P : SubscriberClient → Prop}
    (hinstall : ∀ {client : SubscriberClient} {id : ℕ} {attachment : PublisherAttachment},
      P client → client.IsNew id attachment.dataAvailableEventFd →
        P (client.install id attachment))
    (hrefuse : ∀ {before after : SubscriberClient} {fds : List Fd},
      P before → Refused before after fds → P after)
    (answers : ℕ → InstallAnswers) (buffer : Memory) {received : Received}
    (hdrop : ∀ {client : SubscriberClient} {id : ℕ} {eventFd : FdVariable}
      {attachment : PublisherAttachment}, received.Disconnects id → P client →
        client.Has id eventFd attachment → P (client.drop id eventFd attachment))
    {client : SubscriberClient} (hholds : P client) :
    P (handleControlRecord answers (store buffer 0 received.bytes) received client).2.2 := by
  rw [handleControlRecord]
  split
  · exact hholds
  next hsize =>
    split
    · exact hholds
    split
    · exact hholds
    dsimp only
    split
    · exact installSubscriberAttachmentBatch_preserves hinstall hrefuse answers _ _ _ hholds
    split
    next htype =>
      obtain ⟨error, -, hrefused⟩ | ⟨eventFd, attachment, hbody, hhas, hdropped⟩ :=
        handlePublisherDisconnected_cases (store buffer 0 received.bytes)
          (received.bytes.length - 1) client
      · rwa [hrefused]
      · rw [hdropped]
        refine hdrop ?_ hholds hhas
        obtain ⟨code, body, hbytes⟩ := List.exists_cons_of_length_pos (Nat.pos_of_ne_zero hsize)
        rw [hbytes] at htype hbody ⊢
        have hcode : store buffer 0 (code :: body) 0 = code := by simp [store]
        refine ⟨body, ?_, hbody, ?_⟩
        · rw [hbytes, ← hcode, htype]
        · rw [← hbody]
          exact congrArg ofLittleEndian (load_body buffer code body).symm
    · exact hholds

/-! ## Whole calls -/

/-- What every record of a call keeps, guard included, the call keeps. -/
theorem processBrokerControlMessages_preserves {P : SubscriberClient → Prop}
    (hinstall : ∀ {client : SubscriberClient} {id : ℕ} {attachment : PublisherAttachment},
      P client → client.IsNew id attachment.dataAvailableEventFd →
        P (client.install id attachment))
    (hrefuse : ∀ {before after : SubscriberClient} {fds : List Fd},
      P before → Refused before after fds → P after)
    {receipts : List ControlReceipt}
    (hdrop : ∀ {received : Received} {answers : ℕ → InstallAnswers}
      {client : SubscriberClient} {id : ℕ} {eventFd : FdVariable}
      {attachment : PublisherAttachment}, .record received answers ∈ receipts →
        received.Disconnects id → P client → client.Has id eventFd attachment →
          P (client.drop id eventFd attachment))
    (buffer : Memory) {client : SubscriberClient} (hholds : P client) :
    P (processBrokerControlMessages receipts buffer client).client := by
  induction receipts generalizing buffer client with
  | nil => exact hholds
  | cons receipt receipts ih =>
      cases receipt with
      | failed => exact hholds
      | record received answers =>
          have hrecord := handleControlRecord_preserves hinstall hrefuse answers buffer
            (hdrop List.mem_cons_self) hholds
          have hguarded : P ((handleControlRecord answers (store buffer 0 received.bytes)
              received client).2.2.closeFds (receivedFds (handleControlRecord answers
                (store buffer 0 received.bytes) received client).2.1)) :=
            hrefuse hrecord ⟨rfl, rfl, rfl⟩
          rw [processBrokerControlMessages]
          dsimp only
          split
          · exact hguarded
          · exact ih (fun hmem => hdrop (List.mem_cons_of_mem _ hmem)) _ hguarded

theorem processBrokerControlMessages_paired (receipts : List ControlReceipt)
    (buffer : Memory) {client : SubscriberClient} (hpaired : client.Paired) :
    (processBrokerControlMessages receipts buffer client).client.Paired :=
  processBrokerControlMessages_preserves (fun hpaired hnew => hpaired.install hnew)
    (fun hpaired hrefused => hpaired.congr hrefused.ids hrefused.attachments)
    (fun _ _ hpaired hhas => hpaired.drop hhas) buffer hpaired

/-- A call drops no attachment but those whose disconnection it receives. -/
theorem processBrokerControlMessages_has {receipts : List ControlReceipt} (buffer : Memory)
    {client : SubscriberClient} (hpaired : client.Paired) {id : ℕ} {eventFd : FdVariable}
    {attachment : PublisherAttachment} (hhas : client.Has id eventFd attachment)
    (hkept : ∀ received answers, .record received answers ∈ receipts →
      ¬received.Disconnects id) :
    (processBrokerControlMessages receipts buffer client).client.Has id eventFd attachment :=
  (processBrokerControlMessages_preserves
    (P := fun client => client.Paired ∧ client.Has id eventFd attachment)
    (fun ⟨hpaired, hhas⟩ hnew => ⟨hpaired.install hnew, hhas.install hnew⟩)
    (fun ⟨hpaired, hhas⟩ hrefused => ⟨hpaired.congr hrefused.ids hrefused.attachments,
      hhas.congr hrefused.ids hrefused.attachments⟩)
    (fun hmem hdisconnects ⟨hpaired, hhas⟩ hother => ⟨hpaired.drop hother,
      hhas.drop hpaired hother fun heq => hkept _ _ hmem (heq ▸ hdisconnects)⟩)
    buffer ⟨hpaired, hhas⟩).2

theorem closed_grows (receipts : List ControlReceipt) (buffer : Memory)
    (client : SubscriberClient) :
    client.closed <+: (processBrokerControlMessages receipts buffer client).client.closed :=
  processBrokerControlMessages_preserves (P := fun after => client.closed <+: after.closed)
    (fun hlog _ => by rwa [SubscriberClient.install_closed])
    (fun hlog hrefused => by
      rw [hrefused.closed]
      exact hlog.trans (List.prefix_append _ _))
    (fun _ _ hlog _ => hlog.trans (by
      simp [SubscriberClient.drop, SubscriberClient.eraseAttachment, SubscriberClient.eraseId,
        SubscriberClient.releasePublisherAttachment, SubscriberClient.closeFds]))
    buffer (List.prefix_refl _)

end DriveBus.Clients
