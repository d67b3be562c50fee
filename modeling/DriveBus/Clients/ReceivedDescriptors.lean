import DriveBus.Clients.PublisherControl
import DriveBus.Clients.SubscriberControl
import DriveBus.SharedMemory.Delivery

/-!
# Received descriptors

Whatever records a client receives and wherever handling them fails, each descriptor
that came with one belongs to an installed attachment or a tracked subscriber, or has
been closed once.
-/

namespace DriveBus.Clients

open DriveBus.ByteMemory DriveBus.ControlPlane DriveBus.DescriptorTable

/-! ## Where a batch stops -/

/-- A batch stops at a position.  The attachments before it were accepted one after the
other and stay installed, as do those of earlier batches; the one that stands there, if
there is one, is refused, and only its own descriptors are closed. -/
structure StopsAt (answers : ℕ → InstallAnswers) (entries : List (ℕ × PublisherAttachment))
    (client : SubscriberClient) (position : ℕ) (result : Except BatchError Unit)
    (after : SubscriberClient) : Prop where
  le_length : position ≤ entries.length
  accepted : ∀ {index entry}, index < position → entries[index]? = some entry →
    (client.installAll (entries.take index)).refusal (answers index) entry.1 entry.2 = none
  refused : ∀ {entry}, entries[position]? = some entry → ∃ error,
    (client.installAll (entries.take position)).refusal (answers position) entry.1 entry.2 =
        some error ∧
      result = .error error ∧
      after = (client.installAll (entries.take position)).releasePublisherAttachment entry.2
  complete : position = entries.length → result = .ok () ∧ after = client.installAll entries
  installed : ∀ entry ∈ entries.take position,
    after.Has entry.1 entry.2.dataAvailableEventFd entry.2
  earlier : ∀ {id eventFd attachment}, client.Has id eventFd attachment →
    after.Has id eventFd attachment

namespace StopsAt

variable {answers : ℕ → InstallAnswers} {entries : List (ℕ × PublisherAttachment)}
  {client after : SubscriberClient} {entry : ℕ × PublisherAttachment}

theorem nil : StopsAt answers [] client 0 (.ok ()) client where
  le_length := le_rfl
  accepted hlt := absurd hlt (Nat.not_lt_zero _)
  refused hentry := by cases hentry
  complete _ := ⟨rfl, rfl⟩
  installed _ hmem := by cases hmem
  earlier hhas := hhas

/-- The first attachment is refused. -/
theorem head {error : BatchError}
    (hrefusal : client.refusal (answers 0) entry.1 entry.2 = some error) :
    StopsAt answers (entry :: entries) client 0 (.error error)
      (client.releasePublisherAttachment entry.2) where
  le_length := Nat.zero_le _
  accepted hlt := absurd hlt (Nat.not_lt_zero _)
  refused hentry := by
    cases hentry
    exact ⟨error, hrefusal, rfl, rfl⟩
  complete hlength := by cases hlength
  installed _ hmem := by cases hmem
  earlier hhas := hhas.congr (client.refused_release entry.2).ids
    (client.refused_release entry.2).attachments

/-- The first attachment is accepted, and the others are taken up. -/
theorem cons {position : ℕ} {result : Except BatchError Unit}
    (haccepted : client.refusal (answers 0) entry.1 entry.2 = none)
    (hstops : StopsAt (fun index => answers (index + 1)) entries
      (client.install entry.1 entry.2) position result after) :
    StopsAt answers (entry :: entries) client (position + 1) result after where
  le_length := Nat.succ_le_succ hstops.le_length
  accepted {index} _ hlt hentry := by
    cases index with
    | zero =>
        cases hentry
        exact haccepted
    | succ index => exact hstops.accepted (Nat.lt_of_succ_lt_succ hlt) hentry
  refused hentry := hstops.refused hentry
  complete hlength := hstops.complete (Nat.succ.inj hlength)
  installed other hmem := by
    rw [List.take_succ_cons, List.mem_cons] at hmem
    rcases hmem with rfl | hrest
    · exact hstops.earlier (client.has_install other.1 other.2)
    · exact hstops.installed other hrest
  earlier hhas := hstops.earlier (hhas.install (SubscriberClient.isNew_of_refusal haccepted))

end StopsAt

/-- The loop stops at the first attachment that is refused. -/
theorem installAttachments_stops (answers : ℕ → InstallAnswers) (packet : Memory)
    (remaining : ℕ) (cursor : BatchCursor) :
    let run := installAttachments answers packet remaining cursor
    ∃ position, StopsAt (fun index => answers (cursor.attachmentIndex + index))
      (readAttachments packet remaining cursor) cursor.client position run.1
      run.2.client := by
  induction remaining generalizing cursor with
  | zero => exact ⟨0, .nil⟩
  | succ remaining ih =>
      let read := cursor.readAttachment packet
      have hinstall := cursor.client.installAttachment_eq (answers cursor.attachmentIndex)
        read.1 read.2.1
      rw [installAttachments, readAttachments]
      dsimp only
      cases hrefusal : cursor.client.refusal (answers cursor.attachmentIndex) read.1
          read.2.1 with
      | some error =>
          rw [hrefusal, Option.elim_some] at hinstall
          rw [hinstall]
          exact ⟨0, .head hrefusal⟩
      | none =>
          rw [hrefusal, Option.elim_none] at hinstall
          rw [hinstall]
          obtain ⟨position, hstops⟩ :=
            ih { read.2.2 with client := cursor.client.install read.1 read.2.1 }
          have hoffset : (fun index => answers (read.2.2.attachmentIndex + index)) =
              fun index => answers (cursor.attachmentIndex + (index + 1)) :=
            funext fun index => congrArg answers (Nat.succ_add_eq_add_succ _ _)
          dsimp only at hstops
          rw [readAttachments_client, hoffset] at hstops
          exact ⟨position + 1, .cons hrefusal hstops⟩

/-- Whole metadata, and three descriptors for each attachment. -/
def WellShaped (bodyLen : ℕ) (cmsg : Option ControlMessage) : Prop :=
  bodyLen = 0 ∧ cmsg = none ∨
    ∃ count fds, count ≠ 0 ∧ bodyLen = count * kSubscriberAttachmentMetadataSize ∧
      cmsg = some (.rights fds) ∧ fds.length = 3 * count

/-- The attachments that a batch names, as the loop reads them. -/
def batchAttachments (packet : Memory) (bodyLen : ℕ) (cmsg : Option ControlMessage) :
    List (ℕ × PublisherAttachment) :=
  readAttachments packet (bodyLen / kSubscriberAttachmentMetadataSize)
    { attachmentIndex := 0, packetOffset := 1, fds := cmsgData cmsg, client := .initial }

/-- A batch of the right shape stops at the first attachment that is refused, another one
changes nothing. -/
theorem installSubscriberAttachmentBatch_stops (answers : ℕ → InstallAnswers)
    (packet : Memory) (bodyLen : ℕ) (cmsg : Option ControlMessage)
    (client : SubscriberClient) :
    let handled := installSubscriberAttachmentBatch answers packet bodyLen cmsg client
    (WellShaped bodyLen cmsg → ∃ position, StopsAt answers
      (batchAttachments packet bodyLen cmsg) client position handled.1 handled.2.2) ∧
    (¬WellShaped bodyLen cmsg → ∃ error, handled = (.error error, cmsg, client)) := by
  refine ⟨fun hshaped => ?_, fun hshaped => ?_⟩
  · obtain ⟨rfl, rfl⟩ | ⟨count, fds, hcount, rfl, rfl, hfds⟩ := hshaped
    · exact ⟨0, .nil⟩
    · obtain ⟨position, hstops⟩ := installAttachments_stops answers packet count
        { attachmentIndex := 0, packetOffset := 1, fds, client }
      have hread := readAttachments_client packet count
        { attachmentIndex := 0, packetOffset := 1, fds, client := .initial } client
      dsimp only at hread hstops
      simp only [hread, Nat.zero_add] at hstops
      rw [installSubscriberAttachmentBatch_eq hcount hfds, batchAttachments,
        Nat.mul_div_cancel _ (by decide)]
      exact ⟨position, hstops⟩
  · obtain hrefused | ⟨hbody, hcmsg, -⟩ | hwhole :=
      installSubscriberAttachmentBatch_cases answers packet bodyLen cmsg client
    · exact hrefused
    · exact absurd (.inl ⟨hbody, hcmsg⟩) hshaped
    · exact absurd (.inr hwhole) hshaped

/-- A call that receives a batch takes over what the batch leaves, and ends or goes on. -/
theorem processBrokerControlMessages_batch {received : Received} {body : List Byte}
    (hbytes : received.bytes = BrokerMessageType.subscriberAttachmentBatch.code :: body)
    (hwhole : received.truncated = false) (answers : ℕ → InstallAnswers)
    (receipts : List ControlReceipt) (buffer : Memory) (client : SubscriberClient) :
    let packet := store buffer 0 received.bytes
    let handled := installSubscriberAttachmentBatch answers packet body.length
      received.control client
    let guarded := handled.2.2.closeFds (receivedFds handled.2.1)
    let run := processBrokerControlMessages (.record received answers :: receipts) buffer client
    (∀ error, handled.1 = .error error →
      run.result = .error (.batch error) ∧ run.client = guarded) ∧
    (handled.1 = .ok () →
      let rest := processBrokerControlMessages receipts packet guarded
      run.result = rest.result ∧ run.client = rest.client) := by
  have hcode : store buffer 0 received.bytes 0 =
      BrokerMessageType.subscriberAttachmentBatch.code := by
    rw [hbytes]
    rfl
  have hrecord : handleControlRecord answers (store buffer 0 received.bytes) received client =
      let installed := installSubscriberAttachmentBatch answers (store buffer 0 received.bytes)
        body.length received.control client
      (installed.1.mapError .batch, installed.2) := by
    rw [handleControlRecord, hcode]
    simp [hbytes, hwhole]
  refine ⟨fun error herror => ?_, fun hok => ?_⟩
  · rw [processBrokerControlMessages, hrecord]
    dsimp only
    rw [herror]
    exact ⟨rfl, rfl⟩
  · rw [processBrokerControlMessages, hrecord]
    dsimp only
    rw [hok]
    exact ⟨rfl, rfl⟩

/-- The descriptors that come with the records of a call are settled when it ends, with
either client and whatever fails.  Attachments that the broker does not name stay where
they are, and a batch that fails leaves those installed that stand before the one that was
refused. -/
theorem receivedDescriptors_settled (buffer : Memory) :
    (∀ (client : SubscriberClient) (receipts : List ControlReceipt), client.Paired →
      let run := processBrokerControlMessages receipts buffer client
      run.client.Paired ∧
        Accounted client.held run.client.held client.closed run.client.closed run.received ∧
        ∀ id eventFd attachment, client.Has id eventFd attachment →
          (∀ received answers, .record received answers ∈ receipts → ¬received.Disconnects id) →
            run.client.Has id eventFd attachment) ∧
    (∀ (client : SubscriberClient) (received : Received) (body : List Byte)
      (answers : ℕ → InstallAnswers) (receipts : List ControlReceipt),
      received.bytes = BrokerMessageType.subscriberAttachmentBatch.code :: body →
      received.truncated = false →
      let packet := store buffer 0 received.bytes
      let run := processBrokerControlMessages (.record received answers :: receipts) buffer client
      (WellShaped body.length received.control → ∃ position result after left,
        StopsAt answers (batchAttachments packet body.length received.control) client position
          result after ∧
        (∀ error, result = .error error →
          run.result = .error (.batch error) ∧ run.client = after.closeFds left) ∧
        (result = .ok () →
          let rest := processBrokerControlMessages receipts packet (after.closeFds left)
          run.result = rest.result ∧ run.client = rest.client)) ∧
      (¬WellShaped body.length received.control → ∃ error,
        run.result = .error (.batch error) ∧ run.client = client.closeFds received.fds)) ∧
    ∀ client : PublisherClient, client.Registered →
      (∀ receipts : List (Receipt TrackAnswers),
        let run := client.processBrokerControlMessages receipts buffer
        run.client.Registered ∧
          Accounted client.held run.client.held client.closed run.client.closed run.received) ∧
      (∀ received : Received,
        let registered := client.receiveSubscriberRegistration received
        match registered.1 with
        | .error _ => Accounted client.held registered.2.held client.closed
            registered.2.closed received.fds
        | .ok registration => received.fds = [registration.dataAvailableEventFd] ∧
            ∀ answers, Accounted client.held (registered.2.trackSubscriber answers
              registration.dataAvailableEventFd registration.slotIndex).2.held client.closed
                (registered.2.trackSubscriber answers registration.dataAvailableEventFd
                  registration.slotIndex).2.closed received.fds) ∧
      ∀ (count : Option (List Byte)) (receipts : List (Receipt TrackAnswers)),
        let run := client.receiveAndTrackInitialSubscriberRegistrations count receipts
        Accounted client.held run.client.held client.closed run.client.closed run.received := by
  refine ⟨fun client receipts hpaired => ⟨?_, ?_, ?_⟩,
    fun client received body answers receipts hbytes hwhole => ⟨fun hshaped => ?_,
      fun hshaped => ?_⟩,
    fun client hregistered => ⟨fun receipts => ⟨?_, ?_⟩, fun received => ?_,
      fun count receipts => ?_⟩⟩
  · exact processBrokerControlMessages_paired receipts buffer hpaired
  · exact accounted_of_balance (processBrokerControlMessages_account receipts buffer client)
      (closed_grows receipts buffer client)
  · intro id eventFd attachment hhas hkept
    exact processBrokerControlMessages_has buffer hpaired hhas hkept
  · obtain ⟨position, hstops⟩ := (installSubscriberAttachmentBatch_stops answers
      (store buffer 0 received.bytes) body.length received.control client).1 hshaped
    obtain ⟨hfailed, hdone⟩ := processBrokerControlMessages_batch hbytes hwhole answers receipts
      buffer client
    exact ⟨position, _, _, _, hstops, hfailed, hdone⟩
  · obtain ⟨error, hrefused⟩ := (installSubscriberAttachmentBatch_stops answers
      (store buffer 0 received.bytes) body.length received.control client).2 hshaped
    obtain ⟨hresult, hclient⟩ := (processBrokerControlMessages_batch hbytes hwhole answers
      receipts buffer client).1 error (congrArg Prod.fst hrefused)
    rw [hrefused] at hclient
    exact ⟨error, hresult, hclient⟩
  · exact (PublisherClient.processBrokerControlMessages_settles hregistered receipts
      buffer).registered
  · exact (PublisherClient.processBrokerControlMessages_settles hregistered receipts
      buffer).toAccounts.accounted
  · obtain ⟨error, after, herror, hsettles⟩ | ⟨registration, after, hok, hfds, hsettles⟩ :=
      PublisherClient.receiveSubscriberRegistration_settles hregistered received
    · rw [herror]
      exact hsettles.toAccounts.accounted
    · rw [hok]
      refine ⟨hfds, fun answers => ?_⟩
      rw [hfds]
      exact (hsettles.trans (PublisherClient.trackSubscriber_settles hsettles.registered answers
        registration.dataAvailableEventFd registration.slotIndex)).toAccounts.accounted
  · exact (PublisherClient.receiveAndTrackInitialSubscriberRegistrations_accounts hregistered
      count receipts).accounted

/-- A batch of two attachments, with the numbers that their descriptors got. -/
def twoAttachments : Received where
  bytes := BrokerMessageType.subscriberAttachmentBatch.code ::
    ([1, 0, 0, 0, 0, 0, 0, 0, 4, 0, 0, 0, 0] ++ [2, 0, 0, 0, 0, 0, 0, 0, 4, 0, 0, 0, 0])
  truncated := false
  control := some (.rights [some 5, some 6, some 7, some 8, some 9, some 10])

/-- A subscriber's registration as a publisher receives it. -/
def registrationRecord (slotIndex : Byte) (eventFd : Fd) : Received where
  bytes := [BrokerMessageType.subscriberEventFdAndSlot.code, slotIndex, 0, 0, 0]
  truncated := false
  control := some (.rights [some eventFd])

/-- Where the second attachment cannot be mapped, the first one stays installed and the
second one's descriptors are closed; a publisher tracks the subscriber of its first slot
and closes the descriptor of one whose slot is out of range; and a record that was cut off
loses both of its descriptors. -/
theorem receivedDescriptors_settled_failures :
    let answers : ℕ → InstallAnswers := fun index => { InstallAnswers.generous with
      mmap := index = 0 }
    let run := processBrokerControlMessages [.record twoAttachments answers] (fun _ => 0) .initial
    let publisher : PublisherClient := {
      process := (SharedMemory.State.created SharedMemory.zeroedMapping).toPublisherProcess
      brokerFd := some 3
      closed := [] }
    let tracking := publisher.processBrokerControlMessages
      [.record (registrationRecord 0 7) ⟨true, true⟩,
        .record (registrationRecord 40 8) ⟨true, true⟩] fun _ => 0
    let cutOff := processBrokerControlMessages
      [.record ⟨twoAttachments.bytes, true, some (.rights [some 5, some 6])⟩ answers]
      (fun _ => 0) .initial
    (run.result = .error (.batch .mmap) ∧
      (∃ eventFd attachment, run.client.Has 1 eventFd attachment) ∧
      run.client.closed = [8, 9, 10] ∧ Settled 7 [] run.client.closed run.client.held ∧
      Settled 8 [] run.client.closed run.client.held) ∧
    (tracking.client.closed = [8] ∧ Settled 7 [] tracking.client.closed tracking.client.held ∧
      Settled 8 [] tracking.client.closed tracking.client.held) ∧
    Settled 5 [] cutOff.client.closed cutOff.client.held := by
  intro answers run publisher tracking cutOff
  obtain ⟨hcalls, hbatches, hpublishers⟩ := receivedDescriptors_settled fun _ => 0
  have hrun := (hcalls .initial [.record twoAttachments answers]
    SubscriberClient.paired_initial).2.1.settled
  have hcutOff := (hcalls .initial
    [.record ⟨twoAttachments.bytes, true, some (.rights [some 5, some 6])⟩ answers]
    SubscriberClient.paired_initial).2.1.settled
  have htracking := ((hpublishers publisher
    ⟨List.nodup_nil, fun {_} => ⟨nofun, nofun⟩⟩).1 [.record (registrationRecord 0 7) ⟨true, true⟩,
      .record (registrationRecord 40 8) ⟨true, true⟩]).2.settled
  obtain ⟨position, result, after, left, hstops, hfailed, -⟩ :=
    (hbatches .initial twoAttachments _ answers [] rfl rfl).1
      (.inr ⟨2, _, by decide, rfl, rfl, rfl⟩)
  have hclient : run.result = .error (.batch .mmap) ∧ run.client.closed = [8, 9, 10] := by decide
  refine ⟨⟨hclient.1, ?_, hclient.2, hrun 7 (by decide) (by decide),
    hrun 8 (by decide) (by decide)⟩, ⟨by decide, htracking 7 (by decide) (by decide),
    htracking 8 (by decide) (by decide)⟩, hcutOff 5 (by decide) (by decide)⟩
  -- the batch stops at its second attachment
  have hposition : position = 1 := by
    have hle : position ≤ 2 := hstops.le_length
    rcases Nat.lt_or_ge position 1 with hzero | hone
    · obtain rfl : position = 0 := by omega
      obtain ⟨error, hrefusal, -⟩ := hstops.refused rfl
      cases hrefusal
    · rcases Nat.lt_or_ge 1 position with htwo | hle
      · have haccepted := hstops.accepted htwo rfl
        cases haccepted
      · omega
  subst hposition
  obtain ⟨error, -, herror, -⟩ := hstops.refused rfl
  rw [(hfailed error herror).2]
  exact ⟨_, _, (hstops.installed _ List.mem_cons_self).congr rfl rfl⟩

end DriveBus.Clients
