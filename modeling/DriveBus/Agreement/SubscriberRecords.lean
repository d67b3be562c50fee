import DriveBus.Agreement.SubscriberProgram
import DriveBus.ControlPlane.Feeds

/-!
# What a record does to a subscriber

A record of the broker, under any numbers for its descriptors, is a whole batch or the
end of one attachment to the subscriber that takes it.  A batch fails only where the
system refuses something, and a disconnection only if its attachment is not there.
-/

namespace DriveBus.Agreement

open DriveBus.ByteMemory DriveBus.Clients DriveBus.ControlPlane DriveBus.Replica
open DriveBus.UnorderedMap

/-! ## Records as they arrive -/

/-- Descriptors in threes. -/
theorem exists_attachmentFds {fds : List Fd} {count : ℕ} (hlength : fds.length = 3 * count) :
    ∃ triples : List AttachmentFds,
      triples.length = count ∧ fds = triples.flatMap AttachmentFds.list := by
  induction count generalizing fds with
  | zero => exact ⟨[], rfl, List.length_eq_zero_iff.mp hlength⟩
  | succ count ih =>
      match fds with
      | shmFd :: spaceAvailableEventFd :: dataAvailableEventFd :: rest =>
          obtain ⟨triples, hcount, rfl⟩ := @ih rest (by
            simp only [List.length_cons] at hlength
            omega)
          exact ⟨⟨shmFd, spaceAvailableEventFd, dataAvailableEventFd⟩ :: triples,
            congrArg Nat.succ hcount, rfl⟩
      | [] | [_] | [_, _] =>
          simp only [List.length_cons, List.length_nil] at hlength
          omega

theorem recvmsg_publisherDisconnected (attachmentId : ℕ) :
    recvmsg kMaxMessageSize kSubscriberControlSize
        (BrokerMessage.publisherDisconnected attachmentId).packet.bytes [] =
      { bytes := BrokerMessageType.publisherDisconnected.code :: littleEndian 8 attachmentId
        truncated := false
        control := none } := by
  have hlength : (BrokerMessage.publisherDisconnected attachmentId).packet.bytes.length = 9 := by
    simp [BrokerMessage.packet]
  rw [recvmsg, List.take_of_length_le (by rw [hlength, kMaxMessageSize]; omega)]
  simp [kMaxMessageSize, BrokerMessage.packet]

/-! ## One record -/

/-- A call that takes one record handles it and closes what is left in the message. -/
theorem processBrokerControlMessages_single (received : Received)
    (answers : ℕ → InstallAnswers) (buffer : Memory) (client : SubscriberClient) :
    let handled := handleControlRecord answers (store buffer 0 received.bytes) received client
    let run := processBrokerControlMessages [.record received answers] buffer client
    run.result = handled.1 ∧
      run.client = handled.2.2.closeFds (receivedFds handled.2.1) := by
  dsimp only
  rw [processBrokerControlMessages]
  dsimp only
  split
  next hresult => exact ⟨hresult.symm, rfl⟩
  next hresult => exact ⟨hresult.symm, rfl⟩

theorem store_code (buffer : Memory) (code : Byte) (body : List Byte) :
    store buffer 0 (code :: body) 0 = code := by simp [store]

theorem handleControlRecord_batch (answers : ℕ → InstallAnswers) (buffer : Memory)
    (body : List Byte) (control : Option ControlMessage) (client : SubscriberClient) :
    let bytes := BrokerMessageType.subscriberAttachmentBatch.code :: body
    let installed := installSubscriberAttachmentBatch answers (store buffer 0 bytes)
      body.length control client
    handleControlRecord answers (store buffer 0 bytes)
        { bytes, truncated := false, control } client =
      (installed.1.mapError .batch, installed.2) := by
  dsimp only
  rw [handleControlRecord, store_code]
  simp

theorem handleControlRecord_publisherDisconnected (answers : ℕ → InstallAnswers)
    (buffer : Memory) (body : List Byte) (client : SubscriberClient) :
    let bytes := BrokerMessageType.publisherDisconnected.code :: body
    let handled := handlePublisherDisconnected (store buffer 0 bytes) body.length client
    handleControlRecord answers (store buffer 0 bytes)
        { bytes, truncated := false, control := none } client =
      (if handled.1 = .none then .ok () else .error (.publisherDisconnected handled.1), none,
        handled.2) := by
  have hother : BrokerMessageType.publisherDisconnected.code ≠
      BrokerMessageType.subscriberAttachmentBatch.code := by decide
  dsimp only
  rw [handleControlRecord, store_code]
  simp [hother]

/-- What handling a record comes to. -/
inductive RecordEffect (client : SubscriberClient) :
    BrokerMessage → Except ControlError Unit → SubscriberClient → Prop
  | installed {attachments : List SubscriberAttachment} {shmFds : List Fd}
      {triples : List AttachmentFds} (hlength : triples.length = attachments.length)
      (hfresh : FreshBatch client (attachments.zip triples)) :
      RecordEffect client (.subscriberAttachmentBatch attachments shmFds) (.ok ())
        (client.installAll ((attachments.zip triples).map receivedEntry))
  | refused {attachments : List SubscriberAttachment} {shmFds : List Fd}
      {triples : List AttachmentFds} {answers : InstallAnswers} {error : BatchError}
      {entry : SubscriberAttachment × AttachmentFds}
      {installed rest : List (SubscriberAttachment × AttachmentFds)}
      (hlength : triples.length = attachments.length)
      (hfresh : FreshBatch client (attachments.zip triples))
      (hentries : attachments.zip triples = installed ++ entry :: rest)
      (hdenies : answers.Denies error) :
      RecordEffect client (.subscriberAttachmentBatch attachments shmFds)
        (.error (.batch error))
        ((client.installAll (installed.map receivedEntry)).releasePublisherAttachment
          (receivedAttachment entry.1 entry.2))
  | dropped {attachmentId : ℕ} {eventFd : FdVariable} {attachment : PublisherAttachment}
      (hhas : client.Has attachmentId eventFd attachment) :
      RecordEffect client (.publisherDisconnected attachmentId) (.ok ())
        (client.drop attachmentId eventFd attachment)
  | missing {attachmentId : ℕ}
      (hnone : client.dataAvailableEventFdByAttachmentId.lookup attachmentId = none) :
      RecordEffect client (.publisherDisconnected attachmentId)
        (.error (.publisherDisconnected .publisherDisconnectedAttachmentMissing)) client

section Effects

variable {client : SubscriberClient} {issued : List ℕ} {buffer : Memory}
  {answers : ℕ → InstallAnswers} {fds : List Fd}

/-- A batch whose ids are new, under numbers that are free, is fresh. -/
theorem freshBatch_of_free {attachments : List SubscriberAttachment}
    {triples : List AttachmentFds} (horderly : client.Orderly issued)
    (hlength : triples.length = attachments.length)
    (hids : (attachments.map (·.attachmentId)).Nodup)
    (hnew : ∀ id ∈ attachments.map (·.attachmentId), id ∉ issued)
    (hnodup : (triples.flatMap AttachmentFds.list).Nodup)
    (hfree : ∀ fd ∈ triples.flatMap AttachmentFds.list, fd ∉ client.held) :
    FreshBatch client (attachments.zip triples) := by
  have hfst : (attachments.zip triples).map Prod.fst = attachments :=
    List.map_fst_zip hlength.ge
  have hsnd : (attachments.zip triples).map Prod.snd = triples :=
    List.map_snd_zip hlength.le
  refine ⟨?_, ?_, fun entry hmem => ?_⟩
  · rwa [← hfst, List.map_map] at hids
  · have hsublist : (triples.map (·.dataAvailableEventFd)).Sublist
        (triples.flatMap AttachmentFds.list) := by
      rw [List.map_eq_flatMap]
      exact List.Sublist.flatMap_right triples fun triple _ => by simp [AttachmentFds.list]
    have hdata := hnodup.sublist hsublist
    rwa [← hsnd, List.map_map] at hdata
  · obtain ⟨hattachment, htriple⟩ := List.of_mem_zip hmem
    refine horderly.isNew (hnew _ (List.mem_map_of_mem hattachment)) (hfree _ ?_)
    exact List.mem_flatMap.mpr ⟨entry.2, htriple, by simp [AttachmentFds.list]⟩

/-- A batch that arrives is installed in order. -/
theorem effect_batch {attachments : List SubscriberAttachment} {shmFds : List Fd}
    (horderly : client.Orderly issued)
    (hencodable : (BrokerMessage.subscriberAttachmentBatch attachments shmFds).Encodable)
    (hids : (attachments.map (·.attachmentId)).Nodup)
    (hnew : ∀ id ∈ attachments.map (·.attachmentId), id ∉ issued)
    (hlength : fds.length = ((BrokerMessage.subscriberAttachmentBatch attachments
      shmFds).packet.rights.getD []).length)
    (hnodup : fds.Nodup) (hfree : ∀ fd ∈ fds, fd ∉ client.held) :
    let received := recvmsg kMaxMessageSize kSubscriberControlSize
      (BrokerMessage.subscriberAttachmentBatch attachments shmFds).packet.bytes fds
    let run := processBrokerControlMessages [.record received answers] buffer client
    ∃ after closed, RecordEffect client (.subscriberAttachmentBatch attachments shmFds)
      run.result after ∧ run.client = after.closeFds closed := by
  obtain ⟨hshmFds, hcount, hfits⟩ := hencodable
  have hthree : fds.length = 3 * attachments.length := by
    rw [hlength, BrokerMessage.packet]
    dsimp only
    split
    next hnil => rw [hnil]; rfl
    next => exact length_flatten_rights hshmFds
  obtain ⟨triples, htriples, rfl⟩ := exists_attachmentFds hthree
  have hfresh := freshBatch_of_free horderly htriples hids hnew hnodup hfree
  have hrun := processBrokerControlMessages_single (recvmsg kMaxMessageSize
    kSubscriberControlSize (BrokerMessage.subscriberAttachmentBatch attachments
      shmFds).packet.bytes (triples.flatMap AttachmentFds.list)) answers buffer client
  dsimp only at hrun ⊢
  rw [recvmsg_batch shmFds hcount htriples, handleControlRecord_batch] at hrun
  rw [recvmsg_batch shmFds hcount htriples, hrun.1, hrun.2]
  obtain ⟨houtcome, -⟩ := installSubscriberAttachmentBatch_received answers buffer hfits
    htriples hfresh
  generalize installSubscriberAttachmentBatch answers _ _ _ client = installed at houtcome ⊢
  obtain ⟨result, cmsg, after⟩ := installed
  generalize hentries : attachments.zip triples = entries at houtcome
  refine ⟨after, receivedFds cmsg, ?_, rfl⟩
  cases houtcome with
  | installed => exact hentries ▸ .installed htriples hfresh
  | refused installed entry rest hdenies => exact .refused htriples hfresh hentries hdenies

/-- While the maps are paired, an attachment is missing only if its id is. -/
theorem handlePublisherDisconnected_paired {packet : Memory} {attachmentId : ℕ}
    (hpaired : client.Paired) (hid : ofLittleEndian (load packet 1 8) = attachmentId) :
    (client.dataAvailableEventFdByAttachmentId.lookup attachmentId = none ∧
      handlePublisherDisconnected packet 8 client =
        (.publisherDisconnectedAttachmentMissing, client)) ∨
    ∃ eventFd attachment, client.Has attachmentId eventFd attachment ∧
      handlePublisherDisconnected packet 8 client =
        (.none, client.drop attachmentId eventFd attachment) := by
  rw [handlePublisherDisconnected, if_neg (show ¬8 ≠ 8 by decide)]
  dsimp only
  rw [hid]
  cases hlookup : client.dataAvailableEventFdByAttachmentId.lookup attachmentId with
  | none => exact .inl ⟨rfl, rfl⟩
  | some eventFd =>
      obtain ⟨attachment, hattachment⟩ :=
        Option.isSome_iff_exists.mp (hpaired.forward hlookup)
      dsimp only
      rw [hattachment]
      exact .inr ⟨eventFd, attachment, ⟨hlookup, hattachment⟩, rfl⟩

/-- A disconnection that arrives drops its attachment if it is there. -/
theorem effect_publisherDisconnected {attachmentId : ℕ} (horderly : client.Orderly issued)
    (hencodable : (BrokerMessage.publisherDisconnected attachmentId).Encodable)
    (hlength : fds.length =
      ((BrokerMessage.publisherDisconnected attachmentId).packet.rights.getD []).length) :
    let received := recvmsg kMaxMessageSize kSubscriberControlSize
      (BrokerMessage.publisherDisconnected attachmentId).packet.bytes fds
    let run := processBrokerControlMessages [.record received answers] buffer client
    ∃ after closed, RecordEffect client (.publisherDisconnected attachmentId) run.result after ∧
      run.client = after.closeFds closed := by
  obtain rfl : fds = [] := List.length_eq_zero_iff.mp hlength
  have hid : ofLittleEndian (littleEndian 8 attachmentId) = attachmentId :=
    ofLittleEndian_of_lt (by norm_num; exact hencodable)
  have hload : load (store buffer 0 (BrokerMessageType.publisherDisconnected.code ::
      littleEndian 8 attachmentId)) 1 8 = littleEndian 8 attachmentId := by
    have hbody := load_body buffer BrokerMessageType.publisherDisconnected.code
      (littleEndian 8 attachmentId)
    rwa [length_littleEndian] at hbody
  have hrun := processBrokerControlMessages_single (recvmsg kMaxMessageSize
    kSubscriberControlSize (BrokerMessage.publisherDisconnected attachmentId).packet.bytes [])
    answers buffer client
  dsimp only at hrun ⊢
  rw [recvmsg_publisherDisconnected, handleControlRecord_publisherDisconnected,
    length_littleEndian] at hrun
  rw [recvmsg_publisherDisconnected, hrun.1, hrun.2]
  obtain ⟨hnone, hhandled⟩ | ⟨eventFd, attachment, hhas, hhandled⟩ :=
    handlePublisherDisconnected_paired horderly.paired ((congrArg ofLittleEndian hload).trans hid)
  · rw [hhandled]
    exact ⟨client, [], .missing hnone, rfl⟩
  · rw [hhandled]
    exact ⟨_, [], .dropped hhas, rfl⟩

end Effects

end DriveBus.Agreement
