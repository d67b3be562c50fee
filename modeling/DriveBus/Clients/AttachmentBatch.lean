import DriveBus.Clients.ControlSocket
import DriveBus.ControlPlane.Wire
import DriveBus.SharedMemory.Layout

/-!
# Attachment batches

The broker lays the metadata of a batch out in a buffer and puts three descriptors for
each attachment into an array beside it; the subscriber walks both with its own offsets,
and installs one attachment after the other.
-/

namespace DriveBus.Clients

open DriveBus.ByteMemory DriveBus.ControlPlane DriveBus.UnorderedMap

/-! ## The broker's side -/

def kSubscriberAttachmentBatchMessageMinSize : ℕ := 1

/-- `send_packet_with_fds`: without descriptors there is no control message. -/
def sendPacketWithFds (bytes : List Byte) (fds : List Fd) : Packet :=
  ⟨bytes, if fds = [] then none else some fds⟩

/-- The locals of the loop that fills a batch. -/
structure BatchBuffer where
  packet : Memory
  packetOffset : ℕ
  attachmentFds : List Fd

/-- One iteration of the loop that fills a batch. -/
def writeAttachment (buffer : BatchBuffer) (entry : SubscriberAttachment × Fd) :
    BatchBuffer :=
  let attachment := entry.1
  let shmFd := entry.2
  let packet := store buffer.packet buffer.packetOffset (littleEndian 8 attachment.attachmentId)
  let packetOffset := buffer.packetOffset + 8
  let packet := store packet packetOffset [attachment.topicId]
  let packetOffset := packetOffset + 1
  let packet := store packet packetOffset (littleEndian 4 attachment.slotIndex)
  let packetOffset := packetOffset + 4
  { packet
    packetOffset
    attachmentFds := buffer.attachmentFds ++
      [shmFd, attachment.spaceAvailableEventFd, attachment.dataAvailableEventFd] }

/-- The buffer of a batch before the loop: zeroes, and the type. -/
def BatchBuffer.start : BatchBuffer where
  packet := store (fun _ => 0) 0 [BrokerMessageType.subscriberAttachmentBatch.code]
  packetOffset := kSubscriberAttachmentBatchMessageMinSize
  attachmentFds := []

/-- `send_subscriber_attachment_batch_message` up to the call of `sendmsg`. -/
def subscriberAttachmentBatchMessage (attachments : List SubscriberAttachment)
    (shmFds : List Fd) : Option Packet :=
  if shmFds.length ≠ attachments.length then none
  else if kMaxAttachmentsPerBatch < attachments.length then none
  else
    let packetSize := kSubscriberAttachmentBatchMessageMinSize +
      attachments.length * kSubscriberAttachmentMetadataSize
    let buffer := (attachments.zip shmFds).foldl writeAttachment .start
    some (sendPacketWithFds (load buffer.packet 0 packetSize) buffer.attachmentFds)

/-! ## The subscriber's side -/

/-- The members of `PublisherAttachment` that installing and releasing use. -/
structure PublisherAttachment where
  topicId : TopicId
  shmFd : FdVariable
  spaceAvailableEventFd : FdVariable
  dataAvailableEventFd : FdVariable
  slotIndex : ℕ
  subscriberReadIndex : ℕ
  expectedSeq : ℤ
  deriving DecidableEq, Repr

def PublisherAttachment.fds (attachment : PublisherAttachment) : List Fd :=
  openFds [attachment.shmFd, attachment.spaceAvailableEventFd,
    attachment.dataAvailableEventFd]

/-- The members of `Subscriber` that the control records change.  `interest` is the
epoll instance's list, `closed` is history: every descriptor closed so far. -/
structure SubscriberClient where
  dataAvailableEventFdByAttachmentId : Map ℕ FdVariable
  publisherAttachmentByDataAvailableEventFd : Map FdVariable PublisherAttachment
  interest : Fd → Option ℕ
  closed : List Fd

/-- What the calls that install one attachment give: whether `mmap` and `epoll_ctl`
succeed, and whether each map gets the memory for a node. -/
structure InstallAnswers where
  mmap : Bool
  epollAdd : Bool
  insert : Bool
  emplace : Bool
  deriving DecidableEq, Repr

def InstallAnswers.generous : InstallAnswers := ⟨true, true, true, true⟩

/-- The failures of `install_subscriber_attachment_batch`, by the message that each one
logs; the last is the exception that an allocation throws. -/
inductive BatchError
  | payloadSize
  | unexpectedFd
  | cmsg
  | fdSize
  | fdCount
  | mmap
  | epollAdd
  | attachmentIdAlreadyExists
  | dataAvailableEventFdAlreadyExists
  | badAlloc
  deriving DecidableEq, Repr

namespace SubscriberClient

def initial : SubscriberClient where
  dataAvailableEventFdByAttachmentId := ∅
  publisherAttachmentByDataAvailableEventFd := ∅
  interest := fun _ => none
  closed := []

def insertId (client : SubscriberClient) (attachmentId : ℕ) (eventFd : FdVariable) :
    SubscriberClient :=
  { client with
    dataAvailableEventFdByAttachmentId :=
      client.dataAvailableEventFdByAttachmentId.insert attachmentId eventFd }

def eraseId (client : SubscriberClient) (attachmentId : ℕ) : SubscriberClient :=
  { client with
    dataAvailableEventFdByAttachmentId :=
      client.dataAvailableEventFdByAttachmentId.erase attachmentId }

def emplaceAttachment (client : SubscriberClient) (attachment : PublisherAttachment) :
    SubscriberClient :=
  { client with
    publisherAttachmentByDataAvailableEventFd :=
      client.publisherAttachmentByDataAvailableEventFd.insert
        attachment.dataAvailableEventFd attachment }

def eraseAttachment (client : SubscriberClient) (eventFd : FdVariable) :
    SubscriberClient :=
  { client with
    publisherAttachmentByDataAvailableEventFd :=
      client.publisherAttachmentByDataAvailableEventFd.erase eventFd }

def setInterest (client : SubscriberClient) (eventFd : FdVariable) (eventId : Option ℕ) :
    SubscriberClient :=
  match eventFd with
  | some fd => { client with interest := Function.update client.interest fd eventId }
  | none => client

/-- `close_fd` of each of some variables, and the guard's closes. -/
def closeFds (client : SubscriberClient) (fds : List Fd) : SubscriberClient :=
  { client with closed := client.closed ++ fds }

/-- `release_publisher_attachment`. -/
def releasePublisherAttachment (client : SubscriberClient)
    (attachment : PublisherAttachment) : SubscriberClient :=
  (client.setInterest attachment.dataAvailableEventFd none).closeFds attachment.fds

/-- An attachment in both maps and in the interest list. -/
def install (client : SubscriberClient) (attachmentId : ℕ)
    (attachment : PublisherAttachment) : SubscriberClient :=
  ((client.setInterest attachment.dataAvailableEventFd (some attachmentId)).insertId
    attachmentId attachment.dataAvailableEventFd).emplaceAttachment attachment

/-- The part of the loop body from `mmap` on. -/
def installAttachment (answers : InstallAnswers) (attachmentId : ℕ)
    (attachment : PublisherAttachment) (client : SubscriberClient) :
    Except BatchError Unit × SubscriberClient :=
  if answers.mmap = false then
    (.error .mmap, client.releasePublisherAttachment attachment)
  else if answers.epollAdd = false then
    (.error .epollAdd, client.releasePublisherAttachment attachment)
  else
    let added := client.setInterest attachment.dataAvailableEventFd (some attachmentId)
    if (added.dataAvailableEventFdByAttachmentId.lookup attachmentId).isSome then
      (.error .attachmentIdAlreadyExists, added.releasePublisherAttachment attachment)
    else if answers.insert = false then
      (.error .badAlloc, added.releasePublisherAttachment attachment)
    else
      let inserted := added.insertId attachmentId attachment.dataAvailableEventFd
      if (inserted.publisherAttachmentByDataAvailableEventFd.lookup
          attachment.dataAvailableEventFd).isSome then
        (.error .dataAvailableEventFdAlreadyExists,
          (inserted.eraseId attachmentId).releasePublisherAttachment attachment)
      else if answers.emplace = false then
        (.error .badAlloc,
          (inserted.eraseId attachmentId).releasePublisherAttachment attachment)
      else (.ok (), inserted.emplaceAttachment attachment)

end SubscriberClient

/-- The locals of the loop that installs a batch, and the client. -/
structure BatchCursor where
  attachmentIndex : ℕ
  packetOffset : ℕ
  fds : List FdVariable
  client : SubscriberClient

/-- The first part of the loop body: the id and the attachment as they are read from the
packet and taken out of the control message. -/
def BatchCursor.readAttachment (cursor : BatchCursor) (packet : Memory) :
    ℕ × PublisherAttachment × BatchCursor :=
  let packetOffset := cursor.packetOffset
  let attachmentId := ofLittleEndian (load packet packetOffset 8)
  let packetOffset := packetOffset + 8
  let topicId := packet packetOffset
  let packetOffset := packetOffset + 1
  let slotIndex := ofLittleEndian (load packet packetOffset 4)
  let packetOffset := packetOffset + 4
  let (shmFd, fds) := exchange cursor.fds (3 * cursor.attachmentIndex)
  let (spaceAvailableEventFd, fds) := exchange fds (3 * cursor.attachmentIndex + 1)
  let (dataAvailableEventFd, fds) := exchange fds (3 * cursor.attachmentIndex + 2)
  (attachmentId,
    { topicId, shmFd, spaceAvailableEventFd, dataAvailableEventFd, slotIndex
      subscriberReadIndex := SharedMemory.kInvalidIndex
      expectedSeq := -1 },
    { cursor with attachmentIndex := cursor.attachmentIndex + 1, packetOffset, fds })

/-- The loop over what is left of a batch. -/
def installAttachments (answers : ℕ → InstallAnswers) (packet : Memory) :
    ℕ → BatchCursor → Except BatchError Unit × BatchCursor
  | 0, cursor => (.ok (), cursor)
  | remaining + 1, cursor =>
      let (attachmentId, attachment, read) := cursor.readAttachment packet
      match cursor.client.installAttachment (answers cursor.attachmentIndex) attachmentId
          attachment with
      | (.ok (), client) => installAttachments answers packet remaining { read with client }
      | (.error error, client) => (.error error, { read with client })

/-- `install_subscriber_attachment_batch`, with the control message as it leaves it. -/
def installSubscriberAttachmentBatch (answers : ℕ → InstallAnswers) (packet : Memory)
    (bodyLen : ℕ) (cmsg : Option ControlMessage) (client : SubscriberClient) :
    Except BatchError Unit × Option ControlMessage × SubscriberClient :=
  if bodyLen % kSubscriberAttachmentMetadataSize ≠ 0 then
    (.error .payloadSize, cmsg, client)
  else
    let attachmentCount := bodyLen / kSubscriberAttachmentMetadataSize
    if attachmentCount = 0 then
      if cmsg.isSome then (.error .unexpectedFd, cmsg, client) else (.ok (), cmsg, client)
    else if isValidScmRightsCmsg cmsg = false then (.error .cmsg, cmsg, client)
    else
      let fdDataSize := cmsgLen (kFdSize * (cmsgData cmsg).length) - cmsgLen 0
      if fdDataSize % kFdSize ≠ 0 then (.error .fdSize, cmsg, client)
      else if fdDataSize / kFdSize ≠ attachmentCount * 3 then (.error .fdCount, cmsg, client)
      else
        let installed := installAttachments answers packet attachmentCount
          { attachmentIndex := 0, packetOffset := 1, fds := cmsgData cmsg, client }
        (installed.1, some (.rights installed.2.fds), installed.2.client)

/-! ## What the broker sends -/

theorem writeAttachment_eq (buffer : BatchBuffer) (entry : SubscriberAttachment × Fd) :
    writeAttachment buffer entry =
      { packet := store buffer.packet buffer.packetOffset entry.1.metadata
        packetOffset := buffer.packetOffset + kSubscriberAttachmentMetadataSize
        attachmentFds := buffer.attachmentFds ++ entry.1.rights entry.2 } := by
  have hmetadata : entry.1.metadata = littleEndian 8 entry.1.attachmentId ++
      ([entry.1.topicId] ++ littleEndian 4 entry.1.slotIndex) := rfl
  rw [hmetadata, ← store_append, length_littleEndian, ← store_append]
  rfl

/-- The bytes and descriptors that the loop adds to a buffer. -/
theorem foldl_writeAttachment (buffer : BatchBuffer)
    (entries : List (SubscriberAttachment × Fd)) :
    let written := entries.foldl writeAttachment buffer
    load written.packet 0
        (buffer.packetOffset + entries.length * kSubscriberAttachmentMetadataSize) =
      load buffer.packet 0 buffer.packetOffset ++ entries.flatMap (·.1.metadata) ∧
    written.attachmentFds =
      buffer.attachmentFds ++ entries.flatMap fun entry => entry.1.rights entry.2 := by
  induction entries generalizing buffer with
  | nil => simp
  | cons entry entries ih =>
      obtain ⟨hbytes, hfds⟩ := ih (writeAttachment buffer entry)
      rw [writeAttachment_eq] at hbytes hfds
      dsimp only at hbytes hfds ⊢
      rw [List.foldl_cons, writeAttachment_eq, hfds, List.append_assoc]
      refine ⟨?_, rfl⟩
      have hstored : load (store buffer.packet buffer.packetOffset entry.1.metadata) 0
          (buffer.packetOffset + kSubscriberAttachmentMetadataSize) =
            load buffer.packet 0 buffer.packetOffset ++ entry.1.metadata := by
        rw [load_add, load_store_of_disjoint _ (.inr (by omega)), zero_add,
          ← entry.1.length_metadata, load_store_self]
      rw [List.length_cons, Nat.succ_mul, Nat.add_comm (_ * _), ← Nat.add_assoc, hbytes, hstored,
        List.append_assoc]
      rfl

theorem length_flatten_rights {attachments : List SubscriberAttachment} {shmFds : List Fd}
    (hshmFds : shmFds.length = attachments.length) :
    (attachments.zipWith SubscriberAttachment.rights shmFds).flatten.length =
      3 * attachments.length := by
  induction attachments generalizing shmFds with
  | nil => rfl
  | cons attachment attachments ih =>
      cases shmFds with
      | nil => cases hshmFds
      | cons shmFd shmFds =>
          rw [List.zipWith_cons_cons, List.flatten_cons, List.length_append,
            ih (Nat.succ.inj hshmFds), List.length_cons, Nat.mul_succ, Nat.add_comm]
          rfl

theorem flatten_rights_eq_nil {attachments : List SubscriberAttachment} {shmFds : List Fd}
    (hshmFds : shmFds.length = attachments.length) :
    (attachments.zipWith SubscriberAttachment.rights shmFds).flatten = [] ↔
      attachments = [] := by
  rw [← List.length_eq_zero_iff, length_flatten_rights hshmFds, ← List.length_eq_zero_iff]
  omega

/-- The message is the one that its record stands for. -/
theorem subscriberAttachmentBatchMessage_eq {attachments : List SubscriberAttachment}
    {shmFds : List Fd} (hshmFds : shmFds.length = attachments.length)
    (hcount : attachments.length ≤ kMaxAttachmentsPerBatch) :
    subscriberAttachmentBatchMessage attachments shmFds =
      some (BrokerMessage.subscriberAttachmentBatch attachments shmFds).packet := by
  have hzip : (attachments.zip shmFds).length = attachments.length := by
    rw [List.length_zip, hshmFds, Nat.min_self]
  obtain ⟨hbytes, hfds⟩ := foldl_writeAttachment .start (attachments.zip shmFds)
  have hstart : load BatchBuffer.start.packet 0 BatchBuffer.start.packetOffset =
      [BrokerMessageType.subscriberAttachmentBatch.code] :=
    load_store_self _ _ [BrokerMessageType.subscriberAttachmentBatch.code]
  have hmetadata : (attachments.zip shmFds).flatMap (·.1.metadata) =
      attachments.flatMap SubscriberAttachment.metadata := by
    rw [← List.flatMap_map Prod.fst SubscriberAttachment.metadata,
      List.map_fst_zip hshmFds.ge]
  have hrights : (attachments.zip shmFds).flatMap (fun entry => entry.1.rights entry.2) =
      (attachments.zipWith SubscriberAttachment.rights shmFds).flatten := by
    rw [List.flatMap_def, ← List.map_uncurry_zip_eq_zipWith]
    rfl
  have hnone := flatten_rights_eq_nil hshmFds
  rw [hzip, hstart, hmetadata] at hbytes
  rw [hrights] at hfds
  simp only [BatchBuffer.start, kSubscriberAttachmentBatchMessageMinSize] at hbytes hfds
  simp only [subscriberAttachmentBatchMessage, hshmFds, ne_eq, not_true_eq_false, if_false,
    Nat.not_lt.mpr hcount, sendPacketWithFds, BrokerMessage.packet, BatchBuffer.start,
    kSubscriberAttachmentBatchMessageMinSize, hbytes, hfds, List.nil_append, hnone,
    List.singleton_append]

/-! ## What the subscriber installs -/

/-- The descriptors that a client receives for one attachment, in their order. -/
structure AttachmentFds where
  shmFd : Fd
  spaceAvailableEventFd : Fd
  dataAvailableEventFd : Fd
  deriving DecidableEq, Repr

def AttachmentFds.list (fds : AttachmentFds) : List Fd :=
  [fds.shmFd, fds.spaceAvailableEventFd, fds.dataAvailableEventFd]

/-- The broker's attachment under the numbers that its descriptors have at the client. -/
def receivedAttachment (attachment : SubscriberAttachment) (fds : AttachmentFds) :
    PublisherAttachment where
  topicId := attachment.topicId
  shmFd := some fds.shmFd
  spaceAvailableEventFd := some fds.spaceAvailableEventFd
  dataAvailableEventFd := some fds.dataAvailableEventFd
  slotIndex := attachment.slotIndex
  subscriberReadIndex := SharedMemory.kInvalidIndex
  expectedSeq := -1

/-- The metadata of an attachment at an offset is read back. -/
theorem read_metadata {packet : Memory} {offset : ℕ} {attachment : SubscriberAttachment}
    (hid : attachment.attachmentId < 2 ^ 64) (hslot : attachment.slotIndex < 2 ^ 32)
    (hload : load packet offset kSubscriberAttachmentMetadataSize = attachment.metadata) :
    ofLittleEndian (load packet offset 8) = attachment.attachmentId ∧
      packet (offset + 8) = attachment.topicId ∧
      ofLittleEndian (load packet (offset + 8 + 1) 4) = attachment.slotIndex := by
  rw [kSubscriberAttachmentMetadataSize, load_add, load_add, SubscriberAttachment.metadata,
    List.append_assoc] at hload
  obtain ⟨hidBytes, hrest⟩ := List.append_inj hload (by simp)
  have hbyte : load packet (offset + 8) 1 = [packet (offset + 8)] := rfl
  rw [hbyte, List.singleton_append, List.cons.injEq, ← Nat.add_assoc] at hrest
  refine ⟨?_, hrest.1, ?_⟩
  · rw [hidBytes, ofLittleEndian_of_lt (by norm_num; exact hid)]
  · rw [hrest.2, ofLittleEndian_of_lt (by norm_num; exact hslot)]

/-- Taking the first descriptor that is left. -/
theorem exchange_replicate (taken : ℕ) (fd : Fd) (rest : List FdVariable) :
    exchange (List.replicate taken none ++ some fd :: rest) taken =
      (some fd, List.replicate (taken + 1) none ++ rest) := by
  have hset : (List.replicate taken none ++ some fd :: rest).set taken none =
      List.replicate (taken + 1) none ++ rest := by
    rw [List.set_append_right _ _ (by simp), List.length_replicate, Nat.sub_self,
      List.set_cons_zero, List.replicate_succ', List.append_assoc]
    rfl
  simp [exchange, hset]

/-- One iteration reads the attachment that stands at its offsets. -/
theorem readAttachment_eq {cursor : BatchCursor} {packet : Memory}
    {attachment : SubscriberAttachment} {fds : AttachmentFds} {rest : List FdVariable}
    (hid : attachment.attachmentId < 2 ^ 64) (hslot : attachment.slotIndex < 2 ^ 32)
    (hload : load packet cursor.packetOffset kSubscriberAttachmentMetadataSize =
      attachment.metadata)
    (hfds : cursor.fds =
      List.replicate (3 * cursor.attachmentIndex) none ++ (fds.list.map some ++ rest)) :
    cursor.readAttachment packet =
      (attachment.attachmentId, receivedAttachment attachment fds,
        { attachmentIndex := cursor.attachmentIndex + 1
          packetOffset := cursor.packetOffset + kSubscriberAttachmentMetadataSize
          fds := List.replicate (3 * (cursor.attachmentIndex + 1)) none ++ rest
          client := cursor.client }) := by
  obtain ⟨hreadId, hreadTopic, hreadSlot⟩ := read_metadata hid hslot hload
  simp only [BatchCursor.readAttachment, hreadId, hreadTopic, hreadSlot, hfds,
    AttachmentFds.list, List.map_cons, List.map_nil, List.cons_append, List.nil_append,
    exchange_replicate, receivedAttachment]
  rfl

end DriveBus.Clients
