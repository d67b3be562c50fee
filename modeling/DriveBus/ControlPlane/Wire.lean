import DriveBus.ControlPlane.AttachmentIds

/-!
# The broker's records on the wire

The bytes and descriptors of the records that the broker sends to publishers and
subscribers, and that each of them fits its encoding: no count, slot, id or batch is
too large for the field or the message that carries it.
-/

namespace DriveBus.ControlPlane

open DriveBus.ByteMemory

/-! ## Sizes -/

def kInitialSubscriberCountSize : ℕ := 4
def kSubscriberEventFdAndSlotMessageSize : ℕ := 1 + 4
def kSubscriberAttachmentMetadataSize : ℕ := 8 + 1 + 4

/-! ## Records -/

/-- One attachment in the body of a batch. -/
def SubscriberAttachment.metadata (attachment : SubscriberAttachment) : List Byte :=
  littleEndian 8 attachment.attachmentId ++
    attachment.topicId :: littleEndian 4 attachment.slotIndex

/-- The descriptors of one attachment in the control message of a batch. -/
def SubscriberAttachment.rights (attachment : SubscriberAttachment) (shmFd : Fd) : List Fd :=
  [shmFd, attachment.spaceAvailableEventFd, attachment.dataAvailableEventFd]

/-- What a record looks like on the socket.  The count that opens a registration has no
type byte, and the text of a snapshot is left out. -/
def BrokerMessage.packet : BrokerMessage → Packet
  | .statusSnapshot => ⟨[BrokerMessageType.statusSnapshot.code], none⟩
  | .initialSubscriberCount count => ⟨littleEndian kInitialSubscriberCountSize count, none⟩
  | .subscriberEventFdAndSlot slotIndex dataAvailableEventFd =>
      ⟨BrokerMessageType.subscriberEventFdAndSlot.code :: littleEndian 4 slotIndex,
        some [dataAvailableEventFd]⟩
  | .subscriberAttachmentBatch attachments shmFds =>
      ⟨BrokerMessageType.subscriberAttachmentBatch.code ::
          attachments.flatMap SubscriberAttachment.metadata,
        if attachments = [] then none
        else some ((attachments.zipWith SubscriberAttachment.rights shmFds).flatten)⟩
  | .subscriberDisconnected slotIndex =>
      ⟨BrokerMessageType.subscriberDisconnected.code :: littleEndian 4 slotIndex, none⟩
  | .publisherDisconnected attachmentId =>
      ⟨BrokerMessageType.publisherDisconnected.code :: littleEndian 8 attachmentId, none⟩

/-- The fields of a record fit their encodings. -/
def BrokerMessage.Encodable : BrokerMessage → Prop
  | .statusSnapshot => True
  | .initialSubscriberCount count => count < 2 ^ 32
  | .subscriberEventFdAndSlot slotIndex _ => slotIndex < 2 ^ 32
  | .subscriberAttachmentBatch attachments shmFds =>
      shmFds.length = attachments.length ∧ attachments.length ≤ kMaxAttachmentsPerBatch ∧
        ∀ attachment ∈ attachments,
          attachment.attachmentId < 2 ^ 64 ∧ attachment.slotIndex < 2 ^ 32
  | .subscriberDisconnected slotIndex => slotIndex < 2 ^ 32
  | .publisherDisconnected attachmentId => attachmentId < 2 ^ 64

theorem ofLittleEndian_of_lt {width value : ℕ} (hvalue : value < 256 ^ width) :
    ofLittleEndian (littleEndian width value) = value := by
  rw [ofLittleEndian_littleEndian, Nat.mod_eq_of_lt hvalue]

@[simp]
theorem SubscriberAttachment.length_metadata (attachment : SubscriberAttachment) :
    attachment.metadata.length = kSubscriberAttachmentMetadataSize := by
  simp [metadata, kSubscriberAttachmentMetadataSize]

/-! ## Every record that is sent fits -/

/-- The slots of all attachments are in range. -/
theorem Routes.slotIndex_lt {broker : Broker} {members : Members}
    (hroutes : Routes broker members) {subscriberFd : Fd} {attachment : SubscriberAttachment}
    (hmem : attachment ∈ broker.attachmentsOf subscriberFd) :
    attachment.slotIndex < kMaxSubscribers :=
  (hroutes.occupants_nodup (hroutes.attachedTopic subscriberFd attachment hmem)).2
    (slotEntry attachment) (mem_occupants.mpr ⟨subscriberFd, attachment, hmem, rfl, rfl⟩)

theorem Transcript.encodable {before : Broker} {members members' : Members} {fd : Fd}
    {after : Session} (htranscript : Transcript before members fd after members')
    (hroutes : Routes before members) (hroutes' : Routes after.broker members')
    (hissued : before.IdsIssued) (hbounded : before.nextAttachmentId < 2 ^ 64) :
    ∀ record ∈ after.sent, record.2.Encodable := by
  have hissued' := htranscript.issued hissued
  have hbounded' := (htranscript.delivers hbounded).2
  have hslot : ∀ {broker members subscriberFd attachment}, Routes broker members →
      attachment ∈ broker.attachmentsOf subscriberFd → attachment.slotIndex < 2 ^ 32 := by
    intro broker members subscriberFd attachment hroutes hmem
    have hlt := hroutes.slotIndex_lt hmem
    rw [kMaxSubscribers] at hlt
    omega
  intro record hmem
  cases htranscript with
  | answered hfresh hsent hbook =>
      rw [hsent record hmem]
      exact trivial
  | subscriberLeft hmember hsent hattachments hnext =>
      rw [hsent] at hmem
      obtain ⟨attachment, hattached, rfl⟩ := List.mem_map.mp hmem
      exact hslot hroutes hattached
  | @publisherLeft topicId detached hmember hsent hpublisher hattachments hnext =>
      rw [hsent] at hmem
      obtain ⟨pair, hpair, rfl⟩ := List.mem_map.mp hmem
      have hattached : pair.2 ∈ before.attachmentsOf pair.1 := by
        rw [← Multiset.mem_coe, ← hattachments pair.1]
        exact Multiset.mem_add.mpr (.inr (mem_attachmentsFor.mpr hpair))
      exact (hissued pair.1 pair.2 hattached).trans hbounded
  | @subscriberJoined topicIds attachments shmFds hfresh hsent hattachments hnumbered hshmFds
      hlength =>
      have hattached : ∀ attachment ∈ attachments,
          attachment ∈ after.broker.attachmentsOf fd := fun attachment hmem => by
        rwa [hattachments, if_pos rfl]
      rw [hsent, List.mem_append, List.mem_singleton] at hmem
      rcases hmem with hnotice | rfl
      · obtain ⟨attachment, hattachment, rfl⟩ := List.mem_map.mp hnotice
        exact hslot hroutes' (hattached attachment hattachment)
      · refine ⟨hshmFds, hlength, fun attachment hattachment => ⟨?_, ?_⟩⟩
        · exact (hissued' fd attachment (hattached attachment hattachment)).trans hbounded'
        · exact hslot hroutes' (hattached attachment hattachment)
  | @publisherJoined topicId shmFd adopted hfresh hsent hpublisher hattachments hnumbered
      hcapacity =>
      rw [hsent, List.mem_cons] at hmem
      rcases hmem with rfl | hnotice
      · change adopted.length < 2 ^ 32
        rw [kMaxSubscribers] at hcapacity
        omega
      · obtain ⟨pair, hpair, hrecord⟩ := List.mem_flatMap.mp hnotice
        have hattached : pair.2 ∈ after.broker.attachmentsOf pair.1 := by
          rw [hattachments]
          exact List.mem_append_right _ (mem_attachmentsFor.mpr hpair)
        have hid := (hissued' pair.1 pair.2 hattached).trans hbounded'
        have hslotIndex := hslot hroutes' hattached
        rw [adoptionNotices, List.mem_cons, List.mem_singleton] at hrecord
        rcases hrecord with rfl | rfl
        · exact hslotIndex
        · exact ⟨rfl, by simp [kMaxAttachmentsPerBatch],
            by simpa using ⟨hid, hslotIndex⟩⟩

end DriveBus.ControlPlane
