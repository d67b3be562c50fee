import DriveBus.ControlPlane.Feeds

/-!
# Attachment ids

Every attachment id that the broker delivers is new.  The ids delivered in a run are
an initial segment of the positive numbers, and the check for exhaustion keeps them
below the largest one, so neither of the subscriber's two reserved event ids is among
them.
-/

namespace DriveBus.ControlPlane

open DriveBus.Transition

/-- The attachment ids that the records deliver, in order. -/
def deliveredIds (sent : List (Fd × BrokerMessage)) : List ℕ :=
  sent.flatMap fun record =>
    match record.2 with
    | .subscriberAttachmentBatch attachments _ => attachments.map (·.attachmentId)
    | _ => []

@[simp]
theorem deliveredIds_append (left right : List (Fd × BrokerMessage)) :
    deliveredIds (left ++ right) = deliveredIds left ++ deliveredIds right :=
  List.flatMap_append

/-- Only attachment batches deliver ids. -/
theorem deliveredIds_eq_nil {sent : List (Fd × BrokerMessage)}
    (hnone : ∀ record ∈ sent, ∀ attachments shmFds,
      record.2 ≠ .subscriberAttachmentBatch attachments shmFds) :
    deliveredIds sent = [] := by
  refine List.flatMap_eq_nil_iff.mpr fun record hmem => ?_
  split
  · next attachments shmFds hrecord => exact absurd hrecord (hnone record hmem _ _)
  · rfl

theorem deliveredIds_adoptionNotices (shmFd : Fd)
    (adopted : List (Fd × SubscriberAttachment)) :
    deliveredIds (adopted.flatMap (adoptionNotices shmFd)) =
      (adopted.map Prod.snd).map (·.attachmentId) := by
  induction adopted with
  | nil => rfl
  | cons pair adopted ih =>
      rw [List.flatMap_cons, deliveredIds_append, ih]
      rfl

/-- What is known of the ids at any time of a run. -/
structure IdsDelivered (world : World) : Prop where
  delivered : deliveredIds world.sent = List.range' 1 (world.broker.nextAttachmentId - 1)
  positive : 1 ≤ world.broker.nextAttachmentId
  bounded : world.broker.nextAttachmentId < 2 ^ 64
  issued : world.broker.IdsIssued

theorem idsDelivered_initial : IdsDelivered World.initial where
  delivered := rfl
  positive := le_rfl
  bounded := by decide
  issued _ _ hmem := absurd hmem List.not_mem_nil

section Steps

variable {before : Broker} {members members' : Members} {fd : Fd} {after : Session}

/-- An event delivers the ids that it issues, and no others. -/
theorem Transcript.delivers (htranscript : Transcript before members fd after members')
    (hbounded : before.nextAttachmentId < 2 ^ 64) :
    (∃ count, deliveredIds after.sent = List.range' before.nextAttachmentId count ∧
      after.broker.nextAttachmentId = before.nextAttachmentId + count) ∧
      after.broker.nextAttachmentId < 2 ^ 64 := by
  cases htranscript with
  | answered hfresh hsent hbook =>
      have hnext : after.broker.nextAttachmentId = before.nextAttachmentId :=
        congrArg Prod.snd hbook
      refine ⟨⟨0, deliveredIds_eq_nil fun record hmem attachments shmFds => ?_, hnext⟩,
        hnext ▸ hbounded⟩
      rw [hsent record hmem]
      exact nofun
  | subscriberLeft hmember hsent hattachments hnext =>
      refine ⟨⟨0, deliveredIds_eq_nil fun record hmem attachments shmFds => ?_, hnext⟩,
        hnext ▸ hbounded⟩
      rw [hsent] at hmem
      obtain ⟨attachment, -, rfl⟩ := List.mem_map.mp hmem
      exact nofun
  | publisherLeft hmember hsent hpublisher hattachments hnext =>
      refine ⟨⟨0, deliveredIds_eq_nil fun record hmem attachments shmFds => ?_, hnext⟩,
        hnext ▸ hbounded⟩
      rw [hsent] at hmem
      obtain ⟨pair, -, rfl⟩ := List.mem_map.mp hmem
      exact nofun
  | @subscriberJoined topicIds attachments shmFds hfresh hsent hattachments hnumbered =>
      refine ⟨⟨attachments.length, ?_, hnumbered.next⟩, hnumbered.bounded⟩
      have hnotices : deliveredIds (attachments.map registrationNotice) = [] := by
        refine deliveredIds_eq_nil fun record hmem _ _ => ?_
        obtain ⟨attachment, -, rfl⟩ := List.mem_map.mp hmem
        exact nofun
      rw [hsent, deliveredIds_append, hnotices, ← hnumbered.ids]
      exact List.append_nil _
  | @publisherJoined topicId shmFd adopted hfresh hsent hpublisher hattachments hnumbered =>
      refine ⟨⟨(adopted.map Prod.snd).length, ?_, hnumbered.next⟩, hnumbered.bounded⟩
      rw [hsent, ← hnumbered.ids, ← deliveredIds_adoptionNotices shmFd]
      rfl

/-- The attachments of an event carry ids that have been issued. -/
theorem Transcript.issued (htranscript : Transcript before members fd after members')
    (hissued : before.IdsIssued) : after.broker.IdsIssued := by
  intro subscriberFd attachment hmem
  cases htranscript with
  | answered hfresh hsent hbook =>
      rw [attachmentsOf_of_book hbook] at hmem
      exact (hissued subscriberFd attachment hmem).trans_eq (congrArg Prod.snd hbook).symm
  | subscriberLeft hmember hsent hattachments hnext =>
      rw [hattachments] at hmem
      split at hmem
      · cases hmem
      · exact (hissued subscriberFd attachment hmem).trans_eq hnext.symm
  | publisherLeft hmember hsent hpublisher hattachments hnext =>
      have hold : attachment ∈ before.attachmentsOf subscriberFd := by
        rw [← Multiset.mem_coe, ← hattachments subscriberFd]
        exact Multiset.mem_add.mpr (.inl hmem)
      exact (hissued subscriberFd attachment hold).trans_eq hnext.symm
  | subscriberJoined hfresh hsent hattachments hnumbered =>
      rw [hattachments] at hmem
      split at hmem
      · exact (hnumbered.mem_ids hmem).2
      · exact (hissued subscriberFd attachment hmem).trans_le
          (hnumbered.next ▸ Nat.le_add_right _ _)
  | publisherJoined hfresh hsent hpublisher hattachments hnumbered =>
      rw [hattachments, List.mem_append] at hmem
      rcases hmem with hold | hnew
      · exact (hissued subscriberFd attachment hold).trans_le
          (hnumbered.next ▸ Nat.le_add_right _ _)
      · exact (hnumbered.mem_ids (List.mem_map.mpr
          ⟨_, mem_attachmentsFor.mp hnew, rfl⟩)).2

end Steps

/-- A step keeps the ids in order. -/
theorem IdsDelivered.step {world world' : World} {action : Action}
    (hids : IdsDelivered world) (hconsistent : Consistent world)
    (hnext : world.next action = some world') : IdsDelivered world' := by
  cases hexited : world'.exited with
  | some reason =>
      rw [World.exited_of_next hnext hexited]
      exact ⟨hids.delivered, hids.positive, hids.bounded, hids.issued⟩
  | none =>
      cases hevent : action.event with
      | none =>
          obtain ⟨hsent, hbook⟩ := World.quiet_of_next hevent hnext
          have hid : world'.broker.nextAttachmentId = world.broker.nextAttachmentId :=
            congrArg Prod.snd hbook
          refine ⟨by rw [hsent, hid, hids.delivered], hid ▸ hids.positive,
            hid ▸ hids.bounded, fun subscriberFd attachment hmem => ?_⟩
          rw [attachmentsOf_of_book hbook] at hmem
          exact (hids.issued subscriberFd attachment hmem).trans_eq hid.symm
      | some fd =>
          obtain ⟨session, hhappened⟩ :=
            hconsistent.happened hids.bounded hevent hnext hexited
          obtain ⟨connection, rfl⟩ := hhappened.settled
          obtain ⟨⟨count, hdelivered, hid⟩, hbounded⟩ :=
            hhappened.transcript.delivers hids.bounded
          have hpositive := hids.positive
          refine ⟨?_, ?_, hbounded, hhappened.transcript.issued hids.issued⟩
          · change deliveredIds (world.sent ++ session.sent) =
              List.range' 1 (session.broker.nextAttachmentId - 1)
            have hstart : world.broker.nextAttachmentId =
                1 + 1 * (world.broker.nextAttachmentId - 1) := by omega
            have hlength : session.broker.nextAttachmentId - 1 =
                (world.broker.nextAttachmentId - 1) + count := by omega
            rw [deliveredIds_append, hids.delivered, hdelivered, hlength, ← List.range'_append,
              ← hstart]
          · exact hpositive.trans (hid ▸ Nat.le_add_right _ count)

theorem idsDelivered_of_reachable {world : World}
    (hreach : network.ReachableWith SendsOneRecord world) : IdsDelivered world := by
  have hboth := hreach.invariant (fun world => Consistent world ∧ IdsDelivered world)
    ⟨consistent_initial, idsDelivered_initial⟩ fun _ _ _ ⟨hconsistent, hids⟩ hallowed hnext =>
      ⟨(hconsistent.step hallowed hnext).2.1, hids.step hconsistent hnext⟩
  exact hboth.2

/-- The ids are unique, and none is a reserved event id. -/
theorem IdsDelivered.distinct {world : World} (hids : IdsDelivered world) :
    (deliveredIds world.sent).Nodup ∧
      ∀ id ∈ deliveredIds world.sent, 0 < id ∧ id < 2 ^ 64 - 1 := by
  rw [hids.delivered]
  refine ⟨List.nodup_range', fun id hmem => ?_⟩
  have hbounded := hids.bounded
  rw [List.mem_range'_1] at hmem
  omega

end DriveBus.ControlPlane
