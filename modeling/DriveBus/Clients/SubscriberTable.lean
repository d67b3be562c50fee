import DriveBus.Clients.SubscriberControl
import DriveBus.Library.Replica

/-!
# The subscriber's table of attachments

The two maps and the interest list as one table: what an id stands for, that the
registrations of the event descriptors are those of the installed attachments, and how a
record changes all three together.
-/

namespace DriveBus.Clients

open DriveBus.ControlPlane DriveBus.Replica DriveBus.UnorderedMap

/-- An attachment as it was installed: reading from its ring changes these members. -/
def PublisherAttachment.asInstalled (attachment : PublisherAttachment) : PublisherAttachment :=
  { attachment with subscriberReadIndex := SharedMemory.kInvalidIndex, expectedSeq := -1 }

namespace SubscriberClient

variable {client client' : SubscriberClient} {issued : List ℕ} {id : ℕ} {fd : Fd}
  {eventFd : FdVariable} {attachment : PublisherAttachment}

/-- What the subscriber knows of an attachment id: its topic and its slot. -/
def entry (client : SubscriberClient) : Table ℕ (TopicId × ℕ) := fun id =>
  ((client.dataAvailableEventFdByAttachmentId.lookup id).bind
    client.publisherAttachmentByDataAvailableEventFd.lookup).map fun attachment =>
      (attachment.topicId, attachment.slotIndex)

/-- The event descriptor in the place of an attachment, with the members that reading
changes. -/
def readAttachmentAt (client : SubscriberClient) (eventFd : FdVariable)
    (attachment : PublisherAttachment) (readIndex : ℕ) (expectedSeq : ℤ) : SubscriberClient :=
  { client with
    publisherAttachmentByDataAvailableEventFd :=
      client.publisherAttachmentByDataAvailableEventFd.insert eventFd
        { attachment with subscriberReadIndex := readIndex, expectedSeq } }

/-- The maps are paired, the registrations are those of the installed attachments, and
only issued ids are in use. -/
structure Orderly (client : SubscriberClient) (issued : List ℕ) : Prop where
  paired : client.Paired
  registered : ∀ {fd id}, client.interest fd = some id ↔
    ∃ attachment, client.Has id (some fd) attachment
  issued : ∀ {id eventFd}, client.dataAvailableEventFdByAttachmentId.lookup id =
    some eventFd → id ∈ issued
  described : client.publisherAttachmentByDataAvailableEventFd.lookup none = none

theorem orderly_initial : initial.Orderly issued where
  paired := paired_initial
  registered := ⟨fun hinterest => (by cases hinterest), fun ⟨_, hhas⟩ => by cases hhas.byId⟩
  issued hlookup := by cases hlookup
  described := rfl

theorem Has.of_congr (hhas : client'.Has id eventFd attachment)
    (hids : client'.dataAvailableEventFdByAttachmentId =
      client.dataAvailableEventFdByAttachmentId)
    (hattachments : client'.publisherAttachmentByDataAvailableEventFd =
      client.publisherAttachmentByDataAvailableEventFd) :
    client.Has id eventFd attachment :=
  hhas.congr hids.symm hattachments.symm

theorem Orderly.congr (horderly : client.Orderly issued)
    (hids : client'.dataAvailableEventFdByAttachmentId =
      client.dataAvailableEventFdByAttachmentId)
    (hattachments : client'.publisherAttachmentByDataAvailableEventFd =
      client.publisherAttachmentByDataAvailableEventFd)
    (hinterest : client'.interest = client.interest) : client'.Orderly issued where
  paired := horderly.paired.congr hids hattachments
  registered {fd id} := by
    rw [hinterest, horderly.registered]
    exact exists_congr fun _ => ⟨fun hhas => hhas.congr hids hattachments,
      fun hhas => hhas.of_congr hids hattachments⟩
  issued hlookup := horderly.issued (hids ▸ hlookup)
  described := by rw [hattachments, horderly.described]

theorem Orderly.mono {issued' : List ℕ} (horderly : client.Orderly issued)
    (hsubset : issued ⊆ issued') : client.Orderly issued' :=
  { horderly with issued := fun hlookup => hsubset (horderly.issued hlookup) }

/-- An installed attachment carries its event descriptor. -/
theorem Orderly.eventFd_of_has (horderly : client.Orderly issued)
    (hhas : client.Has id eventFd attachment) :
    ∃ fd, eventFd = some fd ∧ attachment.dataAvailableEventFd = some fd := by
  have hdata := (horderly.paired.backward hhas.byEventFd).1
  cases eventFd with
  | none =>
      have hattachment := hhas.byEventFd
      rw [horderly.described] at hattachment
      cases hattachment
  | some fd => exact ⟨fd, rfl, hdata⟩

/-- What is neither an issued id nor a descriptor that is held is new. -/
theorem Orderly.isNew (horderly : client.Orderly issued) (hid : id ∉ issued)
    (hfd : fd ∉ client.held) : client.IsNew id (some fd) := by
  refine ⟨Option.eq_none_iff_forall_ne_some.mpr fun found hfound =>
    hid (horderly.issued hfound), Option.eq_none_iff_forall_ne_some.mpr fun found hfound =>
      hfd ?_⟩
  rw [held, mem_total]
  refine ⟨some fd, ?_⟩
  rw [weightAt, hfound, Option.elim_some, Multiset.mem_coe, PublisherAttachment.fds,
    (horderly.paired.backward hfound).1]
  cases found.shmFd <;> cases found.spaceAvailableEventFd <;> simp

/-! ## Installing -/

theorem install_interest (hdata : attachment.dataAvailableEventFd = some fd) :
    (client.install id attachment).interest =
      Function.update client.interest fd (some id) := by
  simp [install, emplaceAttachment, insertId, setInterest, hdata]

/-- An installation brings one new attachment under its id. -/
theorem has_install_iff (hpaired : client.Paired)
    (hnew : client.IsNew id attachment.dataAvailableEventFd) {other : ℕ}
    {found : PublisherAttachment} :
    (client.install id attachment).Has other eventFd found ↔
      (other = id ∧ eventFd = attachment.dataAvailableEventFd ∧ found = attachment) ∨
        client.Has other eventFd found := by
  constructor
  · rintro ⟨hbyId, hbyEventFd⟩
    rw [install_ids, lookup_insert] at hbyId
    rw [install_attachments, lookup_insert] at hbyEventFd
    split at hbyId
    next hother =>
      rw [Option.some.injEq] at hbyId
      rw [if_pos hbyId.symm, Option.some.injEq] at hbyEventFd
      exact .inl ⟨hother, hbyId.symm, hbyEventFd.symm⟩
    next =>
      have hne : eventFd ≠ attachment.dataAvailableEventFd := fun heq => by
        have hfound := hpaired.forward hbyId
        rw [heq, hnew.2] at hfound
        cases hfound
      rw [if_neg hne] at hbyEventFd
      exact .inr ⟨hbyId, hbyEventFd⟩
  · rintro (⟨rfl, rfl, rfl⟩ | hhas)
    · exact ⟨by rw [install_ids, AList.lookup_insert],
        by rw [install_attachments, AList.lookup_insert]⟩
    · exact hhas.install hnew

theorem Orderly.install (horderly : client.Orderly issued)
    (hdata : attachment.dataAvailableEventFd = some fd)
    (hnew : client.IsNew id attachment.dataAvailableEventFd) (hid : id ∈ issued) :
    (client.install id attachment).Orderly issued where
  paired := horderly.paired.install hnew
  registered {other otherId} := by
    rw [install_interest hdata, Function.update_apply]
    simp only [has_install_iff horderly.paired hnew, hdata, Option.some.injEq]
    by_cases hother : other = fd
    · subst hother
      have hnone : ∀ found, ¬client.Has otherId (some other) found := fun found hhas => by
        have hfound := hhas.byEventFd
        rw [← hdata, hnew.2] at hfound
        cases hfound
      simp [hnone, eq_comm]
    · simp [hother, horderly.registered]
  issued {otherId eventFd} hlookup := by
    rw [install_ids, lookup_insert] at hlookup
    split at hlookup
    next heq => exact heq ▸ hid
    next => exact horderly.issued hlookup
  described := by
    rw [install_attachments, AList.lookup_insert_ne (by simp [hdata]), horderly.described]

theorem entry_install (hpaired : client.Paired)
    (hnew : client.IsNew id attachment.dataAvailableEventFd) :
    (client.install id attachment).entry =
      Function.update client.entry id (some (attachment.topicId, attachment.slotIndex)) := by
  funext other
  by_cases hother : other = id
  · subst hother
    simp [entry]
  · rw [Function.update_of_ne hother, entry, entry, install_ids, install_attachments,
      AList.lookup_insert_ne hother]
    cases hlookup : client.dataAvailableEventFdByAttachmentId.lookup other with
    | none => rfl
    | some eventFd =>
        have hne : eventFd ≠ attachment.dataAvailableEventFd := fun heq => by
          have hfound := hpaired.forward hlookup
          rw [heq, hnew.2] at hfound
          cases hfound
        rw [Option.bind_some, Option.bind_some, AList.lookup_insert_ne hne]

/-! ## Releasing -/

/-- An attachment that was not installed leaves no trace. -/
theorem Orderly.release (horderly : client.Orderly issued)
    (hdata : attachment.dataAvailableEventFd = some fd)
    (hnone : client.publisherAttachmentByDataAvailableEventFd.lookup (some fd) = none) :
    (client.releasePublisherAttachment attachment).Orderly issued := by
  refine horderly.congr (by simp [releasePublisherAttachment, closeFds])
    (by simp [releasePublisherAttachment, closeFds]) ?_
  have hinterest : client.interest fd = none :=
    Option.eq_none_iff_forall_ne_some.mpr fun found hfound => by
      obtain ⟨attached, hhas⟩ := horderly.registered.mp hfound
      have hattached := hhas.byEventFd
      rw [hnone] at hattached
      cases hattached
  rw [releasePublisherAttachment, hdata]
  exact Function.update_eq_self_iff.mpr hinterest.symm

theorem drop_interest (hdata : attachment.dataAvailableEventFd = some fd) :
    (client.drop id eventFd attachment).interest = Function.update client.interest fd none := by
  simp [drop, eraseAttachment, eraseId, releasePublisherAttachment, closeFds, setInterest,
    hdata]

/-- A release takes away the attachment under its id, and no other. -/
theorem has_drop_iff (hpaired : client.Paired) (hhas : client.Has id eventFd attachment)
    {other : ℕ} {otherFd : FdVariable} {found : PublisherAttachment} :
    (client.drop id eventFd attachment).Has other otherFd found ↔
      other ≠ id ∧ client.Has other otherFd found := by
  constructor
  · rintro ⟨hbyId, hbyEventFd⟩
    rw [drop_ids, lookup_erase] at hbyId
    rw [drop_attachments, lookup_erase] at hbyEventFd
    split at hbyId
    · cases hbyId
    split at hbyEventFd
    · cases hbyEventFd
    exact ⟨‹_›, hbyId, hbyEventFd⟩
  · rintro ⟨hne, hother⟩
    exact hother.drop hpaired hhas hne

theorem Orderly.drop (horderly : client.Orderly issued)
    (hhas : client.Has id eventFd attachment) :
    (client.drop id eventFd attachment).Orderly issued where
  paired := horderly.paired.drop hhas
  registered {other otherId} := by
    obtain ⟨fd, rfl, hdata⟩ := horderly.eventFd_of_has hhas
    rw [drop_interest hdata, Function.update_apply]
    simp only [has_drop_iff horderly.paired hhas]
    by_cases hother : other = fd
    · subst hother
      have hid : ∀ found, client.Has otherId (some other) found → otherId = id :=
        fun found hfound => horderly.paired.injective hfound.byId hhas.byId
      simpa using fun hne found hfound => hne (hid found hfound)
    · have hid : ∀ found, client.Has otherId (some other) found → otherId ≠ id := by
        rintro found hfound rfl
        have heq := hfound.byId.symm.trans hhas.byId
        simp only [Option.some.injEq] at heq
        exact hother heq
      rw [if_neg hother, horderly.registered]
      exact exists_congr fun found => ⟨fun hfound => ⟨hid found hfound, hfound⟩, And.right⟩
  issued hlookup := by
    rw [drop_ids, lookup_erase] at hlookup
    split at hlookup
    · cases hlookup
    · exact horderly.issued hlookup
  described := by
    rw [drop_attachments, lookup_erase, horderly.described]
    split <;> rfl

theorem entry_drop (hpaired : client.Paired) (hhas : client.Has id eventFd attachment) :
    (client.drop id eventFd attachment).entry = Function.update client.entry id none := by
  funext other
  by_cases hother : other = id
  · subst hother
    simp [entry, drop_ids]
  · rw [Function.update_of_ne hother, entry, entry, drop_ids, drop_attachments,
      AList.lookup_erase_ne hother]
    cases hlookup : client.dataAvailableEventFdByAttachmentId.lookup other with
    | none => rfl
    | some otherFd =>
        have hne : otherFd ≠ eventFd := fun heq =>
          hother (hpaired.injective hlookup (heq ▸ hhas.byId))
        rw [Option.bind_some, Option.bind_some, AList.lookup_erase_ne hne]

/-! ## Reading -/

theorem has_of_read (hlookup :
    client.publisherAttachmentByDataAvailableEventFd.lookup eventFd = some attachment)
    {readIndex : ℕ} {expectedSeq : ℤ} {other : ℕ} {otherFd : FdVariable}
    {found : PublisherAttachment}
    (hhas : (client.readAttachmentAt eventFd attachment readIndex expectedSeq).Has other otherFd
      found) :
    ∃ before, client.Has other otherFd before ∧ found.asInstalled = before.asInstalled := by
  obtain ⟨hbyId, hbyEventFd⟩ := hhas
  simp only [readAttachmentAt, lookup_insert] at hbyEventFd
  split at hbyEventFd
  next heq =>
    obtain rfl := Option.some.inj hbyEventFd
    exact ⟨attachment, ⟨hbyId, heq ▸ hlookup⟩, rfl⟩
  next => exact ⟨found, ⟨hbyId, hbyEventFd⟩, rfl⟩

theorem Has.read (hhas : client.Has id eventFd attachment) {otherFd : FdVariable}
    {other : PublisherAttachment} {readIndex : ℕ} {expectedSeq : ℤ} :
    ∃ found, (client.readAttachmentAt otherFd other readIndex expectedSeq).Has id eventFd
      found := by
  by_cases heq : eventFd = otherFd
  · subst heq
    exact ⟨_, hhas.byId, AList.lookup_insert _⟩
  · exact ⟨attachment, hhas.byId, (AList.lookup_insert_ne heq).trans hhas.byEventFd⟩

theorem Orderly.read (horderly : client.Orderly issued) (hlookup :
    client.publisherAttachmentByDataAvailableEventFd.lookup eventFd = some attachment)
    (readIndex : ℕ) (expectedSeq : ℤ) :
    (client.readAttachmentAt eventFd attachment readIndex expectedSeq).Orderly issued where
  paired := by
    constructor
    · intro otherId otherFd hbyId
      simp only [readAttachmentAt, lookup_insert]
      split
      · rfl
      · exact horderly.paired.forward hbyId
    · intro otherFd found hfound
      simp only [readAttachmentAt, lookup_insert] at hfound
      split at hfound
      next heq =>
        obtain rfl := Option.some.inj hfound
        obtain ⟨hdata, hid⟩ := horderly.paired.backward hlookup
        subst heq
        exact ⟨hdata, hid⟩
      next => exact horderly.paired.backward hfound
    · exact horderly.paired.injective
  registered {otherFd otherId} := by
    refine horderly.registered.trans ⟨fun ⟨_, hhas⟩ => hhas.read, fun ⟨_, hhas⟩ => ?_⟩
    obtain ⟨before, hbefore, -⟩ := has_of_read hlookup hhas
    exact ⟨before, hbefore⟩
  issued hbyId := horderly.issued hbyId
  described := by
    have hne : (none : FdVariable) ≠ eventFd := by
      rintro rfl
      rw [horderly.described] at hlookup
      cases hlookup
    rw [readAttachmentAt, AList.lookup_insert_ne hne, horderly.described]

theorem entry_read (hlookup :
    client.publisherAttachmentByDataAvailableEventFd.lookup eventFd = some attachment)
    (readIndex : ℕ) (expectedSeq : ℤ) :
    (client.readAttachmentAt eventFd attachment readIndex expectedSeq).entry = client.entry := by
  funext other
  rw [entry, entry]
  simp only [readAttachmentAt]
  cases client.dataAvailableEventFdByAttachmentId.lookup other with
  | none => rfl
  | some otherFd =>
      rw [Option.bind_some, Option.bind_some, lookup_insert]
      split
      next heq => rw [heq, hlookup]; rfl
      next => rfl

end SubscriberClient

/-! ## Batches -/

section Batches

variable {client : SubscriberClient} {issued : List ℕ}
  {entries : List (SubscriberAttachment × AttachmentFds)}

/-- The first part of a fresh batch is fresh, and the rest is once it is installed. -/
theorem FreshBatch.append {left right : List (SubscriberAttachment × AttachmentFds)}
    (hfresh : FreshBatch client (left ++ right)) :
    FreshBatch client left ∧
      FreshBatch (client.installAll (left.map receivedEntry)) right := by
  induction left generalizing client with
  | nil => exact ⟨⟨.nil, .nil, fun _ hmem => absurd hmem List.not_mem_nil⟩, hfresh⟩
  | cons entry left ih =>
      obtain ⟨hids, heventFds, hisNew⟩ := hfresh
      rw [List.map_append] at hids heventFds
      refine ⟨⟨(List.nodup_append.mp hids).1, (List.nodup_append.mp heventFds).1,
        fun other hmem => hisNew other (List.mem_append_left _ hmem)⟩, (ih ?_).2⟩
      rw [← List.map_append] at hids heventFds
      exact FreshBatch.tail ⟨hids, heventFds, hisNew⟩

theorem FreshBatch.head {entry : SubscriberAttachment × AttachmentFds}
    (hfresh : FreshBatch client (entry :: entries)) :
    client.IsNew entry.1.attachmentId
      (receivedAttachment entry.1 entry.2).dataAvailableEventFd :=
  hfresh.isNew entry List.mem_cons_self

theorem SubscriberClient.Orderly.installAll (horderly : client.Orderly issued)
    (hfresh : FreshBatch client entries)
    (hids : ∀ entry ∈ entries, entry.1.attachmentId ∈ issued) :
    (client.installAll (entries.map receivedEntry)).Orderly issued := by
  induction entries generalizing client with
  | nil => exact horderly
  | cons entry entries ih =>
      exact ih (horderly.install rfl hfresh.head (hids entry List.mem_cons_self)) hfresh.tail
        fun other hmem => hids other (List.mem_cons_of_mem _ hmem)

/-- A batch brings no attachment under an id that it does not name. -/
theorem has_of_installAll (hpaired : client.Paired) (hfresh : FreshBatch client entries)
    {id : ℕ} {eventFd : FdVariable} {attachment : PublisherAttachment}
    (hother : id ∉ entries.map (·.1.attachmentId))
    (hhas : (client.installAll (entries.map receivedEntry)).Has id eventFd attachment) :
    client.Has id eventFd attachment := by
  induction entries generalizing client with
  | nil => exact hhas
  | cons entry entries ih =>
      rw [List.map_cons, List.mem_cons, not_or] at hother
      have hafter := ih (hpaired.install hfresh.head) hfresh.tail hother.2 hhas
      obtain ⟨hid, -⟩ | hbefore :=
        (SubscriberClient.has_install_iff hpaired hfresh.head).mp hafter
      · exact absurd hid hother.1
      · exact hbefore

/-- What a batch does to the table is what its records do to a view. -/
theorem entry_installAll (hpaired : client.Paired) (hfresh : FreshBatch client entries)
    {V : Type} (describe : SubscriberAttachment → V) (project : V → TopicId × ℕ)
    (hproject : ∀ attachment, project (describe attachment) =
      (attachment.topicId, attachment.slotIndex))
    {view view' : Table ℕ V} (hentry : client.entry = view.map project)
    (hreplay : replay Table.apply view (entries.map fun entry =>
      .insert entry.1.attachmentId (describe entry.1)) = some view') :
    (client.installAll (entries.map receivedEntry)).entry = view'.map project := by
  induction entries generalizing client view with
  | nil =>
      obtain rfl := Option.some.inj hreplay
      exact hentry
  | cons entry entries ih =>
      obtain ⟨middle, hmiddle, hrest⟩ := replay_deliver hreplay
      refine ih (hpaired.install hfresh.head) hfresh.tail ?_ hrest
      simp only [Table.apply, Option.ite_none_right_eq_some, Option.some.injEq] at hmiddle
      obtain ⟨-, rfl⟩ := hmiddle
      have hinstalled := SubscriberClient.entry_install hpaired hfresh.head
      rw [hentry] at hinstalled
      rw [Table.map_update, Option.map_some, hproject]
      exact hinstalled

end Batches

end DriveBus.Clients
