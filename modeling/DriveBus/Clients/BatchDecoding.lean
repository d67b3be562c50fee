import DriveBus.Clients.AttachmentBatch

/-!
# What a batch installs

What the subscriber installs from a batch is what the broker sent: the same attachments
in the same order, with the descriptors that belong to them.  It accepts no batch of
another shape.
-/

namespace DriveBus.Clients

open DriveBus.ByteMemory DriveBus.ControlPlane DriveBus.UnorderedMap

/-! ## Installing -/

/-- The system refuses what an installation asks of it. -/
def InstallAnswers.Denies (answers : InstallAnswers) (error : BatchError) : Prop :=
  error = .mmap ∧ answers.mmap = false ∨ error = .epollAdd ∧ answers.epollAdd = false ∨
    error = .badAlloc ∧ (answers.insert = false ∨ answers.emplace = false)

theorem InstallAnswers.not_denies_generous (error : BatchError) :
    ¬InstallAnswers.generous.Denies error := by
  simp [InstallAnswers.Denies, InstallAnswers.generous]

namespace SubscriberClient

/-- Several attachments installed one after the other. -/
def installAll (client : SubscriberClient) (entries : List (ℕ × PublisherAttachment)) :
    SubscriberClient :=
  entries.foldl (fun client entry => client.install entry.1 entry.2) client

/-- The id and the event descriptor of an attachment are in neither map. -/
def IsNew (client : SubscriberClient) (attachmentId : ℕ) (eventFd : FdVariable) : Prop :=
  client.dataAvailableEventFdByAttachmentId.lookup attachmentId = none ∧
    client.publisherAttachmentByDataAvailableEventFd.lookup eventFd = none

@[simp]
theorem setInterest_ids (client : SubscriberClient) (eventFd : FdVariable)
    (eventId : Option ℕ) :
    (client.setInterest eventFd eventId).dataAvailableEventFdByAttachmentId =
      client.dataAvailableEventFdByAttachmentId := by
  cases eventFd <;> rfl

@[simp]
theorem setInterest_attachments (client : SubscriberClient) (eventFd : FdVariable)
    (eventId : Option ℕ) :
    (client.setInterest eventFd eventId).publisherAttachmentByDataAvailableEventFd =
      client.publisherAttachmentByDataAvailableEventFd := by
  cases eventFd <;> rfl

@[simp]
theorem setInterest_closed (client : SubscriberClient) (eventFd : FdVariable)
    (eventId : Option ℕ) : (client.setInterest eventFd eventId).closed = client.closed := by
  cases eventFd <;> rfl

@[simp]
theorem install_ids (client : SubscriberClient) (attachmentId : ℕ)
    (attachment : PublisherAttachment) :
    (client.install attachmentId attachment).dataAvailableEventFdByAttachmentId =
      client.dataAvailableEventFdByAttachmentId.insert attachmentId
        attachment.dataAvailableEventFd := by
  simp [install, emplaceAttachment, insertId]

@[simp]
theorem install_attachments (client : SubscriberClient) (attachmentId : ℕ)
    (attachment : PublisherAttachment) :
    (client.install attachmentId attachment).publisherAttachmentByDataAvailableEventFd =
      client.publisherAttachmentByDataAvailableEventFd.insert
        attachment.dataAvailableEventFd attachment := by
  simp [install, emplaceAttachment, insertId]

@[simp]
theorem install_closed (client : SubscriberClient) (attachmentId : ℕ)
    (attachment : PublisherAttachment) :
    (client.install attachmentId attachment).closed = client.closed := by
  simp [install, emplaceAttachment, insertId]

/-- Releasing an attachment undoes its registration. -/
theorem release_setInterest (client : SubscriberClient) (attachment : PublisherAttachment)
    (eventId : Option ℕ) :
    (client.setInterest attachment.dataAvailableEventFd eventId).releasePublisherAttachment
      attachment = client.releasePublisherAttachment attachment := by
  rw [releasePublisherAttachment, releasePublisherAttachment]
  cases attachment.dataAvailableEventFd with
  | none => rfl
  | some fd => simp [setInterest]

/-- The first thing that keeps an attachment from being installed. -/
def refusal (client : SubscriberClient) (answers : InstallAnswers) (attachmentId : ℕ)
    (attachment : PublisherAttachment) : Option BatchError :=
  if answers.mmap = false then some .mmap
  else if answers.epollAdd = false then some .epollAdd
  else if (client.dataAvailableEventFdByAttachmentId.lookup attachmentId).isSome then
    some .attachmentIdAlreadyExists
  else if answers.insert = false then some .badAlloc
  else if (client.publisherAttachmentByDataAvailableEventFd.lookup
      attachment.dataAvailableEventFd).isSome then
    some .dataAvailableEventFdAlreadyExists
  else if answers.emplace = false then some .badAlloc
  else none

/-- An attachment that nothing keeps from it is installed, another one is released. -/
theorem installAttachment_eq (answers : InstallAnswers) (attachmentId : ℕ)
    (attachment : PublisherAttachment) (client : SubscriberClient) :
    client.installAttachment answers attachmentId attachment =
      (client.refusal answers attachmentId attachment).elim
        (.ok (), client.install attachmentId attachment)
        fun error => (.error error, client.releasePublisherAttachment attachment) := by
  have hrelease := release_setInterest client attachment (some attachmentId)
  let added := client.setInterest attachment.dataAvailableEventFd (some attachmentId)
  have hinserted : (added.insertId attachmentId attachment.dataAvailableEventFd
      ).publisherAttachmentByDataAvailableEventFd =
        client.publisherAttachmentByDataAvailableEventFd := setInterest_attachments _ _ _
  rw [installAttachment, refusal]
  by_cases hmmap : answers.mmap = false
  · rw [if_pos hmmap, if_pos hmmap, Option.elim_some]
  rw [if_neg hmmap, if_neg hmmap]
  by_cases hadd : answers.epollAdd = false
  · rw [if_pos hadd, if_pos hadd, Option.elim_some]
  rw [if_neg hadd, if_neg hadd]
  dsimp only
  rw [setInterest_ids, hinserted]
  by_cases hid : (client.dataAvailableEventFdByAttachmentId.lookup attachmentId).isSome
  · rw [if_pos hid, if_pos hid, Option.elim_some, hrelease]
  rw [if_neg hid, if_neg hid]
  by_cases hinsert : answers.insert = false
  · rw [if_pos hinsert, if_pos hinsert, Option.elim_some, hrelease]
  rw [if_neg hinsert, if_neg hinsert]
  -- From here on the id is in its map and has to be taken out again.
  have htakenBack : ((added.insertId attachmentId attachment.dataAvailableEventFd).eraseId
      attachmentId) = added := by
    have hids : added.dataAvailableEventFdByAttachmentId =
        client.dataAvailableEventFdByAttachmentId := setInterest_ids _ _ _
    rw [eraseId, insertId, hids, erase_insert_of_notMem _ (by simpa using hid), ← hids]
  rw [htakenBack, hrelease]
  by_cases hfd : (client.publisherAttachmentByDataAvailableEventFd.lookup
      attachment.dataAvailableEventFd).isSome
  · rw [if_pos hfd, if_pos hfd, Option.elim_some]
  rw [if_neg hfd, if_neg hfd]
  by_cases hemplace : answers.emplace = false
  · rw [if_pos hemplace, if_pos hemplace, Option.elim_some]
  · rw [if_neg hemplace, if_neg hemplace, Option.elim_none]
    rfl

/-- Only the system refuses what is new. -/
theorem IsNew.denies {answers : InstallAnswers} {client : SubscriberClient} {attachmentId : ℕ}
    {attachment : PublisherAttachment} {error : BatchError}
    (hnew : client.IsNew attachmentId attachment.dataAvailableEventFd)
    (hrefusal : client.refusal answers attachmentId attachment = some error) :
    answers.Denies error := by
  rw [refusal, hnew.1, hnew.2] at hrefusal
  rw [InstallAnswers.Denies]
  grind

/-- Only what is new is not refused. -/
theorem isNew_of_refusal {answers : InstallAnswers} {client : SubscriberClient}
    {attachmentId : ℕ} {attachment : PublisherAttachment}
    (haccepted : client.refusal answers attachmentId attachment = none) :
    client.IsNew attachmentId attachment.dataAvailableEventFd := by
  rw [refusal] at haccepted
  exact ⟨Option.not_isSome_iff_eq_none.mp (by grind),
    Option.not_isSome_iff_eq_none.mp (by grind)⟩

/-- With a new id and a new descriptor, nothing but the system can stop an
installation, and then the attachment is released. -/
theorem installAttachment_new (answers : InstallAnswers) {client : SubscriberClient}
    {attachmentId : ℕ} {attachment : PublisherAttachment}
    (hnew : client.IsNew attachmentId attachment.dataAvailableEventFd) :
    client.installAttachment answers attachmentId attachment =
        (.ok (), client.install attachmentId attachment) ∨
      ∃ error, answers.Denies error ∧
        client.installAttachment answers attachmentId attachment =
          (.error error, client.releasePublisherAttachment attachment) := by
  rw [installAttachment_eq]
  cases hrefusal : client.refusal answers attachmentId attachment with
  | none => exact .inl rfl
  | some error => exact .inr ⟨error, hnew.denies hrefusal, rfl⟩

theorem installAll_ids (client : SubscriberClient)
    (entries : List (ℕ × PublisherAttachment)) :
    (client.installAll entries).dataAvailableEventFdByAttachmentId =
      insertAll client.dataAvailableEventFdByAttachmentId
        (entries.map fun entry => (entry.1, entry.2.dataAvailableEventFd)) := by
  induction entries generalizing client with
  | nil => rfl
  | cons entry entries ih => exact (ih _).trans (by rw [install_ids]; rfl)

theorem installAll_attachments (client : SubscriberClient)
    (entries : List (ℕ × PublisherAttachment)) :
    (client.installAll entries).publisherAttachmentByDataAvailableEventFd =
      insertAll client.publisherAttachmentByDataAvailableEventFd
        (entries.map fun entry => (entry.2.dataAvailableEventFd, entry.2)) := by
  induction entries generalizing client with
  | nil => rfl
  | cons entry entries ih => exact (ih _).trans (by rw [install_attachments]; rfl)

/-- What is new stays new while others are installed. -/
theorem IsNew.install {client : SubscriberClient} {attachmentId other : ℕ}
    {attachment : PublisherAttachment} {eventFd : FdVariable}
    (hnew : client.IsNew attachmentId eventFd) (hid : attachmentId ≠ other)
    (hfd : eventFd ≠ attachment.dataAvailableEventFd) :
    (client.install other attachment).IsNew attachmentId eventFd := by
  rw [IsNew, install_ids, install_attachments, AList.lookup_insert_ne hid,
    AList.lookup_insert_ne hfd]
  exact hnew

end SubscriberClient

/-- An entry of a batch as the client installs it. -/
def receivedEntry (entry : SubscriberAttachment × AttachmentFds) :
    ℕ × PublisherAttachment :=
  (entry.1.attachmentId, receivedAttachment entry.1 entry.2)

/-- The ids and the event descriptors of a batch are distinct and not in use. -/
structure FreshBatch (client : SubscriberClient)
    (entries : List (SubscriberAttachment × AttachmentFds)) : Prop where
  ids : (entries.map (·.1.attachmentId)).Nodup
  eventFds : (entries.map (·.2.dataAvailableEventFd)).Nodup
  isNew : ∀ entry ∈ entries,
    client.IsNew entry.1.attachmentId (some entry.2.dataAvailableEventFd)

theorem FreshBatch.tail {client : SubscriberClient}
    {entry : SubscriberAttachment × AttachmentFds}
    {entries : List (SubscriberAttachment × AttachmentFds)}
    (hfresh : FreshBatch client (entry :: entries)) :
    FreshBatch (client.install entry.1.attachmentId (receivedAttachment entry.1 entry.2))
      entries := by
  have hids := hfresh.ids
  have heventFds := hfresh.eventFds
  rw [List.map_cons, List.nodup_cons] at hids heventFds
  refine ⟨hids.2, heventFds.2, fun other hmem => ?_⟩
  have hnew := hfresh.isNew other (List.mem_cons_of_mem _ hmem)
  refine hnew.install (fun heq => hids.1 ?_) (fun heq => heventFds.1 ?_)
  · exact heq ▸ List.mem_map_of_mem (f := fun entry => entry.1.attachmentId) hmem
  · have hdata : other.2.dataAvailableEventFd = entry.2.dataAvailableEventFd :=
      Option.some.inj heq
    exact hdata ▸ List.mem_map_of_mem (f := fun entry => entry.2.dataAvailableEventFd) hmem

/-- How a fresh batch ends: all of it is installed, or the system refuses one of its
attachments, which is released. -/
inductive BatchOutcome (answers : ℕ → InstallAnswers) (client : SubscriberClient) :
    List (SubscriberAttachment × AttachmentFds) → Except BatchError Unit →
      SubscriberClient → Prop
  | installed (entries : List (SubscriberAttachment × AttachmentFds)) :
      BatchOutcome answers client entries (.ok ())
        (client.installAll (entries.map receivedEntry))
  | refused {error : BatchError} {index : ℕ}
      (installed : List (SubscriberAttachment × AttachmentFds))
      (entry : SubscriberAttachment × AttachmentFds)
      (rest : List (SubscriberAttachment × AttachmentFds))
      (hdenies : (answers index).Denies error) :
      BatchOutcome answers client (installed ++ entry :: rest) (.error error)
        ((client.installAll (installed.map receivedEntry)).releasePublisherAttachment
          (receivedAttachment entry.1 entry.2))

theorem BatchOutcome.cons {answers : ℕ → InstallAnswers} {client after : SubscriberClient}
    {entry : SubscriberAttachment × AttachmentFds}
    {entries : List (SubscriberAttachment × AttachmentFds)} {result : Except BatchError Unit}
    (houtcome : BatchOutcome answers
      (client.install entry.1.attachmentId (receivedAttachment entry.1 entry.2)) entries
      result after) : BatchOutcome answers client (entry :: entries) result after := by
  cases houtcome with
  | installed => exact .installed (entry :: entries)
  | refused installed refused rest hdenies =>
      exact .refused (entry :: installed) refused rest hdenies

theorem BatchOutcome.ok_of_generous {client after : SubscriberClient}
    {entries : List (SubscriberAttachment × AttachmentFds)} {result : Except BatchError Unit}
    (houtcome : BatchOutcome (fun _ => .generous) client entries result after) :
    result = .ok () ∧ after = client.installAll (entries.map receivedEntry) := by
  cases houtcome with
  | installed => exact ⟨rfl, rfl⟩
  | refused _ _ _ hdenies => exact absurd hdenies (InstallAnswers.not_denies_generous _)

/-- A fresh batch is installed from its first attachment to its last. -/
theorem installAttachments_fresh (answers : ℕ → InstallAnswers) {cursor : BatchCursor}
    {packet : Memory} {entries : List (SubscriberAttachment × AttachmentFds)}
    (hfits : ∀ entry ∈ entries,
      entry.1.attachmentId < 2 ^ 64 ∧ entry.1.slotIndex < 2 ^ 32)
    (hload : load packet cursor.packetOffset
      (entries.length * kSubscriberAttachmentMetadataSize) = entries.flatMap (·.1.metadata))
    (hfds : cursor.fds = List.replicate (3 * cursor.attachmentIndex) none ++
      (entries.flatMap (·.2.list)).map some)
    (hfresh : FreshBatch cursor.client entries) :
    let run := installAttachments answers packet entries.length cursor
    BatchOutcome answers cursor.client entries run.1 run.2.client ∧
      (run.1 = .ok () → openFds run.2.fds = []) := by
  induction entries generalizing cursor with
  | nil =>
      refine ⟨.installed [], fun _ => ?_⟩
      change openFds cursor.fds = []
      rw [hfds]
      simp [openFds, List.reduceOption_replicate_none]
  | cons entry entries ih =>
      have hentry := hfits entry List.mem_cons_self
      rw [List.length_cons, Nat.succ_mul, Nat.add_comm, load_add, List.flatMap_cons] at hload
      obtain ⟨hhead, htail⟩ := List.append_inj hload (by simp)
      rw [List.flatMap_cons, List.map_append] at hfds
      have hread := readAttachment_eq hentry.1 hentry.2 hhead hfds
      have hnew : cursor.client.IsNew entry.1.attachmentId
          (receivedAttachment entry.1 entry.2).dataAvailableEventFd :=
        hfresh.isNew entry List.mem_cons_self
      rw [List.length_cons, installAttachments, hread]
      dsimp only
      obtain hinstalled | ⟨error, hdenies, hrefused⟩ :=
        SubscriberClient.installAttachment_new (answers cursor.attachmentIndex) hnew
      · rw [hinstalled]
        obtain ⟨houtcome, htaken⟩ := @ih
          { attachmentIndex := cursor.attachmentIndex + 1
            packetOffset := cursor.packetOffset + kSubscriberAttachmentMetadataSize
            fds := List.replicate (3 * (cursor.attachmentIndex + 1)) none ++
              (entries.flatMap (·.2.list)).map some
            client := cursor.client.install entry.1.attachmentId
              (receivedAttachment entry.1 entry.2) }
          (fun other hmem => hfits other (List.mem_cons_of_mem _ hmem)) htail rfl hfresh.tail
        exact ⟨houtcome.cons, htaken⟩
      · rw [hrefused]
        exact ⟨.refused [] entry entries hdenies, fun hok => by cases hok⟩

/-- A batch has been installed in order: the maps have exactly one entry for each of its
attachments, and their old entries. -/
structure BatchInstalled (before after : SubscriberClient)
    (entries : List (SubscriberAttachment × AttachmentFds)) : Prop where
  inOrder : after = before.installAll (entries.map receivedEntry)
  eventFd : ∀ entry ∈ entries,
    after.dataAvailableEventFdByAttachmentId.lookup entry.1.attachmentId =
      some (some entry.2.dataAvailableEventFd)
  attachment : ∀ entry ∈ entries,
    after.publisherAttachmentByDataAvailableEventFd.lookup
      (some entry.2.dataAvailableEventFd) = some (receivedAttachment entry.1 entry.2)
  otherIds : ∀ id ∉ entries.map (·.1.attachmentId),
    after.dataAvailableEventFdByAttachmentId.lookup id =
      before.dataAvailableEventFdByAttachmentId.lookup id
  otherEventFds : ∀ eventFd ∉ entries.map (some ·.2.dataAvailableEventFd),
    after.publisherAttachmentByDataAvailableEventFd.lookup eventFd =
      before.publisherAttachmentByDataAvailableEventFd.lookup eventFd

theorem FreshBatch.installed {client : SubscriberClient}
    {entries : List (SubscriberAttachment × AttachmentFds)}
    (hfresh : FreshBatch client entries) :
    BatchInstalled client (client.installAll (entries.map receivedEntry)) entries := by
  have hids : (entries.map receivedEntry).map
      (fun entry => (entry.1, entry.2.dataAvailableEventFd)) =
        entries.map fun entry =>
          (entry.1.attachmentId, some entry.2.dataAvailableEventFd) := List.map_map
  have heventFds : (entries.map receivedEntry).map
      (fun entry => (entry.2.dataAvailableEventFd, entry.2)) =
        entries.map fun entry =>
          (some entry.2.dataAvailableEventFd, receivedAttachment entry.1 entry.2) :=
    List.map_map
  have hidKeys : (entries.map fun entry =>
      (entry.1.attachmentId, some entry.2.dataAvailableEventFd)).map Prod.fst =
        entries.map (·.1.attachmentId) := List.map_map
  have heventFdKeys : (entries.map fun entry =>
      (some entry.2.dataAvailableEventFd, receivedAttachment entry.1 entry.2)).map Prod.fst =
        entries.map (some ·.2.dataAvailableEventFd) := List.map_map
  have hnodup : (entries.map (some ·.2.dataAvailableEventFd)).Nodup := by
    have hmap := hfresh.eventFds.map (Option.some_injective Fd)
    rwa [List.map_map] at hmap
  have hallIds := (client.installAll_ids (entries.map receivedEntry)).trans
    (congrArg (insertAll _) hids)
  have hallAttachments := (client.installAll_attachments (entries.map receivedEntry)).trans
    (congrArg (insertAll _) heventFds)
  refine ⟨rfl, fun entry hmem => ?_, fun entry hmem => ?_, fun id hother => ?_,
    fun eventFd hother => ?_⟩
  · rw [hallIds]
    exact lookup_insertAll_of_mem (hidKeys ▸ hfresh.ids) (List.mem_map_of_mem hmem)
  · rw [hallAttachments]
    exact lookup_insertAll_of_mem (heventFdKeys ▸ hnodup) (List.mem_map_of_mem hmem)
  · rw [hallIds]
    exact lookup_insertAll_of_notMem (hidKeys ▸ hother)
  · rw [hallAttachments]
    exact lookup_insertAll_of_notMem (heventFdKeys ▸ hother)

/-! ## The whole way -/

/-- `sizeof(control)` in `process_broker_control_messages`. -/
def kSubscriberControlSize : ℕ := cmsgSpace (kMaxAttachmentsPerBatch * 3 * kFdSize)

theorem deliverableFds_kSubscriberControlSize :
    deliverableFds kSubscriberControlSize = 3 * kMaxAttachmentsPerBatch := by decide

theorem fdDataSize_eq (fds : List FdVariable) :
    cmsgLen (kFdSize * fds.length) - cmsgLen 0 = kFdSize * fds.length := by
  simp [cmsgLen]

/-- With whole metadata and three descriptors for each, the loop decides. -/
theorem installSubscriberAttachmentBatch_eq {answers : ℕ → InstallAnswers} {packet : Memory}
    {count : ℕ} {fds : List FdVariable} {client : SubscriberClient} (hcount : count ≠ 0)
    (hfds : fds.length = 3 * count) :
    installSubscriberAttachmentBatch answers packet (count * kSubscriberAttachmentMetadataSize)
        (some (.rights fds)) client =
      let installed := installAttachments answers packet count
        { attachmentIndex := 0, packetOffset := 1, fds, client }
      (installed.1, some (.rights installed.2.fds), installed.2.client) := by
  have hdiv : count * kSubscriberAttachmentMetadataSize / kSubscriberAttachmentMetadataSize =
      count := Nat.mul_div_cancel _ (by decide)
  rw [installSubscriberAttachmentBatch, if_neg (by simp), hdiv]
  dsimp only
  rw [if_neg hcount, if_neg (by simp [isValidScmRightsCmsg]), cmsgData, fdDataSize_eq,
    if_neg (by simp), Nat.mul_div_cancel_left _ (by decide), if_neg (by omega)]

/-- A batch is refused before the first attachment, or is empty, or has whole metadata
and three descriptors for each. -/
theorem installSubscriberAttachmentBatch_cases (answers : ℕ → InstallAnswers)
    (packet : Memory) (bodyLen : ℕ) (cmsg : Option ControlMessage)
    (client : SubscriberClient) :
    (∃ error, installSubscriberAttachmentBatch answers packet bodyLen cmsg client =
      (.error error, cmsg, client)) ∨
    (bodyLen = 0 ∧ cmsg = none ∧
      installSubscriberAttachmentBatch answers packet bodyLen cmsg client =
        (.ok (), none, client)) ∨
    ∃ count fds, count ≠ 0 ∧ bodyLen = count * kSubscriberAttachmentMetadataSize ∧
      cmsg = some (.rights fds) ∧ fds.length = 3 * count := by
  by_cases hwhole : bodyLen % kSubscriberAttachmentMetadataSize ≠ 0
  · exact .inl ⟨.payloadSize, by rw [installSubscriberAttachmentBatch, if_pos hwhole]⟩
  have hcount := Nat.div_mul_cancel (Nat.dvd_of_mod_eq_zero (not_not.mp hwhole))
  by_cases hzero : bodyLen / kSubscriberAttachmentMetadataSize = 0
  · rw [hzero, Nat.zero_mul] at hcount
    subst hcount
    cases cmsg with
    | none => exact .inr (.inl ⟨rfl, rfl, rfl⟩)
    | some message => exact .inl ⟨.unexpectedFd, rfl⟩
  match cmsg with
  | none | some .other =>
      refine .inl ⟨.cmsg, ?_⟩
      rw [installSubscriberAttachmentBatch, if_neg hwhole]
      exact if_neg hzero
  | some (.rights fds) =>
      by_cases hfds : fds.length = 3 * (bodyLen / kSubscriberAttachmentMetadataSize)
      · exact .inr (.inr ⟨_, fds, hzero, hcount.symm, rfl, hfds⟩)
      · refine .inl ⟨.fdCount, ?_⟩
        rw [installSubscriberAttachmentBatch, if_neg hwhole]
        dsimp only
        rw [if_neg hzero, if_neg (by simp [isValidScmRightsCmsg]), cmsgData, fdDataSize_eq,
          if_neg (by simp), Nat.mul_div_cancel_left _ (by decide), if_pos (by omega)]

/-- A batch is accepted only with whole metadata and three descriptors for each. -/
theorem installSubscriberAttachmentBatch_ok {answers : ℕ → InstallAnswers} {packet : Memory}
    {bodyLen : ℕ} {cmsg : Option ControlMessage} {client : SubscriberClient}
    (hok : (installSubscriberAttachmentBatch answers packet bodyLen cmsg client).1 = .ok ()) :
    ∃ count, bodyLen = count * kSubscriberAttachmentMetadataSize ∧
      (count = 0 → cmsg = none) ∧
      (count ≠ 0 → ∃ fds, cmsg = some (.rights fds) ∧ fds.length = 3 * count) := by
  obtain ⟨error, hrefused⟩ | ⟨hbody, hcmsg, -⟩ | ⟨count, fds, hcount, hbody, hcmsg, hfds⟩ :=
    installSubscriberAttachmentBatch_cases answers packet bodyLen cmsg client
  · rw [hrefused] at hok
    cases hok
  · exact ⟨0, by rw [hbody, Nat.zero_mul], fun _ => hcmsg, fun hne => absurd rfl hne⟩
  · exact ⟨count, hbody, fun hzero => absurd hzero hcount, fun _ => ⟨fds, hcmsg, hfds⟩⟩

theorem length_flatMap_metadata (attachments : List SubscriberAttachment) :
    (attachments.flatMap SubscriberAttachment.metadata).length =
      attachments.length * kSubscriberAttachmentMetadataSize := by
  simp [List.length_flatMap]

theorem length_flatMap_list (fds : List AttachmentFds) :
    (fds.flatMap AttachmentFds.list).length = 3 * fds.length := by
  simp [List.length_flatMap, AttachmentFds.list, Nat.mul_comm]

/-- A batch arrives whole in the subscriber's buffers. -/
theorem recvmsg_batch {attachments : List SubscriberAttachment} (shmFds : List Fd)
    {fds : List AttachmentFds} (hcount : attachments.length ≤ kMaxAttachmentsPerBatch)
    (hfds : fds.length = attachments.length) :
    recvmsg kMaxMessageSize kSubscriberControlSize
        (BrokerMessage.subscriberAttachmentBatch attachments shmFds).packet.bytes
        (fds.flatMap AttachmentFds.list) =
      { bytes := BrokerMessageType.subscriberAttachmentBatch.code ::
          attachments.flatMap SubscriberAttachment.metadata
        truncated := false
        control := if attachments = [] then none
          else some (.rights ((fds.flatMap AttachmentFds.list).map some)) } := by
  have hbytes : (attachments.flatMap SubscriberAttachment.metadata).length + 1 ≤
      kMaxMessageSize := by
    rw [length_flatMap_metadata]
    simp only [kMaxAttachmentsPerBatch] at hcount
    simp only [kSubscriberAttachmentMetadataSize, kMaxMessageSize]
    omega
  have hrights : (fds.flatMap AttachmentFds.list).length ≤
      deliverableFds kSubscriberControlSize := by
    rw [length_flatMap_list, deliverableFds_kSubscriberControlSize, hfds]
    omega
  have hnone : fds.flatMap AttachmentFds.list = [] ↔ attachments = [] := by
    rw [← List.length_eq_zero_iff, length_flatMap_list, hfds, ← List.length_eq_zero_iff]
    omega
  have hwhole : ¬(kMaxMessageSize <
      (attachments.flatMap SubscriberAttachment.metadata).length + 1 ∨
        deliverableFds kSubscriberControlSize < (fds.flatMap AttachmentFds.list).length) := by
    omega
  rw [recvmsg, BrokerMessage.packet, List.length_cons, List.take_of_length_le hrights,
    List.take_of_length_le hbytes]
  simp only [hnone, hwhole, decide_false]

/-- The body of a record in the receive buffer. -/
theorem load_body (buffer : Memory) (code : Byte) (body : List Byte) :
    load (store buffer 0 (code :: body)) 1 body.length = body := by
  have hall := load_store_self buffer 0 (code :: body)
  rw [List.length_cons, Nat.add_comm, load_add] at hall
  exact (List.append_inj hall rfl).2

/-- What the broker sends is what the subscriber installs. -/
theorem installSubscriberAttachmentBatch_received (answers : ℕ → InstallAnswers)
    {attachments : List SubscriberAttachment} {fds : List AttachmentFds}
    {client : SubscriberClient} (buffer : Memory)
    (hfits : ∀ attachment ∈ attachments,
      attachment.attachmentId < 2 ^ 64 ∧ attachment.slotIndex < 2 ^ 32)
    (hfds : fds.length = attachments.length)
    (hfresh : FreshBatch client (attachments.zip fds)) :
    let body := attachments.flatMap SubscriberAttachment.metadata
    let installed := installSubscriberAttachmentBatch answers
      (store buffer 0 (BrokerMessageType.subscriberAttachmentBatch.code :: body))
      body.length
      (if attachments = [] then none
        else some (.rights ((fds.flatMap AttachmentFds.list).map some))) client
    BatchOutcome answers client (attachments.zip fds) installed.1 installed.2.2 ∧
      (installed.1 = .ok () → receivedFds installed.2.1 = []) := by
  intro body
  have hzip : (attachments.zip fds).length = attachments.length := by
    rw [List.length_zip, hfds, Nat.min_self]
  have hmetadata : (attachments.zip fds).flatMap (·.1.metadata) = body := by
    rw [← List.flatMap_map Prod.fst SubscriberAttachment.metadata, List.map_fst_zip hfds.ge]
  have hlist : (attachments.zip fds).flatMap (·.2.list) = fds.flatMap AttachmentFds.list := by
    rw [← List.flatMap_map Prod.snd AttachmentFds.list, List.map_snd_zip hfds.le]
  by_cases hnil : attachments = []
  · subst hnil
    have hempty : installSubscriberAttachmentBatch answers
        (store buffer 0 (BrokerMessageType.subscriberAttachmentBatch.code :: body)) body.length
        none client = (.ok (), none, client) := by
      simp [installSubscriberAttachmentBatch, body]
    rw [if_pos rfl, List.zip_nil_left, hempty]
    exact ⟨.installed [], fun _ => rfl⟩
  have hlength : body.length = attachments.length * kSubscriberAttachmentMetadataSize :=
    length_flatMap_metadata attachments
  rw [if_neg hnil, hlength, installSubscriberAttachmentBatch_eq
    (List.length_pos_iff.mpr hnil).ne' (by rw [List.length_map, length_flatMap_list, hfds])]
  let start : BatchCursor := ⟨0, 1, (fds.flatMap AttachmentFds.list).map some, client⟩
  have hload : load (store buffer 0 (BrokerMessageType.subscriberAttachmentBatch.code :: body))
      start.packetOffset ((attachments.zip fds).length * kSubscriberAttachmentMetadataSize) =
        (attachments.zip fds).flatMap (·.1.metadata) := by
    rw [hzip, hmetadata, ← hlength]
    exact load_body buffer _ body
  have hstart : start.fds = List.replicate (3 * start.attachmentIndex) none ++
      ((attachments.zip fds).flatMap (·.2.list)).map some := by
    rw [hlist]
    rfl
  have hrun := installAttachments_fresh answers
    (fun entry hmem => hfits entry.1 (List.of_mem_zip hmem).1) hload hstart hfresh
  rwa [hzip] at hrun

/-- A batch that the broker sends fits the buffers on its way, and the subscriber installs
its attachments as they were sent, the triples of descriptors assigned by position.  No
body and no control message of another shape is accepted. -/
theorem attachmentBatch_decodes (client : SubscriberClient) (buffer : Memory) :
    (∀ (attachments : List SubscriberAttachment) (shmFds : List Fd),
      shmFds.length = attachments.length → attachments.length ≤ kMaxAttachmentsPerBatch →
      (∀ attachment ∈ attachments,
        attachment.attachmentId < 2 ^ 64 ∧ attachment.slotIndex < 2 ^ 32) →
      ∃ bytes sentFds, subscriberAttachmentBatchMessage attachments shmFds =
          some (sendPacketWithFds bytes sentFds) ∧
        sentFds = (attachments.zipWith SubscriberAttachment.rights shmFds).flatten ∧
        bytes.length ≤ kMaxMessageSize ∧
        cmsgSpace (kFdSize * sentFds.length) ≤ kSubscriberControlSize ∧
        ∀ fds : List AttachmentFds, fds.length = attachments.length →
          FreshBatch client (attachments.zip fds) →
          let received := recvmsg kMaxMessageSize kSubscriberControlSize bytes
            (fds.flatMap AttachmentFds.list)
          let installed := installSubscriberAttachmentBatch (fun _ => .generous)
            (store buffer 0 received.bytes) (received.bytes.length - 1) received.control client
          received.truncated = false ∧ installed.1 = .ok () ∧
            receivedFds installed.2.1 = [] ∧
            BatchInstalled client installed.2.2 (attachments.zip fds)) ∧
    ∀ (answers : ℕ → InstallAnswers) (bodyLen : ℕ) (cmsg : Option ControlMessage),
      (installSubscriberAttachmentBatch answers buffer bodyLen cmsg client).1 = .ok () →
      ∃ count, bodyLen = count * kSubscriberAttachmentMetadataSize ∧
        (count = 0 → cmsg = none) ∧
        (count ≠ 0 → ∃ fds, cmsg = some (.rights fds) ∧ fds.length = 3 * count) := by
  refine ⟨fun attachments shmFds hshmFds hcount hfits => ?_,
    fun answers bodyLen cmsg hok => installSubscriberAttachmentBatch_ok hok⟩
  let body := attachments.flatMap SubscriberAttachment.metadata
  have hbody : body.length = attachments.length * kSubscriberAttachmentMetadataSize :=
    length_flatMap_metadata attachments
  have hrights := length_flatten_rights hshmFds
  refine ⟨BrokerMessageType.subscriberAttachmentBatch.code :: body, _, ?_, rfl, ?_, ?_,
    fun fds hfds hfresh => ?_⟩
  · rw [subscriberAttachmentBatchMessage_eq hshmFds hcount, sendPacketWithFds,
      BrokerMessage.packet]
    simp only [flatten_rights_eq_nil hshmFds, body]
  · rw [List.length_cons, hbody]
    simp only [kMaxAttachmentsPerBatch] at hcount
    simp only [kSubscriberAttachmentMetadataSize, kMaxMessageSize]
    omega
  · simp only [kMaxAttachmentsPerBatch] at hcount
    rw [hrights]
    simp only [cmsgSpace, cmsgAlign, kSubscriberControlSize, kMaxAttachmentsPerBatch, kFdSize]
    omega
  · have harrives := recvmsg_batch shmFds hcount hfds
    obtain ⟨houtcome, htaken⟩ :=
      installSubscriberAttachmentBatch_received (fun _ => .generous) buffer hfits hfds hfresh
    intro received installed
    have hreceived : received = _ := harrives
    have hrun : installed = installSubscriberAttachmentBatch (fun _ => .generous)
        (store buffer 0 (BrokerMessageType.subscriberAttachmentBatch.code :: body)) body.length
        (if attachments = [] then none
          else some (.rights ((fds.flatMap AttachmentFds.list).map some))) client := by
      simp only [installed, hreceived, List.length_cons, Nat.add_sub_cancel, body]
    rw [← hrun] at houtcome htaken
    have hok := houtcome.ok_of_generous
    refine ⟨by rw [hreceived], hok.1, htaken hok.1, ?_⟩
    rw [hok.2]
    exact hfresh.installed

theorem attachmentBatch_decodes_pair :
    let attachments : List SubscriberAttachment :=
      [⟨7, 1, 5, 30, 31, 3⟩, ⟨2 ^ 64 - 2, 255, 6, 32, 33, 2 ^ 32 - 1⟩]
    let fds : List AttachmentFds := [⟨10, 11, 12⟩, ⟨13, 14, 15⟩]
    ∃ client', BatchInstalled .initial client' (attachments.zip fds) := by
  intro attachments fds
  obtain ⟨bytes, sentFds, -, -, -, -, hinstalls⟩ :=
    (attachmentBatch_decodes .initial fun _ => 0).1 attachments [40, 41] rfl (by decide)
      (by decide)
  exact ⟨_, (hinstalls fds rfl ⟨by decide, by decide, fun _ _ => ⟨rfl, rfl⟩⟩).2.2.2⟩

end DriveBus.Clients
