import DriveBus.ControlPlane.Routing

/-!
# Slots on the move

How the operations on the maps look through their views, and the bookkeeping of
the handlers' loops: a loop moves slots between the heaps and the attachments,
one slot for each item.
-/

namespace DriveBus.ControlPlane

open DriveBus.Contract DriveBus.UnorderedMap

/-! ## The views of the maps -/

namespace Broker

variable {broker : Broker} {topicId other : TopicId} {publisherFd fd : Fd}

theorem freeSlots_eq_some {heap : SlotHeap} :
    broker.freeSlots topicId publisherFd = some heap ↔ ∃ slotsByPublisherFd,
      broker.availableSubscriberSlotsByTopicIdAndPublisherFd.lookup topicId =
        some slotsByPublisherFd ∧ slotsByPublisherFd.lookup publisherFd = some heap :=
  Option.bind_eq_some_iff

theorem freeSlots_setFreeSlots (heap : SlotHeap) :
    (broker.setFreeSlots topicId publisherFd heap).freeSlots other fd =
      if other = topicId ∧ fd = publisherFd then some heap
      else broker.freeSlots other fd := by
  simp only [freeSlots, setFreeSlots, lookup_insert]
  by_cases htopic : other = topicId
  · subst htopic
    by_cases hfd : fd = publisherFd
    · simp [hfd, lookup_insert]
    · cases hlookup : broker.availableSubscriberSlotsByTopicIdAndPublisherFd.lookup other with
      | none =>
          have hempty := lookup_insert ∅ publisherFd fd heap
          simpa [hfd] using hempty
      | some slotsByPublisherFd => simp [hfd]
  · simp [htopic]

@[simp]
theorem freeSlots_setNextAttachmentId (attachmentId : ℕ) :
    (broker.setNextAttachmentId attachmentId).freeSlots topicId publisherFd =
      broker.freeSlots topicId publisherFd := rfl

theorem attachmentsOf_setAttachments (attachments : List SubscriberAttachment)
    (subscriberFd : Fd) :
    (broker.setAttachments fd attachments).attachmentsOf subscriberFd =
      if subscriberFd = fd then attachments else broker.attachmentsOf subscriberFd := by
  simp only [attachmentsOf, setAttachments, lookup_insert]
  split <;> rfl

theorem subscribersOf_setSubscribers (subscribers : List Fd) :
    (broker.setSubscribers topicId subscribers).subscribersOf other =
      if other = topicId then subscribers else broker.subscribersOf other := by
  simp only [subscribersOf, setSubscribers, lookup_insert]
  split <;> rfl

end Broker

/-! ## Slots on the move -/

/-- The heaps of `after` are those of `before`, each with the given slots added. -/
def SlotsMove (before after : Broker) (moved : Fd → Multiset ℕ) : Prop :=
  ∀ topicId publisherFd, (after.freeSlots topicId publisherFd).map SlotHeap.free =
    (before.freeSlots topicId publisherFd).map fun heap => heap.free + moved publisherFd

namespace SlotsMove

variable {before after : Broker} {moved : Fd → Multiset ℕ} {topicId : TopicId}
  {publisherFd : Fd} {heap heap' : SlotHeap}

theorem refl (broker : Broker) : SlotsMove broker broker fun _ => 0 := by
  intro topicId publisherFd
  simp

theorem isSome_eq (hmove : SlotsMove before after moved) (topicId : TopicId)
    (publisherFd : Fd) :
    (after.freeSlots topicId publisherFd).isSome =
      (before.freeSlots topicId publisherFd).isSome := by
  have hisSome := congrArg Option.isSome (hmove topicId publisherFd)
  simpa using hisSome

theorem free_eq (hmove : SlotsMove before after moved)
    (hbefore : before.freeSlots topicId publisherFd = some heap)
    (hafter : after.freeSlots topicId publisherFd = some heap') :
    heap'.free = heap.free + moved publisherFd := by
  have hfree := hmove topicId publisherFd
  rw [hbefore, hafter] at hfree
  exact Option.some.inj hfree

/-- Put one more slot into the heap of a publisher. -/
theorem put (hmove : SlotsMove before after moved) {slot : ℕ}
    (hunique : ∀ other, (before.freeSlots other publisherFd).isSome → other = topicId)
    (hafter : after.freeSlots topicId publisherFd = some heap)
    (hput : heap'.free = heap.free + {slot}) :
    SlotsMove before (after.setFreeSlots topicId publisherFd heap')
      fun fd => moved fd + if publisherFd = fd then {slot} else 0 := by
  intro other fd
  rw [Broker.freeSlots_setFreeSlots]
  by_cases hfd : fd = publisherFd
  · subst hfd
    cases hbefore : before.freeSlots other fd with
    | none =>
        have hnone := hmove.isSome_eq other fd
        have hne : other ≠ topicId := by
          rintro rfl
          simp [hbefore, hafter] at hnone
        rw [hbefore] at hnone
        simp_all
    | some heapBefore =>
        obtain rfl := hunique other (by simp [hbefore])
        simp [hput, hmove.free_eq hbefore hafter, add_assoc]
  · simpa [hfd, Ne.symm hfd] using hmove other fd

/-- Take one slot out of the heap of a publisher. -/
theorem take (hmove : SlotsMove before after moved) {slot : ℕ}
    (hunique : ∀ other, (after.freeSlots other publisherFd).isSome → other = topicId)
    (hbefore : before.freeSlots topicId publisherFd = some heap)
    (htake : heap'.free + {slot} = heap.free) :
    SlotsMove (before.setFreeSlots topicId publisherFd heap') after
      fun fd => moved fd + if publisherFd = fd then {slot} else 0 := by
  intro other fd
  rw [Broker.freeSlots_setFreeSlots]
  by_cases hfd : fd = publisherFd
  · subst hfd
    cases hafter : after.freeSlots other fd with
    | none =>
        have hnone := hmove.isSome_eq other fd
        have hne : other ≠ topicId := by
          rintro rfl
          simp [hbefore, hafter] at hnone
        rw [hafter] at hnone
        simp_all
    | some heapAfter =>
        obtain rfl := hunique other (by simp [hafter])
        simp [hmove.free_eq hbefore hafter, ← htake, add_assoc, add_comm]
  · simpa [hfd, Ne.symm hfd] using hmove other fd

end SlotsMove

/-! ## Lookups that the membership decides -/

theorem Routes.topic_of_freeSlots {broker : Broker} {members : Members}
    (hroutes : Routes broker members) {topicId : TopicId} {publisherFd : Fd}
    (hfree : (broker.freeSlots topicId publisherFd).isSome) :
    members.topic publisherFd = some topicId := by
  simpa [hroutes.freeSlots] using hfree

theorem Routes.freeSlots_of_topic {broker : Broker} {members : Members}
    (hroutes : Routes broker members) {topicId : TopicId} {publisherFd : Fd}
    (htopic : members.topic publisherFd = some topicId) :
    ∃ heap, broker.freeSlots topicId publisherFd = some heap :=
  Option.isSome_iff_exists.mp (by simp [hroutes.freeSlots, htopic])

theorem Routes.lookup_attachments {broker : Broker} {members : Members}
    (hroutes : Routes broker members) {subscriberFd : Fd} {topicIds : List TopicId}
    (hmember : members subscriberFd = some (.subscriber topicIds)) :
    broker.subscriberAttachmentsBySubscriberFd.lookup subscriberFd =
      some (broker.attachmentsOf subscriberFd) := by
  obtain ⟨attachments, hlookup⟩ := Option.isSome_iff_exists.mp
    ((hroutes.attachments subscriberFd).trans (by rw [hmember]; rfl))
  rw [Broker.attachmentsOf, hlookup, Option.getD_some]

/-- Only subscribers have attachments. -/
theorem Routes.attachmentsOf_eq_nil {broker : Broker} {members : Members}
    (hroutes : Routes broker members) {fd : Fd}
    (hmember : (members fd).bind Member.topicIds = none) :
    broker.attachmentsOf fd = [] := by
  have hisSome := hroutes.attachments fd
  rw [hmember, Option.isSome_none, Option.isSome_eq_false_iff,
    Option.isNone_iff_eq_none] at hisSome
  rw [Broker.attachmentsOf, hisSome, Option.getD_none]

theorem Routes.mem_publishersOf {broker : Broker} {members : Members}
    (hroutes : Routes broker members) {topicId : TopicId} {fd : Fd} :
    fd ∈ broker.publishersOf topicId ↔ members.topic fd = some topicId := by
  rw [← List.count_pos_iff, hroutes.publishers]
  split <;> simp [*]

/-! ## Attachment batches -/

/-- A batch within its limits is one send, and a longer one is refused. -/
theorem sendAttachmentBatch_meets {env : Env} {session : Session} {subscriberFd : Fd}
    {attachments : List SubscriberAttachment} {shmFds due : List Fd} {reason : ExitReason}
    {stop : ExitReason → Prop} (firstId : ℕ) (rest : List Fd)
    (hshmFds : shmFds.length = attachments.length)
    (hbatch : ¬attachments.length ≤ kMaxAttachmentsPerBatch → stop reason)
    (hcause : reason.cause = .rejectedSend)
    (hdue : due = session.sent.map Prod.fst ++ subscriberFd :: rest)
    (hexcused : ∀ stopped, Excused env firstId due stopped → stop stopped) :
    Meets (sendAttachmentBatch env session subscriberFd attachments shmFds reason)
      (fun session' => session' = { session with sent := session.sent ++
        [(subscriberFd, .subscriberAttachmentBatch attachments shmFds)] }) stop :=
  (Meets.require_of hshmFds).bind fun _ _ => (Meets.require hbatch).bind fun _ _ =>
    (Session.send_meets _ rest hcause hdue).mono (fun _ hpost => hpost) hexcused

end DriveBus.ControlPlane
