import DriveBus.ControlPlane.Transcript
import DriveBus.Library.Replica
import Mathlib.Data.Multiset.OrderedMonoid

/-!
# What each client is told

A client sees the attachments through the records that the broker sends it: a
publisher keeps a table of its slots, a subscriber one of its attachments.  The
records of one event take the table that lists the broker's attachments before it
to the table that lists them after it.
-/

namespace DriveBus.ControlPlane

open DriveBus.Replica DriveBus.UnorderedMap

/-! ## Records by receiver -/

/-- The records among those sent that go to one peer, in order. -/
def recordsTo (peer : Fd) (sent : List (Fd × BrokerMessage)) : List BrokerMessage :=
  (sent.filter (·.1 = peer)).map Prod.snd

@[simp]
theorem recordsTo_nil (peer : Fd) : recordsTo peer [] = [] := rfl

@[simp]
theorem recordsTo_append (peer : Fd) (left right : List (Fd × BrokerMessage)) :
    recordsTo peer (left ++ right) = recordsTo peer left ++ recordsTo peer right := by
  simp [recordsTo]

@[simp]
theorem recordsTo_cons (peer : Fd) (record : Fd × BrokerMessage)
    (sent : List (Fd × BrokerMessage)) :
    recordsTo peer (record :: sent) =
      (if record.1 = peer then [record.2] else []) ++ recordsTo peer sent := by
  by_cases heq : record.1 = peer <;> simp [recordsTo, heq]

theorem recordsTo_eq_nil {peer : Fd} {sent : List (Fd × BrokerMessage)}
    (hother : ∀ record ∈ sent, record.1 ≠ peer) : recordsTo peer sent = [] := by
  rw [recordsTo, List.filter_eq_nil_iff.mpr (by simpa using hother), List.map_nil]

/-- The attachments to one publisher. -/
def attachmentsTo (publisherFd : Fd) (attachments : List SubscriberAttachment) :
    List SubscriberAttachment :=
  attachments.filter (·.publisherFd = publisherFd)

theorem recordsTo_registrationNotice (peer : Fd) (attachments : List SubscriberAttachment) :
    recordsTo peer (attachments.map registrationNotice) =
      (attachmentsTo peer attachments).map fun attachment =>
        .subscriberEventFdAndSlot attachment.slotIndex attachment.dataAvailableEventFd := by
  rw [recordsTo, List.filter_map, List.map_map]
  rfl

theorem recordsTo_disconnectNotice (peer : Fd) (attachments : List SubscriberAttachment) :
    recordsTo peer (attachments.map disconnectNotice) =
      (attachmentsTo peer attachments).map fun attachment =>
        .subscriberDisconnected attachment.slotIndex := by
  rw [recordsTo, List.filter_map, List.map_map]
  rfl

theorem recordsTo_detachmentNotice (peer : Fd)
    (detached : List (Fd × SubscriberAttachment)) :
    recordsTo peer (detached.map detachmentNotice) =
      (attachmentsFor peer detached).map fun attachment =>
        .publisherDisconnected attachment.attachmentId := by
  rw [recordsTo, List.filter_map, List.map_map, attachmentsFor, List.map_map]
  rfl

/-- The two sides of the attachments that a new publisher brings. -/
theorem recordsTo_adoptionNotices {publisherFd : Fd} (peer shmFd : Fd)
    {adopted : List (Fd × SubscriberAttachment)}
    (hpublisher : ∀ pair ∈ adopted, pair.2.publisherFd = publisherFd)
    (hself : attachmentsFor publisherFd adopted = []) :
    recordsTo peer (adopted.flatMap (adoptionNotices shmFd)) =
      if peer = publisherFd then (adopted.map Prod.snd).map fun attachment =>
        .subscriberEventFdAndSlot attachment.slotIndex attachment.dataAvailableEventFd
      else (attachmentsFor peer adopted).map fun attachment =>
        .subscriberAttachmentBatch [attachment] [shmFd] := by
  induction adopted with
  | nil => simp
  | cons pair adopted ih =>
      have hhead : pair.2.publisherFd = publisherFd := hpublisher pair (by simp)
      have hne : pair.1 ≠ publisherFd := by
        rintro heq
        simp [attachmentsFor, heq] at hself
      have htail : attachmentsFor publisherFd adopted = [] := by
        simpa [attachmentsFor, hne] using hself
      rw [List.flatMap_cons, recordsTo_append,
        ih (fun other hmem => hpublisher other (by simp [hmem])) htail]
      by_cases hpeer : peer = publisherFd
      · subst hpeer
        simp [adoptionNotices, registrationNotice, hhead, hne]
      · by_cases hmine : pair.1 = peer
        · simp [adoptionNotices, registrationNotice, hhead, hpeer, Ne.symm hpeer, hmine,
            attachmentsFor]
        · simp [adoptionNotices, registrationNotice, hhead, hpeer, Ne.symm hpeer, hmine,
            attachmentsFor]

/-! ## The slots of a publisher -/

/-- What a publisher is told of one attachment to it. -/
def slotEntry (attachment : SubscriberAttachment) : ℕ × Fd :=
  (attachment.slotIndex, attachment.dataAvailableEventFd)

/-- The slots that some attachments hold of a publisher, each with its event
descriptor. -/
def heldEntries (publisherFd : Fd) (attachments : List SubscriberAttachment) :
    Multiset (ℕ × Fd) :=
  ((attachmentsTo publisherFd attachments).map slotEntry : List (ℕ × Fd))

/-- The slots of a publisher that the attachments of all subscribers hold. -/
def Broker.occupants (broker : Broker) (publisherFd : Fd) : Multiset (ℕ × Fd) :=
  total (fun _ => heldEntries publisherFd) broker.subscriberAttachmentsBySubscriberFd

theorem mem_occupants {broker : Broker} {publisherFd : Fd} {entry : ℕ × Fd} :
    entry ∈ broker.occupants publisherFd ↔ ∃ subscriberFd, ∃ attachment ∈
      broker.attachmentsOf subscriberFd, attachment.publisherFd = publisherFd ∧
        slotEntry attachment = entry := by
  rw [Broker.occupants, mem_total]
  refine exists_congr fun subscriberFd => ?_
  rw [weightAt_attachments rfl, heldEntries, Multiset.mem_coe, List.mem_map]
  simp [attachmentsTo, and_assoc]

/-- Without the event descriptors these are the occupied slots. -/
theorem map_fst_occupants (broker : Broker) (publisherFd : Fd) :
    (broker.occupants publisherFd).map Prod.fst = broker.occupiedSlots publisherFd := by
  refine (map_total (Multiset.mapAddMonoidHom Prod.fst) _ _).trans ?_
  refine congrArg (fun weight => total weight _) ?_
  funext _ attachments
  simp [heldEntries, heldSlots, attachmentsTo, slotEntry, Function.comp_def]

/-- Every slot of a registered publisher is held once, and is a slot. -/
theorem Routes.occupants_nodup {broker : Broker} {members : Members}
    (hroutes : Routes broker members) {publisherFd : Fd} {topicId : TopicId}
    (htopic : members.topic publisherFd = some topicId) :
    ((broker.occupants publisherFd).map Prod.fst).Nodup ∧
      ∀ entry ∈ broker.occupants publisherFd, entry.1 < kMaxSubscribers := by
  obtain ⟨heap, hheap⟩ := hroutes.freeSlots_of_topic htopic
  have hle : broker.occupiedSlots publisherFd ≤ Multiset.range kMaxSubscribers := by
    rw [← hroutes.slots topicId publisherFd heap hheap]
    exact Multiset.le_add_left _ _
  refine ⟨?_, fun entry hmem => ?_⟩
  · rw [map_fst_occupants]
    exact Multiset.nodup_of_le hle (Multiset.nodup_range _)
  · refine Multiset.mem_range.mp (Multiset.mem_of_le hle ?_)
    rw [← map_fst_occupants]
    exact Multiset.mem_map_of_mem Prod.fst hmem

/-- Changing one subscriber's attachments moves the occupants by the difference. -/
theorem occupants_exchange {before after : Broker} (publisherFd subscriberFd : Fd)
    (hother : ∀ other, other ≠ subscriberFd →
      after.attachmentsOf other = before.attachmentsOf other) :
    after.occupants publisherFd +
        heldEntries publisherFd (before.attachmentsOf subscriberFd) =
      before.occupants publisherFd +
        heldEntries publisherFd (after.attachmentsOf subscriberFd) :=
  total_attachments_exchange rfl subscriberFd hother

theorem occupants_congr {before after : Broker} {publisherFd : Fd}
    (heq : ∀ subscriberFd, heldEntries publisherFd (after.attachmentsOf subscriberFd) =
      heldEntries publisherFd (before.attachmentsOf subscriberFd)) :
    after.occupants publisherFd = before.occupants publisherFd :=
  total_attachments_congr rfl heq

/-! ## The table of a publisher -/

/-- What a publisher has taken from its records: how many of the announced
registrations are still to come, once they are announced, and the slots it tracks. -/
structure TrackingView where
  announced : Option ℕ
  table : Table ℕ Fd

namespace TrackingView

def initial : TrackingView := ⟨none, fun _ => none⟩

/-- A registration needs a free slot in range, a disconnection a tracked one, and
the registrations that were announced come before anything else. -/
def apply (view : TrackingView) : BrokerMessage → Option TrackingView
  | .initialSubscriberCount count =>
      if view.announced = none then some { view with announced := some count } else none
  | .subscriberEventFdAndSlot slotIndex dataAvailableEventFd =>
      view.announced.bind fun remaining =>
        if slotIndex < kMaxSubscribers then
          (view.table.apply (.insert slotIndex dataAvailableEventFd)).map fun table =>
            { announced := some (remaining - 1), table }
        else none
  | .subscriberDisconnected slotIndex =>
      if view.announced = some 0 then
        (view.table.apply (.remove slotIndex)).map fun table => { view with table }
      else none
  | _ => none

variable {table : Table ℕ Fd} {entries : Multiset (ℕ × Fd)}

/-- Registrations in free slots are tracked. -/
theorem replay_registrations (hlists : Lists table entries) (remaining : ℕ)
    {attachments : List SubscriberAttachment}
    (hnodup : ((entries + (attachments.map slotEntry : List (ℕ × Fd))).map Prod.fst).Nodup)
    (hslots : ∀ attachment ∈ attachments, attachment.slotIndex < kMaxSubscribers) :
    ∃ table', replay apply ⟨some remaining, table⟩ (attachments.map fun attachment =>
        .subscriberEventFdAndSlot attachment.slotIndex attachment.dataAvailableEventFd) =
          some ⟨some (remaining - attachments.length), table'⟩ ∧
      Lists table' (entries + (attachments.map slotEntry : List (ℕ × Fd))) := by
  obtain ⟨final, hfinal, hlists'⟩ := hlists.replay_insert hnodup
  refine ⟨final, ?_, hlists'⟩
  clear hlists hnodup hlists'
  induction attachments generalizing table remaining with
  | nil => simpa using hfinal
  | cons attachment attachments ih =>
      rw [List.map_cons, List.map_cons, replay, List.foldlM_cons] at hfinal
      obtain ⟨middle, hmiddle, hrest⟩ := Option.bind_eq_some_iff.mp hfinal
      have hstep : apply ⟨some remaining, table⟩ (.subscriberEventFdAndSlot
          attachment.slotIndex attachment.dataAvailableEventFd) =
            some ⟨some (remaining - 1), middle⟩ := by
        simp only [apply, Option.bind_some, if_pos (hslots attachment (by simp))]
        exact congrArg (Option.map _) hmiddle
      rw [List.map_cons, replay, List.foldlM_cons, hstep]
      have hlength : remaining - (attachment :: attachments).length =
          remaining - 1 - attachments.length := by
        rw [List.length_cons]
        omega
      rw [hlength]
      exact ih (remaining - 1) (fun other hmem => hslots other (by simp [hmem])) hrest

/-- Disconnections of tracked slots free them. -/
theorem replay_disconnections {attachments : List SubscriberAttachment}
    (hlists : Lists table (entries + (attachments.map slotEntry : List (ℕ × Fd)))) :
    ∃ table', replay apply ⟨some 0, table⟩ (attachments.map fun attachment =>
        .subscriberDisconnected attachment.slotIndex) = some ⟨some 0, table'⟩ ∧
      Lists table' entries := by
  obtain ⟨final, hfinal, hlists'⟩ := hlists.replay_remove
  refine ⟨final, ?_, hlists'⟩
  clear hlists hlists'
  induction attachments generalizing table with
  | nil => simpa using hfinal
  | cons attachment attachments ih =>
      rw [List.map_cons, List.map_cons, replay, List.foldlM_cons] at hfinal
      obtain ⟨middle, hmiddle, hrest⟩ := Option.bind_eq_some_iff.mp hfinal
      have hstep : apply ⟨some 0, table⟩ (.subscriberDisconnected attachment.slotIndex) =
          some ⟨some 0, middle⟩ := by
        simp only [apply, if_true]
        exact congrArg (Option.map _) hmiddle
      rw [List.map_cons, replay, List.foldlM_cons, hstep]
      exact ih hrest

/-- The view describes the broker's side: a registered publisher has taken all that
was announced, and it tracks the slots that attachments hold. -/
structure Agrees (broker : Broker) (members : Members) (publisherFd : Fd)
    (view : TrackingView) : Prop where
  announced : view.announced = (members.topic publisherFd).map fun _ => 0
  lists : Lists view.table (broker.occupants publisherFd)

end TrackingView

/-- Nobody holds a slot of a publisher that is not registered. -/
theorem Routes.occupants_eq_zero {broker : Broker} {members : Members}
    (hroutes : Routes broker members) {publisherFd : Fd}
    (htopic : members.topic publisherFd = none) : broker.occupants publisherFd = 0 := by
  have hmap := map_fst_occupants broker publisherFd
  rw [hroutes.occupiedSlots_eq_zero htopic] at hmap
  exact Multiset.map_eq_zero.mp hmap

theorem heldEntries_eq_zero {publisherFd : Fd} {attachments : List SubscriberAttachment} :
    heldEntries publisherFd attachments = 0 ↔ attachmentsTo publisherFd attachments = [] := by
  simp [heldEntries]

theorem heldEntries_append (publisherFd : Fd) (left right : List SubscriberAttachment) :
    heldEntries publisherFd (left ++ right) =
      heldEntries publisherFd left + heldEntries publisherFd right := by
  simp [heldEntries, attachmentsTo]

/-- The attachments that a new publisher brings are the ones that hold its slots. -/
theorem occupants_of_adopted {broker : Broker} {publisherFd : Fd}
    {adopted : List (Fd × SubscriberAttachment)}
    (hpublisher : ∀ pair ∈ adopted, pair.2.publisherFd = publisherFd)
    (hheld : ∀ subscriberFd, heldEntries publisherFd (broker.attachmentsOf subscriberFd) =
      heldEntries publisherFd (attachmentsFor subscriberFd adopted)) :
    broker.occupants publisherFd =
      ((adopted.map Prod.snd).map slotEntry : List (ℕ × Fd)) := by
  rw [List.map_map]
  refine total_groups (slotEntry ∘ Prod.snd) fun subscriberFd => ?_
  rw [weightAt_attachments rfl, hheld, heldEntries, attachmentsTo, attachmentsFor,
    List.filter_eq_self.mpr, List.map_map]
  intro attachment hmem
  obtain ⟨pair, hpair, rfl⟩ := List.mem_map.mp hmem
  simpa using hpublisher pair (List.mem_of_mem_filter hpair)

section Tracking

variable {before : Broker} {members members' : Members} {fd publisherFd : Fd}
  {after : Session} {view : TrackingView}

theorem TrackingView.Agrees.registered (hagrees : view.Agrees before members publisherFd)
    {topicId : TopicId} (htopic : members.topic publisherFd = some topicId) :
    view = ⟨some 0, view.table⟩ := by
  have hannounced := hagrees.announced
  rw [htopic, Option.map_some] at hannounced
  rw [← hannounced]

theorem TrackingView.Agrees.unregistered (hagrees : view.Agrees before members publisherFd)
    (htopic : members.topic publisherFd = none) : view = ⟨none, view.table⟩ := by
  have hannounced := hagrees.announced
  rw [htopic, Option.map_none] at hannounced
  rw [← hannounced]

/-- A view stays right when the publisher is told nothing and keeps its slots. -/
theorem TrackingView.Agrees.keep (hagrees : view.Agrees before members publisherFd)
    (hsent : recordsTo publisherFd after.sent = [])
    (htopic : members'.topic publisherFd = members.topic publisherFd)
    (hoccupants : after.broker.occupants publisherFd = before.occupants publisherFd) :
    ∃ view', replay TrackingView.apply view (recordsTo publisherFd after.sent) =
      some view' ∧ view'.Agrees after.broker members' publisherFd := by
  refine ⟨view, by rw [hsent, replay_nil], ?_, ?_⟩
  · rw [htopic]
    exact hagrees.announced
  · rw [hoccupants]
    exact hagrees.lists

/-- A subscriber leaves and its slots become free. -/
theorem TrackingView.Agrees.release (hagrees : view.Agrees before members publisherFd)
    (hroutes : Routes before members) (hne : publisherFd ≠ fd)
    (hsent : after.sent = (before.attachmentsOf fd).map disconnectNotice)
    (hattachments : ∀ other, after.broker.attachmentsOf other =
      if other = fd then [] else before.attachmentsOf other) :
    ∃ view', replay TrackingView.apply view (recordsTo publisherFd after.sent) =
      some view' ∧ view'.Agrees after.broker (members.leave fd) publisherFd := by
  have htopic : (members.leave fd).topic publisherFd = members.topic publisherFd := by
    rw [Members.topic_leave, if_neg hne]
  have hexchange := occupants_exchange publisherFd fd fun other hother =>
    (hattachments other).trans (if_neg hother)
  rw [hattachments fd, if_pos rfl] at hexchange
  replace hexchange : after.broker.occupants publisherFd +
      heldEntries publisherFd (before.attachmentsOf fd) = before.occupants publisherFd :=
    hexchange.trans (add_zero _)
  cases hregistered : members.topic publisherFd with
  | none =>
      rw [hroutes.occupants_eq_zero hregistered, add_eq_zero] at hexchange
      refine hagrees.keep ?_ htopic ?_
      · rw [hsent, recordsTo_disconnectNotice, heldEntries_eq_zero.mp hexchange.2,
          List.map_nil]
      · rw [hexchange.1, hroutes.occupants_eq_zero hregistered]
  | some topicId =>
      have hlists := hagrees.lists
      rw [← hexchange] at hlists
      obtain ⟨table', hreplay, hlists'⟩ := replay_disconnections hlists
      refine ⟨⟨some 0, table'⟩, ?_, ?_, hlists'⟩
      · rw [hsent, recordsTo_disconnectNotice, hagrees.registered hregistered]
        exact hreplay
      · rw [htopic, hregistered]
        rfl

/-- Attachments to other publishers do not matter. -/
theorem heldEntries_eq_zero_of_ne {attachments : List SubscriberAttachment}
    (hother : ∀ attachment ∈ attachments, attachment.publisherFd ≠ publisherFd) :
    heldEntries publisherFd attachments = 0 :=
  heldEntries_eq_zero.mpr (List.filter_eq_nil_iff.mpr (by simpa using hother))

/-- A publisher leaves, and with it the attachments to it alone. -/
theorem TrackingView.Agrees.detach (hagrees : view.Agrees before members publisherFd)
    (hroutes : Routes before members) (hne : publisherFd ≠ fd)
    (hkind : (members publisherFd).bind Member.topicIds = none)
    {detached : List (Fd × SubscriberAttachment)}
    (hsent : after.sent = detached.map detachmentNotice)
    (hpublisher : ∀ pair ∈ detached, pair.2.publisherFd = fd)
    (hattachments : ∀ other,
      (after.broker.attachmentsOf other : Multiset SubscriberAttachment) +
        attachmentsFor other detached = before.attachmentsOf other) :
    ∃ view', replay TrackingView.apply view (recordsTo publisherFd after.sent) =
      some view' ∧ view'.Agrees after.broker (members.leave fd) publisherFd := by
  refine hagrees.keep ?_ (by rw [Members.topic_leave, if_neg hne]) ?_
  · have hnone := hattachments publisherFd
    rw [hroutes.attachmentsOf_eq_nil hkind, Multiset.coe_nil, add_eq_zero,
      Multiset.coe_eq_zero, Multiset.coe_eq_zero] at hnone
    rw [hsent, recordsTo_detachmentNotice, hnone.2, List.map_nil]
  · refine occupants_congr fun subscriberFd => ?_
    have hother : ∀ attachment ∈ attachmentsFor subscriberFd detached,
        attachment.publisherFd ≠ publisherFd := fun attachment hmem heq =>
      hne (heq.symm.trans (hpublisher _ (mem_attachmentsFor.mp hmem)))
    have hsame := congrArg (fun attachments : Multiset SubscriberAttachment =>
      (attachments.filter (·.publisherFd = publisherFd)).map slotEntry)
      (hattachments subscriberFd)
    rw [Multiset.filter_add, Multiset.map_add] at hsame
    change heldEntries _ _ + heldEntries publisherFd (attachmentsFor subscriberFd detached) =
      heldEntries _ _ at hsame
    rwa [heldEntries_eq_zero_of_ne hother, add_zero] at hsame

/-- A subscriber joins and takes slots that were free. -/
theorem TrackingView.Agrees.attach (hagrees : view.Agrees before members publisherFd)
    (hroutes : Routes before members) (hne : publisherFd ≠ fd)
    {topicIds : List TopicId} {attachments : List SubscriberAttachment} {shmFds : List Fd}
    (hroutes' : Routes after.broker (members.join fd (.subscriber topicIds)))
    (hfresh : members fd = none)
    (hsent : after.sent = attachments.map registrationNotice ++
      [(fd, .subscriberAttachmentBatch attachments shmFds)])
    (hattachments : ∀ other, after.broker.attachmentsOf other =
      if other = fd then attachments else before.attachmentsOf other) :
    ∃ view', replay TrackingView.apply view (recordsTo publisherFd after.sent) =
      some view' ∧
      view'.Agrees after.broker (members.join fd (.subscriber topicIds)) publisherFd := by
  have htopic : (members.join fd (.subscriber topicIds)).topic publisherFd =
      members.topic publisherFd := by
    rw [Members.topic_join, if_neg hne]
  have hrecords : recordsTo publisherFd after.sent =
      (attachmentsTo publisherFd attachments).map fun attachment =>
        .subscriberEventFdAndSlot attachment.slotIndex attachment.dataAvailableEventFd := by
    rw [hsent, recordsTo_append, recordsTo_registrationNotice]
    simp [Ne.symm hne]
  have hexchange := occupants_exchange publisherFd fd fun other hother =>
    (hattachments other).trans (if_neg hother)
  rw [hattachments fd, if_pos rfl,
    hroutes.attachmentsOf_eq_nil (by rw [hfresh, Option.bind_none])] at hexchange
  replace hexchange : after.broker.occupants publisherFd =
      before.occupants publisherFd + heldEntries publisherFd attachments :=
    (add_zero _).symm.trans hexchange
  cases hregistered : members.topic publisherFd with
  | none =>
      rw [hroutes'.occupants_eq_zero (htopic.trans hregistered), eq_comm,
        add_eq_zero] at hexchange
      refine hagrees.keep ?_ htopic ?_
      · rw [hrecords, heldEntries_eq_zero.mp hexchange.2, List.map_nil]
      · rw [hroutes'.occupants_eq_zero (htopic.trans hregistered), hexchange.1]
  | some topicId =>
      obtain ⟨hnodup, hslots⟩ := hroutes'.occupants_nodup (htopic.trans hregistered)
      rw [hexchange] at hnodup hslots
      have hrange : ∀ attachment ∈ attachmentsTo publisherFd attachments,
          attachment.slotIndex < kMaxSubscribers := fun attachment hmem =>
        hslots (slotEntry attachment)
          (Multiset.mem_add.mpr (.inr (List.mem_map_of_mem hmem)))
      obtain ⟨table', hreplay, hlists'⟩ :=
        replay_registrations hagrees.lists 0 hnodup hrange
      rw [Nat.zero_sub] at hreplay
      refine ⟨⟨some 0, table'⟩, ?_, ?_, ?_⟩
      · rw [hrecords, hagrees.registered hregistered]
        exact hreplay
      · rw [htopic, hregistered]
        rfl
      · rw [hexchange]
        exact hlists'

/-- A new publisher is not among the subscribers that it brings attachments to. -/
theorem Routes.attachmentsFor_joined {broker : Broker} {topicId : TopicId}
    (hroutes : Routes broker (members.join fd (.publisher topicId)))
    {old : List SubscriberAttachment} {adopted : List (Fd × SubscriberAttachment)}
    (hattachments : broker.attachmentsOf fd = old ++ attachmentsFor fd adopted) :
    attachmentsFor fd adopted = [] := by
  rw [hroutes.attachmentsOf_eq_nil (by simp [Members.join, Member.topicIds])] at hattachments
  exact (List.append_eq_nil_iff.mp hattachments.symm).2

/-- A publisher joins: the count it is told is the number of registrations. -/
theorem TrackingView.Agrees.adopt (hagrees : view.Agrees before members fd)
    (hroutes : Routes before members) {topicId : TopicId} {shmFd : Fd}
    {adopted : List (Fd × SubscriberAttachment)}
    (hroutes' : Routes after.broker (members.join fd (.publisher topicId)))
    (hfresh : members fd = none)
    (hsent : after.sent = (fd, .initialSubscriberCount adopted.length) ::
      adopted.flatMap (adoptionNotices shmFd))
    (hpublisher : ∀ pair ∈ adopted, pair.2.publisherFd = fd)
    (hattachments : ∀ other, after.broker.attachmentsOf other =
      before.attachmentsOf other ++ attachmentsFor other adopted) :
    ∃ view', replay TrackingView.apply view (recordsTo fd after.sent) = some view' ∧
      view'.Agrees after.broker (members.join fd (.publisher topicId)) fd := by
  have htopic : members.topic fd = none := Routes.topic_eq_none hfresh
  have hself := hroutes'.attachmentsFor_joined (hattachments fd)
  have hoccupants : after.broker.occupants fd =
      ((adopted.map Prod.snd).map slotEntry : List (ℕ × Fd)) := by
    refine occupants_of_adopted hpublisher fun subscriberFd => ?_
    have hold : heldEntries fd (before.attachmentsOf subscriberFd) = 0 :=
      heldEntries_eq_zero_of_ne fun attachment hmem => hroutes.publisherFd_ne htopic hmem
    rw [hattachments, heldEntries_append, hold, zero_add]
  have hlists := hagrees.lists
  rw [hroutes.occupants_eq_zero htopic] at hlists
  obtain ⟨hnodup, hslots⟩ := hroutes'.occupants_nodup
    (show (members.join fd (.publisher topicId)).topic fd = some topicId by
      simp [Members.topic_join, Member.topicId])
  rw [hoccupants] at hnodup hslots
  have hrange : ∀ attachment ∈ adopted.map Prod.snd,
      attachment.slotIndex < kMaxSubscribers := fun attachment hmem =>
    hslots (slotEntry attachment) (List.mem_map_of_mem hmem)
  obtain ⟨table', hreplay, hlists'⟩ :=
    replay_registrations hlists adopted.length (by rwa [zero_add]) hrange
  rw [List.length_map, Nat.sub_self] at hreplay
  refine ⟨⟨some 0, table'⟩, ?_, ?_, ?_⟩
  · rw [hsent, recordsTo_cons, if_pos rfl,
      recordsTo_adoptionNotices fd shmFd hpublisher hself, if_pos rfl, List.singleton_append,
      hagrees.unregistered htopic, replay, List.foldlM_cons]
    exact hreplay
  · simp [Members.topic_join, Member.topicId]
  · rw [hoccupants]
    rwa [zero_add] at hlists'

/-- A client that is still connected is not the one that left. -/
theorem Members.ne_of_leave {other : Fd} (hstays : other ≠ fd ∨ members' other ≠ none)
    (hmembers : members' = members.leave fd) : other ≠ fd := by
  subst hmembers
  refine hstays.elim id fun hmember heq => hmember ?_
  rw [heq, Members.leave, Function.update_self]

/-- The records of one event keep every publisher's view right, and those of the
event that registers it make it so. -/
theorem Transcript.tracking (htranscript : Transcript before members fd after members')
    (hroutes : Routes before members) (hroutes' : Routes after.broker members')
    (hstays : publisherFd ≠ fd ∨ members' publisherFd ≠ none)
    (hkind : (members' publisherFd).bind Member.topicIds = none)
    (hagrees : view.Agrees before members publisherFd) :
    ∃ view', replay TrackingView.apply view (recordsTo publisherFd after.sent) =
      some view' ∧ view'.Agrees after.broker members' publisherFd := by
  cases htranscript with
  | answered hfresh hsent hbook =>
      have hne := Members.ne_of_leave hstays rfl
      refine hagrees.keep (recordsTo_eq_nil fun record hmem heq => ?_)
        (by rw [Members.topic_leave, if_neg hne]) (occupants_congr fun subscriberFd => ?_)
      · exact hne (heq.symm.trans (congrArg Prod.fst (hsent record hmem)))
      · rw [attachmentsOf_of_book hbook]
  | subscriberLeft hmember hsent hattachments hnext =>
      exact hagrees.release hroutes (Members.ne_of_leave hstays rfl) hsent hattachments
  | publisherLeft hmember hsent hpublisher hattachments hnext =>
      have hne := Members.ne_of_leave hstays rfl
      refine hagrees.detach hroutes hne ?_ hsent hpublisher hattachments
      rwa [Members.leave, Function.update_of_ne hne] at hkind
  | subscriberJoined hfresh hsent hattachments hnumbered hshmFds hlength =>
      have hne : publisherFd ≠ fd := by
        rintro rfl
        simp [Members.join, Member.topicIds] at hkind
      exact hagrees.attach hroutes hne hroutes' hfresh hsent hattachments
  | @publisherJoined topicId shmFd adopted hfresh hsent hpublisher hattachments hnumbered =>
      by_cases heq : publisherFd = fd
      · subst heq
        exact hagrees.adopt hroutes hroutes' hfresh hsent hpublisher hattachments
      · have hnone : after.broker.attachmentsOf publisherFd = [] :=
          hroutes'.attachmentsOf_eq_nil hkind
        have hself := hroutes'.attachmentsFor_joined (hattachments fd)
        rw [hattachments, List.append_eq_nil_iff] at hnone
        refine hagrees.keep ?_ ?_ ?_
        · rw [hsent, recordsTo_cons, if_neg (Ne.symm heq),
            recordsTo_adoptionNotices publisherFd _ hpublisher hself, if_neg heq, hnone.2]
          rfl
        · rw [Members.topic_join, if_neg heq]
        · refine occupants_congr fun subscriberFd => ?_
          have hother : ∀ attachment ∈ attachmentsFor subscriberFd adopted,
              attachment.publisherFd ≠ publisherFd := fun attachment hmem hsame =>
            heq (hsame.symm.trans (hpublisher _ (mem_attachmentsFor.mp hmem)))
          rw [hattachments, heldEntries_append, heldEntries_eq_zero_of_ne hother, add_zero]

end Tracking

/-! ## The table of a subscriber -/

/-- What a subscriber is told of an attachment under its id. -/
structure AttachmentInfo where
  topicId : TopicId
  spaceAvailableEventFd : Fd
  dataAvailableEventFd : Fd
  slotIndex : ℕ
  deriving DecidableEq

def SubscriberAttachment.info (attachment : SubscriberAttachment) : AttachmentInfo where
  topicId := attachment.topicId
  spaceAvailableEventFd := attachment.spaceAvailableEventFd
  dataAvailableEventFd := attachment.dataAvailableEventFd
  slotIndex := attachment.slotIndex

def attachmentEntry (attachment : SubscriberAttachment) : ℕ × AttachmentInfo :=
  (attachment.attachmentId, attachment.info)

/-- The attachments of a subscriber by their ids. -/
def Broker.attachmentEntries (broker : Broker) (subscriberFd : Fd) :
    Multiset (ℕ × AttachmentInfo) :=
  ((broker.attachmentsOf subscriberFd).map attachmentEntry : List (ℕ × AttachmentInfo))

/-- What a subscriber has taken from its records. -/
abbrev AttachmentView := Table ℕ AttachmentInfo

/-- A batch needs new ids, and a disconnection the id of an attachment. -/
def AttachmentView.apply (view : AttachmentView) : BrokerMessage → Option AttachmentView
  | .subscriberAttachmentBatch attachments _ => replay Table.apply view
      (attachments.map fun attachment => .insert attachment.attachmentId attachment.info)
  | .publisherDisconnected attachmentId => Table.apply view (.remove attachmentId)
  | _ => none

/-- Single batches insert what one batch of all would. -/
theorem AttachmentView.replay_batches (view : AttachmentView) (shmFd : Fd)
    (attachments : List SubscriberAttachment) :
    replay AttachmentView.apply view (attachments.map fun attachment =>
        .subscriberAttachmentBatch [attachment] [shmFd]) =
      AttachmentView.apply view (.subscriberAttachmentBatch attachments []) := by
  induction attachments generalizing view with
  | nil => rfl
  | cons attachment attachments ih =>
      rw [List.map_cons, replay, List.foldlM_cons, AttachmentView.apply, AttachmentView.apply,
        List.map_cons, replay, replay, List.foldlM_cons]
      simp only [List.map_cons, List.map_nil, List.foldlM_cons, List.foldlM_nil,
        bind_pure]
      exact bind_congr fun middle => ih middle

theorem AttachmentView.replay_disconnections (view : AttachmentView)
    (attachments : List SubscriberAttachment) :
    replay AttachmentView.apply view (attachments.map fun attachment =>
        .publisherDisconnected attachment.attachmentId) =
      replay Table.apply view (attachments.map fun attachment =>
        .remove attachment.attachmentId) := by
  rw [replay, replay, List.foldlM_map, List.foldlM_map]
  rfl

/-- Every id in use has been issued. -/
def Broker.IdsIssued (broker : Broker) : Prop :=
  ∀ subscriberFd, ∀ attachment ∈ broker.attachmentsOf subscriberFd,
    attachment.attachmentId < broker.nextAttachmentId

theorem Numbered.mem_ids {start after : Broker} {attachments : List SubscriberAttachment}
    (hnumbered : Numbered start after attachments) {attachment : SubscriberAttachment}
    (hmem : attachment ∈ attachments) :
    start.nextAttachmentId ≤ attachment.attachmentId ∧
      attachment.attachmentId < after.nextAttachmentId := by
  have hid : attachment.attachmentId ∈ attachments.map (·.attachmentId) :=
    List.mem_map_of_mem hmem
  rw [hnumbered.ids, List.mem_range'_1] at hid
  rwa [hnumbered.next]

section Attaching

variable {before : Broker} {members members' : Members} {fd subscriberFd : Fd}
  {after : Session} {view : AttachmentView}

/-- New attachments get ids that are not in use. -/
theorem Numbered.nodup_entries {after : Broker} {attachments new : List SubscriberAttachment}
    (hnumbered : Numbered before after attachments) (hsublist : new.Sublist attachments)
    (hissued : before.IdsIssued)
    (hlists : Lists view (before.attachmentEntries subscriberFd)) :
    ((before.attachmentEntries subscriberFd +
      (new.map attachmentEntry : List (ℕ × AttachmentInfo))).map Prod.fst).Nodup := by
  have hids : (new.map (·.attachmentId)).Nodup := by
    refine List.Nodup.sublist (hsublist.map _) ?_
    rw [hnumbered.ids]
    exact List.nodup_range'
  rw [Multiset.map_add, Multiset.nodup_add, Multiset.map_coe, List.map_map]
  refine ⟨hlists.nodup, hids, Multiset.disjoint_left.mpr ?_⟩
  intro id hold hnew
  rw [Broker.attachmentEntries, Multiset.map_coe, List.map_map] at hold
  obtain ⟨old, holdMem, rfl⟩ := List.mem_map.mp hold
  obtain ⟨attachment, hmem, heq⟩ := List.mem_map.mp hnew
  have hlt := hissued subscriberFd old holdMem
  have hle := (hnumbered.mem_ids (hsublist.subset hmem)).1
  change attachment.attachmentId = old.attachmentId at heq
  omega

/-- The records of one event keep every subscriber's view right. -/
theorem Transcript.attaching (htranscript : Transcript before members fd after members')
    (hroutes : Routes before members) (hroutes' : Routes after.broker members')
    (hissued : before.IdsIssued)
    (hstays : subscriberFd ≠ fd ∨ members' subscriberFd ≠ none)
    (hkind : members'.topic subscriberFd = none)
    (hlists : Lists view (before.attachmentEntries subscriberFd)) :
    ∃ view', replay AttachmentView.apply view (recordsTo subscriberFd after.sent) =
      some view' ∧ Lists view' (after.broker.attachmentEntries subscriberFd) := by
  cases htranscript with
  | answered hfresh hsent hbook =>
      have hne := Members.ne_of_leave hstays rfl
      refine ⟨view, ?_, ?_⟩
      · rw [recordsTo_eq_nil fun record hmem heq =>
          hne (heq.symm.trans (congrArg Prod.fst (hsent record hmem))), replay_nil]
      · rwa [Broker.attachmentEntries, attachmentsOf_of_book hbook]
  | subscriberLeft hmember hsent hattachments hnext =>
      have hne := Members.ne_of_leave hstays rfl
      rw [Members.topic_leave, if_neg hne] at hkind
      have hnone : attachmentsTo subscriberFd (before.attachmentsOf fd) = [] :=
        List.filter_eq_nil_iff.mpr fun attachment hmem => by
          simpa using hroutes.publisherFd_ne hkind hmem
      refine ⟨view, ?_, ?_⟩
      · rw [hsent, recordsTo_disconnectNotice, hnone, List.map_nil, replay_nil]
      · rwa [Broker.attachmentEntries, hattachments, if_neg hne]
  | @publisherLeft topicId detached hmember hsent hpublisher hattachments hnext =>
      have hentries : before.attachmentEntries subscriberFd =
          after.broker.attachmentEntries subscriberFd +
            ((attachmentsFor subscriberFd detached).map attachmentEntry :
              List (ℕ × AttachmentInfo)) := by
        have hmap := congrArg (Multiset.map attachmentEntry) (hattachments subscriberFd)
        rw [Multiset.map_add] at hmap
        exact hmap.symm
      rw [hentries] at hlists
      obtain ⟨view', hreplay, hlists'⟩ := hlists.replay_remove
      refine ⟨view', ?_, hlists'⟩
      rw [List.map_map] at hreplay
      rw [hsent, recordsTo_detachmentNotice, AttachmentView.replay_disconnections]
      exact hreplay
  | @subscriberJoined topicIds attachments shmFds hfresh hsent hattachments hnumbered hshmFds
      hlength =>
      have hnone : attachmentsTo subscriberFd attachments = [] := by
        refine List.filter_eq_nil_iff.mpr fun attachment hmem => ?_
        have hattached : attachment ∈ after.broker.attachmentsOf fd := by
          rwa [hattachments, if_pos rfl]
        simpa using hroutes'.publisherFd_ne hkind hattached
      have hrecords : recordsTo subscriberFd after.sent =
          if fd = subscriberFd then [.subscriberAttachmentBatch attachments shmFds] else [] := by
        rw [hsent, recordsTo_append, recordsTo_registrationNotice, hnone]
        simp
      by_cases heq : subscriberFd = fd
      · subst heq
        have hnodup := hnumbered.nodup_entries (List.Sublist.refl _) hissued hlists
        obtain ⟨view', hreplay, hlists'⟩ := hlists.replay_insert hnodup
        refine ⟨view', ?_, ?_⟩
        · rw [List.map_map] at hreplay
          rw [hrecords, if_pos rfl, replay, List.foldlM_cons]
          exact (bind_pure _).trans hreplay
        · have hold : before.attachmentEntries subscriberFd = 0 := by
            rw [Broker.attachmentEntries,
              hroutes.attachmentsOf_eq_nil (by rw [hfresh, Option.bind_none])]
            rfl
          rw [hold, zero_add] at hlists'
          rwa [Broker.attachmentEntries, hattachments, if_pos rfl]
      · refine ⟨view, by rw [hrecords, if_neg (Ne.symm heq), replay_nil], ?_⟩
        rwa [Broker.attachmentEntries, hattachments, if_neg heq]
  | @publisherJoined topicId shmFd adopted hfresh hsent hpublisher hattachments hnumbered =>
      have hne : subscriberFd ≠ fd := by
        rintro rfl
        simp [Members.topic_join, Member.topicId] at hkind
      have hself := hroutes'.attachmentsFor_joined (hattachments fd)
      have hsublist : (attachmentsFor subscriberFd adopted).Sublist (adopted.map Prod.snd) :=
        List.filter_sublist.map Prod.snd
      have hnodup := hnumbered.nodup_entries hsublist hissued hlists
      obtain ⟨view', hreplay, hlists'⟩ := hlists.replay_insert hnodup
      refine ⟨view', ?_, ?_⟩
      · rw [List.map_map] at hreplay
        rw [hsent, recordsTo_cons, if_neg (Ne.symm hne),
          recordsTo_adoptionNotices subscriberFd shmFd hpublisher hself, if_neg hne,
          List.nil_append, AttachmentView.replay_batches]
        exact hreplay
      · rw [Broker.attachmentEntries, hattachments, List.map_append, ← Multiset.coe_add]
        exact hlists'

end Attaching

end DriveBus.ControlPlane
