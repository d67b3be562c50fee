import DriveBus.ControlPlane.Consistency
import Mathlib.Data.List.Sort

/-!
# The status snapshot

What `broker-status` shows of a broker: its connections, the routing of the known topics and
the slots of their publishers.  The rows are those of the broker's maps, so in every state
that a run reaches they show who is registered and nothing else.
-/

namespace DriveBus.ControlPlane

open DriveBus.ByteMemory DriveBus.Transition DriveBus.UnorderedMap

/-! ## The rows -/

/-- `TopicId::Camera`, `Lidar`, `VehicleState` and `Invalid`. -/
def kKnownTopicIds : List TopicId := [1, 2, 3, 0]

structure ConnectionRow where
  fd : Fd
  role : BrokerRole
  topicIds : List TopicId
  attachmentCount : Option ℕ

structure RoutingRow where
  topicId : TopicId
  publisherFds : List Fd
  subscriberFds : List Fd

/-- `occupied` are slots with their subscribers. -/
structure SlotRow where
  topicId : TopicId
  publisherFd : Fd
  occupied : List (ℕ × Fd)
  free : List ℕ

structure StatusSnapshot where
  connectionCount : ℕ
  connections : List ConnectionRow
  routing : List RoutingRow
  slots : List SlotRow

/-- The order of `pair<uint32_t, int>`. -/
def pairBefore (left right : ℕ × ℕ) : Prop :=
  left.1 < right.1 ∨ left.1 = right.1 ∧ left.2 ≤ right.2

instance instTotalPairBefore : Std.Total pairBefore where
  total left right := by
    simp only [pairBefore]
    omega

instance instTransPairBefore : IsTrans (ℕ × ℕ) pairBefore where
  trans left middle right hfirst hsecond := by
    simp only [pairBefore] at hfirst hsecond ⊢
    omega

instance instDecidablePairBefore (left right : ℕ × ℕ) : Decidable (pairBefore left right) :=
  inferInstanceAs (Decidable (_ ∨ _))

namespace Broker

def findPublisherTopicIds (broker : Broker) (publisherFd : Fd) : List TopicId :=
  kKnownTopicIds.filter fun topicId => publisherFd ∈ broker.publishersOf topicId

def connectionRow (broker : Broker) (fd : Fd) : BrokerRole → ConnectionRow
  | .subscriber =>
      { fd
        role := .subscriber
        topicIds := broker.topicsOf fd
        attachmentCount := some (broker.attachmentsOf fd).length }
  | .publisher =>
      { fd
        role := .publisher
        topicIds := broker.findPublisherTopicIds fd
        attachmentCount := none }

def connectionRows (broker : Broker) : List ConnectionRow :=
  (broker.roleByFd.keys.insertionSort (· ≤ ·)).filterMap fun fd =>
    (broker.roleByFd.lookup fd).map (broker.connectionRow fd)

def routingRow (broker : Broker) (topicId : TopicId) : RoutingRow where
  topicId := topicId
  publisherFds := (broker.publishersOf topicId).insertionSort (· ≤ ·)
  subscriberFds := (broker.subscribersOf topicId).insertionSort (· ≤ ·)

/-- The slots that `format_occupied_slots` lists. -/
def slotHolders (broker : Broker) (topicId : TopicId) (publisherFd : Fd) : List (ℕ × Fd) :=
  (broker.subscriberAttachmentsBySubscriberFd.entries.flatMap fun entry =>
    (entry.2.filter fun attachment =>
      attachment.topicId = topicId ∧ attachment.publisherFd = publisherFd).map
        fun attachment => (attachment.slotIndex, entry.1)).insertionSort pairBefore

def slotRow (broker : Broker) (topicId : TopicId) (publisherFd : Fd) (heap : SlotHeap) :
    SlotRow where
  topicId := topicId
  publisherFd := publisherFd
  occupied := broker.slotHolders topicId publisherFd
  free := heap.slots

def slotRowsOf (broker : Broker) (topicId : TopicId) : List SlotRow :=
  match broker.availableSubscriberSlotsByTopicIdAndPublisherFd.lookup topicId with
  | none => []
  | some slotsByPublisher =>
      (slotsByPublisher.keys.insertionSort (· ≤ ·)).filterMap fun publisherFd =>
        (slotsByPublisher.lookup publisherFd).map (broker.slotRow topicId publisherFd)

def statusSnapshot (broker : Broker) : StatusSnapshot where
  connectionCount := broker.roleByFd.keys.length
  connections := broker.connectionRows
  routing := kKnownTopicIds.map broker.routingRow
  slots := kKnownTopicIds.flatMap broker.slotRowsOf

end Broker

/-! ## The text -/

def getTopicNameFromId (topicId : TopicId) : String :=
  if topicId = 1 then "Camera"
  else if topicId = 2 then "Lidar"
  else if topicId = 3 then "VehicleState"
  else if topicId = 0 then "Invalid"
  else "Unknown"

def getBrokerRoleName : BrokerRole → String
  | .subscriber => "Subscriber"
  | .publisher => "Publisher"

/-- `left << setw(width)`. -/
def setw (width : ℕ) (text : String) : String :=
  text ++ "".pushn ' ' (width - text.length)

/-- A list with commas, or a dash. -/
def formatList (items : List String) : String :=
  if items = [] then "-" else ",".intercalate items

def formatTopicIds (topicIds : List TopicId) : String :=
  formatList (topicIds.map getTopicNameFromId)

def formatFdList (fds : List Fd) : String := formatList (fds.map toString)

def formatFreeSlots (slots : List ℕ) : String := formatList (slots.map toString)

def formatOccupiedSlots (occupied : List (ℕ × Fd)) : String :=
  formatList (occupied.map fun entry => toString entry.1 ++ "->sub=" ++ toString entry.2)

def ConnectionRow.text (row : ConnectionRow) : String :=
  setw 6 (toString row.fd) ++ setw 12 (getBrokerRoleName row.role) ++ setw 13 "registered" ++
    setw 25 (formatTopicIds row.topicIds) ++ (row.attachmentCount.elim "-" toString) ++ "\n"

def RoutingRow.text (row : RoutingRow) : String :=
  setw 15 (getTopicNameFromId row.topicId) ++ setw 25 (formatFdList row.publisherFds) ++
    formatFdList row.subscriberFds ++ "\n"

def SlotRow.text (row : SlotRow) : String :=
  setw 15 (getTopicNameFromId row.topicId) ++ setw 15 (toString row.publisherFd) ++
    setw 28 (formatOccupiedSlots row.occupied) ++ formatFreeSlots row.free ++ "\n"

def StatusSnapshot.text (snapshot : StatusSnapshot) : String :=
  "BROKER STATUS\nconnection_state=registered_control_connection\nconnection_count=" ++
    toString snapshot.connectionCount ++ "\n" ++
  "\nCONNECTIONS\n" ++ setw 6 "FD" ++ setw 12 "ROLE" ++ setw 13 "STATE" ++ setw 25 "TOPICS" ++
    "ATTACHMENTS\n" ++ String.join (snapshot.connections.map ConnectionRow.text) ++
  "\nTOPIC ROUTING\n" ++ setw 15 "TOPIC" ++ setw 25 "PUBLISHERS" ++ "SUBSCRIBERS\n" ++
    String.join (snapshot.routing.map RoutingRow.text) ++
  "\nSLOTS\n" ++ setw 15 "TOPIC" ++ setw 15 "PUBLISHER_FD" ++ setw 28 "OCCUPIED" ++ "FREE\n" ++
    (if snapshot.slots = [] then "-\n" else String.join (snapshot.slots.map SlotRow.text))

def buildStatusSnapshotPayload (broker : Broker) : String := broker.statusSnapshot.text

def kMaxStatusSnapshotPayloadSize : ℕ := 4095
def kMaxStatusSnapshotMessageSize : ℕ := 1 + kMaxStatusSnapshotPayloadSize

def statusSnapshotTooLarge : String := "complete=0\nreason=status_snapshot_too_large\n"

/-- The payload of the reply to a status query. -/
def statusReply (broker : Broker) : String :=
  let payload := buildStatusSnapshotPayload broker
  if kMaxStatusSnapshotPayloadSize < payload.utf8ByteSize then statusSnapshotTooLarge
  else payload

/-! ## Truth -/

/-- The topics that the snapshot shows for a member: those of a subscriber as it listed
them, and that of a publisher if it is known. -/
def Member.shownTopicIds : Member → List TopicId
  | .subscriber topicIds => topicIds
  | .publisher topicId => if topicId ∈ kKnownTopicIds then [topicId] else []

/-- Every subscriber has as many attachments as its topics have publishers. -/
def Member.attachmentCount (broker : Broker) : Member → Option ℕ
  | .subscriber topicIds => some (broker.publishersOfTopics topicIds).length
  | .publisher _ => none

/-- One row for every member, in the order of the descriptors. -/
structure ConnectionRowsTrue (rows : List ConnectionRow) (broker : Broker)
    (members : Members) : Prop where
  sorted : (rows.map (·.fd)).Pairwise (· < ·)
  complete : ∀ fd, fd ∈ rows.map (·.fd) ↔ members fd ≠ none
  rows : ∀ row ∈ rows, ∃ member, members row.fd = some member ∧ row.role = member.role ∧
    row.topicIds = member.shownTopicIds ∧ row.attachmentCount = member.attachmentCount broker

/-- The publishers of a topic, and its subscribers as often as they listed it. -/
structure RoutingRowTrue (row : RoutingRow) (members : Members) : Prop where
  publishers_sorted : row.publisherFds.Pairwise (· < ·)
  publishers : ∀ fd, fd ∈ row.publisherFds ↔ members.topic fd = some row.topicId
  subscribers_sorted : row.subscriberFds.Pairwise (· ≤ ·)
  subscribers : ∀ fd, row.subscriberFds.count fd = (members.topics fd).count row.topicId

/-- Every slot of the publisher is shown once, free or with the subscriber that has it. -/
structure SlotRowTrue (row : SlotRow) (broker : Broker) (members : Members) : Prop where
  topic : members.topic row.publisherFd = some row.topicId
  occupied_sorted : (row.occupied.map Prod.fst).Pairwise (· < ·)
  occupied : ∀ slotIndex subscriberFd, (slotIndex, subscriberFd) ∈ row.occupied ↔
    ∃ attachment ∈ broker.attachmentsOf subscriberFd,
      attachment.publisherFd = row.publisherFd ∧ attachment.slotIndex = slotIndex
  free_sorted : row.free.Pairwise (· < ·)
  slots : (row.free ++ row.occupied.map Prod.fst).Perm (List.range kMaxSubscribers)

structure StatusSnapshot.Truthful (snapshot : StatusSnapshot) (broker : Broker)
    (members : Members) : Prop where
  connectionCount : snapshot.connectionCount = snapshot.connections.length
  connections : ConnectionRowsTrue snapshot.connections broker members
  topics : snapshot.routing.map (·.topicId) = kKnownTopicIds
  routing : ∀ row ∈ snapshot.routing, RoutingRowTrue row members
  publishers_nodup :
    (snapshot.slots.map fun row => (row.topicId, row.publisherFd)).Nodup
  publishers : ∀ topicId ∈ kKnownTopicIds, ∀ fd, members.topic fd = some topicId ↔
    ∃ row ∈ snapshot.slots, row.topicId = topicId ∧ row.publisherFd = fd
  slots : ∀ row ∈ snapshot.slots, SlotRowTrue row broker members

/-- Sorting different numbers. -/
theorem pairwise_lt_insertionSort {numbers : List ℕ} (hnodup : numbers.Nodup) :
    (numbers.insertionSort (· ≤ ·)).Pairwise (· < ·) := by
  have hsorted := List.pairwise_insertionSort (· ≤ ·) numbers
  have hdistinct : (numbers.insertionSort (· ≤ ·)).Nodup :=
    (List.perm_insertionSort _ numbers).nodup_iff.mpr hnodup
  exact hsorted.imp₂ (fun _ _ hle hne => lt_of_le_of_ne hle hne) hdistinct

section Truth

variable {broker : Broker} {members : Members} {topicId : TopicId} {fd publisherFd : Fd}

theorem Routes.publishersOf_nodup (hroutes : Routes broker members) :
    (broker.publishersOf topicId).Nodup := by
  rw [List.nodup_iff_count_le_one]
  intro fd
  rw [hroutes.publishers]
  split <;> omega

theorem Routes.findPublisherTopicIds_eq (hroutes : Routes broker members)
    (htopic : members.topic publisherFd = some topicId) :
    broker.findPublisherTopicIds publisherFd =
      if topicId ∈ kKnownTopicIds then [topicId] else [] := by
  have hfilter : ∀ other, (publisherFd ∈ broker.publishersOf other) = (topicId = other) :=
    fun other => propext <| by rw [hroutes.mem_publishersOf, htopic, Option.some.injEq]
  rw [Broker.findPublisherTopicIds]
  simp only [hfilter]
  split
  next hknown =>
    simp only [kKnownTopicIds, List.mem_cons, List.not_mem_nil, or_false] at hknown
    obtain rfl | rfl | rfl | rfl := hknown <;> decide
  next hunknown =>
    exact List.filter_eq_nil_iff.mpr fun other hmem heq => hunknown <| by
      rwa [of_decide_eq_true heq]

/-- A subscriber is attached to the publishers of its topics. -/
theorem Routes.length_attachmentsOf (hroutes : Routes broker members) (fd : Fd) :
    (broker.attachmentsOf fd).length =
      (broker.publishersOfTopics (members.topics fd)).length := by
  have hperm : ((broker.attachmentsOf fd).map (·.publisherFd)).Perm
      (broker.publishersOfTopics (members.topics fd)) := by
    rw [List.perm_iff_count]
    intro publisherFd
    rw [hroutes.count_publishersOfTopics, ← Members.matching, ← hroutes.attached,
      List.count_eq_countP, List.countP_map]
    rfl
  rw [← hperm.length_eq, List.length_map]

theorem Routes.connectionRows_true (hroutes : Routes broker members) :
    ConnectionRowsTrue broker.connectionRows broker members := by
  have hfds : broker.connectionRows.map (·.fd) = broker.roleByFd.keys.insertionSort (· ≤ ·) :=
    map_filterMap_lookup (fun fd role => by cases role <;> rfl)
      fun fd hmem => (List.mem_insertionSort _).mp hmem
  refine ⟨?_, fun fd => ?_, fun row hmem => ?_⟩
  · rw [hfds]
    exact pairwise_lt_insertionSort broker.roleByFd.keys_nodup
  · have hrole := hroutes.role fd
    rw [hfds, List.mem_insertionSort, ← AList.mem_keys, ← AList.lookup_isSome, hrole,
      Option.isSome_map, Option.isSome_iff_ne_none]
  · obtain ⟨fd, -, role, hlookup, rfl⟩ := mem_filterMap_lookup.mp hmem
    rw [hroutes.role, Option.map_eq_some_iff] at hlookup
    obtain ⟨member, hmember, rfl⟩ := hlookup
    cases member with
    | subscriber topicIds =>
        have htopics : broker.topicsOf fd = topicIds := by
          rw [Broker.topicsOf, hroutes.topicIds, hmember]
          rfl
        have hmembers : members.topics fd = topicIds := by
          rw [Members.topics, hmember]
          rfl
        refine ⟨_, hmember, rfl, htopics, ?_⟩
        change some (broker.attachmentsOf fd).length = _
        rw [hroutes.length_attachmentsOf, hmembers]
        rfl
    | publisher topicId =>
        refine ⟨_, hmember, rfl, hroutes.findPublisherTopicIds_eq ?_, rfl⟩
        rw [Members.topic, hmember]
        rfl

theorem Routes.routingRow_true (hroutes : Routes broker members) (topicId : TopicId) :
    RoutingRowTrue (broker.routingRow topicId) members where
  publishers_sorted := pairwise_lt_insertionSort hroutes.publishersOf_nodup
  publishers _ := (List.mem_insertionSort _).trans hroutes.mem_publishersOf
  subscribers_sorted := List.pairwise_insertionSort _ _
  subscribers fd :=
    ((List.perm_insertionSort _ _).count_eq fd).trans (hroutes.subscribers topicId fd)

/-- The attachments to a publisher are all for its topic. -/
theorem Routes.filter_attachments (hroutes : Routes broker members)
    (htopic : members.topic publisherFd = some topicId) (subscriberFd : Fd) :
    (broker.attachmentsOf subscriberFd).filter (fun attachment =>
      attachment.topicId = topicId ∧ attachment.publisherFd = publisherFd) =
      (broker.attachmentsOf subscriberFd).filter (·.publisherFd = publisherFd) := by
  refine List.filter_congr fun attachment hmem => ?_
  have hattached := hroutes.attachedTopic subscriberFd attachment hmem
  refine decide_eq_decide.mpr (and_iff_right_of_imp fun hpublisher => ?_)
  rw [hpublisher, htopic, Option.some.injEq] at hattached
  exact hattached.symm

/-- Without the subscribers these are the occupied slots. -/
theorem Routes.map_fst_slotHolders (hroutes : Routes broker members)
    (htopic : members.topic publisherFd = some topicId) :
    ((broker.slotHolders topicId publisherFd).map Prod.fst : List ℕ) =
      broker.occupiedSlots publisherFd := by
  have hperm := (List.perm_insertionSort pairBefore
    (broker.subscriberAttachmentsBySubscriberFd.entries.flatMap fun entry =>
      (entry.2.filter fun attachment =>
        attachment.topicId = topicId ∧ attachment.publisherFd = publisherFd).map
          fun attachment => (attachment.slotIndex, entry.1))).map Prod.fst
  refine (Multiset.coe_eq_coe.mpr hperm).trans ?_
  rw [List.map_flatMap, coe_flatMap_entries, Broker.occupiedSlots]
  refine Finset.sum_congr rfl fun subscriberFd _ => ?_
  cases hlookup : broker.subscriberAttachmentsBySubscriberFd.lookup subscriberFd with
  | none =>
      rw [weightAt, weightAt, hlookup]
      rfl
  | some attachments =>
      have hfilter := hroutes.filter_attachments htopic subscriberFd
      rw [Broker.attachmentsOf, hlookup, Option.getD_some] at hfilter
      rw [weightAt, weightAt, hlookup]
      change ((((attachments.filter _).map _).map Prod.fst : List ℕ) : Multiset ℕ) =
        heldSlots publisherFd attachments
      rw [hfilter, List.map_map]
      rfl

theorem Routes.mem_slotHolders (hroutes : Routes broker members)
    (htopic : members.topic publisherFd = some topicId) {slotIndex subscriberFd : ℕ} :
    (slotIndex, subscriberFd) ∈ broker.slotHolders topicId publisherFd ↔
      ∃ attachment ∈ broker.attachmentsOf subscriberFd,
        attachment.publisherFd = publisherFd ∧ attachment.slotIndex = slotIndex := by
  have hfilter := hroutes.filter_attachments htopic
  simp only [Broker.slotHolders, List.mem_insertionSort, List.mem_flatMap, List.mem_map,
    Prod.mk.injEq]
  constructor
  · rintro ⟨⟨other, attachments⟩, hentry, attachment, hmem, rfl, rfl⟩
    have hlookup : broker.attachmentsOf other = attachments := by
      rw [Broker.attachmentsOf, AList.mem_lookup_iff.mpr hentry]
      rfl
    dsimp only at hmem
    rw [← hlookup, hfilter, List.mem_filter, decide_eq_true_eq] at hmem
    exact ⟨attachment, hmem.1, hmem.2, rfl⟩
  · rintro ⟨attachment, hmem, hpublisher, rfl⟩
    have hlisted : attachment ∈
        (broker.attachmentsOf subscriberFd).filter (·.publisherFd = publisherFd) :=
      List.mem_filter.mpr ⟨hmem, decide_eq_true hpublisher⟩
    rw [← hfilter] at hlisted
    cases hlookup : broker.subscriberAttachmentsBySubscriberFd.lookup subscriberFd with
    | none =>
        rw [Broker.attachmentsOf, hlookup] at hmem
        cases hmem
    | some attachments =>
        rw [Broker.attachmentsOf, hlookup, Option.getD_some] at hlisted
        exact ⟨⟨subscriberFd, attachments⟩, AList.mem_lookup_iff.mp hlookup, attachment,
          hlisted, rfl, rfl⟩

theorem Routes.slotRow_true (hroutes : Routes broker members) {heap : SlotHeap}
    (hheap : broker.freeSlots topicId publisherFd = some heap) :
    SlotRowTrue (broker.slotRow topicId publisherFd heap) broker members := by
  have htopic := hroutes.topic_of_freeSlots (Option.isSome_of_eq_some hheap)
  have hoccupied := hroutes.map_fst_slotHolders htopic
  have hslots := hroutes.slots topicId publisherFd heap hheap
  rw [← hoccupied, SlotHeap.free, Multiset.coe_add, ← Multiset.coe_range,
    Multiset.coe_eq_coe] at hslots
  have hnodup := hslots.nodup_iff.mpr List.nodup_range
  rw [List.nodup_append] at hnodup
  refine ⟨htopic, ?_, fun _ _ => hroutes.mem_slotHolders htopic, ?_, hslots⟩
  · have hsorted := (List.pairwise_insertionSort pairBefore _ :
      (broker.slotHolders topicId publisherFd).Pairwise pairBefore)
    have hle : ((broker.slotHolders topicId publisherFd).map Prod.fst).Pairwise (· ≤ ·) := by
      refine List.pairwise_map.mpr (hsorted.imp fun hbefore => ?_)
      simp only [pairBefore] at hbefore
      omega
    exact hle.imp₂ (fun _ _ hle hne => lt_of_le_of_ne hle hne) hnodup.2.1
  · exact heap.sorted.imp₂ (fun _ _ hle hne => lt_of_le_of_ne hle hne) hnodup.1

/-- The rows of a topic are those of its publishers. -/
theorem Broker.mem_slotRowsOf {row : SlotRow} :
    row ∈ broker.slotRowsOf topicId ↔ ∃ publisherFd heap,
      broker.freeSlots topicId publisherFd = some heap ∧
        broker.slotRow topicId publisherFd heap = row := by
  rw [Broker.slotRowsOf]
  simp only [Broker.freeSlots]
  cases hlookup : broker.availableSubscriberSlotsByTopicIdAndPublisherFd.lookup topicId with
  | none => simp
  | some slotsByPublisher =>
      simp only [mem_filterMap_lookup, Option.bind_some]
      refine exists_congr fun publisherFd => ⟨?_, ?_⟩
      · rintro ⟨-, heap, hheap, rfl⟩
        exact ⟨heap, hheap, rfl⟩
      · rintro ⟨heap, hheap, rfl⟩
        refine ⟨(List.mem_insertionSort _).mpr (AList.mem_keys.mp ?_), heap, hheap, rfl⟩
        exact AList.lookup_isSome.mp (by rw [hheap]; rfl)

theorem Broker.slotRowsOf_nodup (broker : Broker) (topicId : TopicId) :
    ((broker.slotRowsOf topicId).map fun row => (row.topicId, row.publisherFd)).Nodup := by
  have htopics : ∀ row ∈ broker.slotRowsOf topicId, row.topicId = topicId := fun row hmem => by
    obtain ⟨publisherFd, heap, -, rfl⟩ := Broker.mem_slotRowsOf.mp hmem
    rfl
  have hfds : ((broker.slotRowsOf topicId).map (·.publisherFd)).Nodup := by
    rw [Broker.slotRowsOf]
    split
    · exact List.nodup_nil
    next slotsByPublisher hlookup =>
      rw [map_filterMap_lookup (fun _ _ => rfl) fun fd hmem => (List.mem_insertionSort _).mp hmem]
      exact (List.perm_insertionSort _ _).nodup_iff.mpr slotsByPublisher.keys_nodup
  refine List.Nodup.of_map Prod.snd ?_
  rw [List.map_map]
  exact hfds

end Truth

/-- The snapshot of a broker whose maps describe the members shows the members. -/
theorem Routes.statusSnapshot_truthful {broker : Broker} {members : Members}
    (hroutes : Routes broker members) : broker.statusSnapshot.Truthful broker members where
  connectionCount := by
    have hfds : broker.connectionRows.map (·.fd) =
        broker.roleByFd.keys.insertionSort (· ≤ ·) :=
      map_filterMap_lookup (fun fd role => by cases role <;> rfl)
        fun fd hmem => (List.mem_insertionSort _).mp hmem
    have hlength := congrArg List.length hfds
    rw [List.length_map, List.length_insertionSort] at hlength
    exact hlength.symm
  connections := hroutes.connectionRows_true
  topics := by
    change (kKnownTopicIds.map broker.routingRow).map _ = _
    rw [List.map_map]
    exact List.map_id _
  routing row hmem := by
    obtain ⟨topicId, -, rfl⟩ := List.mem_map.mp hmem
    exact hroutes.routingRow_true topicId
  publishers_nodup := by
    change ((kKnownTopicIds.flatMap broker.slotRowsOf).map _).Nodup
    rw [List.map_flatMap, List.nodup_flatMap]
    refine ⟨fun topicId _ => broker.slotRowsOf_nodup topicId, ?_⟩
    have hdistinct : kKnownTopicIds.Nodup := by decide
    refine hdistinct.imp fun {first second} hne => ?_
    rw [Function.onFun, List.disjoint_left]
    intro entry hfirst hsecond
    obtain ⟨row, hrow, rfl⟩ := List.mem_map.mp hfirst
    obtain ⟨other, hother, heq⟩ := List.mem_map.mp hsecond
    obtain ⟨_, _, -, rfl⟩ := Broker.mem_slotRowsOf.mp hrow
    obtain ⟨_, _, -, rfl⟩ := Broker.mem_slotRowsOf.mp hother
    exact hne (congrArg Prod.fst heq).symm
  publishers topicId hknown fd := by
    constructor
    · intro htopic
      obtain ⟨heap, hheap⟩ := hroutes.freeSlots_of_topic htopic
      exact ⟨_, List.mem_flatMap.mpr ⟨topicId, hknown,
        Broker.mem_slotRowsOf.mpr ⟨fd, heap, hheap, rfl⟩⟩, rfl, rfl⟩
    · rintro ⟨row, hmem, rfl, rfl⟩
      obtain ⟨topicId, -, hrow⟩ := List.mem_flatMap.mp hmem
      obtain ⟨publisherFd, heap, hheap, rfl⟩ := Broker.mem_slotRowsOf.mp hrow
      exact hroutes.topic_of_freeSlots (Option.isSome_of_eq_some hheap)
  slots row hmem := by
    obtain ⟨topicId, -, hrow⟩ := List.mem_flatMap.mp hmem
    obtain ⟨publisherFd, heap, hheap, rfl⟩ := Broker.mem_slotRowsOf.mp hrow
    exact hroutes.slotRow_true hheap

end DriveBus.ControlPlane
