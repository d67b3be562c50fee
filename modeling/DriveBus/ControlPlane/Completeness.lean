import DriveBus.ControlPlane.Consistency

/-!
# Routing completeness

In every state that well-behaved clients bring about, the broker's maps agree with
each other, every subscriber is attached to every publisher of its topics as often
as it lists the topic, and every publisher's slots are shared out without overlap
or loss, whatever the order of registrations and disconnections.
-/

namespace DriveBus.ControlPlane

open DriveBus.Transition

/-! ## Well-behaved clients -/

/-- Every connection registers once, or queries the status once, before its client
closes it, and what it asks for fits the broker's capacities. -/
def ClientsBehave (world : World) (action : Action) : Prop :=
  SendsOneRequest world action ∧ RequestsBeforeClosing world action

/-- Only a client that has sent its record has closed its end. -/
def ClosedAfterRequest (world : World) : Prop :=
  ∀ fd connection, world.connections fd = some connection → connection.peerClosed = true →
    connection.received ++ connection.inbox ≠ []

theorem ClosedAfterRequest.setConnection {world : World}
    (hclosed : ClosedAfterRequest world) {fd : Fd} {connection : Option Connection}
    (hkept : ∀ kept, connection = some kept → kept.peerClosed = true →
      kept.received ++ kept.inbox ≠ []) :
    ClosedAfterRequest (world.setConnection fd connection) := by
  intro other kept hconnection
  by_cases hother : other = fd
  · subst hother
    exact hkept kept (by simpa [World.setConnection] using hconnection)
  · exact hclosed other kept (by simpa [World.setConnection, hother] using hconnection)

theorem ClosedAfterRequest.settle {world : World} (hclosed : ClosedAfterRequest world)
    {fd : Fd} {connection : Option Connection} {result : Except ExitReason Session}
    (hkept : ∀ kept, connection = some kept → kept.peerClosed = true →
      kept.received ++ kept.inbox ≠ []) :
    ClosedAfterRequest (world.settle fd connection result) := by
  cases result with
  | error reason => exact hclosed
  | ok session => exact hclosed.setConnection hkept

theorem ClosedAfterRequest.step {world world' : World} {action : Action}
    (hclosed : ClosedAfterRequest world) (hallowed : RequestsBeforeClosing world action)
    (hnext : network.next world action = some world') : ClosedAfterRequest world' := by
  replace hnext : world.next action = some world' := hnext
  cases hrunning : world.exited with
  | some reason => simp [World.next, hrunning] at hnext
  | none =>
      cases action with
      | accept fd =>
          simp only [World.next, hrunning] at hnext
          split at hnext
          · cases hnext
          · obtain rfl := Option.some.inj hnext
            exact hclosed.setConnection (by rintro kept ⟨⟩ ⟨⟩)
      | request fd packet =>
          simp only [World.next, hrunning, Option.bind_eq_some_iff] at hnext
          obtain ⟨connection, -, hnext⟩ := hnext
          split at hnext
          · cases hnext
          · obtain rfl := Option.some.inj hnext
            exact hclosed.setConnection (by rintro kept ⟨⟩ -; simp)
      | hangUp fd =>
          simp only [World.next, hrunning, Option.bind_eq_some_iff] at hnext
          obtain ⟨connection, hconnection, hnext⟩ := hnext
          split at hnext
          · cases hnext
          · obtain rfl := Option.some.inj hnext
            exact hclosed.setConnection
              (by rintro kept ⟨⟩ -; exact hallowed connection hconnection)
      | receive fd env =>
          simp only [World.next, hrunning, Option.bind_eq_some_iff] at hnext
          obtain ⟨connection, -, hnext⟩ := hnext
          unfold World.receive at hnext
          split at hnext
          · obtain rfl := Option.some.inj hnext
            refine hclosed.settle fun kept hkept _ => ?_
            split at hkept
            · cases hkept
            · obtain rfl := Option.some.inj hkept
              simp
          · split at hnext
            · obtain rfl := Option.some.inj hnext
              exact hclosed.settle (by rintro kept ⟨⟩)
            · cases hnext
      | receiveError fd env =>
          simp only [World.next, hrunning, Option.bind_eq_some_iff] at hnext
          obtain ⟨connection, -, hnext⟩ := hnext
          obtain rfl := Option.some.inj hnext
          exact hclosed.settle (by rintro kept ⟨⟩)

theorem closedAfterRequest_of_reachable {world : World}
    (hreach : network.ReachableWith ClientsBehave world) : ClosedAfterRequest world :=
  hreach.invariant ClosedAfterRequest (by rintro fd connection ⟨⟩)
    fun _ _ _ hclosed hallowed hnext => hclosed.step hallowed.2 hnext

theorem ClientsBehave.reachable {world : World}
    (hreach : network.ReachableWith ClientsBehave world) :
    network.ReachableWith SendsOneRecord world :=
  hreach.mono fun _ _ hallowed => hallowed.1.record

/-! ## Reasons to stop -/

/-- The environment refuses a resource that handling the event needs. -/
def World.Excuses (world : World) : Action → ExitReason → Prop
  | .receive fd env, reason =>
      Excused env world.broker.nextAttachmentId (world.due fd) reason
  | .receiveError fd env, reason =>
      Excused env world.broker.nextAttachmentId (world.due fd) reason
  | _, _ => False

theorem Excused.cause {env : Env} {firstId : ℕ} {due : List Fd} {reason : ExitReason}
    (hexcused : Excused env firstId due reason) :
    reason.cause = .rejectedSend ∨ reason.cause = .noEventFd ∨
      reason.cause = .noAttachmentId := by
  unfold Excused at hexcused
  split at hexcused <;> simp_all

theorem World.Excuses.cause {world : World} {action : Action} {reason : ExitReason}
    (hexcuses : world.Excuses action reason) :
    reason.cause = .rejectedSend ∨ reason.cause = .noEventFd ∨
      reason.cause = .noAttachmentId := by
  cases action with
  | receive fd env => exact Excused.cause hexcuses
  | receiveError fd env => exact Excused.cause hexcuses
  | accept fd => exact hexcuses.elim
  | request fd packet => exact hexcuses.elim
  | hangUp fd => exact hexcuses.elim

/-- A connection whose client has sent its record never ends unregistered. -/
theorem ClosedAfterRequest.excuses {world world' : World} {action : Action}
    {reason : ExitReason} (hclosed : ClosedAfterRequest world)
    (hallowed : RequestsBeforeClosing world action)
    (hnext : network.next world action = some world')
    (hstop : world.MayStop action reason) : world.Excuses action reason := by
  cases action with
  | accept fd => exact hstop
  | request fd packet => exact hstop
  | hangUp fd => exact hstop
  | receive fd env =>
      obtain hexcused | ⟨rfl, connection, hconnection, hempty⟩ := hstop
      · exact hexcused
      · -- Nothing to read means that the client has closed its end unregistered.
        have hinbox := (List.append_eq_nil_iff.mp hempty).2
        replace hnext : world.next (.receive fd env) = some world' := hnext
        cases hexited : world.exited with
        | some reason => simp [World.next, hexited] at hnext
        | none =>
            cases hpeer : connection.peerClosed with
            | true => exact absurd hempty (hclosed fd connection hconnection hpeer)
            | false =>
                simp [World.next, World.receive, hexited, hconnection, hinbox, hpeer] at hnext
  | receiveError fd env =>
      obtain hexcused | ⟨rfl, connection, hconnection, hreceived⟩ := hstop
      · exact hexcused
      · exact absurd hreceived (hallowed connection hconnection)

/-- With well-behaved clients the broker stops for want of resources only. -/
theorem exit_excused {world world' : World}
    (hreach : network.ReachableWith ClientsBehave world) {action : Action}
    (hallowed : ClientsBehave world action) (hnext : network.next world action = some world')
    {reason : ExitReason} (hexited : world'.exited = some reason) :
    world.Excuses action reason := by
  have hconsistent := consistent_of_reachable (ClientsBehave.reachable hreach)
  have hstop := (hconsistent.step hallowed.1.record hnext).2.2.1 reason hexited
    hallowed.1.capacity
  exact (closedAfterRequest_of_reachable hreach).excuses hallowed.2 hnext hstop

theorem exit_cause {world : World} (hreach : network.ReachableWith ClientsBehave world)
    {reason : ExitReason} (hexited : world.exited = some reason) :
    reason.cause = .rejectedSend ∨ reason.cause = .noEventFd ∨
      reason.cause = .noAttachmentId := by
  cases hreach with
  | initial => cases hexited
  | step hreach hallowed hnext => exact (exit_excused hreach hallowed hnext hexited).cause

/-! ## The maps agree -/

/-- The broker's maps describe one set of subscribers and one set of publishers,
with an attachment for each time a subscriber lists a publisher's topic. -/
structure RoutingComplete (broker : Broker) : Prop where
  attached : ∀ subscriberFd publisherFd topicIds topicId,
    broker.topicIdsBySubscriberFd.lookup subscriberFd = some topicIds →
    publisherFd ∈ broker.publishersOf topicId →
    (broker.attachmentsOf subscriberFd).countP (·.publisherFd = publisherFd) =
      topicIds.count topicId
  attachments : ∀ subscriberFd,
    (broker.subscriberAttachmentsBySubscriberFd.lookup subscriberFd).isSome =
      (broker.topicIdsBySubscriberFd.lookup subscriberFd).isSome
  attachedPublishers : ∀ subscriberFd, ∀ attachment ∈ broker.attachmentsOf subscriberFd,
    attachment.publisherFd ∈ broker.publishersOf attachment.topicId
  subscriberRoles : ∀ fd, broker.roleByFd.lookup fd = some .subscriber ↔
    (broker.topicIdsBySubscriberFd.lookup fd).isSome
  subscribers : ∀ topicId fd, (broker.subscribersOf topicId).count fd =
    (broker.topicsOf fd).count topicId
  publisherRoles : ∀ fd, broker.roleByFd.lookup fd = some .publisher ↔
    ∃ topicId, fd ∈ broker.publishersOf topicId
  publishersOnce : ∀ topicId, (broker.publishersOf topicId).Nodup
  publisherTopic : ∀ topicId topicId' fd,
    fd ∈ broker.publishersOf topicId → fd ∈ broker.publishersOf topicId' → topicId = topicId'
  shmFd : ∀ fd, (broker.shmFdByPublisherFd.lookup fd).isSome ↔
    ∃ topicId, fd ∈ broker.publishersOf topicId
  spaceEventFd : ∀ fd, (broker.spaceEventFdByPublisherFd.lookup fd).isSome ↔
    ∃ topicId, fd ∈ broker.publishersOf topicId

namespace Routes

variable {broker : Broker} {members : Members}

theorem topicsOf (hroutes : Routes broker members) (fd : Fd) :
    broker.topicsOf fd = members.topics fd := by
  rw [Broker.topicsOf, hroutes.topicIds]
  rfl

theorem topic_isSome (hroutes : Routes broker members) {fd : Fd} :
    (members.topic fd).isSome ↔ ∃ topicId, fd ∈ broker.publishersOf topicId := by
  simp only [Option.isSome_iff_exists, hroutes.mem_publishersOf]

theorem complete (hroutes : Routes broker members) : RoutingComplete broker where
  attached := by
    intro subscriberFd publisherFd topicIds topicId htopicIds hpublisher
    rw [hroutes.topicIds] at htopicIds
    rw [hroutes.attached, Members.matching, hroutes.mem_publishersOf.mp hpublisher]
    simp [Members.topics, htopicIds]
  attachments fd := by rw [hroutes.attachments, hroutes.topicIds]
  attachedPublishers subscriberFd attachment hmem :=
    hroutes.mem_publishersOf.mpr (hroutes.attachedTopic subscriberFd attachment hmem)
  subscriberRoles := by
    intro fd
    rw [hroutes.role, hroutes.topicIds]
    cases members fd with
    | none => simp
    | some member => cases member <;> simp [Member.role, Member.topicIds]
  subscribers topicId fd := by rw [hroutes.subscribers, hroutes.topicsOf]
  publisherRoles := by
    intro fd
    rw [hroutes.role, ← hroutes.topic_isSome, Members.topic]
    cases members fd with
    | none => simp
    | some member => cases member <;> simp [Member.role, Member.topicId]
  publishersOnce := by
    intro topicId
    rw [List.nodup_iff_count_le_one]
    intro fd
    rw [hroutes.publishers]
    split <;> omega
  publisherTopic := by
    intro topicId topicId' fd hmem hmem'
    have htopic := hroutes.mem_publishersOf.mp hmem
    exact Option.some.inj (htopic.symm.trans (hroutes.mem_publishersOf.mp hmem'))
  shmFd fd := by rw [hroutes.shmFd, hroutes.topic_isSome]
  spaceEventFd fd := by rw [hroutes.spaceEventFd, hroutes.topic_isSome]

end Routes

/-- Whatever the order in which clients register and disconnect, the maps agree,
the attachments are those of the present members, and no lookup of a handler
fails. -/
theorem routing_complete {world : World}
    (hreach : network.ReachableWith ClientsBehave world) :
    RoutingComplete world.broker ∧
      (∀ fd, world.broker.roleByFd.lookup fd = (world.members fd).map Member.role) ∧
      (∀ subscriberFd publisherFd,
        (world.broker.attachmentsOf subscriberFd).countP (·.publisherFd = publisherFd) =
          world.members.matching subscriberFd publisherFd) ∧
      ∀ reason, world.exited = some reason →
        reason.cause = .rejectedSend ∨ reason.cause = .noEventFd ∨
          reason.cause = .noAttachmentId := by
  have hroutes := (consistent_of_reachable (ClientsBehave.reachable hreach)).routes
  exact ⟨hroutes.complete, hroutes.role, hroutes.attached,
    fun _ hexited => exit_cause hreach hexited⟩

/-! ## The environment's side -/

/-- The client has not closed its end. -/
def World.alive (world : World) (fd : Fd) : Bool :=
  (world.connections fd).any fun connection => !connection.peerClosed

/-- Descriptors and attachment ids are left for handling a registration. -/
def Supplied (world : World) : Action → Prop
  | .receive fd env => ∀ connection packet rest, world.connections fd = some connection →
      connection.inbox = packet :: rest → packet.Registers →
        (∀ index, env.eventfd index ≠ none) ∧
          world.broker.nextAttachmentId + (world.due fd).length < 2 ^ 64
  | _ => True

/-- A record owed to a peer is refused exactly if the peer has closed its end. -/
def ClosedPeersRefuse (world : World) : Action → Prop
  | .receive fd env => ∀ peer ∈ world.due fd, ∀ index,
      env.accepts index peer = world.alive peer
  | .receiveError fd env => ∀ peer ∈ world.due fd, ∀ index,
      env.accepts index peer = world.alive peer
  | _ => True

/-- Every peer accepts the records owed to it. -/
def PeersAccept (world : World) : Action → Prop
  | .receive fd env => ∀ index peer, (world.due fd)[index]? = some peer →
      env.accepts index peer = true
  | .receiveError fd env => ∀ index peer, (world.due fd)[index]? = some peer →
      env.accepts index peer = true
  | _ => True

/-! ## A subscriber that lists a topic twice -/

/-- The client on descriptor 3 subscribes to the topics 1, 1 and 2 before the one
on descriptor 4 publishes topic 1. -/
def repeatedTopic : World :=
  let topics : TopicList := ⟨[1, 1, 2], by decide, by decide⟩
  let actions : List Action :=
    [.accept 3, .accept 4, .request 3 (Request.subscribe topics).packet,
      .receive 3 .generous, .request 4 (Request.publish 1 50 51).packet,
      .receive 4 .generous]
  (network.run World.initial actions).getD World.initial

/-- Both sides behave on the way to `repeatedTopic`. -/
def Orderly (world : World) (action : Action) : Prop :=
  ClientsBehave world action ∧ Supplied world action ∧ ClosedPeersRefuse world action ∧
    PeersAccept world action

theorem Orderly.receive {world : World} {fd : Fd}
    (hclients : SendsOneRequest world (.receive fd .generous))
    (hids : world.broker.nextAttachmentId + (world.due fd).length < 2 ^ 64)
    (halive : ∀ peer ∈ world.due fd, world.alive peer = true) :
    Orderly world (.receive fd .generous) :=
  ⟨⟨hclients, trivial⟩, fun _ _ _ _ _ _ => ⟨by rintro _ ⟨⟩, hids⟩,
    fun peer hpeer _ => (halive peer hpeer).symm, fun _ _ _ => rfl⟩

theorem repeatedTopic_reachable : network.ReachableWith Orderly repeatedTopic := by
  have hopen : network.ReachableWith Orderly _ :=
    .step (.step .initial
      (show Orderly _ (.accept 3) from ⟨⟨trivial, trivial⟩, trivial, trivial, trivial⟩) rfl)
      (show Orderly _ (.accept 4) from ⟨⟨trivial, trivial⟩, trivial, trivial, trivial⟩) rfl
  have hsubscribe : network.ReachableWith Orderly _ :=
    hopen.step (show Orderly _ (.request 3 (Request.subscribe
      ⟨[1, 1, 2], by decide, by decide⟩).packet) from
        ⟨⟨by rintro _ ⟨⟩; exact ⟨rfl, _, rfl⟩, trivial⟩, trivial, trivial, trivial⟩) rfl
  have hsubscribed : network.ReachableWith Orderly _ :=
    hsubscribe.step (show Orderly _ (.receive 3 .generous) from
      .receive (by rintro _ _ _ ⟨⟩ ⟨⟩ _ ⟨⟩; exact ⟨by decide, by rintro _ _ _ ⟨⟩⟩)
        (by decide +kernel) (by decide +kernel)) rfl
  have hpublish : network.ReachableWith Orderly _ :=
    hsubscribed.step (show Orderly _ (.request 4 (Request.publish 1 50 51).packet) from
        ⟨⟨by rintro _ ⟨⟩; exact ⟨rfl, _, rfl⟩, trivial⟩, trivial, trivial, trivial⟩) rfl
  exact hpublish.step (show Orderly _ (.receive 4 .generous) from
    .receive (by rintro _ _ _ ⟨⟩ ⟨⟩ _ ⟨⟩; exact Nat.le_of_ble_eq_true rfl)
      (by decide +kernel) (by decide +kernel)) rfl

theorem routing_complete_repeatedTopic :
    (repeatedTopic.broker.attachmentsOf 3).countP (·.publisherFd = 4) = 2 ∧
      RoutingComplete repeatedTopic.broker :=
  ⟨by decide +kernel,
    (routing_complete (repeatedTopic_reachable.mono fun _ _ horderly => horderly.1)).1⟩

/-! ## Slots -/

/-- The free slots of a publisher and the slots of the attachments to it are all
slots, each once, and only registered publishers have slots. -/
theorem slots_partitioned {world : World}
    (hreach : network.ReachableWith ClientsBehave world) :
    (∀ publisherFd topicId, world.members publisherFd = some (.publisher topicId) →
      ∃ heap, world.broker.freeSlots topicId publisherFd = some heap ∧
        heap.free + world.broker.occupiedSlots publisherFd =
          Multiset.range kMaxSubscribers) ∧
      ∀ publisherFd topicId, world.broker.freeSlots topicId publisherFd ≠ none →
        world.members publisherFd = some (.publisher topicId) := by
  have hroutes := (consistent_of_reachable (ClientsBehave.reachable hreach)).routes
  constructor
  · intro publisherFd topicId hmember
    have htopic : world.members.topic publisherFd = some topicId := by
      rw [Members.topic, hmember]
      rfl
    obtain ⟨heap, hheap⟩ := hroutes.freeSlots_of_topic htopic
    exact ⟨heap, hheap, hroutes.slots topicId publisherFd heap hheap⟩
  · intro publisherFd topicId hheap
    have htopic := hroutes.topic_of_freeSlots (Option.isSome_iff_ne_none.mpr hheap)
    rw [Members.topic, Option.bind_eq_some_iff] at htopic
    obtain ⟨member, hmember, hpublishes⟩ := htopic
    cases member with
    | subscriber topicIds => cases hpublishes
    | publisher published =>
        obtain rfl := Option.some.inj hpublishes
        exact hmember

theorem slots_partitioned_repeatedTopic :
    repeatedTopic.broker.occupiedSlots 4 = {0, 1} ∧
      ∃ heap, repeatedTopic.broker.freeSlots 1 4 = some heap ∧
        heap.free + repeatedTopic.broker.occupiedSlots 4 = Multiset.range kMaxSubscribers :=
  ⟨by decide +kernel,
    (slots_partitioned (repeatedTopic_reachable.mono fun _ _ horderly => horderly.1)).1 4 1
      (by decide +kernel)⟩

end DriveBus.ControlPlane
