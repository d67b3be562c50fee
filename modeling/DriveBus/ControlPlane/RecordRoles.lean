import DriveBus.ControlPlane.Completeness

/-!
# Records in every role

Any well-formed record may arrive on any open connection, whatever its descriptor
is already registered as.  The maps survive as long as registrations and status
queries come from descriptors without a role; a publisher that registers again
only stops the broker.
-/

namespace DriveBus.ControlPlane

open DriveBus.ByteMemory DriveBus.Contract DriveBus.Transition

/-! ## Well-formed records -/

/-- A record of the right size with the right ancillary data. -/
inductive Packet.WellFormed : Packet → Prop
  | statusQuery : WellFormed ⟨[BrokerMessageType.statusQuery.code], none⟩
  | subscriberTopicRegistration {body : List Byte}
      (hlength : body.length + 1 = kSubscriberTopicRegistrationMessageSize) :
      WellFormed ⟨BrokerMessageType.subscriberTopicRegistration.code :: body, none⟩
  | publisherTopicRegistration (topicId : TopicId) (shmFd spaceAvailableEventFd : Fd) :
      WellFormed ⟨[BrokerMessageType.publisherTopicRegistration.code, topicId],
        some [shmFd, spaceAvailableEventFd]⟩

theorem Packet.wellFormed_iff {packet : Packet} : packet.WellFormed ↔
    packet.rights = none ∧ (packet.bytes = [BrokerMessageType.statusQuery.code] ∨
      packet.bytes.head? = some BrokerMessageType.subscriberTopicRegistration.code ∧
        packet.bytes.length = kSubscriberTopicRegistrationMessageSize) ∨
    packet.bytes.head? = some BrokerMessageType.publisherTopicRegistration.code ∧
      packet.bytes.length = 2 ∧ packet.rights.map List.length = some 2 := by
  obtain ⟨bytes, rights⟩ := packet
  constructor
  · rintro (- | hlength | -)
    · exact .inl ⟨rfl, .inl rfl⟩
    · exact .inl ⟨rfl, .inr ⟨rfl, hlength⟩⟩
    · exact .inr ⟨rfl, rfl, rfl⟩
  · rintro (⟨rfl, rfl | ⟨hcode, hlength⟩⟩ | ⟨hcode, hlength, hrights⟩)
    · exact .statusQuery
    · obtain ⟨body, rfl⟩ := List.head?_eq_some_iff.mp hcode
      exact .subscriberTopicRegistration hlength
    · obtain ⟨body, rfl⟩ := List.head?_eq_some_iff.mp hcode
      obtain ⟨topicId, rfl⟩ := List.length_eq_one_iff.mp (Nat.succ.inj hlength)
      obtain ⟨fds, rfl, hfds⟩ := Option.map_eq_some_iff.mp hrights
      obtain ⟨shmFd, spaceAvailableEventFd, rfl⟩ := List.length_eq_two.mp hfds
      exact .publisherTopicRegistration topicId shmFd spaceAvailableEventFd

instance instDecidableWellFormed (packet : Packet) : Decidable packet.WellFormed :=
  decidable_of_iff _ Packet.wellFormed_iff.symm

/-- The client libraries build well-formed records. -/
theorem Request.wellFormed_packet (request : Request) : request.packet.WellFormed := by
  cases request with
  | statusQuery => exact .statusQuery
  | subscribe topics => exact .subscriberTopicRegistration topics.length_bytes
  | publish topicId shmFd spaceAvailableEventFd =>
      exact .publisherTopicRegistration topicId shmFd spaceAvailableEventFd

/-- The membership after a record that a descriptor without a role has sent. -/
def Members.after (members : Members) (fd : Fd) (packet : Packet) : Members :=
  packet.member.elim (members.leave fd) (members.join fd)

section Records

variable {env : Env} {members : Members} {session : Session} {fd : Fd} {packet : Packet}

/-- A well-formed record of a descriptor without a role. -/
theorem handleRecord_unregistered (hroutes : Routes session.broker members)
    (hsent : session.sent = []) (hfresh : members fd = none) (hwell : packet.WellFormed) :
    Meets (handleRecord env fd packet session)
      (fun result => Attended session.broker fd (members.after fd packet) result.1 ∧
        result.2 = packet.member.isNone) fun _ => True := by
  cases hwell with
  | statusQuery => exact ⟨handleStatusQuery_attended hroutes hfresh, rfl⟩
  | publisherTopicRegistration topicId shmFd spaceAvailableEventFd =>
      have hregister : Meets (handleRecord env fd
          (Request.publish topicId shmFd spaceAvailableEventFd).packet session) _ _ :=
        register_meets hroutes hsent hfresh rfl
      exact hregister.mono (fun _ hpost => hpost) fun _ _ => trivial
  | @subscriberTopicRegistration body hlength =>
      rw [handleRecord_subscriberTopicRegistration env fd hlength]
      refine (Meets.require fun _ => trivial).bind fun _ _ => ?_
      have hregister : Meets (registerSubscriber env fd
          ((body.drop 4).take (ofLittleEndian (body.take 4))) session) _ _ :=
        registerSubscriber_meets hroutes hsent hfresh
      refine (hregister.mono (fun _ hpost => hpost) fun _ _ => trivial).bind ?_
      exact fun after hsettled => .pure ⟨hsettled.attended, rfl⟩

/-- A publisher's second registration finds its shared memory entry taken. -/
theorem handleRecord_publisherAgain (hroutes : Routes session.broker members)
    {topicId published : TopicId} {shmFd spaceAvailableEventFd : Fd}
    (hmember : members fd = some (.publisher published)) :
    handleRecord env fd ⟨[BrokerMessageType.publisherTopicRegistration.code, topicId],
        some [shmFd, spaceAvailableEventFd]⟩ session =
      .error .publisherRegistrationShmFdAlreadyExists := by
  have htaken : session.broker.shmFdByPublisherFd.lookup fd ≠ none := by
    have hisSome := hroutes.shmFd fd
    rw [Members.topic, hmember] at hisSome
    exact Option.isSome_iff_ne_none.mp hisSome
  have hpublish := handleRecord_publish env fd topicId shmFd spaceAvailableEventFd session
  rw [registerPublisher, Contract.require, if_neg htaken] at hpublish
  exact hpublish

end Records

/-! ## The condition -/

/-- The clients' records are well-formed. -/
def SendsWellFormed : Action → Prop
  | .request _ packet => packet.WellFormed
  | _ => True

/-- A record may register or query: its descriptor has no role, or it registers a
publisher on a publisher's descriptor. -/
def Broker.Admits (broker : Broker) (fd : Fd) (packet : Packet) : Prop :=
  broker.roleByFd.lookup fd = none ∨
    broker.roleByFd.lookup fd = some .publisher ∧
      packet.bytes.head? = some BrokerMessageType.publisherTopicRegistration.code

instance instDecidableAdmits (broker : Broker) (fd : Fd) (packet : Packet) :
    Decidable (broker.Admits fd packet) :=
  inferInstanceAs (Decidable (_ ∨ _))

/-- Every record that the broker reads is one it admits. -/
def ReadsAdmitted (world : World) : Action → Prop
  | .receive fd _ => ∀ connection packet rest, world.connections fd = some connection →
      connection.inbox = packet :: rest → world.broker.Admits fd packet
  | _ => True

/-- The runs over well-formed records in which the broker admits what it reads. -/
def AdmittedRecords (world : World) (action : Action) : Prop :=
  SendsWellFormed action ∧ ReadsAdmitted world action

/-- The check of `AdmittedRecords` for one action. -/
def admitsAction (world : World) : Action → Bool
  | .request _ packet => decide packet.WellFormed
  | .receive fd _ => ((world.connections fd).bind (·.inbox.head?)).all fun packet =>
      decide (world.broker.Admits fd packet)
  | _ => true

theorem admittedRecords_of_admitsAction {world : World} {action : Action}
    (hadmits : admitsAction world action = true) : AdmittedRecords world action := by
  cases action with
  | request fd packet =>
      have hwell : packet.WellFormed := by simpa [admitsAction] using hadmits
      exact ⟨hwell, trivial⟩
  | receive fd env =>
      refine ⟨trivial, fun connection packet rest hconnection hinbox => ?_⟩
      simpa [admitsAction, hconnection, hinbox] using hadmits
  | _ => exact ⟨trivial, trivial⟩

/-! ## The invariant -/

/-- The maps describe members that are connected. -/
structure Registered (world : World) (members : Members) : Prop where
  routes : Routes world.broker members
  connected : ∀ fd, members fd ≠ none → world.connections fd ≠ none
  clients : ∀ fd, world.connections fd ≠ none → fd ∈ world.broker.clientFds
  wellFormed : ∀ fd connection, world.connections fd = some connection →
    ∀ packet ∈ connection.inbox, packet.WellFormed

theorem registered_initial : Registered World.initial fun _ => none where
  routes := routes_initial
  connected _ hne := absurd rfl hne
  clients _ hne := absurd rfl hne
  wellFormed _ _ hconnection := by cases hconnection

namespace Registered

variable {world world' : World} {members : Members} {fd : Fd}

theorem member_eq_none (hregistered : Registered world members)
    (hrole : world.broker.roleByFd.lookup fd = none) : members fd = none := by
  simpa [hregistered.routes.role] using hrole

theorem member_of_publisher (hregistered : Registered world members)
    (hrole : world.broker.roleByFd.lookup fd = some .publisher) :
    ∃ topicId, members fd = some (.publisher topicId) := by
  rw [hregistered.routes.role, Option.map_eq_some_iff] at hrole
  obtain ⟨member, hmember, hpublisher⟩ := hrole
  cases member with
  | subscriber topicIds => cases hpublisher
  | publisher topicId => exact ⟨topicId, hmember⟩

theorem exit (hregistered : Registered world members) (reason : ExitReason) :
    Registered { world with exited := some reason } members :=
  ⟨hregistered.routes, hregistered.connected, hregistered.clients, hregistered.wellFormed⟩

/-- Changing a connection that stays open. -/
theorem setConnection (hregistered : Registered world members)
    {connection : Connection} (hopen : world.connections fd ≠ none)
    (hwell : ∀ packet ∈ connection.inbox, packet.WellFormed) :
    Registered (world.setConnection fd (some connection)) members where
  routes := hregistered.routes
  connected := by
    intro other hmember
    by_cases hother : other = fd
    · simp [World.setConnection, hother]
    · simpa [World.setConnection, hother] using hregistered.connected other hmember
  clients := by
    intro other hne
    by_cases hother : other = fd
    · exact hother ▸ hregistered.clients fd hopen
    · exact hregistered.clients other (by simpa [World.setConnection, hother] using hne)
  wellFormed := by
    intro other kept hkept
    by_cases hother : other = fd
    · subst hother
      simp only [World.setConnection, Function.update_self, Option.some.injEq] at hkept
      exact hkept ▸ hwell
    · exact hregistered.wellFormed other kept
        (by simpa [World.setConnection, hother] using hkept)

theorem accept (hregistered : Registered world members)
    (hnew : world.connections fd = none) :
    Registered { world.setConnection fd (some ⟨[], [], false⟩) with
      broker := { world.broker with clientFds := insert fd world.broker.clientFds } }
      members where
  routes := hregistered.routes.withClientFds _
  connected := by
    intro other hmember
    have hother : other ≠ fd := by
      rintro rfl
      exact hregistered.connected other hmember hnew
    simpa [World.setConnection, hother] using hregistered.connected other hmember
  clients := by
    intro other hne
    by_cases hother : other = fd
    · exact hother ▸ Finset.mem_insert_self _ _
    · refine Finset.mem_insert_of_mem (hregistered.clients other ?_)
      simpa [World.setConnection, hother] using hne
  wellFormed := by
    intro other kept hkept
    by_cases hother : other = fd
    · subst hother
      simp only [World.setConnection, Function.update_self, Option.some.injEq] at hkept
      subst hkept
      simp
    · exact hregistered.wellFormed other kept
        (by simpa [World.setConnection, hother] using hkept)

/-- Handling an event of one connection changes the membership of its descriptor
only. -/
theorem settle (hregistered : Registered world members) {members' : Members}
    {connection : Option Connection} {result : Except ExitReason Session}
    (hopen : world.connections fd ≠ none)
    (hothers : ∀ other, other ≠ fd → members' other = members other)
    (hkept : (connection = none ↔ members' fd = none))
    (hwell : ∀ kept, connection = some kept → ∀ packet ∈ kept.inbox, packet.WellFormed)
    (hmeets : Meets result (Attended world.broker fd members') fun _ => True) :
    ∃ members, Registered (world.settle fd connection result) members := by
  cases result with
  | error reason => exact ⟨members, hregistered.exit reason⟩
  | ok session =>
      have hattended : Attended world.broker fd members' session := hmeets
      refine ⟨members', hattended.routes, ?_, ?_, ?_⟩
      · intro other hmember
        by_cases hother : other = fd
        · subst hother
          simpa [World.settle, World.setConnection] using mt hkept.mp hmember
        · rw [hothers other hother] at hmember
          simpa [World.settle, World.setConnection, hother] using
            hregistered.connected other hmember
      · intro other hne
        by_cases hother : other = fd
        · subst hother
          refine hattended.stays (hregistered.clients other hopen) (mt hkept.mpr ?_)
          simpa [World.settle, World.setConnection] using hne
        · refine hattended.others other (hregistered.clients other ?_) hother
          simpa [World.settle, World.setConnection, hother] using hne
      · intro other kept hconnection
        by_cases hother : other = fd
        · subst hother
          exact hwell kept (by simpa [World.settle, World.setConnection] using hconnection)
        · refine hregistered.wellFormed other kept ?_
          simpa [World.settle, World.setConnection, hother] using hconnection

/-! ## Steps -/

theorem handleClosure_attended (hregistered : Registered world members) (env : Env) :
    Meets (handleClosure env fd (.start world.broker))
      (Attended world.broker fd (members.leave fd)) fun _ => True := by
  cases hmember : members fd with
  | none =>
      rw [handleClosure_unregistered hregistered.routes hmember]
      exact .error trivial
  | some member =>
      have hclosure : Meets (handleClosure env fd (.start world.broker)) _ _ :=
        handleClosure_meets hregistered.routes rfl hmember world.broker.nextAttachmentId
      exact hclosure.mono (fun _ hattended => hattended) fun _ _ => trivial

theorem handleReceiveError_attended (hregistered : Registered world members)
    (hopen : world.connections fd ≠ none) (env : Env) :
    Meets (handleReceiveError env fd (.start world.broker))
      (Attended world.broker fd (members.leave fd)) fun _ => True := by
  cases hmember : members fd with
  | none =>
      rw [handleReceiveError_unregistered hregistered.routes hmember]
      exact .error trivial
  | some member =>
      have herror : Meets (handleReceiveError env fd (.start world.broker)) _ _ :=
        handleReceiveError_meets hregistered.routes rfl hmember
          (hregistered.clients fd hopen) world.broker.nextAttachmentId
      exact herror.mono (fun _ hattended => hattended) fun _ _ => trivial

theorem leave (hregistered : Registered world members) {result : Except ExitReason Session}
    (hopen : world.connections fd ≠ none)
    (hmeets : Meets result (Attended world.broker fd (members.leave fd)) fun _ => True) :
    ∃ members, Registered (world.settle fd none result) members := by
  refine hregistered.settle hopen (fun other hother => ?_) ?_ (by rintro _ ⟨⟩) hmeets
  · simp [Members.leave, hother]
  · simp [Members.leave]

theorem receive (hregistered : Registered world members) {env : Env}
    {connection : Connection} (hconnection : world.connections fd = some connection)
    (hadmits : ∀ packet rest, connection.inbox = packet :: rest →
      world.broker.Admits fd packet)
    (hnext : world.receive fd connection env = some world') :
    ∃ members, Registered world' members := by
  have hopen : world.connections fd ≠ none := by simp [hconnection]
  have hwell := hregistered.wellFormed fd connection hconnection
  cases hinbox : connection.inbox with
  | nil =>
      rw [World.receive, hinbox] at hnext
      dsimp only at hnext
      split at hnext
      · obtain rfl := Option.some.inj hnext
        exact hregistered.leave hopen (hregistered.handleClosure_attended env)
      · cases hnext
  | cons packet rest =>
      rw [hinbox] at hwell
      rw [World.receive, hinbox] at hnext
      obtain rfl := Option.some.inj hnext
      rcases hadmits packet rest hinbox with hrole | ⟨hrole, hcode⟩
      · have hrecord : Meets (handleRecord env fd packet (.start world.broker)) _ _ :=
          handleRecord_unregistered hregistered.routes rfl
            (hregistered.member_eq_none hrole) (hwell packet (by simp))
        cases hresult : handleRecord env fd packet (.start world.broker) with
        | error reason => exact ⟨members, hregistered.exit reason⟩
        | ok result =>
            obtain ⟨session, closed⟩ := result
            obtain ⟨hattended, rfl⟩ := hrecord.of_ok hresult
            have hroles : ∀ other, other ≠ fd →
                members.after fd packet other = members other := fun other hother => by
              cases hmember : packet.member <;>
                simp [Members.after, hmember, Members.leave, Members.join, hother]
            refine hregistered.settle hopen hroles ?_ ?_ (.ok hattended)
            · cases hmember : packet.member <;>
                simp [Members.after, hmember, Members.leave, Members.join]
            · intro kept hkept
              split at hkept
              · cases hkept
              · obtain rfl := Option.some.inj hkept
                exact fun other hmem => hwell other (List.mem_cons_of_mem _ hmem)
      · obtain ⟨topicId, hmember⟩ := hregistered.member_of_publisher hrole
        cases hwell packet (by simp) with
        | statusQuery => cases hcode
        | subscriberTopicRegistration hlength => cases hcode
        | publisherTopicRegistration =>
            have hroutes : Routes (Session.start world.broker).broker members :=
              hregistered.routes
            rw [handleRecord_publisherAgain hroutes hmember]
            exact ⟨members, hregistered.exit _⟩

theorem step (hregistered : Registered world members) {action : Action}
    (hallowed : AdmittedRecords world action)
    (hnext : network.next world action = some world') :
    ∃ members, Registered world' members := by
  replace hnext : world.next action = some world' := hnext
  cases hexited : world.exited with
  | some reason => simp [World.next, hexited] at hnext
  | none =>
      cases action with
      | accept fd =>
          simp only [World.next, hexited] at hnext
          split at hnext
          · cases hnext
          · obtain rfl := Option.some.inj hnext
            exact ⟨members, hregistered.accept ‹_›⟩
      | request fd packet =>
          simp only [World.next, hexited, Option.bind_eq_some_iff] at hnext
          obtain ⟨connection, hconnection, hnext⟩ := hnext
          have hwell := hregistered.wellFormed fd connection hconnection
          split at hnext
          · cases hnext
          · obtain rfl := Option.some.inj hnext
            refine ⟨members, hregistered.setConnection (by simp [hconnection]) ?_⟩
            intro other hmem
            rcases List.mem_append.mp hmem with hold | hnew
            · exact hwell other hold
            · exact List.mem_singleton.mp hnew ▸ hallowed.1
      | hangUp fd =>
          simp only [World.next, hexited, Option.bind_eq_some_iff] at hnext
          obtain ⟨connection, hconnection, hnext⟩ := hnext
          split at hnext
          · cases hnext
          · obtain rfl := Option.some.inj hnext
            exact ⟨members, hregistered.setConnection (by simp [hconnection])
              (hregistered.wellFormed fd connection hconnection)⟩
      | receive fd env =>
          simp only [World.next, hexited, Option.bind_eq_some_iff] at hnext
          obtain ⟨connection, hconnection, hnext⟩ := hnext
          exact hregistered.receive hconnection
            (fun packet rest hinbox => hallowed.2 connection packet rest hconnection hinbox)
            hnext
      | receiveError fd env =>
          simp only [World.next, hexited, Option.bind_eq_some_iff] at hnext
          obtain ⟨connection, hconnection, hnext⟩ := hnext
          obtain rfl := Option.some.inj hnext
          have hopen : world.connections fd ≠ none := by simp [hconnection]
          exact hregistered.leave hopen (hregistered.handleReceiveError_attended hopen env)

end Registered

theorem registered_of_reachable {world : World}
    (hreach : network.ReachableWith AdmittedRecords world) :
    ∃ members, Registered world members :=
  hreach.invariant (fun world => ∃ members, Registered world members)
    ⟨_, registered_initial⟩
    fun _ _ _ hregistered hallowed hnext =>
      hregistered.elim fun _ hregistered => hregistered.step hallowed hnext

/-! ## Intact maps -/

/-- The client descriptors that the maps name. -/
def Broker.Names (broker : Broker) (fd : Fd) : Prop :=
  broker.roleByFd.lookup fd ≠ none ∨ broker.topicIdsBySubscriberFd.lookup fd ≠ none ∨
    broker.subscriberAttachmentsBySubscriberFd.lookup fd ≠ none ∨
    broker.shmFdByPublisherFd.lookup fd ≠ none ∨
    broker.spaceEventFdByPublisherFd.lookup fd ≠ none ∨
    ∃ topicId, fd ∈ broker.publishersOf topicId ∨ fd ∈ broker.subscribersOf topicId ∨
      broker.freeSlots topicId fd ≠ none ∨
      ∃ subscriberFd, ∃ attachment ∈ broker.attachmentsOf subscriberFd,
        attachment.topicId = topicId ∧ attachment.publisherFd = fd

/-- Every slot is free or held by a recorded attachment, every subscriber is attached
to a publisher as often as it stands in the list of the publisher's topic, and the
maps agree and name open connections only. -/
structure RoutingIntact (world : World) : Prop where
  slots : ∀ topicId publisherFd heap,
    world.broker.freeSlots topicId publisherFd = some heap →
    heap.free + world.broker.occupiedSlots publisherFd = Multiset.range kMaxSubscribers
  entries : ∀ subscriberFd publisherFd topicId,
    publisherFd ∈ world.broker.publishersOf topicId →
    (world.broker.attachmentsOf subscriberFd).countP (·.publisherFd = publisherFd) =
      (world.broker.subscribersOf topicId).count subscriberFd
  complete : RoutingComplete world.broker
  open_of_names : ∀ fd, world.broker.Names fd → world.connections fd ≠ none

theorem Routes.member_of_names {broker : Broker} {members : Members}
    (hroutes : Routes broker members) {fd : Fd} (hnames : broker.Names fd) :
    members fd ≠ none := by
  intro hnone
  have htopic : members.topic fd = none := Routes.topic_eq_none hnone
  rcases hnames with hrole | htopicIds | hattachments | hshmFd | hspaceEventFd |
    ⟨topicId, hpublisher | hsubscriber | hslots | ⟨subscriberFd, attachment, hmem, -, rfl⟩⟩
  · exact hrole (by rw [hroutes.role, hnone]; rfl)
  · exact htopicIds (by rw [hroutes.topicIds, hnone]; rfl)
  · have hisSome := hroutes.attachments fd
    rw [hnone] at hisSome
    exact hattachments (by simpa using hisSome)
  · have hisSome := hroutes.shmFd fd
    rw [htopic] at hisSome
    exact hshmFd (by simpa using hisSome)
  · have hisSome := hroutes.spaceEventFd fd
    rw [htopic] at hisSome
    exact hspaceEventFd (by simpa using hisSome)
  · simp [hroutes.mem_publishersOf, htopic] at hpublisher
  · have hcount := List.count_pos_iff.mpr hsubscriber
    rw [hroutes.subscribers] at hcount
    simp [Members.topics, hnone] at hcount
  · rw [Option.ne_none_iff_isSome, hroutes.freeSlots, htopic] at hslots
    cases hslots
  · rw [hroutes.attachedTopic subscriberFd attachment hmem] at htopic
    cases htopic

/-- In every run whose records the broker admits, the maps are intact in every state
reached. -/
theorem admitted_records_keep_routing {world : World}
    (hreach : network.ReachableWith AdmittedRecords world) : RoutingIntact world := by
  obtain ⟨members, hregistered⟩ := registered_of_reachable hreach
  have hroutes := hregistered.routes
  refine ⟨hroutes.slots, ?_, hroutes.complete, fun fd hnames =>
    hregistered.connected fd (hroutes.member_of_names hnames)⟩
  intro subscriberFd publisherFd topicId hpublisher
  rw [hroutes.attached, hroutes.subscribers, Members.matching,
    hroutes.mem_publishersOf.mp hpublisher, Option.elim_some]

/-! ## A subscriber that asks for the status -/

/-- Every send is accepted and `eventfd` returns the descriptors from `first` on. -/
def Env.opening (first : Fd) : Env where
  accepts _ _ := true
  eventfd index := some (first + index)
  leftover _ := 0

/-- A client connects on a descriptor and the broker handles its record. -/
def registers (fd : Fd) (request : Request) (first : Fd) : List Action :=
  [.accept fd, .request fd request.packet, .receive fd (.opening first)]

/-- The client on descriptor 3 subscribes to topic 1 and the one on descriptor 4
publishes it. -/
def attachedPair : World :=
  (network.guardedRun admitsAction World.initial
    (registers 3 (.subscribe ⟨[1], by decide, by decide⟩) 100 ++
      registers 4 (.publish 1 50 51) 100)).getD World.initial

theorem attachedPair_reachable : network.ReachableWith AdmittedRecords attachedPair :=
  System.ReachableWith.initial.guardedRun (fun _ _ => admittedRecords_of_admitsAction)
    (Option.getD_of_ne_none (by decide +kernel) _).symm

theorem admitted_records_keep_routing_attachedPair :
    (attachedPair.broker.attachmentsOf 3).length = 1 ∧ RoutingIntact attachedPair :=
  ⟨by decide +kernel, admitted_records_keep_routing attachedPair_reachable⟩

/-- A status query closes its connection, and a subscriber that sends one stays in the
maps. -/
theorem registered_query_leaves_closed_descriptor :
    ¬∀ world, network.ReachableWith (fun _ action => SendsWellFormed action) world →
      world.exited = none → RoutingIntact world := by
  intro hclaim
  have hpair : network.ReachableWith (fun _ action => SendsWellFormed action)
      attachedPair := attachedPair_reachable.mono fun _ _ hallowed => hallowed.1
  have hqueried : network.ReachableWith (fun _ action => SendsWellFormed action) _ :=
    (hpair.step (show SendsWellFormed (.request 3 Request.statusQuery.packet) from
      Request.wellFormed_packet _) rfl).step
      (show SendsWellFormed (.receive 3 .generous) from trivial) rfl
  have hintact := hclaim _ hqueried rfl
  exact hintact.open_of_names 3 (.inl (by decide +kernel)) rfl

end DriveBus.ControlPlane
