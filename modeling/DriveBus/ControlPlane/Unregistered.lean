import DriveBus.ControlPlane.Remains
import DriveBus.ControlPlane.Roles

/-!
# Connections that never register

The branches that handle the end of a connection look its role up and stop the broker if
there is none.  A connection that has never registered survives its end only where an
earlier client of the same descriptor has left a role behind, and is harmless only if that
client's other entries are there too and concern nobody who is registered.
-/

namespace DriveBus.ControlPlane

open DriveBus.Contract DriveBus.Transition DriveBus.UnorderedMap

/-! ## The invariant -/

/-- A client that queries the status does so with its first record. -/
def QueriesFirst (world : World) : Action → Prop
  | .request fd packet => packet.QueriesStatus →
      ∀ connection, world.connections fd = some connection →
        connection.received ++ connection.inbox = []
  | _ => True

structure Connection.OnlyFirstQueries (connection : Connection) : Prop where
  tail : ∀ packet ∈ (connection.received ++ connection.inbox).tail, ¬packet.QueriesStatus

/-- Only connections that have registered hold a role. -/
structure RolesRegistered (world : World) : Prop where
  role : ∀ fd, world.broker.roleByFd.lookup fd ≠ none →
    ∃ connection, world.connections fd = some connection ∧
      ∃ packet ∈ connection.received, packet.Registers
  queries : ∀ fd connection, world.connections fd = some connection →
    connection.OnlyFirstQueries

theorem rolesRegistered_initial : RolesRegistered World.initial where
  role _ hne := absurd rfl hne
  queries _ _ hconnection := by cases hconnection

namespace RolesRegistered

variable {world world' : World} {fd : Fd}

theorem role_eq_none (hroles : RolesRegistered world)
    (hunregistered : ∀ connection, world.connections fd = some connection →
      ∀ packet ∈ connection.received, ¬packet.Registers) :
    world.broker.roleByFd.lookup fd = none := by
  by_contra hne
  obtain ⟨connection, hconnection, packet, hmem, hregisters⟩ := hroles.role fd hne
  exact hunregistered connection hconnection packet hmem hregisters

/-- Changing one connection and the role of its descriptor only. -/
theorem change (hroles : RolesRegistered world) {connection : Option Connection}
    (hbroker : ∀ other, other ≠ fd → world'.broker.roleByFd.lookup other =
      world.broker.roleByFd.lookup other)
    (hconnections : world'.connections = Function.update world.connections fd connection)
    (hrole : world'.broker.roleByFd.lookup fd ≠ none → ∃ kept, connection = some kept ∧
      ∃ packet ∈ kept.received, packet.Registers)
    (hqueries : ∀ kept, connection = some kept → kept.OnlyFirstQueries) :
    RolesRegistered world' where
  role := by
    intro other hne
    by_cases hother : other = fd
    · subst hother
      obtain ⟨kept, hkept, hregistered⟩ := hrole hne
      exact ⟨kept, by simpa [hconnections] using hkept, hregistered⟩
    · rw [hbroker other hother] at hne
      obtain ⟨kept, hkept, hregistered⟩ := hroles.role other hne
      exact ⟨kept, by simpa [hconnections, hother] using hkept, hregistered⟩
  queries := by
    intro other kept hkept
    by_cases hother : other = fd
    · subst hother
      exact hqueries kept (by simpa [hconnections] using hkept)
    · exact hroles.queries other kept (by simpa [hconnections, hother] using hkept)

theorem exit (hroles : RolesRegistered world) (reason : ExitReason) :
    RolesRegistered { world with exited := some reason } :=
  ⟨hroles.role, hroles.queries⟩

/-- A handler that takes the role of the connection it ends. -/
theorem settle_erase (hroles : RolesRegistered world) {result : Except ExitReason Session}
    (herases : EndsWithRoles result (world.broker.roleByFd.erase fd)) :
    RolesRegistered (world.settle fd none result) := by
  cases result with
  | error reason => exact hroles.exit reason
  | ok session =>
      have herased : session.broker.roleByFd = world.broker.roleByFd.erase fd := herases
      suffices hsettled : RolesRegistered (world.settle fd none (.ok session)) from hsettled
      refine hroles.change (fun other hother => ?_) rfl (fun hne => absurd ?_ hne)
        (by rintro _ ⟨⟩)
      · exact (congrArg _ herased).trans (by rw [lookup_erase, if_neg hother])
      · exact (congrArg _ herased).trans (by rw [lookup_erase, if_pos rfl])

theorem receive (hroles : RolesRegistered world) {env : Env} {connection : Connection}
    (hconnection : world.connections fd = some connection)
    (hnext : world.receive fd connection env = some world') : RolesRegistered world' := by
  have hqueries := hroles.queries fd connection hconnection
  cases hinbox : connection.inbox with
  | nil =>
      rw [World.receive, hinbox] at hnext
      dsimp only at hnext
      split at hnext
      · obtain rfl := Option.some.inj hnext
        exact hroles.settle_erase (handleClosure_roles env fd (.start world.broker))
      · cases hnext
  | cons packet rest =>
      rw [World.receive, hinbox] at hnext
      obtain rfl := Option.some.inj hnext
      have hrecord := handleRecord_roles env fd packet (.start world.broker)
      cases hresult : handleRecord env fd packet (.start world.broker) with
      | error reason => exact hroles.exit reason
      | ok result =>
          obtain ⟨session, closed⟩ := result
          have hafter := hrecord.of_ok hresult
          cases closed with
          | true =>
              refine hroles.change hafter.others rfl (fun hne => ?_) (by rintro _ ⟨⟩)
              obtain ⟨hquery, hsame⟩ | hnone := hafter.closed rfl
              · -- A registered client has not queried the status.
                refine absurd ?_ hne
                refine (congrArg _ hsame).trans (hroles.role_eq_none fun kept hkept => ?_)
                obtain rfl := Option.some.inj (hconnection.symm.trans hkept)
                cases hreceived : connection.received with
                | nil => simp
                | cons first others =>
                    exact absurd hquery (hqueries.tail packet (by simp [hreceived, hinbox]))
              · exact absurd hnone hne
          | false =>
              refine hroles.change hafter.others rfl (fun hne => ?_) ?_
              · refine ⟨_, rfl, ?_⟩
                obtain hsame | hregisters := hafter.kept rfl
                · have hold : world.broker.roleByFd.lookup fd ≠ none :=
                    fun hnone => hne ((congrArg _ hsame).trans hnone)
                  obtain ⟨kept, hkept, other, hmem, hregisters⟩ := hroles.role fd hold
                  obtain rfl := Option.some.inj (hconnection.symm.trans hkept)
                  exact ⟨other, by simp [hmem], hregisters⟩
                · exact ⟨packet, by simp, hregisters⟩
              · rintro _ ⟨⟩
                exact ⟨by simpa [hinbox] using hqueries.tail⟩

theorem step {action : Action} (hroles : RolesRegistered world)
    (hallowed : QueriesFirst world action)
    (hnext : network.next world action = some world') : RolesRegistered world' := by
  replace hnext : world.next action = some world' := hnext
  cases hrunning : world.exited with
  | some reason => simp [World.next, hrunning] at hnext
  | none =>
      cases action with
      | accept fd =>
          simp only [World.next, hrunning] at hnext
          split at hnext
          · cases hnext
          · obtain rfl := Option.some.inj hnext
            refine hroles.change (fun _ _ => rfl) rfl (fun hne => ?_)
              (by rintro _ ⟨⟩; exact ⟨by simp⟩)
            refine absurd (hroles.role_eq_none fun kept hkept => ?_) hne
            simp [hkept] at *
      | request fd packet =>
          simp only [World.next, hrunning, Option.bind_eq_some_iff] at hnext
          obtain ⟨connection, hconnection, hnext⟩ := hnext
          split at hnext
          · cases hnext
          · obtain rfl := Option.some.inj hnext
            have hqueries := hroles.queries fd connection hconnection
            refine hroles.change (fun _ _ => rfl) rfl (fun hne => ?_) ?_
            · obtain ⟨kept, hkept, hregistered⟩ := hroles.role fd hne
              obtain rfl := Option.some.inj (hconnection.symm.trans hkept)
              exact ⟨_, rfl, hregistered⟩
            · rintro _ ⟨⟩
              refine ⟨fun other hother hquery => ?_⟩
              rw [← List.append_assoc] at hother
              by_cases hempty : connection.received ++ connection.inbox = []
              · simp [hempty] at hother
              · rw [List.tail_append_of_ne_nil hempty, List.mem_append,
                  List.mem_singleton] at hother
                obtain hold | rfl := hother
                · exact hqueries.tail other hold hquery
                · exact hempty (hallowed hquery connection hconnection)
      | hangUp fd =>
          simp only [World.next, hrunning, Option.bind_eq_some_iff] at hnext
          obtain ⟨connection, hconnection, hnext⟩ := hnext
          split at hnext
          · cases hnext
          · obtain rfl := Option.some.inj hnext
            refine hroles.change (fun _ _ => rfl) rfl (fun hne => ?_) ?_
            · obtain ⟨kept, hkept, hregistered⟩ := hroles.role fd hne
              obtain rfl := Option.some.inj (hconnection.symm.trans hkept)
              exact ⟨_, rfl, hregistered⟩
            · rintro _ ⟨⟩
              exact ⟨(hroles.queries fd connection hconnection).tail⟩
      | receive fd env =>
          simp only [World.next, hrunning, Option.bind_eq_some_iff] at hnext
          obtain ⟨connection, hconnection, hnext⟩ := hnext
          exact hroles.receive hconnection hnext
      | receiveError fd env =>
          simp only [World.next, hrunning, Option.bind_eq_some_iff] at hnext
          obtain ⟨connection, -, hnext⟩ := hnext
          obtain rfl := Option.some.inj hnext
          exact hroles.settle_erase (handleReceiveError_roles env fd (.start world.broker))

end RolesRegistered

theorem rolesRegistered_of_reachable {world : World}
    (hreach : network.ReachableWith QueriesFirst world) : RolesRegistered world :=
  hreach.invariant RolesRegistered rolesRegistered_initial
    fun _ _ _ hroles hallowed hnext => hroles.step hallowed hnext

/-! ## The end of an unregistered connection -/

def World.Registered (world : World) (client : Fd) : Prop :=
  ∃ connection, world.connections client = some connection ∧
    ∃ packet ∈ connection.received, packet.Registers

/-- The end of a connection that concerns nobody else: the broker runs, it has released the
connection, and the entries of every registered client are as they were. -/
structure Harmless (world : World) (fd : Fd) (world' : World) : Prop where
  running : world'.exited = none
  released : world'.connections fd = none
  unchanged : ∀ client, world.Registered client → SameRows world.broker world'.broker client

/-- An earlier client of the descriptor has left a role behind together with all entries
that its removal looks up; the peers that are told of it accept their records, and none of
them is registered. -/
def World.HasRemains (world : World) (env : Env) (fd : Fd) : Prop :=
  (world.broker.roleByFd.lookup fd = some .subscriber ∧ ∃ held topics,
    SubscriberRows env world.broker fd held topics ∧
      ∀ attachment ∈ held, ¬world.Registered attachment.publisherFd) ∨
  (world.broker.roleByFd.lookup fd = some .publisher ∧ ∃ topicId,
    PublisherRows env world.broker fd topicId ∧
      ∀ subscriberFd ∈ world.broker.subscribersOf topicId, ¬world.Registered subscriberFd)

section Ends

variable {world : World} {env : Env} {fd : Fd} {clientFds : Finset Fd}

/-- Removing a subscriber's remains touches registered clients unless it finds none. -/
theorem subscriberRemains_iff (hunregistered : ¬world.Registered fd)
    (hrole : world.broker.roleByFd.lookup fd = some .subscriber) :
    Meets (handleSubsciberDisconect env fd (.start { world.broker with clientFds }))
      (fun after => (∀ client, world.Registered client →
        SameRows world.broker after.broker client) ↔ world.HasRemains env fd)
      fun _ => ¬world.HasRemains env fd := by
  refine (handleSubsciberDisconect_rows env fd { world.broker with clientFds }).mono ?_ ?_
  · rintro after ⟨held, topics, hrows, hafter⟩
    constructor
    · intro hsame
      refine .inl ⟨hrole, held, topics, ⟨hrows.attachments, hrows.topicIds, hrows.accepted,
        hrows.slots, hrows.listed⟩, fun attachment hmem hregistered => ?_⟩
      have hkept := hsame _ hregistered
      exact hafter.changed attachment hmem ⟨hkept.role, hkept.topicIds, hkept.attachments,
        hkept.shmFd, hkept.spaceEventFd, hkept.slots, hkept.subscriptions, hkept.publications⟩
    · rintro (⟨-, held', topics', hrows', hconcerned⟩ | ⟨hpublisher, -⟩) client hregistered
      · obtain rfl := Option.some.inj (hrows.attachments.symm.trans hrows'.attachments)
        have hkept := hafter.others client (fun heq => hunregistered (heq ▸ hregistered))
          fun hmem => by
            obtain ⟨attachment, hattachment, rfl⟩ := List.mem_map.mp hmem
            exact hconcerned attachment hattachment hregistered
        exact ⟨hkept.role, hkept.topicIds, hkept.attachments, hkept.shmFd, hkept.spaceEventFd,
          hkept.slots, hkept.subscriptions, hkept.publications⟩
      · cases hrole.symm.trans hpublisher
  · rintro reason hmissing (⟨-, held, topics, hrows, -⟩ | ⟨hpublisher, -⟩)
    · exact hmissing held topics ⟨hrows.attachments, hrows.topicIds, hrows.accepted,
        hrows.slots, hrows.listed⟩
    · cases hrole.symm.trans hpublisher

theorem publisherRemains_iff (hunregistered : ¬world.Registered fd)
    (hrole : world.broker.roleByFd.lookup fd = some .publisher) :
    Meets (handlePublisherDisconnect env fd (.start { world.broker with clientFds }))
      (fun after => (∀ client, world.Registered client →
        SameRows world.broker after.broker client) ↔ world.HasRemains env fd)
      fun _ => ¬world.HasRemains env fd := by
  refine (handlePublisherDisconnect_rows env fd { world.broker with clientFds }).mono ?_ ?_
  · rintro after ⟨topicId, hrows, hafter⟩
    constructor
    · intro hsame
      refine .inr ⟨hrole, topicId, ⟨hrows.shmFd, hrows.topic, hrows.slots, hrows.accepted,
        hrows.attached, hrows.spaceEventFd⟩, fun subscriberFd hmem hregistered => ?_⟩
      have hkept := hsame _ hregistered
      exact hafter.changed subscriberFd hmem ⟨hkept.role, hkept.topicIds, hkept.attachments,
        hkept.shmFd, hkept.spaceEventFd, hkept.slots, hkept.subscriptions, hkept.publications⟩
    · rintro (⟨hsubscriber, -⟩ | ⟨-, topicId', hrows', hconcerned⟩) client hregistered
      · cases hrole.symm.trans hsubscriber
      · obtain rfl := Option.some.inj (hrows.topic.symm.trans hrows'.topic)
        have hkept := hafter.others client (fun heq => hunregistered (heq ▸ hregistered))
          fun hmem => hconcerned client hmem hregistered
        exact ⟨hkept.role, hkept.topicIds, hkept.attachments, hkept.shmFd, hkept.spaceEventFd,
          hkept.slots, hkept.subscriptions, hkept.publications⟩
  · rintro reason hmissing (⟨hsubscriber, -⟩ | ⟨-, topicId, hrows, -⟩)
    · cases hrole.symm.trans hsubscriber
    · exact hmissing topicId ⟨hrows.shmFd, hrows.topic, hrows.slots, hrows.accepted,
        hrows.attached, hrows.spaceEventFd⟩

theorem not_hasRemains_of_role_eq_none (hrole : world.broker.roleByFd.lookup fd = none) :
    ¬world.HasRemains env fd := by
  rintro (⟨hsubscriber, -⟩ | ⟨hpublisher, -⟩)
  · cases hrole.symm.trans hsubscriber
  · cases hrole.symm.trans hpublisher

theorem handleClosure_remains (hunregistered : ¬world.Registered fd) :
    Meets (handleClosure env fd (.start world.broker))
      (fun after => (∀ client, world.Registered client →
        SameRows world.broker after.broker client) ↔ world.HasRemains env fd)
      fun _ => ¬world.HasRemains env fd := by
  refine Meets.bind (Meets.orStop (fun _ hfound => hfound) not_hasRemains_of_role_eq_none) ?_
  intro role hrole
  cases role with
  | subscriber => exact subscriberRemains_iff hunregistered hrole
  | publisher => exact publisherRemains_iff hunregistered hrole

theorem handleReceiveError_remains (hunregistered : ¬world.Registered fd) :
    Meets (handleReceiveError env fd (.start world.broker))
      (fun after => fd ∈ world.broker.clientFds ∧ ((∀ client, world.Registered client →
        SameRows world.broker after.broker client) ↔ world.HasRemains env fd))
      fun _ => ¬(fd ∈ world.broker.clientFds ∧ world.HasRemains env fd) := by
  refine Meets.bind (Meets.orStop (fun _ hfound => hfound)
    fun hrole hboth => not_hasRemains_of_role_eq_none hrole hboth.2) fun role hrole => ?_
  refine Meets.bind (Meets.require fun hnot hboth => hnot hboth.1) fun _ hmem => ?_
  cases role with
  | subscriber =>
      exact (subscriberRemains_iff hunregistered hrole).mono (fun _ hiff => ⟨hmem, hiff⟩)
        fun _ hnot hboth => hnot hboth.2
  | publisher =>
      exact (publisherRemains_iff hunregistered hrole).mono (fun _ hiff => ⟨hmem, hiff⟩)
        fun _ hnot hboth => hnot hboth.2

/-- A handler's result is harmless if it returns and has kept the registered entries. -/
theorem harmless_settle_iff {result : Except ExitReason Session} {Condition : Prop}
    (hrunning : world.exited = none)
    (hmeets : Meets result (fun after => (∀ client, world.Registered client →
      SameRows world.broker after.broker client) ↔ Condition) fun _ => ¬Condition) :
    Harmless world fd (world.settle fd none result) ↔ Condition := by
  cases result with
  | ok after =>
      refine ⟨fun hharmless => hmeets.mp hharmless.unchanged, fun hcondition =>
        ⟨hrunning, ?_, hmeets.mpr hcondition⟩⟩
      exact Function.update_self fd none world.connections
  | error reason =>
      exact ⟨fun hharmless => absurd hharmless.running (Option.some_ne_none _),
        fun hcondition => absurd hcondition hmeets⟩

end Ends

/-- In every state the end of a connection without a registration is harmless exactly if
an earlier client has left its remains under the descriptor; where clients query the
status with their first record only, it never is. -/
theorem unregistered_end_harmless_iff {world : World} (hrunning : world.exited = none)
    {fd : Fd} {connection : Connection} (hconnection : world.connections fd = some connection)
    (hunregistered : ∀ packet ∈ connection.received ++ connection.inbox, ¬packet.Registers)
    (env : Env) :
    (connection.inbox = [] → connection.peerClosed = true →
      ∃ world', network.next world (.receive fd env) = some world' ∧
        (Harmless world fd world' ↔ world.HasRemains env fd)) ∧
    (∃ world', network.next world (.receiveError fd env) = some world' ∧
      (Harmless world fd world' ↔ fd ∈ world.broker.clientFds ∧ world.HasRemains env fd)) ∧
    (network.ReachableWith QueriesFirst world → ¬world.HasRemains env fd) := by
  have hnot : ¬world.Registered fd := by
    rintro ⟨kept, hkept, packet, hmem, hregisters⟩
    obtain rfl := Option.some.inj (hconnection.symm.trans hkept)
    exact hunregistered packet (List.mem_append_left _ hmem) hregisters
  refine ⟨fun hinbox hclosed => ⟨_, ?_, harmless_settle_iff hrunning
    (handleClosure_remains hnot)⟩, ⟨world.settle fd none (handleReceiveError env fd
      (.start world.broker)), ?_, harmless_settle_iff hrunning ?_⟩, fun hreach => ?_⟩
  · change world.next (.receive fd env) = _
    simp only [World.next, hrunning, hconnection, Option.bind_some, World.receive, hinbox,
      hclosed, if_true]
  · change world.next (.receiveError fd env) = _
    simp only [World.next, hrunning, hconnection, Option.bind_some]
  · refine (handleReceiveError_remains hnot).mono (fun after hafter => ?_) fun _ => id
    exact hafter.2.trans ⟨fun hremains => ⟨hafter.1, hremains⟩, And.right⟩
  · refine not_hasRemains_of_role_eq_none
      ((rolesRegistered_of_reachable hreach).role_eq_none fun kept hkept packet hmem => ?_)
    obtain rfl := Option.some.inj (hconnection.symm.trans hkept)
    exact hunregistered packet (List.mem_append_left _ hmem)

/-- A client has connected, sent nothing and closed its end. -/
def abandoned : World :=
  (network.run World.initial [.accept 3, .hangUp 3]).getD World.initial

theorem abandoned_reachable : network.ReachableWith QueriesFirst abandoned :=
  .step (.step .initial (show QueriesFirst _ (.accept 3) from trivial) rfl)
    (show QueriesFirst _ (.hangUp 3) from trivial) rfl

def oneTopicRegistration : Request := .subscribe (.single 1)

/-- A subscriber has queried the status after its registration, and the next client of its
descriptor has closed its end. -/
def reused : World :=
  (network.run World.initial [.accept 3, .request 3 oneTopicRegistration.packet,
    .receive 3 .generous, .request 3 Request.statusQuery.packet, .receive 3 .generous,
    .accept 3, .hangUp 3]).getD World.initial

/-- The end of the abandoned connection is not harmless, the one of the reused descriptor
is. -/
theorem unregistered_end_harmless_iff_reused :
    (∃ world', network.next abandoned (.receive 3 .generous) = some world' ∧
      ¬Harmless abandoned 3 world') ∧
    reused.HasRemains .generous 3 ∧
      ∃ world', network.next reused (.receive 3 .generous) = some world' ∧
        Harmless reused 3 world' := by
  obtain ⟨hstops, -, hnever⟩ := unregistered_end_harmless_iff
    (show abandoned.exited = none from rfl)
    (show abandoned.connections 3 = some ⟨[], [], true⟩ from rfl) (by rintro _ ⟨⟩) .generous
  obtain ⟨world', hnext, hiff⟩ := hstops rfl rfl
  have hrows : reused.HasRemains .generous 3 := by
    refine .inl ⟨by decide +kernel, [], [1], ⟨by decide +kernel, by decide +kernel, by simp,
      by simp, fun topicId => ?_⟩, by simp⟩
    by_cases htopic : topicId = 1
    · subst htopic
      decide +kernel
    · rw [List.count_eq_zero_of_not_mem (by simpa using htopic)]
      exact Nat.zero_le _
  obtain ⟨hsurvives, -⟩ := unregistered_end_harmless_iff
    (show reused.exited = none by decide +kernel)
    (show reused.connections 3 = some ⟨[], [], true⟩ by decide +kernel) (by rintro _ ⟨⟩) .generous
  obtain ⟨after, hafter, hharmless⟩ := hsurvives rfl rfl
  exact ⟨⟨world', hnext, fun hharmless => hnever abandoned_reachable (hiff.mp hharmless)⟩,
    hrows, after, hafter, hharmless.mpr hrows⟩

/-- The closure of an abandoned connection is not harmless. -/
theorem abandoned_connection_not_harmless :
    ¬∀ world fd connection env world', network.ReachableWith QueriesFirst world →
      world.exited = none → world.connections fd = some connection →
      (∀ packet ∈ connection.received ++ connection.inbox, ¬packet.Registers) →
      connection.inbox = [] → network.next world (.receive fd env) = some world' →
      Harmless world fd world' := by
  intro hclaim
  have hharmless := hclaim abandoned 3 ⟨[], [], true⟩ .generous _ abandoned_reachable rfl rfl
    (by rintro _ ⟨⟩) rfl rfl
  exact absurd hharmless.running (by decide +kernel)

end DriveBus.ControlPlane
