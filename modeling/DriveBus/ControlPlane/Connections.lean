import DriveBus.ControlPlane.Wire

/-!
# What a step does to the connections

An event closes the connection that it is about or takes the registration of its client,
and nothing is sent on a connection that a registered client leaves.  A step that is not
an event leaves the members as they are.
-/

namespace DriveBus.ControlPlane

open DriveBus.Contract DriveBus.Transition

/-- The records of a connection, received or not. -/
def Connection.packets (connection : Connection) : List Packet :=
  connection.received ++ connection.inbox

section Steps

variable {world world' : World} {action : Action} {fd : Fd}

/-- A step without an event opens a connection, or adds to the records of some. -/
theorem World.connections_of_quiet (hevent : action.event = none)
    (hnext : world.next action = some world') {connection' : Connection}
    (hconnection' : world'.connections fd = some connection') :
    (action = .accept fd ∧ connection' = ⟨[], [], false⟩) ∨
    ∃ connection, world.connections fd = some connection ∧
      connection'.received = connection.received ∧
      ∀ packet ∈ connection'.packets, packet ∈ connection.packets ∨
        action = .request fd packet := by
  have hrunning := World.running_of_next hnext
  cases action with
  | accept other =>
      simp only [World.next, hrunning] at hnext
      split at hnext
      · cases hnext
      · obtain rfl := Option.some.inj hnext
        by_cases hfd : fd = other
        · subst hfd
          simp only [World.setConnection, Function.update_self, Option.some.injEq]
            at hconnection'
          exact .inl ⟨rfl, hconnection'.symm⟩
        · simp only [World.setConnection, Function.update_of_ne hfd] at hconnection'
          exact .inr ⟨connection', hconnection', rfl, fun _ hmem => .inl hmem⟩
  | request other packet =>
      simp only [World.next, hrunning, Option.bind_eq_some_iff] at hnext
      obtain ⟨connection, hconnection, hnext⟩ := hnext
      split at hnext
      · cases hnext
      · obtain rfl := Option.some.inj hnext
        by_cases hfd : fd = other
        · subst hfd
          simp only [World.setConnection, Function.update_self, Option.some.injEq]
            at hconnection'
          subst hconnection'
          refine .inr ⟨connection, hconnection, rfl, fun added hmem => ?_⟩
          simp only [Connection.packets, ← List.append_assoc, List.mem_append,
            List.mem_singleton] at hmem ⊢
          exact hmem.imp_right fun hadded => by rw [hadded]
        · simp only [World.setConnection, Function.update_of_ne hfd] at hconnection'
          exact .inr ⟨connection', hconnection', rfl, fun _ hmem => .inl hmem⟩
  | hangUp other =>
      simp only [World.next, hrunning, Option.bind_eq_some_iff] at hnext
      obtain ⟨connection, hconnection, hnext⟩ := hnext
      split at hnext
      · cases hnext
      · obtain rfl := Option.some.inj hnext
        by_cases hfd : fd = other
        · subst hfd
          simp only [World.setConnection, Function.update_self, Option.some.injEq]
            at hconnection'
          subst hconnection'
          exact .inr ⟨connection, hconnection, rfl, fun _ hmem => .inl hmem⟩
        · simp only [World.setConnection, Function.update_of_ne hfd] at hconnection'
          exact .inr ⟨connection', hconnection', rfl, fun _ hmem => .inl hmem⟩
  | receive fd env => cases hevent
  | receiveError fd env => cases hevent

theorem World.connections_of_accept (hnext : world.next (.accept fd) = some world') :
    world.connections fd = none ∧
      world'.connections = Function.update world.connections fd (some ⟨[], [], false⟩) := by
  simp only [World.next, World.running_of_next hnext] at hnext
  split at hnext
  · cases hnext
  next hnone =>
    obtain rfl := Option.some.inj hnext
    exact ⟨hnone, rfl⟩

/-- A step without an event registers nobody and lets nobody go. -/
theorem World.members_of_quiet (hevent : action.event = none)
    (hnext : world.next action = some world') : world'.members = world.members := by
  have hrunning := World.running_of_next hnext
  cases action with
  | accept other =>
      simp only [World.next, hrunning] at hnext
      split at hnext
      · cases hnext
      next hnone =>
        obtain rfl := Option.some.inj hnext
        change (world.setConnection other _).members = _
        rw [members_setConnection, Function.update_eq_self_iff, World.members, hnone]
        rfl
  | request other packet =>
      simp only [World.next, hrunning, Option.bind_eq_some_iff] at hnext
      obtain ⟨connection, hconnection, hnext⟩ := hnext
      split at hnext
      · cases hnext
      · obtain rfl := Option.some.inj hnext
        exact members_setConnection_of_received hconnection rfl
  | hangUp other =>
      simp only [World.next, hrunning, Option.bind_eq_some_iff] at hnext
      obtain ⟨connection, hconnection, hnext⟩ := hnext
      split at hnext
      · cases hnext
      · obtain rfl := Option.some.inj hnext
        exact members_setConnection_of_received hconnection rfl
  | receive fd env => cases hevent
  | receiveError fd env => cases hevent

/-- The step sends nothing and registers nobody, and adds no records but those that a
client sends. -/
structure Quiet (world : World) (action : Action) (world' : World) : Prop where
  sent : world'.sent = world.sent
  book : world'.broker.attachmentBook = world.broker.attachmentBook
  members : world'.members = world.members
  connections : ∀ fd connection', world'.connections fd = some connection' →
    ∃ connection, world.connections fd = some connection ∧
      ∀ packet ∈ connection'.packets, packet ∈ connection.packets ∨
        action = .request fd packet

/-- A step either handles an event or is quiet. -/
theorem World.quiet_or_event (hopens : ∀ fd, action ≠ .accept fd)
    (hnext : world.next action = some world') :
    Quiet world action world' ∨ ∃ fd, action.event = some fd ∧ world'.exited = none := by
  cases hexited : world'.exited with
  | some reason =>
      obtain rfl := World.exited_of_next hnext hexited
      exact .inl ⟨rfl, rfl, rfl, fun fd connection' hconnection' =>
        ⟨connection', hconnection', fun _ hmem => .inl hmem⟩⟩
  | none =>
      cases hevent : action.event with
      | some fd => exact .inr ⟨fd, rfl, rfl⟩
      | none =>
          obtain ⟨hsent, hbook⟩ := World.quiet_of_next hevent hnext
          refine .inl ⟨hsent, hbook, World.members_of_quiet hevent hnext,
            fun fd connection' hconnection' => ?_⟩
          obtain ⟨haccept, -⟩ | ⟨connection, hconnection, -, hpackets⟩ :=
            World.connections_of_quiet hevent hnext hconnection'
          · exact absurd haccept (hopens fd)
          · exact ⟨connection, hconnection, hpackets⟩

/-- A registration that does not stop the broker leaves its connection open. -/
theorem handleRecord_stays {env : Env} {session after : Session} {request : Request}
    {closed : Bool} (hmember : request.member ≠ none)
    (hok : handleRecord env fd request.packet session = .ok (after, closed)) :
    closed = false := by
  cases request with
  | statusQuery => exact absurd rfl hmember
  | subscribe topics =>
      rw [handleRecord_subscribe] at hok
      cases hregister : registerSubscriber env fd topics.topicIds session with
      | error reason =>
          rw [hregister] at hok
          cases hok
      | ok registered =>
          rw [hregister] at hok
          exact (congrArg Prod.snd (Except.ok.inj hok)).symm
  | publish topicId shmFd spaceAvailableEventFd =>
      rw [handleRecord_publish] at hok
      cases hregister : registerPublisher env fd topicId shmFd spaceAvailableEventFd
          session with
      | error reason =>
          rw [hregister] at hok
          cases hok
      | ok registered =>
          rw [hregister] at hok
          exact (congrArg Prod.snd (Except.ok.inj hok)).symm

/-- What an event does to the connection that it is about: the connection of a member
is closed, or that of a client that did not ask to be one, or it stays open with its
record received. -/
structure EventOutcome (world : World) (fd : Fd) (world' : World)
    (connection : Connection) : Prop where
  before : world.connections fd = some connection
  closed : world'.connections fd = none →
    world.members fd ≠ none ∨ ∃ packet ∈ connection.packets, packet.member = none
  kept : ∀ kept, world'.connections fd = some kept →
    kept.packets = connection.packets ∧ kept.received ≠ []

theorem World.connections_of_settle {connection : Option Connection}
    {result : Except ExitReason Session}
    (hrunning' : (world.settle fd connection result).exited = none) :
    (∃ session, result = .ok session) ∧
      (world.settle fd connection result).connections =
        Function.update world.connections fd connection := by
  cases result with
  | error reason => cases hrunning'
  | ok session => exact ⟨⟨session, rfl⟩, rfl⟩

theorem EventOutcome.of_left {connection : Connection}
    {result : Except ExitReason Session}
    (hconnection : world.connections fd = some connection)
    (hfresh : world.members fd = none → ∃ reason, result = .error reason)
    (hrunning' : (world.settle fd none result).exited = none) :
    EventOutcome world fd (world.settle fd none result) connection := by
  obtain ⟨⟨session, rfl⟩, hconnections⟩ := World.connections_of_settle hrunning'
  refine ⟨hconnection, fun _ => .inl fun hnone => ?_, fun kept hkept => ?_⟩
  · obtain ⟨reason, herror⟩ := hfresh hnone
    cases herror
  · rw [hconnections, Function.update_self] at hkept
    cases hkept

theorem Consistent.eventOutcome (hconsistent : Consistent world)
    (hevent : action.event = some fd) (hnext : world.next action = some world')
    (hrunning' : world'.exited = none) :
    ∃ connection, EventOutcome world fd world' connection := by
  have hrunning := World.running_of_next hnext
  have hroutes : Routes (Session.start world.broker).broker world.members :=
    hconsistent.routes
  cases action with
  | accept fd => cases hevent
  | request fd packet => cases hevent
  | hangUp fd => cases hevent
  | receive fd' env =>
      obtain rfl : fd' = fd := Option.some.inj hevent
      simp only [World.next, hrunning, Option.bind_eq_some_iff] at hnext
      obtain ⟨connection, hconnection, hnext⟩ := hnext
      refine ⟨connection, ?_⟩
      cases hinbox : connection.inbox with
      | nil =>
          rw [World.receive, hinbox] at hnext
          dsimp only at hnext
          split at hnext
          · obtain rfl := Option.some.inj hnext
            exact .of_left hconnection
              (fun hfresh => ⟨_, handleClosure_unregistered hroutes hfresh⟩) hrunning'
          · cases hnext
      | cons packet rest =>
          obtain ⟨hreceived, rfl, request, rfl⟩ :=
            (hconsistent.plain fd' connection hconnection).split hinbox
          have hpackets : connection.packets = [request.packet] := by
            rw [Connection.packets, hreceived, hinbox, List.nil_append]
          have hfresh : world.members fd' = none := by
            rw [members_eq hconnection, Connection.member, hreceived]
            rfl
          rw [World.receive, hinbox] at hnext
          obtain rfl := Option.some.inj hnext
          cases hrecord : handleRecord env fd' request.packet (.start world.broker) with
          | error reason =>
              rw [hrecord] at hrunning'
              cases hrunning'
          | ok result =>
              obtain ⟨session, closed⟩ := result
              rw [hrecord] at hrunning'
              obtain ⟨-, hconnections⟩ := World.connections_of_settle hrunning'
              refine ⟨hconnection, fun hnone => .inr ⟨request.packet, by simp [hpackets], ?_⟩,
                fun kept hkept => ?_⟩
              · by_contra hmember
                rw [Request.member_packet] at hmember
                obtain rfl := handleRecord_stays hmember hrecord
                rw [hconnections, Function.update_self] at hnone
                cases hnone
              · rw [hconnections, Function.update_self] at hkept
                cases closed with
                | true => cases hkept
                | false =>
                    obtain rfl := Option.some.inj hkept
                    simp [Connection.packets, hreceived, hinbox]
  | receiveError fd' env =>
      obtain rfl : fd' = fd := Option.some.inj hevent
      simp only [World.next, hrunning, Option.bind_eq_some_iff] at hnext
      obtain ⟨connection, hconnection, hnext⟩ := hnext
      obtain rfl := Option.some.inj hnext
      exact ⟨connection, .of_left hconnection
        (fun hfresh => ⟨_, handleReceiveError_unregistered hroutes hfresh⟩) hrunning'⟩

/-! ## What is sent -/

/-- A member that leaves is told nothing more. -/
theorem Transcript.silent {before : Broker} {members members' : Members} {after : Session}
    (htranscript : Transcript before members fd after members')
    (hroutes : Routes before members) (hmember : members fd ≠ none) :
    recordsTo fd after.sent = [] := by
  cases htranscript with
  | answered hfresh hsent hbook => exact absurd hfresh hmember
  | subscriberLeft hmember hsent hattachments hnext =>
      have htopic : members.topic fd = none := by
        rw [Members.topic, hmember]
        rfl
      have hnone : attachmentsTo fd (before.attachmentsOf fd) = [] :=
        List.filter_eq_nil_iff.mpr fun attachment hmem => by
          simpa using hroutes.publisherFd_ne htopic hmem
      rw [hsent, recordsTo_disconnectNotice, hnone, List.map_nil]
  | @publisherLeft topicId detached hmember hsent hpublisher hattachments hnext =>
      have hnone : before.attachmentsOf fd = [] :=
        hroutes.attachmentsOf_eq_nil (by rw [hmember]; rfl)
      have hdetached := hattachments fd
      rw [hnone, Multiset.coe_add, Multiset.coe_eq_coe] at hdetached
      rw [hsent, recordsTo_detachmentNotice,
        (List.append_eq_nil_iff.mp hdetached.eq_nil).2, List.map_nil]
  | subscriberJoined hfresh => exact absurd hfresh hmember
  | publisherJoined hfresh => exact absurd hfresh hmember

end Steps

/-- Every record that the broker sends fits its encoding. -/
theorem encodable_of_reachable {world : World}
    (hreach : network.ReachableWith SendsOneRecord world) :
    ∀ record ∈ world.sent, record.2.Encodable := by
  have hboth := hreach.invariant (fun world => Consistent world ∧ IdsDelivered world ∧
    ∀ record ∈ world.sent, record.2.Encodable)
    ⟨consistent_initial, idsDelivered_initial, fun _ hmem => absurd hmem List.not_mem_nil⟩ ?_
  · exact hboth.2.2
  rintro world action world' ⟨hconsistent, hids, hencodable⟩ hallowed hnext
  have hconsistent' := (hconsistent.step hallowed hnext).2.1
  refine ⟨hconsistent', hids.step hconsistent hnext, ?_⟩
  cases hexited : world'.exited with
  | some reason =>
      rw [World.exited_of_next hnext hexited]
      exact hencodable
  | none =>
      cases hevent : action.event with
      | none => rwa [(World.quiet_of_next hevent hnext).1]
      | some fd =>
          obtain ⟨session, htranscript, connection, rfl⟩ :=
            hconsistent.happened hids.bounded hevent hnext hexited
          intro record hmem
          rcases List.mem_append.mp hmem with hold | hnew
          · exact hencodable record hold
          · exact htranscript.encodable hconsistent.routes hconsistent'.routes hids.issued
              hids.bounded record hnew

end DriveBus.ControlPlane
