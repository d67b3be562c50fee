import DriveBus.ControlPlane.Requests

/-!
# Runs of the broker

The invariant of every run whose clients send one record each: the maps describe
exactly the clients that are connected and registered.  Each action of the network
preserves it, and a handler stops only for want of resources or because a
connection ended that never registered.
-/

namespace DriveBus.ControlPlane

open DriveBus.Contract DriveBus.Transition

/-! ## The invariant -/

/-- A connection on which the client has sent at most one record; a record that has
been received and did not end the connection registered it. -/
structure Connection.Plain (connection : Connection) : Prop where
  single : (connection.received ++ connection.inbox).length ≤ 1
  requests : ∀ packet ∈ connection.received ++ connection.inbox,
    ∃ request : Request, packet = request.packet
  registered : ∀ packet ∈ connection.received, packet.member ≠ none

structure Consistent (world : World) : Prop where
  routes : Routes world.broker world.members
  plain : ∀ fd connection, world.connections fd = some connection → connection.Plain
  clients : ∀ fd, world.connections fd ≠ none → fd ∈ world.broker.clientFds

/-- What a connection registers its descriptor as. -/
def Connection.member (connection : Connection) : Option Member :=
  connection.received.head?.bind Packet.member

theorem members_setConnection (world : World) (fd : Fd) (connection : Option Connection) :
    (world.setConnection fd connection).members =
      Function.update world.members fd (connection.bind Connection.member) := by
  funext other
  by_cases hother : other = fd
  · subst hother
    simp only [World.members, World.setConnection, Function.update_self]
    rfl
  · simp [World.members, World.setConnection, hother]

theorem members_eq {world : World} {fd : Fd} {connection : Connection}
    (hconnection : world.connections fd = some connection) :
    world.members fd = connection.member := by
  rw [World.members, hconnection]
  rfl

/-- Only the records received matter to the membership. -/
theorem members_setConnection_of_received {world : World} {fd : Fd}
    {connection connection' : Connection}
    (hconnection : world.connections fd = some connection)
    (hreceived : connection'.received = connection.received) :
    (world.setConnection fd (some connection')).members = world.members := by
  rw [members_setConnection, Option.bind_some, Connection.member, hreceived,
    ← Connection.member, ← members_eq hconnection, Function.update_eq_self]

theorem consistent_initial : Consistent World.initial where
  routes := routes_initial
  plain _ _ hconnection := by cases hconnection
  clients _ hne := absurd rfl hne

/-! ## Handling an event -/

/-- What a step that handles an event of `fd` leads to. -/
structure Handles (world : World) (fd : Fd) (stop : ExitReason → Prop)
    (world' : World) : Prop where
  consistent : Consistent world'
  notified : world'.exited = none → ∃ sent, world'.sent = world.sent ++ sent ∧
    Notified world.broker world'.broker fd sent
  stopped : ∀ reason, world'.exited = some reason → stop reason

theorem Handles.mono {world world' : World} {fd : Fd} {stop weaker : ExitReason → Prop}
    (hhandles : Handles world fd stop world')
    (hstop : ∀ reason, stop reason → weaker reason) : Handles world fd weaker world' where
  consistent := hhandles.consistent
  notified := hhandles.notified
  stopped reason hexited := hstop reason (hhandles.stopped reason hexited)

theorem Consistent.settle {world : World} (hconsistent : Consistent world)
    (hrunning : world.exited = none) {fd : Fd} {connection : Option Connection}
    {members : Members} {result : Except ExitReason Session} {stop : ExitReason → Prop}
    (hconnected : world.connections fd ≠ none)
    (hmembers : (world.setConnection fd connection).members = members)
    (hplain : ∀ kept, connection = some kept → kept.Plain ∧ members fd ≠ none)
    (hmeets : Meets result (Attended world.broker fd members) stop) :
    Handles world fd stop (world.settle fd connection result) := by
  cases result with
  | error reason =>
      refine ⟨⟨hconsistent.routes, hconsistent.plain, hconsistent.clients⟩, ?_, ?_⟩
      · rintro ⟨⟩
      · rintro _ ⟨⟩
        exact hmeets
  | ok session =>
      have hattended : Attended world.broker fd members session := hmeets
      refine ⟨⟨?_, ?_, ?_⟩, ?_, ?_⟩
      · exact (show (world.settle fd connection (.ok session)).members = members from
          hmembers) ▸ hattended.routes
      · intro other kept hkept
        by_cases hother : other = fd
        · subst hother
          exact (hplain kept (by simpa [World.settle, World.setConnection] using hkept)).1
        · refine hconsistent.plain other kept ?_
          simpa [World.settle, World.setConnection, hother] using hkept
      · intro other hne
        by_cases hother : other = fd
        · subst hother
          refine hattended.stays (hconsistent.clients other hconnected) ?_
          obtain ⟨kept, hkept⟩ := Option.ne_none_iff_exists'.mp hne
          exact (hplain kept (by simpa [World.settle, World.setConnection] using hkept)).2
        · refine hattended.others other (hconsistent.clients other ?_) hother
          simpa [World.settle, World.setConnection, hother] using hne
      · exact fun _ => ⟨session.sent, rfl, hattended.notified⟩
      · intro reason hreason
        rw [World.settle] at hreason
        rw [show world.exited = some reason from hreason] at hrunning
        cases hrunning

/-! ## The peers due a notification -/

/-- The peers of the records that handling the next event of a connection owes. -/
def World.due (world : World) (fd : Fd) : List Fd :=
  match world.connections fd with
  | none => []
  | some connection =>
      match connection.inbox with
      | packet :: _ => (packet.member.map (world.broker.registrationDue fd)).getD []
      | [] => world.broker.departureDue fd

/-- Why handling an event may stop the broker: for want of resources, or because a
connection that never registered has come to its end. -/
def World.MayStop (world : World) : Action → ExitReason → Prop
  | .receive fd env, reason =>
      Excused env world.broker.nextAttachmentId (world.due fd) reason ∨
        reason = .brokerClosedFdRoleMissing ∧ ∃ connection,
          world.connections fd = some connection ∧
            connection.received ++ connection.inbox = []
  | .receiveError fd env, reason =>
      Excused env world.broker.nextAttachmentId (world.due fd) reason ∨
        reason = .brokerRecvFdRoleMissing ∧ ∃ connection,
          world.connections fd = some connection ∧ connection.received = []
  | _, _ => False

theorem Connection.Plain.split {connection : Connection} (hplain : connection.Plain)
    {packet : Packet} {rest : List Packet} (hinbox : connection.inbox = packet :: rest) :
    connection.received = [] ∧ rest = [] ∧ ∃ request : Request, packet = request.packet := by
  have hsingle := hplain.single
  rw [List.length_append, hinbox, List.length_cons] at hsingle
  exact ⟨List.length_eq_zero_iff.mp (by omega), List.length_eq_zero_iff.mp (by omega),
    hplain.requests packet (by simp [hinbox])⟩

/-- A record that was received and left the connection open has registered it. -/
theorem Connection.Plain.received_eq_nil {connection : Connection}
    (hplain : connection.Plain) (hmember : connection.member = none) :
    connection.received = [] := by
  cases hreceived : connection.received with
  | nil => rfl
  | cons packet rest =>
      rw [Connection.member, hreceived] at hmember
      exact absurd hmember (hplain.registered packet (by simp [hreceived]))

/-- A closure of a connection that never registered has no role to look up. -/
theorem handleClosure_unregistered {env : Env} {session : Session} {members : Members}
    {fd : Fd} (hroutes : Routes session.broker members) (hfresh : members fd = none) :
    handleClosure env fd session = .error .brokerClosedFdRoleMissing := by
  rw [handleClosure, hroutes.role, hfresh]
  rfl

theorem handleReceiveError_unregistered {env : Env} {session : Session}
    {members : Members} {fd : Fd} (hroutes : Routes session.broker members)
    (hfresh : members fd = none) :
    handleReceiveError env fd session = .error .brokerRecvFdRoleMissing := by
  rw [handleReceiveError, hroutes.role, hfresh]
  rfl

theorem Consistent.receive {world world' : World} (hconsistent : Consistent world)
    (hrunning : world.exited = none) {fd : Fd} {env : Env} {connection : Connection}
    (hconnection : world.connections fd = some connection)
    (hnext : world.receive fd connection env = some world') :
    Handles world fd (fun reason => FitsCapacity world (.receive fd env) →
      world.MayStop (.receive fd env) reason) world' := by
  have hconnected : world.connections fd ≠ none := by simp [hconnection]
  have hplain := hconsistent.plain fd connection hconnection
  have hmembers := members_eq hconnection
  cases hinbox : connection.inbox with
  | nil =>
      have hdue : world.due fd = world.broker.departureDue fd := by
        rw [World.due, hconnection]
        simp only [hinbox]
      rw [World.receive, hinbox] at hnext
      dsimp only at hnext
      split at hnext
      · obtain rfl := Option.some.inj hnext
        refine hconsistent.settle hrunning hconnected
          (members_setConnection world fd none) (by rintro _ ⟨⟩) ?_
        cases hmember : world.members fd with
        | none =>
            rw [handleClosure_unregistered hconsistent.routes hmember]
            refine .error fun _ => .inr ⟨rfl, connection, hconnection, ?_⟩
            rw [hinbox, hplain.received_eq_nil (hmembers ▸ hmember)]
            rfl
        | some member =>
            have hclosure : Meets (handleClosure env fd (.start world.broker)) _ _ :=
              handleClosure_meets hconsistent.routes rfl hmember
                world.broker.nextAttachmentId
            refine hclosure.mono (fun _ hattended => hattended) fun _ hexcused _ => ?_
            exact .inl (hdue ▸ hexcused)
      · cases hnext
  | cons packet rest =>
      obtain ⟨hreceived, rfl, request, rfl⟩ := hplain.split hinbox
      have hfresh : world.members fd = none := by
        rw [hmembers, Connection.member, hreceived]
        rfl
      have hdue : world.due fd =
          (request.member.map (world.broker.registrationDue fd)).getD [] := by
        rw [World.due, hconnection]
        simp only [hinbox, Request.member_packet]
      rw [World.receive, hinbox] at hnext
      obtain rfl := Option.some.inj hnext
      cases hmember : request.member with
      | none =>
          cases request with
          | subscribe topics => cases hmember
          | publish topicId shmFd spaceAvailableEventFd => cases hmember
          | statusQuery =>
              have hroutes : Routes (Session.start world.broker).broker world.members :=
                hconsistent.routes
              have hattended : Attended world.broker fd (world.members.leave fd)
                  (handleStatusQuery env fd (.start world.broker)) :=
                handleStatusQuery_attended hroutes hfresh
              rw [handleRecord_statusQuery]
              exact hconsistent.settle hrunning hconnected
                (members_setConnection world fd none) (by rintro _ ⟨⟩) (.ok hattended)
      | some member =>
          have hpacket : request.packet.member = some member := by
            rw [Request.member_packet, hmember]
          have hregister : Meets
              (handleRecord env fd request.packet (.start world.broker)) _ _ :=
            register_meets hconsistent.routes rfl hfresh hmember
          have hjoin : (world.setConnection fd (some { connection with
              received := connection.received ++ [request.packet]
              inbox := [] })).members = world.members.join fd member := by
            rw [members_setConnection, Option.bind_some, Connection.member, hreceived,
              List.nil_append, List.head?_cons, Option.bind_some, hpacket]
            rfl
          have hkept : ∀ kept, some { connection with
              received := connection.received ++ [request.packet]
              inbox := [] } = some kept →
                kept.Plain ∧ world.members.join fd member fd ≠ none := by
            rintro kept ⟨⟩
            refine ⟨⟨?_, ?_, ?_⟩, by simp [Members.join]⟩
            · simp [hreceived]
            · simp [hreceived]
            · simp [hreceived, hmember]
          cases hresult : handleRecord env fd request.packet (.start world.broker) with
          | error reason =>
              have hobstructed := hregister.of_error hresult
              refine hconsistent.settle hrunning hconnected hjoin hkept
                (.error fun hcapacity => .inl ?_)
              rw [hdue, hmember]
              exact hobstructed.resolve_left fun hlimit => hlimit.1
                (hcapacity connection _ _ hconnection hinbox member hpacket)
          | ok result =>
              obtain ⟨session, closed⟩ := result
              obtain ⟨hattended, rfl⟩ := hregister.of_ok hresult
              exact hconsistent.settle hrunning hconnected hjoin hkept (.ok hattended)

theorem Consistent.receiveError {world : World} (hconsistent : Consistent world)
    (hrunning : world.exited = none) {fd : Fd} {env : Env} {connection : Connection}
    (hconnection : world.connections fd = some connection) :
    Handles world fd (world.MayStop (.receiveError fd env))
      (world.settle fd none (handleReceiveError env fd (.start world.broker))) := by
  have hconnected : world.connections fd ≠ none := by simp [hconnection]
  have hplain := hconsistent.plain fd connection hconnection
  refine hconsistent.settle hrunning hconnected (members_setConnection world fd none)
    (by rintro _ ⟨⟩) ?_
  cases hmember : world.members fd with
  | none =>
      rw [handleReceiveError_unregistered hconsistent.routes hmember]
      exact .error (.inr ⟨rfl, connection, hconnection,
        hplain.received_eq_nil (members_eq hconnection ▸ hmember)⟩)
  | some member =>
      -- A registered client has nothing more to send.
      have hdue : world.due fd = world.broker.departureDue fd := by
        rw [members_eq hconnection, Connection.member] at hmember
        rw [World.due, hconnection]
        cases hinbox : connection.inbox with
        | nil => simp only [hinbox]
        | cons packet rest => simp [(hplain.split hinbox).1] at hmember
      have herror : Meets (handleReceiveError env fd (.start world.broker)) _ _ :=
        handleReceiveError_meets hconsistent.routes rfl hmember
          (hconsistent.clients fd hconnected) world.broker.nextAttachmentId
      refine herror.mono (fun _ hattended => hattended) fun _ hexcused => ?_
      exact .inl (hdue ▸ hexcused)

/-! ## Steps -/

theorem Connection.Plain.request {connection : Connection} {request : Request}
    (hempty : connection.received ++ connection.inbox = []) :
    Connection.Plain { connection with inbox := connection.inbox ++ [request.packet] } := by
  obtain ⟨hreceived, hinbox⟩ := List.append_eq_nil_iff.mp hempty
  exact ⟨by simp [hreceived, hinbox], by simp [hreceived, hinbox], by simp [hreceived]⟩

/-- Changing a connection without receiving on it. -/
theorem Consistent.setConnection {world : World} (hconsistent : Consistent world)
    {fd : Fd} {connection connection' : Connection}
    (hconnection : world.connections fd = some connection)
    (hreceived : connection'.received = connection.received) (hplain : connection'.Plain) :
    Consistent (world.setConnection fd (some connection')) where
  routes := by
    rw [members_setConnection_of_received hconnection hreceived]
    exact hconsistent.routes
  plain := by
    intro other kept hkept
    by_cases hother : other = fd
    · subst hother
      simp only [World.setConnection, Function.update_self, Option.some.injEq] at hkept
      exact hkept ▸ hplain
    · refine hconsistent.plain other kept ?_
      simpa [World.setConnection, hother] using hkept
  clients := by
    intro other hne
    by_cases hother : other = fd
    · exact hother ▸ hconsistent.clients fd (by simp [hconnection])
    · refine hconsistent.clients other ?_
      simpa [World.setConnection, hother] using hne

theorem Consistent.accept {world : World} (hconsistent : Consistent world) {fd : Fd}
    (hnew : world.connections fd = none) :
    Consistent { world.setConnection fd (some ⟨[], [], false⟩) with
      broker := { world.broker with clientFds := insert fd world.broker.clientFds } } where
  routes := by
    have hmembers : (world.setConnection fd (some ⟨[], [], false⟩)).members =
        world.members := by
      rw [members_setConnection, Function.update_eq_self_iff, World.members, hnew]
      rfl
    exact hmembers ▸ hconsistent.routes.withClientFds _
  plain := by
    intro other kept hkept
    by_cases hother : other = fd
    · subst hother
      simp only [World.setConnection, Function.update_self, Option.some.injEq] at hkept
      subst hkept
      exact ⟨by simp, by simp, by simp⟩
    · refine hconsistent.plain other kept ?_
      simpa [World.setConnection, hother] using hkept
  clients := by
    intro other hne
    by_cases hother : other = fd
    · exact hother ▸ Finset.mem_insert_self _ _
    · refine Finset.mem_insert_of_mem (hconsistent.clients other ?_)
      simpa [World.setConnection, hother] using hne

/-- The descriptor whose event an action handles. -/
def Action.event : Action → Option Fd
  | .receive fd _ => some fd
  | .receiveError fd _ => some fd
  | _ => none

/-- What every step leads to. -/
theorem Consistent.step {world world' : World} {action : Action}
    (hconsistent : Consistent world) (hallowed : SendsOneRecord world action)
    (hnext : network.next world action = some world') :
    world.exited = none ∧ Consistent world' ∧
      (∀ reason, world'.exited = some reason → FitsCapacity world action →
        world.MayStop action reason) ∧
      ∀ fd, action.event = some fd → Handles world fd
        (fun reason => FitsCapacity world action → world.MayStop action reason) world' := by
  replace hnext : world.next action = some world' := hnext
  have hrunning : world.exited = none := by
    cases hexited : world.exited with
    | none => rfl
    | some reason => simp [World.next, hexited] at hnext
  have hnone : ∀ reason, world.exited = some reason → FitsCapacity world action →
      world.MayStop action reason := by
    intro reason hexited
    rw [hrunning] at hexited
    cases hexited
  refine ⟨hrunning, ?_⟩
  cases action with
  | accept fd =>
      simp only [World.next, hrunning] at hnext
      split at hnext
      · cases hnext
      · obtain rfl := Option.some.inj hnext
        exact ⟨hconsistent.accept ‹_›, hnone, by rintro _ ⟨⟩⟩
  | request fd packet =>
      simp only [World.next, hrunning, Option.bind_eq_some_iff] at hnext
      obtain ⟨connection, hconnection, hnext⟩ := hnext
      obtain ⟨hempty, request, rfl⟩ := hallowed connection hconnection
      split at hnext
      · cases hnext
      · obtain rfl := Option.some.inj hnext
        exact ⟨hconsistent.setConnection hconnection rfl (.request hempty), hnone,
          by rintro _ ⟨⟩⟩
  | hangUp fd =>
      simp only [World.next, hrunning, Option.bind_eq_some_iff] at hnext
      obtain ⟨connection, hconnection, hnext⟩ := hnext
      have hplain := hconsistent.plain fd connection hconnection
      split at hnext
      · cases hnext
      · obtain rfl := Option.some.inj hnext
        exact ⟨hconsistent.setConnection hconnection rfl
          ⟨hplain.single, hplain.requests, hplain.registered⟩, hnone, by rintro _ ⟨⟩⟩
  | receive fd env =>
      simp only [World.next, hrunning, Option.bind_eq_some_iff] at hnext
      obtain ⟨connection, hconnection, hnext⟩ := hnext
      have hhandles := hconsistent.receive hrunning hconnection hnext
      exact ⟨hhandles.consistent, hhandles.stopped, by rintro _ ⟨⟩; exact hhandles⟩
  | receiveError fd env =>
      simp only [World.next, hrunning, Option.bind_eq_some_iff] at hnext
      obtain ⟨connection, hconnection, hnext⟩ := hnext
      obtain rfl := Option.some.inj hnext
      have hhandles : Handles world fd (fun reason => FitsCapacity world
          (.receiveError fd env) → world.MayStop (.receiveError fd env) reason) _ :=
        (hconsistent.receiveError hrunning hconnection).mono fun _ hstop _ => hstop
      exact ⟨hhandles.consistent, hhandles.stopped, by rintro _ ⟨⟩; exact hhandles⟩

/-- The invariant holds in every state that one-record clients can bring about. -/
theorem consistent_of_reachable {world : World}
    (hreach : network.ReachableWith SendsOneRecord world) : Consistent world :=
  hreach.invariant Consistent consistent_initial
    fun _ _ _ hconsistent hallowed hnext => (hconsistent.step hallowed hnext).2.1

end DriveBus.ControlPlane
