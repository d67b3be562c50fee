import DriveBus.Agreement.Joint
import DriveBus.ControlPlane.Connections

/-!
# Views that agree with the broker

What a program knows of the broker is a view that each of its records changes.  If the
records of one event keep a view right, then everything that was sent to a client takes
the initial view to one that agrees with the broker, however much of it still waits in
the channel.
-/

namespace DriveBus.Agreement

open DriveBus.ControlPlane DriveBus.Replica DriveBus.Transition

/-- What the records of the broker do to a view, and when the view of a client is right.
`Kind` says what the client may be registered as. -/
structure Mirror (View : Type) where
  Kind : Option Member → Prop
  apply : View → BrokerMessage → Option View
  start : View
  Agrees : Broker → Members → Fd → View → Prop

/-- A new client's view is right, and every event of the broker keeps it right. -/
structure Mirror.Faithful {View : Type} (mirror : Mirror View) : Prop where
  unregistered : mirror.Kind none
  fresh : ∀ {broker members fd}, Routes broker members → members fd = none →
    mirror.Agrees broker members fd mirror.start
  quiet : ∀ {before after members fd view}, after.attachmentBook = before.attachmentBook →
    mirror.Agrees before members fd view → mirror.Agrees after members fd view
  event : ∀ {before members fd after members' peer view},
    Transcript before members fd after members' → Routes before members →
    Routes after.broker members' → before.IdsIssued → (peer ≠ fd ∨ members' peer ≠ none) →
    mirror.Kind (members' peer) → mirror.Agrees before members peer view →
    ∃ view', replay mirror.apply view (recordsTo peer after.sent) = some view' ∧
      mirror.Agrees after.broker members' peer view'

section Mirrors

variable {Setup State Move View : Type} {program : Program Setup State Move}
  {mirror : Mirror View} {joint joint' : Joint State} {serial : ℕ} {client : Client State}

/-- The program asks to be registered, as what the view is for. -/
def Program.Speaks (program : Program Setup State Move) (mirror : Mirror View) : Prop :=
  ∀ request, program.Sends request → request.member ≠ none ∧ mirror.Kind request.member

/-- A client has sent nothing but its program's requests, and what it was sent leads to
a view that agrees with the broker while its connection is open. -/
structure Follows (program : Program Setup State Move) (mirror : Mirror View)
    (joint : Joint State) (serial : ℕ) (client : Client State) : Prop where
  requests : joint.Current serial client → ∀ connection,
    joint.world.connections client.fd = some connection → ∀ packet ∈ connection.packets,
      ∃ request, program.Sends request ∧ packet = request.packet
  view : ∃ final, replay mirror.apply mirror.start client.heard = some final ∧
    (joint.Current serial client →
      mirror.Agrees joint.world.broker joint.world.members client.fd final)

/-- The clients that run the program are registered as nothing else. -/
theorem kind_of_requests (hfaithful : mirror.Faithful) (hspeaks : program.Speaks mirror)
    {world : World} {fd : Fd}
    (hrequests : ∀ connection, world.connections fd = some connection →
      ∀ packet ∈ connection.packets, ∃ request, program.Sends request ∧
        packet = request.packet) : mirror.Kind (world.members fd) := by
  cases hconnection : world.connections fd with
  | none =>
      rw [World.members, hconnection]
      exact hfaithful.unregistered
  | some connection =>
      rw [members_eq hconnection, Connection.member]
      cases hreceived : connection.received with
      | nil => exact hfaithful.unregistered
      | cons packet rest =>
          obtain ⟨request, hsends, rfl⟩ := hrequests connection hconnection packet
            (by simp [Connection.packets, hreceived])
          rw [List.head?_cons, Option.bind_some, Request.member_packet]
          exact (hspeaks request hsends).2

/-- A step that sends nothing and registers nobody leaves a client's view right. -/
theorem Follows.quiet (hfaithful : mirror.Faithful)
    (hfollows : Follows program mirror joint serial client)
    (hbook : joint'.world.broker.attachmentBook = joint.world.broker.attachmentBook)
    (hmembers : joint'.world.members = joint.world.members)
    (hcurrent : joint'.Current serial client → joint.Current serial client)
    (hconnections : joint.Current serial client → ∀ connection',
      joint'.world.connections client.fd = some connection' →
        ∃ connection, joint.world.connections client.fd = some connection ∧
          ∀ packet ∈ connection'.packets, packet ∈ connection.packets ∨
            ∃ request, program.Sends request ∧ packet = request.packet) :
    Follows program mirror joint' serial client := by
  obtain ⟨final, hreplay, hagrees⟩ := hfollows.view
  refine ⟨fun hnow connection' hconnection' packet hmem => ?_, final, hreplay, fun hnow => ?_⟩
  · have hbefore := hcurrent hnow
    obtain ⟨connection, hconnection, hpackets⟩ :=
      hconnections hbefore connection' hconnection'
    rcases hpackets packet hmem with hold | hnew
    · exact hfollows.requests hbefore connection hconnection packet hold
    · exact hnew
  · rw [hmembers]
    exact hfaithful.quiet hbook (hagrees (hcurrent hnow))

@[simp]
theorem Joint.hear_fd (world' : World) : (joint.hear world' serial client).fd = client.fd := by
  unfold Joint.hear
  split <;> rfl

@[simp]
theorem Joint.hear_state (world' : World) :
    (joint.hear world' serial client).state = client.state := by
  unfold Joint.hear
  split <;> rfl

@[simp]
theorem Joint.hear_taken (world' : World) :
    (joint.hear world' serial client).taken = client.taken := by
  unfold Joint.hear
  split <;> rfl

/-- Nothing is heard of a step that sends nothing. -/
theorem Joint.hear_quiet {world' : World} (hsent : world'.sent = joint.world.sent) :
    joint.hear world' serial client = client := by
  unfold Joint.hear
  split
  · rw [hsent, List.drop_length, recordsTo_nil, List.append_nil]
  · rfl

/-- An event keeps the view of every client right. -/
theorem Follows.event (hfaithful : mirror.Faithful) (hspeaks : program.Speaks mirror)
    (hfollows : Follows program mirror joint serial client)
    (hconsistent : Consistent joint.world) (hids : IdsDelivered joint.world)
    {action : Action} {fd : Fd} {world' : World} (hconsistent' : Consistent world')
    (hevent : action.event = some fd) (hnext : joint.world.next action = some world')
    (hrunning' : world'.exited = none) :
    Follows program mirror { joint with world := world' } serial
      (joint.hear world' serial client) := by
  obtain ⟨session, htranscript, open', rfl⟩ :=
    hconsistent.happened hids.bounded hevent hnext hrunning'
  obtain ⟨connection, hbefore, hclosed, hkept⟩ :=
    hconsistent.eventOutcome hevent hnext hrunning'
  obtain ⟨final, hreplay, hagrees⟩ := hfollows.view
  have hother : ∀ other, other ≠ fd → (joint.world.settled fd open' session).connections other =
      joint.world.connections other := fun other hne => Function.update_of_ne hne _ _
  by_cases hcurrent : joint.Current serial client
  swap
  · -- The client has been left by the broker before, and hears nothing.
    have hdeaf : joint.hear (joint.world.settled fd open' session) serial client = client :=
      if_neg hcurrent
    have hgone : ¬Joint.Current
        { joint with world := joint.world.settled fd open' session } serial client := by
      rintro ⟨hserial, hopen⟩
      refine hcurrent ⟨hserial, ?_⟩
      by_cases hfd : client.fd = fd
      · rw [hfd, hbefore]
        rfl
      · rwa [← hother client.fd hfd]
    rw [hdeaf]
    exact ⟨fun hnow => absurd hnow hgone, final, hreplay, fun hnow => absurd hnow hgone⟩
  have hheard : (joint.hear (joint.world.settled fd open' session) serial client).heard =
      client.heard ++ recordsTo client.fd session.sent := by
    rw [Joint.hear, if_pos hcurrent, Client.heard, Client.heard, ← List.append_assoc]
    change _ ++ recordsTo client.fd ((joint.world.sent ++ session.sent).drop _) = _
    rw [List.drop_left]
  have hrequests' : ∀ connection',
      (joint.world.settled fd open' session).connections client.fd = some connection' →
        ∀ packet ∈ connection'.packets, ∃ request, program.Sends request ∧
          packet = request.packet := by
    intro connection' hconnection' packet hmem
    by_cases hfd : client.fd = fd
    · rw [hfd] at hconnection'
      rw [(hkept connection' hconnection').1] at hmem
      exact hfollows.requests hcurrent connection (by rw [hfd, hbefore]) packet hmem
    · rw [hother client.fd hfd] at hconnection'
      exact hfollows.requests hcurrent connection' hconnection' packet hmem
  refine ⟨fun _ => by rw [Joint.hear_fd]; exact hrequests', ?_⟩
  rw [hheard, Joint.hear_fd]
  by_cases hleft : client.fd = fd ∧
      (joint.world.settled fd open' session).connections client.fd = none
  · -- The event has closed the client's own connection.
    obtain ⟨hfd, hnone⟩ := hleft
    have hsilent : recordsTo client.fd session.sent = [] := by
      rw [hfd] at hnone ⊢
      rcases hclosed hnone with hmember | ⟨packet, hmem, hmember⟩
      · exact htranscript.silent hconsistent.routes hmember
      · obtain ⟨request, hsends, rfl⟩ :=
          hfollows.requests hcurrent connection (by rw [hfd, hbefore]) packet hmem
        rw [Request.member_packet] at hmember
        exact absurd hmember (hspeaks request hsends).1
    refine ⟨final, by rw [hsilent, List.append_nil, hreplay], fun hnow => ?_⟩
    have hopen := hnow.2
    rw [Joint.hear_fd] at hopen
    dsimp only at hopen
    rw [hnone] at hopen
    cases hopen
  have hstays : client.fd ≠ fd ∨
      (joint.world.settled fd open' session).members client.fd ≠ none := by
    by_cases hfd : client.fd = fd
    · obtain ⟨kept, hkeptConnection⟩ :=
        Option.ne_none_iff_exists'.mp fun hnone => hleft ⟨hfd, hnone⟩
      have hreceived := (hkept kept (hfd ▸ hkeptConnection)).2
      refine .inr fun hnone => hreceived ?_
      refine (hconsistent'.plain client.fd kept hkeptConnection).received_eq_nil ?_
      rwa [members_eq hkeptConnection] at hnone
    · exact .inl hfd
  obtain ⟨final', hreplay', hagrees'⟩ := hfaithful.event htranscript hconsistent.routes
    hconsistent'.routes hids.issued hstays
    (kind_of_requests hfaithful hspeaks hrequests') (hagrees hcurrent)
  exact ⟨final', replay_send hreplay hreplay', fun _ => hagrees'⟩

end Mirrors

end DriveBus.Agreement
