import DriveBus.Clients.ControlSocket
import DriveBus.ControlPlane.Completeness
import DriveBus.ControlPlane.StatusSnapshot

/-!
# What the status program prints

`broker-status` sends a query and prints the text that the broker answers.  Whatever the
broker and its clients have done before, the text shows who is registered at that moment,
and it arrives whole: a snapshot that does not fit the buffer of the program is replaced
by a notice.  The query leaves the routing as it is and costs its sender the connection.
-/

namespace DriveBus.Clients

open DriveBus.ByteMemory DriveBus.Contract DriveBus.ControlPlane DriveBus.Transition

/-! ## The program -/

def textBytes (text : String) : List Byte := text.toByteArray.data.toList.map UInt8.toFin

/-- The record with which the broker answers a query. -/
def statusSnapshotPacket (broker : Broker) : List Byte :=
  BrokerMessageType.statusSnapshot.code :: textBytes (statusReply broker)

inductive BrokerStatusError
  | socketCreate
  | connect
  | querySend
  | snapshotReceive
  | brokerClosed
  | snapshotTruncated
  | snapshotTooShort
  | unexpectedResponseType
  | outputWrite
  deriving DecidableEq, Repr

/-- Which calls succeed. -/
structure BrokerStatusCalls where
  socket : Bool
  connect : Bool
  /-- The whole query is sent. -/
  send : Bool
  /-- The whole payload is written. -/
  fwrite : Bool
  deriving DecidableEq, Repr

/-- `main` of the status program, with the payload that it prints; `received` is what
`recvmsg` gives unless it fails. -/
def brokerStatus (calls : BrokerStatusCalls) (received : Option Received) :
    Except BrokerStatusError (List Byte) := do
  require (calls.socket = true) .socketCreate
  require (calls.connect = true) .connect
  require (calls.send = true) .querySend
  let snapshot ← orStop received .snapshotReceive
  require (snapshot.bytes.length ≠ 0) .brokerClosed
  require (snapshot.truncated = false) .snapshotTruncated
  require (1 ≤ snapshot.bytes.length) .snapshotTooShort
  require (snapshot.bytes.getD 0 0 = BrokerMessageType.statusSnapshot.code)
    .unexpectedResponseType
  require (calls.fwrite = true) .outputWrite
  pure (snapshot.bytes.drop 1)

/-- What reaches the program when the broker has handled its query: the answer, or only
the end of the connection if the broker could not send. -/
def statusReceived (env : Env) (fd : Fd) (broker : Broker) : Received :=
  if env.accepts 0 fd then
    recvmsg kMaxStatusSnapshotMessageSize 0 (statusSnapshotPacket broker) []
  else ⟨[], false, none⟩

/-! ## The answer -/

theorem length_textBytes (text : String) : (textBytes text).length = text.utf8ByteSize := by
  rw [textBytes, List.length_map]
  rfl

theorem statusReply_eq (broker : Broker) :
    statusReply broker =
      if kMaxStatusSnapshotPayloadSize < broker.statusSnapshot.text.utf8ByteSize then
        statusSnapshotTooLarge
      else broker.statusSnapshot.text := rfl

theorem utf8ByteSize_statusReply (broker : Broker) :
    (statusReply broker).utf8ByteSize ≤ kMaxStatusSnapshotPayloadSize := by
  rw [statusReply_eq]
  split
  · decide
  next hfits => exact Nat.le_of_not_lt hfits

/-- The answer is the snapshot exactly when that fits. -/
theorem statusReply_eq_text_iff (broker : Broker) :
    statusReply broker = broker.statusSnapshot.text ↔
      broker.statusSnapshot.text.utf8ByteSize ≤ kMaxStatusSnapshotPayloadSize := by
  refine ⟨fun heq => heq ▸ utf8ByteSize_statusReply broker, fun hfits => ?_⟩
  rw [statusReply_eq, if_neg (Nat.not_lt.mpr hfits)]

theorem statusReply_of_too_large {broker : Broker}
    (hlarge : kMaxStatusSnapshotPayloadSize < broker.statusSnapshot.text.utf8ByteSize) :
    statusReply broker = statusSnapshotTooLarge := by
  rw [statusReply_eq, if_pos hlarge]

/-- The buffer of the program holds every answer. -/
theorem recvmsg_statusSnapshot (broker : Broker) :
    recvmsg kMaxStatusSnapshotMessageSize 0 (statusSnapshotPacket broker) [] =
      ⟨statusSnapshotPacket broker, false, none⟩ := by
  have hlength : (statusSnapshotPacket broker).length ≤ kMaxStatusSnapshotMessageSize := by
    rw [statusSnapshotPacket, List.length_cons, length_textBytes,
      kMaxStatusSnapshotMessageSize]
    have := utf8ByteSize_statusReply broker
    omega
  rw [recvmsg, List.take_of_length_le hlength]
  simp [hlength]

/-- The program prints the answer and nothing else, or says that there is none. -/
theorem brokerStatus_received {calls : BrokerStatusCalls} (hsocket : calls.socket = true)
    (hconnect : calls.connect = true) (hsend : calls.send = true) (env : Env) (fd : Fd)
    (broker : Broker) :
    brokerStatus calls (some (statusReceived env fd broker)) =
      if env.accepts 0 fd = true then
        if calls.fwrite = true then .ok (textBytes (statusReply broker))
        else .error .outputWrite
      else .error .brokerClosed := by
  simp only [brokerStatus, hsocket, hconnect, hsend]
  split
  next haccepts =>
    rw [statusReceived, if_pos haccepts, recvmsg_statusSnapshot]
    cases calls.fwrite <;> rfl
  next hrefuses =>
    rw [statusReceived, if_neg hrefuses]
    rfl

/-! ## The query -/

/-- What a status query comes to: an answer that is true of the broker at that moment, on
a connection that is then closed, and no change for anyone else. -/
structure Answered (env : Env) (fd : Fd) (world world' : World) : Prop where
  truthful : world.broker.statusSnapshot.Truthful world.broker world.members
  text : statusReply world.broker = world.broker.statusSnapshot.text ↔
    world.broker.statusSnapshot.text.utf8ByteSize ≤ kMaxStatusSnapshotPayloadSize
  notice : kMaxStatusSnapshotPayloadSize < world.broker.statusSnapshot.text.utf8ByteSize →
    statusReply world.broker = statusSnapshotTooLarge
  printed : ∀ calls : BrokerStatusCalls, calls.socket = true → calls.connect = true →
    calls.send = true →
      brokerStatus calls (some (statusReceived env fd world.broker)) =
        if env.accepts 0 fd = true then
          if calls.fwrite = true then .ok (textBytes (statusReply world.broker))
          else .error .outputWrite
        else .error .brokerClosed
  sent : world'.sent =
    world.sent ++ if env.accepts 0 fd = true then [(fd, .statusSnapshot)] else []
  broker : world'.broker =
    { world.broker with clientFds := world.broker.clientFds.erase fd }
  connections : world'.connections = Function.update world.connections fd none
  members : world'.members = world.members
  running : world'.exited = none

/-- In every state that a run reaches in which no client sends a second record, a status
query is answered truthfully and changes nothing but its own connection. -/
theorem statusQuery_answered {world world' : World}
    (hreach : network.ReachableWith SendsOneRecord world) {fd : Fd} {env : Env}
    {connection : Connection} {rest : List Packet}
    (hconnection : world.connections fd = some connection)
    (hinbox : connection.inbox = Request.statusQuery.packet :: rest)
    (hnext : network.next world (.receive fd env) = some world') :
    Answered env fd world world' := by
  have hconsistent := consistent_of_reachable hreach
  have hrunning : world.exited = none := by
    cases hexited : world.exited with
    | none => rfl
    | some reason =>
        change World.next world _ = _ at hnext
        simp only [World.next, hexited] at hnext
        cases hnext
  have hnone : world.members fd = none := by
    rw [members_eq hconnection, Connection.member,
      ((hconsistent.plain fd connection hconnection).split hinbox).1]
    rfl
  have hworld : world' = { world.setConnection fd none with
      broker := { world.broker with clientFds := world.broker.clientFds.erase fd }
      sent := world.sent ++
        if env.accepts 0 fd = true then [(fd, .statusSnapshot)] else [] } := by
    change World.next world _ = _ at hnext
    simp only [World.next, hrunning, hconnection, Option.bind_some, World.receive, hinbox,
      handleRecord_statusQuery] at hnext
    obtain rfl := Option.some.inj hnext
    cases haccepts : env.accepts 0 fd <;>
      simp [World.settle, Except.map, handleStatusQuery, Session.send, Session.start,
        Session.update, Session.close, haccepts]
  subst hworld
  refine ⟨hconsistent.routes.statusSnapshot_truthful, statusReply_eq_text_iff _,
    statusReply_of_too_large, fun calls hsocket hconnect hsend =>
      brokerStatus_received hsocket hconnect hsend env fd _, rfl, rfl, rfl, ?_, hrunning⟩
  change (world.setConnection fd none).members = world.members
  rw [members_setConnection, Option.bind_none, ← hnone, Function.update_eq_self]

/-- The client on descriptor 5 asks for the status of the broker of `repeatedTopic`. -/
def queriedWorld : World :=
  (network.run repeatedTopic [.accept 5, .request 5 Request.statusQuery.packet]).getD
    World.initial

theorem queriedWorld_reachable : network.ReachableWith SendsOneRecord queriedWorld := by
  have hreach := ClientsBehave.reachable
    (repeatedTopic_reachable.mono fun _ _ horderly => horderly.1)
  have haccepted : network.ReachableWith SendsOneRecord _ :=
    hreach.step (show SendsOneRecord _ (.accept 5) from trivial) rfl
  exact haccepted.step (show SendsOneRecord _ (.request 5 Request.statusQuery.packet) from
    by rintro _ ⟨⟩; exact ⟨rfl, _, rfl⟩) rfl

theorem statusQuery_answered_queriedWorld :
    queriedWorld.broker.statusSnapshot.connectionCount = 2 ∧
      ∃ world', network.next queriedWorld (.receive 5 .generous) = some world' ∧
        Answered .generous 5 queriedWorld world' :=
  ⟨rfl, _, rfl, statusQuery_answered queriedWorld_reachable rfl rfl rfl⟩

end DriveBus.Clients
