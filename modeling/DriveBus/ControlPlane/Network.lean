import DriveBus.ControlPlane.Handlers
import DriveBus.ControlPlane.Routing
import DriveBus.Library.Transition

/-!
# The broker and its connections

The broker process with the clients connected to it, as a transition system.  A
client sends records and closes its end at any moment; the broker takes the
events of its connections in any order.  Which sends the peers accept and which
descriptors the system calls return is chosen anew in every step, and an exit
stops the run.
-/

namespace DriveBus.ControlPlane

open DriveBus.ByteMemory DriveBus.Transition

/-! ## Connections -/

/-- One accepted connection: the records the broker has received, those still in
the socket, and whether the client has closed its end. -/
structure Connection where
  received : List Packet
  inbox : List Packet
  peerClosed : Bool
  deriving DecidableEq

structure World where
  broker : Broker
  connections : Fd → Option Connection
  sent : List (Fd × BrokerMessage)
  exited : Option ExitReason

inductive Action
  | accept (fd : Fd)
  | request (fd : Fd) (packet : Packet)
  | hangUp (fd : Fd)
  | receive (fd : Fd) (env : Env)
  | receiveError (fd : Fd) (env : Env)

namespace World

def initial : World where
  broker := Broker.initial
  connections := fun _ => none
  sent := []
  exited := none

def setConnection (world : World) (fd : Fd) (connection : Option Connection) : World :=
  { world with connections := Function.update world.connections fd connection }

/-- The state after a handler has returned or stopped; an exit keeps the state before
the handler, without the records that the handler had sent by then. -/
def settle (world : World) (fd : Fd) (connection : Option Connection)
    (result : Except ExitReason Session) : World :=
  match result with
  | .ok session => { world.setConnection fd connection with
      broker := session.broker
      sent := world.sent ++ session.sent }
  | .error reason => { world with exited := some reason }

/-- One `recvmsg` of the receive loop: the next record, or the closure once the
socket is drained. -/
def receive (world : World) (fd : Fd) (connection : Connection) (env : Env) :
    Option World :=
  match connection.inbox with
  | packet :: rest =>
      let result := handleRecord env fd packet (.start world.broker)
      let closed := result matches .ok (_, true)
      let connection' := { connection with
        received := connection.received ++ [packet]
        inbox := rest }
      some (world.settle fd (if closed then none else some connection')
        (result.map Prod.fst))
  | [] =>
      if connection.peerClosed then
        some (world.settle fd none (handleClosure env fd (.start world.broker)))
      else none

def next (world : World) (action : Action) : Option World :=
  match world.exited, action with
  | some _, _ => none
  | none, .accept fd =>
      match world.connections fd with
      | some _ => none
      | none => some { world.setConnection fd (some ⟨[], [], false⟩) with
          broker := { world.broker with clientFds := insert fd world.broker.clientFds } }
  | none, .request fd packet => (world.connections fd).bind fun connection =>
      if connection.peerClosed then none
      else some (world.setConnection fd
        (some { connection with inbox := connection.inbox ++ [packet] }))
  | none, .hangUp fd => (world.connections fd).bind fun connection =>
      if connection.peerClosed then none
      else some (world.setConnection fd (some { connection with peerClosed := true }))
  | none, .receive fd env => (world.connections fd).bind fun connection =>
      world.receive fd connection env
  | none, .receiveError fd env => (world.connections fd).bind fun _ =>
      some (world.settle fd none (handleReceiveError env fd (.start world.broker)))

theorem running_of_next {world world' : World} {action : Action}
    (hnext : world.next action = some world') : world.exited = none := by
  cases hexited : world.exited with
  | none => rfl
  | some reason => simp [next, hexited] at hnext

end World

/-- The broker among its clients. -/
def network : System World Action where
  initial := World.initial
  next := World.next

/-! ## The clients' side -/

def Request.member : Request → Option Member
  | .statusQuery => none
  | .subscribe topics => some (.subscriber topics.topicIds)
  | .publish topicId _ _ => some (.publisher topicId)

/-- What a record registers its sender as. -/
def Packet.member (packet : Packet) : Option Member :=
  match packet.bytes with
  | [] => none
  | code :: bytes =>
      if code = BrokerMessageType.subscriberTopicRegistration.code then
        some (.subscriber ((bytes.drop 4).take (ofLittleEndian (bytes.take 4))))
      else if code = BrokerMessageType.publisherTopicRegistration.code then
        bytes.head?.map .publisher
      else none

def Packet.QueriesStatus (packet : Packet) : Prop :=
  packet.bytes.head? = some BrokerMessageType.statusQuery.code

/-- A record with the type of one of the two registrations. -/
def Packet.Registers (packet : Packet) : Prop :=
  packet.bytes.head? = some BrokerMessageType.subscriberTopicRegistration.code ∨
    packet.bytes.head? = some BrokerMessageType.publisherTopicRegistration.code

/-- The membership that the records received so far amount to. -/
def World.members (world : World) : Members := fun fd =>
  (world.connections fd).bind fun connection => connection.received.head?.bind Packet.member

/-- On every connection a client sends at most one record, one of those that the
client libraries build. -/
def SendsOneRecord (world : World) : Action → Prop
  | .request fd packet => ∀ connection, world.connections fd = some connection →
      connection.received ++ connection.inbox = [] ∧
        ∃ request : Request, packet = request.packet
  | _ => True

/-- What the record that an action handles asks for fits the broker's capacities. -/
def FitsCapacity (world : World) : Action → Prop
  | .receive fd _ => ∀ connection packet rest, world.connections fd = some connection →
      connection.inbox = packet :: rest →
        ∀ member, packet.member = some member → world.broker.HasCapacity member
  | _ => True

/-- On every connection a client sends at most one record, one of those that the
client libraries build, and what it asks for fits the broker's capacities. -/
def SendsOneRequest (world : World) : Action → Prop
  | .request fd packet => ∀ connection, world.connections fd = some connection →
      connection.received ++ connection.inbox = [] ∧
        ∃ request : Request, packet = request.packet
  | .receive fd _ => ∀ connection packet rest, world.connections fd = some connection →
      connection.inbox = packet :: rest →
        ∀ member, packet.member = some member → world.broker.HasCapacity member
  | _ => True

theorem SendsOneRequest.record {world : World} {action : Action}
    (hrequest : SendsOneRequest world action) : SendsOneRecord world action := by
  cases action with
  | request fd packet => exact hrequest
  | _ => trivial

theorem SendsOneRequest.capacity {world : World} {action : Action}
    (hrequest : SendsOneRequest world action) : FitsCapacity world action := by
  cases action with
  | receive fd env => exact hrequest
  | _ => trivial

/-- A client closes its end only after it has sent its record, and the broker
reads an error only from a connection that it has answered. -/
def RequestsBeforeClosing (world : World) : Action → Prop
  | .hangUp fd => ∀ connection, world.connections fd = some connection →
      connection.received ++ connection.inbox ≠ []
  | .receiveError fd _ => ∀ connection, world.connections fd = some connection →
      connection.received ≠ []
  | _ => True

end DriveBus.ControlPlane
