import DriveBus.ControlPlane.Wire

/-!
# The broker and the programs of its clients

The broker's network with a program at the other end of its connections.  What the
broker sends on a connection waits in a channel until the program takes it, in order
and after any delay; a program whose connection the broker has closed still takes what
is left.  Descriptor numbers of the broker are used again, so a client has a serial
number of its own.
-/

namespace DriveBus.Agreement

open DriveBus.ControlPlane DriveBus.Transition

/-! ## Programs -/

/-- What a client runs: where it starts, the requests that it may send, and its steps.  A
step sees the records that wait in the client's socket and says how many it takes. -/
structure Program (Setup State Move : Type) where
  initial : Setup → State
  Sends : Request → Prop
  next : State → List BrokerMessage → Move → Option (State × ℕ)

/-- One client.  `fd` is its descriptor at the broker, and `taken` is history; a client
without a state runs another program. -/
structure Client (State : Type) where
  fd : Fd
  state : Option State
  taken : List BrokerMessage
  channel : List BrokerMessage

/-- Everything that was sent to a client. -/
def Client.heard {State : Type} (client : Client State) : List BrokerMessage :=
  client.taken ++ client.channel

structure Joint (State : Type) where
  world : World
  clients : ℕ → Option (Client State)
  clientOf : Fd → ℕ

inductive Step (Setup Move : Type)
  | connect (serial : ℕ) (fd : Fd) (runs : Option Setup)
  | broker (action : Action)
  | client (serial : ℕ) (move : Move)

/-- Only `connect` opens connections. -/
def Opens : Action → Bool
  | .accept _ => true
  | _ => false

section Network

variable {Setup State Move : Type}

namespace Joint

/-- The broker has the client's connection open. -/
def Current (joint : Joint State) (serial : ℕ) (client : Client State) : Prop :=
  joint.clientOf client.fd = serial ∧ (joint.world.connections client.fd).isSome

instance instDecidableCurrent (joint : Joint State) (serial : ℕ) (client : Client State) :
    Decidable (joint.Current serial client) :=
  inferInstanceAs (Decidable (_ ∧ _))

/-- What the broker has sent on the client's connection in a step. -/
def hear (joint : Joint State) (world' : World) (serial : ℕ) (client : Client State) :
    Client State :=
  if joint.Current serial client then
    { client with
      channel := client.channel ++
        recordsTo client.fd (world'.sent.drop joint.world.sent.length) }
  else client

/-- A client that has just connected. -/
def newClient (program : Program Setup State Move) (fd : Fd) (runs : Option Setup) :
    Client State where
  fd := fd
  state := runs.map program.initial
  taken := []
  channel := []

def next (program : Program Setup State Move) (joint : Joint State) :
    Step Setup Move → Option (Joint State)
  | .connect serial fd runs =>
      match joint.clients serial with
      | some _ => none
      | none => (joint.world.next (.accept fd)).map fun world' =>
          { world := world'
            clients := Function.update joint.clients serial
              (some (newClient program fd runs))
            clientOf := Function.update joint.clientOf fd serial }
  | .broker action =>
      if Opens action then none
      else (joint.world.next action).map fun world' =>
        { joint with
          world := world'
          clients := fun serial => (joint.clients serial).map (joint.hear world' serial) }
  | .client serial move =>
      (joint.clients serial).bind fun client => client.state.bind fun state =>
        (program.next state client.channel move).map fun moved =>
          { joint with
            clients := Function.update joint.clients serial
              (some { client with
                state := some moved.1
                taken := client.taken ++ client.channel.take moved.2
                channel := client.channel.drop moved.2 }) }

end Joint

/-- The broker among clients some of which run the program. -/
def Program.system (program : Program Setup State Move) :
    System (Joint State) (Step Setup Move) where
  initial := { world := .initial, clients := fun _ => none, clientOf := fun _ => 0 }
  next := Joint.next program

/-- On every connection at most one record is sent, one of those that the client
libraries build, and one that the program sends if it is the program that runs there. -/
def Program.Allows (program : Program Setup State Move) (joint : Joint State) :
    Step Setup Move → Prop
  | .broker action => SendsOneRecord joint.world action ∧
      ∀ fd packet, action = .request fd packet →
        ∀ client, joint.clients (joint.clientOf fd) = some client → client.state ≠ none →
          ∃ request, program.Sends request ∧ packet = request.packet
  | _ => True

end Network

end DriveBus.Agreement
