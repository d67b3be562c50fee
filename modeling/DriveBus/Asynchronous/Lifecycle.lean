import DriveBus.Asynchronous.Worker
import DriveBus.Library.Transition

/-!
# Creating, moving and destroying publishers

Objects by number, each with its own worker and mapping.  A move stops the worker of
its source, and of its destination if that is assigned to, before it transfers the
members; between the two the objects' workers run on.  An object that has been moved
from holds nothing and is not in the map.
-/

namespace DriveBus.Asynchronous

open DriveBus.ByteMemory DriveBus.SharedMemory DriveBus.Transition

/-- An asynchronous publisher with the process state that its data path uses. -/
structure PublisherObject extends AsyncPublisher where
  process : PublisherProcess

namespace PublisherObject

/-- A step of the object; the mapping decides what an attempt or a check returns, and
subscribers and broker records change it at will. -/
inductive Action
  | step (action : Asynchronous.Action)
  | environment (process : PublisherProcess)
  | control (error : RunError) (process : PublisherProcess)
  | attempt
  | check

/-- The attempt for the message in flight. -/
def attempt (object : PublisherObject) : Option PublisherObject :=
  match object.queue.inFlight with
  | none => none
  | some inFlight =>
      let (result, process) := tryPublishOne object.process inFlight.message.payload
      (object.next (.attempt result
        (appendedPayload object.process.shared process.shared))).map
          fun publisher => { toAsyncPublisher := publisher, process }

def next (object : PublisherObject) (action : Action) : Option PublisherObject :=
  let unchanged := fun publisher : AsyncPublisher =>
    { object with toAsyncPublisher := publisher }
  match action with
  | .step (.attempt ..) | .step (.checked _) | .step (.controlProcessed _) => none
  | .step action => (object.toAsyncPublisher.next action).map unchanged
  | .environment process => some { object with process }
  | .control error process =>
      (object.toAsyncPublisher.next (.controlProcessed error)).map
        fun publisher => { toAsyncPublisher := publisher, process }
  | .attempt => object.attempt
  | .check =>
      (object.toAsyncPublisher.next
        (.checked (canPublishNextMessage object.process.shared object.queue))).map unchanged

/-- What `create` returns in asynchronous mode. -/
def created (process : PublisherProcess) : PublisherObject where
  toAsyncPublisher :=
    AsyncPublisher.startRunThread
      { queue := MessageQueue.empty
        journal := Journal.empty
        publisherReady := true
        signalled := fun source => decide (source = .publishWork)
        workerExitSignalled := false
        events := []
        runThreadActive := false
        workerStopIntent := .destroy
        worker := none
        owner := .free }
  process := process

/-- Draining an eventfd clears it. -/
def drainNotifications (object : PublisherObject) : PublisherObject :=
  { object with
    signalled := Function.update object.signalled .shutdown false
    workerExitSignalled := false }

/-- The object once its worker has been joined and the move out of it has failed. -/
def abandoned (object : PublisherObject) : PublisherObject :=
  { object with worker := none, owner := .free }

/-- The destination after the members have been taken over, before its worker is
restarted. -/
def takenFrom (source : PublisherObject) : PublisherObject :=
  { source with
    runThreadActive := false
    workerStopIntent := .destroy
    worker := none
    owner := .free }

end PublisherObject

/-! ## The world -/

/-- How the transfer of the members ends: it succeeds, draining an eventfd of the source
throws, or starting the destination's worker throws. -/
inductive TransferOutcome
  | succeeds
  | drainFails
  | restartFails
  deriving DecidableEq, Repr

/-- The objects, and the histories of the rings whose publisher has been destroyed or
assigned to. -/
structure World where
  objects : ℕ → Option PublisherObject
  archive : List Journal

inductive WorldAction
  | create (id : ℕ) (process : PublisherProcess)
  | object (id : ℕ) (action : PublisherObject.Action)
  | destroy (id : ℕ)
  | transfer (source destination : ℕ) (outcome : TransferOutcome)

namespace World

def initial : World where
  objects := fun _ => none
  archive := []

def setObject (world : World) (id : ℕ) (object : Option PublisherObject) : World :=
  { world with objects := Function.update world.objects id object }

/-- The histories that end when the destination is assigned to. -/
def retired (world : World) (id : ℕ) : List Journal :=
  ((world.objects id).map (·.journal)).toList

/-- A destination is under construction or has been released. -/
def Released (world : World) (id : ℕ) : Prop :=
  (world.objects id).all fun object => object.owner = .joined .destroy false

instance instDecidableReleased (world : World) (id : ℕ) : Decidable (world.Released id) :=
  inferInstanceAs (Decidable (_ = true))

def create (world : World) (id : ℕ) (process : PublisherProcess) : Option World :=
  match world.objects id with
  | some _ => none
  | none => some (world.setObject id (some (.created process)))

def object (world : World) (id : ℕ) (action : PublisherObject.Action) : Option World :=
  (world.objects id).bind fun object =>
    (object.next action).map fun object' => world.setObject id (some object')

/-- The rest of the destructor once `stop_run_thread` has returned. -/
def destroy (world : World) (id : ℕ) : Option World :=
  (world.objects id).bind fun object =>
    match object.owner with
    | .joined .destroy _ => some { world.setObject id none with
        archive := world.archive ++ [object.journal] }
    | _ => none

/-- The rest of `take_resources_from` once `stop_run_thread` has returned.  When the
destination's worker does not start, a destination under construction is destroyed with
what it has taken over. -/
def transfer (world : World) (source destination : ℕ) (outcome : TransferOutcome) :
    Option World :=
  (world.objects source).bind fun object =>
    if source = destination ∨ ¬world.Released destination then none
    else match object.owner, outcome with
    | .joined .transfer false, .succeeds =>
        some { (world.setObject source none).setObject destination (some object.takenFrom) with
          archive := world.archive ++ world.retired destination }
    | .joined .transfer true, .succeeds =>
        let taken := object.drainNotifications.takenFrom
        some { (world.setObject source none).setObject destination (some { taken with
            toAsyncPublisher := taken.startRunThread }) with
          archive := world.archive ++ world.retired destination }
    | .joined .transfer true, .drainFails =>
        let assigned := (world.objects destination).map PublisherObject.abandoned
        some ((world.setObject source (some object.abandoned)).setObject destination assigned)
    | .joined .transfer true, .restartFails =>
        match world.objects destination with
        | none => some { world.setObject source none with
            archive := world.archive ++ [object.journal] }
        | some assigned => some { (world.setObject source none).setObject destination
              (some object.drainNotifications.takenFrom) with
            archive := world.archive ++ [assigned.journal] }
    | _, _ => none

def next (world : World) : WorldAction → Option World
  | .create id process => world.create id process
  | .object id action => world.object id action
  | .destroy id => world.destroy id
  | .transfer source destination outcome => world.transfer source destination outcome

end World

/-- All objects of the application. -/
def lifecycle : System World WorldAction where
  initial := World.initial
  next := World.next

end DriveBus.Asynchronous
