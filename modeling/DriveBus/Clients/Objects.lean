import DriveBus.Clients.PublisherControl
import DriveBus.Clients.SubscriberControl
import DriveBus.Library.GuardedScope
import DriveBus.SharedMemory.DataPlane

/-!
# Creating, moving and releasing client objects

What `create` of either client acquires, and in which order its guards give it back when a
step fails; what a finished object gives back when it is destroyed, and what moves to
another object.  Any call may fail, and the kernel chooses the numbers that it hands out.
-/

namespace DriveBus.Clients

open DriveBus.ByteMemory DriveBus.GuardedScope DriveBus.UnorderedMap

open DriveBus.ControlPlane (Fd TopicId kMaxSubscriberTopicCount)

open DriveBus.SharedMemory (SharedData)

/-! ## What a process holds -/

/-- A descriptor, or the mapping of a publisher's own memory. -/
inductive Resource
  | descriptor (fd : Fd)
  | mapping (address : ℕ)
  deriving DecidableEq, Repr

abbrev ShmName := String

abbrev Obligation := Cleanup Resource ShmName

abbrev ClientKernel := Kernel Resource ShmName

abbrev ClientScope (ε α : Type) := Scoped Resource ShmName ε α

def closeOne (fd : Fd) : Obligation := .release (.descriptor fd)

/-- `close_fd` of one variable after the other. -/
def closeFdVariables (fds : List FdVariable) : List Obligation := (openFds fds).map closeOne

/-- The kernel after descriptors have come in. -/
def receiveDescriptors (kernel : ClientKernel) (fds : List Fd) : Option ClientKernel :=
  kernel.takeAll (fds.map .descriptor)

/-- The kernel after a call whose log of closed descriptors was `closed` before and is
`closed'` after it. -/
def closeLogged (kernel : ClientKernel) (closed closed' : List Fd) : ClientKernel :=
  kernel.cleanAll ((closed'.drop closed.length).map closeOne)

/-! ## Modes -/

abbrev Flags := UInt32

def kSynchronous : Flags := 1
def kAsynchronous : Flags := 2

inductive ExecutionMode
  | synchronous
  | asynchronous
  deriving DecidableEq, Repr

/-- The checks of the mode flags, and the mode that passes them. -/
def executionMode (flags : Flags) : Option ExecutionMode :=
  let executionModeFlags := flags &&& (kSynchronous ||| kAsynchronous)
  if executionModeFlags = kSynchronous then some .synchronous
  else if executionModeFlags = kAsynchronous then some .asynchronous
  else none

/-- Stop unless there is a value. -/
def found {ε α : Type} (value : Option α) (error : ε) : ClientScope ε α :=
  match value with
  | some value => pure value
  | none => fun frame => some (.error error, frame)

/-! ## The connection -/

structure ConnectAnswers where
  socket : Option Fd
  /-- Whether the attempt with this number succeeds. -/
  connect : ℕ → Bool

/-- `connect_to_broker`, with its second attempt. -/
def connectToBroker {ε : Type} (answers : ConnectAnswers) (socketError connectError : ε) :
    ClientScope ε Fd :=
  .call (do
    let brokerFd ← .acquire .descriptor answers.socket socketError
    .check (answers.connect 0 || answers.connect 1) connectError
    pure brokerFd) fun brokerFd => [closeOne brokerFd]

/-! ## Subscribers -/

inductive SubscriberCreateError
  | epollCreateFailed
  | brokerSocketCreateFailed
  | brokerConnectFailed
  | brokerEpollRegistrationFailed
  | topicRegistrationSendFailed
  | topicRegistrationCountExceeded
  | subscriberModeFlagsInvalid
  | asyncCallbackMissing
  | shutdownEventFdCreateFailed
  | shutdownEpollRegistrationFailed
  | workerExitEventFdCreateFailed
  | runThreadCreateFailed
  deriving DecidableEq, Repr

/-- What the calls of `Subscriber::create` give. -/
structure SubscriberCreateAnswers where
  epollCreate : Option Fd
  broker : ConnectAnswers
  sendRegistration : Bool
  addBroker : Bool
  shutdownEventfd : Option Fd
  addShutdown : Bool
  workerExitEventfd : Option Fd
  startRunThread : Bool

/-- The members of `Subscriber` that own something. -/
structure SubscriberObject where
  client : SubscriberClient
  epollFd : FdVariable
  brokerFd : FdVariable
  shutdownEventFd : FdVariable
  workerExitEventFd : FdVariable

namespace SubscriberObject

/-- The default values of the members, and what `std::exchange` leaves behind. -/
def empty : SubscriberObject where
  client := .initial
  epollFd := none
  brokerFd := none
  shutdownEventFd := none
  workerExitEventFd := none

/-- The guarded part of `create`, up to the construction of the object. -/
def acquireResources (answers : SubscriberCreateAnswers) (topicIds : List TopicId)
    (flags : Flags) (callback : Bool) : ClientScope SubscriberCreateError SubscriberObject := do
  let mode ← found (executionMode flags) .subscriberModeFlagsInvalid
  .check (mode = .synchronous || callback) .asyncCallbackMissing
  let epollFd ← .acquire .descriptor answers.epollCreate .epollCreateFailed
  let brokerFd ← connectToBroker answers.broker .brokerSocketCreateFailed .brokerConnectFailed
  let topicCount := topicIds.length % 2 ^ 32
  .check (topicCount ≠ 0 ∧ topicCount ≤ kMaxSubscriberTopicCount)
    .topicRegistrationCountExceeded
  .check answers.sendRegistration .topicRegistrationSendFailed
  .check answers.addBroker .brokerEpollRegistrationFailed
  match mode with
  | .synchronous =>
      pure
        { client := .initial
          epollFd := some epollFd
          brokerFd := some brokerFd
          shutdownEventFd := none
          workerExitEventFd := none }
  | .asynchronous =>
      let shutdownEventFd ← .acquire .descriptor answers.shutdownEventfd
        .shutdownEventFdCreateFailed
      .check answers.addShutdown .shutdownEpollRegistrationFailed
      let workerExitEventFd ← .acquire .descriptor answers.workerExitEventfd
        .workerExitEventFdCreateFailed
      pure
        { client := .initial
          epollFd := some epollFd
          brokerFd := some brokerFd
          shutdownEventFd := some shutdownEventFd
          workerExitEventFd := some workerExitEventFd }

/-- The loop of `release_resources` over the attachments. -/
def releaseAttachments (client : SubscriberClient) : SubscriberClient :=
  client.publisherAttachmentByDataAvailableEventFd.entries.foldl
    (fun client entry => client.releasePublisherAttachment entry.2) client

/-- `release_resources` once the worker has been joined. -/
def releaseResources (object : SubscriberObject) (kernel : ClientKernel) :
    SubscriberObject × ClientKernel :=
  let client := releaseAttachments object.client
  ({ empty with client := { client with
      dataAvailableEventFdByAttachmentId := ∅
      publisherAttachmentByDataAvailableEventFd := ∅ } },
    (closeLogged kernel object.client.closed client.closed).cleanAll
      (closeFdVariables [object.shutdownEventFd, object.workerExitEventFd, object.epollFd,
        object.brokerFd]))

/-- `create`; the object moves into the result before its worker starts. -/
def create (answers : SubscriberCreateAnswers) (topicIds : List TopicId) (flags : Flags)
    (callback : Bool) (kernel : ClientKernel) :
    Option (Except SubscriberCreateError SubscriberObject × ClientKernel) :=
  ((acquireResources answers topicIds flags callback).run kernel).map fun (result, kernel) =>
    match result with
    | .error error => (.error error, kernel)
    | .ok object =>
        if executionMode flags = some .asynchronous ∧ answers.startRunThread = false then
          (.error .runThreadCreateFailed, (object.releaseResources kernel).2)
        else (.ok object, kernel)

end SubscriberObject

/-! ## Publishers -/

inductive PublisherCreateError
  | sharedMemoryUnlinkFailed
  | sharedMemoryOpenFailed
  | sharedMemoryResizeFailed
  | sharedMemoryMapFailed
  | epollCreateFailed
  | brokerSocketCreateFailed
  | brokerConnectFailed
  | brokerEpollAddFailed
  | spaceAvailableEventFdCreateFailed
  | spaceAvailableEpollAddFailed
  | topicRegistrationSendFailed
  | publishWorkEventFdCreateFailed
  | publishWorkEpollAddFailed
  | publishWorkInitialSignalFailed
  | shutdownEventFdCreateFailed
  | shutdownEpollAddFailed
  | workerExitEventFdCreateFailed
  | runThreadCreateFailed
  | publisherModeFlagsInvalid
  | initialRegistration (error : RegistrationError)
  deriving DecidableEq, Repr

/-- What the calls of `Publisher::create` give; `mapped` is what the mapping holds before it
is initialized. -/
structure PublisherCreateAnswers where
  /-- The name was removed or did not exist. -/
  shmUnlink : Bool
  shmOpen : Option Fd
  ftruncate : Bool
  mmap : Option ℕ
  mapped : SharedData
  epollCreate : Option Fd
  broker : ConnectAnswers
  spaceAvailableEventfd : Option Fd
  addSpaceAvailable : Bool
  sendRegistration : Bool
  publishWorkEventfd : Option Fd
  addPublishWork : Bool
  signalPublishWork : Bool
  shutdownEventfd : Option Fd
  addShutdown : Bool
  workerExitEventfd : Option Fd
  subscriberCount : Option (List Byte)
  registrations : List (Receipt TrackAnswers)
  addBroker : Bool
  startRunThread : Bool

/-- The members of `Publisher` that own something; the broker's socket and the descriptors
of the tracked subscribers are in `client`. -/
structure PublisherObject where
  client : PublisherClient
  shmName : Option ShmName
  sharedData : Option ℕ
  epollFd : FdVariable
  spaceAvailableEventFd : FdVariable
  publishWorkEventFd : FdVariable
  shutdownEventFd : FdVariable
  workerExitEventFd : FdVariable

/-- `create_and_map_shared_data`; its caller guards the descriptor and, above it, the
mapping with the name. -/
def createAndMapSharedData (answers : PublisherCreateAnswers) (shmName : ShmName) :
    ClientScope PublisherCreateError (Fd × ℕ) :=
  .call (do
    .check answers.shmUnlink .sharedMemoryUnlinkFailed
    .unlinkName shmName
    let shmFd ← .acquire .descriptor answers.shmOpen .sharedMemoryOpenFailed
    .createName shmName
    .check answers.ftruncate .sharedMemoryResizeFailed
    let sharedData ← .acquire .mapping answers.mmap .sharedMemoryMapFailed
    pure (shmFd, sharedData)) fun (shmFd, sharedData) =>
      [.release (.mapping sharedData), .unlink shmName, closeOne shmFd]

namespace PublisherObject

/-- A client without tracked subscribers. -/
def untracked (mapped : SharedData) (brokerFd : FdVariable) (closed : List Fd) :
    PublisherClient where
  process := (SharedMemory.State.created mapped).toPublisherProcess
  brokerFd := brokerFd
  closed := closed

/-- The guarded part of `create`, up to the construction of the object, with the descriptor
of the shared memory. -/
def acquireResources (answers : PublisherCreateAnswers) (shmName : ShmName) (flags : Flags) :
    ClientScope PublisherCreateError (Fd × PublisherObject) := do
  let mode ← found (executionMode flags) .publisherModeFlagsInvalid
  let (shmFd, sharedData) ← createAndMapSharedData answers shmName
  let epollFd ← .acquire .descriptor answers.epollCreate .epollCreateFailed
  let brokerFd ← connectToBroker answers.broker .brokerSocketCreateFailed .brokerConnectFailed
  let spaceAvailableEventFd ← .acquire .descriptor answers.spaceAvailableEventfd
    .spaceAvailableEventFdCreateFailed
  .check answers.addSpaceAvailable .spaceAvailableEpollAddFailed
  .check answers.sendRegistration .topicRegistrationSendFailed
  let publishWorkEventFd ← .acquire .descriptor answers.publishWorkEventfd
    .publishWorkEventFdCreateFailed
  .check answers.addPublishWork .publishWorkEpollAddFailed
  .check answers.signalPublishWork .publishWorkInitialSignalFailed
  match mode with
  | .synchronous =>
      pure (shmFd,
        { client := untracked answers.mapped (some brokerFd) []
          shmName := some shmName
          sharedData := some sharedData
          epollFd := some epollFd
          spaceAvailableEventFd := some spaceAvailableEventFd
          publishWorkEventFd := some publishWorkEventFd
          shutdownEventFd := none
          workerExitEventFd := none })
  | .asynchronous =>
      let shutdownEventFd ← .acquire .descriptor answers.shutdownEventfd
        .shutdownEventFdCreateFailed
      .check answers.addShutdown .shutdownEpollAddFailed
      let workerExitEventFd ← .acquire .descriptor answers.workerExitEventfd
        .workerExitEventFdCreateFailed
      pure (shmFd,
        { client := untracked answers.mapped (some brokerFd) []
          shmName := some shmName
          sharedData := some sharedData
          epollFd := some epollFd
          spaceAvailableEventFd := some spaceAvailableEventFd
          publishWorkEventFd := some publishWorkEventFd
          shutdownEventFd := some shutdownEventFd
          workerExitEventFd := some workerExitEventFd })

/-- What is left in an object that was moved from or released; `closed` is its history. -/
def emptied (object : PublisherObject) (closed : List Fd) : PublisherObject where
  client :=
    { process := { object.client.process with publisher :=
        { object.client.process.publisher with
          dataAvailableEventFds := []
          subscriberSlotIndexByDataAvailableEventFd := ∅ } }
      brokerFd := none
      closed }
  shmName := none
  sharedData := none
  epollFd := none
  spaceAvailableEventFd := none
  publishWorkEventFd := none
  shutdownEventFd := none
  workerExitEventFd := none

/-- What `release_resources` gives back, in its order. -/
def releases (object : PublisherObject) : List Obligation :=
  closeFdVariables [object.client.brokerFd, object.publishWorkEventFd,
    object.spaceAvailableEventFd, object.shutdownEventFd, object.workerExitEventFd] ++
  object.client.process.publisher.dataAvailableEventFds.map closeOne ++
  closeFdVariables [object.epollFd] ++
  (object.sharedData.map fun address => .release (.mapping address)).toList ++
  (object.shmName.map .unlink).toList

/-- `release_resources` once the worker has been joined. -/
def releaseResources (object : PublisherObject) (kernel : ClientKernel) :
    PublisherObject × ClientKernel :=
  (object.emptied object.client.closed, kernel.cleanAll object.releases)

/-- How `create` ends, if it does: an allocation may throw, and a registration may never
arrive. -/
inductive Creation
  | created (object : PublisherObject)
  | failed (error : PublisherCreateError)
  | threw

/-- The part of `create` after the construction of the object.  Other failures than those
of the guarded part destroy it. -/
def finishCreate (answers : PublisherCreateAnswers) (flags : Flags) (object : PublisherObject)
    (kernel : ClientKernel) : Option (Creation × ClientKernel) := do
  let registered := object.client.receiveAndTrackInitialSubscriberRegistrations
    answers.subscriberCount answers.registrations
  let kernel ← receiveDescriptors kernel registered.received
  let kernel := closeLogged kernel object.client.closed registered.client.closed
  let object := { object with client := registered.client }
  let destroyed := (object.releaseResources kernel).2
  match registered.result with
  | .waiting => none
  | .threw => some (.threw, destroyed)
  | .returned (.error error) => some (.failed (.initialRegistration error), destroyed)
  | .returned (.ok ()) =>
      if answers.addBroker = false then some (.failed .brokerEpollAddFailed, destroyed)
      else if executionMode flags = some .asynchronous ∧ answers.startRunThread = false then
        some (.failed .runThreadCreateFailed, destroyed)
      else some (.created object, kernel)

/-- `create`; the guard of the shared memory's descriptor closes it in any case. -/
def create (answers : PublisherCreateAnswers) (shmName : ShmName) (flags : Flags)
    (kernel : ClientKernel) : Option (Creation × ClientKernel) := do
  let (acquired, kernel) ← (acquireResources answers shmName flags).run kernel
  match acquired with
  | .error error => some (.failed error, kernel)
  | .ok (shmFd, object) =>
      let (creation, kernel) ← finishCreate answers flags object kernel
      some (creation, kernel.clean (closeOne shmFd))

end PublisherObject

end DriveBus.Clients
