import DriveBus.Clients.Obligations
import DriveBus.Library.Transition
import DriveBus.SharedMemory.Delivery

/-!
# What a process acquires

A process with any number of publishers and subscribers, which it creates, uses, moves and
destroys in any order, while any call may fail and records bring further descriptors.
Whatever is open belongs to one living object, once; so nothing is lost, nothing is closed
twice, and a process that has destroyed its objects has nothing left.  The mappings are those
that publishers make of their own memory; attachments are followed by their descriptors.
-/

namespace DriveBus.Clients

open DriveBus.ByteMemory DriveBus.GuardedScope DriveBus.Transition DriveBus.UnorderedMap

open DriveBus.ControlPlane (Fd TopicId BrokerMessage kMaxMessageSize)

open DriveBus.SharedMemory (SharedData EventFdTable)

/-! ## Objects of both classes -/

inductive ClientObject
  | subscriber (object : SubscriberObject)
  | publisher (object : PublisherObject)

/-- Whether a running worker is stopped for a move, and what the calls of the move give. -/
structure TransferAnswers where
  restart : Bool
  drainShutdown : Bool
  drainWorkerExit : Bool
  startRunThread : Bool

namespace ClientObject

/-- The default values of the members, and what moving them leaves behind. -/
def emptied : ClientObject → ClientObject
  | .subscriber _ => .subscriber .empty
  | .publisher object => .publisher (object.emptied [])

def releaseResources (object : ClientObject) (kernel : ClientKernel) :
    ClientObject × ClientKernel :=
  match object with
  | .subscriber object =>
      let released := object.releaseResources kernel
      (.subscriber released.1, released.2)
  | .publisher object =>
      let released := object.releaseResources kernel
      (.publisher released.1, released.2)

/-- Objects of one class. -/
def SameClass : ClientObject → ClientObject → Bool
  | .subscriber _, .subscriber _ | .publisher _, .publisher _ => true
  | _, _ => false

/-- `take_resources_from`: whether it throws, the destination, the source and the kernel.
Every member of the destination is overwritten. -/
def takeResourcesFrom (answers : TransferAnswers) (destination source : ClientObject)
    (kernel : ClientKernel) : Bool × ClientObject × ClientObject × ClientKernel :=
  if answers.restart = true ∧
      (answers.drainShutdown = false ∨ answers.drainWorkerExit = false) then
    (true, destination, source, kernel)
  else if answers.restart = true ∧ answers.startRunThread = false then
    let released := source.releaseResources kernel
    (true, released.1, source.emptied, released.2)
  else (false, source, source.emptied, kernel)

end ClientObject

/-! ## The process -/

structure ClientProcess where
  kernel : ClientKernel
  objects : Map ℕ ClientObject

inductive ProcessAction
  | createSubscriber (id : ℕ) (answers : SubscriberCreateAnswers) (topicIds : List TopicId)
      (flags : Flags) (callback : Bool)
  | createPublisher (id : ℕ) (answers : PublisherCreateAnswers) (shmName : ShmName)
      (flags : Flags)
  /-- A subscriber's receive loop takes a record, with old contents in its buffer. -/
  | receiveSubscriber (id : ℕ) (receipt : ControlReceipt) (buffer : Memory)
  /-- A subscriber reads messages. -/
  | read (id : ℕ) (eventFd : FdVariable) (subscriberReadIndex : ℕ) (expectedSeq : ℤ)
  /-- A publisher's receive loop takes a record. -/
  | receivePublisher (id : ℕ) (receipt : Receipt TrackAnswers) (buffer : Memory)
  /-- A publisher publishes, or others change its mapping and its eventfds. -/
  | work (id : ℕ) (shared : SharedData) (eventFds : EventFdTable) (seq : ℤ)
  | moveConstruct (source destination : ℕ) (answers : TransferAnswers)
  | moveAssign (source destination : ℕ) (answers : TransferAnswers)
  | destroy (id : ℕ)

namespace ClientProcess

def initial : ClientProcess where
  kernel := .initial
  objects := ∅

def setObject (process : ClientProcess) (id : ℕ) (object : ClientObject)
    (kernel : ClientKernel) : ClientProcess where
  kernel := kernel
  objects := process.objects.insert id object

def createSubscriber (process : ClientProcess) (id : ℕ) (answers : SubscriberCreateAnswers)
    (topicIds : List TopicId) (flags : Flags) (callback : Bool) : Option ClientProcess :=
  (SubscriberObject.create answers topicIds flags callback process.kernel).map
    fun (result, kernel) =>
      match result with
      | .ok object => process.setObject id (.subscriber object) kernel
      | .error _ => { process with kernel }

def createPublisher (process : ClientProcess) (id : ℕ) (answers : PublisherCreateAnswers)
    (shmName : ShmName) (flags : Flags) : Option ClientProcess :=
  (PublisherObject.create answers shmName flags process.kernel).map fun (creation, kernel) =>
    match creation with
    | .created object => process.setObject id (.publisher object) kernel
    | .failed _ | .threw => { process with kernel }

def receiveSubscriber (process : ClientProcess) (id : ℕ) (object : SubscriberObject)
    (receipt : ControlReceipt) (buffer : Memory) : Option ClientProcess :=
  let run := processBrokerControlMessages [receipt] buffer object.client
  (receiveDescriptors process.kernel run.received).map fun kernel =>
    process.setObject id (.subscriber { object with client := run.client })
      (closeLogged kernel object.client.closed run.client.closed)

def read (process : ClientProcess) (id : ℕ) (object : SubscriberObject) (eventFd : FdVariable)
    (subscriberReadIndex : ℕ) (expectedSeq : ℤ) : Option ClientProcess :=
  (object.client.publisherAttachmentByDataAvailableEventFd.lookup eventFd).map
    fun attachment => process.setObject id
      (.subscriber { object with client := { object.client with
        publisherAttachmentByDataAvailableEventFd :=
          object.client.publisherAttachmentByDataAvailableEventFd.insert eventFd
            { attachment with subscriberReadIndex, expectedSeq } } })
      process.kernel

def receivePublisher (process : ClientProcess) (id : ℕ) (object : PublisherObject)
    (receipt : Receipt TrackAnswers) (buffer : Memory) : Option ClientProcess :=
  let run := PublisherClient.processBrokerControlMessages [receipt] buffer object.client
  (receiveDescriptors process.kernel run.received).map fun kernel =>
    process.setObject id (.publisher { object with client := run.client })
      (closeLogged kernel object.client.closed run.client.closed)

def work (process : ClientProcess) (id : ℕ) (object : PublisherObject) (shared : SharedData)
    (eventFds : EventFdTable) (seq : ℤ) : ClientProcess :=
  process.setObject id
    (.publisher { object with client := { object.client with
      process :=
        { shared
          publisher := { object.client.process.publisher with seq }
          eventFds } } })
    process.kernel

/-- An object whose construction throws does not come into being. -/
def moveConstruct (process : ClientProcess) (source destination : ℕ) (object : ClientObject)
    (answers : TransferAnswers) : ClientProcess :=
  let (threw, constructed, left, kernel) :=
    ClientObject.takeResourcesFrom answers object.emptied object process.kernel
  if threw then process.setObject source left kernel
  else (process.setObject destination constructed kernel).setObject source left kernel

/-- An object is not assigned to itself. -/
def moveAssign (process : ClientProcess) (source destination : ℕ)
    (object assigned : ClientObject) (answers : TransferAnswers) : ClientProcess :=
  if source = destination then process
  else
    let released := assigned.releaseResources process.kernel
    let (_, taken, left, kernel) :=
      ClientObject.takeResourcesFrom answers released.1 object released.2
    (process.setObject destination taken kernel).setObject source left kernel

def destroy (process : ClientProcess) (id : ℕ) (object : ClientObject) : ClientProcess where
  kernel := (object.releaseResources process.kernel).2
  objects := process.objects.erase id

def next (process : ClientProcess) : ProcessAction → Option ClientProcess
  | .createSubscriber id answers topicIds flags callback =>
      match process.objects.lookup id with
      | none => process.createSubscriber id answers topicIds flags callback
      | some _ => none
  | .createPublisher id answers shmName flags =>
      match process.objects.lookup id with
      | none => process.createPublisher id answers shmName flags
      | some _ => none
  | .receiveSubscriber id receipt buffer =>
      match process.objects.lookup id with
      | some (.subscriber object) => process.receiveSubscriber id object receipt buffer
      | _ => none
  | .read id eventFd subscriberReadIndex expectedSeq =>
      match process.objects.lookup id with
      | some (.subscriber object) =>
          process.read id object eventFd subscriberReadIndex expectedSeq
      | _ => none
  | .receivePublisher id receipt buffer =>
      match process.objects.lookup id with
      | some (.publisher object) => process.receivePublisher id object receipt buffer
      | _ => none
  | .work id shared eventFds seq =>
      match process.objects.lookup id with
      | some (.publisher object) => some (process.work id object shared eventFds seq)
      | _ => none
  | .moveConstruct source destination answers =>
      match process.objects.lookup source, process.objects.lookup destination with
      | some object, none => some (process.moveConstruct source destination object answers)
      | _, _ => none
  | .moveAssign source destination answers =>
      match process.objects.lookup source, process.objects.lookup destination with
      | some object, some assigned =>
          if ClientObject.SameClass object assigned then
            some (process.moveAssign source destination object assigned answers)
          else none
      | _, _ => none
  | .destroy id => (process.objects.lookup id).map (process.destroy id)

end ClientProcess

/-- A process that uses the two client classes. -/
def clientProcess : System ClientProcess ProcessAction where
  initial := .initial
  next := ClientProcess.next

/-! ## The books -/

namespace ClientObject

def owes : ClientObject → Multiset Obligation
  | .subscriber object => object.owes
  | .publisher object => object.owes

/-- The tables of a publisher agree. -/
def Sound : ClientObject → Prop
  | .subscriber _ => True
  | .publisher object => object.client.Registered

theorem owes_emptied (object : ClientObject) : object.emptied.owes = 0 := by
  cases object <;> rfl

theorem sound_emptied (object : ClientObject) : object.emptied.Sound := by
  cases object with
  | subscriber object => exact trivial
  | publisher object => exact ⟨List.nodup_nil, fun {_} => ⟨nofun, nofun⟩⟩

/-- The destructor, and the assignment before it takes anything over. -/
theorem releaseResources_owes {object : ClientObject} {kernel : ClientKernel}
    {owed : Multiset Obligation} (howes : kernel.Owes (object.owes + owed)) :
    (object.releaseResources kernel).2.Owes owed ∧
      (object.releaseResources kernel).1.owes = 0 ∧
        (object.releaseResources kernel).1.Sound := by
  cases object with
  | subscriber object =>
      obtain ⟨hkernel, hobject⟩ := SubscriberObject.releaseResources_owes howes
      exact ⟨hkernel, hobject, trivial⟩
  | publisher object =>
      obtain ⟨hkernel, hobject⟩ := PublisherObject.releaseResources_owes howes
      exact ⟨hkernel, hobject, List.nodup_nil, fun {_} => ⟨nofun, nofun⟩⟩

/-- However a move ends, what the source owed is owed by one of the two or given back; a
destination whose construction throws owes nothing. -/
theorem takeResourcesFrom_owes {destination source : ClientObject} {kernel : ClientKernel}
    {owed : Multiset Obligation} (answers : TransferAnswers) (hempty : destination.owes = 0)
    (hdestination : destination.Sound) (hsource : source.Sound)
    (howes : kernel.Owes (source.owes + owed)) :
    let transfer := takeResourcesFrom answers destination source kernel
    transfer.2.2.2.Owes (transfer.2.1.owes + (transfer.2.2.1.owes + owed)) ∧
      (transfer.1 = true → transfer.2.1.owes = 0) ∧
        transfer.2.1.Sound ∧ transfer.2.2.1.Sound := by
  rw [takeResourcesFrom]
  split
  · refine ⟨?_, fun _ => hempty, hdestination, hsource⟩
    rwa [hempty, zero_add]
  split
  · obtain ⟨hkernel, hobject, hsound⟩ := releaseResources_owes howes
    refine ⟨?_, fun _ => hobject, hsound, sound_emptied source⟩
    rwa [hobject, owes_emptied, zero_add, zero_add]
  · refine ⟨?_, nofun, hsource, sound_emptied source⟩
    rwa [owes_emptied, zero_add]

end ClientObject

namespace ClientProcess

/-- What all objects owe. -/
def owed (process : ClientProcess) : Multiset Obligation :=
  total (fun _ object => object.owes) process.objects

structure Balanced (process : ClientProcess) : Prop where
  owes : process.kernel.Owes process.owed
  sound : ∀ id object, process.objects.lookup id = some object → object.Sound

variable {process process' : ClientProcess} {id : ℕ} {object : ClientObject}

/-- What the other objects owe. -/
def owedBeside (process : ClientProcess) (id : ℕ) : Multiset Obligation :=
  total (fun _ object => object.owes) (process.objects.erase id)

theorem owed_of_lookup (hlookup : process.objects.lookup id = some object) :
    process.owed = object.owes + process.owedBeside id :=
  total_eq_add_erase hlookup

theorem owed_of_absent (hlookup : process.objects.lookup id = none) :
    process.owed = process.owedBeside id := by
  refine (total_congr fun other => ?_).symm
  rw [weightAt, weightAt, lookup_erase]
  split
  next heq => rw [heq, hlookup]
  · rfl

theorem owed_setObject (kernel : ClientKernel) :
    (process.setObject id object kernel).owed = object.owes + process.owedBeside id := by
  have hlookup : (process.setObject id object kernel).objects.lookup id = some object :=
    AList.lookup_insert _
  rw [owed_of_lookup hlookup]
  congr 1
  refine total_congr fun other => ?_
  rw [weightAt, weightAt, lookup_erase, lookup_erase]
  split
  · rfl
  next hne => rw [ClientProcess.setObject, AList.lookup_insert_ne hne]

/-- Only one object changes. -/
theorem balanced_setObject {kernel : ClientKernel}
    (hothers : ∀ other stored, process.objects.lookup other = some stored → stored.Sound)
    (hsound : object.Sound) (howes : kernel.Owes (object.owes + process.owedBeside id)) :
    (process.setObject id object kernel).Balanced := by
  refine ⟨by rwa [owed_setObject], fun other stored hstored => ?_⟩
  rw [ClientProcess.setObject, lookup_insert] at hstored
  split at hstored
  · obtain rfl := Option.some.inj hstored
    exact hsound
  · exact hothers other stored hstored

theorem Balanced.setObject (hbalanced : process.Balanced) (object : ClientObject)
    {kernel : ClientKernel} (hsound : object.Sound)
    (howes : kernel.Owes (object.owes + process.owedBeside id)) :
    (process.setObject id object kernel).Balanced :=
  balanced_setObject hbalanced.sound hsound howes

/-- A kernel without the obligations that a failed call has met. -/
theorem Balanced.withKernel (hbalanced : process.Balanced) {kernel : ClientKernel}
    (howes : kernel.Owes process.owed) :
    ({ process with kernel } : ClientProcess).Balanced :=
  ⟨howes, hbalanced.sound⟩

/-! ## Steps -/

theorem Balanced.createSubscriber (hbalanced : process.Balanced)
    (habsent : process.objects.lookup id = none) {answers : SubscriberCreateAnswers}
    {topicIds : List TopicId} {flags : Flags} {callback : Bool}
    (hnext : process.createSubscriber id answers topicIds flags callback = some process') :
    process'.Balanced := by
  obtain ⟨⟨result, kernel⟩, hcreate, rfl⟩ := Option.map_eq_some_iff.mp hnext
  have howes := SubscriberObject.create_owes hbalanced.owes hcreate
  cases result with
  | ok object =>
      refine hbalanced.setObject (.subscriber object) trivial ?_
      rwa [owed_of_absent habsent] at howes
  | error error =>
      rw [SubscriberObject.resultOwes, zero_add] at howes
      exact hbalanced.withKernel howes

theorem Balanced.createPublisher (hbalanced : process.Balanced)
    (habsent : process.objects.lookup id = none) {answers : PublisherCreateAnswers}
    {shmName : ShmName} {flags : Flags}
    (hnext : process.createPublisher id answers shmName flags = some process') :
    process'.Balanced := by
  obtain ⟨⟨creation, kernel⟩, hcreate, rfl⟩ := Option.map_eq_some_iff.mp hnext
  obtain ⟨howes, hregistered⟩ := PublisherObject.create_owes hbalanced.owes hcreate
  cases creation with
  | created object =>
      refine hbalanced.setObject (.publisher object) (hregistered object rfl) ?_
      rwa [owed_of_absent habsent] at howes
  | failed error =>
      rw [PublisherObject.Creation.owes, zero_add] at howes
      exact hbalanced.withKernel howes
  | threw =>
      rw [PublisherObject.Creation.owes, zero_add] at howes
      exact hbalanced.withKernel howes

theorem Balanced.receiveSubscriber (hbalanced : process.Balanced) {object : SubscriberObject}
    (hobject : process.objects.lookup id = some (.subscriber object))
    {receipt : ControlReceipt} {buffer : Memory}
    (hnext : process.receiveSubscriber id object receipt buffer = some process') :
    process'.Balanced := by
  obtain ⟨kernel, hreceive, rfl⟩ := Option.map_eq_some_iff.mp hnext
  have hbooks := hbalanced.owes
  rw [owed_of_lookup hobject, ClientObject.owes, SubscriberObject.owes, add_assoc] at hbooks
  have hclosed := closeLogged_owes
    (processBrokerControlMessages_account [receipt] buffer object.client)
    (closed_grows [receipt] buffer object.client) (receiveDescriptors_owes hbooks hreceive)
  refine hbalanced.setObject (.subscriber _) trivial ?_
  rwa [← add_assoc] at hclosed

theorem Balanced.read (hbalanced : process.Balanced) {object : SubscriberObject}
    (hobject : process.objects.lookup id = some (.subscriber object)) {eventFd : FdVariable}
    {subscriberReadIndex : ℕ} {expectedSeq : ℤ}
    (hnext : process.read id object eventFd subscriberReadIndex expectedSeq = some process') :
    process'.Balanced := by
  obtain ⟨attachment, hlookup, rfl⟩ := Option.map_eq_some_iff.mp hnext
  have hbooks := hbalanced.owes
  rw [owed_of_lookup hobject, ClientObject.owes] at hbooks
  refine hbalanced.setObject (.subscriber _) trivial ?_
  rw [ClientObject.owes, SubscriberObject.owes]
  rw [SubscriberObject.owes] at hbooks
  have hheld : total (fun _ attachment => (PublisherAttachment.fds attachment : Multiset Fd))
      (object.client.publisherAttachmentByDataAvailableEventFd.insert eventFd
        { attachment with subscriberReadIndex, expectedSeq }) = object.client.held := by
    refine total_congr fun other => ?_
    rw [weightAt, weightAt, lookup_insert]
    split
    next heq =>
      rw [heq, hlookup]
      rfl
    · rfl
  change Kernel.Owes _ (Multiset.map closeOne (total _ _) + _ + _)
  rwa [hheld]

theorem Balanced.receivePublisher (hbalanced : process.Balanced) {object : PublisherObject}
    (hobject : process.objects.lookup id = some (.publisher object))
    {receipt : Receipt TrackAnswers} {buffer : Memory}
    (hnext : process.receivePublisher id object receipt buffer = some process') :
    process'.Balanced := by
  obtain ⟨kernel, hreceive, rfl⟩ := Option.map_eq_some_iff.mp hnext
  have hbooks := hbalanced.owes
  rw [owed_of_lookup hobject] at hbooks
  have hsettles := PublisherClient.processBrokerControlMessages_settles
    (hbalanced.sound id _ hobject) [receipt] buffer
  exact hbalanced.setObject (.publisher _) hsettles.registered
    (PublisherObject.client_owes hsettles.toAccounts hbooks hreceive)

theorem Balanced.work (hbalanced : process.Balanced) {object : PublisherObject}
    (hobject : process.objects.lookup id = some (.publisher object)) (shared : SharedData)
    (eventFds : EventFdTable) (seq : ℤ) :
    (process.work id object shared eventFds seq).Balanced := by
  have hbooks := hbalanced.owes
  rw [owed_of_lookup hobject] at hbooks
  have hregistered : object.client.Registered := hbalanced.sound id _ hobject
  exact hbalanced.setObject (.publisher _)
    ⟨hregistered.nodup, hregistered.mem_iff⟩ hbooks

/-- Two objects after a move between them. -/
theorem Balanced.setBoth (hbalanced : process.Balanced) {source destination : ℕ}
    (hne : source ≠ destination) {taken left : ClientObject} {kernel : ClientKernel}
    (hobject : process.objects.lookup source = some object) (htaken : taken.Sound)
    (hleft : left.Sound) {owed : Multiset Obligation}
    (howed : process.owedBeside destination = object.owes + owed)
    (howes : kernel.Owes (taken.owes + (left.owes + owed))) :
    ((process.setObject destination taken kernel).setObject source left kernel).Balanced := by
  have hkept : (process.setObject destination taken kernel).objects.lookup source =
      some object := by
    rw [ClientProcess.setObject, AList.lookup_insert_ne hne, hobject]
  have hbeside : (process.setObject destination taken kernel).owedBeside source =
      taken.owes + owed := by
    have hboth : (process.setObject destination taken kernel).owed = _ := owed_setObject kernel
    rw [owed_of_lookup hkept, howed, add_left_comm] at hboth
    exact add_left_cancel hboth
  refine balanced_setObject (fun other stored hstored => ?_) hleft ?_
  · rw [ClientProcess.setObject, lookup_insert] at hstored
    split at hstored
    · obtain rfl := Option.some.inj hstored
      exact htaken
    · exact hbalanced.sound other stored hstored
  · rwa [hbeside, add_left_comm]

theorem Balanced.moveConstruct (hbalanced : process.Balanced) {source destination : ℕ}
    (hobject : process.objects.lookup source = some object)
    (habsent : process.objects.lookup destination = none) (answers : TransferAnswers) :
    (process.moveConstruct source destination object answers).Balanced := by
  have hne : source ≠ destination := fun heq => by
    rw [heq, habsent] at hobject
    cases hobject
  have hbooks := hbalanced.owes
  rw [owed_of_lookup hobject] at hbooks
  obtain ⟨howes, hthrew, htaken, hleft⟩ := ClientObject.takeResourcesFrom_owes answers
    object.owes_emptied object.sound_emptied (hbalanced.sound source object hobject) hbooks
  rw [ClientProcess.moveConstruct]
  dsimp only
  split
  next heq =>
    rw [hthrew heq, zero_add] at howes
    exact hbalanced.setObject _ hleft howes
  · refine hbalanced.setBoth hne hobject htaken hleft ?_ howes
    rw [← owed_of_absent habsent, owed_of_lookup hobject]

theorem Balanced.moveAssign (hbalanced : process.Balanced) {source destination : ℕ}
    {assigned : ClientObject} (hobject : process.objects.lookup source = some object)
    (hassigned : process.objects.lookup destination = some assigned)
    (answers : TransferAnswers) :
    (process.moveAssign source destination object assigned answers).Balanced := by
  rw [ClientProcess.moveAssign]
  split
  · exact hbalanced
  next hne =>
    have hbooks := hbalanced.owes
    rw [owed_of_lookup hassigned] at hbooks
    obtain ⟨hreleased, hempty, hsound⟩ := ClientObject.releaseResources_owes hbooks
    have hkept : (process.objects.erase destination).lookup source = some object := by
      rw [AList.lookup_erase_ne hne, hobject]
    have howed : process.owedBeside destination = object.owes +
        total (fun _ object => object.owes) ((process.objects.erase destination).erase source) :=
      total_eq_add_erase hkept
    rw [howed] at hreleased
    obtain ⟨howes, -, htaken, hleft⟩ := ClientObject.takeResourcesFrom_owes answers hempty hsound
      (hbalanced.sound source object hobject) hreleased
    exact hbalanced.setBoth hne hobject htaken hleft howed howes

theorem Balanced.destroy (hbalanced : process.Balanced)
    (hobject : process.objects.lookup id = some object) :
    (process.destroy id object).Balanced := by
  have hbooks := hbalanced.owes
  rw [owed_of_lookup hobject] at hbooks
  refine ⟨(ClientObject.releaseResources_owes hbooks).1, fun other stored hstored => ?_⟩
  rw [ClientProcess.destroy, lookup_erase] at hstored
  split at hstored
  · cases hstored
  · exact hbalanced.sound other stored hstored

theorem Balanced.next (hbalanced : process.Balanced) {action : ProcessAction}
    (hnext : process.next action = some process') : process'.Balanced := by
  cases action with
  | createSubscriber id answers topicIds flags callback =>
      simp only [ClientProcess.next] at hnext
      split at hnext
      next habsent => exact hbalanced.createSubscriber habsent hnext
      · cases hnext
  | createPublisher id answers shmName flags =>
      simp only [ClientProcess.next] at hnext
      split at hnext
      next habsent => exact hbalanced.createPublisher habsent hnext
      · cases hnext
  | receiveSubscriber id receipt buffer =>
      simp only [ClientProcess.next] at hnext
      split at hnext
      next object hobject => exact hbalanced.receiveSubscriber hobject hnext
      · cases hnext
  | read id eventFd subscriberReadIndex expectedSeq =>
      simp only [ClientProcess.next] at hnext
      split at hnext
      next object hobject => exact hbalanced.read hobject hnext
      · cases hnext
  | receivePublisher id receipt buffer =>
      simp only [ClientProcess.next] at hnext
      split at hnext
      next object hobject => exact hbalanced.receivePublisher hobject hnext
      · cases hnext
  | work id shared eventFds seq =>
      simp only [ClientProcess.next] at hnext
      split at hnext
      next object hobject =>
        obtain rfl := Option.some.inj hnext
        exact hbalanced.work hobject shared eventFds seq
      · cases hnext
  | moveConstruct source destination answers =>
      simp only [ClientProcess.next] at hnext
      split at hnext
      next object hobject habsent =>
        obtain rfl := Option.some.inj hnext
        exact hbalanced.moveConstruct hobject habsent answers
      · cases hnext
  | moveAssign source destination answers =>
      simp only [ClientProcess.next] at hnext
      split at hnext
      next object assigned hobject hassigned =>
        split at hnext
        · obtain rfl := Option.some.inj hnext
          exact hbalanced.moveAssign hobject hassigned answers
        · cases hnext
      · cases hnext
  | destroy id =>
      obtain ⟨object, hobject, rfl⟩ := Option.map_eq_some_iff.mp hnext
      exact hbalanced.destroy hobject

theorem balanced_initial : initial.Balanced :=
  ⟨Kernel.Owes.initial, fun _ _ hlookup => by cases hlookup⟩

/-- One object at most owes to give a resource back. -/
theorem Balanced.owner_unique (hbalanced : process.Balanced) {resource : Resource}
    {first second : ℕ} {object other : ClientObject}
    (hfirst : process.objects.lookup first = some object)
    (hsecond : process.objects.lookup second = some other)
    (howes : .release resource ∈ object.owes) (howes' : .release resource ∈ other.owes) :
    first = second := by
  by_contra hne
  have hkept : (process.objects.erase first).lookup second = some other := by
    rw [AList.lookup_erase_ne (Ne.symm hne), hsecond]
  have howed : process.owedBeside first = other.owes + _ := total_eq_add_erase hkept
  have hval := hbalanced.owes.inUse
  rw [owed_of_lookup hfirst, howed, Multiset.filterMap_add] at hval
  have hnodup := process.kernel.inUse.nodup
  rw [hval, Multiset.nodup_add] at hnodup
  refine Multiset.disjoint_left.mp hnodup.2.2
    (Multiset.mem_filterMap _ _ |>.mpr ⟨_, howes, rfl⟩)
    (Multiset.mem_filterMap _ _ |>.mpr ⟨_, Multiset.mem_add.mpr (.inl howes'), rfl⟩)

theorem mem_owed {obligation : Obligation} :
    obligation ∈ process.owed ↔ ∃ id object, process.objects.lookup id = some object ∧
      obligation ∈ object.owes := by
  rw [owed, mem_total]
  refine exists_congr fun id => ?_
  rw [weightAt]
  cases process.objects.lookup id with
  | none => simp
  | some object => simp

theorem Balanced.mem_inUse_iff (hbalanced : process.Balanced) {resource : Resource} :
    resource ∈ process.kernel.inUse ↔ .release resource ∈ process.owed := by
  rw [← Finset.mem_val, hbalanced.owes.inUse, Multiset.mem_filterMap]
  constructor
  · rintro ⟨obligation, hmem, heq⟩
    cases obligation with
    | release other =>
        obtain rfl := Option.some.inj heq
        exact hmem
    | unlink name => cases heq
  · exact fun hmem => ⟨_, hmem, rfl⟩

end ClientProcess

theorem balanced_of_reachable {process : ClientProcess}
    (hreach : clientProcess.Reachable process) : process.Balanced :=
  hreach.invariant ClientProcess.Balanced ClientProcess.balanced_initial
    fun _ _ _ hbalanced _ hnext => hbalanced.next hnext

/-- Whatever a process creates, receives, moves and destroys, and whichever calls fail:
nothing is given back that is not in use, what is in use belongs to one object, which owes
it once, what an object owes is in use, and every name in existence is that of an object.
Without objects there is nothing left. -/
theorem resources_owned {process : ClientProcess} (hreach : clientProcess.Reachable process) :
    process.kernel.stray = [] ∧
    (∀ resource ∈ process.kernel.inUse, ∃! id, ∃ object,
      process.objects.lookup id = some object ∧ .release resource ∈ object.owes) ∧
    (∀ id object, process.objects.lookup id = some object →
      (object.owes.filterMap Cleanup.resource).Nodup ∧
        ∀ resource, .release resource ∈ object.owes → resource ∈ process.kernel.inUse) ∧
    (∀ name ∈ process.kernel.names, ∃ id object,
      process.objects.lookup id = some object ∧ .unlink name ∈ object.owes) ∧
    (process.objects = ∅ → process.kernel.inUse = ∅ ∧ process.kernel.names = ∅) := by
  have hbalanced := balanced_of_reachable hreach
  have howner : ∀ resource ∈ process.kernel.inUse, ∃ id object,
      process.objects.lookup id = some object ∧ .release resource ∈ object.owes :=
    fun resource hmem => ClientProcess.mem_owed.mp (hbalanced.mem_inUse_iff.mp hmem)
  have hnames : ∀ name ∈ process.kernel.names, ∃ id object,
      process.objects.lookup id = some object ∧ .unlink name ∈ object.owes :=
    fun name hmem => ClientProcess.mem_owed.mp (hbalanced.owes.names name hmem)
  refine ⟨hbalanced.owes.stray, fun resource hmem => ?_, fun id object hobject => ⟨?_, ?_⟩,
    hnames, fun hempty => ⟨?_, ?_⟩⟩
  · obtain ⟨id, object, hobject, howes⟩ := howner resource hmem
    refine ⟨id, ⟨object, hobject, howes⟩, ?_⟩
    rintro other ⟨stored, hstored, howes'⟩
    exact hbalanced.owner_unique hstored hobject howes' howes
  · have hnodup := process.kernel.inUse.nodup
    rw [hbalanced.owes.inUse, ClientProcess.owed_of_lookup hobject, Multiset.filterMap_add,
      Multiset.nodup_add] at hnodup
    exact hnodup.1
  · exact fun resource howes =>
      hbalanced.mem_inUse_iff.mpr (ClientProcess.mem_owed.mpr ⟨id, object, hobject, howes⟩)
  · refine Finset.eq_empty_of_forall_notMem fun resource hmem => ?_
    obtain ⟨id, object, hobject, -⟩ := howner resource hmem
    rw [hempty] at hobject
    cases hobject
  · refine Finset.eq_empty_of_forall_notMem fun name hmem => ?_
    obtain ⟨id, object, hobject, -⟩ := hnames name hmem
    rw [hempty] at hobject
    cases hobject

/-- An asynchronous subscriber gets one attachment, a publisher fails to connect its second
eventfd to its epoll instance, and the subscriber is moved. -/
def movedSubscriber : List ProcessAction :=
  [.createSubscriber 0
      { epollCreate := some 3
        broker := ⟨some 4, fun attempt => attempt = 1⟩
        sendRegistration := true
        addBroker := true
        shutdownEventfd := some 5
        addShutdown := true
        workerExitEventfd := some 6
        startRunThread := true } [1] kAsynchronous true,
    .receiveSubscriber 0
      (.record
        (recvmsg kMaxMessageSize kSubscriberControlSize
          (BrokerMessage.subscriberAttachmentBatch [⟨1, 1, 9, 0, 50, 51⟩] [52]).packet.bytes
          [7, 8, 9]) fun _ => .generous) (fun _ => 0),
    .createPublisher 1
      { shmUnlink := true
        shmOpen := some 10
        ftruncate := true
        mmap := some 1000
        mapped := SharedMemory.zeroedMapping
        epollCreate := some 11
        broker := ⟨some 12, fun _ => true⟩
        spaceAvailableEventfd := some 13
        addSpaceAvailable := true
        sendRegistration := true
        publishWorkEventfd := some 14
        addPublishWork := false
        signalPublishWork := true
        shutdownEventfd := none
        addShutdown := true
        workerExitEventfd := none
        subscriberCount := none
        registrations := []
        addBroker := true
        startRunThread := true } "camera" kSynchronous,
    .moveConstruct 0 2 ⟨true, true, true, true⟩]

theorem resources_owned_movedSubscriber : ∃ process, clientProcess.Reachable process ∧
    process.kernel.inUse = ([3, 4, 5, 6, 7, 8, 9].map Resource.descriptor).toFinset ∧
    process.kernel.names = ∅ ∧
    ∃! id, ∃ object, process.objects.lookup id = some object ∧ closeOne 8 ∈ object.owes := by
  have hview : (clientProcess.run clientProcess.initial movedSubscriber).map (fun process =>
      (process.kernel.inUse, process.kernel.names)) =
        some (([3, 4, 5, 6, 7, 8, 9].map Resource.descriptor).toFinset, ∅) := by decide +kernel
  obtain ⟨process, hrun, hkernel⟩ := Option.map_eq_some_iff.mp hview
  obtain ⟨hinUse, hnames⟩ := Prod.mk.inj hkernel
  have hreach : clientProcess.Reachable process :=
    System.ReachableWith.initial.run (fun _ _ _ => trivial) hrun
  refine ⟨process, hreach, hinUse, hnames, ?_⟩
  exact (resources_owned hreach).2.1 (.descriptor 8) (by rw [hinUse]; decide)

end DriveBus.Clients
