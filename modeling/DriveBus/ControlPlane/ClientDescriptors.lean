import DriveBus.ControlPlane.Descriptors

/-!
# The broker's set of client descriptors

`client_fds` should hold the accepted connections that are still open, since the
shutdown closes every number in it.  A status query and a receive error erase the
number that they close; the orderly closure does not, and the number stays behind.
Once the kernel has handed it out again, as an event descriptor or as a descriptor
received from a publisher, the shutdown closes it for two holders.
-/

namespace DriveBus.ControlPlane

open DriveBus.Contract DriveBus.DescriptorTable DriveBus.Transition DriveBus.UnorderedMap

/-! ## The process -/

/-- The descriptors that `main` opens before its loop. -/
structure MainFds where
  listenFd : Fd
  epollFd : Fd
  shutdownFd : Fd
  distinct : [listenFd, epollFd, shutdownFd].Nodup

def MainFds.entries (fds : MainFds) : List (Fd × Owner) :=
  [(fds.listenFd, .main), (fds.epollFd, .main), (fds.shutdownFd, .main)]

/-- The network with the descriptor table of the broker's process. -/
structure Process where
  world : World
  table : Table Fd Owner

/-- `refuse` is an accepted connection that `add_fd_to_epoll` fails for. -/
inductive ProcessAction
  | event (action : Action)
  | refuse (fd : Fd)

/-- What the handler of an action has done, unless it stopped the broker. -/
def World.handled (world : World) : Action → Option Session
  | .receive fd env => (world.connections fd).bind fun connection =>
      match connection.inbox with
      | packet :: _ =>
          (handleRecord env fd packet (.start world.broker)).toOption.map Prod.fst
      | [] => (handleClosure env fd (.start world.broker)).toOption
  | .receiveError fd env => (handleReceiveError env fd (.start world.broker)).toOption
  | _ => none

namespace Process

/-- The numbers that the kernel hands out in an action. -/
def acquired (process : Process) : ProcessAction → List (Fd × Owner)
  | .event (.accept fd) => [(fd, .connection)]
  | .event (.receive fd env) =>
      (((process.world.connections fd).bind (·.inbox.head?)).map (·.installs fd)).getD [] ++
        createdEvents env process.world.broker.nextAttachmentId
          (((process.world.handled (.receive fd env)).map (·.created)).getD 0)
  | .event _ => []
  | .refuse fd => [(fd, .connection)]

/-- The numbers that the broker closes in an action, in order. -/
def closed (process : Process) : ProcessAction → List Fd
  | .event action => ((process.world.handled action).map (·.closed)).getD []
  | .refuse fd => [fd]

def setClientFds (process : Process) (clientFds : Finset Fd) : World :=
  { process.world with broker := { process.world.broker with clientFds } }

def next (process : Process) (action : ProcessAction) : Option Process :=
  (match action with
    | .event action => process.world.next action
    | .refuse fd =>
        if process.world.exited = none then
          some (process.setClientFds ((insert fd process.world.broker.clientFds).erase fd))
        else none).map fun world =>
    { world
      table := closeAll (install process.table (process.acquired action))
        (process.closed action) }

/-- The kernel hands out numbers that are not in use. -/
def KernelAnswers (process : Process) (action : ProcessAction) : Prop :=
  Fresh process.table (process.acquired action)

/-- `recvmsg` returns zero: the peer has closed its end, or it has sent an empty
record. -/
def ClosesOrderly (process : Process) : ProcessAction → Prop
  | .event (.receive fd _) => ∃ connection, process.world.connections fd = some connection ∧
      ∀ packet ∈ connection.inbox.head?, packet.bytes = []
  | _ => False

end Process

/-- The broker's process, with the descriptors that `main` has opened. -/
def brokerProcess (main : MainFds) : System Process ProcessAction where
  initial := ⟨World.initial, install (fun _ => none) main.entries⟩
  next := Process.next

/-! ## The shutdown -/

/-- The second loop closes the event descriptors of a subscriber and the shared memory
of a publisher. -/
def Broker.roleClosings (broker : Broker) (fd : Fd) : BrokerRole → List (Fd × Owner)
  | .subscriber => eventEntries (broker.attachmentsOf fd)
  | .publisher => (broker.shmFdByPublisherFd.lookup fd).toList.map (·, .sharedMemory fd)

/-- The numbers that the end of `main` closes, each for the holder that it is taken from;
`clients` is the order in which the first loop visits `client_fds`. -/
def Broker.shutdownClosings (broker : Broker) (main : MainFds) (clients : List Fd) :
    List (Fd × Owner) :=
  main.entries ++ clients.map (·, .connection) ++
    broker.roleByFd.entries.flatMap fun entry => broker.roleClosings entry.1 entry.2

namespace Process

/-- `client_fds` is the set of the accepted connections that are still open. -/
def ClientFdsExact (process : Process) : Prop :=
  ∀ fd, fd ∈ process.world.broker.clientFds ↔ (process.world.connections fd).isSome

/-- Every number that the action closes belongs to the one that gives it up: a holder in
the broker's maps, or an accept whose connection is refused. -/
def ClosesItsOwn (process : Process) (action : ProcessAction) : Prop :=
  ∃ closings : List (Fd × Owner), closings.map Prod.fst = process.closed action ∧
    (∀ pair ∈ closings, pair ∈ process.world.broker.held ∨ pair ∈ process.acquired action) ∧
    (closeByOwner (install process.table (process.acquired action)) closings).isSome

/-- Every number that the shutdown closes still belongs to the holder that it is taken
from, in whatever order `client_fds` is visited. -/
def ShutsDownCleanly (process : Process) (main : MainFds) : Prop :=
  ∀ clients : List Fd, (clients : Multiset Fd) = process.world.broker.clientFds.val →
    (closeByOwner process.table (process.world.broker.shutdownClosings main clients)).isSome

end Process

/-! ## Runs -/

/-- What holds at any time of a run without an orderly closure. -/
structure Sound (main : MainFds) (process : Process) : Prop where
  exact : process.ClientFdsExact
  bounded : process.world.broker.nextAttachmentId < 2 ^ 64
  owned : Owned process.table (main.entries + process.world.broker.held)

theorem sound_initial (main : MainFds) : Sound main (brokerProcess main).initial where
  exact fd := by simp [brokerProcess, World.initial, Broker.initial]
  bounded := show 1 < 2 ^ 64 by decide
  owned := by
    have hfresh : Fresh (fun _ => none : Table Fd Owner) main.entries :=
      ⟨main.distinct, fun _ _ => rfl⟩
    have howned := Owned.zero.install hfresh
    rw [zero_add] at howned
    have hheld : Broker.initial.held = 0 := rfl
    change Owned _ (_ + Broker.initial.held)
    rwa [hheld, add_zero]

section Steps

variable {main : MainFds} {process process' : Process}

/-- The set stays exact when only one connection changes, and its membership with it. -/
theorem Process.ClientFdsExact.change (hexact : process.ClientFdsExact)
    {process' : Process} (fd : Fd)
    (hfd : fd ∈ process'.world.broker.clientFds ↔ (process'.world.connections fd).isSome)
    (hclientFds : ∀ other, other ≠ fd → (other ∈ process'.world.broker.clientFds ↔
      other ∈ process.world.broker.clientFds))
    (hconnections : ∀ other, other ≠ fd →
      process'.world.connections other = process.world.connections other) :
    process'.ClientFdsExact := by
  intro other
  by_cases heq : other = fd
  · rw [heq]
    exact hfd
  · rw [hclientFds other heq, hconnections other heq]
    exact hexact other

/-- The effect of an action that the broker survives, as far as its descriptors go. -/
structure Effect (process : Process) (action : ProcessAction) (process' : Process) : Prop
    where
  exact : process'.ClientFdsExact
  bounded : process'.world.broker.nextAttachmentId < 2 ^ 64
  balance : ∃ closings : List (Fd × Owner), closings.map Prod.fst = process.closed action ∧
    process'.world.broker.held + closings ≤
      process.world.broker.held + process.acquired action

theorem Sound.mem_clientFds (hsound : Sound main process) {fd : Fd} {connection : Connection}
    (hconnection : process.world.connections fd = some connection) :
    fd ∈ process.world.broker.clientFds := by
  rw [hsound.exact fd, hconnection]
  rfl

theorem World.setConnection_ne (world : World) {fd other : Fd} (hne : other ≠ fd)
    (connection : Option Connection) :
    (world.setConnection fd connection).connections other = world.connections other :=
  Function.update_of_ne hne _ _

@[simp]
theorem World.setConnection_self (world : World) (fd : Fd) (connection : Option Connection) :
    (world.setConnection fd connection).connections fd = connection :=
  Function.update_self _ _ _

theorem Sound.effect_accept (hsound : Sound main process) {fd : Fd} {process' : Process}
    (hfree : process.world.connections fd = none)
    (hworld : process'.world = { process.world.setConnection fd (some ⟨[], [], false⟩) with
      broker := { process.world.broker with
        clientFds := insert fd process.world.broker.clientFds } }) :
    Effect process (.event (.accept fd)) process' := by
  have hnew : fd ∉ process.world.broker.clientFds := by
    rw [hsound.exact fd, hfree]
    simp
  refine ⟨hsound.exact.change fd ?_ ?_ ?_, ?_, [], rfl, le_of_eq ?_⟩
  · rw [hworld]
    simp
  · intro other hother
    rw [hworld]
    simp [hother]
  · intro other hother
    rw [hworld]
    exact World.setConnection_ne _ hother _
  · rw [hworld]
    exact hsound.bounded
  · rw [hworld, Broker.held]
    change heldConnections (insert fd process.world.broker.clientFds) + _ + _ + _ + _ = _
    rw [heldConnections_insert hnew, Process.acquired, Multiset.coe_singleton,
      Multiset.coe_nil, Broker.held]
    abel

/-- A client that sends a record or closes its end concerns the broker only later. -/
theorem Sound.effect_client (hsound : Sound main process) {action : Action} {fd : Fd}
    {connection connection' : Connection} {process' : Process}
    (hclosed : process.closed (.event action) = [])
    (hconnection : process.world.connections fd = some connection)
    (hworld : process'.world = process.world.setConnection fd (some connection')) :
    Effect process (.event action) process' := by
  have hmem := hsound.mem_clientFds hconnection
  refine ⟨hsound.exact.change fd ?_ ?_ ?_, ?_, [], hclosed.symm, ?_⟩
  · rw [hworld, World.setConnection_self]
    exact ⟨fun _ => rfl, fun _ => hmem⟩
  · intro other _
    rw [hworld]
    rfl
  · intro other hother
    rw [hworld]
    exact World.setConnection_ne _ hother _
  · rw [hworld]
    exact hsound.bounded
  · rw [hworld, Multiset.coe_nil, add_zero]
    exact Multiset.le_add_right _ _

/-- A handler that returns, with the connection as it leaves it. -/
theorem Sound.effect_handled (hsound : Sound main process) {action : Action} {fd : Fd}
    {connection : Option Connection} {clientFds : Finset Fd} {session : Session}
    {process' : Process} (hhandled : process.world.handled action = some session)
    (hbalanced : Balanced process.world.broker (process.acquired (.event action)) clientFds
      session)
    (hfd : fd ∈ clientFds ↔ connection.isSome)
    (hother : ∀ other, other ≠ fd →
      (other ∈ clientFds ↔ other ∈ process.world.broker.clientFds))
    (hworld : process'.world = process.world.settled fd connection session) :
    Effect process (.event action) process' := by
  obtain ⟨hclientFds, hbounded, closings, hclosed, hbalance⟩ := hbalanced
  refine ⟨hsound.exact.change fd ?_ ?_ ?_, ?_, closings, ?_, ?_⟩
  · rw [hworld]
    change fd ∈ session.broker.clientFds ↔
      ((process.world.setConnection fd connection).connections fd).isSome
    rw [hclientFds, World.setConnection_self]
    exact hfd
  · intro other hne
    rw [hworld]
    change other ∈ session.broker.clientFds ↔ _
    rw [hclientFds]
    exact hother other hne
  · intro other hne
    rw [hworld]
    exact World.setConnection_ne _ hne _
  · rw [hworld]
    exact hbounded
  · rw [hclosed, Process.closed, hhandled]
    rfl
  · rw [hworld]
    exact hbalance

theorem Sound.effect_receive (hsound : Sound main process) {fd : Fd} {env : Env}
    {process' : Process} (hopen : ¬process.ClosesOrderly (.event (.receive fd env)))
    (hnext : process.world.next (.receive fd env) = some process'.world)
    (hrunning' : process'.world.exited = none) :
    Effect process (.event (.receive fd env)) process' := by
  simp only [World.next, World.running_of_next hnext, Option.bind_eq_some_iff] at hnext
  obtain ⟨connection, hconnection, hnext⟩ := hnext
  have hmem := hsound.mem_clientFds hconnection
  cases hinbox : connection.inbox with
  | nil => exact absurd ⟨connection, hconnection, by simp [hinbox]⟩ hopen
  | cons packet rest =>
      have hbytes : packet.bytes ≠ [] := fun hempty =>
        hopen ⟨connection, hconnection, by simpa [hinbox] using hempty⟩
      rw [World.receive, hinbox] at hnext
      have hworld := Option.some.inj hnext
      have hrecord : Meets (handleRecord env fd packet (.start process.world.broker)) _ _ :=
        handleRecord_balanced hmem hsound.bounded hbytes
      cases hresult : handleRecord env fd packet (.start process.world.broker) with
      | error reason =>
          rw [← hworld, hresult] at hrunning'
          cases hrunning'
      | ok result =>
          obtain ⟨session, closes⟩ := result
          rw [hresult] at hworld
          have hhandled : process.world.handled (.receive fd env) = some session := by
            simp [World.handled, hconnection, hinbox, hresult, Except.toOption]
          have hacquired : process.acquired (.event (.receive fd env)) = packet.installs fd ++
              createdEvents env process.world.broker.nextAttachmentId session.created := by
            simp [Process.acquired, hconnection, hinbox, hhandled]
          have hbalanced := hrecord.of_ok hresult
          rw [← hacquired] at hbalanced
          refine hsound.effect_handled hhandled hbalanced ?_ ?_ hworld.symm
          · cases closes <;> simp [hmem]
          · intro other hother
            cases closes <;> simp [hother]

theorem Sound.effect_receiveError (hsound : Sound main process) {fd : Fd} {env : Env}
    {process' : Process}
    (hnext : process.world.next (.receiveError fd env) = some process'.world)
    (hrunning' : process'.world.exited = none) :
    Effect process (.event (.receiveError fd env)) process' := by
  simp only [World.next, World.running_of_next hnext, Option.bind_eq_some_iff] at hnext
  obtain ⟨connection, hconnection, hnext⟩ := hnext
  have hworld := Option.some.inj hnext
  have hmeets : Meets (handleReceiveError env fd (.start process.world.broker)) _ _ :=
    handleReceiveError_balanced hsound.bounded
  cases hresult : handleReceiveError env fd (.start process.world.broker) with
  | error reason =>
      rw [← hworld, hresult] at hrunning'
      cases hrunning'
  | ok session =>
      rw [hresult] at hworld
      have hhandled : process.world.handled (.receiveError fd env) = some session := by
        simp [World.handled, hresult, Except.toOption]
      exact hsound.effect_handled hhandled (hmeets.of_ok hresult) (by simp)
        (fun other hother => by simp [hother]) hworld.symm

/-- A connection that epoll refuses is in the set for a moment only. -/
theorem Sound.effect_refuse (hsound : Sound main process) {fd : Fd} {process' : Process}
    (hfresh : process.table fd = none)
    (hworld : process'.world = process.setClientFds
      ((insert fd process.world.broker.clientFds).erase fd)) :
    Effect process (.refuse fd) process' := by
  have hnew : fd ∉ process.world.broker.clientFds := by
    intro hmem
    have howner := hsound.owned.owner (fd, .connection) (by
      simp [Broker.held, heldConnections, hmem])
    rw [hfresh] at howner
    cases howner
  have hsame : process'.world = process.world := by
    rw [hworld, Finset.erase_insert hnew]
    rfl
  refine ⟨fun other => ?_, ?_, [(fd, .connection)], rfl, ?_⟩
  · rw [hsame]
    exact hsound.exact other
  · rw [hsame]
    exact hsound.bounded
  · rw [hsame]
    exact le_rfl

theorem Process.next_eq {action : ProcessAction}
    (hnext : process.next action = some process') :
    process'.table = closeAll (install process.table (process.acquired action))
      (process.closed action) ∧
      match action with
      | .event action => process.world.next action = some process'.world
      | .refuse fd => process'.world = process.setClientFds
          ((insert fd process.world.broker.clientFds).erase fd) := by
  obtain ⟨world, hworld, rfl⟩ := Option.map_eq_some_iff.mp hnext
  refine ⟨rfl, ?_⟩
  cases action with
  | event action => exact hworld
  | refuse fd =>
      dsimp only at hworld
      split at hworld
      · exact (Option.some.inj hworld).symm
      · cases hworld

theorem Sound.effect (hsound : Sound main process) {action : ProcessAction}
    (hanswers : process.KernelAnswers action) (hopen : ¬process.ClosesOrderly action)
    (hnext : process.next action = some process') (hrunning' : process'.world.exited = none) :
    Effect process action process' := by
  obtain ⟨-, hworld⟩ := Process.next_eq hnext
  cases action with
  | refuse fd => exact hsound.effect_refuse (hanswers.2 (fd, .connection) (by
      simp [Process.acquired])) hworld
  | event action =>
      have hrunning := World.running_of_next hworld
      cases action with
      | accept fd =>
          simp only [World.next, hrunning] at hworld
          split at hworld
          · cases hworld
          · next hfree => exact hsound.effect_accept hfree (Option.some.inj hworld).symm
      | request fd packet =>
          simp only [World.next, hrunning, Option.bind_eq_some_iff] at hworld
          obtain ⟨connection, hconnection, hworld⟩ := hworld
          split at hworld
          · cases hworld
          · exact hsound.effect_client rfl hconnection (Option.some.inj hworld).symm
      | hangUp fd =>
          simp only [World.next, hrunning, Option.bind_eq_some_iff] at hworld
          obtain ⟨connection, hconnection, hworld⟩ := hworld
          split at hworld
          · cases hworld
          · exact hsound.effect_client rfl hconnection (Option.some.inj hworld).symm
      | receive fd env => exact hsound.effect_receive hopen hworld hrunning'
      | receiveError fd env => exact hsound.effect_receiveError hworld hrunning'

/-- One step: the set stays exact, and what is closed is closed by its owner. -/
theorem Sound.step (hsound : Sound main process) {action : ProcessAction}
    (hanswers : process.KernelAnswers action) (hopen : ¬process.ClosesOrderly action)
    (hnext : process.next action = some process') (hrunning' : process'.world.exited = none) :
    Sound main process' ∧ process.ClosesItsOwn action := by
  obtain ⟨hexact, hbounded, closings, hclosed, hbalance⟩ :=
    hsound.effect hanswers hopen hnext hrunning'
  have hbalance' : main.entries + process'.world.broker.held +
      (closings : Multiset (Fd × Owner)) ≤
        main.entries + process.world.broker.held + process.acquired action := by
    rw [add_assoc, add_assoc]
    exact add_le_add le_rfl hbalance
  obtain ⟨howned, hclosings⟩ := hsound.owned.exchange hanswers hbalance'
  refine ⟨⟨hexact, hbounded, ?_⟩, closings, hclosed, fun pair hmem => ?_,
    hclosings.closeByOwner_isSome⟩
  · rw [(Process.next_eq hnext).1, ← hclosed]
    exact howned
  · have hpair : pair ∈ process.world.broker.held +
        (process.acquired action : Multiset (Fd × Owner)) :=
      Multiset.mem_of_le hbalance (Multiset.mem_add.mpr (.inr hmem))
    exact Multiset.mem_add.mp hpair

theorem Sound.not_exact_of_closed (hsound : Sound main process) {fd : Fd} {env : Env}
    {connection : Connection} (hconnection : process.world.connections fd = some connection)
    (hworld : process'.world =
      process.world.settle fd none (handleClosure env fd (.start process.world.broker)))
    (hrunning' : process'.world.exited = none) : ¬process'.ClientFdsExact := by
  have hmeets : Meets (handleClosure env fd (.start process.world.broker)) _ _ :=
    handleClosure_released
  cases hresult : handleClosure env fd (.start process.world.broker) with
  | error reason =>
      rw [hworld, hresult] at hrunning'
      cases hrunning'
  | ok session =>
      intro hexact
      rw [hresult] at hworld
      have hkept : fd ∈ process'.world.broker.clientFds := by
        rw [hworld]
        change fd ∈ session.broker.clientFds
        rw [(hmeets.of_ok hresult).clientFds]
        exact hsound.mem_clientFds hconnection
      have hgone : process'.world.connections fd = none := by
        rw [hworld]
        exact World.setConnection_self _ fd none
      rw [hexact fd, hgone] at hkept
      cases hkept

/-- The orderly closure closes the connection and leaves its number in the set. -/
theorem Sound.not_exact_of_closesOrderly (hsound : Sound main process)
    {action : ProcessAction} (horderly : process.ClosesOrderly action)
    (hnext : process.next action = some process') (hrunning' : process'.world.exited = none) :
    ¬process'.ClientFdsExact := by
  obtain ⟨-, hworld⟩ := Process.next_eq hnext
  cases action with
  | refuse fd => exact horderly.elim
  | event action =>
      have hrunning := World.running_of_next hworld
      cases action with
      | receive fd env =>
          obtain ⟨connection, hconnection, hempty⟩ := horderly
          simp only [World.next, hrunning, hconnection, Option.bind_some] at hworld
          cases hinbox : connection.inbox with
          | nil =>
              rw [World.receive, hinbox] at hworld
              dsimp only at hworld
              split at hworld
              · exact hsound.not_exact_of_closed hconnection (Option.some.inj hworld).symm
                  hrunning'
              · cases hworld
          | cons packet rest =>
              have hbytes : packet.bytes = [] := hempty packet (by simp [hinbox])
              rw [World.receive, hinbox] at hworld
              dsimp only at hworld
              rw [handleRecord_empty hbytes] at hworld
              have hsettled : process'.world =
                  process.world.settle fd none (handleClosure env fd
                    (.start process.world.broker)) := by
                rw [← Option.some.inj hworld]
                cases handleClosure env fd (.start process.world.broker) <;> rfl
              exact hsound.not_exact_of_closed hconnection hsettled hrunning'
      | _ => exact horderly.elim

/-- The shutdown takes every number from its holder, and no holder gives one twice. -/
theorem shutdownClosings_le {broker : Broker} {clients : List Fd}
    (hclients : (clients : Multiset Fd) = broker.clientFds.val) :
    (broker.shutdownClosings main clients : Multiset (Fd × Owner)) ≤
      main.entries + broker.held := by
  have hconnections : ((clients.map (·, Owner.connection) : List (Fd × Owner)) :
      Multiset (Fd × Owner)) = heldConnections broker.clientFds := by
    rw [← Multiset.map_coe, hclients, heldConnections]
  have hroles : ((broker.roleByFd.entries.flatMap fun entry =>
      broker.roleClosings entry.1 entry.2 : List (Fd × Owner)) : Multiset (Fd × Owner)) ≤
        heldEvents broker.subscriberAttachmentsBySubscriberFd +
          heldOf .sharedMemory broker.shmFdByPublisherFd := by
    refine (coe_flatMap_entries_le (fun fd =>
      weightAt (fun _ attachments => (eventEntries attachments : Multiset (Fd × Owner)))
        broker.subscriberAttachmentsBySubscriberFd fd +
      weightAt (fun publisherFd shmFd => {(shmFd, Owner.sharedMemory publisherFd)})
        broker.shmFdByPublisherFd fd) ?_).trans ?_
    · rintro ⟨fd, role⟩ -
      cases role with
      | subscriber =>
          rw [weightAt_eventEntries]
          exact Multiset.le_add_right _ _
      | publisher =>
          refine le_trans (le_of_eq ?_) (Multiset.le_add_left _ _)
          rw [weightAt, Broker.roleClosings]
          cases broker.shmFdByPublisherFd.lookup fd <;> rfl
    · rw [Finset.sum_add_distrib]
      exact add_le_add (sum_weightAt_le _ _) (sum_weightAt_le _ _)
  rw [Broker.shutdownClosings, ← Multiset.coe_add, ← Multiset.coe_add, hconnections,
    add_assoc]
  refine add_le_add le_rfl ?_
  rw [Broker.held, add_assoc, add_assoc, ← add_assoc (heldEvents _)]
  exact add_le_add le_rfl (hroles.trans (Multiset.le_add_right _ _))

theorem Sound.shutsDownCleanly (hsound : Sound main process) :
    process.ShutsDownCleanly main := fun _ hclients =>
  (hsound.owned.of_le (shutdownClosings_le hclients)).closeByOwner_isSome

end Steps

/-- A run in which every number that the kernel hands out is free, and in which no peer
closes its end in an orderly way. -/
def WithoutOrderlyClosure (process : Process) (action : ProcessAction) : Prop :=
  process.KernelAnswers action ∧ ¬process.ClosesOrderly action

theorem sound_of_reachable {main : MainFds} {process : Process}
    (hreach : (brokerProcess main).ReachableWith WithoutOrderlyClosure process)
    (hrunning : process.world.exited = none) : Sound main process := by
  induction hreach with
  | initial => exact sound_initial main
  | @step process process' action _ hallowed hnext ih =>
      have hbefore : process.world.exited = none := by
        obtain ⟨-, hworld⟩ := Process.next_eq hnext
        cases action with
        | event action => exact World.running_of_next hworld
        | refuse fd =>
            have hexited := hrunning
            rw [hworld] at hexited
            exact hexited
      exact ((ih hbefore).step hallowed.1 hallowed.2 hnext hrunning).1

/-- As long as no peer closes its end in an orderly way, `client_fds` holds exactly the
open connections, every number is closed by the one it belongs to, and so is every number
at the shutdown.  The first orderly closure that the broker survives makes the set
inexact. -/
theorem clientFds_exact_iff {main : MainFds} {process : Process}
    (hreach : (brokerProcess main).ReachableWith WithoutOrderlyClosure process)
    (hrunning : process.world.exited = none) :
    process.ClientFdsExact ∧ process.ShutsDownCleanly main ∧
      ∀ action process', process.KernelAnswers action →
        (brokerProcess main).next process action = some process' →
        process'.world.exited = none →
          (process'.ClientFdsExact ↔ ¬process.ClosesOrderly action) ∧
          (¬process.ClosesOrderly action → process.ClosesItsOwn action) := by
  have hsound := sound_of_reachable hreach hrunning
  refine ⟨hsound.exact, hsound.shutsDownCleanly, ?_⟩
  intro action process' hanswers hnext hrunning'
  refine ⟨⟨fun hexact horderly => ?_, fun hopen => ?_⟩, fun hopen => ?_⟩
  · exact hsound.not_exact_of_closesOrderly horderly hnext hrunning' hexact
  · exact (hsound.step hanswers hopen hnext hrunning').1.exact
  · exact (hsound.step hanswers hopen hnext hrunning').2

/-! ## Two runs -/

/-- The descriptors of a broker that was started with the standard streams only. -/
def firstFds : MainFds := ⟨4, 5, 3, by decide⟩

/-- One after the other: a client connects, sends its record and is served. -/
def serves (fd : Fd) (request : Request) : List ProcessAction :=
  [.event (.accept fd), .event (.request fd request.packet),
    .event (.receive fd .generous)]

instance Process.decidableKernelAnswers (process : Process) (action : ProcessAction) :
    Decidable (process.KernelAnswers action) :=
  inferInstanceAs (Decidable ((_ : List Fd).Nodup ∧ ∀ pair ∈ _, _ = none))

/-- A check that an action does not close in an orderly way. -/
def Process.staysOpen (process : Process) : ProcessAction → Bool
  | .event (.receive fd _) => (process.world.connections fd).all fun connection =>
      connection.inbox.head?.any fun packet => packet.bytes ≠ []
  | _ => true

theorem Process.not_closesOrderly_of_staysOpen {process : Process} {action : ProcessAction}
    (hopen : process.staysOpen action = true) : ¬process.ClosesOrderly action := by
  cases action with
  | refuse fd => exact id
  | event action =>
      cases action with
      | receive fd env =>
          rintro ⟨connection, hconnection, hempty⟩
          rw [staysOpen, hconnection, Option.all_some, Option.any_eq_true] at hopen
          obtain ⟨packet, hhead, hbytes⟩ := hopen
          simp [hempty packet hhead] at hbytes
      | _ => exact id

/-- A subscriber's connection fails, its number is accepted anew, refused once more, and
its next owner asks for the status; a publisher is served in between. -/
def failedConnections : List ProcessAction :=
  serves 10 (.subscribe (.single 1)) ++ [.event (.receiveError 10 .generous)] ++
    serves 10 (.publish 1 11 12) ++ [.refuse 13] ++ serves 13 .statusQuery

/-- A subscriber closes its end, and a publisher's shared memory arrives under the number
of the closed connection. -/
def reusedNumber : List ProcessAction :=
  serves 10 (.subscribe (.single 1)) ++
    [.event (.hangUp 10), .event (.receive 10 .generous)] ++ serves 11 (.publish 1 10 12)

theorem clientFds_exact_failedConnections : ∃ process,
    (brokerProcess firstFds).ReachableWith WithoutOrderlyClosure process ∧
      process.world.broker.clientFds = {10} ∧ process.ClientFdsExact ∧
      process.ShutsDownCleanly firstFds := by
  let guard (process : Process) (action : ProcessAction) : Bool :=
    process.KernelAnswers action && process.staysOpen action
  have hsome : ((brokerProcess firstFds).guardedRun guard (brokerProcess firstFds).initial
      failedConnections).isSome := by decide +kernel
  obtain ⟨process, hrun⟩ := Option.isSome_iff_exists.mp hsome
  have hreach : (brokerProcess firstFds).ReachableWith WithoutOrderlyClosure process :=
    System.ReachableWith.initial.guardedRun (fun process action hguard => by
      simp only [guard, Bool.and_eq_true, decide_eq_true_eq] at hguard
      exact ⟨hguard.1, Process.not_closesOrderly_of_staysOpen hguard.2⟩) hrun
  have hfinal : (((brokerProcess firstFds).guardedRun guard (brokerProcess firstFds).initial
      failedConnections).map fun process =>
        (process.world.exited, process.world.broker.clientFds)) = some (none, {10}) := by
    decide +kernel
  rw [hrun, Option.map_some, Option.some.injEq, Prod.mk.injEq] at hfinal
  obtain ⟨hexact, hclean, -⟩ := clientFds_exact_iff hreach hfinal.1
  exact ⟨process, hreach, hfinal.2, hexact, hclean⟩

/-- The number of the closed connection stays in `client_fds`, and at the shutdown it is
closed a second time, as the shared memory that the kernel gave it to meanwhile. -/
theorem reusedNumber_closedTwice : ∃ process,
    (brokerProcess firstFds).ReachableWith Process.KernelAnswers process ∧
      process.world.exited = none ∧ ¬process.ClientFdsExact ∧
      ¬process.ShutsDownCleanly firstFds ∧
      ((process.world.broker.shutdownClosings firstFds [10, 11]).map Prod.fst).count 10 =
        2 := by
  let guard (process : Process) (action : ProcessAction) : Bool :=
    decide (process.KernelAnswers action)
  let run := (brokerProcess firstFds).guardedRun guard (brokerProcess firstFds).initial
    reusedNumber
  have hsome : run.isSome := by decide +kernel
  obtain ⟨process, hrun⟩ := Option.isSome_iff_exists.mp hsome
  have hreach : (brokerProcess firstFds).ReachableWith Process.KernelAnswers process :=
    System.ReachableWith.initial.guardedRun (fun _ _ hguard => of_decide_eq_true hguard) hrun
  have hfinal : (run.map fun process => (process.world.exited,
      process.world.broker.clientFds, process.world.connections 10,
      (closeByOwner process.table
        (process.world.broker.shutdownClosings firstFds [10, 11])).isSome,
      ((process.world.broker.shutdownClosings firstFds [10, 11]).map Prod.fst).count 10)) =
        some (none, {10, 11}, none, false, 2) := by decide +kernel
  simp only [hrun, Option.map_some, Option.some.injEq, Prod.mk.injEq] at hfinal
  obtain ⟨hrunning, hclients, hconnection, hshutdown, hcount⟩ := hfinal
  refine ⟨process, hreach, hrunning, fun hexact => ?_, fun hclean => ?_, hcount⟩
  · have hopen := (hexact 10).mp (by simp [hclients])
    rw [hconnection] at hopen
    cases hopen
  · have hcloses := hclean [10, 11] (by rw [hclients]; rfl)
    rw [hshutdown] at hcloses
    cases hcloses

end DriveBus.ControlPlane
