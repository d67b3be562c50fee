import DriveBus.Clients.Objects

/-!
# What client objects owe

Every guard of `create` becomes an obligation of the object it returns, or is met before it
returns; a call of an object closes what it no longer holds, and its destructor the rest.
-/

namespace DriveBus.Clients

open DriveBus.ByteMemory DriveBus.GuardedScope DriveBus.UnorderedMap

open DriveBus.ControlPlane (Fd TopicId)

/-! ## What an object owes -/

/-- What the destructor has to give back. -/
def SubscriberObject.owes (object : SubscriberObject) : Multiset Obligation :=
  object.client.held.map closeOne +
    closeFdVariables [object.shutdownEventFd, object.workerExitEventFd, object.epollFd,
      object.brokerFd]

def PublisherObject.owes (object : PublisherObject) : Multiset Obligation := object.releases

section Books

variable {kernel kernel' : ClientKernel} {owed : Multiset Obligation}

theorem receiveDescriptors_owes (howes : kernel.Owes owed) {fds : List Fd}
    (hreceive : receiveDescriptors kernel fds = some kernel') :
    kernel'.Owes ((fds : Multiset Fd).map closeOne + owed) := by
  have hafter := howes.takeAll hreceive
  rwa [List.map_map, ← Multiset.map_coe] at hafter

/-- A call whose books balance closes what its object no longer holds. -/
theorem closeLogged_owes {held held' : Multiset Fd} {closed closed' received : List Fd}
    (hbalance : held' + (closed' : Multiset Fd) = held + (closed : Multiset Fd) + received)
    (hlog : closed <+: closed')
    (howes : kernel.Owes ((received : Multiset Fd).map closeOne + (held.map closeOne + owed))) :
    (closeLogged kernel closed closed').Owes (held'.map closeOne + owed) := by
  obtain ⟨closings, rfl⟩ := hlog
  have hkept : (closings : Multiset Fd) + held' = received + held := by
    rw [← Multiset.coe_add] at hbalance
    refine add_left_cancel (a := (closed : Multiset Fd)) ?_
    calc (closed : Multiset Fd) + (closings + held')
        = held' + (closed + closings) := by abel
      _ = held + closed + received := hbalance
      _ = closed + (received + held) := by abel
  have hmapped := congrArg (Multiset.map closeOne) hkept
  rw [Multiset.map_add, Multiset.map_add, Multiset.map_coe] at hmapped
  rw [← add_assoc, ← hmapped, add_assoc] at howes
  rw [closeLogged, List.drop_left]
  exact howes.cleanAll

end Books

section Guards

variable {ε : Type}

theorem found_guards {α : Type} (value : Option α) (error : ε) :
    (found value error).Guards fun result added => added = [] ∧ value = some result := by
  cases value with
  | some value => exact .pure ⟨rfl, rfl⟩
  | none =>
      intro frame owed result frame' howes hrun
      obtain ⟨rfl, rfl⟩ := Prod.mk.inj (Option.some.inj hrun)
      exact ⟨howes, [], rfl, by rintro _ ⟨⟩⟩

theorem connectToBroker_guards (answers : ConnectAnswers) (socketError connectError : ε) :
    (connectToBroker answers socketError connectError).Guards fun brokerFd added =>
      added = [closeOne brokerFd] := by
  refine .call (.bind (.acquire _ _ _) fun brokerFd added hadded => ?_)
  refine .bind (.check _ _) fun _ more hmore => .pure ?_
  rw [hadded, hmore]
  exact .refl _

theorem createAndMapSharedData_guards (answers : PublisherCreateAnswers) (shmName : ShmName) :
    (createAndMapSharedData answers shmName).Guards fun result added =>
      added = [.release (.mapping result.2), .unlink shmName, closeOne result.1] := by
  refine .call (.bind (.check _ _) fun _ first hfirst => ?_)
  refine .bind (.unlinkName _) fun _ second hsecond => ?_
  refine .bind (.acquire _ _ _) fun shmFd third hthird => ?_
  refine .bind (.createName _) fun _ fourth hfourth => ?_
  refine .bind (.check _ _) fun _ fifth hfifth => ?_
  refine .bind (.acquire _ _ _) fun sharedData sixth hsixth => .pure ?_
  rw [hfirst, hsecond, hthird, hfourth, hfifth, hsixth]
  exact .refl _

end Guards

namespace SubscriberObject

variable {kernel kernel' : ClientKernel} {owed : Multiset Obligation} {object : SubscriberObject}

/-- The guards of `create` become the obligations of the object. -/
theorem acquireResources_guards (answers : SubscriberCreateAnswers) (topicIds : List TopicId)
    (flags : Flags) (callback : Bool) :
    (acquireResources answers topicIds flags callback).Guards fun object added =>
      (added : Multiset Obligation) = object.owes := by
  refine .bind (found_guards _ _) fun mode first hfirst => ?_
  refine .bind (.check _ _) fun _ second hsecond => ?_
  refine .bind (.acquire _ _ _) fun epollFd third hthird => ?_
  refine .bind (connectToBroker_guards _ _ _) fun brokerFd fourth hfourth => ?_
  refine .bind (.check _ _) fun _ fifth hfifth => ?_
  refine .bind (.check _ _) fun _ sixth hsixth => ?_
  refine .bind (.check _ _) fun _ seventh hseventh => ?_
  rw [hfirst.1, hsecond, hthird, hfourth, hfifth, hsixth, hseventh]
  cases mode with
  | synchronous => exact .pure (Multiset.coe_eq_coe.mpr (List.Perm.swap _ _ _))
  | asynchronous =>
      refine .bind (.acquire _ _ _) fun shutdownEventFd eighth heighth => ?_
      refine .bind (.check _ _) fun _ ninth hninth => ?_
      refine .bind (.acquire _ _ _) fun workerExitEventFd tenth htenth => .pure ?_
      rw [heighth, hninth, htenth]
      exact Multiset.coe_eq_coe.mpr
        ((List.Perm.swap _ _ _).trans (.cons _ (.cons _ (.swap _ _ _))))

theorem held_releaseAttachments (client : SubscriberClient) :
    (releaseAttachments client).closed = client.closed ++
      client.publisherAttachmentByDataAvailableEventFd.entries.flatMap fun entry =>
        entry.2.fds := by
  have hloop : ∀ (entries : List (Σ _ : FdVariable, PublisherAttachment))
      (client : SubscriberClient),
      (entries.foldl (fun client entry => client.releasePublisherAttachment entry.2)
        client).closed = client.closed ++ entries.flatMap fun entry => entry.2.fds := by
    intro entries
    induction entries with
    | nil => exact fun client => (List.append_nil _).symm
    | cons entry entries ih =>
        intro client
        rw [List.foldl_cons, ih, SubscriberClient.releasePublisherAttachment,
          SubscriberClient.closeFds, SubscriberClient.setInterest_closed, List.flatMap_cons,
          List.append_assoc]
  exact hloop _ client

/-- The destructor gives back what the object owes. -/
theorem releaseResources_owes (howes : kernel.Owes (object.owes + owed)) :
    (object.releaseResources kernel).2.Owes owed ∧
      (object.releaseResources kernel).1.owes = 0 := by
  refine ⟨?_, rfl⟩
  have hclosed := held_releaseAttachments object.client
  have hattachments : ((object.client.publisherAttachmentByDataAvailableEventFd.entries.flatMap
      fun entry => entry.2.fds : List Fd) : Multiset Fd) = object.client.held :=
    coe_flatMap_entries _ _
  refine Kernel.Owes.cleanAll ?_
  rw [owes, add_assoc] at howes
  have hbalance : 0 + ((releaseAttachments object.client).closed : Multiset Fd) =
      object.client.held + (object.client.closed : Multiset Fd) + ([] : List Fd) := by
    rw [hclosed, ← Multiset.coe_add, hattachments, Multiset.coe_nil]
    abel
  have hlog : object.client.closed <+: (releaseAttachments object.client).closed :=
    hclosed ▸ List.prefix_append _ _
  rw [← zero_add (object.client.held.map closeOne + _)] at howes
  have hreleased := closeLogged_owes hbalance hlog howes
  rwa [Multiset.map_zero, zero_add] at hreleased

/-- What is owed for the result of `create`. -/
def resultOwes : Except SubscriberCreateError SubscriberObject → Multiset Obligation
  | .ok object => object.owes
  | .error _ => 0

/-- Creating an object acquires what it owes, or nothing. -/
theorem create_owes {answers : SubscriberCreateAnswers} {topicIds : List TopicId}
    {flags : Flags} {callback : Bool} (howes : kernel.Owes owed)
    {result : Except SubscriberCreateError SubscriberObject}
    (hcreate : create answers topicIds flags callback kernel = some (result, kernel')) :
    kernel'.Owes (resultOwes result + owed) := by
  obtain ⟨⟨acquired, middle⟩, hrun, heq⟩ := Option.map_eq_some_iff.mp hcreate
  obtain ⟨error, rfl, hafter⟩ | ⟨object, guards, rfl, hguards, hafter⟩ :=
    (acquireResources_guards answers topicIds flags callback).run howes hrun
  · obtain ⟨rfl, rfl⟩ := Prod.mk.inj heq
    rwa [resultOwes, zero_add]
  · rw [hguards] at hafter
    dsimp only at heq
    split at heq
    · obtain ⟨rfl, rfl⟩ := Prod.mk.inj heq
      rw [resultOwes, zero_add]
      exact (releaseResources_owes hafter).1
    · obtain ⟨rfl, rfl⟩ := Prod.mk.inj heq
      exact hafter

end SubscriberObject

theorem closeFdVariables_append (fds fds' : List FdVariable) :
    closeFdVariables (fds ++ fds') = closeFdVariables fds ++ closeFdVariables fds' := by
  rw [closeFdVariables, openFds, List.reduceOption_append, List.map_append]
  rfl

theorem closeFdVariables_singleton (fd : FdVariable) :
    closeFdVariables [fd] = fd.toList.map closeOne := by
  cases fd <;> rfl

namespace PublisherObject

variable {kernel kernel' : ClientKernel} {owed : Multiset Obligation} {object : PublisherObject}

/-- What an object owes beside the descriptors of its client. -/
def owesBeside (object : PublisherObject) : List Obligation :=
  closeFdVariables [object.publishWorkEventFd, object.spaceAvailableEventFd,
    object.shutdownEventFd, object.workerExitEventFd] ++
  closeFdVariables [object.epollFd] ++
  (object.sharedData.map fun address => .release (.mapping address)).toList ++
  (object.shmName.map .unlink).toList

theorem owes_eq (object : PublisherObject) :
    object.owes = object.client.held.map closeOne + object.owesBeside := by
  have hbroker : closeFdVariables [object.client.brokerFd, object.publishWorkEventFd,
      object.spaceAvailableEventFd, object.shutdownEventFd, object.workerExitEventFd] =
        object.client.brokerFd.toList.map closeOne ++ closeFdVariables
          [object.publishWorkEventFd, object.spaceAvailableEventFd, object.shutdownEventFd,
            object.workerExitEventFd] := by
    rw [← closeFdVariables_singleton, ← closeFdVariables_append]
    rfl
  rw [owes, releases, hbroker, owesBeside, PublisherClient.held, Multiset.map_add,
    Multiset.map_coe, Multiset.map_coe]
  simp only [← Multiset.coe_add]
  abel

/-- The guards of `create` become the obligations of the object, but for one. -/
theorem acquireResources_guards (answers : PublisherCreateAnswers) (shmName : ShmName)
    (flags : Flags) :
    (acquireResources answers shmName flags).Guards fun acquired added =>
      (added : Multiset Obligation) = closeOne acquired.1 ::ₘ acquired.2.owes ∧
        acquired.2.client.Registered := by
  have hregistered : ∀ mapped brokerFd,
      (untracked mapped brokerFd []).Registered := fun mapped brokerFd =>
    ⟨List.nodup_nil, fun {_} => ⟨nofun, nofun⟩⟩
  refine .bind (found_guards _ _) fun mode first hfirst => ?_
  refine .bind (createAndMapSharedData_guards _ _) fun shm second hsecond => ?_
  refine .bind (.acquire _ _ _) fun epollFd third hthird => ?_
  refine .bind (connectToBroker_guards _ _ _) fun brokerFd fourth hfourth => ?_
  refine .bind (.acquire _ _ _) fun spaceAvailableEventFd fifth hfifth => ?_
  refine .bind (.check _ _) fun _ sixth hsixth => ?_
  refine .bind (.check _ _) fun _ seventh hseventh => ?_
  refine .bind (.acquire _ _ _) fun publishWorkEventFd eighth heighth => ?_
  refine .bind (.check _ _) fun _ ninth hninth => ?_
  refine .bind (.check _ _) fun _ tenth htenth => ?_
  rw [hfirst.1, hsecond, hthird, hfourth, hfifth, hsixth, hseventh, heighth, hninth, htenth]
  cases mode with
  | synchronous =>
      refine .pure ⟨?_, hregistered _ _⟩
      change (([closeOne publishWorkEventFd, closeOne spaceAvailableEventFd, closeOne brokerFd,
        closeOne epollFd, .release (.mapping shm.2), .unlink shmName, closeOne shm.1] :
          List Obligation) : Multiset Obligation) =
        ([closeOne shm.1, closeOne brokerFd, closeOne publishWorkEventFd,
          closeOne spaceAvailableEventFd, closeOne epollFd, .release (.mapping shm.2),
          .unlink shmName] : List Obligation)
      simp only [← Multiset.cons_coe, ← Multiset.singleton_add, Multiset.coe_nil]
      abel
  | asynchronous =>
      refine .bind (.acquire _ _ _) fun shutdownEventFd eleventh heleventh => ?_
      refine .bind (.check _ _) fun _ twelfth htwelfth => ?_
      refine .bind (.acquire _ _ _) fun workerExitEventFd last hlast => .pure ?_
      rw [heleventh, htwelfth, hlast]
      refine ⟨?_, hregistered _ _⟩
      change (([closeOne workerExitEventFd, closeOne shutdownEventFd,
        closeOne publishWorkEventFd, closeOne spaceAvailableEventFd, closeOne brokerFd,
        closeOne epollFd, .release (.mapping shm.2), .unlink shmName, closeOne shm.1] :
          List Obligation) : Multiset Obligation) =
        ([closeOne shm.1, closeOne brokerFd, closeOne publishWorkEventFd,
          closeOne spaceAvailableEventFd, closeOne shutdownEventFd, closeOne workerExitEventFd,
          closeOne epollFd, .release (.mapping shm.2), .unlink shmName] : List Obligation)
      simp only [← Multiset.cons_coe, ← Multiset.singleton_add, Multiset.coe_nil]
      abel

/-- The destructor gives back what the object owes. -/
theorem releaseResources_owes (howes : kernel.Owes (object.owes + owed)) :
    (object.releaseResources kernel).2.Owes owed ∧
      (object.releaseResources kernel).1.owes = 0 :=
  ⟨howes.cleanAll, rfl⟩

/-- When all first registrations have been tracked, the tables agree. -/
theorem trackInitialSubscribers_registered {client : PublisherClient}
    (hregistered : client.Registered) (remaining : ℕ)
    (receipts : List (Receipt TrackAnswers))
    (hreturned : (client.trackInitialSubscribers remaining receipts).result =
      .returned (.ok ())) :
    (client.trackInitialSubscribers remaining receipts).client.Registered := by
  induction remaining generalizing receipts client with
  | zero => exact hregistered
  | succ remaining ih =>
      match receipts with
      | [] => cases hreturned
      | .failed :: _ => cases hreturned
      | .record received answers :: receipts =>
          have hopened := PublisherClient.Settles.receiveFds hregistered received.fds
          rw [PublisherClient.trackInitialSubscribers] at hreturned ⊢
          dsimp only at hreturned ⊢
          obtain ⟨error, after, herror, -⟩ | ⟨registration, after, hok, -, hsettles⟩ :=
            PublisherClient.receiveSubscriberRegistration_settles hopened.registered received
          · rw [herror] at hreturned
            cases hreturned
          · have htracked := PublisherClient.trackSubscriber_settles hsettles.registered answers
              registration.dataAvailableEventFd registration.slotIndex
            rw [hok] at hreturned ⊢
            dsimp only at hreturned ⊢
            cases hresult : (after.trackSubscriber answers registration.dataAvailableEventFd
                registration.slotIndex).1 with
            | tracked =>
                rw [hresult] at hreturned
                exact ih htracked.registered receipts hreturned
            | refused error =>
                rw [hresult] at hreturned
                cases hreturned
            | threw =>
                rw [hresult] at hreturned
                cases hreturned

theorem receiveAndTrack_registered {client : PublisherClient}
    (hregistered : client.Registered) {count : Option (List Byte)}
    {receipts : List (Receipt TrackAnswers)}
    (hreturned : (client.receiveAndTrackInitialSubscriberRegistrations count receipts).result =
      .returned (.ok ())) :
    (client.receiveAndTrackInitialSubscriberRegistrations count
      receipts).client.Registered := by
  rw [PublisherClient.receiveAndTrackInitialSubscriberRegistrations] at hreturned ⊢
  split
  · exact hregistered
  next hcount =>
    rw [if_neg hcount] at hreturned
    exact trackInitialSubscribers_registered hregistered _ receipts hreturned

def Creation.owes : Creation → Multiset Obligation
  | .created object => object.owes
  | .failed _ | .threw => 0

/-- The calls of the client's part keep the books. -/
theorem client_owes {client : PublisherClient} {received : List Fd}
    (haccounts : PublisherClient.Accounts object.client client received)
    (howes : kernel.Owes (object.owes + owed))
    (hreceive : receiveDescriptors kernel received = some kernel') :
    (closeLogged kernel' object.client.closed client.closed).Owes
      ({ object with client }.owes + owed) := by
  rw [owes_eq, add_assoc] at howes ⊢
  exact closeLogged_owes haccounts.account haccounts.log
    (receiveDescriptors_owes howes hreceive)

theorem finishCreate_owes {answers : PublisherCreateAnswers} {flags : Flags}
    (hregistered : object.client.Registered) (howes : kernel.Owes (object.owes + owed))
    {creation : Creation}
    (hfinish : finishCreate answers flags object kernel = some (creation, kernel')) :
    kernel'.Owes (creation.owes + owed) ∧
      ∀ created, creation = .created created → created.client.Registered := by
  obtain ⟨middle, hreceive, hrest⟩ := Option.bind_eq_some_iff.mp hfinish
  have haccounts := PublisherClient.receiveAndTrackInitialSubscriberRegistrations_accounts
    hregistered answers.subscriberCount answers.registrations
  have hclient := client_owes haccounts howes hreceive
  have hdestroyed := (releaseResources_owes hclient).1
  dsimp only at hrest
  split at hrest
  · cases hrest
  · obtain ⟨rfl, rfl⟩ := Prod.mk.inj (Option.some.inj hrest)
    exact ⟨by rwa [Creation.owes, zero_add], nofun⟩
  · obtain ⟨rfl, rfl⟩ := Prod.mk.inj (Option.some.inj hrest)
    exact ⟨by rwa [Creation.owes, zero_add], nofun⟩
  next hreturned =>
    split at hrest
    · obtain ⟨rfl, rfl⟩ := Prod.mk.inj (Option.some.inj hrest)
      exact ⟨by rwa [Creation.owes, zero_add], nofun⟩
    split at hrest
    · obtain ⟨rfl, rfl⟩ := Prod.mk.inj (Option.some.inj hrest)
      exact ⟨by rwa [Creation.owes, zero_add], nofun⟩
    · obtain ⟨rfl, rfl⟩ := Prod.mk.inj (Option.some.inj hrest)
      refine ⟨hclient, ?_⟩
      rintro _ ⟨⟩
      exact receiveAndTrack_registered hregistered hreturned

/-- Creating an object acquires what it owes, or nothing. -/
theorem create_owes {answers : PublisherCreateAnswers} {shmName : ShmName} {flags : Flags}
    (howes : kernel.Owes owed) {creation : Creation}
    (hcreate : create answers shmName flags kernel = some (creation, kernel')) :
    kernel'.Owes (creation.owes + owed) ∧
      ∀ object, creation = .created object → object.client.Registered := by
  obtain ⟨⟨acquired, middle⟩, hrun, hrest⟩ := Option.bind_eq_some_iff.mp hcreate
  obtain ⟨error, rfl, hafter⟩ | ⟨⟨shmFd, object⟩, guards, rfl, ⟨hguards, hregistered⟩, hafter⟩ :=
    (acquireResources_guards answers shmName flags).run howes hrun
  · obtain ⟨rfl, rfl⟩ := Prod.mk.inj (Option.some.inj hrest)
    exact ⟨by rwa [Creation.owes, zero_add], nofun⟩
  · obtain ⟨⟨finished, last⟩, hfinish, heq⟩ := Option.bind_eq_some_iff.mp hrest
    obtain ⟨rfl, rfl⟩ := Prod.mk.inj (Option.some.inj heq)
    rw [hguards, Multiset.cons_add, ← Multiset.add_cons] at hafter
    obtain ⟨hcreated, hkept⟩ := finishCreate_owes hregistered hafter hfinish
    rw [Multiset.add_cons] at hcreated
    exact ⟨hcreated.clean, hkept⟩

end PublisherObject

end DriveBus.Clients
