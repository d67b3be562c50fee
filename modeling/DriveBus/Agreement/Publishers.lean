import DriveBus.Agreement.Subscribers
import DriveBus.Agreement.PublisherRecords
import DriveBus.SharedMemory.Delivery

/-!
# Broker and publisher agree

The slots that a publisher tracks, changed by the records that it has not yet taken, are
the broker's attachments to it, however long the records wait: from the count that opens
its registration, through the registrations that the count announces, to the joins and
leaves of its subscribers.  Each of these is a step of its data plane.
-/

namespace DriveBus.Agreement

open DriveBus.ByteMemory DriveBus.Clients DriveBus.ControlPlane DriveBus.Replica
open DriveBus.Transition

open DriveBus.SharedMemory (SharedData dataPlane invariant_of_reachable)

/-! ## The view of a publisher -/

/-- Slots with their event descriptors. -/
def trackingMirror : Mirror TrackingView where
  Kind member := member.bind Member.topicIds = none
  apply := TrackingView.apply
  start := .initial
  Agrees broker members fd view := view.Agrees broker members fd

theorem trackingMirror_faithful : trackingMirror.Faithful where
  unregistered := rfl
  fresh {broker members fd} hroutes hmember := by
    have htopic : members.topic fd = none := by rw [Members.topic, hmember]; rfl
    refine ⟨by rw [htopic]; rfl, ?_⟩
    rw [hroutes.occupants_eq_zero htopic]
    exact Lists.empty
  quiet {before after members fd view} hbook hagrees := by
    have hoccupants : after.occupants fd = before.occupants fd :=
      occupants_congr fun subscriberFd => by rw [attachmentsOf_of_book hbook]
    exact ⟨hagrees.announced, hoccupants ▸ hagrees.lists⟩
  event htranscript hroutes hroutes' _ hstays hkind hagrees :=
    htranscript.tracking hroutes hroutes' hstays hkind hagrees

theorem publisherProgram_speaks : publisherProgram.Speaks trackingMirror := by
  rintro _ ⟨topicId, shmFd, spaceAvailableEventFd, rfl⟩
  exact ⟨by simp [Request.member], rfl⟩

/-- What a record has done to the view of a publisher. -/
inductive TrackingStep (view : TrackingView) : BrokerMessage → TrackingView → Prop
  | count {count : ℕ} (hfirst : view.announced = none) :
      TrackingStep view (.initialSubscriberCount count) { view with announced := some count }
  | registration {slotIndex dataAvailableEventFd remaining : ℕ}
      (hannounced : view.announced = some remaining) (hslot : slotIndex < kMaxSubscribers)
      (hfree : view.table slotIndex = none) :
      TrackingStep view (.subscriberEventFdAndSlot slotIndex dataAvailableEventFd)
        ⟨some (remaining - 1),
          Function.update view.table slotIndex (some dataAvailableEventFd)⟩
  | disconnection {slotIndex : ℕ} (hannounced : view.announced = some 0)
      (htracked : view.table slotIndex ≠ none) :
      TrackingStep view (.subscriberDisconnected slotIndex)
        { view with table := Function.update view.table slotIndex none }

theorem trackingStep_of_apply {view view' : TrackingView} {record : BrokerMessage}
    (happly : view.apply record = some view') : TrackingStep view record view' := by
  cases record with
  | initialSubscriberCount count =>
      rw [TrackingView.apply, Option.ite_none_right_eq_some] at happly
      obtain ⟨hfirst, hview'⟩ := happly
      exact Option.some.inj hview' ▸ .count hfirst
  | subscriberEventFdAndSlot slotIndex dataAvailableEventFd =>
      obtain ⟨remaining, hannounced, happly⟩ := Option.bind_eq_some_iff.mp happly
      rw [Option.ite_none_right_eq_some] at happly
      obtain ⟨hslot, happly⟩ := happly
      obtain ⟨table, htable, rfl⟩ := Option.map_eq_some_iff.mp happly
      rw [Table.apply, Option.ite_none_right_eq_some] at htable
      obtain ⟨hfree, htable⟩ := htable
      exact Option.some.inj htable ▸ .registration hannounced hslot hfree
  | subscriberDisconnected slotIndex =>
      rw [TrackingView.apply, Option.ite_none_right_eq_some] at happly
      obtain ⟨hannounced, happly⟩ := happly
      obtain ⟨table, htable, rfl⟩ := Option.map_eq_some_iff.mp happly
      rw [Table.apply, Option.ite_none_left_eq_some] at htable
      obtain ⟨htracked, htable⟩ := htable
      exact Option.some.inj htable ▸ .disconnection hannounced htracked
  | statusSnapshot | subscriberAttachmentBatch | publisherDisconnected => cases happly

/-- How many registrations `create` still waits for. -/
def PublisherPhase.announced : PublisherPhase → Option ℕ
  | .counting => none
  | .registering remaining => some remaining
  | _ => some 0

/-- What a publisher knows of its subscribers. -/
def PublisherState.view (state : PublisherState) : TrackingView where
  announced := state.phase.announced
  table := trackedSlots state.plane state.eventFdOf

/-! ## The state of a publisher -/

/-- An allocation has failed where a subscriber was to be tracked. -/
def PublisherState.Threw (state : PublisherState) : Prop :=
  ∃ entry ∈ state.failures, entry.2 = .createThrew ∨ entry.2 = .control .threw

/-- What holds of a publisher that has taken these records, before it stops. -/
structure PublisherRuns (state : PublisherState) (taken : List BrokerMessage) : Prop where
  plane : ∃ mapped, (dataPlane mapped).Reachable state.plane
  socket : ∀ fd, state.brokerFd = some fd → state.plane.eventFds fd = none
  announced : ∀ view, replay TrackingView.apply .initial taken = some view →
    view.announced = state.phase.announced
  covered : ∀ view, replay TrackingView.apply .initial taken = some view →
    ∀ slot eventFd, state.view.table slot = some eventFd → view.table slot = some eventFd
  complete : ¬state.Threw → ∀ view, replay TrackingView.apply .initial taken = some view →
    view.table = state.view.table

/-- A receive has failed, an allocation, or the end of a subscriber that an allocation had
kept from being tracked. -/
def PublisherState.Explains (state : PublisherState)
    (entry : Option BrokerMessage × PublisherFailure) : Prop :=
  entry.1 = none ∨ entry.2 = .createThrew ∨ entry.2 = .control .threw ∨
    state.Threw ∧ ∃ slotIndex, entry = (some (.subscriberDisconnected slotIndex),
      .control (.returned .deadSubscriberReapFailed))

structure PublisherHolds (state : PublisherState) (taken : List BrokerMessage) : Prop where
  runs : state.phase ≠ .stopped → PublisherRuns state taken
  failures : ∀ entry ∈ state.failures, state.Explains entry

theorem publisherHolds_initial (setup : SharedData × Fd) :
    PublisherHolds (.initial setup) [] where
  runs _ :=
    { plane := ⟨setup.1, .initial⟩
      socket := fun _ _ => rfl
      announced := fun view hreplay => by
        obtain rfl := Option.some.inj hreplay
        rfl
      covered := fun view hreplay slot eventFd htable => by
        obtain rfl := Option.some.inj hreplay
        exact (congrFun (trackedSlots_created setup.1 id) slot).symm.trans htable
      complete := fun _ view hreplay => by
        obtain rfl := Option.some.inj hreplay
        exact (trackedSlots_created setup.1 id).symm }
  failures _ hmem := absurd hmem List.not_mem_nil

section Steps

variable {state state' : PublisherState} {taken : List BrokerMessage}

/-- What a failure is explained by stays. -/
theorem PublisherState.Explains.mono {entry : Option BrokerMessage × PublisherFailure}
    (hexplains : state.Explains entry) (hgrows : state.failures <+: state'.failures) :
    state'.Explains entry :=
  hexplains.imp_right <| Or.imp_right <| Or.imp_right fun hmissed =>
    ⟨hmissed.1.imp fun _ hthrew => ⟨hgrows.subset hthrew.1, hthrew.2⟩, hmissed.2⟩

/-- A call that fails is explained, and so are those before it. -/
theorem explains_append (hfailures : ∀ entry ∈ state.failures, state.Explains entry)
    {record : Option BrokerMessage} {failure : PublisherFailure}
    (hafter : state'.failures = state.failures ++ [(record, failure)])
    (hexplains : state'.Explains (record, failure)) :
    ∀ entry ∈ state'.failures, state'.Explains entry := by
  intro entry hmem
  rw [hafter, List.mem_append, List.mem_singleton] at hmem
  obtain hold | rfl := hmem
  · exact (hfailures entry hold).mono (hafter ▸ List.prefix_append _ _)
  · exact hexplains

/-- A step that takes nothing and keeps the slots. -/
theorem PublisherRuns.quiet (hruns : PublisherRuns state taken)
    (hplane : ∃ mapped, (dataPlane mapped).Reachable state'.plane)
    (hsocket : ∀ fd, state'.brokerFd = some fd → state'.plane.eventFds fd = none)
    (hview : state'.view = state.view) (hthrew : state.Threw → state'.Threw) :
    PublisherRuns state' taken where
  plane := hplane
  socket := hsocket
  announced view hreplay :=
    (hruns.announced view hreplay).trans (congrArg TrackingView.announced hview).symm
  covered view hreplay := by
    rw [hview]
    exact hruns.covered view hreplay
  complete hnone view hreplay := by
    rw [hview]
    exact hruns.complete (fun h => hnone (hthrew h)) view hreplay

/-- A step of the data plane. -/
theorem PublisherHolds.data (hholds : PublisherHolds state taken)
    {action : SharedMemory.Action} {outcome : SharedMemory.Outcome}
    {plane : SharedMemory.State} (hruns : state.phase.Runs action)
    (hstep : state.plane.step action = some (outcome, plane)) :
    PublisherHolds { state with plane } taken := by
  refine ⟨fun hphase => ?_, hholds.failures⟩
  have hbefore := hholds.runs hphase
  obtain ⟨mapped, hreach⟩ := hbefore.plane
  have hreach' : (dataPlane mapped).Reachable plane :=
    hreach.step trivial (Option.map_eq_some_iff.mpr ⟨_, hstep, rfl⟩)
  obtain ⟨pool, hinv⟩ := invariant_of_reachable hreach
  obtain ⟨pool', hinv'⟩ := invariant_of_reachable hreach'
  have hsame := sameSlots_of_runs hinv hruns hstep
  refine hbefore.quiet ⟨mapped, hreach'⟩ (fun fd hfd => ?_) ?_ id
  · have hopen := hsame.eventFds fd
    rw [hbefore.socket fd hfd] at hopen
    exact Option.not_isSome_iff_eq_none.mp fun hnow => by rw [hopen] at hnow; cases hnow
  · exact congrArg (TrackingView.mk _) (hsame.trackedSlots hinv hinv' _)

/-- What is known when a record is taken: the view before it and the one after it. -/
theorem hears_take {record : BrokerMessage} {rest : List BrokerMessage}
    (hhears : Hears trackingMirror taken (record :: rest)) :
    ∃ view view', replay TrackingView.apply .initial taken = some view ∧
      TrackingStep view record view' ∧
      ∀ other, replay TrackingView.apply .initial (taken ++ [record]) = some other →
        other = view' := by
  obtain ⟨view, final, htaken, hchannel⟩ := hhears.split
  obtain ⟨view', happly, -⟩ := replay_deliver hchannel
  replace happly : TrackingView.apply view record = some view' := happly
  refine ⟨view, view', htaken, trackingStep_of_apply happly, fun other hother => ?_⟩
  have hboth : replay TrackingView.apply .initial (taken ++ [record]) = some view' :=
    replay_send htaken (by rw [replay, List.foldlM_cons, happly]; rfl)
  exact Option.some.inj (hother.symm.trans hboth)

theorem PublisherRuns.of_view {taken' : List BrokerMessage} {view' : TrackingView}
    (hview' : ∀ other, replay TrackingView.apply .initial taken' = some other → other = view')
    (hplane : ∃ mapped, (dataPlane mapped).Reachable state'.plane)
    (hsocket : ∀ fd, state'.brokerFd = some fd → state'.plane.eventFds fd = none)
    (hannounced : view'.announced = state'.phase.announced)
    (hcovered : ∀ slot eventFd, state'.view.table slot = some eventFd →
      view'.table slot = some eventFd)
    (hcomplete : ¬state'.Threw → view'.table = state'.view.table) :
    PublisherRuns state' taken' where
  plane := hplane
  socket := hsocket
  announced view hreplay := by
    rw [hview' view hreplay]
    exact hannounced
  covered view hreplay := by
    rw [hview' view hreplay]
    exact hcovered
  complete hnone view hreplay := by
    rw [hview' view hreplay]
    exact hcomplete hnone

/-- A slot that the view has free is not tracked. -/
theorem PublisherRuns.untracked (hruns : PublisherRuns state taken) {view : TrackingView}
    (htaken : replay TrackingView.apply .initial taken = some view) {slot : ℕ}
    (hnone : view.table slot = none) : ¬state.plane.shared.Tracked slot := fun htracked => by
  have hcovered := hruns.covered view htaken slot _ (if_pos htracked)
  rw [hnone] at hcovered
  cases hcovered

/-- Covered tables stay covered where both change alike. -/
theorem covered_update {table table' : Table ℕ Fd} (slot : ℕ) (found : Option Fd)
    (hcovered : ∀ slot eventFd, table slot = some eventFd → table' slot = some eventFd)
    (other : ℕ) (eventFd : Fd) (hfound : Function.update table slot found other = some eventFd) :
    Function.update table' slot found other = some eventFd := by
  by_cases hother : other = slot
  · subst hother
    rwa [Function.update_self] at hfound ⊢
  · rw [Function.update_of_ne hother] at hfound ⊢
    exact hcovered other eventFd hfound

/-- A record that changes one slot alike in the view and in the table. -/
theorem PublisherRuns.take {taken' : List BrokerMessage} {view view' : TrackingView}
    (hruns : PublisherRuns state taken)
    (htaken : replay TrackingView.apply .initial taken = some view)
    (hview' : ∀ other, replay TrackingView.apply .initial taken' = some other → other = view')
    (slot : ℕ) (found : Option Fd)
    (hupdate : view'.table = Function.update view.table slot found)
    (htable : state'.view.table = Function.update state.view.table slot found)
    (hannounced : view'.announced = state'.phase.announced)
    (hplane : ∃ mapped, (dataPlane mapped).Reachable state'.plane)
    (hbroker : state'.brokerFd = state.brokerFd)
    (hopened : ∀ fd, state.brokerFd = some fd → state.plane.eventFds fd = none →
      state'.plane.eventFds fd = none)
    (hfailures : state.failures <+: state'.failures) : PublisherRuns state' taken' := by
  refine .of_view hview' hplane (fun fd hfd => ?_) hannounced ?_ fun hnone => ?_
  · rw [hbroker] at hfd
    exact hopened fd hfd (hruns.socket fd hfd)
  · rw [hupdate, htable]
    exact covered_update slot found (hruns.covered view htaken)
  · rw [hupdate, htable, hruns.complete (fun hthrew => hnone (hthrew.imp fun _ hentry =>
      ⟨hfailures.subset hentry.1, hentry.2⟩)) view htaken]

/-- A subscriber that is tracked is in the view. -/
theorem PublisherRuns.track {taken' : List BrokerMessage} {view view' : TrackingView}
    {slotIndex dataAvailableEventFd fd : ℕ} {plane' : SharedMemory.State}
    (hruns : PublisherRuns state taken)
    (htaken : replay TrackingView.apply .initial taken = some view)
    (hview' : ∀ other, replay TrackingView.apply .initial taken' = some other → other = view')
    (hupdate : view'.table = Function.update view.table slotIndex (some dataAvailableEventFd))
    (hfree : state.FreeFds [fd])
    (hstep : state.plane.step (.track fd slotIndex) = some (.track none, plane'))
    (hplane : state'.plane = plane')
    (hnames : state'.eventFdOf = Function.update state.eventFdOf fd dataAvailableEventFd)
    (hannounced : view'.announced = state'.phase.announced)
    (hbroker : state'.brokerFd = state.brokerFd)
    (hfailures : state'.failures = state.failures) : PublisherRuns state' taken' := by
  obtain ⟨mapped, hreach⟩ := hruns.plane
  obtain ⟨pool, hinv⟩ := invariant_of_reachable hreach
  refine hruns.take htaken hview' slotIndex (some dataAvailableEventFd) hupdate ?_ hannounced
    ⟨mapped, ?_⟩ hbroker (fun other hother hnone => ?_) (hfailures ▸ List.prefix_refl _)
  · change trackedSlots state'.plane state'.eventFdOf = _
    rw [hplane, hnames]
    exact trackedSlots_track hinv hstep _ _
  · rw [hplane]
    exact hreach.step trivial (Option.map_eq_some_iff.mpr ⟨_, hstep, rfl⟩)
  · have hne : other ≠ fd := fun heq =>
      (hfree.2 fd List.mem_cons_self).2 ((congrArg some heq).symm.trans hother.symm)
    rw [hplane, eventFds_track hstep hne, hnone]

/-- After a first registration `create` waits for the others, or is done. -/
theorem register_proceeds {record : Option BrokerMessage}
    {run : PublisherRun RegistrationResult} {remaining : ℕ}
    (hresult : run.result = if remaining = 0 then .returned (.ok ()) else .waiting) :
    ∃ phase : PublisherPhase, phase.announced = some remaining ∧
      state.register record run remaining = { state.become run.client with phase } := by
  cases remaining with
  | zero =>
      refine ⟨.idle, rfl, ?_⟩
      rw [if_pos rfl] at hresult
      rw [PublisherState.register, hresult]
  | succ remaining =>
      refine ⟨.registering (remaining + 1), rfl, ?_⟩
      rw [if_neg (Nat.succ_ne_zero _)] at hresult
      rw [PublisherState.register, hresult]

/-- The next of the first registrations. -/
theorem PublisherHolds.register (hholds : PublisherHolds state taken) {remaining : ℕ}
    (hphase : state.phase = .registering (remaining + 1)) {record : BrokerMessage}
    {rest : List BrokerMessage} (hhears : Hears trackingMirror taken (record :: rest))
    {fds : List Fd} (hlength : fds.length = (record.packet.rights.getD []).length)
    (hfree : state.FreeFds fds) (answers : TrackAnswers) :
    let received := recvmsg kSubscriberEventFdAndSlotMessageSize kPublisherControlSize
      record.packet.bytes fds
    PublisherHolds ((state.name record fds).register record
      (PublisherClient.trackInitialSubscribers (remaining + 1) [.record received answers]
        state.client) remaining) (taken ++ [record]) := by
  have hruns := hholds.runs (by rw [hphase]; exact fun heq => by cases heq)
  obtain ⟨mapped, hreach⟩ := hruns.plane
  obtain ⟨pool, hinv⟩ := invariant_of_reachable hreach
  obtain ⟨view, view', htaken, hview, hview'⟩ := hears_take hhears
  have hannounced := hruns.announced view htaken
  rw [hphase] at hannounced
  cases hview with
  | count hfirst =>
      rw [hfirst] at hannounced
      cases hannounced
  | disconnection hzero =>
      rw [hzero] at hannounced
      cases hannounced
  | @registration slotIndex dataAvailableEventFd known hknown hslot hnone =>
      obtain rfl : known = remaining + 1 := Option.some.inj (hknown.symm.trans hannounced)
      have heffect := effect_firstRegistration hinv (show state.client.process = _ from rfl)
        remaining answers hslot (hruns.untracked htaken hnone) hlength
        fun fd hmem => (hfree.2 fd hmem).1
      dsimp only at heffect ⊢
      generalize PublisherClient.trackInitialSubscribers (remaining + 1) _ state.client = run
        at heffect ⊢
      obtain ⟨hbroker, hresult, fd, rfl, hstep⟩ | hthrew := heffect
      · obtain ⟨phase, hwaits, hafter⟩ := @register_proceeds (state.name
          (.subscriberEventFdAndSlot slotIndex dataAvailableEventFd) [fd]) _ _ _ hresult
        rw [hafter]
        refine ⟨fun _ => hruns.track htaken hview' rfl hfree hstep rfl rfl ?_ hbroker rfl,
          fun entry hmem => (hholds.failures entry hmem).mono (List.prefix_refl _)⟩
        exact hwaits.symm
      · rw [PublisherState.register, hthrew]
        exact ⟨fun hrunning => absurd rfl hrunning,
          explains_append hholds.failures rfl (.inr (.inl rfl))⟩

/-- A call that leaves the process alone leaves the plane alone. -/
theorem plane_become (hruns : PublisherRuns state taken) {client : PublisherClient}
    (hclient : client.process = state.plane.toPublisherProcess) :
    (state.become client).plane = state.plane := by
  obtain ⟨mapped, hreach⟩ := hruns.plane
  obtain ⟨pool, hinv⟩ := invariant_of_reachable hreach
  rw [PublisherState.become, hclient]
  exact settlePlane_self hinv

/-- The count of the first registrations. -/
theorem PublisherHolds.count (hholds : PublisherHolds state taken)
    (hphase : state.phase = .counting) {record : BrokerMessage} {rest : List BrokerMessage}
    (hhears : Hears trackingMirror taken (record :: rest)) :
    PublisherHolds (state.count record record.packet.bytes) (taken ++ [record]) := by
  have hruns := hholds.runs (by rw [hphase]; exact fun heq => by cases heq)
  have hencodable := hhears.encodable record (by simp)
  obtain ⟨view, view', htaken, hview, hview'⟩ := hears_take hhears
  have hannounced := hruns.announced view htaken
  rw [hphase] at hannounced
  cases hview with
  | registration hknown =>
      rw [hknown] at hannounced
      cases hannounced
  | disconnection hzero =>
      rw [hzero] at hannounced
      cases hannounced
  | @count count hfirst =>
      obtain ⟨hclient, hresult, hcount⟩ := effect_count hencodable state.client
      rw [PublisherState.count, Option.getD_some, hcount]
      generalize PublisherClient.receiveAndTrackInitialSubscriberRegistrations _ [] state.client =
        run at hclient hresult ⊢
      obtain ⟨phase, hwaits, hafter⟩ := @register_proceeds state
        (some (.initialSubscriberCount count)) _ _ hresult
      rw [hafter, hclient]
      have hplane := plane_become hruns (show state.client.process = _ from rfl)
      refine ⟨fun _ => .of_view hview' ?_ ?_ hwaits.symm (fun slot eventFd htable => ?_)
        fun hnone => ?_, fun entry hmem => (hholds.failures entry hmem).mono
          (List.prefix_refl _)⟩
      · dsimp only
        rw [hplane]
        exact hruns.plane
      · dsimp only
        rw [hplane]
        exact hruns.socket
      · refine hruns.covered view htaken slot eventFd ?_
        rw [PublisherState.view] at htable
        dsimp only at htable
        rw [hplane] at htable
        exact htable
      · rw [PublisherState.view]
        dsimp only
        rw [hplane]
        exact hruns.complete hnone view htaken

/-- A record of the event loop that is a step of the plane, or leaves it alone. -/
theorem PublisherHolds.handle (hholds : PublisherHolds state taken)
    (hphase : state.phase = .draining) {record : BrokerMessage} {rest : List BrokerMessage}
    (hhears : Hears trackingMirror taken (record :: rest)) {fds : List Fd}
    (hfree : state.FreeFds fds) {run : PublisherRun ControlResult}
    (heffect : PlaneEffect state.plane record fds run.result
      (settlePlane state.plane run.client.process))
    (hbroker : run.client.brokerFd = state.brokerFd) :
    PublisherHolds ((state.name record fds).handle record run) (taken ++ [record]) := by
  have hruns := hholds.runs (by rw [hphase]; exact fun heq => by cases heq)
  obtain ⟨mapped, hreach⟩ := hruns.plane
  obtain ⟨pool, hinv⟩ := invariant_of_reachable hreach
  obtain ⟨view, view', htaken, hview, hview'⟩ := hears_take hhears
  have hannounced := hruns.announced view htaken
  rw [hphase] at hannounced
  rw [PublisherState.handle]
  generalize hafter : settlePlane state.plane run.client.process = plane' at heffect
  replace hafter : ((state.name record fds).become run.client).plane = plane' := hafter
  generalize run.result = result at heffect ⊢
  cases heffect with
  | @tracked slotIndex dataAvailableEventFd fd _ hfreeSlot hstep =>
      rw [if_pos rfl]
      cases hview with
      | @registration _ _ known hknown hslot hnone =>
          obtain rfl : known = 0 := Option.some.inj (hknown.symm.trans hannounced)
          refine ⟨fun _ => hruns.track htaken hview' rfl hfree hstep hafter rfl ?_ hbroker rfl,
            hholds.failures⟩
          exact (congrArg PublisherPhase.announced hphase).symm
  | @refused slotIndex dataAvailableEventFd fd _ hresult hthrew =>
      cases hview with
      | @registration _ _ known hknown hslot hnone =>
          obtain rfl := hthrew hslot (hruns.untracked htaken hnone)
          rw [if_neg hresult]
          have hfresh := (hfree.2 fd List.mem_cons_self).1
          obtain rfl : known = 0 := Option.some.inj (hknown.symm.trans hannounced)
          refine ⟨fun _ => .of_view hview' ?_ ?_ rfl (fun slot eventFd htable => ?_)
            fun hnone => absurd ⟨_, List.mem_append_right _ (List.mem_singleton_self _), .inr rfl⟩
              hnone, explains_append hholds.failures rfl (.inr (.inr (.inl rfl)))⟩
          · exact ⟨mapped, hafter ▸ hreach⟩
          · exact fun other hother => hafter ▸ hruns.socket other (hbroker ▸ hother)
          · rw [PublisherState.view] at htable
            dsimp only at htable
            rw [hafter] at htable
            replace htable : trackedSlots state.plane
              (Function.update state.eventFdOf fd dataAvailableEventFd) slot = _ := htable
            rw [trackedSlots_fresh hinv hfresh] at htable
            have hne : slot ≠ slotIndex := fun heq => by
              rw [heq, trackedSlots, if_neg (hruns.untracked htaken hnone)] at htable
              cases htable
            exact (Function.update_of_ne hne _ _).trans
              (hruns.covered view htaken slot eventFd htable)
  | @reaped slotIndex _ hstep =>
      rw [if_pos rfl]
      cases hview with
      | disconnection hzero htracked =>
          refine ⟨fun _ => hruns.take htaken hview' slotIndex none rfl ?_ ?_ ⟨mapped, ?_⟩ hbroker
            (fun fd _ hnone => ?_) (List.prefix_refl _), hholds.failures⟩
          · exact (congrArg (trackedSlots · state.eventFdOf) hafter).trans
              (trackedSlots_reap hinv hstep _)
          · exact hannounced.trans (congrArg PublisherPhase.announced hphase).symm
          · exact hafter ▸ hreach.step trivial (Option.map_eq_some_iff.mpr ⟨_, hstep, rfl⟩)
          · exact hafter ▸ eventFds_reap hstep hnone
  | @untracked slotIndex huntracked =>
      rw [if_neg fun heq => by cases heq]
      cases hview with
      | disconnection hzero htracked =>
          have hempty : state.view.table slotIndex = none := if_neg huntracked
          have hthrew : state.Threw := by
            by_contra hnone
            exact htracked ((congrFun (hruns.complete hnone view htaken) slotIndex).trans hempty)
          refine ⟨fun _ => hruns.take htaken hview' slotIndex none rfl ?_ hannounced ⟨mapped, ?_⟩
            hbroker (fun fd _ hnone => ?_) (List.prefix_append _ _),
            explains_append hholds.failures rfl (.inr (.inr (.inr ⟨?_, slotIndex, rfl⟩)))⟩
          · rw [← Function.eq_update_self_iff.mpr hempty]
            exact congrArg (trackedSlots · state.eventFdOf) hafter
          · exact hafter ▸ hreach
          · exact hafter ▸ hnone
          · exact hthrew.imp fun _ hentry => ⟨List.mem_append_left _ hentry.1, hentry.2⟩

/-- A record of the event loop. -/
theorem PublisherHolds.receive (hholds : PublisherHolds state taken)
    (hphase : state.phase = .draining) {record : BrokerMessage} {rest : List BrokerMessage}
    (hhears : Hears trackingMirror taken (record :: rest)) {fds : List Fd}
    (hlength : fds.length = (record.packet.rights.getD []).length)
    (hfree : state.FreeFds fds) (answers : TrackAnswers) (buffer : Memory) :
    let received := recvmsg kMaxMessageSize kPublisherControlSize record.packet.bytes fds
    PublisherHolds ((state.name record fds).handle record
      (PublisherClient.processBrokerControlMessages [.record received answers] buffer
        state.client)) (taken ++ [record]) := by
  have hruns := hholds.runs (by rw [hphase]; exact fun heq => by cases heq)
  obtain ⟨mapped, hreach⟩ := hruns.plane
  obtain ⟨pool, hinv⟩ := invariant_of_reachable hreach
  obtain ⟨view, view', htaken, hview, hview'⟩ := hears_take hhears
  have hencodable := hhears.encodable record (by simp)
  have hclient : state.client.process = state.plane.toPublisherProcess := rfl
  cases hview with
  | count hfirst =>
      have hannounced := hruns.announced view htaken
      rw [hphase, hfirst] at hannounced
      cases hannounced
  | registration =>
      obtain ⟨heffect, hbroker⟩ := effect_registration hinv hclient answers buffer hencodable
        hlength fun fd hmem => (hfree.2 fd hmem).1
      exact hholds.handle hphase hhears hfree heffect hbroker
  | disconnection =>
      obtain ⟨heffect, hbroker⟩ :=
        effect_subscriberDisconnected hinv hclient answers buffer hencodable hlength
      exact hholds.handle hphase hhears hfree heffect hbroker

/-- `create` fails without a record. -/
theorem PublisherHolds.register_fails (hholds : PublisherHolds state taken)
    {run : PublisherRun RegistrationResult} {error : RegistrationError}
    (hresult : run.result = .returned (.error error)) (remaining : ℕ) :
    PublisherHolds (state.register none run remaining) taken := by
  rw [PublisherState.register, hresult]
  exact ⟨fun hrunning => absurd rfl hrunning, explains_append hholds.failures rfl (.inl rfl)⟩

/-- The event loop's call fails without a record. -/
theorem PublisherHolds.handle_fails (hholds : PublisherHolds state taken)
    (hphase : state.phase = .draining) {run : PublisherRun ControlResult}
    (hresult : run.result ≠ .returned .none)
    (hprocess : run.client.process = state.plane.toPublisherProcess)
    (hbroker : run.client.brokerFd = state.brokerFd ∨ run.client.brokerFd = none) :
    PublisherHolds (state.handle none run) taken := by
  have hruns := hholds.runs (by rw [hphase]; exact fun heq => by cases heq)
  rw [PublisherState.handle, if_neg hresult]
  have hplane := plane_become hruns hprocess
  refine ⟨fun _ => hruns.quiet ?_ (fun fd hfd => ?_) ?_ ?_,
    explains_append hholds.failures rfl (.inl rfl)⟩
  · dsimp only
    rw [hplane]
    exact hruns.plane
  · dsimp only
    rw [hplane]
    obtain hsame | hnone := hbroker
    · exact hruns.socket fd (hsame ▸ hfd)
    · exact absurd (hnone.symm.trans hfd) (by simp)
  · rw [PublisherState.view, PublisherState.view, hphase]
    dsimp only
    rw [hplane]
    rfl
  · exact fun hthrew => hthrew.imp fun _ hentry => ⟨List.mem_append_left _ hentry.1, hentry.2⟩

/-- The loop of `create` stops where a receive brings no registration. -/
theorem trackInitialSubscribers_fails (remaining : ℕ) (answers : TrackAnswers)
    (client : PublisherClient) :
    (∃ error, (PublisherClient.trackInitialSubscribers (remaining + 1) [.failed] client).result =
      .returned (.error error)) ∧
    ∃ error, (PublisherClient.trackInitialSubscribers (remaining + 1)
      [.record { bytes := [], truncated := false, control := none } answers] client).result =
        .returned (.error error) :=
  ⟨⟨_, rfl⟩, ⟨_, rfl⟩⟩

/-- A receive fails. -/
theorem PublisherHolds.receiveFailed (hholds : PublisherHolds state taken)
    (hnext : state.receiveNothing .failed none = some state') :
    PublisherHolds state' taken := by
  rw [PublisherState.receiveNothing] at hnext
  split at hnext
  next hphase =>
    obtain rfl := Option.some.inj hnext
    exact hholds.register_fails rfl _
  next remaining hphase =>
    obtain rfl := Option.some.inj hnext
    obtain ⟨error, hresult⟩ :=
      (trackInitialSubscribers_fails remaining ⟨true, true⟩ state.client).1
    exact hholds.register_fails hresult _
  next hphase =>
    obtain rfl := Option.some.inj hnext
    exact hholds.handle_fails hphase (fun heq => by cases heq) rfl (.inl rfl)
  next => cases hnext

/-- Numbers that no event has are closed without a trace in the process. -/
theorem process_closeFds {client : PublisherClient} {fds : List Fd}
    (hclosed : ∀ fd ∈ fds, client.process.eventFds fd = none) :
    (client.closeFds fds).process = client.process := by
  have heq : DescriptorTable.closeAll client.process.eventFds fds = client.process.eventFds := by
    funext fd
    rw [DescriptorTable.closeAll_apply]
    split
    next hmem => exact (hclosed fd hmem).symm
    next => rfl
  rw [PublisherClient.closeFds, heq]

/-- The broker has closed its end. -/
theorem PublisherHolds.closed (hholds : PublisherHolds state taken)
    (hnext : state.receiveNothing
      (.record { bytes := [], truncated := false, control := none } ⟨true, true⟩) (some []) =
        some state') : PublisherHolds state' taken := by
  rw [PublisherState.receiveNothing] at hnext
  split at hnext
  next hphase =>
    obtain rfl := Option.some.inj hnext
    exact hholds.register_fails rfl _
  next remaining hphase =>
    obtain rfl := Option.some.inj hnext
    obtain ⟨error, hresult⟩ :=
      (trackInitialSubscribers_fails remaining ⟨true, true⟩ state.client).2
    exact hholds.register_fails hresult _
  next hphase =>
    obtain rfl := Option.some.inj hnext
    have hruns := hholds.runs (by rw [hphase]; exact fun heq => by cases heq)
    obtain ⟨hresult, hclient⟩ := publisher_processBrokerControlMessages_single
      { bytes := [], truncated := false, control := none } ⟨true, true⟩ (fun _ => 0) state.client
    refine hholds.handle_fails hphase (hresult ▸ fun heq => by cases heq) ?_ (.inr ?_)
    · have hsocket : ∀ fd ∈ state.brokerFd.toList, state.plane.eventFds fd = none :=
        fun fd hmem => hruns.socket fd (Option.mem_toList.mp hmem)
      rw [hclient]
      exact (congrArg PublisherClient.process (closeFds_nil _)).trans
        (@process_closeFds state.client _ hsocket)
    · rw [hclient]
      rfl
  next => cases hnext

/-- A step that changes the phase alone. -/
theorem PublisherHolds.setPhase (hholds : PublisherHolds state taken) {phase : PublisherPhase}
    (hbefore : state.phase.announced = some 0 ∧ state.phase ≠ .stopped)
    (hafter : phase.announced = some 0) :
    PublisherHolds { state with phase } taken := by
  have hruns := hholds.runs hbefore.2
  refine ⟨fun _ => hruns.quiet hruns.plane hruns.socket ?_ id, hholds.failures⟩
  exact congrArg (TrackingView.mk · _) (hafter.trans hbefore.1.symm)

theorem publisherProgram_keeps : publisherProgram.Keeps trackingMirror PublisherHolds := by
  intro state taken channel move state' count hholds hhears hnext
  replace hnext : state.next channel move = some (state', count) := hnext
  cases move with
  | data action =>
      rw [PublisherState.next, Option.ite_none_right_eq_some] at hnext
      obtain ⟨hruns, hnext⟩ := hnext
      obtain ⟨⟨outcome, plane⟩, hstep, hstate⟩ := Option.map_eq_some_iff.mp hnext
      obtain ⟨rfl, rfl⟩ := Prod.mk.inj hstate
      rw [List.take_zero, List.append_nil]
      exact hholds.data hruns hstep
  | count =>
      rw [PublisherState.next.eq_def] at hnext
      cases channel with
      | nil => cases hnext
      | cons record rest =>
          dsimp only at hnext
          rw [Option.ite_none_right_eq_some] at hnext
          obtain ⟨rfl, rfl⟩ := Prod.mk.inj (Option.some.inj hnext.2)
          exact hholds.count hnext.1 hhears
  | register fds answers =>
      rw [PublisherState.next.eq_def] at hnext
      dsimp only at hnext
      split at hnext
      next remaining record rest hphase =>
        rw [Option.ite_none_right_eq_some] at hnext
        obtain ⟨⟨hlength, hfree⟩, hnext⟩ := hnext
        obtain ⟨rfl, rfl⟩ := Prod.mk.inj (Option.some.inj hnext)
        exact hholds.register hphase hhears hlength hfree answers
      next => cases hnext
  | wake =>
      rw [PublisherState.next, Option.ite_none_right_eq_some] at hnext
      obtain ⟨⟨hphase, -⟩, hnext⟩ := hnext
      obtain ⟨rfl, rfl⟩ := Prod.mk.inj (Option.some.inj hnext)
      rw [List.take_zero, List.append_nil]
      exact hholds.setPhase (by rw [hphase]; exact ⟨rfl, fun heq => by cases heq⟩) rfl
  | receive buffer fds answers =>
      rw [PublisherState.next.eq_def] at hnext
      cases channel with
      | nil => cases hnext
      | cons record rest =>
          dsimp only at hnext
          rw [Option.ite_none_right_eq_some] at hnext
          obtain ⟨⟨hphase, hlength, hfree⟩, hnext⟩ := hnext
          obtain ⟨rfl, rfl⟩ := Prod.mk.inj (Option.some.inj hnext)
          exact hholds.receive hphase hhears hlength hfree answers buffer
  | drained =>
      rw [PublisherState.next, Option.ite_none_right_eq_some] at hnext
      obtain ⟨⟨hphase, -⟩, hnext⟩ := hnext
      obtain ⟨rfl, rfl⟩ := Prod.mk.inj (Option.some.inj hnext)
      rw [List.take_zero, List.append_nil]
      exact hholds.setPhase (by rw [hphase]; exact ⟨rfl, fun heq => by cases heq⟩) rfl
  | receiveFailed =>
      rw [PublisherState.next] at hnext
      obtain ⟨after, hafter, hstate⟩ := Option.map_eq_some_iff.mp hnext
      obtain ⟨rfl, rfl⟩ := Prod.mk.inj hstate
      rw [List.take_zero, List.append_nil]
      exact hholds.receiveFailed hafter
  | closed =>
      rw [PublisherState.next, Option.ite_none_right_eq_some] at hnext
      obtain ⟨after, hafter, hstate⟩ := Option.map_eq_some_iff.mp hnext.2
      obtain ⟨rfl, rfl⟩ := Prod.mk.inj hstate
      rw [List.take_zero, List.append_nil]
      exact hholds.closed hafter
  | abandon =>
      obtain ⟨rfl, rfl⟩ := Prod.mk.inj (Option.some.inj hnext)
      rw [List.take_zero, List.append_nil]
      exact ⟨fun hrunning => absurd rfl hrunning, hholds.failures⟩

end Steps

/-! ## Runs -/

section Runs

variable {joint : Joint PublisherState}

theorem publishers_mirrored
    (hreach : publisherProgram.system.ReachableWith publisherProgram.Allows joint) :
    Mirrored publisherProgram trackingMirror PublisherHolds joint :=
  mirrored_of_reachable trackingMirror_faithful publisherProgram_speaks publisherHolds_initial
    publisherProgram_keeps hreach

/-- A subscriber leaves while another one's registration is handled: the slot that is
freed is still tracked, and the record that frees it waits. -/
def subscriberLeaves : List (Step (SharedData × Fd) PublisherMove) :=
  [.connect 0 3 none, .broker (.request 3 subscription.packet),
    .broker (.receive 3 .generous), .connect 1 4 (some (SharedMemory.zeroedMapping, 9)),
    .broker (.request 4 publication.packet), .broker (.receive 4 .generous),
    .client 1 .count, .client 1 (.register [20] ⟨true, true⟩), .connect 2 5 none,
    .broker (.request 5 subscription.packet), .broker (.receive 5 .generous),
    .client 1 (.data (.publish [1, 2])), .client 1 .wake,
    .client 1 (.receive (fun _ => 0) [21] ⟨true, true⟩), .broker (.hangUp 3),
    .broker (.receive 3 .generous)]

def subscriberLeft : Joint PublisherState :=
  (publisherProgram.system.guardedRun (allowsStep [publication] [subscription])
    publisherProgram.system.initial subscriberLeaves).getD publisherProgram.system.initial

end Runs

end DriveBus.Agreement
