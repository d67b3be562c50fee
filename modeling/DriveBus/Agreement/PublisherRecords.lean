import DriveBus.Agreement.PublisherProgram
import DriveBus.Agreement.SubscriberRecords
import DriveBus.SharedMemory.PublisherSteps

/-!
# What a record does to a publisher

A record of the broker is a step of the publisher's data plane, or it leaves it alone.  A
registration whose slot is free is tracked unless an allocation fails, and the end of a
subscriber is reaped if its slot is tracked.
-/

namespace DriveBus.Agreement

open DriveBus.ByteMemory DriveBus.Clients DriveBus.ControlPlane DriveBus.DescriptorTable

open DriveBus.SharedMemory (PublisherProcess Pool Reader RunError TrackingTables kInvalidIndex)

/-! ## Planes that settle -/

section Planes

variable {plane plane' : SharedMemory.State} {pool : Pool plane.published} {fd slot : ℕ}

/-- A plane settles on one in which each slot that is tracked keeps its subscriber or gets
a new one. -/
theorem settlePlane_eq {pool' : Pool plane'.published}
    (hinv' : SharedMemory.Invariant plane' pool')
    (hreaders : ∀ slot reader, plane'.readers slot = some reader →
      (plane.readers slot).getD (Reader.attached slot plane.published.length) = reader)
    (hretired : plane'.retired = plane.retired ++
      (List.range SharedMemory.kMaxSubscribers).filterMap fun slot =>
        if (plane'.readers slot).isSome then none else plane.readers slot)
    (hpublished : plane'.published = plane.published)
    (hspace : plane'.spaceAvailable = plane.spaceAvailable) :
    settlePlane plane plane'.toPublisherProcess = plane' := by
  have htracked : ∀ slot, plane'.shared.Tracked slot ↔ (plane'.readers slot).isSome :=
    fun slot => hinv'.tracked_iff.trans Option.isSome_iff_exists.symm
  have hreadersEq : (settlePlane plane plane'.toPublisherProcess).readers = plane'.readers := by
    funext slot
    change (if plane'.shared.Tracked slot then _ else none) = _
    cases hreader : plane'.readers slot with
    | none => rw [if_neg (by rw [htracked, hreader]; simp)]
    | some reader => rw [if_pos (by rw [htracked, hreader]; simp), hreaders slot reader hreader]
  have hretiredEq : (settlePlane plane plane'.toPublisherProcess).retired = plane'.retired := by
    rw [hretired]
    refine congrArg (plane.retired ++ ·) (List.filterMap_congr fun slot _ => ?_)
    by_cases hslot : plane'.shared.Tracked slot
    · rw [if_pos hslot, if_pos ((htracked slot).mp hslot)]
    · rw [if_neg hslot, if_neg fun hsome => hslot ((htracked slot).mpr hsome)]
  rw [settlePlane] at hreadersEq hretiredEq ⊢
  dsimp only at hreadersEq hretiredEq
  rw [hreadersEq, hretiredEq, ← hpublished, ← hspace]

theorem settlePlane_self (hinv : SharedMemory.Invariant plane pool) :
    settlePlane plane plane.toPublisherProcess = plane := by
  refine settlePlane_eq hinv (fun slot reader hreader => by rw [hreader]; rfl) ?_ rfl rfl
  rw [List.filterMap_eq_nil_iff.mpr fun slot _ => ?_, List.append_nil]
  cases plane.readers slot <;> rfl

/-- A descriptor that comes in and is closed again leaves no trace. -/
theorem update_update_none {eventFds : SharedMemory.EventFdTable} (hfresh : eventFds fd = none)
    (count : Option ℕ) :
    Function.update (Function.update eventFds fd count) fd none = eventFds := by
  rw [Function.update_idem, ← hfresh, Function.update_eq_self]

/-- A subscriber of a free slot is tracked. -/
theorem settlePlane_track (hinv : SharedMemory.Invariant plane pool)
    (hfresh : plane.eventFds fd = none) {process : PublisherProcess}
    (htrack : SharedMemory.trackSubscriber { plane.toPublisherProcess with
      eventFds := Function.update plane.eventFds fd (some 0) } fd slot = (none, process)) :
    plane.step (.track fd slot) = some (.track none, settlePlane plane process) := by
  have hstep : plane.step (.track fd slot) = some (.track none, { plane with
      toPublisherProcess := process
      readers := Function.update plane.readers slot
        (some (Reader.attached slot plane.published.length)) }) := by
    change plane.track fd slot = _
    rw [SharedMemory.State.track, if_neg (by simp [hfresh])]
    dsimp only
    rw [htrack]
  have hnone : plane.readers slot = none := by
    by_contra hsome
    obtain ⟨reader, hreader⟩ := Option.ne_none_iff_exists'.mp hsome
    obtain ⟨error, herror⟩ := SharedMemory.Invariant.trackSubscriber_refused hfresh
      (.inr (hinv.tracked_iff.mpr ⟨reader, hreader⟩).2)
    rw [herror] at htrack
    cases htrack
  obtain ⟨pool', hinv', -⟩ := hinv.step hstep
  rw [hstep]
  refine congrArg (fun after => some (SharedMemory.Outcome.track none, after))
    (@settlePlane_eq plane _ pool' hinv' (fun other reader hreader => ?_) ?_ rfl rfl).symm
  · dsimp only at hreader
    by_cases hother : other = slot
    · subst hother
      rw [Function.update_self, Option.some.injEq] at hreader
      rw [hnone]
      exact hreader
    · rw [Function.update_of_ne hother] at hreader
      rw [hreader]
      rfl
  · rw [List.filterMap_eq_nil_iff.mpr fun other _ => ?_, List.append_nil]
    refine ite_eq_left_iff.mpr fun habsent => ?_
    by_cases hother : other = slot
    · exact hother ▸ hnone
    · dsimp only at habsent
      rwa [Function.update_of_ne hother, Option.not_isSome_iff_eq_none] at habsent

/-- One entry of a range is kept. -/
theorem filterMap_range_single {α : Type*} {bound found : ℕ} {value : α} {f : ℕ → Option α}
    (hbound : found < bound) (hfound : f found = some value)
    (hother : ∀ other, other ≠ found → f other = none) :
    (List.range bound).filterMap f = [value] := by
  induction bound with
  | zero => omega
  | succ bound ih =>
      rw [List.range_succ, List.filterMap_append, List.filterMap_cons, List.filterMap_nil]
      by_cases heq : found = bound
      · subst heq
        rw [hfound, List.filterMap_eq_nil_iff.mpr fun other hmem =>
          hother other (List.mem_range.mp hmem).ne, List.nil_append]
      · rw [ih (by omega), hother bound (Ne.symm heq)]
        rfl

/-- A subscriber that has stopped is reaped. -/
theorem settlePlane_reap (hinv : SharedMemory.Invariant plane pool) {reader : Reader}
    (hreader : plane.readers slot = some reader) :
    (SharedMemory.reapDeadSubscribers plane.toPublisherProcess slot).1 = .none ∧
      plane.step (.reap slot) = some (.reap .none, settlePlane plane
        (SharedMemory.reapDeadSubscribers plane.toPublisherProcess slot).2) := by
  have hstep : plane.step (.reap slot) =
      some (.reap (SharedMemory.reapDeadSubscribers plane.toPublisherProcess slot).1,
        { plane with
          toPublisherProcess := (SharedMemory.reapDeadSubscribers plane.toPublisherProcess slot).2
          readers := Function.update plane.readers slot none
          retired := plane.retired ++ [reader] }) := by
    change plane.reap slot = _
    rw [SharedMemory.State.reap, hreader]
  obtain ⟨-, pool', -, houtcome, hinv', -⟩ := hinv.reap hstep
  have hnone : (SharedMemory.reapDeadSubscribers plane.toPublisherProcess slot).1 = .none :=
    SharedMemory.Outcome.reap.inj houtcome
  refine ⟨hnone, ?_⟩
  rw [hstep, hnone]
  refine congrArg (fun after => some (SharedMemory.Outcome.reap RunError.none, after))
    (@settlePlane_eq plane _ pool' hinv' (fun other otherReader hother => ?_) ?_ rfl rfl).symm
  · dsimp only at hother
    by_cases heq : other = slot
    · rw [heq, Function.update_self] at hother
      cases hother
    · rw [Function.update_of_ne heq] at hother
      rw [hother]
      rfl
  · refine congrArg (plane.retired ++ ·) (filterMap_range_single
      (f := fun other => if (Function.update plane.readers slot none other).isSome then none
        else plane.readers other) (hinv.slot_lt hreader) ?_ fun other hother => ?_).symm
    · rw [Function.update_self]
      exact hreader
    · rw [Function.update_of_ne hother]
      cases plane.readers other <;> rfl

/-- A registration under a fresh number is a step of the plane, or leaves it alone; with a
free slot only an allocation can fail. -/
theorem trackSubscriber_fresh (hinv : SharedMemory.Invariant plane pool)
    (hfresh : plane.eventFds fd = none) {client : PublisherClient}
    (hclient : client.process = plane.toPublisherProcess) (answers : TrackAnswers) (slot : ℕ) :
    let tracked := (client.receiveFds [fd]).trackSubscriber answers fd slot
    tracked.2.brokerFd = client.brokerFd ∧
    ((tracked.1 = .tracked ∧ slot < SharedMemory.kMaxSubscribers ∧
        ¬plane.shared.Tracked slot ∧ plane.step (.track fd slot) =
          some (.track none, settlePlane plane tracked.2.process)) ∨
      (tracked.1 ≠ .tracked ∧ tracked.2.process = plane.toPublisherProcess ∧
        (slot < SharedMemory.kMaxSubscribers → ¬plane.shared.Tracked slot →
          tracked.1 = .threw))) := by
  generalize hreceived : client.receiveFds [fd] = received
  have hprocess : received.process = { plane.toPublisherProcess with
      eventFds := Function.update plane.eventFds fd (some 0) } := by
    rw [← hreceived, ← hclient]
    rfl
  have hbroker : received.brokerFd = client.brokerFd := by
    rw [← hreceived]
    rfl
  have hguarded : (received.closeFds [fd]).process = plane.toPublisherProcess := by
    rw [PublisherClient.closeFds, hprocess]
    dsimp only [closeAll, List.foldl_cons, List.foldl_nil]
    rw [update_update_none hfresh]
  have habsent : plane.publisher.subscriberSlotIndexByDataAvailableEventFd.lookup fd = none := by
    cases hlookup : plane.publisher.subscriberSlotIndexByDataAvailableEventFd.lookup fd with
    | none => rfl
    | some other =>
        have hopen := (hinv.tables.slot_of_lookup hlookup).2.2
        rw [hfresh] at hopen
        cases hopen
  have hnew : received.process.publisher.subscriberSlotIndexByDataAvailableEventFd.lookup fd =
      none := by
    rw [hprocess]
    exact habsent
  have hreads : received.process.shared.descriptorReadIndices slot =
      plane.shared.descriptorReadIndices slot := by rw [hprocess]
  dsimp only
  rw [PublisherClient.trackSubscriber]
  dsimp only
  rw [hreads, hnew]
  by_cases hrange : SharedMemory.kMaxSubscribers ≤ slot
  · rw [if_pos hrange]
    exact ⟨hbroker, .inr ⟨(fun heq => by cases heq), hguarded, fun hlt => absurd hrange (by omega)⟩⟩
  by_cases hslot : plane.shared.descriptorReadIndices slot ≠ kInvalidIndex
  · rw [if_neg hrange, if_pos hslot]
    exact ⟨hbroker, .inr ⟨(fun heq => by cases heq), hguarded,
      fun hlt hnot => absurd ⟨hlt, hslot⟩ hnot⟩⟩
  rw [if_neg hrange, if_neg hslot, if_neg (by simp)]
  by_cases hinsert : answers.insert = false
  · rw [if_pos hinsert]
    exact ⟨hbroker, .inr ⟨(fun heq => by cases heq), hguarded, fun _ _ => rfl⟩⟩
  by_cases hemplace : answers.emplaceBack = false
  · rw [if_neg hinsert, if_pos hemplace, UnorderedMap.erase_insert_of_notMem _ hnew]
    exact ⟨hbroker, .inr ⟨(fun heq => by cases heq), hguarded, fun _ _ => rfl⟩⟩
  · rw [if_neg hinsert, if_neg hemplace]
    refine ⟨hbroker, .inl ⟨rfl, by omega, fun htracked => hslot htracked.2,
      settlePlane_track hinv hfresh ?_⟩⟩
    rw [← hprocess, SharedMemory.trackSubscriber, if_neg hrange, hreads, if_neg hslot, hnew,
      if_neg (by simp)]

theorem reapDeadSubscribers_untracked {process : PublisherProcess}
    (huntracked : ¬process.shared.Tracked slot) :
    SharedMemory.reapDeadSubscribers process slot = (.deadSubscriberReapFailed, process) := by
  rw [SharedMemory.reapDeadSubscribers]
  split
  · rfl
  next hslot =>
    have hinvalid : process.shared.descriptorReadIndices slot = kInvalidIndex :=
      not_not.mp fun hvalid => huntracked ⟨not_le.mp hslot, hvalid⟩
    exact if_pos hinvalid

end Planes

/-! ## Records as they arrive -/

theorem recvmsg_registration {packetSize slotIndex dataAvailableEventFd fd : ℕ}
    (hsize : kSubscriberEventFdAndSlotMessageSize ≤ packetSize) :
    recvmsg packetSize kPublisherControlSize
        (BrokerMessage.subscriberEventFdAndSlot slotIndex dataAvailableEventFd).packet.bytes
        [fd] =
      { bytes := BrokerMessageType.subscriberEventFdAndSlot.code :: littleEndian 4 slotIndex
        truncated := false
        control := some (.rights [some fd]) } := by
  have hlength : (BrokerMessage.subscriberEventFdAndSlot slotIndex
      dataAvailableEventFd).packet.bytes.length = kSubscriberEventFdAndSlotMessageSize := by
    simp [BrokerMessage.packet, kSubscriberEventFdAndSlotMessageSize]
  have hcontrol : deliverableFds kPublisherControlSize = 2 := by decide
  rw [recvmsg, List.take_of_length_le (hlength.trans_le hsize), hlength, hcontrol]
  simp [BrokerMessage.packet, hsize]

theorem recvmsg_subscriberDisconnected (slotIndex : ℕ) :
    recvmsg kMaxMessageSize kPublisherControlSize
        (BrokerMessage.subscriberDisconnected slotIndex).packet.bytes [] =
      { bytes := BrokerMessageType.subscriberDisconnected.code :: littleEndian 4 slotIndex
        truncated := false
        control := none } := by
  have hlength : (BrokerMessage.subscriberDisconnected slotIndex).packet.bytes.length = 5 := by
    simp [BrokerMessage.packet]
  rw [recvmsg, List.take_of_length_le (by rw [hlength, kMaxMessageSize]; omega)]
  simp [kMaxMessageSize, BrokerMessage.packet]

/-- A call that takes one record handles it and closes what is left in the message. -/
theorem publisher_processBrokerControlMessages_single (received : Received)
    (answers : TrackAnswers) (buffer : Memory) (client : PublisherClient) :
    let handled := PublisherClient.handleControlRecord answers
      (store buffer 0 received.bytes) received (client.receiveFds received.fds)
    let run := PublisherClient.processBrokerControlMessages [.record received answers] buffer
      client
    run.result = handled.1 ∧
      run.client = handled.2.2.closeFds (receivedFds handled.2.1) := by
  dsimp only
  rw [PublisherClient.processBrokerControlMessages]
  dsimp only
  split
  next hresult => exact ⟨hresult.symm, rfl⟩
  next hresult => exact ⟨rfl, rfl⟩

/-! ## The records of the event loop -/

/-- What handling a record comes to: the result, and the plane that it leaves. -/
inductive PlaneEffect (plane : SharedMemory.State) :
    BrokerMessage → List Fd → ControlResult → SharedMemory.State → Prop
  | tracked {slotIndex dataAvailableEventFd fd : ℕ} {plane' : SharedMemory.State}
      (hfree : ¬plane.shared.Tracked slotIndex)
      (hstep : plane.step (.track fd slotIndex) = some (.track none, plane')) :
      PlaneEffect plane (.subscriberEventFdAndSlot slotIndex dataAvailableEventFd) [fd]
        (.returned .none) plane'
  | refused {slotIndex dataAvailableEventFd fd : ℕ} {result : ControlResult}
      (hresult : result ≠ .returned .none)
      (hthrew : slotIndex < SharedMemory.kMaxSubscribers →
        ¬plane.shared.Tracked slotIndex → result = .threw) :
      PlaneEffect plane (.subscriberEventFdAndSlot slotIndex dataAvailableEventFd) [fd]
        result plane
  | reaped {slotIndex : ℕ} {plane' : SharedMemory.State}
      (hstep : plane.step (.reap slotIndex) = some (.reap .none, plane')) :
      PlaneEffect plane (.subscriberDisconnected slotIndex) [] (.returned .none) plane'
  | untracked {slotIndex : ℕ} (huntracked : ¬plane.shared.Tracked slotIndex) :
      PlaneEffect plane (.subscriberDisconnected slotIndex) []
        (.returned .deadSubscriberReapFailed) plane

section Effects

variable {plane : SharedMemory.State} {pool : Pool plane.published} {client : PublisherClient}
  {fds : List Fd}

theorem closeFds_nil (client : PublisherClient) : client.closeFds [] = client := by
  simp [PublisherClient.closeFds, closeAll]

/-- A registration that arrives. -/
theorem effect_registration (hinv : SharedMemory.Invariant plane pool)
    (hclient : client.process = plane.toPublisherProcess) (answers : TrackAnswers)
    (buffer : Memory) {slotIndex dataAvailableEventFd : ℕ}
    (hencodable : (BrokerMessage.subscriberEventFdAndSlot slotIndex
      dataAvailableEventFd).Encodable)
    (hlength : fds.length = ((BrokerMessage.subscriberEventFdAndSlot slotIndex
      dataAvailableEventFd).packet.rights.getD []).length)
    (hfresh : ∀ fd ∈ fds, plane.eventFds fd = none) :
    let received := recvmsg kMaxMessageSize kPublisherControlSize
      (BrokerMessage.subscriberEventFdAndSlot slotIndex dataAvailableEventFd).packet.bytes fds
    let run := PublisherClient.processBrokerControlMessages [.record received answers] buffer
      client
    PlaneEffect plane (.subscriberEventFdAndSlot slotIndex dataAvailableEventFd) fds run.result
      (settlePlane plane run.client.process) ∧ run.client.brokerFd = client.brokerFd := by
  obtain ⟨fd, rfl⟩ := List.length_eq_one_iff.mp hlength
  have hslot : ofLittleEndian (load (store buffer 0
      (BrokerMessageType.subscriberEventFdAndSlot.code :: littleEndian 4 slotIndex)) 1 4) =
        slotIndex := by
    have hbody := load_body buffer BrokerMessageType.subscriberEventFdAndSlot.code
      (littleEndian 4 slotIndex)
    rw [length_littleEndian] at hbody
    rw [hbody]
    exact ofLittleEndian_of_lt (by norm_num; exact hencodable)
  have hother : BrokerMessageType.subscriberEventFdAndSlot.code ≠
      BrokerMessageType.subscriberDisconnected.code := by decide
  dsimp only
  rw [recvmsg_registration (by decide)]
  have hcame : Received.fds
      { bytes := BrokerMessageType.subscriberEventFdAndSlot.code :: littleEndian 4 slotIndex
        truncated := false
        control := some (.rights [some fd]) } = [fd] := rfl
  obtain ⟨hresult, hafter⟩ := publisher_processBrokerControlMessages_single
    { bytes := BrokerMessageType.subscriberEventFdAndSlot.code :: littleEndian 4 slotIndex
      truncated := false
      control := some (.rights [some fd]) } answers buffer client
  rw [PublisherClient.handleControlRecord, store_code, hcame] at hresult hafter
  simp only [List.length_cons, length_littleEndian, Nat.reduceAdd, OfNat.ofNat_ne_zero,
    if_false, Bool.false_eq_true, hother, Nat.reduceLT, if_true, Nat.reduceSub,
    PublisherClient.handleSubscriberRegisteredMessage, ne_eq, not_true_eq_false, hslot]
    at hresult hafter
  obtain ⟨hbroker, htracked⟩ := trackSubscriber_fresh hinv (hfresh fd (by simp)) hclient answers
    slotIndex
  change _ = (PublisherClient.trackSubscriber answers (client.receiveFds [fd]) fd
    slotIndex).2.closeFds [] at hafter
  rw [closeFds_nil] at hafter
  rw [hresult, hafter]
  refine ⟨?_, hbroker⟩
  generalize PublisherClient.trackSubscriber answers (client.receiveFds [fd]) fd slotIndex =
    tracked at htracked ⊢
  obtain ⟨htracked, -, hfree, hstep⟩ | ⟨hrefused, hsame, hthrew⟩ := htracked
  · rw [htracked]
    exact .tracked hfree hstep
  · rw [hsame, settlePlane_self hinv]
    cases hcase : tracked.1 with
    | tracked => exact absurd hcase hrefused
    | refused error =>
        refine .refused (fun heq => by cases heq) fun hlt hnot => ?_
        have hboth := hthrew hlt hnot
        rw [hcase] at hboth
        cases hboth
    | threw => exact .refused (fun heq => by cases heq) fun _ _ => rfl

/-- The end of a subscriber that arrives. -/
theorem effect_subscriberDisconnected (hinv : SharedMemory.Invariant plane pool)
    (hclient : client.process = plane.toPublisherProcess) (answers : TrackAnswers)
    (buffer : Memory) {slotIndex : ℕ}
    (hencodable : (BrokerMessage.subscriberDisconnected slotIndex).Encodable)
    (hlength : fds.length =
      ((BrokerMessage.subscriberDisconnected slotIndex).packet.rights.getD []).length) :
    let received := recvmsg kMaxMessageSize kPublisherControlSize
      (BrokerMessage.subscriberDisconnected slotIndex).packet.bytes fds
    let run := PublisherClient.processBrokerControlMessages [.record received answers] buffer
      client
    PlaneEffect plane (.subscriberDisconnected slotIndex) fds run.result
      (settlePlane plane run.client.process) ∧ run.client.brokerFd = client.brokerFd := by
  obtain rfl : fds = [] := List.length_eq_zero_iff.mp hlength
  have hslot : ofLittleEndian (load (store buffer 0
      (BrokerMessageType.subscriberDisconnected.code :: littleEndian 4 slotIndex)) 1 4) =
        slotIndex := by
    have hbody := load_body buffer BrokerMessageType.subscriberDisconnected.code
      (littleEndian 4 slotIndex)
    rw [length_littleEndian] at hbody
    rw [hbody]
    exact ofLittleEndian_of_lt (by norm_num; exact hencodable)
  dsimp only
  rw [recvmsg_subscriberDisconnected]
  obtain ⟨hresult, hafter⟩ := publisher_processBrokerControlMessages_single
    { bytes := BrokerMessageType.subscriberDisconnected.code :: littleEndian 4 slotIndex
      truncated := false
      control := none } answers buffer client
  rw [PublisherClient.handleControlRecord, store_code] at hresult hafter
  simp only [List.length_cons, length_littleEndian, Nat.reduceAdd, OfNat.ofNat_ne_zero,
    if_false, Bool.false_eq_true, Nat.reduceLT, if_true, Nat.reduceSub,
    PublisherClient.handleSubscriberDisconnectedMessage, ne_eq, not_true_eq_false, hslot]
    at hresult hafter
  change _ = ControlResult.returned (client.reapDeadSubscribers slotIndex).1 at hresult
  change _ = (client.reapDeadSubscribers slotIndex).2.closeFds [] at hafter
  rw [closeFds_nil] at hafter
  rw [hresult, hafter, PublisherClient.reapDeadSubscribers, hclient]
  refine ⟨?_, rfl⟩
  dsimp only
  cases hreader : plane.readers slotIndex with
  | some reader =>
      obtain ⟨hnone, hstep⟩ := settlePlane_reap hinv hreader
      rw [hnone]
      exact .reaped hstep
  | none =>
      have huntracked : ¬plane.shared.Tracked slotIndex := fun htracked => by
        obtain ⟨reader, hsome⟩ := hinv.tracked_iff.mp htracked
        rw [hreader] at hsome
        cases hsome
      rw [reapDeadSubscribers_untracked huntracked, settlePlane_self hinv]
      exact .untracked huntracked

/-! ## The first registrations -/

/-- The loop of `create` waits until all that was announced has come. -/
theorem trackInitialSubscribers_nil (remaining : ℕ) (client : PublisherClient) :
    PublisherClient.trackInitialSubscribers remaining [] client =
      { result := if remaining = 0 then .returned (.ok ()) else .waiting
        received := []
        client := client } := by
  cases remaining with
  | zero => rfl
  | succ remaining => rfl

/-- A first registration whose slot is free is tracked unless an allocation fails. -/
theorem effect_firstRegistration (hinv : SharedMemory.Invariant plane pool)
    (hclient : client.process = plane.toPublisherProcess) (remaining : ℕ)
    (answers : TrackAnswers) {slotIndex dataAvailableEventFd : ℕ}
    (hslot : slotIndex < SharedMemory.kMaxSubscribers)
    (hfree : ¬plane.shared.Tracked slotIndex)
    (hlength : fds.length = ((BrokerMessage.subscriberEventFdAndSlot slotIndex
      dataAvailableEventFd).packet.rights.getD []).length)
    (hfresh : ∀ fd ∈ fds, plane.eventFds fd = none) :
    let received := recvmsg kSubscriberEventFdAndSlotMessageSize kPublisherControlSize
      (BrokerMessage.subscriberEventFdAndSlot slotIndex dataAvailableEventFd).packet.bytes fds
    let run := PublisherClient.trackInitialSubscribers (remaining + 1)
      [.record received answers] client
    (run.client.brokerFd = client.brokerFd ∧
        run.result = (if remaining = 0 then .returned (.ok ()) else .waiting) ∧
        ∃ fd, fds = [fd] ∧ plane.step (.track fd slotIndex) =
          some (.track none, settlePlane plane run.client.process)) ∨
      run.result = .threw := by
  obtain ⟨fd, rfl⟩ := List.length_eq_one_iff.mp hlength
  have hencoded : ofLittleEndian (littleEndian 4 slotIndex) = slotIndex :=
    ofLittleEndian_of_lt (by rw [SharedMemory.kMaxSubscribers] at hslot; omega)
  have hreceived : (client.receiveFds [fd]).receiveSubscriberRegistration
      { bytes := BrokerMessageType.subscriberEventFdAndSlot.code :: littleEndian 4 slotIndex
        truncated := false
        control := some (.rights [some fd]) } =
      (.ok { dataAvailableEventFd := fd, slotIndex }, client.receiveFds [fd]) := by
    rw [PublisherClient.receiveSubscriberRegistration, receivePacketWithFd]
    simp [closeFds_nil, hencoded]
  have hfds : Received.fds
      { bytes := BrokerMessageType.subscriberEventFdAndSlot.code :: littleEndian 4 slotIndex
        truncated := false
        control := some (.rights [some fd]) } = [fd] := rfl
  dsimp only
  rw [recvmsg_registration le_rfl, PublisherClient.trackInitialSubscribers]
  dsimp only
  rw [hfds, hreceived]
  dsimp only
  obtain ⟨hbroker, htracked⟩ := trackSubscriber_fresh hinv (hfresh fd (by simp)) hclient answers
    slotIndex
  generalize PublisherClient.trackSubscriber answers (client.receiveFds [fd]) fd slotIndex =
    tracked at hbroker htracked ⊢
  obtain ⟨htracked, -, -, hstep⟩ | ⟨-, -, hthrew⟩ := htracked
  · rw [htracked, trackInitialSubscribers_nil]
    exact .inl ⟨hbroker, rfl, fd, rfl, hstep⟩
  · rw [hthrew hslot hfree]
    exact .inr rfl

/-- The count changes nothing but what `create` waits for. -/
theorem effect_count {count : ℕ}
    (hencodable : (BrokerMessage.initialSubscriberCount count).Encodable)
    (client : PublisherClient) :
    let bytes := (BrokerMessage.initialSubscriberCount count).packet.bytes
    let run := PublisherClient.receiveAndTrackInitialSubscriberRegistrations (some bytes) [] client
    run.client = client ∧
      run.result = (if count = 0 then .returned (.ok ()) else .waiting) ∧
      ofLittleEndian (bytes.take 4) = count := by
  have hbytes : (littleEndian 4 count).take 4 = littleEndian 4 count :=
    List.take_of_length_le (by simp)
  have hcount : ofLittleEndian (littleEndian 4 count) = count :=
    ofLittleEndian_of_lt (by norm_num; exact hencodable)
  dsimp only [BrokerMessage.packet, kInitialSubscriberCountSize]
  rw [PublisherClient.receiveAndTrackInitialSubscriberRegistrations]
  dsimp only [Option.getD_some]
  rw [if_neg (by rw [hbytes]; simp), hbytes, hcount, trackInitialSubscribers_nil]
  exact ⟨rfl, rfl, rfl⟩

end Effects

/-! ## The slots that a publisher tracks -/

section Slots

variable {plane plane' : SharedMemory.State} {pool : Pool plane.published} {fd slot : ℕ}

/-- The tracked slots, with the descriptors that the broker has for their events. -/
def trackedSlots (plane : SharedMemory.State) (eventFdOf : Fd → Fd) : Replica.Table ℕ Fd :=
  fun slot =>
    if plane.shared.Tracked slot then
      some (eventFdOf (plane.publisher.dataAvailableEventFdBySubscriberSlotIndex slot))
    else none

theorem trackedSlots_created (mapped : SharedMemory.SharedData) (eventFdOf : Fd → Fd) :
    trackedSlots (.created mapped) eventFdOf = fun _ => none := by
  funext slot
  refine if_neg fun htracked => ?_
  obtain ⟨reader, hreader⟩ :=
    (SharedMemory.Invariant.created mapped).tracked_iff.mp htracked
  cases hreader

/-- A new descriptor number means nothing to the slots that are tracked. -/
theorem trackedSlots_fresh (hinv : SharedMemory.Invariant plane pool)
    (hfresh : plane.eventFds fd = none) (eventFdOf : Fd → Fd) (eventFd : Fd) :
    trackedSlots plane (Function.update eventFdOf fd eventFd) = trackedSlots plane eventFdOf := by
  funext other
  rw [trackedSlots, trackedSlots]
  split
  next htracked =>
    have hopen := (hinv.tables.slot_of_lookup (hinv.tables.lookup_of_tracked htracked)).2.2
    rw [Function.update_of_ne fun heq => by rw [heq, hfresh] at hopen; cases hopen]
  next => rfl

/-- What a successful call of `track_subscriber` has done. -/
theorem trackSubscriber_tracked {process process' : PublisherProcess}
    (htrack : SharedMemory.trackSubscriber process fd slot = (none, process')) :
    process'.eventFds = process.eventFds ∧
      process'.publisher.dataAvailableEventFdBySubscriberSlotIndex =
        Function.update process.publisher.dataAvailableEventFdBySubscriberSlotIndex slot fd := by
  rw [SharedMemory.trackSubscriber] at htrack
  dsimp only at htrack
  split at htrack
  · cases htrack
  split at htrack
  · cases htrack
  split at htrack
  · cases htrack
  · obtain ⟨-, rfl⟩ := Prod.mk.inj htrack
    exact ⟨rfl, rfl⟩

/-- Tracking opens one descriptor. -/
theorem eventFds_track (hstep : plane.step (.track fd slot) = some (.track none, plane'))
    {other : Fd} (hother : other ≠ fd) : plane'.eventFds other = plane.eventFds other := by
  replace hstep : plane.track fd slot = _ := hstep
  rw [SharedMemory.State.track] at hstep
  split at hstep
  · cases hstep
  dsimp only at hstep
  split at hstep
  next process htrack =>
    obtain ⟨-, rfl⟩ := Prod.mk.inj (Option.some.inj hstep)
    dsimp only
    rw [(trackSubscriber_tracked htrack).1]
    exact Function.update_of_ne hother _ _
  next error process htrack => cases (Prod.mk.inj (Option.some.inj hstep)).1

theorem eventFds_reapDeadSubscribers {process : PublisherProcess} {other : Fd}
    (hnone : process.eventFds other = none) :
    (SharedMemory.reapDeadSubscribers process slot).2.eventFds other = none := by
  rw [SharedMemory.reapDeadSubscribers]
  split
  · exact hnone
  dsimp only
  split
  · exact hnone
  split
  · rw [SharedMemory.forgetSubscriber]
    dsimp only
    split
    · exact hnone
    · dsimp only
      rw [Function.update_apply, hnone, ite_self]
  · exact hnone

/-- Reaping opens no descriptor. -/
theorem eventFds_reap (hstep : plane.step (.reap slot) = some (.reap .none, plane'))
    {other : Fd} (hnone : plane.eventFds other = none) : plane'.eventFds other = none := by
  replace hstep : plane.reap slot = _ := hstep
  rw [SharedMemory.State.reap] at hstep
  split at hstep
  · cases hstep
  next reader hreader =>
    dsimp only at hstep
    obtain ⟨-, rfl⟩ := Prod.mk.inj (Option.some.inj hstep)
    exact eventFds_reapDeadSubscribers hnone

theorem trackedSlots_track (hinv : SharedMemory.Invariant plane pool)
    (hstep : plane.step (.track fd slot) = some (.track none, plane'))
    (eventFdOf : Fd → Fd) (eventFd : Fd) :
    trackedSlots plane' (Function.update eventFdOf fd eventFd) =
      Function.update (trackedSlots plane eventFdOf) slot (some eventFd) := by
  obtain ⟨pool', hinv', -⟩ := hinv.step hstep
  replace hstep : plane.track fd slot = _ := hstep
  rw [SharedMemory.State.track] at hstep
  split at hstep
  · cases hstep
  next hclosed =>
    have hfresh : plane.eventFds fd = none := by simpa using hclosed
    rw [← trackedSlots_fresh hinv hfresh eventFdOf eventFd]
    dsimp only at hstep
    split at hstep
    next process htrack =>
      obtain ⟨-, rfl⟩ := Prod.mk.inj (Option.some.inj hstep)
      have hslots := (trackSubscriber_tracked htrack).2
      dsimp only at hslots
      funext other
      have htracked := @SharedMemory.Invariant.tracked_iff _ _ other hinv'
      have hbefore := @SharedMemory.Invariant.tracked_iff _ _ other hinv
      dsimp only at htracked
      rw [trackedSlots]
      dsimp only
      rw [hslots]
      by_cases hother : other = slot
      · subst hother
        rw [Function.update_self, if_pos (htracked.mpr ⟨_, Function.update_self ..⟩),
          Function.update_self, Function.update_self]
      · rw [Function.update_of_ne hother] at htracked
        rw [Function.update_of_ne hother, Function.update_of_ne hother, trackedSlots]
        exact if_congr (htracked.trans hbefore.symm) rfl rfl
    next error process htrack => cases Prod.mk.inj (Option.some.inj hstep) |>.1

theorem trackedSlots_reap (hinv : SharedMemory.Invariant plane pool)
    (hstep : plane.step (.reap slot) = some (.reap .none, plane')) (eventFdOf : Fd → Fd) :
    trackedSlots plane' eventFdOf = Function.update (trackedSlots plane eventFdOf) slot none := by
  obtain ⟨pool', hinv', -⟩ := hinv.step hstep
  replace hstep : plane.reap slot = _ := hstep
  rw [SharedMemory.State.reap] at hstep
  split at hstep
  · cases hstep
  next reader hreader =>
    dsimp only at hstep
    have hslots : plane'.publisher.dataAvailableEventFdBySubscriberSlotIndex =
        plane.publisher.dataAvailableEventFdBySubscriberSlotIndex := by
      obtain ⟨-, rfl⟩ := Prod.mk.inj (Option.some.inj hstep)
      obtain ⟨-, hsame⟩ | ⟨-, -, hsame⟩ :=
        PublisherClient.reapDeadSubscribers_cases plane.toPublisherProcess slot <;>
      · dsimp only
        rw [hsame]
    have hreaders : plane'.readers = Function.update plane.readers slot none := by
      obtain ⟨-, rfl⟩ := Prod.mk.inj (Option.some.inj hstep)
      rfl
    funext other
    have htracked := @SharedMemory.Invariant.tracked_iff _ _ other hinv'
    have hbefore := @SharedMemory.Invariant.tracked_iff _ _ other hinv
    rw [hreaders] at htracked
    rw [trackedSlots, hslots]
    by_cases hother : other = slot
    · subst hother
      rw [Function.update_self] at htracked ⊢
      exact if_neg fun hnow => by
        obtain ⟨reader, hsome⟩ := htracked.mp hnow
        cases hsome
    · rw [Function.update_of_ne hother] at htracked
      rw [Function.update_of_ne hother, trackedSlots]
      exact if_congr (htracked.trans hbefore.symm) rfl rfl

/-- The same subscribers are tracked, under the same descriptors. -/
structure SameSlots (plane plane' : SharedMemory.State) : Prop where
  slots : plane'.publisher.dataAvailableEventFdBySubscriberSlotIndex =
    plane.publisher.dataAvailableEventFdBySubscriberSlotIndex
  readers : ∀ slot, (plane'.readers slot).isSome = (plane.readers slot).isSome
  eventFds : ∀ fd, (plane'.eventFds fd).isSome = (plane.eventFds fd).isSome

theorem sameSlots_setReader {shared : SharedMemory.SharedData} {spaceAvailable : ℕ}
    {reader reader' : Reader} (hreader : plane.readers slot = some reader) :
    SameSlots plane ({ plane with shared, spaceAvailable }.setReader slot reader') := by
  refine ⟨rfl, fun other => ?_, fun _ => rfl⟩
  change (Function.update plane.readers slot (some reader') other).isSome = _
  by_cases hother : other = slot
  · subst hother
    rw [Function.update_self, hreader]
    rfl
  · rw [Function.update_of_ne hother]

theorem sameSlots_publish (hinv : SharedMemory.Invariant plane pool) (payload : List Byte) :
    SameSlots plane (plane.publish payload).2 := by
  rw [SharedMemory.State.publish]
  obtain hcase | hcase | ⟨sizeClass, mask, eventFds, -, -, -, -, hopen, hcase⟩ :=
    hinv.tryPublishOne_cases payload
  · rw [hcase]
    exact ⟨rfl, fun _ => rfl, fun _ => rfl⟩
  · rw [hcase]
    exact ⟨rfl, fun _ => rfl, fun _ => rfl⟩
  · rw [hcase]
    exact ⟨rfl, fun _ => rfl, hopen⟩

/-- Publishing and consuming track nobody and forget nobody. -/
theorem sameSlots_of_runs (hinv : SharedMemory.Invariant plane pool) {phase : PublisherPhase}
    {action : SharedMemory.Action} {outcome : SharedMemory.Outcome} (hruns : phase.Runs action)
    (hstep : plane.step action = some (outcome, plane')) : SameSlots plane plane' := by
  cases action with
  | publish payload =>
      obtain ⟨-, rfl⟩ := Prod.mk.inj (Option.some.inj hstep)
      exact sameSlots_publish hinv payload
  | track | reap => exact hruns.elim
  | fetchDescriptors slot =>
      replace hstep : plane.fetchDescriptors slot = _ := hstep
      rw [SharedMemory.State.fetchDescriptors] at hstep
      split at hstep
      · cases hstep
      next reader hreader =>
        rw [Option.ite_none_right_eq_some] at hstep
        obtain ⟨-, rfl⟩ := Prod.mk.inj (Option.some.inj hstep.2)
        exact sameSlots_setReader hreader
  | readPayload slot | clearReference slot | storeReadIndex slot | returnChunk slot
  | signalSpace slot =>
      simp only [SharedMemory.State.step, SharedMemory.State.readPayload,
        SharedMemory.State.clearReference, SharedMemory.State.storeReadIndex,
        SharedMemory.State.returnChunk, SharedMemory.State.signalSpace, Option.bind_eq_bind,
        Option.bind_eq_some_iff, Option.some.injEq, Prod.mk.injEq] at hstep
      obtain ⟨reader, hreader, stepped, -, -, rfl⟩ := hstep
      exact sameSlots_setReader hreader

theorem SameSlots.trackedSlots (hsame : SameSlots plane plane')
    {pool' : Pool plane'.published} (hinv : SharedMemory.Invariant plane pool)
    (hinv' : SharedMemory.Invariant plane' pool') (eventFdOf : Fd → Fd) :
    trackedSlots plane' eventFdOf = trackedSlots plane eventFdOf := by
  funext slot
  rw [Agreement.trackedSlots, Agreement.trackedSlots, hsame.slots]
  refine if_congr ?_ rfl rfl
  rw [hinv'.tracked_iff, hinv.tracked_iff, ← Option.isSome_iff_exists,
    ← Option.isSome_iff_exists, hsame.readers]

end Slots

end DriveBus.Agreement
