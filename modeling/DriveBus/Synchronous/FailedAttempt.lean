import DriveBus.Library.Transition
import DriveBus.Synchronous.Publish
import DriveBus.SharedMemory.Delivery

/-!
# Failed publish attempts

An attempt that is blocked or refused by its checks changes nothing, but one that fails
while it signals the subscribers has already appended its message.  So a failure is
harmless exactly when every tracked eventfd accepts its signal, and a synchronous
call tells the truth about the ring under the same condition on its attempts.
-/

namespace DriveBus.Synchronous

open DriveBus.ByteMemory DriveBus.SharedMemory DriveBus.Asynchronous DriveBus.Transition

/-! ## What an attempt can do -/

/-- An attempt passes all its checks and takes the head chunk of this class. -/
structure Admits (process : PublisherProcess) (payload : List Byte) (sizeClass : ℕ) : Prop where
  fits : payload.length ≤ 2 ^ 32 - 1 - kMessageHeaderSizeBytes
  sized : findSizeClass (payload.length + kMessageHeaderSizeBytes) = some sizeClass
  room : ¬DescriptorsBlocked (findSlowestReadIndex process.shared)
    process.shared.descriptorWriteIndex
  free : process.shared.head sizeClass ≠ process.shared.tail sizeClass
  range : kFirstOffset sizeClass ≤ process.shared.head sizeClass ∧
    process.shared.head sizeClass ≤ kLastOffset sizeClass
  unused : process.shared.isInUse sizeClass
    (localChunkIndex sizeClass (process.shared.head sizeClass)) = false

/-- The mask of the tracked slots, if every tracked eventfd has one. -/
def subscriberMask (process : PublisherProcess) : Option (BitVec 32) :=
  chunkReferenceMask process.publisher.subscriberSlotIndexByDataAvailableEventFd
    process.publisher.dataAvailableEventFds 0

/-- The attempt gets as far as the loop that signals the subscribers, and one of their
eventfds refuses the signal. -/
def SignalFails (process : PublisherProcess) (payload : List Byte) : Prop :=
  (∃ sizeClass, Admits process payload sizeClass) ∧
    (subscriberMask process).isSome ∧
    ∃ eventFd ∈ process.publisher.dataAvailableEventFds, process.eventFds eventFd = none

/-- An attempt that does not succeed leaves the mapping and the publisher as they were. -/
def FailureChangesNothing (process : PublisherProcess) (payload : List Byte) : Prop :=
  (tryPublishOne process payload).1 ≠ .ok .succeeded →
    (tryPublishOne process payload).2.shared = process.shared ∧
    (tryPublishOne process payload).2.publisher = process.publisher

section Attempt

variable {process : PublisherProcess} {payload : List Byte} {sizeClass : ℕ}

theorem tryPublishOne_of_admits (hadmits : Admits process payload sizeClass) :
    tryPublishOne process payload =
      publishChunk process payload sizeClass (process.shared.head sizeClass) := by
  obtain ⟨hfits, hsized, hroom, hfree, ⟨hfirst, hlast⟩, hunused⟩ := hadmits
  unfold tryPublishOne
  dsimp only
  rw [if_neg (not_lt.mpr hfits), hsized]
  dsimp only
  rw [if_neg hroom, if_neg hfree, if_neg (by omega), if_neg (by simp [hunused])]

/-- Without passing its checks an attempt returns the process that it was given. -/
theorem tryPublishOne_of_not_admits (hrefused : ∀ sizeClass, ¬Admits process payload sizeClass) :
    (tryPublishOne process payload).1 ≠ .ok .succeeded ∧
      (tryPublishOne process payload).2 = process := by
  unfold tryPublishOne
  dsimp only
  split
  · exact ⟨by simp, rfl⟩
  · rename_i hfits
    split
    · exact ⟨by simp, rfl⟩
    · rename_i sizeClass hsized
      split
      · exact ⟨by simp, rfl⟩
      · rename_i hroom
        split
        · exact ⟨by simp, rfl⟩
        · rename_i hfree
          split
          · exact ⟨by simp, rfl⟩
          · rename_i hrange
            split
            · exact ⟨by simp, rfl⟩
            · rename_i hunused
              have hadmits : Admits process payload sizeClass :=
                ⟨not_lt.mp hfits, hsized, hroom, hfree, by omega, by simpa using hunused⟩
              exact absurd hadmits (hrefused sizeClass)

/-- The signalling loop fails exactly at a closed descriptor. -/
theorem signalSubscribers_fails_iff (targets : List ℕ) (eventFds : EventFdTable) :
    (signalSubscribers targets eventFds).1 = false ↔
      ∃ eventFd ∈ targets, eventFds eventFd = none := by
  induction targets generalizing eventFds with
  | nil => simp [signalSubscribers]
  | cons target targets ih =>
      cases hcount : eventFds target with
      | none => simp [signalSubscribers, signalEventfd, hcount]
      | some count =>
          have hopen : ∀ other, Function.update eventFds target (some (count + 1)) other = none ↔
              eventFds other = none := by
            intro other
            by_cases hother : other = target
            · subst hother
              simp [hcount]
            · simp [hother]
          by_cases hroom : count < kEventfdMaxCount
          · simp [signalSubscribers, signalEventfd, hcount, hroom, ih, hopen]
          · simp [signalSubscribers, signalEventfd, hcount, hroom, ih]

/-- The outcome of an attempt that has passed its checks. -/
theorem publishChunk_cases (process : PublisherProcess) (payload : List Byte)
    (sizeClass headOff : ℕ)
    (hmask : (subscriberMask process).isSome) :
    (publishChunk process payload sizeClass headOff).2.shared ≠ process.shared ∧
      appendedPayload process.shared
        (publishChunk process payload sizeClass headOff).2.shared = some payload ∧
      ((publishChunk process payload sizeClass headOff).1 ≠ .ok .succeeded ↔
        ∃ eventFd ∈ process.publisher.dataAvailableEventFds,
          process.eventFds eventFd = none) := by
  obtain ⟨mask, hmask⟩ := Option.isSome_iff_exists.mp hmask
  unfold subscriberMask at hmask
  have hfails := signalSubscribers_fails_iff process.publisher.dataAvailableEventFds
    process.eventFds
  have happended := appendedPayload_written process.shared sizeClass headOff
    process.publisher.seq mask payload
  unfold publishChunk
  simp only [hmask]
  cases hsignal : signalSubscribers process.publisher.dataAvailableEventFds process.eventFds with
  | mk signalled eventFds =>
      rw [hsignal] at hfails
      cases signalled with
      | false =>
          refine ⟨fun hsame => ?_, happended, by simpa using hfails⟩
          exact nextWriteIndex_ne _ (congrArg SharedData.descriptorWriteIndex hsame)
      | true =>
          refine ⟨fun hsame => ?_, happended, by simpa using hfails⟩
          exact nextWriteIndex_ne _ (congrArg SharedData.descriptorWriteIndex hsame)

theorem publishChunk_unmasked {headOff : ℕ} (hmask : subscriberMask process = none) :
    appendedPayload process.shared
      (publishChunk process payload sizeClass headOff).2.shared = none := by
  unfold subscriberMask at hmask
  unfold publishChunk
  simp only [hmask]
  exact if_pos rfl

/-- A failed attempt has appended its message exactly when a signal has failed. -/
theorem appended_of_failure_iff
    (hfailed : (tryPublishOne process payload).1 ≠ .ok .succeeded) :
    appendedPayload process.shared (tryPublishOne process payload).2.shared ≠ none ↔
      SignalFails process payload := by
  by_cases hadmits : ∃ sizeClass, Admits process payload sizeClass
  · obtain ⟨sizeClass, hclass⟩ := id hadmits
    rw [tryPublishOne_of_admits hclass] at hfailed ⊢
    by_cases hmask : (subscriberMask process).isSome
    · obtain ⟨-, happended, hsignal⟩ := publishChunk_cases process payload sizeClass
        (process.shared.head sizeClass) hmask
      simp [happended, SignalFails, hadmits, hmask, hsignal.mp hfailed]
    · rw [publishChunk_unmasked (Option.not_isSome_iff_eq_none.mp hmask)]
      simp [SignalFails, hmask]
  · rw [(tryPublishOne_of_not_admits (not_exists.mp hadmits)).2, appendedPayload_self]
    simp [SignalFails, hadmits]

theorem not_signalFails_of_succeeded
    (hsucceeded : (tryPublishOne process payload).1 = .ok .succeeded) :
    ¬SignalFails process payload := by
  rintro ⟨⟨sizeClass, hclass⟩, hmask, hclosed⟩
  rw [tryPublishOne_of_admits hclass] at hsucceeded
  exact (publishChunk_cases process payload sizeClass _ hmask).2.2.mpr hclosed hsucceeded

theorem failureChangesNothing_iff
    (hmask : (subscriberMask process).isSome) :
    FailureChangesNothing process payload ↔ ¬SignalFails process payload := by
  unfold FailureChangesNothing SignalFails
  by_cases hadmits : ∃ sizeClass, Admits process payload sizeClass
  · obtain ⟨sizeClass, hclass⟩ := id hadmits
    obtain ⟨hchanged, -, hsignal⟩ := publishChunk_cases process payload sizeClass
      (process.shared.head sizeClass) hmask
    rw [tryPublishOne_of_admits hclass]
    simp only [hadmits, hmask, true_and, ← hsignal]
    exact ⟨fun hclaim hfailed => hchanged (hclaim hfailed).1,
      fun hsucceeds hfailed => absurd hfailed hsucceeds⟩
  · obtain ⟨-, hsame⟩ := tryPublishOne_of_not_admits (not_exists.mp hadmits)
    simp [hsame, hadmits]

end Attempt

/-! ## The publisher's own runs -/

inductive PublisherAction
  | publish (payload : List Byte)
  | track (dataAvailableEventFd slotIndex : ℕ)
  | reap (slotIndex : ℕ)
  | environment (shared : SharedData) (eventFds : EventFdTable)

/-- The functions of a publisher over a mapping and eventfds that others change. -/
def publisherRuns (mapped : SharedData) : System PublisherProcess PublisherAction where
  initial := (State.created mapped).toPublisherProcess
  next process := fun
    | .publish payload => some (tryPublishOne process payload).2
    | .track dataAvailableEventFd slotIndex =>
        some (trackSubscriber process dataAvailableEventFd slotIndex).2
    | .reap slotIndex => some (reapDeadSubscribers process slotIndex).2
    | .environment shared eventFds => some { process with shared, eventFds }

/-- Every tracked eventfd has a slot. -/
def SlotsFound (process : PublisherProcess) : Prop :=
  ∀ eventFd ∈ process.publisher.dataAvailableEventFds,
    (process.publisher.subscriberSlotIndexByDataAvailableEventFd.lookup eventFd).isSome

theorem SlotsFound.subscriberMask {process : PublisherProcess} (hfound : SlotsFound process) :
    (subscriberMask process).isSome := by
  have hlookup : ∀ eventFd ∈ process.publisher.dataAvailableEventFds,
      process.publisher.subscriberSlotIndexByDataAvailableEventFd.lookup eventFd =
        some ((process.publisher.subscriberSlotIndexByDataAvailableEventFd.lookup
          eventFd).getD 0) := by
    intro eventFd hmem
    obtain ⟨slot, hslot⟩ := Option.isSome_iff_exists.mp (hfound eventFd hmem)
    simp [hslot]
  exact Option.isSome_iff_exists.mpr ⟨_, chunkReferenceMask_eq_foldl hlookup⟩

theorem SlotsFound.publish {process : PublisherProcess} (hfound : SlotsFound process)
    (payload : List Byte) : SlotsFound (tryPublishOne process payload).2 := by
  by_cases hadmits : ∃ sizeClass, Admits process payload sizeClass
  · obtain ⟨sizeClass, hclass⟩ := hadmits
    rw [tryPublishOne_of_admits hclass]
    unfold publishChunk
    dsimp only
    split
    · exact hfound
    · split <;> exact hfound
  · rw [(tryPublishOne_of_not_admits (not_exists.mp hadmits)).2]
    exact hfound

theorem SlotsFound.track {process : PublisherProcess} (hfound : SlotsFound process)
    (dataAvailableEventFd slotIndex : ℕ) :
    SlotsFound (trackSubscriber process dataAvailableEventFd slotIndex).2 := by
  unfold trackSubscriber
  dsimp only
  split
  · exact hfound
  · split
    · exact hfound
    · split
      · exact hfound
      · intro eventFd hmem
        by_cases hsame : eventFd = dataAvailableEventFd
        · subst hsame
          simp
        · have hold : eventFd ∈ process.publisher.dataAvailableEventFds := by
            simpa [hsame] using hmem
          simpa [AList.lookup_insert_ne hsame] using hfound eventFd hold

theorem SlotsFound.reap {process : PublisherProcess} (hfound : SlotsFound process)
    (slotIndex : ℕ) : SlotsFound (reapDeadSubscribers process slotIndex).2 := by
  unfold reapDeadSubscribers
  dsimp only
  split
  · exact hfound
  · split
    · exact hfound
    · split
      · unfold forgetSubscriber
        dsimp only
        split
        · exact hfound
        · intro eventFd hmem
          obtain ⟨hold, hother⟩ := List.mem_filter.mp hmem
          have hne : eventFd ≠ process.publisher.dataAvailableEventFdBySubscriberSlotIndex
              slotIndex := of_decide_eq_true hother
          simpa [AList.lookup_erase_ne hne] using hfound eventFd hold
      · exact hfound

theorem slotsFound_of_reachable {mapped : SharedData} {process : PublisherProcess}
    (hreach : (publisherRuns mapped).Reachable process) : SlotsFound process := by
  refine hreach.invariant SlotsFound (fun _ hmem => by cases hmem) ?_
  intro process action process' hfound _ hnext
  cases action with
  | publish payload => exact Option.some.inj hnext ▸ hfound.publish payload
  | track eventFd slot => exact Option.some.inj hnext ▸ hfound.track eventFd slot
  | reap slot => exact Option.some.inj hnext ▸ hfound.reap slot
  | environment shared eventFds => exact Option.some.inj hnext ▸ hfound

/-! ## Synchronous calls -/

/-- A call returns a ticket exactly if its message has been appended once, and has
appended nothing if it returns an error. -/
def SyncRun.Truthful (run : SyncRun) (payload : List Byte) : Prop :=
  match run.result with
  | none => run.appended = []
  | some (.ok _) => run.appended = [payload]
  | some (.error _) => run.appended = []

/-- The attempts of a run all get their signals through. -/
def SyncRun.Signals (run : SyncRun) (payload : List Byte) : Prop :=
  ∀ process ∈ run.attempts, ¬SignalFails process payload

/-- An attempt that appends nothing leaves the rest of the run to decide. -/
theorem SyncRun.afterAttempt_truthful_iff {run : SyncRun} {process : PublisherProcess}
    {payload : List Byte} (hsignals : ¬SignalFails process payload)
    (hrun : run.Truthful payload ↔ run.Signals payload) :
    (run.afterAttempt process none).Truthful payload ↔
      (run.afterAttempt process none).Signals payload := by
  have hattempts : (run.afterAttempt process none).Signals payload ↔ run.Signals payload := by
    simp [SyncRun.Signals, SyncRun.afterAttempt, hsignals]
  exact hrun.trans hattempts.symm

theorem SyncRun.returned_error_truthful_iff (error : PublishError) (publisher : SyncPublisher)
    (payload : List Byte) : (SyncRun.returned (.error error) publisher).Truthful payload ↔
      (SyncRun.returned (.error error) publisher).Signals payload := by
  simp [SyncRun.returned, SyncRun.Truthful, SyncRun.Signals]

/-- A call tells the truth if and only if no attempt of it fails to signal. -/
theorem publishRounds_truthful_iff (payload : List Byte) (rounds : List Round)
    (publisher : SyncPublisher) :
    (publishRounds payload rounds publisher).Truthful payload ↔
      (publishRounds payload rounds publisher).Signals payload := by
  induction rounds generalizing publisher with
  | nil => simp [publishRounds, SyncRun.Truthful, SyncRun.Signals]
  | cons round rounds ih =>
      rw [publishRounds]
      split
      · exact SyncRun.returned_error_truthful_iff ..
      · rename_i events handled hevents
        by_cases hexpired : round.expiredBefore = true
        · rw [if_pos hexpired]
          exact SyncRun.returned_error_truthful_iff ..
        rw [if_neg hexpired]
        have hsound := tryPublishOne_sound (round.shared handled) payload
        have hfailed := @appended_of_failure_iff (round.shared handled) payload
        have hsucceeded := @not_signalFails_of_succeeded (round.shared handled) payload
        dsimp only
        cases hattempt : (tryPublishOne (round.shared handled) payload).1 with
        | error error =>
            have happended := hfailed (by rw [hattempt]; simp)
            simp [SyncRun.Truthful, SyncRun.Signals, SyncRun.afterAttempt, SyncRun.returned,
              ← happended]
        | ok outcome =>
            rw [hattempt] at hsound
            cases outcome with
            | succeeded =>
                have happended : appendedPayload (round.shared handled).shared
                    (tryPublishOne (round.shared handled) payload).2.shared = some payload :=
                  hsound
                simp [SyncRun.Truthful, SyncRun.Signals, SyncRun.afterAttempt,
                  SyncRun.returned, happended, hsucceeded hattempt]
            | blocked =>
                have happended : appendedPayload (round.shared handled).shared
                    (tryPublishOne (round.shared handled) payload).2.shared = none := hsound
                have hsignals : ¬SignalFails (round.shared handled) payload := fun hfails =>
                  (hfailed (by rw [hattempt]; simp)).mpr hfails happended
                rw [happended]
                refine SyncRun.afterAttempt_truthful_iff hsignals ?_
                dsimp only
                split
                · exact SyncRun.returned_error_truthful_iff ..
                · split
                  · exact SyncRun.returned_error_truthful_iff ..
                  · exact SyncRun.returned_error_truthful_iff ..
                  · exact ih _
                  · exact ih _

theorem publish_truthful_iff (publisher : SyncPublisher) (payload : List Byte)
    (rounds : List Round) : (publisher.publish payload rounds).Truthful payload ↔
      (publisher.publish payload rounds).Signals payload := by
  unfold SyncPublisher.publish
  split
  · exact SyncRun.returned_error_truthful_iff ..
  · split
    · exact SyncRun.returned_error_truthful_iff ..
    · exact publishRounds_truthful_iff payload rounds publisher

/-- A failed attempt changes nothing exactly if no subscriber's eventfd refuses its
signal, and under the same condition on its attempts a synchronous call returns a ticket
if and only if it has appended the message once. -/
theorem failed_publish_changes_nothing_iff (mapped : SharedData) {process : PublisherProcess}
    (hreach : (publisherRuns mapped).Reachable process) (payload : List Byte) :
    (FailureChangesNothing process payload ↔ ¬SignalFails process payload) ∧
    ∀ events rounds,
      let run := SyncPublisher.publish { synchronous := true, process, events } payload rounds
      run.Truthful payload ↔ run.Signals payload :=
  ⟨failureChangesNothing_iff (slotsFound_of_reachable hreach).subscriberMask,
    fun _ rounds => publish_truthful_iff _ payload rounds⟩

/-- One tracked subscriber, whose eventfd is open or closed. -/
def trackedActions (subscriberOpen : Bool) : List PublisherAction :=
  [.track 7 0, .environment
    ((trackSubscriber (State.created zeroedMapping).toPublisherProcess 7 0).2.shared)
    (fun _ => if subscriberOpen then some 0 else none)]

/-- A subscriber that reads nothing fills the ring. -/
theorem failed_publish_changes_nothing_iff_tracked : ∃ process,
    (publisherRuns zeroedMapping).run (State.created zeroedMapping).toPublisherProcess
      (trackedActions true ++ List.replicate 15 (.publish [1, 2])) = some process ∧
    (tryPublishOne process [1, 2]).1.toOption = some .blocked ∧
    FailureChangesNothing process [1, 2] := by
  have hview : ((publisherRuns zeroedMapping).run
      (State.created zeroedMapping).toPublisherProcess
      (trackedActions true ++ List.replicate 15 (.publish [1, 2]))).map (fun process =>
        ((tryPublishOne process [1, 2]).1.toOption,
          process.publisher.dataAvailableEventFds.all fun eventFd =>
            (process.eventFds eventFd).isSome)) = some (some .blocked, true) := by
    decide +kernel
  obtain ⟨process, hrun, hattempt⟩ := Option.map_eq_some_iff.mp hview
  obtain ⟨hblocked, hopen⟩ := Prod.mk.inj hattempt
  have hreach : (publisherRuns zeroedMapping).Reachable process :=
    System.ReachableWith.initial.run (fun _ _ _ => trivial) hrun
  refine ⟨process, hrun, hblocked,
    (failed_publish_changes_nothing_iff zeroedMapping hreach [1, 2]).1.mpr ?_⟩
  rintro ⟨-, -, eventFd, hmem, hclosed⟩
  simpa [hclosed] using List.all_eq_true.mp hopen eventFd hmem

/-- The signal to the only subscriber is refused: the call reports an error, but its
message is in the ring. -/
theorem refused_signal_leaves_message :
    ¬∀ (mapped : SharedData) (process : PublisherProcess) (payload : List Byte),
      (publisherRuns mapped).Reachable process → FailureChangesNothing process payload := by
  intro hclaim
  have hview : ((publisherRuns zeroedMapping).run
      (State.created zeroedMapping).toPublisherProcess (trackedActions false)).map
      (fun process => ((tryPublishOne process [1, 2]).1.toOption,
        (tryPublishOne process [1, 2]).2.shared.descriptorWriteIndex,
        process.shared.descriptorWriteIndex)) = some (none, 1, 0) := by decide +kernel
  obtain ⟨process, hrun, hattempt⟩ := Option.map_eq_some_iff.mp hview
  simp only [Prod.mk.injEq] at hattempt
  obtain ⟨hresult, hafter, hbefore⟩ := hattempt
  have hreach : (publisherRuns zeroedMapping).Reachable process :=
    System.ReachableWith.initial.run (fun _ _ _ => trivial) hrun
  have hfailed : (tryPublishOne process [1, 2]).1 ≠ .ok .succeeded := by
    intro hsucceeded
    rw [hsucceeded] at hresult
    cases hresult
  have hsame := (hclaim zeroedMapping process [1, 2] hreach hfailed).1
  rw [hsame, hbefore] at hafter
  cases hafter

end DriveBus.Synchronous
