import DriveBus.SharedMemory.SplitRun

/-!
# Undisturbed accesses

Accesses that nobody else comes between make up the steps of the data plane: what the data
plane can reach, it can reach access by access.
-/

namespace DriveBus.SharedMemory

open DriveBus.ByteMemory DriveBus.Transition

namespace SplitState

variable {mapped : SharedData} {state : SplitState}

/-- One more access. -/
theorem reachable_step (hreach : (splitPlane mapped).Reachable state) (action : SplitAction)
    {next : SplitState} (hstep : state.step action = some next) :
    (splitPlane mapped).Reachable next :=
  System.ReachableWith.step hreach trivial hstep

/-! ## A return -/

section Return

variable {slot : ℕ} {reader : Reader} {descriptor : MessageDescriptor} {sizeClass : ℕ}
variable (hreader : state.readers slot = some reader)
variable (hphase : reader.phase = .indexStored descriptor sizeClass)

include hreader hphase

theorem step_goesOn {was phase : ReturnPhase} {shared : SharedData}
    (hwas : state.returnPhases slot = was)
    (haccess : was.access sizeClass descriptor.offset state.shared = (.goesOn phase, shared)) :
    state.step (.returnAccess slot) = some { state with
      shared
      returnPhases := Function.update state.returnPhases slot phase } := by
  simp only [step, returnAccess, hreader, hphase, hwas, haccess]

theorem step_doubleFree {was : ReturnPhase} {shared : SharedData}
    (hwas : state.returnPhases slot = was)
    (haccess : was.access sizeClass descriptor.offset state.shared = (.doubleFree, shared)) :
    state.step (.returnAccess slot) = some { state with
      toState := State.setReader { state.toState with shared } slot
        { reader with phase := .idle, descRing := [] } } := by
  simp only [step, returnAccess, hreader, hphase, hwas, haccess]

theorem step_returned {was : ReturnPhase} {shared : SharedData}
    (hwas : state.returnPhases slot = was)
    (haccess : was.access sizeClass descriptor.offset state.shared = (.returned, shared)) :
    state.step (.returnAccess slot) = some { state with
      toState := State.setReader { state.toState with shared } slot
        { reader with phase := .chunkAppended }
      returnPhases := Function.update state.returnPhases slot .ready
      returned := recordChunk state.returned sizeClass descriptor.offset } := by
  simp only [step, returnAccess, hreader, hphase, hwas, haccess]

end Return

section Release

variable {slot sizeClass : ℕ} {victim : Reader} {indices : List ℕ}
variable {descriptor : MessageDescriptor} {was : ReturnPhase} {shared : SharedData}
variable (hphase : state.publisherPhase =
  .releasing slot victim indices descriptor sizeClass was)

include hphase

theorem step_release_goesOn {phase : ReturnPhase}
    (haccess : was.access sizeClass descriptor.offset state.shared = (.goesOn phase, shared)) :
    state.step .reapAccess = some { state with
      shared
      publisherPhase := .releasing slot victim indices descriptor sizeClass phase } := by
  simp only [step, reapAccess, hphase, haccess]

theorem step_release_doubleFree
    (haccess : was.access sizeClass descriptor.offset state.shared = (.doubleFree, shared)) :
    state.step .reapAccess = some { state with
      shared
      retired := state.retired ++ [victim]
      publisherPhase := .idle } := by
  simp only [step, reapAccess, hphase, haccess]

theorem step_release_returned
    (haccess : was.access sizeClass descriptor.offset state.shared = (.returned, shared)) :
    state.step .reapAccess = some { state with
      shared
      publisherPhase := .reaping slot victim indices
      returned := recordChunk state.returned sizeClass descriptor.offset } := by
  simp only [step, reapAccess, hphase, haccess]

end Release

/-- Nobody is in a return after one that is over. -/
theorem update_ready (slot : ℕ) :
    Function.update (fun _ : ℕ => ReturnPhase.ready) slot .ready = fun _ => .ready :=
  Function.update_eq_self slot _

section Resting

variable {state next : State} {popped returned : ℕ → List ℕ} {outcome : Outcome}

theorem resting_returnChunk
    (hreach : (splitPlane mapped).Reachable (.resting state popped returned))
    {slot : ℕ} (hstep : state.returnChunk slot = some (outcome, next)) :
    ∃ returned', (splitPlane mapped).Reachable (.resting next popped returned') := by
  simp only [State.returnChunk, Option.bind_eq_bind, Option.bind_eq_some_iff] at hstep
  obtain ⟨reader, hreader, ⟨result, reader', shared⟩, hreturn, hstep⟩ := hstep
  cases hstep
  unfold Reader.returnChunk at hreturn
  split at hreturn
  next descriptor sizeClass hphase =>
    dsimp only at hreturn
    split at hreturn
    next hunused =>
      cases hreturn
      exact ⟨returned, reachable_step hreach _
        (step_doubleFree hreader hphase (rfl : _ = ReturnPhase.ready) (if_pos hunused))⟩
    next hused =>
      cases hreturn
      have hmarked := reachable_step hreach _
        (step_goesOn hreader hphase (rfl : _ = ReturnPhase.ready) (if_neg hused))
      have hloaded := reachable_step hmarked _
        (step_goesOn hreader hphase (Function.update_self ..) rfl)
      have hlinked := reachable_step hloaded _
        (step_goesOn hreader hphase (Function.update_self ..) rfl)
      have hstored := reachable_step hlinked _
        (step_returned hreader hphase (Function.update_self ..) rfl)
      simp only [Function.update_idem] at hstored
      refine ⟨recordChunk returned sizeClass descriptor.offset, ?_⟩
      rw [resting, ← update_ready slot]
      exact hstored
  next => cases hreturn

theorem resting_publish (hreach : (splitPlane mapped).Reachable (.resting state popped returned))
    (payload : List Byte) :
    ∃ popped', (splitPlane mapped).Reachable
      (.resting (state.publish payload).2 popped' returned) := by
  unfold State.publish tryPublishOne
  dsimp only
  split
  next => exact ⟨popped, hreach⟩
  next hsize =>
    split
    next => exact ⟨popped, hreach⟩
    next sizeClass hclass =>
      split
      next => exact ⟨popped, hreach⟩
      next hadmitted =>
        have hbegun : (splitPlane mapped).Reachable { resting state popped returned with
            publisherPhase := .publishing payload sizeClass .admitted } := by
          refine reachable_step hreach (.beginPublish payload) ?_
          simp only [step, beginPublish, resting, if_neg hsize, hclass]
          exact if_neg hadmitted
        have hloaded := reachable_step hbegun .publishAccess rfl
        split
        next heq =>
          refine ⟨popped, reachable_step hloaded .publishAccess ?_⟩
          exact congrArg some (if_pos heq)
        next hne =>
          split
          next hout =>
            refine ⟨popped, reachable_step hloaded .publishAccess ?_⟩
            exact congrArg some ((if_neg hne).trans (if_pos hout))
          next hin =>
            have hcompared := reachable_step hloaded .publishAccess
              (congrArg some ((if_neg hne).trans (if_neg hin)))
            split
            next hused =>
              refine ⟨popped, reachable_step hcompared .publishAccess ?_⟩
              exact congrArg some (if_pos hused)
            next hunused =>
              have hmarked := reachable_step hcompared .publishAccess
                (congrArg some (if_neg hunused))
              have hread := reachable_step hmarked .publishAccess rfl
              have hstored := reachable_step hread .publishAccess rfl
              have hwritten := reachable_step hstored .publishAccess rfl
              have hpublished := reachable_step hwritten .publishAccess rfl
              refine ⟨recordChunk popped sizeClass (state.shared.head sizeClass), ?_⟩
              convert hpublished using 1
              unfold publishWritten publishChunk
              dsimp only [resting]
              obtain hmask | ⟨mask, hmask⟩ := Option.eq_none_or_eq_some (chunkReferenceMask
                state.publisher.subscriberSlotIndexByDataAvailableEventFd
                state.publisher.dataAvailableEventFds 0)
              · simp only [hmask]
                rfl
              · simp only [hmask]
                obtain ⟨signalled, eventFds, hsignal⟩ : ∃ signalled eventFds, signalSubscribers
                    state.publisher.dataAvailableEventFds state.eventFds =
                      (signalled, eventFds) := ⟨_, _, rfl⟩
                simp only [hsignal]
                cases signalled with
                | false => rfl
                | true => rfl

/-! ## A reap -/

section Reap

variable {split : SplitState} {slot : ℕ} {victim : Reader}

/-- One round of the release loop. -/
theorem reaping_release {index : ℕ} {indices : List ℕ}
    (hphase : split.publisherPhase = .reaping slot victim (index :: indices))
    (hreach : (splitPlane mapped).Reachable split) :
    match releaseChunkReference split.shared (subscriberReferenceBit slot) index with
    | (.none, released) => ∃ returned', (splitPlane mapped).Reachable { split with
        shared := released
        publisherPhase := .reaping slot victim indices
        returned := returned' }
    | (_, released) => ∃ returned', (splitPlane mapped).Reachable { split with
        shared := released
        retired := split.retired ++ [victim]
        publisherPhase := .idle
        returned := returned' } := by
  unfold releaseChunkReference
  dsimp only
  generalize hdescriptor : split.shared.descRing index = descriptor
  generalize hclass : (findSizeClass descriptor.len).getD kClassCount = sizeClass
  by_cases hlast : split.shared.chunkReferenceCounts (chunkIndex sizeClass descriptor.offset) =
      subscriberReferenceBit slot
  · rw [if_pos hlast]
    have hcleared := reachable_step hreach .reapAccess
      (by simp only [step, reapAccess, hphase, hdescriptor, hclass, if_pos hlast]; rfl)
    by_cases hunused : (split.shared.clearReference (chunkIndex sizeClass descriptor.offset)
        (subscriberReferenceBit slot)).isInUse sizeClass
        (localChunkIndex sizeClass descriptor.offset) = false
    · rw [if_pos hunused]
      exact ⟨_, reachable_step hcleared _ (step_release_doubleFree rfl (by exact if_pos hunused))⟩
    · rw [if_neg hunused]
      have hmarked := reachable_step hcleared _ (step_release_goesOn rfl (by exact if_neg hunused))
      have hloaded := reachable_step hmarked _ (step_release_goesOn rfl rfl)
      have hlinked := reachable_step hloaded _ (step_release_goesOn rfl rfl)
      have hstored := reachable_step hlinked _ (step_release_returned rfl rfl)
      exact ⟨_, hstored⟩
  · rw [if_neg hlast]
    have hcleared := reachable_step hreach .reapAccess
      (by simp only [step, reapAccess, hphase, hdescriptor, hclass, if_neg hlast]; rfl)
    exact ⟨_, hcleared⟩

/-- The whole release loop. -/
theorem reaping_releases {indices : List ℕ}
    (hphase : split.publisherPhase = .reaping slot victim indices)
    (hreach : (splitPlane mapped).Reachable split) :
    match releaseChunkReferences (subscriberReferenceBit slot) indices split.shared with
    | (.none, released) => ∃ returned', (splitPlane mapped).Reachable { split with
        shared := released
        publisherPhase := .reaping slot victim []
        returned := returned' }
    | (_, released) => ∃ returned', (splitPlane mapped).Reachable { split with
        shared := released
        retired := split.retired ++ [victim]
        publisherPhase := .idle
        returned := returned' } := by
  induction indices generalizing split with
  | nil =>
      refine ⟨split.returned, ?_⟩
      rw [← hphase]
      exact hreach
  | cons index indices ih =>
      have hround := reaping_release hphase hreach
      rw [releaseChunkReferences]
      generalize releaseChunkReference split.shared (subscriberReferenceBit slot) index = round
        at hround ⊢
      obtain ⟨error, released⟩ := round
      cases error with
      | none =>
          obtain ⟨returned', hreleased⟩ := hround
          exact ih rfl hreleased
      | _ => exact hround

theorem resting_reap (hreach : (splitPlane mapped).Reachable (.resting state popped returned))
    (hstep : state.reap slot = some (outcome, next)) :
    ∃ returned', (splitPlane mapped).Reachable (.resting next popped returned') := by
  unfold State.reap at hstep
  split at hstep
  next => cases hstep
  next victim hreader =>
    obtain ⟨error, process, hprocess⟩ : ∃ error process,
        reapDeadSubscribers state.toPublisherProcess slot = (error, process) := ⟨_, _, rfl⟩
    rw [hprocess] at hstep
    cases hstep
    by_cases hinvalid : kMaxSubscribers ≤ slot ∨
        state.shared.descriptorReadIndices slot = kInvalidIndex
    · have hkilled := reachable_step hreach (.beginReap slot)
        (by simp only [step, beginReap, resting, hreader]; exact if_pos hinvalid)
      have hsame : process = state.toPublisherProcess := by
        unfold reapDeadSubscribers at hprocess
        dsimp only at hprocess
        split at hprocess
        next => exact (Prod.mk.inj hprocess).2.symm
        next hslot =>
          rw [if_pos (hinvalid.resolve_left hslot)] at hprocess
          exact (Prod.mk.inj hprocess).2.symm
      subst hsame
      refine ⟨returned, ?_⟩
      rw [resting, ← update_ready slot]
      exact hkilled
    · have hbegun := reachable_step hreach (.beginReap slot)
        (by simp only [step, beginReap, resting, hreader]; exact if_neg hinvalid)
      have hreleases := reaping_releases rfl hbegun
      rw [not_or] at hinvalid
      rw [reapDeadSubscribers, if_neg hinvalid.1, if_neg hinvalid.2] at hprocess
      dsimp only at hprocess
      rw [releaseUnreadReferences_eq] at hprocess
      dsimp only at hreleases
      generalize releaseChunkReferences (subscriberReferenceBit slot) (unreadIndices
        (state.shared.descriptorReadIndices slot) state.shared.descriptorWriteIndex)
        state.shared = result at hprocess hreleases
      obtain ⟨released, shared⟩ := result
      cases released with
      | none =>
          obtain ⟨returned', hreleased⟩ := hreleases
          have hforgotten := reachable_step hreleased .reapAccess rfl
          refine ⟨returned', ?_⟩
          have hsame : process = (forgetSubscriber { state.toPublisherProcess with
              shared := shared.storeReadIndex slot kInvalidIndex } slot).2 :=
            (congrArg Prod.snd hprocess).symm
          rw [hsame, resting, ← update_ready slot]
          exact hforgotten
      | _ =>
          obtain ⟨returned', hreleased⟩ := hreleases
          cases hprocess
          refine ⟨returned', ?_⟩
          rw [resting, ← update_ready slot]
          exact hreleased

end Reap

/-! ## The data plane -/

/-- A step that is one access. -/
theorem resting_lift (hreach : (splitPlane mapped).Reachable (.resting state popped returned))
    (action : SplitAction) {result : Option (Outcome × State)}
    (hlift : step (.resting state popped returned) action =
      lift (.resting state popped returned) result)
    (hstep : result = some (outcome, next)) :
    (splitPlane mapped).Reachable (.resting next popped returned) :=
  reachable_step hreach action (by rw [hlift, hstep]; rfl)

/-- What the data plane reaches step by step is reached access by access. -/
theorem resting_reachable (hreach : (dataPlane mapped).Reachable state) :
    ∃ popped returned, (splitPlane mapped).Reachable (.resting state popped returned) := by
  refine hreach.invariant (fun state => ∃ popped returned,
    (splitPlane mapped).Reachable (.resting state popped returned)) ⟨_, _, .initial⟩ ?_
  rintro state action next ⟨popped, returned, hsplit⟩ - hnext
  obtain ⟨⟨outcome, moved⟩, hstep, rfl⟩ := Option.map_eq_some_iff.mp hnext
  cases action with
  | publish payload =>
      obtain rfl := congrArg Prod.snd (Option.some.inj hstep)
      obtain ⟨popped', hpublished⟩ := resting_publish hsplit payload
      exact ⟨popped', returned, hpublished⟩
  | track eventFd slot =>
      exact ⟨_, _, resting_lift hsplit (.track eventFd slot) rfl hstep⟩
  | reap slot =>
      obtain ⟨returned', hreaped⟩ := resting_reap hsplit hstep
      exact ⟨popped, returned', hreaped⟩
  | fetchDescriptors slot =>
      exact ⟨_, _, resting_lift hsplit (.fetchDescriptors slot) rfl hstep⟩
  | readPayload slot => exact ⟨_, _, resting_lift hsplit (.readPayload slot) rfl hstep⟩
  | clearReference slot => exact ⟨_, _, resting_lift hsplit (.clearReference slot) rfl hstep⟩
  | storeReadIndex slot => exact ⟨_, _, resting_lift hsplit (.storeReadIndex slot) rfl hstep⟩
  | returnChunk slot =>
      obtain ⟨returned', happended⟩ := resting_returnChunk hsplit hstep
      exact ⟨popped, returned', happended⟩
  | signalSpace slot => exact ⟨_, _, resting_lift hsplit (.signalSpace slot) rfl hstep⟩

end Resting

end SplitState

end DriveBus.SharedMemory
