import DriveBus.SharedMemory.PublisherExit

/-!
# Whose data events a step changes

A step of one subscriber changes its own reader and its own handler, and no step of the
publisher changes those of a subscriber that is tracked, until it is reaped.  A slot that
the broker has given to a subscriber waits for its eventfd to be tracked.
-/

namespace DriveBus.SharedMemory

open DriveBus.ByteMemory DriveBus.UnorderedMap

/-- The slot of the subscriber that takes a step. -/
def EventAction.consumer : EventAction → Option ℕ
  | .drain slotIndex => some slotIndex
  | action => action.handles

/-- A step of the publisher or of a subscriber elsewhere: the slot is tracked with its own
eventfd only, and it is not reaped. -/
def EventAction.Spares (slot eventFd : ℕ) : EventAction → Prop
  | .track otherFd other => other = slot ↔ otherFd = eventFd
  | .reap other => other ≠ slot
  | action => action.consumer ≠ some slot

theorem EventAction.spares_of_consumer {action : EventAction} {slot other eventFd : ℕ}
    (hconsumer : action.consumer = some other) (hne : other ≠ slot) :
    action.Spares slot eventFd := by
  have hnot : action.consumer ≠ some slot := fun heq =>
    hne (Option.some.inj (hconsumer.symm.trans heq))
  cases action with
  | track | reap => cases hconsumer
  | _ => exact hnot

theorem EventAction.consumer_of_handles {action : EventAction} {slot : ℕ}
    (hhandles : action.handles = some slot) : action.consumer = some slot := by
  cases action with
  | drain => cases hhandles
  | _ => exact hhandles

instance EventAction.instDecidableSpares (slot eventFd : ℕ) (action : EventAction) :
    Decidable (action.Spares slot eventFd) := by
  cases action <;> simp only [EventAction.Spares] <;> infer_instance

namespace EventPlane

variable {events events' : EventPlane} {slot : ℕ}

/-- A step of the subscriber in a slot. -/
structure StepsAt (events events' : EventPlane) (slot : ℕ) : Prop where
  reader : (events.plane.readers slot).isSome
  reader' : (events'.plane.readers slot).isSome
  readers : ∀ other ≠ slot, events'.plane.readers other = events.plane.readers other
  handlers : ∀ other ≠ slot, events'.handlers other = events.handlers other
  eventFd : (events'.handlers slot).eventFd = (events.handlers slot).eventFd
  isSome_iff : ∀ eventFd, (events'.plane.eventFds eventFd).isSome =
    (events.plane.eventFds eventFd).isSome

/-- The data plane after a step of its subscriber. -/
theorem stepsAt_consume {state' : State} (action : Action) {outcome : Outcome}
    (hconsumes : ConsumesMessages action) (hslot : action = .readPayload slot ∨
      action = .clearReference slot ∨ action = .storeReadIndex slot ∨
      action = .returnChunk slot ∨ action = .signalSpace slot)
    (hstep : events.plane.step action = some (outcome, state')) :
    StepsAt events { events with plane := state' } slot := by
  have heventFds := consume_eventFds action hconsumes hstep
  have hreaders : ∃ reader reader', events.plane.readers slot = some reader ∧
      state'.readers = Function.update events.plane.readers slot (some reader') := by
    obtain rfl | rfl | rfl | rfl | rfl := hslot
    · simp only [State.step, State.readPayload, Option.bind_eq_bind,
        Option.bind_eq_some_iff] at hstep
      obtain ⟨reader, hreader, ⟨result, started⟩, -, hstep⟩ := hstep
      cases hstep
      exact ⟨reader, started, hreader, rfl⟩
    · simp only [State.step, State.clearReference, Option.bind_eq_bind,
        Option.bind_eq_some_iff] at hstep
      obtain ⟨reader, hreader, ⟨cleared, shared⟩, -, hstep⟩ := hstep
      cases hstep
      exact ⟨reader, cleared, hreader, rfl⟩
    · simp only [State.step, State.storeReadIndex, Option.bind_eq_bind,
        Option.bind_eq_some_iff] at hstep
      obtain ⟨reader, hreader, ⟨stored, shared⟩, -, hstep⟩ := hstep
      cases hstep
      exact ⟨reader, stored, hreader, rfl⟩
    · simp only [State.step, State.returnChunk, Option.bind_eq_bind,
        Option.bind_eq_some_iff] at hstep
      obtain ⟨reader, hreader, ⟨result, returned, shared⟩, -, hstep⟩ := hstep
      cases hstep
      exact ⟨reader, returned, hreader, rfl⟩
    · simp only [State.step, State.signalSpace, Option.bind_eq_bind,
        Option.bind_eq_some_iff] at hstep
      obtain ⟨reader, hreader, ⟨signalled, spaceAvailable⟩, -, hstep⟩ := hstep
      cases hstep
      exact ⟨reader, signalled, hreader, rfl⟩
  obtain ⟨reader, reader', hreader, hupdate⟩ := hreaders
  refine ⟨hreader ▸ rfl, ?_, fun other hne => ?_, fun _ _ => rfl, rfl, fun eventFd => ?_⟩
  · simp [hupdate]
  · simp [hupdate, hne]
  · simp [heventFds]

/-- A new handler of the same eventfd in the slot of the step. -/
theorem StepsAt.setHandler (hsteps : StepsAt events events' slot) {handler : EventHandler}
    (heventFd : handler.eventFd = (events.handlers slot).eventFd) :
    StepsAt events (events'.setHandler slot handler) slot where
  reader := hsteps.reader
  reader' := hsteps.reader'
  readers := hsteps.readers
  handlers other hne := (Function.update_of_ne hne _ _).trans (hsteps.handlers other hne)
  eventFd := (congrArg EventHandler.eventFd (Function.update_self _ _ _)).trans heventFd
  isSome_iff := hsteps.isSome_iff

theorem StepsAt.setPhase (hsteps : StepsAt events events' slot) (phase : HandlerPhase) :
    StepsAt events (events'.setPhase slot phase) slot :=
  hsteps.setHandler hsteps.eventFd

theorem StepsAt.refl {reader : Reader} (hreader : events.plane.readers slot = some reader) :
    StepsAt events events slot :=
  ⟨hreader ▸ rfl, hreader ▸ rfl, fun _ _ => rfl, fun _ _ => rfl, rfl, fun _ => rfl⟩

/-- A step that only replaces the reader. -/
theorem StepsAt.setReader {reader : Reader} (hreader : events.plane.readers slot = some reader)
    (reader' : Reader) :
    StepsAt events { events with plane := events.plane.setReader slot reader' } slot where
  reader := hreader ▸ rfl
  reader' := by simp [State.setReader]
  readers other hne := by simp [State.setReader, hne]
  handlers _ _ := rfl
  eventFd := rfl
  isSome_iff _ := rfl

theorem stepsAt_read (action : Action) {outcome : Outcome} (hconsumes : ConsumesMessages action)
    (hslot : action = .readPayload slot ∨ action = .clearReference slot ∨
      action = .storeReadIndex slot ∨ action = .returnChunk slot ∨ action = .signalSpace slot)
    (hread : events.read slot (events.plane.step action) = some (outcome, events')) :
    StepsAt events events' slot := by
  unfold read at hread
  split at hread
  · obtain ⟨⟨other, plane⟩, hstep, heq⟩ := Option.map_eq_some_iff.mp hread
    obtain ⟨-, rfl⟩ := Prod.mk.inj heq
    exact stepsAt_consume action hconsumes hslot hstep
  · cases hread

theorem drain_stepsAt (hdrain : events.drain slot = some events') :
    StepsAt events events' slot := by
  unfold drain at hdrain
  dsimp only at hdrain
  split at hdrain
  next hwaiting =>
    obtain ⟨reader, hreader⟩ := Option.isSome_iff_exists.mp hwaiting.1
    rw [drainEventfd] at hdrain
    cases hcount : events.plane.eventFds (events.handlers slot).eventFd with
    | none =>
        rw [hcount] at hdrain
        cases hdrain
        exact (StepsAt.refl hreader).setPhase _
    | some count =>
        rw [hcount] at hdrain
        cases hdrain
        have hsteps : StepsAt events { events with plane := { events.plane with
            eventFds := Function.update events.plane.eventFds
              (events.handlers slot).eventFd (some 0) } } slot := by
          refine ⟨hwaiting.1, hwaiting.1, fun _ _ => rfl, fun _ _ => rfl, rfl,
            fun eventFd => ?_⟩
          by_cases heq : eventFd = (events.handlers slot).eventFd
          · subst heq
            simp [hcount]
          · simp [heq]
        exact hsteps.setPhase _
  · cases hdrain

theorem drain_enabled (hreader : (events.plane.readers slot).isSome)
    (hwaiting : (events.handlers slot).phase = .waiting) : (events.drain slot).isSome := by
  unfold drain
  dsimp only
  rw [if_pos ⟨hreader, hwaiting⟩]
  split <;> rfl

theorem drain_phase (hdrain : events.drain slot = some events') :
    (events'.handlers slot).phase ≠ .waiting := by
  unfold drain at hdrain
  dsimp only at hdrain
  split at hdrain
  · split at hdrain <;> cases hdrain <;> simp [setPhase, setHandler]
  · cases hdrain

/-- Every step of a subscriber is one of its own slot. -/
theorem next_stepsAt {action : EventAction} (hconsumer : action.consumer = some slot)
    (hnext : events.next action = some events') : StepsAt events events' slot := by
  cases action with
  | store | signal | track | reap => cases hconsumer
  | drain other =>
      cases hconsumer
      exact drain_stepsAt hnext
  | initializeReadIndex other =>
      cases hconsumer
      simp only [next, initializeReadIndex] at hnext
      split at hnext
      next reader hreader _ =>
        cases hnext
        exact (StepsAt.setReader hreader _).setPhase _
      · cases hnext
  | load other =>
      cases hconsumer
      simp only [next, load] at hnext
      split at hnext
      next reader hreader _ =>
        split at hnext <;> cases hnext <;> exact (StepsAt.refl hreader).setPhase _
      · cases hnext
  | copy other =>
      cases hconsumer
      simp only [next, copy] at hnext
      split at hnext
      next reader stop hreader _ =>
        split at hnext <;> cases hnext
        · exact StepsAt.setReader hreader _
        · exact (StepsAt.refl hreader).setPhase _
      · cases hnext
  | readPayload other =>
      cases hconsumer
      obtain ⟨⟨outcome, copied⟩, hread, rfl⟩ := Option.map_eq_some_iff.mp hnext
      have hsteps := stepsAt_read (.readPayload slot) trivial (.inl rfl) hread
      dsimp only
      split
      · exact hsteps.setHandler rfl
      · exact hsteps.setPhase _
  | clearReference other =>
      cases hconsumer
      obtain ⟨⟨outcome, cleared⟩, hread, rfl⟩ := Option.map_eq_some_iff.mp hnext
      exact stepsAt_read (.clearReference slot) trivial (.inr (.inl rfl)) hread
  | storeReadIndex other =>
      cases hconsumer
      obtain ⟨⟨outcome, stored⟩, hread, rfl⟩ := Option.map_eq_some_iff.mp hnext
      exact stepsAt_read (.storeReadIndex slot) trivial (.inr (.inr (.inl rfl))) hread
  | returnChunk other =>
      cases hconsumer
      obtain ⟨⟨outcome, returned⟩, hread, rfl⟩ := Option.map_eq_some_iff.mp hnext
      have hsteps := stepsAt_read (.returnChunk slot) trivial
        (.inr (.inr (.inr (.inl rfl)))) hread
      dsimp only
      split
      · exact hsteps
      · exact hsteps.setPhase _
  | signalSpace other =>
      cases hconsumer
      obtain ⟨⟨outcome, signalled⟩, hread, rfl⟩ := Option.map_eq_some_iff.mp hnext
      exact stepsAt_read (.signalSpace slot) trivial
        (.inr (.inr (.inr (.inr rfl)))) hread
  | reload other =>
      cases hconsumer
      simp only [next, reload] at hnext
      split at hnext
      next reader hreader _ =>
        split at hnext
        · split at hnext <;> cases hnext
          · exact (StepsAt.refl hreader).setPhase _
          · exact (StepsAt.refl hreader).setHandler rfl
        · cases hnext
      · cases hnext

/-- A subscriber that handles an event has a next step. -/
theorem handler_enabled (hreader : (events.plane.readers slot).isSome)
    (hwaiting : (events.handlers slot).phase ≠ .waiting)
    (hfailed : (events.handlers slot).phase ≠ .failed) :
    ∃ action, action.handles = some slot ∧ (events.next action).isSome := by
  obtain ⟨reader, hreader⟩ := Option.isSome_iff_exists.mp hreader
  cases hphase : (events.handlers slot).phase with
  | waiting => exact absurd hphase hwaiting
  | failed => exact absurd hphase hfailed
  | drained =>
      refine ⟨.initializeReadIndex slot, rfl, ?_⟩
      simp [next, initializeReadIndex, hreader, hphase]
  | initialized =>
      refine ⟨.load slot, rfl, ?_⟩
      simp only [next, load, hreader, hphase]
      split <;> rfl
  | copying stop =>
      refine ⟨.copy slot, rfl, ?_⟩
      simp only [next, copy, hreader, hphase]
      split <;> rfl
  | reading =>
      -- what comes next is decided by the iteration of `read_data`
      cases hiteration : reader.phase with
      | idle =>
          cases hring : reader.descRing with
          | nil =>
              refine ⟨.reload slot, rfl, ?_⟩
              simp only [next, reload, hreader, hphase, hiteration, hring, and_self, if_true]
              split <;> rfl
          | cons descriptor rest =>
              refine ⟨.readPayload slot, rfl, ?_⟩
              have hstarts : (reader.startIteration events.plane.shared).isSome := by
                simp only [Reader.startIteration, hiteration, hring]
                split <;> rfl
              obtain ⟨started, hstarted⟩ := Option.isSome_iff_exists.mp hstarts
              simp [next, readPayload, read, hphase, State.readPayload, hreader, hstarted]
      | payloadRead descriptor sizeClass =>
          refine ⟨.clearReference slot, rfl, ?_⟩
          simp [next, read, hphase, State.clearReference, hreader, Reader.clearOwnReference,
            hiteration]
      | bitCleared descriptor sizeClass lastHolder =>
          refine ⟨.storeReadIndex slot, rfl, ?_⟩
          simp [next, read, hphase, State.storeReadIndex, hreader, Reader.storeOwnReadIndex,
            hiteration]
      | indexStored descriptor sizeClass =>
          refine ⟨.returnChunk slot, rfl, ?_⟩
          have hreturns : (reader.returnChunk events.plane.shared).isSome := by
            simp only [Reader.returnChunk, hiteration]
            split <;> rfl
          obtain ⟨returned, hreturned⟩ := Option.isSome_iff_exists.mp hreturns
          simp [next, returnChunk, read, hphase, State.returnChunk, hreader, hreturned]
      | chunkAppended =>
          refine ⟨.signalSpace slot, rfl, ?_⟩
          simp [next, read, hphase, State.signalSpace, hreader, Reader.signalSpaceAvailable,
            hiteration]

/-! ## Slots given to a subscriber -/

/-- The slot and the eventfd belong together: either the publisher has not tracked them yet,
or it has. -/
def Bound (events : EventPlane) (slot eventFd : ℕ) : Prop :=
  events.plane.readers slot = none ∧ events.plane.eventFds eventFd = none ∨
    (events.plane.readers slot).isSome ∧ (events.handlers slot).eventFd = eventFd

/-- A tracked slot is as it was, and one that is tracked now waits. -/
structure Spared (events events' : EventPlane) (slot eventFd : ℕ) : Prop where
  bound : events'.Bound slot eventFd
  tracked : (events.plane.readers slot).isSome →
    events'.plane.readers slot = events.plane.readers slot ∧
      events'.handlers slot = events.handlers slot
  waiting : events.plane.readers slot = none → (events'.plane.readers slot).isSome →
    (events'.handlers slot).phase = .waiting

theorem Bound.spared_of_same {eventFd : ℕ} (hbound : events.Bound slot eventFd)
    (hreaders : events'.plane.readers slot = events.plane.readers slot)
    (hhandlers : events'.handlers slot = events.handlers slot)
    (hclosed : events.plane.eventFds eventFd = none → events'.plane.eventFds eventFd = none) :
    Spared events events' slot eventFd where
  bound := by
    rw [Bound, hreaders, hhandlers]
    exact hbound.imp_left fun hnew => ⟨hnew.1, hclosed hnew.2⟩
  tracked _ := ⟨hreaders, hhandlers⟩
  waiting hnone hsome := by
    rw [hreaders, hnone] at hsome
    cases hsome

theorem Bound.spared_of_isSome {eventFd : ℕ} (hbound : events.Bound slot eventFd)
    (hreaders : events'.plane.readers slot = events.plane.readers slot)
    (hhandlers : events'.handlers slot = events.handlers slot)
    (hopen : (events'.plane.eventFds eventFd).isSome = (events.plane.eventFds eventFd).isSome) :
    Spared events events' slot eventFd :=
  hbound.spared_of_same hreaders hhandlers fun hnone => by
    rw [hnone] at hopen
    exact Option.not_isSome_iff_eq_none.mp (by simp [hopen])

namespace Invariant

theorem track_spared (hinv : events.Invariant) {eventFd otherFd other : ℕ}
    (hbound : events.Bound slot eventFd) (hspares : other = slot ↔ otherFd = eventFd)
    (htrack : events.track otherFd other = some events') :
    Spared events events' slot eventFd := by
  unfold EventPlane.track at htrack
  split at htrack
  · obtain ⟨pool, hplane⟩ := hinv.plane
    cases hstep : events.plane.track otherFd other with
    | none =>
        rw [hstep] at htrack
        cases htrack
    | some result =>
        obtain ⟨outcome, plane⟩ := result
        rw [hstep] at htrack
        obtain ⟨⟨error, rfl⟩, rfl⟩ | ⟨rfl, hfresh, hreaders, -, heventFds, -⟩ :=
          hplane.track_effect hstep
        · cases htrack
          exact hbound.spared_of_same rfl rfl id
        · obtain rfl := Option.some.inj htrack
          by_cases heq : other = slot
          · obtain rfl := hspares.mp heq
            subst heq
            have hnew : events.plane.readers other = none := by
              obtain hnew | ⟨htracked, hfd⟩ := hbound
              · exact hnew.1
              · obtain ⟨reader, hreader⟩ := Option.isSome_iff_exists.mp htracked
                have hopen := hinv.isSome_eventFd hreader
                rw [hfd, hfresh] at hopen
                cases hopen
            refine ⟨.inr ⟨?_, ?_⟩, fun htracked => ?_, fun _ _ => ?_⟩
            · simp [setHandler, hreaders]
            · simp [setHandler, EventHandler.registered]
            · rw [hnew] at htracked
              cases htracked
            · simp [setHandler, EventHandler.registered]
          · have hne : eventFd ≠ otherFd := fun h => heq (hspares.mpr h.symm)
            refine hbound.spared_of_same ?_ ?_ fun hclosed => ?_
            · simp [setHandler, hreaders, Ne.symm heq]
            · simp [setHandler, Ne.symm heq]
            · simp [setHandler, heventFds, hne, hclosed]
  · cases htrack

theorem reap_spared (hinv : events.Invariant) {eventFd other : ℕ}
    (hbound : events.Bound slot eventFd) (hne : other ≠ slot)
    (hreap : events.reap other = some events') : Spared events events' slot eventFd := by
  unfold EventPlane.reap at hreap
  split at hreap
  · obtain ⟨⟨outcome, plane⟩, hstep, rfl⟩ := Option.map_eq_some_iff.mp hreap
    obtain ⟨pool, hplane⟩ := hinv.plane
    obtain ⟨reader, pool', hreader, rfl, -, -⟩ := hplane.reap hstep
    simp only [State.reap, hreader, Option.some.injEq, Prod.mk.injEq, Outcome.reap.injEq] at hstep
    obtain ⟨herror, rfl⟩ := hstep
    obtain ⟨heventFds, -⟩ := reapDeadSubscribers_effect
      (Prod.ext herror rfl : reapDeadSubscribers events.plane.toPublisherProcess other =
        (.none, (reapDeadSubscribers events.plane.toPublisherProcess other).2))
    refine hbound.spared_of_same ?_ rfl fun hclosed => ?_
    · simp [Ne.symm hne]
    · dsimp only
      rw [heventFds, Function.update_apply, hclosed, ite_self]
  · cases hreap

/-- Steps elsewhere leave a slot to its subscriber. -/
theorem next_spared (hinv : events.Invariant) {eventFd : ℕ} {action : EventAction}
    (hbound : events.Bound slot eventFd) (hspares : action.Spares slot eventFd)
    (hnext : events.next action = some events') : Spared events events' slot eventFd := by
  have hconsumed : ∀ other, action.consumer = some other → other ≠ slot →
      Spared events events' slot eventFd := fun other hconsumer hne => by
    have hsteps := next_stepsAt hconsumer hnext
    exact hbound.spared_of_isSome (hsteps.readers slot (Ne.symm hne))
      (hsteps.handlers slot (Ne.symm hne)) (hsteps.isSome_iff eventFd)
  cases action with
  | store payload =>
      simp only [EventPlane.next, EventPlane.store] at hnext
      split at hnext
      · obtain rfl := Option.some.inj hnext
        exact hbound.spared_of_same rfl rfl id
      · cases hnext
  | signal =>
      simp only [EventPlane.next, EventPlane.signal] at hnext
      split at hnext
      · cases hnext
      next otherFd signalling hsignalling =>
        obtain ⟨eventFds, hsignalled, hsame, -⟩ :=
          signalEventfd_readable (hinv.signalling otherFd (by simp [hsignalling]))
        rw [hsignalled] at hnext
        obtain rfl := Option.some.inj hnext
        exact hbound.spared_of_isSome rfl rfl (hsame eventFd)
  | track otherFd other => exact hinv.track_spared hbound hspares hnext
  | reap other => exact hinv.reap_spared hbound hspares hnext
  | drain other => exact hconsumed other rfl fun heq => hspares (congrArg some heq)
  | initializeReadIndex other => exact hconsumed other rfl fun heq => hspares (congrArg some heq)
  | load other => exact hconsumed other rfl fun heq => hspares (congrArg some heq)
  | copy other => exact hconsumed other rfl fun heq => hspares (congrArg some heq)
  | readPayload other => exact hconsumed other rfl fun heq => hspares (congrArg some heq)
  | clearReference other => exact hconsumed other rfl fun heq => hspares (congrArg some heq)
  | storeReadIndex other => exact hconsumed other rfl fun heq => hspares (congrArg some heq)
  | returnChunk other => exact hconsumed other rfl fun heq => hspares (congrArg some heq)
  | signalSpace other => exact hconsumed other rfl fun heq => hspares (congrArg some heq)
  | reload other => exact hconsumed other rfl fun heq => hspares (congrArg some heq)

/-- Between two events, an eventfd that is drained and not about to be signalled says that
everything has been read, and that all of it has been handed over. -/
theorem caughtUp (hinv : events.Invariant) {reader : Reader}
    (hreader : events.plane.readers slot = some reader)
    (hwaiting : (events.handlers slot).phase = .waiting)
    (hsilent : ¬events.Signalled (events.handlers slot).eventFd) :
    events.plane.shared.descriptorReadIndices slot =
        events.plane.shared.descriptorWriteIndex ∧
      (events.handlers slot).handedOver.flatten =
        (events.plane.published.drop reader.joinedAt).map Message.payload := by
  obtain ⟨pool, hplane⟩ := hinv.plane
  have hrinv := hplane.reader hreader
  have hhandler := hinv.handler hreader
  have hidle := hhandler.resting (by simp [hwaiting])
  have hpromises := hhandler.promises
  rw [hwaiting] at hpromises
  have hcursor : reader.cursor = events.plane.published.length :=
    (hrinv.cursor_le hidle).antisymm (Nat.not_lt.mp fun hunread =>
      hsilent (hpromises.2 hunread))
  refine ⟨?_, ?_⟩
  · rw [hrinv.readIndex_eq, hplane.ring.write_eq, hcursor]
  · have hmessages := hhandler.messages_eq
    rw [hhandler.between hwaiting, List.append_nil, hrinv.messages_eq,
      Reader.next_of_idle hidle, Reader.delivered, hcursor] at hmessages
    rw [hmessages, List.take_of_length_le]
    simp

end Invariant

end EventPlane

end DriveBus.SharedMemory
