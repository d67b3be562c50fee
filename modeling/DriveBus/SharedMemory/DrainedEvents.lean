import DriveBus.SharedMemory.HandlerInvariant

/-!
# Nothing stays unread behind a drained event

An event stops reading when the writer is not ahead of it: either everything is read, or
the writer has wrapped since an earlier load of the same event, and what it has published
since then is signalled or about to be.  So a subscriber whose eventfd is drained and not
about to be signalled has read up to the write index.
-/

namespace DriveBus.SharedMemory

open DriveBus.ByteMemory DriveBus.Transition

/-! ## The invariant of the system -/

namespace EventPlane

/-- The eventfd is readable, or the publish in progress is about to signal it. -/
def Signalled (events : EventPlane) (eventFd : ℕ) : Prop :=
  (events.plane.eventFds eventFd).any (0 < ·) = true ∨ eventFd ∈ events.signalling

structure Invariant (events : EventPlane) : Prop where
  plane : ∃ pool : Pool events.plane.published, SharedMemory.Invariant events.plane pool
  signalling : ∀ eventFd ∈ events.signalling, (events.plane.eventFds eventFd).isSome
  lookup : ∀ {slot reader}, events.plane.readers slot = some reader →
    events.plane.publisher.subscriberSlotIndexByDataAvailableEventFd.lookup
      (events.handlers slot).eventFd = some slot
  handler : ∀ {slot reader}, events.plane.readers slot = some reader →
    HandlerInvariant events.plane.published (events.Signalled (events.handlers slot).eventFd)
      (events.handlers slot) reader

namespace Invariant

variable {events events' : EventPlane} {slot : ℕ}

/-- Different slots have different eventfds. -/
theorem eventFd_ne (hinv : events.Invariant) {other : ℕ} {reader otherReader : Reader}
    (hreader : events.plane.readers slot = some reader)
    (hother : events.plane.readers other = some otherReader) (hne : other ≠ slot) :
    (events.handlers other).eventFd ≠ (events.handlers slot).eventFd := by
  intro heq
  have hlookup := hinv.lookup hother
  rw [heq, hinv.lookup hreader, Option.some.injEq] at hlookup
  exact hne hlookup.symm

theorem isSome_eventFd (hinv : events.Invariant) {reader : Reader}
    (hreader : events.plane.readers slot = some reader) :
    (events.plane.eventFds (events.handlers slot).eventFd).isSome := by
  obtain ⟨pool, hplane⟩ := hinv.plane
  exact (hplane.tables.slot_of_lookup (hinv.lookup hreader)).2.2

/-- A step of one subscriber. -/
theorem updateSlot (hinv : events.Invariant) {reader reader' : Reader} {plane : State}
    {handler : EventHandler} (hreader : events.plane.readers slot = some reader)
    (hplane : ∃ pool : Pool plane.published, SharedMemory.Invariant plane pool)
    (hreaders : plane.readers = Function.update events.plane.readers slot (some reader'))
    (hpublished : plane.published = events.plane.published)
    (hpublisher : plane.publisher = events.plane.publisher)
    (hopen : ∀ eventFd, (plane.eventFds eventFd).isSome =
      (events.plane.eventFds eventFd).isSome)
    (hothers : ∀ eventFd ≠ (events.handlers slot).eventFd,
      plane.eventFds eventFd = events.plane.eventFds eventFd)
    (heventFd : handler.eventFd = (events.handlers slot).eventFd)
    (hhandler : HandlerInvariant plane.published
      (({ events with plane } : EventPlane).Signalled handler.eventFd) handler reader') :
    (({ events with plane } : EventPlane).setHandler slot handler).Invariant where
  plane := hplane
  signalling := by
    intro eventFd hmem
    exact (hopen eventFd).trans (hinv.signalling eventFd hmem)
  lookup := by
    intro other otherReader hother
    simp only [setHandler, hpublisher] at hother ⊢
    by_cases heq : other = slot
    · subst heq
      rw [Function.update_self, heventFd]
      exact hinv.lookup hreader
    · rw [hreaders, Function.update_of_ne heq] at hother
      rw [Function.update_of_ne heq]
      exact hinv.lookup hother
  handler := by
    intro other otherReader hother
    by_cases heq : other = slot
    · subst heq
      simp only [setHandler, hreaders, Function.update_self, Option.some.injEq] at hother ⊢
      exact hother ▸ hhandler
    · simp only [setHandler, hreaders, Function.update_of_ne heq] at hother ⊢
      rw [hpublished]
      refine (hinv.handler hother).mono (Or.imp_left fun hreadable => ?_)
      dsimp only
      rw [hothers _ (hinv.eventFd_ne hreader hother heq)]
      exact hreadable

theorem update_reader {readers : ℕ → Option Reader} {reader : Reader}
    (hreader : readers slot = some reader) :
    readers = Function.update readers slot (some reader) := by
  rw [← hreader, Function.update_eq_self]

theorem setHandler_self (events : EventPlane) (slot : ℕ) :
    events.setHandler slot (events.handlers slot) = events := by
  rw [setHandler, Function.update_eq_self]

/-- A step of one subscriber that leaves its handler and the eventfds alone. -/
theorem updateReader (hinv : events.Invariant) {reader reader' : Reader} {plane : State}
    (hreader : events.plane.readers slot = some reader)
    (hplane : ∃ pool : Pool plane.published, SharedMemory.Invariant plane pool)
    (hreaders : plane.readers = Function.update events.plane.readers slot (some reader'))
    (hpublished : plane.published = events.plane.published)
    (hpublisher : plane.publisher = events.plane.publisher)
    (heventFds : plane.eventFds = events.plane.eventFds)
    (hhandler : HandlerInvariant plane.published
      (events.Signalled (events.handlers slot).eventFd) (events.handlers slot) reader') :
    ({ events with plane } : EventPlane).Invariant := by
  have hsignalled : ({ events with plane } : EventPlane).Signalled = events.Signalled := by
    funext eventFd
    rw [Signalled, Signalled, heventFds]
  have hupdated := hinv.updateSlot hreader hplane hreaders hpublished hpublisher
    (fun eventFd => by rw [heventFds]) (fun eventFd _ => by rw [heventFds]) rfl
    (hsignalled ▸ hhandler)
  exact setHandler_self ({ events with plane } : EventPlane) slot ▸ hupdated

/-! ### `read_data` -/

/-- A step of `read_data` hands `messages` to the event. -/
theorem continued (hinv : events.Invariant) {reader reader' : Reader}
    {messages : List (List Byte)} (hreader : events.plane.readers slot = some reader)
    (hphase : (events.handlers slot).phase = .reading) (hcontinues : reader.Continues reader')
    (hmessages : reader'.messages = reader.messages ++ messages) :
    HandlerInvariant events.plane.published
      (events.Signalled (events.handlers slot).eventFd)
      { events.handlers slot with
        messages := (events.handlers slot).messages ++ messages } reader' := by
  have hhandler := hinv.handler hreader
  refine ⟨fun hnot => absurd hphase hnot, ?_, fun hwaiting => ?_, ?_⟩
  · have hpromises := hhandler.promises
    dsimp only
    rw [hphase] at hpromises ⊢
    refine ⟨hcontinues.localIndex hpromises.1, ?_⟩
    rw [hcontinues.stop_eq]
    exact hpromises.2
  · dsimp only at hwaiting
    rw [hphase] at hwaiting
    cases hwaiting
  · dsimp only
    rw [hmessages, ← hhandler.messages_eq, List.append_assoc]

/-- A step of `read_data` hands nothing to the event. -/
theorem continued_silent (hinv : events.Invariant) {reader reader' : Reader}
    (hreader : events.plane.readers slot = some reader)
    (hphase : (events.handlers slot).phase = .reading)
    (hcontinues : reader.Continues reader' ∧ reader'.messages = reader.messages) :
    HandlerInvariant events.plane.published
      (events.Signalled (events.handlers slot).eventFd) (events.handlers slot) reader' := by
  have hcontinued := hinv.continued hreader hphase hcontinues.1
    (hcontinues.2.trans (List.append_nil _).symm)
  rwa [List.append_nil] at hcontinued

/-- The data plane after a step of `read_data`. -/
theorem planeStep (hinv : events.Invariant) (action : Action) {outcome : Outcome}
    {plane : State} (hstep : events.plane.step action = some (outcome, plane)) :
    (∃ pool : Pool plane.published, SharedMemory.Invariant plane pool) ∧
      outcome.Sound events.plane.published.length := by
  obtain ⟨pool, hplane⟩ := hinv.plane
  obtain ⟨pool', hplane', hsound, -⟩ := hplane.step hstep
  exact ⟨⟨pool', hplane'⟩, hsound⟩

theorem clearReference (hinv : events.Invariant)
    (hnext : events.next (.clearReference slot) = some events') : events'.Invariant := by
  simp only [EventPlane.next, EventPlane.read, Option.map_eq_some_iff,
    Option.ite_none_right_eq_some] at hnext
  obtain ⟨-, ⟨hphase, ⟨outcome, plane⟩, hstep, rfl⟩, rfl⟩ := hnext
  obtain ⟨hplane, -⟩ := hinv.planeStep (.clearReference slot) hstep
  simp only [State.clearReference, Option.bind_eq_bind, Option.bind_eq_some_iff] at hstep
  obtain ⟨reader, hreader, ⟨cleared, shared⟩, hclear, hstep⟩ := hstep
  simp only [Option.some.injEq, Prod.mk.injEq] at hstep
  obtain ⟨-, rfl⟩ := hstep
  exact hinv.updateReader hreader hplane rfl rfl rfl rfl
    (hinv.continued_silent hreader hphase (Reader.continues_clearOwnReference hclear))

theorem storeReadIndex (hinv : events.Invariant)
    (hnext : events.next (.storeReadIndex slot) = some events') : events'.Invariant := by
  simp only [EventPlane.next, EventPlane.read, Option.map_eq_some_iff,
    Option.ite_none_right_eq_some] at hnext
  obtain ⟨-, ⟨hphase, ⟨outcome, plane⟩, hstep, rfl⟩, rfl⟩ := hnext
  obtain ⟨hplane, -⟩ := hinv.planeStep (.storeReadIndex slot) hstep
  simp only [State.storeReadIndex, Option.bind_eq_bind, Option.bind_eq_some_iff] at hstep
  obtain ⟨reader, hreader, ⟨stored, shared⟩, hstore, hstep⟩ := hstep
  simp only [Option.some.injEq, Prod.mk.injEq] at hstep
  obtain ⟨-, rfl⟩ := hstep
  exact hinv.updateReader hreader hplane rfl rfl rfl rfl
    (hinv.continued_silent hreader hphase (Reader.continues_storeOwnReadIndex hstore))

theorem signalSpace (hinv : events.Invariant)
    (hnext : events.next (.signalSpace slot) = some events') : events'.Invariant := by
  simp only [EventPlane.next, EventPlane.read, Option.map_eq_some_iff,
    Option.ite_none_right_eq_some] at hnext
  obtain ⟨-, ⟨hphase, ⟨outcome, plane⟩, hstep, rfl⟩, rfl⟩ := hnext
  obtain ⟨hplane, -⟩ := hinv.planeStep (.signalSpace slot) hstep
  simp only [State.signalSpace, Option.bind_eq_bind, Option.bind_eq_some_iff] at hstep
  obtain ⟨reader, hreader, ⟨signalled, spaceAvailable⟩, hsignal, hstep⟩ := hstep
  simp only [Option.some.injEq, Prod.mk.injEq] at hstep
  obtain ⟨-, rfl⟩ := hstep
  exact hinv.updateReader hreader hplane rfl rfl rfl rfl
    (hinv.continued_silent hreader hphase (Reader.continues_signalSpaceAvailable hsignal))

theorem returnChunk (hinv : events.Invariant)
    (hreturn : events.returnChunk slot = some events') : events'.Invariant := by
  simp only [EventPlane.returnChunk, EventPlane.read, Option.map_eq_some_iff,
    Option.ite_none_right_eq_some] at hreturn
  obtain ⟨-, ⟨hphase, ⟨outcome, plane⟩, hstep, rfl⟩, rfl⟩ := hreturn
  obtain ⟨hplane, hsound⟩ := hinv.planeStep (.returnChunk slot) hstep
  simp only [State.returnChunk, Option.bind_eq_bind, Option.bind_eq_some_iff] at hstep
  obtain ⟨reader, hreader, ⟨result, returned, shared⟩, hreturn, hstep⟩ := hstep
  simp only [Option.some.injEq, Prod.mk.injEq] at hstep
  obtain ⟨rfl, rfl⟩ := hstep
  cases result with
  | error => exact absurd hsound id
  | ok =>
      exact hinv.updateReader hreader hplane rfl rfl rfl rfl
        (hinv.continued_silent hreader hphase (Reader.continues_returnChunk hreturn))

theorem readPayload (hinv : events.Invariant)
    (hread : events.readPayload slot = some events') : events'.Invariant := by
  simp only [EventPlane.readPayload, EventPlane.read, Option.map_eq_some_iff,
    Option.ite_none_right_eq_some] at hread
  obtain ⟨-, ⟨hphase, ⟨outcome, plane⟩, hstep, rfl⟩, rfl⟩ := hread
  obtain ⟨hplane, hsound⟩ := hinv.planeStep (.readPayload slot) hstep
  simp only [State.readPayload, Option.bind_eq_bind, Option.bind_eq_some_iff] at hstep
  obtain ⟨reader, hreader, ⟨result, started⟩, hstart, hstep⟩ := hstep
  simp only [Option.some.injEq, Prod.mk.injEq] at hstep
  obtain ⟨rfl, rfl⟩ := hstep
  cases result with
  | ok payload =>
      obtain ⟨hcontinues, hmessages⟩ := Reader.continues_startIteration hstart
      exact hinv.updateSlot hreader hplane rfl rfl rfl (fun _ => rfl) (fun _ _ => rfl) rfl
        (hinv.continued hreader hphase hcontinues hmessages)
  | error fault =>
      refine hinv.updateSlot hreader hplane rfl rfl rfl (fun _ => rfl) (fun _ _ => rfl) rfl ?_
      obtain ⟨hidle, hmessages⟩ := Reader.startIteration_error hstart
      exact ⟨fun _ => hidle, hsound.2, by simp,
        (hinv.handler hreader).messages_eq.trans hmessages.symm⟩

/-! ### The event around it -/

/-- A step of a handler that leaves the data plane alone. -/
theorem updateHandler (hinv : events.Invariant) {reader : Reader} {handler : EventHandler}
    (hreader : events.plane.readers slot = some reader)
    (heventFd : handler.eventFd = (events.handlers slot).eventFd)
    (hhandler : HandlerInvariant events.plane.published (events.Signalled handler.eventFd)
      handler reader) : (events.setHandler slot handler).Invariant :=
  hinv.updateSlot hreader hinv.plane (update_reader hreader) rfl rfl (fun _ => rfl)
    (fun _ _ => rfl) heventFd hhandler

/-- A step of a handler to a phase other than `waiting`. -/
theorem updatePhase (hinv : events.Invariant) {reader : Reader} {phase : HandlerPhase}
    (hreader : events.plane.readers slot = some reader) (hwaiting : phase ≠ .waiting)
    (hidle : reader.phase = .idle)
    (hpromises : phase.Promises events.plane.published
      (events.Signalled (events.handlers slot).eventFd) reader) :
    (events.setPhase slot phase).Invariant :=
  hinv.updateHandler hreader rfl ⟨fun _ => hidle, hpromises, fun heq => absurd heq hwaiting,
    (hinv.handler hreader).messages_eq⟩

theorem drain (hinv : events.Invariant) (hdrain : events.drain slot = some events') :
    events'.Invariant := by
  unfold EventPlane.drain at hdrain
  dsimp only at hdrain
  split at hdrain
  next hwaiting =>
    obtain ⟨reader, hreader⟩ := Option.isSome_iff_exists.mp hwaiting.1
    obtain ⟨count, hcount⟩ := Option.isSome_iff_exists.mp (hinv.isSome_eventFd hreader)
    rw [drainEventfd, hcount] at hdrain
    simp only [Option.some.injEq] at hdrain
    obtain ⟨pool, hplane⟩ := hinv.plane
    have hopen : ∀ eventFd, (Function.update events.plane.eventFds
        (events.handlers slot).eventFd (some 0) eventFd).isSome =
          (events.plane.eventFds eventFd).isSome := by
      intro eventFd
      by_cases heq : eventFd = (events.handlers slot).eventFd
      · simp [heq, hcount]
      · simp [heq]
    have hhandler := hinv.handler hreader
    have hpromises := hhandler.promises
    rw [hwaiting.2] at hpromises
    rw [← hdrain]
    refine hinv.updateSlot hreader ⟨pool, hplane.setEventFds hopen⟩ (update_reader hreader)
      rfl rfl hopen (fun eventFd hne => Function.update_of_ne hne ..) rfl ?_
    exact ⟨fun _ => hhandler.resting (by simp [hwaiting.2]), hpromises.1, by simp,
      hhandler.messages_eq⟩
  next => cases hdrain

theorem initializeReadIndex (hinv : events.Invariant)
    (hnext : events.initializeReadIndex slot = some events') : events'.Invariant := by
  unfold EventPlane.initializeReadIndex at hnext
  split at hnext
  next reader hreader hphase =>
    simp only [Option.some.injEq] at hnext
    subst hnext
    obtain ⟨pool, hplane⟩ := hinv.plane
    have hhandler := hinv.handler hreader
    have hidle := hhandler.resting (by simp [hphase])
    have hpromises := hhandler.promises
    rw [hphase] at hpromises
    have hreader' := (hplane.reader hreader).setLocalIndex rfl
    rw [(hplane.reader hreader).initializeReadIndex]
    exact hinv.updateSlot hreader ⟨pool, hplane.moveReader hreader hreader' rfl rfl⟩ rfl rfl rfl
      (fun _ => rfl) (fun _ _ => rfl) rfl ⟨fun _ => hidle, ⟨hpromises, rfl⟩, by simp,
        hhandler.messages_eq⟩
  next => cases hnext

theorem load (hinv : events.Invariant) (hload : events.load slot = some events') :
    events'.Invariant := by
  unfold EventPlane.load at hload
  split at hload
  next reader hreader hphase =>
    obtain ⟨pool, hplane⟩ := hinv.plane
    have hrinv := hplane.reader hreader
    have hhandler := hinv.handler hreader
    have hidle := hhandler.resting (by simp [hphase])
    obtain ⟨hcopies, hlocal⟩ : reader.descRing = [] ∧
        reader.subscriberReadIndex = reader.cursor % kDescriptorSlotCount := by
      have hpromises := hhandler.promises
      rwa [hphase] at hpromises
    rw [hplane.ring.write_eq, hlocal] at hload
    split at hload
    next hwrapped =>
      cases hload
      obtain ⟨hlength, hcovered⟩ := hrinv.load_wrapped hidle hwrapped
      refine hinv.updatePhase hreader (by simp) hidle ?_
      rw [← hlocal] at hlength hcovered
      refine ⟨hlocal, ?_, le_rfl, hlength, hcovered⟩
      rw [hcopies, hlocal, List.length_nil, Nat.add_zero]
      exact (Nat.mod_lt _ (by decide)).le
    next hahead =>
      cases hload
      refine hinv.updatePhase hreader (by simp) hidle ⟨hlocal, ?_⟩
      rw [hcopies, Reader.next_of_idle hidle]
      exact hrinv.load_ahead hidle (Nat.not_lt.mp hahead)
  next => cases hload

theorem copy (hinv : events.Invariant) (hcopy : events.copy slot = some events') :
    events'.Invariant := by
  unfold EventPlane.copy at hcopy
  split at hcopy
  next reader stop hreader hphase =>
    obtain ⟨pool, hplane⟩ := hinv.plane
    have hhandler := hinv.handler hreader
    have hidle := hhandler.resting (by simp [hphase])
    have hpromises := hhandler.promises
    rw [hphase] at hpromises
    obtain ⟨hlocal, hcopied, hstop, hlength, hcovered⟩ := hpromises
    dsimp only at hcopy
    split at hcopy
    next hmore =>
      cases hcopy
      have hreader' := (hplane.reader hreader).copyDescriptor hplane.ring hidle hlocal
        (by omega) (by omega)
      refine hinv.updateReader hreader ⟨pool, hplane.moveReader hreader hreader' rfl rfl⟩ rfl rfl
        rfl rfl ⟨fun _ => hidle, ?_, by simp [hphase], hhandler.messages_eq⟩
      rw [hphase]
      refine ⟨hlocal, ?_, hstop, hlength, hcovered⟩
      dsimp only
      rw [List.length_append, List.length_singleton]
      omega
    next hdone =>
      cases hcopy
      refine hinv.updatePhase hreader (by simp) hidle ⟨hlocal, ?_⟩
      have hend : reader.next + reader.descRing.length =
          reader.cursor + (stop - reader.subscriberReadIndex) := by
        rw [Reader.next_of_idle hidle]
        omega
      rw [hend]
      exact hcovered
  next => cases hcopy

theorem reload (hinv : events.Invariant) (hreload : events.reload slot = some events') :
    events'.Invariant := by
  unfold EventPlane.reload at hreload
  split at hreload
  next reader hreader hphase =>
    obtain ⟨pool, hplane⟩ := hinv.plane
    have hrinv := hplane.reader hreader
    have hhandler := hinv.handler hreader
    obtain ⟨hlocal, hcovered⟩ : reader.subscriberReadIndex = reader.cursor % kDescriptorSlotCount ∧
        StopsCovered events.plane.published (events.Signalled (events.handlers slot).eventFd)
          (reader.next + reader.descRing.length) := by
      have hpromises := hhandler.promises
      rwa [hphase] at hpromises
    split at hreload
    next hended =>
      obtain ⟨hidle, hcopies⟩ := hended
      rw [Reader.next_of_idle hidle, hcopies, List.length_nil, Nat.add_zero] at hcovered
      dsimp only at hreload
      rw [hplane.ring.write_eq, hlocal] at hreload
      split at hreload
      next hahead =>
        cases hreload
        have hlength := hrinv.cursor_add hidle hahead.le
        refine hinv.updatePhase hreader (by simp) hidle ⟨hlocal, ?_, ?_, ?_, ?_⟩
        · rw [hcopies, List.length_nil, Nat.add_zero, hlocal]
          exact hahead.le
        · exact (Nat.mod_lt _ (by decide)).le
        · rw [hlocal, hlength]
        · rw [hlocal, hlength]
          exact stopsCovered_length
      next hbehind =>
        cases hreload
        refine hinv.updateHandler hreader rfl ⟨fun _ => hidle, ⟨hcopies, fun hunread =>
          hrinv.reload_covered hcovered (Nat.not_lt.mp hbehind) hunread⟩, fun _ => rfl, ?_⟩
        rw [← hhandler.messages_eq]
        simp
    next => cases hreload
  next => cases hreload

/-! ### The publisher -/

theorem store (hinv : events.Invariant) {payload : List Byte}
    (hstore : events.store payload = some events') : events'.Invariant := by
  unfold EventPlane.store at hstore
  split at hstore
  next hnone =>
    obtain ⟨pool, hplane⟩ := hinv.plane
    obtain ⟨pool', hplane'⟩ := hplane.store payload
    obtain ⟨hfds, hslots, hopen, hpublished⟩ := hplane.publish_effect payload
    have hwrite := hplane'.ring.write_eq
    dsimp only at hwrite hstore
    simp only [Option.some.injEq] at hstore
    subst hstore
    refine ⟨⟨pool', hplane'⟩, ?_, ?_, ?_⟩
    · intro eventFd hmem
      dsimp only at hmem ⊢
      split at hmem
      · cases hmem
      · exact hplane.tables.isSome_of_mem (hfds ▸ hmem)
    · intro slot reader hreader
      dsimp only
      rw [hslots]
      exact hinv.lookup hreader
    · intro slot reader hreader
      have hhandler := hinv.handler hreader
      have hmem : (events.handlers slot).eventFd ∈
          (events.plane.publish payload).2.publisher.dataAvailableEventFds := by
        rw [hfds]
        exact hplane.tables.mem_iff.mpr ⟨slot, hinv.lookup hreader⟩
      rcases hpublished with hsame | ⟨message, happended⟩
      · dsimp only
        rw [hsame]
        refine hhandler.mono (Or.imp_right fun hsignalling => ?_)
        rw [hnone] at hsignalling
        cases hsignalling
      · have hmoved : (events.plane.publish payload).2.shared.descriptorWriteIndex ≠
            events.plane.shared.descriptorWriteIndex := by
          rw [hwrite, hplane.ring.write_eq, happended, List.length_append, List.length_singleton]
          simp only [kDescriptorSlotCount]
          omega
        dsimp only
        rw [happended, if_neg hmoved]
        exact (hhandler.publish message).mono fun _ => .inr hmem
  next => cases hstore

theorem signal (hinv : events.Invariant) (hsignal : events.signal = some events') :
    events'.Invariant := by
  unfold EventPlane.signal at hsignal
  split at hsignal
  next => cases hsignal
  next eventFd signalling hsignalling =>
    obtain ⟨pool, hplane⟩ := hinv.plane
    have hopen := hinv.signalling eventFd (by simp [hsignalling])
    obtain ⟨eventFds, hsignalled, hsame, hreadable, hothers⟩ := signalEventfd_readable hopen
    rw [hsignalled] at hsignal
    simp only [Option.some.injEq] at hsignal
    subst hsignal
    refine ⟨⟨pool, hplane.setEventFds hsame⟩, fun other hmem => ?_, hinv.lookup, ?_⟩
    · exact (hsame other).trans (hinv.signalling other (by simp [hsignalling, hmem]))
    · intro slot reader hreader
      refine (hinv.handler hreader).mono ?_
      rintro (hpending | hmem)
      · exact .inl (hothers _ hpending)
      · rw [hsignalling] at hmem
        rcases List.mem_cons.mp hmem with heq | hrest
        · exact .inl (heq ▸ hreadable)
        · exact .inr hrest

/-- A tracked slot starts between events with everything read. -/
theorem handlerInvariant_registered (log : List Message) (signalled : Prop)
    (eventFd slot : ℕ) :
    HandlerInvariant log signalled (.registered eventFd) (Reader.attached slot log.length) :=
  ⟨fun _ => rfl, ⟨rfl, fun hlt => absurd hlt (lt_irrefl _)⟩, fun _ => rfl, rfl⟩

theorem track (hinv : events.Invariant) {eventFd : ℕ}
    (htrack : events.track eventFd slot = some events') : events'.Invariant := by
  unfold EventPlane.track at htrack
  split at htrack
  next hnone =>
    obtain ⟨pool, hplane⟩ := hinv.plane
    cases hstep : events.plane.track eventFd slot with
    | none =>
        rw [hstep] at htrack
        cases htrack
    | some result =>
        obtain ⟨outcome, plane⟩ := result
        rw [hstep] at htrack
        rcases hplane.track_effect hstep with ⟨⟨error, rfl⟩, rfl⟩ |
          ⟨rfl, hfresh, hreaders, hpublished, heventFds, hslots⟩
        · cases htrack
          exact hinv
        · simp only [Option.some.injEq] at htrack
          subst htrack
          obtain ⟨hplane', -⟩ := hinv.planeStep (.track eventFd slot) hstep
          have hne : ∀ {other reader}, events.plane.readers other = some reader →
              (events.handlers other).eventFd ≠ eventFd := by
            intro other reader hother heq
            have hopen := hinv.isSome_eventFd hother
            rw [heq, hfresh] at hopen
            cases hopen
          refine ⟨hplane', fun other hmem => ?_, ?_, ?_⟩
          · simp [EventPlane.setHandler, hnone] at hmem
          · intro other reader hother
            dsimp only [EventPlane.setHandler] at hother ⊢
            rw [hslots, UnorderedMap.lookup_insert]
            by_cases heq : other = slot
            · subst heq
              simp [EventHandler.registered]
            · rw [hreaders, Function.update_of_ne heq] at hother
              rw [Function.update_of_ne heq, if_neg (hne hother)]
              exact hinv.lookup hother
          · intro other reader hother
            dsimp only [EventPlane.setHandler] at hother ⊢
            rw [hpublished]
            by_cases heq : other = slot
            · subst heq
              rw [hreaders, Function.update_self, Option.some.injEq] at hother
              subst hother
              rw [Function.update_self]
              exact handlerInvariant_registered _ _ _ _
            · rw [hreaders, Function.update_of_ne heq] at hother
              rw [Function.update_of_ne heq]
              refine (hinv.handler hother).mono (Or.imp_left fun hpending => ?_)
              dsimp only
              rw [heventFds, Function.update_of_ne (hne hother)]
              exact hpending
  next => cases htrack

theorem reap (hinv : events.Invariant) (hreap : events.reap slot = some events') :
    events'.Invariant := by
  unfold EventPlane.reap at hreap
  split at hreap
  next hnone =>
    obtain ⟨⟨outcome, plane⟩, hstep, rfl⟩ := Option.map_eq_some_iff.mp hreap
    obtain ⟨pool, hplane⟩ := hinv.plane
    obtain ⟨hplane', -⟩ := hinv.planeStep (.reap slot) hstep
    obtain ⟨reader, pool', hreader, rfl, -, -⟩ := hplane.reap hstep
    simp only [State.reap, hreader, Option.some.injEq, Prod.mk.injEq, Outcome.reap.injEq] at hstep
    obtain ⟨herror, rfl⟩ := hstep
    obtain ⟨heventFds, hslots⟩ := reapDeadSubscribers_effect
      (Prod.ext herror rfl : reapDeadSubscribers events.plane.toPublisherProcess slot =
        (.none, (reapDeadSubscribers events.plane.toPublisherProcess slot).2))
    have hfound := hplane.tables.lookup_of_tracked (hplane.tracked_iff.mpr ⟨reader, hreader⟩)
    have hkept : ∀ {other otherReader}, Function.update events.plane.readers slot none other =
        some otherReader → events.plane.readers other = some otherReader ∧
          (events.handlers other).eventFd ≠
            events.plane.publisher.dataAvailableEventFdBySubscriberSlotIndex slot := by
      intro other otherReader hother
      have hne : other ≠ slot := by
        rintro rfl
        simp at hother
      rw [Function.update_of_ne hne] at hother
      refine ⟨hother, fun heq => hne ?_⟩
      have hlookup := hinv.lookup hother
      rw [heq, hfound, Option.some.injEq] at hlookup
      exact hlookup.symm
    refine ⟨hplane', fun other hmem => ?_, ?_, ?_⟩
    · dsimp only at hmem
      rw [hnone] at hmem
      cases hmem
    · intro other otherReader hother
      obtain ⟨hold, hne⟩ := hkept hother
      dsimp only
      rw [hslots, UnorderedMap.lookup_erase, if_neg hne]
      exact hinv.lookup hold
    · intro other otherReader hother
      obtain ⟨hold, hne⟩ := hkept hother
      refine (hinv.handler hold).mono (Or.imp_left fun hpending => ?_)
      dsimp only
      rw [heventFds, Function.update_of_ne hne]
      exact hpending
  next => cases hreap

/-- The step lemma. -/
theorem next (hinv : events.Invariant) {action : EventAction}
    (hnext : events.next action = some events') : events'.Invariant := by
  cases action with
  | store payload => exact hinv.store hnext
  | signal => exact hinv.signal hnext
  | track eventFd slot => exact hinv.track hnext
  | reap slot => exact hinv.reap hnext
  | drain slot => exact hinv.drain hnext
  | initializeReadIndex slot => exact hinv.initializeReadIndex hnext
  | load slot => exact hinv.load hnext
  | copy slot => exact hinv.copy hnext
  | readPayload slot => exact hinv.readPayload hnext
  | clearReference slot => exact hinv.clearReference hnext
  | storeReadIndex slot => exact hinv.storeReadIndex hnext
  | returnChunk slot => exact hinv.returnChunk hnext
  | signalSpace slot => exact hinv.signalSpace hnext
  | reload slot => exact hinv.reload hnext

end Invariant

end EventPlane

/-- The run lemma. -/
theorem eventPlane_invariant {mapped : SharedData} {events : EventPlane}
    (hreach : (eventPlane mapped).Reachable events) : events.Invariant := by
  refine hreach.invariant EventPlane.Invariant ⟨⟨_, Invariant.created mapped⟩, ?_, ?_, ?_⟩
    fun _ _ _ hinv _ hnext => hinv.next hnext
  · simp [eventPlane]
  · simp [eventPlane, State.created]
  · simp [eventPlane, State.created]

/-! ## Drained events -/

/-- No message stays unread behind a drained event: between events, with its eventfd drained
and not about to be signalled, a subscriber has read up to the write index.  The batches
that its events hand over are what has been published since it was tracked, in order and
without a gap or a repetition, and no event fails before the sequence numbers overflow. -/
theorem drained_event_leaves_nothing_unread {mapped : SharedData} {events : EventPlane}
    (hreach : (eventPlane mapped).Reachable events) {slot : ℕ} {reader : Reader}
    (hreader : events.plane.readers slot = some reader) :
    ((events.handlers slot).phase = .waiting →
      events.plane.eventFds (events.handlers slot).eventFd = some 0 →
      (events.handlers slot).eventFd ∉ events.signalling →
        events.plane.shared.descriptorReadIndices slot =
            events.plane.shared.descriptorWriteIndex ∧
          (reader.subscriberReadIndex ≠ kInvalidIndex →
            reader.subscriberReadIndex = events.plane.shared.descriptorWriteIndex)) ∧
      (events.handlers slot).handedOver.flatten ++ (events.handlers slot).messages =
        reader.delivered events.plane.published reader.next ∧
      ((events.handlers slot).phase = .failed → 2 ^ 31 ≤ events.plane.published.length) := by
  have hinv := eventPlane_invariant hreach
  obtain ⟨pool, hplane⟩ := hinv.plane
  have hrinv := hplane.reader hreader
  have hhandler := hinv.handler hreader
  have hpromises := hhandler.promises
  refine ⟨fun hwaiting hdrained hquiet => ?_, hhandler.messages_eq.trans hrinv.messages_eq,
    fun hfailed => ?_⟩
  · rw [hwaiting] at hpromises
    have hidle := hhandler.resting (by simp [hwaiting])
    have hsilent : ¬events.Signalled (events.handlers slot).eventFd := by
      rintro (hpending | hmem)
      · rw [hdrained] at hpending
        cases hpending
      · exact hquiet hmem
    have hcursor : reader.cursor = events.plane.published.length :=
      (hrinv.cursor_le hidle).antisymm (Nat.not_lt.mp fun hunread =>
        hsilent (hpromises.2 hunread))
    rw [hrinv.readIndex_eq, hplane.ring.write_eq, hcursor]
    refine ⟨rfl, fun hvalid => ?_⟩
    rw [← hcursor]
    exact hrinv.localIndex.resolve_right fun hinvalid => hvalid hinvalid.1
  · rwa [hfailed] at hpromises

/-- A message that is published while an event is being handled is read by this event, and
its signal starts another one that finds nothing. -/
def overlappingEventActions : List EventAction :=
  [.track 7 0, .store [1, 2, 3], .signal, .drain 0, .initializeReadIndex 0, .load 0, .reload 0,
    .copy 0, .copy 0, .readPayload 0, .store [4, 5], .clearReference 0, .storeReadIndex 0,
    .returnChunk 0, .signalSpace 0, .signal, .reload 0, .copy 0, .copy 0, .readPayload 0,
    .clearReference 0, .storeReadIndex 0, .returnChunk 0, .signalSpace 0, .reload 0, .drain 0,
    .initializeReadIndex 0, .load 0, .reload 0]

theorem drained_event_leaves_nothing_unread_overlapping : ∃ events reader,
    (eventPlane zeroedMapping).Reachable events ∧ events.plane.readers 0 = some reader ∧
    (events.handlers 0).handedOver = [[[1, 2, 3], [4, 5]], []] ∧
    events.plane.shared.descriptorReadIndices 0 = events.plane.shared.descriptorWriteIndex := by
  have hphase : ((eventPlane zeroedMapping).run (eventPlane zeroedMapping).initial
      overlappingEventActions).map (fun events => ((events.plane.readers 0).isSome,
        (events.handlers 0).phase, events.plane.eventFds (events.handlers 0).eventFd)) =
      some (true, .waiting, some 0) := by decide +kernel
  have hbatches : ((eventPlane zeroedMapping).run (eventPlane zeroedMapping).initial
      overlappingEventActions).map (fun events =>
        (events.signalling, (events.handlers 0).handedOver)) =
      some ([], [[[1, 2, 3], [4, 5]], []]) := by decide +kernel
  obtain ⟨events, hrun, hevents⟩ := Option.map_eq_some_iff.mp hphase
  rw [hrun, Option.map_some, Option.some.injEq] at hbatches
  simp only [Prod.mk.injEq, Option.isSome_iff_exists] at hevents hbatches
  obtain ⟨⟨reader, hreader⟩, hwaiting, hdrained⟩ := hevents
  obtain ⟨hsignalling, hhanded⟩ := hbatches
  have hreach : (eventPlane zeroedMapping).Reachable events :=
    System.ReachableWith.initial.run (fun _ _ _ => trivial) hrun
  obtain ⟨hread, -, -⟩ := drained_event_leaves_nothing_unread hreach hreader
  exact ⟨events, reader, hreach, hreader, hhanded,
    (hread hwaiting hdrained (by simp [hsignalling])).1⟩

end DriveBus.SharedMemory
