import DriveBus.Asynchronous.SubscriberWorker
import DriveBus.SharedMemory.Delivery

/-!
# A sleeping subscriber has missed nothing

Whatever is pending is noted by epoll or in the batch: the edge-triggered reports, the drain
before each handling, the readable eventfds that are added, and the batch that a move keeps
fit together.  So a worker that sleeps in `epoll_wait` has handed over everything that was
published for it, has received every record, and has no stop before it.
-/

namespace DriveBus.Asynchronous.Subscriber

open DriveBus.EdgeTrigger DriveBus.SharedMemory DriveBus.Transition DriveBus.UnorderedMap

namespace Worker

/-! ## The invariant -/

/-- The attachments are in different slots with different eventfds, and these belong to
them. -/
structure Places (worker : Worker) : Prop where
  planes : ∀ publisher, (worker.planes publisher).Invariant
  allotted : ∀ {id attachment}, worker.attachments.lookup id = some attachment →
    id < worker.nextAttachmentId
  distinct : ∀ {id id' attachment attachment'},
    worker.attachments.lookup id = some attachment →
    worker.attachments.lookup id' = some attachment' →
    attachment.publisher = attachment'.publisher →
    attachment.slotIndex = attachment'.slotIndex ∨
      attachment.dataAvailableEventFd = attachment'.dataAvailableEventFd → id = id'
  bound : ∀ {id attachment}, worker.attachments.lookup id = some attachment →
    (worker.planes attachment.publisher).Bound attachment.slotIndex
      attachment.dataAvailableEventFd

/-- The publisher has tracked the attachment. -/
def Tracked (worker : Worker) (attachment : Attachment) : Prop :=
  ((worker.planes attachment.publisher).plane.readers attachment.slotIndex).isSome

def handlerPhase (worker : Worker) (attachment : Attachment) : HandlerPhase :=
  ((worker.planes attachment.publisher).handlers attachment.slotIndex).phase

/-- At most the attachment whose event is being handled does not wait. -/
structure HandlesOne (worker : Worker) : Prop where
  rests : ∀ {id attachment}, worker.attachments.lookup id = some attachment →
    worker.Tracked attachment → worker.handlerPhase attachment ≠ .waiting →
      worker.phase = .handling id ∨ worker.phase = .failed
  handles : ∀ {id}, worker.phase = .handling id → ∃ attachment,
    worker.attachments.lookup id = some attachment ∧ worker.Tracked attachment ∧
      worker.handlerPhase attachment ≠ .waiting ∧ worker.handlerPhase attachment ≠ .failed

/-- A data event of the batch is that of an attachment that has been tracked, or of one that
is gone for good. -/
structure Reports (worker : Worker) : Prop where
  nodup : worker.poll.batch.Nodup
  allotted : ∀ {id}, .attachment id ∈ worker.poll.batch → id < worker.nextAttachmentId
  tracked : ∀ {id attachment}, .attachment id ∈ worker.poll.batch →
    worker.attachments.lookup id = some attachment → worker.Tracked attachment

/-- The shutdown event comes from `stop_run_thread` alone, and a worker that ends on it leaves
nothing of it behind. -/
structure StopsOnce (worker : Worker) : Prop where
  requested : worker.stopping = false → worker.shutdownSignalled = false ∧
    .shutdown ∉ worker.poll.batch ∧ worker.phase ≠ .stopped
  signalled : worker.stopping = true → worker.Active → worker.shutdownSignalled = true
  stopped : worker.phase = .stopped → worker.shutdownSignalled = false ∧
    .shutdown ∉ worker.poll.batch

/-- What the worker has still to handle. -/
def Pending (worker : Worker) : EventId → Prop
  | .broker => worker.inbox ≠ [] ∧ worker.phase ≠ .receiving ∧ worker.phase ≠ .failed
  | .shutdown => worker.shutdownSignalled = true ∧ worker.phase ≠ .failed
  | .attachment id => worker.reportable (.attachment id) = true

structure Invariant (worker : Worker) : Prop where
  places : worker.Places
  handlesOne : worker.HandlesOne
  reports : worker.Reports
  stopsOnce : worker.StopsOnce
  covered : worker.poll.Covers worker.Pending

variable {worker worker' : Worker}

/-- The end of a batch of records or of a data event, or a failure, makes nothing pending. -/
theorem Pending.of_phase {phase : Phase} {source : EventId}
    (hphase : phase = .failed ∨ worker.phase ≠ .receiving ∧ worker.phase ≠ .failed)
    (hpending : { worker with phase }.Pending source) : worker.Pending source := by
  cases source with
  | broker =>
      obtain ⟨hinbox, -, hfailed⟩ := hpending
      exact ⟨hinbox, hphase.resolve_left hfailed⟩
  | shutdown => exact ⟨hpending.1, (hphase.resolve_left hpending.2).2⟩
  | attachment id => exact hpending

theorem pending_reportable {source : EventId} (hpending : worker.Pending source) :
    worker.reportable source = true := by
  cases source with
  | broker => exact decide_eq_true hpending.1
  | shutdown => exact hpending.1
  | attachment id => exact hpending

/-! ## Steps of the data planes -/

section Planes

variable {publisher : ℕ} {events : EventPlane}

theorem setPlane_planes_self (worker : Worker) (publisher : ℕ) (events : EventPlane) :
    (worker.setPlane publisher events).planes publisher = events :=
  Function.update_self _ _ _

theorem setPlane_planes_ne (worker : Worker) {publisher other : ℕ} (events : EventPlane)
    (hne : other ≠ publisher) :
    (worker.setPlane publisher events).planes other = worker.planes other :=
  Function.update_of_ne hne _ _

/-- What becomes pending has been written to. -/
theorem covers_setPlane {pending : EventId → Prop} (hcovered : worker.poll.Covers pending)
    (hpending : ∀ source, (worker.setPlane publisher events).Pending source →
      worker.Pending source → pending source) :
    (worker.setPlane publisher events).poll.Covers
      (worker.setPlane publisher events).Pending := by
  refine hcovered.raise fun source hnew => ?_
  have hkept := hpending source hnew
  cases source with
  | broker => exact .inl (hkept hnew)
  | shutdown => exact .inl (hkept hnew)
  | attachment id =>
      cases hlookup : worker.attachments.lookup id with
      | none =>
          change ((worker.attachments.lookup id).any _) = true at hnew
          rw [hlookup] at hnew
          cases hnew
      | some attachment =>
          change ((worker.attachments.lookup id).any _) = true at hnew
          rw [hlookup, Option.any_some, Bool.and_eq_true] at hnew
          obtain ⟨hinstalled, hreadable⟩ := hnew
          by_cases hsame : ((worker.setPlane publisher events).planes
              attachment.publisher).plane.eventFds attachment.dataAvailableEventFd =
                (worker.planes attachment.publisher).plane.eventFds
                  attachment.dataAvailableEventFd
          · refine .inl (hkept ?_)
            change ((worker.attachments.lookup id).any _) = true
            rw [hlookup, Option.any_some, hinstalled, Bool.true_and, readable, ← hsame]
            exact hreadable
          · refine .inr ?_
            dsimp only
            rw [hlookup, Option.any_some, hinstalled, Bool.true_and]
            exact decide_eq_true hsame

theorem spared_setPlane {attachment : Attachment}
    (hbound : (worker.planes attachment.publisher).Bound attachment.slotIndex
      attachment.dataAvailableEventFd)
    (hspared : attachment.publisher = publisher → EventPlane.Spared (worker.planes publisher)
      events attachment.slotIndex attachment.dataAvailableEventFd) :
    EventPlane.Spared (worker.planes attachment.publisher)
      ((worker.setPlane publisher events).planes attachment.publisher) attachment.slotIndex
      attachment.dataAvailableEventFd := by
  by_cases heq : attachment.publisher = publisher
  · rw [heq, setPlane_planes_self]
    exact hspared heq
  · rw [setPlane_planes_ne worker events heq]
    exact hbound.spared_of_same rfl rfl id

theorem Places.setPlane (hplaces : worker.Places) (hevents : events.Invariant)
    (hbound : ∀ {id attachment}, worker.attachments.lookup id = some attachment →
      attachment.publisher = publisher →
        events.Bound attachment.slotIndex attachment.dataAvailableEventFd) :
    (worker.setPlane publisher events).Places where
  planes other := by
    by_cases heq : other = publisher
    · rw [heq, setPlane_planes_self]
      exact hevents
    · rw [setPlane_planes_ne worker events heq]
      exact hplaces.planes other
  allotted := hplaces.allotted
  distinct := hplaces.distinct
  bound := by
    intro id attachment hlookup
    by_cases heq : attachment.publisher = publisher
    · rw [heq, setPlane_planes_self]
      exact hbound hlookup heq
    · rw [setPlane_planes_ne worker events heq]
      exact hplaces.bound hlookup

/-- An attachment that a step spares keeps waiting, or being handled. -/
theorem tracked_of_spared {attachment : Attachment}
    (hspared : EventPlane.Spared (worker.planes attachment.publisher)
      (worker'.planes attachment.publisher) attachment.slotIndex
      attachment.dataAvailableEventFd) (htracked : worker.Tracked attachment) :
    worker'.Tracked attachment ∧
      worker'.handlerPhase attachment = worker.handlerPhase attachment := by
  obtain ⟨hreaders, hhandlers⟩ := hspared.tracked htracked
  exact ⟨(congrArg Option.isSome hreaders).trans htracked, congrArg EventHandler.phase hhandlers⟩

theorem handled_of_spared {attachment : Attachment}
    (hspared : EventPlane.Spared (worker.planes attachment.publisher)
      (worker'.planes attachment.publisher) attachment.slotIndex
      attachment.dataAvailableEventFd) (htracked' : worker'.Tracked attachment)
    (hphase' : worker'.handlerPhase attachment ≠ .waiting) :
    worker.Tracked attachment ∧ worker.handlerPhase attachment ≠ .waiting := by
  by_cases htracked : worker.Tracked attachment
  · exact ⟨htracked, (tracked_of_spared hspared htracked).2 ▸ hphase'⟩
  · have hnone := Option.not_isSome_iff_eq_none.mp htracked
    exact absurd (hspared.waiting hnone htracked') hphase'

/-- A step elsewhere. -/
theorem HandlesOne.of_spared (hhandles : worker.HandlesOne)
    (hattachments : worker'.attachments = worker.attachments)
    (hphase : worker'.phase = worker.phase)
    (hspared : ∀ {id attachment}, worker.attachments.lookup id = some attachment →
      EventPlane.Spared (worker.planes attachment.publisher)
        (worker'.planes attachment.publisher) attachment.slotIndex
        attachment.dataAvailableEventFd) : worker'.HandlesOne where
  rests hlookup htracked' hwaiting' := by
    rw [hattachments] at hlookup
    obtain ⟨htracked, hwaiting⟩ := handled_of_spared (hspared hlookup) htracked' hwaiting'
    rw [hphase]
    exact hhandles.rests hlookup htracked hwaiting
  handles hhandling := by
    rw [hphase] at hhandling
    obtain ⟨attachment, hlookup, htracked, hwaiting, hfailed⟩ := hhandles.handles hhandling
    obtain ⟨htracked', hsame⟩ := tracked_of_spared (hspared hlookup) htracked
    rw [hattachments]
    exact ⟨attachment, hlookup, htracked', hsame ▸ hwaiting, hsame ▸ hfailed⟩

theorem Reports.of_spared (hreports : worker.Reports)
    (hattachments : worker'.attachments = worker.attachments)
    (hnext : worker'.nextAttachmentId = worker.nextAttachmentId)
    (hbatch : worker'.poll.batch <:+ worker.poll.batch)
    (hspared : ∀ {id attachment}, worker.attachments.lookup id = some attachment →
      EventPlane.Spared (worker.planes attachment.publisher)
        (worker'.planes attachment.publisher) attachment.slotIndex
        attachment.dataAvailableEventFd) : worker'.Reports where
  nodup := hreports.nodup.sublist hbatch.sublist
  allotted hmem := hnext ▸ hreports.allotted (hbatch.mem hmem)
  tracked hmem hlookup := by
    rw [hattachments] at hlookup
    exact (tracked_of_spared (hspared hlookup) (hreports.tracked (hbatch.mem hmem) hlookup)).1

end Planes

/-! ## Steps of a data event -/

/-- A step of the worker in one of its slots. -/
structure StepsOn (worker worker' : Worker) (id : ℕ) (attachment : Attachment) : Prop where
  lookup : worker.attachments.lookup id = some attachment
  attachments : worker'.attachments = worker.attachments
  tracked : worker'.Tracked attachment
  others : ∀ {other attachment'}, worker.attachments.lookup other = some attachment' →
    other ≠ id → EventPlane.Spared (worker.planes attachment'.publisher)
      (worker'.planes attachment'.publisher) attachment'.slotIndex
      attachment'.dataAvailableEventFd
  places : worker.Places → worker'.Places

theorem Places.stepsOn (hplaces : worker.Places) {id : ℕ} {attachment : Attachment}
    (hlookup : worker.attachments.lookup id = some attachment) (action : EventAction)
    (hconsumer : action.consumer = some attachment.slotIndex) {events : EventPlane}
    (hnext : (worker.planes attachment.publisher).next action = some events) :
    worker.StepsOn (worker.setPlane attachment.publisher events) id attachment := by
  have hsteps := EventPlane.next_stepsAt hconsumer hnext
  have hplane := hplaces.planes attachment.publisher
  have hstep : ∀ {other attachment'}, worker.attachments.lookup other = some attachment' →
      other ≠ id → attachment'.publisher = attachment.publisher →
      EventPlane.Spared (worker.planes attachment.publisher) events attachment'.slotIndex
        attachment'.dataAvailableEventFd := by
    intro other attachment' hother hne hpublisher
    have hbound := hplaces.bound hother
    rw [hpublisher] at hbound
    refine hplane.next_spared hbound (EventAction.spares_of_consumer hconsumer fun heq => ?_)
      hnext
    exact hne (hplaces.distinct hother hlookup hpublisher (.inl heq.symm))
  refine ⟨hlookup, rfl, ?_, fun hother hne => ?_, fun _ => ?_⟩
  · rw [Tracked, setPlane_planes_self]
    exact hsteps.reader'
  · exact spared_setPlane (hplaces.bound hother) (hstep hother hne)
  · refine hplaces.setPlane (hplane.next hnext) fun {other attachment'} hother hpublisher => ?_
    by_cases heq : other = id
    · subst heq
      obtain rfl := Option.some.inj (hother.symm.trans hlookup)
      obtain ⟨hnone, -⟩ | ⟨-, hfd⟩ := hplaces.bound hlookup
      · have hreader := hsteps.reader
        rw [hnone] at hreader
        cases hreader
      · exact .inr ⟨hsteps.reader', hsteps.eventFd.trans hfd⟩
    · exact (hstep hother heq hpublisher).bound

section Step

variable {id : ℕ} {attachment : Attachment}

theorem StepsOn.setPhase (hsteps : worker.StepsOn worker' id attachment) (phase : Phase) :
    worker.StepsOn { worker' with phase } id attachment where
  lookup := hsteps.lookup
  attachments := hsteps.attachments
  tracked := hsteps.tracked
  others := hsteps.others
  places hplaces :=
    let hplaces' := hsteps.places hplaces
    ⟨hplaces'.planes, hplaces'.allotted, hplaces'.distinct, hplaces'.bound⟩

/-- Only the event of this attachment may be under way. -/
theorem StepsOn.handlesOne (hsteps : worker.StepsOn worker' id attachment)
    (hhandles : worker.HandlesOne) (hfailed : worker.phase ≠ .failed)
    (honly : ∀ other, worker.phase = .handling other → other = id)
    (hnew : worker'.handlerPhase attachment = .waiting ∧
        (∀ other, worker'.phase ≠ .handling other) ∨
      worker'.phase = .failed ∨
      worker'.phase = .handling id ∧ worker'.handlerPhase attachment ≠ .waiting ∧
        worker'.handlerPhase attachment ≠ .failed) : worker'.HandlesOne where
  rests := by
    intro other attachment' hlookup htracked' hwaiting'
    rw [hsteps.attachments] at hlookup
    by_cases heq : other = id
    · subst heq
      obtain rfl := Option.some.inj (hlookup.symm.trans hsteps.lookup)
      obtain ⟨hwaiting, -⟩ | hend | ⟨hhandling, -⟩ := hnew
      · exact absurd hwaiting hwaiting'
      · exact .inr hend
      · exact .inl hhandling
    · obtain ⟨htracked, hwaiting⟩ :=
        handled_of_spared (hsteps.others hlookup heq) htracked' hwaiting'
      obtain hhandling | hend := hhandles.rests hlookup htracked hwaiting
      · exact absurd (honly other hhandling) heq
      · exact absurd hend hfailed
  handles := by
    intro other hhandling
    obtain ⟨-, hnone⟩ | hend | ⟨hphase, hwaiting, hnot⟩ := hnew
    · exact absurd hhandling (hnone other)
    · rw [hend] at hhandling
      cases hhandling
    · rw [hphase] at hhandling
      obtain rfl := Phase.handling.inj hhandling
      exact ⟨attachment, hsteps.attachments ▸ hsteps.lookup, hsteps.tracked, hwaiting, hnot⟩

theorem StepsOn.reports (hsteps : worker.StepsOn worker' id attachment)
    (hreports : worker.Reports) (hnext : worker'.nextAttachmentId = worker.nextAttachmentId)
    (hbatch : worker'.poll.batch <:+ worker.poll.batch) : worker'.Reports where
  nodup := hreports.nodup.sublist hbatch.sublist
  allotted hmem := hnext ▸ hreports.allotted (hbatch.mem hmem)
  tracked := by
    intro other attachment' hmem hlookup
    rw [hsteps.attachments] at hlookup
    by_cases heq : other = id
    · subst heq
      obtain rfl := Option.some.inj (hlookup.symm.trans hsteps.lookup)
      exact hsteps.tracked
    · exact (tracked_of_spared (hsteps.others hlookup heq)
        (hreports.tracked (hbatch.mem hmem) hlookup)).1

end Step

/-- Between two events everything waits, and goes on to wait. -/
theorem HandlesOne.between (hhandles : worker.HandlesOne)
    (hattachments : ∀ {id attachment}, worker'.attachments.lookup id = some attachment →
      worker'.Tracked attachment → ∃ attachment', worker.attachments.lookup id = some attachment' ∧
        worker.Tracked attachment' ∧
          worker.handlerPhase attachment' = worker'.handlerPhase attachment)
    (hphase : ∀ id, worker.phase ≠ .handling id) (hfailed : worker.phase ≠ .failed)
    (hphase' : ∀ id, worker'.phase ≠ .handling id) : worker'.HandlesOne where
  rests hlookup htracked hwaiting := by
    obtain ⟨attachment', hlookup', htracked', hsame⟩ := hattachments hlookup htracked
    obtain hhandling | hend := hhandles.rests hlookup' htracked' (hsame ▸ hwaiting)
    · exact absurd hhandling (hphase _)
    · exact absurd hend hfailed
  handles hhandling := absurd hhandling (hphase' _)

/-- The attachments are among the old ones, with the same places. -/
def KeepsPlaces (worker worker' : Worker) : Prop :=
  ∀ {id attachment'}, worker'.attachments.lookup id = some attachment' →
    ∃ attachment, worker.attachments.lookup id = some attachment ∧
      attachment.publisher = attachment'.publisher ∧
      attachment.slotIndex = attachment'.slotIndex ∧
      attachment.dataAvailableEventFd = attachment'.dataAvailableEventFd

section KeepsPlaces

variable (hkeeps : worker.KeepsPlaces worker') (hplanes : worker'.planes = worker.planes)

include hkeeps hplanes

theorem KeepsPlaces.places (hnext : worker'.nextAttachmentId = worker.nextAttachmentId)
    (hplaces : worker.Places) : worker'.Places where
  planes := hplanes ▸ hplaces.planes
  allotted hlookup' := by
    obtain ⟨attachment, hlookup, -⟩ := hkeeps hlookup'
    rw [hnext]
    exact hplaces.allotted hlookup
  distinct hlookup' hother' hpublisher hplace := by
    obtain ⟨attachment, hlookup, heq, hslot, hfd⟩ := hkeeps hlookup'
    obtain ⟨other, hother, heq', hslot', hfd'⟩ := hkeeps hother'
    rw [← heq, ← heq'] at hpublisher
    rw [← hslot, ← hslot', ← hfd, ← hfd'] at hplace
    exact hplaces.distinct hlookup hother hpublisher hplace
  bound hlookup' := by
    obtain ⟨attachment, hlookup, heq, hslot, hfd⟩ := hkeeps hlookup'
    rw [hplanes, ← heq, ← hslot, ← hfd]
    exact hplaces.bound hlookup

/-- A control record is received between two data events. -/
theorem KeepsPlaces.handlesOne (hhandles : worker.HandlesOne)
    (hphase : ∀ id, worker.phase ≠ .handling id) (hfailed : worker.phase ≠ .failed)
    (hphase' : ∀ id, worker'.phase ≠ .handling id) : worker'.HandlesOne :=
  hhandles.between (fun hlookup' htracked' => by
    obtain ⟨attachment, hlookup, heq, hslot, -⟩ := hkeeps hlookup'
    rw [Tracked, hplanes, ← heq, ← hslot] at htracked'
    refine ⟨attachment, hlookup, htracked', ?_⟩
    rw [handlerPhase, handlerPhase, hplanes, heq, hslot]) hphase hfailed hphase'

theorem KeepsPlaces.reports (hreports : worker.Reports)
    (hnext : worker'.nextAttachmentId = worker.nextAttachmentId)
    (hbatch : worker'.poll.batch = worker.poll.batch) : worker'.Reports where
  nodup := hbatch ▸ hreports.nodup
  allotted hmem := hnext ▸ hreports.allotted (hbatch ▸ hmem)
  tracked hmem hlookup' := by
    obtain ⟨attachment, hlookup, heq, hslot, -⟩ := hkeeps hlookup'
    have htracked := hreports.tracked (hbatch ▸ hmem) hlookup
    rwa [Tracked, heq, hslot, ← hplanes] at htracked

end KeepsPlaces

theorem handlesOne_failed (hphase : worker.phase = .failed) : worker.HandlesOne where
  rests _ _ _ := .inr hphase
  handles hhandling := by
    rw [hphase] at hhandling
    cases hhandling

/-- A worker that has not ended goes on, or fails. -/
theorem StopsOnce.of_active (hstops : worker.StopsOnce) (hactive : worker.Active)
    (hstopping : worker'.stopping = worker.stopping)
    (hsignalled : worker'.shutdownSignalled = worker.shutdownSignalled)
    (hbatch : worker'.poll.batch <:+ worker.poll.batch) (hphase : worker'.phase ≠ .stopped) :
    worker'.StopsOnce where
  requested hnot := by
    rw [hstopping] at hnot
    obtain ⟨hsilent, hmem, -⟩ := hstops.requested hnot
    exact ⟨hsignalled.trans hsilent, fun hlater => hmem (hbatch.mem hlater), hphase⟩
  signalled hstop _ := by
    rw [hsignalled]
    exact hstops.signalled (hstopping ▸ hstop) hactive
  stopped hend := absurd hend hphase

namespace Invariant

/-- A step of a publisher or of another one of its subscribers. -/
theorem plane (hinv : worker.Invariant) {publisher : ℕ} {action : EventAction}
    (hnext : worker.next (.plane publisher action) = some worker') : worker'.Invariant := by
  rw [Worker.next, Option.ite_none_right_eq_some] at hnext
  obtain ⟨hspares, hnext⟩ := hnext
  obtain ⟨events, hevents, rfl⟩ := Option.map_eq_some_iff.mp hnext
  have hplane := hinv.places.planes publisher
  have hstep : ∀ {id attachment}, worker.attachments.lookup id = some attachment →
      attachment.publisher = publisher → EventPlane.Spared (worker.planes publisher) events
        attachment.slotIndex attachment.dataAvailableEventFd := by
    rintro id attachment hlookup rfl
    exact hplane.next_spared (hinv.places.bound hlookup)
      (hspares ⟨id, attachment⟩ (AList.mem_lookup_iff.mp hlookup) rfl) hevents
  have hspared : ∀ {id attachment}, worker.attachments.lookup id = some attachment →
      EventPlane.Spared (worker.planes attachment.publisher)
        ((worker.setPlane publisher events).planes attachment.publisher) attachment.slotIndex
        attachment.dataAvailableEventFd :=
    fun hlookup => spared_setPlane (hinv.places.bound hlookup) (hstep hlookup)
  exact ⟨hinv.places.setPlane (hplane.next hevents) fun hlookup heq => (hstep hlookup heq).bound,
    hinv.handlesOne.of_spared rfl rfl hspared,
    hinv.reports.of_spared rfl rfl (List.suffix_refl _) hspared,
    ⟨hinv.stopsOnce.requested, hinv.stopsOnce.signalled, hinv.stopsOnce.stopped⟩,
    covers_setPlane hinv.covered fun _ _ => id⟩

/-- An access of the data event that is being handled. -/
theorem handle (hinv : worker.Invariant) {action : EventAction}
    (hnext : worker.handle action = some worker') : worker'.Invariant := by
  unfold Worker.handle at hnext
  split at hnext
  next id hphase =>
    obtain ⟨attachment, hlookup, hnext⟩ := Option.bind_eq_some_iff.mp hnext
    rw [Option.ite_none_right_eq_some] at hnext
    obtain ⟨hhandles, hnext⟩ := hnext
    obtain ⟨events, hevents, rfl⟩ := Option.map_eq_some_iff.mp hnext
    have hsteps := hinv.places.stepsOn hlookup action
      (EventAction.consumer_of_handles hhandles) hevents
    have hactive : worker.Active := by simp [Active, hphase]
    have hpost : ∀ phase : Phase, phase ≠ .stopped →
        ((events.handlers attachment.slotIndex).phase = .waiting ∧
            (∀ other, phase ≠ .handling other) ∨ phase = .failed ∨
          phase = .handling id ∧ (events.handlers attachment.slotIndex).phase ≠ .waiting ∧
            (events.handlers attachment.slotIndex).phase ≠ .failed) →
        ({ worker.setPlane attachment.publisher events with phase } : Worker).Invariant := by
      intro phase hstopped hnew
      have hself : (worker.setPlane attachment.publisher events).handlerPhase attachment =
          (events.handlers attachment.slotIndex).phase := by
        rw [handlerPhase, setPlane_planes_self]
      rw [← hself] at hnew
      have hsteps' := hsteps.setPhase phase
      refine ⟨hsteps'.places hinv.places, hsteps'.handlesOne hinv.handlesOne (by simp [hphase])
        (fun other heq => ?_) hnew, hsteps'.reports hinv.reports rfl (List.suffix_refl _),
        hinv.stopsOnce.of_active hactive rfl rfl (List.suffix_refl _) hstopped, ?_⟩
      · rw [hphase] at heq
        exact (Phase.handling.inj heq).symm
      · refine (covers_setPlane hinv.covered fun _ _ hkept => hkept).mono
          fun source hpending => ?_
        exact hpending.of_phase (.inr ⟨by simp [Worker.setPlane, hphase],
          by simp [Worker.setPlane, hphase]⟩)
    dsimp only
    split
    next hwaiting => exact hpost _ (by simp) (.inl ⟨hwaiting, by simp⟩)
    next => exact hpost _ (by simp) (.inr (.inl rfl))
    next hwaiting hfailed => exact hpost _ (by simp) (.inr (.inr ⟨rfl, hwaiting, hfailed⟩))
  · cases hnext

/-- Steps that leave the attachments and the data planes alone. -/
theorem reports_of_batch (hinv : worker.Invariant) {poll : Poll EventId}
    (hbatch : poll.batch <:+ worker.poll.batch) : { worker with poll }.Reports :=
  hinv.reports.of_spared rfl rfl hbatch fun hlookup =>
    (hinv.places.bound hlookup).spared_of_same rfl rfl fun hnone => hnone

/-- A data event whose attachment is there begins with its drain. -/
theorem dispatchData (hinv : worker.Invariant) (hphase : worker.phase = .running) {id : ℕ}
    {rest : List EventId} (hbatch : worker.poll.batch = .attachment id :: rest)
    {attachment : Attachment} (hlookup : worker.attachments.lookup id = some attachment)
    {events : EventPlane}
    (hdrain : (worker.planes attachment.publisher).drain attachment.slotIndex = some events)
    {phase : Phase} (hphase' : phase = .failed ∨ phase = .handling id ∧
      (events.handlers attachment.slotIndex).phase ≠ .failed) :
    ({ ({ worker with poll := worker.poll.advance } : Worker).setPlane attachment.publisher
      events with phase } : Worker).Invariant := by
  have hactive : worker.Active := by simp [Active, hphase]
  have hsuffix : worker.poll.advance.batch <:+ worker.poll.batch := List.tail_suffix _
  have hplaces : ({ worker with poll := worker.poll.advance } : Worker).Places :=
    ⟨hinv.places.planes, hinv.places.allotted, hinv.places.distinct, hinv.places.bound⟩
  have hhandles : ({ worker with poll := worker.poll.advance } : Worker).HandlesOne :=
    ⟨hinv.handlesOne.rests, hinv.handlesOne.handles⟩
  have hsteps := (hplaces.stepsOn hlookup (.drain attachment.slotIndex) rfl
    hdrain).setPhase phase
  have hself : ({ ({ worker with poll := worker.poll.advance } : Worker).setPlane
      attachment.publisher events with phase } : Worker).handlerPhase attachment =
      (events.handlers attachment.slotIndex).phase := by
    rw [handlerPhase]
    exact congrArg (fun events : EventPlane => (events.handlers attachment.slotIndex).phase)
      (setPlane_planes_self _ _ _)
  have hstops : phase ≠ .stopped := by
    obtain rfl | ⟨rfl, -⟩ := hphase' <;> simp
  refine ⟨hsteps.places hplaces, hsteps.handlesOne hhandles (by simp [hphase])
    (fun other heq => ?_) ?_, hsteps.reports (hinv.reports_of_batch hsuffix) rfl
      (List.suffix_refl _), hinv.stopsOnce.of_active hactive rfl rfl hsuffix hstops, ?_⟩
  · rw [hphase] at heq
    cases heq
  · rw [hself]
    refine .inr (hphase'.imp_right fun hhandling => ⟨hhandling.1, ?_, hhandling.2⟩)
    exact EventPlane.drain_phase hdrain
  · -- the eventfd is drained before anything is read
    have hadvanced : worker.poll.advance.Covers fun source =>
        worker.Pending source ∧ source ≠ .attachment id :=
      hinv.covered.advance hbatch fun _ hpending => hpending
    have hset : (({ worker with poll := worker.poll.advance } : Worker).setPlane
        attachment.publisher events).poll.Covers
          (({ worker with poll := worker.poll.advance } : Worker).setPlane
            attachment.publisher events).Pending :=
      covers_setPlane hadvanced fun source hnew hold => ⟨hold, fun heq => ?_⟩
    · refine hset.mono fun source hpending => hpending.of_phase (.inr ⟨?_, ?_⟩)
      · simp [Worker.setPlane, hphase]
      · simp [Worker.setPlane, hphase]
    · subst heq
      change (worker.attachments.lookup id).any _ = true at hnew
      rw [hlookup, Option.any_some, Bool.and_eq_true] at hnew
      have hreadable := hnew.2
      rw [readable, setPlane_planes_self] at hreadable
      have hbound : ((worker.planes attachment.publisher).handlers
          attachment.slotIndex).eventFd = attachment.dataAvailableEventFd := by
        obtain ⟨hnone, -⟩ | ⟨-, hfd⟩ := hinv.places.bound hlookup
        · have hreader := (EventPlane.drain_stepsAt hdrain).reader
          rw [hnone] at hreader
          cases hreader
        · exact hfd
      obtain ⟨-, -, -, hdrained⟩ := EventPlane.drain_readable hdrain
      rw [hbound, hreadable] at hdrained
      cases hdrained

theorem advance_suffix (poll : Poll EventId) : poll.advance.batch <:+ poll.batch :=
  List.tail_suffix _

/-- The loop goes on with the attachments as they are. -/
theorem handlesOne_phase (hinv : worker.Invariant) (hphase : worker.phase = .running)
    (phase : Phase) (hphase' : ∀ id, phase ≠ .handling id) :
    ({ worker with phase } : Worker).HandlesOne :=
  hinv.handlesOne.between (fun hlookup htracked => ⟨_, hlookup, htracked, rfl⟩)
    (by simp [hphase]) (by simp [hphase]) hphase'

/-- An event that has nothing to report is ignored. -/
theorem dispatchIgnored (hinv : worker.Invariant) (hphase : worker.phase = .running) {id : ℕ}
    {rest : List EventId} (hbatch : worker.poll.batch = .attachment id :: rest)
    (hsilent : worker.reportable (.attachment id) = false) :
    ({ worker with poll := worker.poll.advance } : Worker).Invariant where
  places := ⟨hinv.places.planes, hinv.places.allotted, hinv.places.distinct, hinv.places.bound⟩
  handlesOne := ⟨hinv.handlesOne.rests, hinv.handlesOne.handles⟩
  reports := hinv.reports_of_batch (advance_suffix _)
  stopsOnce := hinv.stopsOnce.of_active (by simp [Active, hphase]) rfl rfl (advance_suffix _)
    (by simp [hphase])
  covered := hinv.covered.advance hbatch fun source hpending => ⟨hpending, fun heq => by
    subst heq
    change worker.reportable (.attachment id) = true at hpending
    rw [hsilent] at hpending
    cases hpending⟩

/-- The shutdown event ends the loop, and the rest of the batch is kept. -/
theorem dispatchShutdown (hinv : worker.Invariant) (hphase : worker.phase = .running)
    {rest : List EventId} (hbatch : worker.poll.batch = .shutdown :: rest) :
    ({ worker with
      poll := worker.poll.advance
      shutdownSignalled := false
      phase := .stopped } : Worker).Invariant := by
  have hreports := hinv.reports_of_batch (advance_suffix worker.poll)
  have hrests := hinv.handlesOne_phase hphase .stopped (by simp)
  have hgone : .shutdown ∉ worker.poll.advance.batch := by
    have hnodup := hinv.reports.nodup
    rw [hbatch, List.nodup_cons] at hnodup
    rw [Poll.advance, hbatch]
    exact hnodup.1
  have hstopping : worker.stopping = true := by
    by_contra hnot
    refine (hinv.stopsOnce.requested (Bool.eq_false_iff.mpr hnot)).2.1 ?_
    rw [hbatch]
    exact List.mem_cons_self
  refine ⟨⟨hinv.places.planes, hinv.places.allotted, hinv.places.distinct, hinv.places.bound⟩,
    ⟨hrests.rests, hrests.handles⟩, ⟨hreports.nodup, hreports.allotted, hreports.tracked⟩,
    ⟨fun hnot => ?_, fun _ => ?_, fun _ => ⟨rfl, hgone⟩⟩,
    hinv.covered.advance hbatch fun source hpending => ?_⟩
  · rw [hstopping] at hnot
    cases hnot
  · simp [Active]
  · cases source with
    | broker => exact ⟨⟨hpending.1, by simp [hphase], by simp [hphase]⟩, by simp⟩
    | shutdown => cases hpending.1
    | attachment id => exact ⟨hpending, by simp⟩

theorem dispatchBroker (hinv : worker.Invariant) (hphase : worker.phase = .running)
    {rest : List EventId} (hbatch : worker.poll.batch = .broker :: rest) :
    ({ worker with poll := worker.poll.advance, phase := .receiving } : Worker).Invariant := by
  have hreports := hinv.reports_of_batch (advance_suffix worker.poll)
  have hrests := hinv.handlesOne_phase hphase .receiving (by simp)
  refine ⟨⟨hinv.places.planes, hinv.places.allotted, hinv.places.distinct, hinv.places.bound⟩,
    ⟨hrests.rests, hrests.handles⟩, ⟨hreports.nodup, hreports.allotted, hreports.tracked⟩,
    hinv.stopsOnce.of_active (by simp [Active, hphase]) rfl rfl (advance_suffix _) (by simp),
    hinv.covered.advance hbatch fun source hpending => ?_⟩
  cases source with
  | broker => exact absurd rfl hpending.2.1
  | shutdown => exact ⟨⟨hpending.1, by simp [hphase]⟩, by simp⟩
  | attachment id => exact ⟨hpending, by simp⟩

/-- The next event of a batch. -/
theorem dispatch (hinv : worker.Invariant) (hnext : worker.dispatch = some worker') :
    worker'.Invariant := by
  unfold Worker.dispatch at hnext
  dsimp only at hnext
  split at hnext
  next rest hphase hbatch =>
    obtain rfl := Option.some.inj hnext
    exact hinv.dispatchShutdown hphase hbatch
  next rest hphase hbatch =>
    obtain rfl := Option.some.inj hnext
    exact hinv.dispatchBroker hphase hbatch
  next id rest hphase hbatch =>
    split at hnext
    next attachment hlookup =>
      split at hnext
      · obtain ⟨events, hdrain, rfl⟩ := Option.map_eq_some_iff.mp hnext
        refine hinv.dispatchData hphase hbatch hlookup hdrain ?_
        split
        · exact .inl rfl
        next hnot => exact .inr ⟨rfl, hnot⟩
      next hinstalled =>
        obtain rfl := Option.some.inj hnext
        exact hinv.dispatchIgnored hphase hbatch (by simp [reportable, hlookup, hinstalled])
    next hlookup =>
      obtain rfl := Option.some.inj hnext
      exact hinv.dispatchIgnored hphase hbatch (by simp [reportable, hlookup])
  · cases hnext

/-- A worker that fails leaves nothing pending but its data events. -/
theorem fail (hinv : worker.Invariant) :
    ({ worker with phase := .failed } : Worker).Invariant where
  places := ⟨hinv.places.planes, hinv.places.allotted, hinv.places.distinct, hinv.places.bound⟩
  handlesOne := handlesOne_failed rfl
  reports := ⟨hinv.reports.nodup, hinv.reports.allotted, hinv.reports.tracked⟩
  stopsOnce :=
    ⟨fun hnot => by
      obtain ⟨hsilent, hmem, -⟩ := hinv.stopsOnce.requested hnot
      exact ⟨hsilent, hmem, by simp⟩, fun _ hactive => by simp [Active] at hactive,
      fun heq => by cases heq⟩
  covered := hinv.covered.mono fun _ hpending => hpending.of_phase (.inl rfl)

/-- One attachment of a batch: a readable eventfd is noted. -/
theorem install (hinv : worker.Invariant) (hphase : worker.phase = .receiving) {id : ℕ}
    (hinstall : worker.install id = some worker') :
    worker'.Invariant ∧ worker'.phase = .receiving := by
  unfold Worker.install at hinstall
  split at hinstall
  next attachment hlookup =>
    split at hinstall
    · cases hinstall
    · obtain rfl := Option.some.inj hinstall
      have hkeeps : worker.KeepsPlaces
          { worker with
            attachments := worker.attachments.insert id { attachment with installed := true }
            poll := worker.poll.raise fun source =>
              source = .attachment id && worker.readable attachment } := by
        intro other attachment' hother
        rw [lookup_insert] at hother
        split at hother
        next heq =>
          obtain rfl := Option.some.inj hother
          exact ⟨attachment, heq ▸ hlookup, rfl, rfl, rfl⟩
        next => exact ⟨attachment', hother, rfl, rfl, rfl⟩
      refine ⟨⟨hkeeps.places rfl rfl hinv.places,
        hkeeps.handlesOne rfl hinv.handlesOne (by simp [hphase]) (by simp [hphase])
          (by simp [hphase]), hkeeps.reports rfl hinv.reports rfl rfl,
        hinv.stopsOnce.of_active (by simp [Active, hphase]) rfl rfl (List.suffix_refl _)
          (by simp [hphase]), hinv.covered.raise fun source hpending => ?_⟩, hphase⟩
      cases source with
      | broker => exact .inl hpending
      | shutdown => exact .inl hpending
      | attachment other =>
          change (AList.lookup other (worker.attachments.insert id _)).any _ = true at hpending
          rw [lookup_insert] at hpending
          split at hpending
          next heq =>
            rw [Option.any_some, Bool.true_and] at hpending
            refine .inr ?_
            rw [heq]
            exact Bool.and_eq_true_iff.mpr ⟨decide_eq_true rfl, hpending⟩
          next => exact .inl hpending
  · cases hinstall

theorem installBatch (hinv : worker.Invariant) (hphase : worker.phase = .receiving)
    (ids : List ℕ) (succeeding : ℕ) :
    (Worker.installBatch ids succeeding worker).2.Invariant := by
  induction ids generalizing succeeding worker with
  | nil => exact hinv
  | cons id ids ih =>
      cases succeeding with
      | zero => exact hinv
      | succ succeeding =>
          rw [Worker.installBatch]
          split
          next installed hinstall =>
            obtain ⟨hinv', hphase'⟩ := hinv.install hphase hinstall
            exact ih hinv' hphase' succeeding
          next => exact hinv

theorem disconnect (hinv : worker.Invariant) (hphase : worker.phase = .receiving) {id : ℕ}
    (hdisconnect : worker.disconnect id = some worker') : worker'.Invariant := by
  unfold Worker.disconnect at hdisconnect
  split at hdisconnect
  · split at hdisconnect
    · obtain rfl := Option.some.inj hdisconnect
      have hkeeps : worker.KeepsPlaces
          { worker with
            attachments := worker.attachments.erase id
            poll := worker.poll.drop (.attachment id) } := by
        intro other attachment' hother
        rw [lookup_erase] at hother
        split at hother
        · cases hother
        · exact ⟨attachment', hother, rfl, rfl, rfl⟩
      refine ⟨hkeeps.places rfl rfl hinv.places,
        hkeeps.handlesOne rfl hinv.handlesOne (by simp [hphase]) (by simp [hphase])
          (by simp [hphase]), hkeeps.reports rfl hinv.reports rfl rfl,
        hinv.stopsOnce.of_active (by simp [Active, hphase]) rfl rfl (List.suffix_refl _)
          (by simp [hphase]), hinv.covered.drop fun source hpending => ?_⟩
      cases source with
      | broker => exact ⟨hpending, by simp⟩
      | shutdown => exact ⟨hpending, by simp⟩
      | attachment other =>
          change (AList.lookup other (worker.attachments.erase id)).any _ = true at hpending
          rw [lookup_erase] at hpending
          split at hpending
          · cases hpending
          next hne => exact ⟨hpending, by simpa using hne⟩
    · cases hdisconnect
  · cases hdisconnect

/-- A record leaves the inbox while the worker is receiving. -/
theorem receive (hinv : worker.Invariant) {succeeding : ℕ}
    (hnext : worker.receive succeeding = some worker') : worker'.Invariant := by
  unfold Worker.receive at hnext
  split at hnext
  next record inbox hphase _ =>
    have htaken : ({ worker with inbox } : Worker).Invariant :=
      ⟨⟨hinv.places.planes, hinv.places.allotted, hinv.places.distinct, hinv.places.bound⟩,
        ⟨hinv.handlesOne.rests, hinv.handlesOne.handles⟩,
        ⟨hinv.reports.nodup, hinv.reports.allotted, hinv.reports.tracked⟩,
        ⟨hinv.stopsOnce.requested, hinv.stopsOnce.signalled, hinv.stopsOnce.stopped⟩,
        hinv.covered.mono fun source hpending => by
          cases source with
          | broker => exact absurd hphase hpending.2.1
          | shutdown => exact hpending
          | attachment id => exact hpending⟩
    cases record with
    | subscriberAttachmentBatch ids =>
        have hbatch := htaken.installBatch hphase ids succeeding
        dsimp only at hnext
        split at hnext
        next installed heq =>
          obtain rfl := Option.some.inj hnext
          rw [heq] at hbatch
          exact hbatch
        next installed heq =>
          obtain rfl := Option.some.inj hnext
          rw [heq] at hbatch
          exact hbatch.fail
    | publisherDisconnected id =>
        obtain rfl := Option.some.inj hnext
        cases hdisconnect : ({ worker with inbox } : Worker).disconnect id with
        | none => exact htaken.fail
        | some disconnected => exact htaken.disconnect hphase hdisconnect
  · cases hnext

/-- A new attachment waits to be tracked and installed. -/
theorem allot (hinv : worker.Invariant) {id publisher slotIndex dataAvailableEventFd : ℕ}
    (hid : worker.nextAttachmentId ≤ id)
    (hunused : worker.Unused publisher slotIndex dataAvailableEventFd) :
    ({ worker with
      attachments := worker.attachments.insert id
        { publisher, slotIndex, dataAvailableEventFd, installed := false }
      nextAttachmentId := id + 1 } : Worker).Invariant := by
  obtain ⟨hfree, hclosed, hothers⟩ := hunused
  have hold : ∀ {other attachment}, worker.attachments.lookup other = some attachment →
      other ≠ id := fun hlookup heq => by
    have hlt := hinv.places.allotted hlookup
    omega
  have hne : ∀ {other attachment}, worker.attachments.lookup other = some attachment →
      publisher = attachment.publisher → slotIndex = attachment.slotIndex ∨
        dataAvailableEventFd = attachment.dataAvailableEventFd → False := by
    intro other attachment hlookup hpublisher hplace
    obtain ⟨hslot, hfd⟩ := hothers ⟨other, attachment⟩ (AList.mem_lookup_iff.mp hlookup)
      hpublisher.symm
    exact hplace.elim (fun heq => hslot heq.symm) fun heq => hfd heq.symm
  refine ⟨⟨hinv.places.planes, fun {other attachment} hlookup => ?_,
    fun {first second attachment attachment'} hlookup hlookup' hpublisher hplace => ?_,
    fun {other attachment} hlookup => ?_⟩,
    ⟨fun {other attachment} hlookup htracked hwaiting => ?_, fun {other} hhandling => ?_⟩,
    ⟨hinv.reports.nodup, fun hmem => ?_, fun {other attachment} hmem hlookup => ?_⟩,
    ⟨hinv.stopsOnce.requested, hinv.stopsOnce.signalled, hinv.stopsOnce.stopped⟩,
    hinv.covered.mono fun source hpending => ?_⟩
  · rw [lookup_insert] at hlookup
    dsimp only
    split at hlookup
    · omega
    · have hlt := hinv.places.allotted hlookup
      omega
  · rw [lookup_insert] at hlookup hlookup'
    split at hlookup <;> split at hlookup'
    next heq heq' => rw [heq, heq']
    next =>
      obtain rfl := Option.some.inj hlookup
      exact (hne hlookup' hpublisher hplace).elim
    next =>
      obtain rfl := Option.some.inj hlookup'
      exact (hne hlookup hpublisher.symm (hplace.imp Eq.symm Eq.symm)).elim
    next => exact hinv.places.distinct hlookup hlookup' hpublisher hplace
  · rw [lookup_insert] at hlookup
    split at hlookup
    · obtain rfl := Option.some.inj hlookup
      exact .inl ⟨hfree, hclosed⟩
    · exact hinv.places.bound hlookup
  · rw [lookup_insert] at hlookup
    split at hlookup
    · obtain rfl := Option.some.inj hlookup
      rw [Tracked, hfree] at htracked
      cases htracked
    · exact hinv.handlesOne.rests hlookup htracked hwaiting
  · obtain ⟨attachment, hlookup, hhandled⟩ := hinv.handlesOne.handles hhandling
    refine ⟨attachment, ?_, hhandled⟩
    rw [lookup_insert, if_neg (hold hlookup), hlookup]
  · have hlt := hinv.reports.allotted hmem
    dsimp only
    omega
  · have hlt := hinv.reports.allotted hmem
    rw [lookup_insert, if_neg (by omega)] at hlookup
    exact hinv.reports.tracked hmem hlookup
  · cases source with
    | broker => exact hpending
    | shutdown => exact hpending
    | attachment other =>
        change (AList.lookup other (worker.attachments.insert id _)).any _ = true at hpending
        rw [lookup_insert] at hpending
        split at hpending
        · cases hpending
        · exact hpending

theorem send (hinv : worker.Invariant) (record : BrokerRecord) :
    ({ worker with
      inbox := worker.inbox ++ [record]
      poll := worker.poll.raise (· = .broker) } : Worker).Invariant where
  places := ⟨hinv.places.planes, hinv.places.allotted, hinv.places.distinct, hinv.places.bound⟩
  handlesOne := ⟨hinv.handlesOne.rests, hinv.handlesOne.handles⟩
  reports := ⟨hinv.reports.nodup, hinv.reports.allotted, hinv.reports.tracked⟩
  stopsOnce := ⟨hinv.stopsOnce.requested, hinv.stopsOnce.signalled, hinv.stopsOnce.stopped⟩
  covered := hinv.covered.raise fun source hpending => by
    cases source with
    | broker => exact .inr (decide_eq_true rfl)
    | shutdown => exact .inl hpending
    | attachment id => exact .inl hpending

/-- The events of a new batch are those that are raised. -/
theorem wait (hinv : worker.Invariant) (hphase : worker.phase = .running)
    {batch : List EventId} (hgives : worker.poll.Gives worker.reportable kMaxEvents batch) :
    ({ worker with poll := worker.poll.fetch batch } : Worker).Invariant := by
  obtain ⟨hbatch, -, -, hnodup, hraised⟩ := hgives
  have hreported : ∀ {id}, .attachment id ∈ batch → ∃ attachment,
      worker.attachments.lookup id = some attachment ∧ worker.Tracked attachment := by
    intro id hmem
    have hreportable := (hraised _ hmem).2
    rw [reportable] at hreportable
    cases hlookup : worker.attachments.lookup id with
    | none =>
        rw [hlookup] at hreportable
        cases hreportable
    | some attachment =>
        rw [hlookup, Option.any_some, Bool.and_eq_true, readable] at hreportable
        obtain ⟨-, hclosed⟩ | ⟨htracked, -⟩ := hinv.places.bound hlookup
        · rw [hclosed] at hreportable
          cases hreportable.2
        · exact ⟨attachment, rfl, htracked⟩
  refine ⟨⟨hinv.places.planes, hinv.places.allotted, hinv.places.distinct, hinv.places.bound⟩,
    ⟨hinv.handlesOne.rests, hinv.handlesOne.handles⟩, ⟨hnodup, fun hmem => ?_,
      fun hmem hlookup => ?_⟩, ⟨fun hnot => ?_, hinv.stopsOnce.signalled, fun hend => ?_⟩,
    hinv.covered.fetch hbatch⟩
  · obtain ⟨attachment, hlookup, -⟩ := hreported hmem
    exact hinv.places.allotted hlookup
  · obtain ⟨attachment, hlookup', htracked⟩ := hreported hmem
    obtain rfl := Option.some.inj (hlookup.symm.trans hlookup')
    exact htracked
  · obtain ⟨hsilent, -, hnotStopped⟩ := hinv.stopsOnce.requested hnot
    refine ⟨hsilent, fun hmem => ?_, hnotStopped⟩
    have hreportable := (hraised _ hmem).2
    rw [reportable, hsilent] at hreportable
    cases hreportable
  · rw [hphase] at hend
    cases hend

/-- The socket is drained. -/
theorem drained (hinv : worker.Invariant) (hphase : worker.phase = .receiving)
    (hinbox : worker.inbox = []) : ({ worker with phase := .running } : Worker).Invariant where
  places := ⟨hinv.places.planes, hinv.places.allotted, hinv.places.distinct, hinv.places.bound⟩
  handlesOne := hinv.handlesOne.between (fun hlookup htracked => ⟨_, hlookup, htracked, rfl⟩)
    (by simp [hphase]) (by simp [hphase]) (by simp)
  reports := ⟨hinv.reports.nodup, hinv.reports.allotted, hinv.reports.tracked⟩
  stopsOnce := hinv.stopsOnce.of_active (by simp [Active, hphase]) rfl rfl (List.suffix_refl _)
    (by simp)
  covered := hinv.covered.mono fun source hpending => by
    cases source with
    | broker => exact absurd hinbox hpending.1
    | shutdown => exact ⟨hpending.1, by simp [hphase]⟩
    | attachment id => exact hpending

/-- `stop_run_thread` signals a worker that has not ended. -/
theorem stop (hinv : worker.Invariant)
    (hnext : worker.next .stop = some worker') : worker'.Invariant := by
  rw [Worker.next] at hnext
  split at hnext
  · cases hnext
  · split at hnext
    next hactive =>
      obtain rfl := Option.some.inj hnext
      refine ⟨⟨hinv.places.planes, hinv.places.allotted, hinv.places.distinct,
        hinv.places.bound⟩, ⟨hinv.handlesOne.rests, hinv.handlesOne.handles⟩,
        ⟨hinv.reports.nodup, hinv.reports.allotted, hinv.reports.tracked⟩,
        ⟨fun hnot => (by cases hnot), fun _ _ => rfl, fun hend => ?_⟩,
        hinv.covered.raise fun source hpending => ?_⟩
      · dsimp only at hend
        simp [Active, hend] at hactive
      · cases source with
        | broker => exact .inl hpending
        | shutdown => exact .inr (decide_eq_true rfl)
        | attachment id => exact .inl hpending
    next hended =>
      obtain rfl := Option.some.inj hnext
      exact ⟨⟨hinv.places.planes, hinv.places.allotted, hinv.places.distinct,
        hinv.places.bound⟩, ⟨hinv.handlesOne.rests, hinv.handlesOne.handles⟩,
        ⟨hinv.reports.nodup, hinv.reports.allotted, hinv.reports.tracked⟩,
        ⟨fun hnot => (by cases hnot), fun _ hactive => absurd hactive hended,
          hinv.stopsOnce.stopped⟩, hinv.covered⟩

/-- A move starts the worker again, with the rest of its batch. -/
theorem restart (hinv : worker.Invariant) (hphase : worker.phase = .stopped) :
    ({ worker with
      shutdownSignalled := false
      phase := .running
      stopping := false } : Worker).Invariant where
  places := ⟨hinv.places.planes, hinv.places.allotted, hinv.places.distinct, hinv.places.bound⟩
  handlesOne := hinv.handlesOne.between (fun hlookup htracked => ⟨_, hlookup, htracked, rfl⟩)
    (by simp [hphase]) (by simp [hphase]) (by simp)
  reports := ⟨hinv.reports.nodup, hinv.reports.allotted, hinv.reports.tracked⟩
  stopsOnce :=
    ⟨fun _ => ⟨rfl, (hinv.stopsOnce.stopped hphase).2, by simp⟩, fun hstop => (by cases hstop),
      fun hend => (by cases hend)⟩
  covered := hinv.covered.mono fun source hpending => by
    cases source with
    | broker => exact ⟨hpending.1, by simp [hphase], by simp [hphase]⟩
    | shutdown => cases hpending.1
    | attachment id => exact hpending

theorem release (hinv : worker.Invariant) (hstopping : worker.stopping = true) :
    ({ worker with
      attachments := ∅
      inbox := []
      shutdownSignalled := false
      poll := .initial
      phase := .released } : Worker).Invariant where
  places := ⟨hinv.places.planes, fun hlookup => (by cases hlookup),
    fun hlookup => (by cases hlookup), fun hlookup => (by cases hlookup)⟩
  handlesOne := ⟨fun hlookup => (by cases hlookup), fun heq => (by cases heq)⟩
  reports := ⟨List.nodup_nil, fun hmem => (by cases hmem), fun hmem => (by cases hmem)⟩
  stopsOnce := by
    refine ⟨fun hnot => ?_, fun _ hactive => ?_, fun heq => ?_⟩
    · exact absurd hstopping (Bool.eq_false_iff.mp hnot)
    · simp [Active] at hactive
    · cases heq
  covered := .initial fun source hpending => by
    cases source with
    | broker => exact hpending.1 rfl
    | shutdown => cases hpending.1
    | attachment id => cases hpending

/-- The step lemma. -/
theorem next (hinv : worker.Invariant) {action : WorkerAction}
    (hnext : worker.next action = some worker') : worker'.Invariant := by
  cases action with
  | plane publisher action => exact hinv.plane hnext
  | allot id publisher slotIndex eventFd =>
      rw [Worker.next, Option.ite_none_right_eq_some] at hnext
      obtain ⟨⟨-, hid, hunused⟩, hnext⟩ := hnext
      obtain rfl := Option.some.inj hnext
      exact hinv.allot hid hunused
  | send record =>
      rw [Worker.next, Option.ite_none_left_eq_some] at hnext
      obtain ⟨-, hnext⟩ := hnext
      obtain rfl := Option.some.inj hnext
      exact hinv.send record
  | wait batch =>
      rw [Worker.next, Option.ite_none_right_eq_some] at hnext
      obtain ⟨⟨hphase, hgives⟩, hnext⟩ := hnext
      obtain rfl := Option.some.inj hnext
      exact hinv.wait hphase hgives
  | dispatch => exact hinv.dispatch hnext
  | receive succeeding => exact hinv.receive hnext
  | drained =>
      rw [Worker.next, Option.ite_none_right_eq_some] at hnext
      obtain ⟨⟨hphase, hinbox⟩, hnext⟩ := hnext
      obtain rfl := Option.some.inj hnext
      exact hinv.drained hphase hinbox
  | handle action => exact hinv.handle hnext
  | fail =>
      rw [Worker.next, Option.ite_none_right_eq_some] at hnext
      obtain ⟨-, hnext⟩ := hnext
      obtain rfl := Option.some.inj hnext
      exact hinv.fail
  | stop => exact hinv.stop hnext
  | restart =>
      rw [Worker.next, Option.ite_none_right_eq_some] at hnext
      obtain ⟨⟨hphase, -⟩, hnext⟩ := hnext
      obtain rfl := Option.some.inj hnext
      exact hinv.restart hphase
  | release =>
      rw [Worker.next, Option.ite_none_right_eq_some] at hnext
      obtain ⟨⟨hstopping, -⟩, hnext⟩ := hnext
      obtain rfl := Option.some.inj hnext
      exact hinv.release hstopping

end Invariant

end Worker

/-- The run lemma. -/
theorem subscriberWorker_invariant {mapped : ℕ → SharedData} {worker : Worker}
    (hreach : (subscriberWorker mapped).Reachable worker) : worker.Invariant := by
  refine hreach.invariant Worker.Invariant ?_ fun _ _ _ hinv _ hnext => hinv.next hnext
  refine ⟨⟨fun publisher => eventPlane_invariant .initial, fun hlookup => (by cases hlookup),
    fun hlookup => (by cases hlookup), fun hlookup => (by cases hlookup)⟩,
    ⟨fun hlookup => (by cases hlookup), fun heq => (by cases heq)⟩,
    ⟨List.nodup_nil, fun hmem => (by cases hmem), fun hmem => (by cases hmem)⟩,
    ⟨fun _ => ⟨rfl, by simp [subscriberWorker, Poll.initial], by simp [subscriberWorker]⟩,
      fun hstop => (by cases hstop), fun heq => (by cases heq)⟩,
    .initial fun source hpending => ?_⟩
  cases source with
  | broker => exact hpending.1 rfl
  | shutdown => cases hpending.1
  | attachment id => cases hpending

/-! ## The worker goes on until it sleeps -/

/-- A step that the worker takes by itself. -/
def WorkerAction.Own : WorkerAction → Prop
  | .wait _ | .dispatch | .receive _ | .drained | .handle _ => True
  | _ => False

namespace Worker.Invariant

variable {worker : Worker}

theorem dispatch_enabled (hinv : worker.Invariant) (hphase : worker.phase = .running)
    (hbatch : worker.poll.batch ≠ []) : (worker.dispatch).isSome := by
  obtain ⟨source, rest, hbatch⟩ := List.exists_cons_of_ne_nil hbatch
  unfold Worker.dispatch
  dsimp only
  rw [hphase, hbatch]
  cases source with
  | broker => rfl
  | shutdown => rfl
  | attachment id =>
      dsimp only
      split
      next attachment hlookup =>
        split
        · have htracked := hinv.reports.tracked (by simp [hbatch]) hlookup
          have hwaiting : worker.handlerPhase attachment = .waiting := by
            by_contra hnot
            have hrests := hinv.handlesOne.rests hlookup htracked hnot
            simp [hphase] at hrests
          rw [Option.isSome_map]
          exact EventPlane.drain_enabled htracked hwaiting
        · rfl
      · rfl

theorem handle_enabled (hinv : worker.Invariant) {id : ℕ} (hphase : worker.phase = .handling id) :
    ∃ action, (worker.handle action).isSome := by
  obtain ⟨attachment, hlookup, htracked, hwaiting, hfailed⟩ := hinv.handlesOne.handles hphase
  obtain ⟨action, hhandles, hnext⟩ := EventPlane.handler_enabled htracked hwaiting hfailed
  refine ⟨action, ?_⟩
  simp only [Worker.handle, hphase, hlookup, Option.bind_some, hhandles, if_true,
    Option.isSome_map]
  exact hnext

/-- A worker that has not ended sleeps or has a step to take. -/
theorem asleep_or_enabled (hinv : worker.Invariant) (hactive : worker.Active) :
    worker.Asleep ∨ ∃ action : WorkerAction, action.Own ∧ (worker.next action).isSome := by
  cases hphase : worker.phase with
  | running =>
      by_cases hbatch : worker.poll.batch = []
      · by_cases hblocked : worker.poll.Blocked worker.reportable
        · exact .inl ⟨hphase, hbatch, hblocked⟩
        · obtain ⟨batch, hgives⟩ :=
            Poll.gives_of_not_blocked (show 0 < kMaxEvents by decide) hbatch hblocked
          exact .inr ⟨.wait batch, trivial, by rw [Worker.next, if_pos ⟨hphase, hgives⟩]; rfl⟩
      · exact .inr ⟨.dispatch, trivial, hinv.dispatch_enabled hphase hbatch⟩
  | receiving =>
      refine .inr ?_
      cases hinbox : worker.inbox with
      | nil => exact ⟨.drained, trivial, by rw [Worker.next, if_pos ⟨hphase, hinbox⟩]; rfl⟩
      | cons record inbox =>
          refine ⟨.receive 0, trivial, ?_⟩
          simp only [Worker.next, Worker.receive, hphase, hinbox]
          cases record with
          | subscriberAttachmentBatch ids => dsimp only; split <;> rfl
          | publisherDisconnected id => rfl
  | handling id =>
      obtain ⟨action, hhandle⟩ := hinv.handle_enabled hphase
      exact .inr ⟨.handle action, trivial, hhandle⟩
  | stopped => simp [Active, hphase] at hactive
  | failed => simp [Active, hphase] at hactive
  | released => simp [Active, hphase] at hactive

/-- An attachment that is not readable while the worker sleeps has been read to the end. -/
theorem caughtUp (hinv : worker.Invariant) (hasleep : worker.Asleep) {id : ℕ}
    {attachment : Attachment} (hlookup : worker.attachments.lookup id = some attachment)
    (hinstalled : attachment.installed = true) {reader : Reader}
    (hreader : (worker.planes attachment.publisher).plane.readers attachment.slotIndex =
      some reader)
    (hquiet : attachment.dataAvailableEventFd ∉
      (worker.planes attachment.publisher).signalling) :
    let events := worker.planes attachment.publisher
    events.plane.shared.descriptorReadIndices attachment.slotIndex =
        events.plane.shared.descriptorWriteIndex ∧
      (events.handlers attachment.slotIndex).handedOver.flatten =
        (events.plane.published.drop reader.joinedAt).map Message.payload := by
  obtain ⟨hphase, hbatch, hblocked⟩ := hasleep
  have htracked : worker.Tracked attachment := by
    rw [Tracked, hreader]
    rfl
  have hwaiting : worker.handlerPhase attachment = .waiting := by
    by_contra hnot
    have hrests := hinv.handlesOne.rests hlookup htracked hnot
    simp [hphase] at hrests
  have hfd : ((worker.planes attachment.publisher).handlers attachment.slotIndex).eventFd =
      attachment.dataAvailableEventFd := by
    obtain ⟨hnone, -⟩ | ⟨-, hfd⟩ := hinv.places.bound hlookup
    · rw [hreader] at hnone
      cases hnone
    · exact hfd
  have hsilent := hinv.covered.not_pending hbatch hblocked (fun _ => pending_reportable)
    (.attachment id)
  refine (hinv.places.planes attachment.publisher).caughtUp hreader hwaiting ?_
  rw [hfd]
  rintro (hreadable | hmem)
  · refine hsilent ?_
    change (worker.attachments.lookup id).any _ = true
    rw [hlookup, Option.any_some, hinstalled, Bool.true_and]
    exact hreadable
  · exact hquiet hmem

end Worker.Invariant

/-- Across any interleaving of publishes, records, stops and moves, a worker that has not
ended sleeps or has a step to take; and one that sleeps has received every record of the
broker, has no stop before it, and has handed over, in order and without a repetition, all
that was published since it was tracked by each publisher that is not about to signal it.
A worker returns without an error only when it has been stopped. -/
theorem sleeping_subscriber_has_caught_up {mapped : ℕ → SharedData} {worker : Worker}
    (hreach : (subscriberWorker mapped).Reachable worker) :
    (worker.Active → worker.Asleep ∨
      ∃ action : WorkerAction, action.Own ∧ (worker.next action).isSome) ∧
    (worker.Asleep → worker.inbox = [] ∧ worker.stopping = false ∧
      ∀ id attachment reader, worker.attachments.lookup id = some attachment →
        attachment.installed = true →
        (worker.planes attachment.publisher).plane.readers attachment.slotIndex =
          some reader →
        attachment.dataAvailableEventFd ∉ (worker.planes attachment.publisher).signalling →
          (worker.planes attachment.publisher).plane.shared.descriptorReadIndices
              attachment.slotIndex =
            (worker.planes attachment.publisher).plane.shared.descriptorWriteIndex ∧
          ((worker.planes attachment.publisher).handlers
              attachment.slotIndex).handedOver.flatten =
            ((worker.planes attachment.publisher).plane.published.drop
              reader.joinedAt).map Message.payload) ∧
    (worker.phase = .stopped → worker.stopping = true) := by
  have hinv := subscriberWorker_invariant hreach
  refine ⟨hinv.asleep_or_enabled, fun hasleep => ⟨?_, ?_, ?_⟩, fun hstopped => ?_⟩
  · have hnone := hinv.covered.not_pending hasleep.2.1 hasleep.2.2
      (fun _ => Worker.pending_reportable) .broker
    by_contra hinbox
    exact hnone ⟨hinbox, by simp [hasleep.1], by simp [hasleep.1]⟩
  · have hnone := hinv.covered.not_pending hasleep.2.1 hasleep.2.2
      (fun _ => Worker.pending_reportable) .shutdown
    by_contra hstopping
    refine hnone ⟨hinv.stopsOnce.signalled (Bool.not_eq_false _ ▸ hstopping) ?_, ?_⟩
    · simp [Worker.Active, hasleep.1]
    · simp [hasleep.1]
  · exact fun id attachment reader hlookup hinstalled hreader hquiet =>
      hinv.caughtUp hasleep hlookup hinstalled hreader hquiet
  · by_contra hnot
    exact (hinv.stopsOnce.requested (Bool.eq_false_iff.mpr hnot)).2.2 hstopped

/-- The shutdown event comes before the data event of one batch, and the subscriber is moved
with the rest of it. -/
def movedBatchActions : List WorkerAction :=
  [.allot 1 0 0 7, .send (.subscriberAttachmentBatch [1]), .wait [.broker], .dispatch,
    .receive 1, .drained, .plane 0 (.track 7 0), .plane 0 (.store [1, 2]), .plane 0 .signal,
    .stop, .wait [.shutdown, .attachment 1], .dispatch, .restart, .dispatch,
    .handle (.initializeReadIndex 0), .handle (.load 0), .handle (.reload 0),
    .handle (.copy 0), .handle (.copy 0), .handle (.readPayload 0),
    .handle (.clearReference 0), .handle (.storeReadIndex 0), .handle (.returnChunk 0),
    .handle (.signalSpace 0), .handle (.reload 0)]

theorem sleeping_subscriber_has_caught_up_movedBatch : ∃ worker,
    (subscriberWorker fun _ => zeroedMapping).Reachable worker ∧ worker.Asleep ∧
    worker.inbox = [] ∧ worker.stopping = false ∧
    ((worker.planes 0).handlers 0).handedOver.flatten = [[1, 2]] := by
  have hview : ((subscriberWorker fun _ => zeroedMapping).run
      (subscriberWorker fun _ => zeroedMapping).initial movedBatchActions).map (fun worker =>
        (worker.phase, worker.poll.batch, worker.inbox, worker.shutdownSignalled)) =
      some (.running, [], [], false) := by decide +kernel
  have hattached : ((subscriberWorker fun _ => zeroedMapping).run
      (subscriberWorker fun _ => zeroedMapping).initial movedBatchActions).map (fun worker =>
        (worker.attachments.keys, worker.attachments.lookup 1,
          worker.readable ⟨0, 0, 7, true⟩)) =
      some ([1], some ⟨0, 0, 7, true⟩, false) := by decide +kernel
  have hplane : ((subscriberWorker fun _ => zeroedMapping).run
      (subscriberWorker fun _ => zeroedMapping).initial movedBatchActions).map (fun worker =>
        ((worker.planes 0).signalling, ((worker.planes 0).plane.readers 0).map Reader.joinedAt,
          (worker.planes 0).plane.published.map Message.payload)) =
      some ([], some 0, [[1, 2]]) := by decide +kernel
  obtain ⟨worker, hrun, hworker⟩ := Option.map_eq_some_iff.mp hview
  rw [hrun, Option.map_some, Option.some.injEq] at hattached hplane
  simp only [Prod.mk.injEq, Option.map_eq_some_iff] at hworker hattached hplane
  obtain ⟨hphase, hbatch, hinbox, hshutdown⟩ := hworker
  obtain ⟨hkeys, hfirst, hreadable⟩ := hattached
  obtain ⟨hsignalling, ⟨reader, hreader, hjoined⟩, hpublished⟩ := hplane
  have hlookup : ∀ id, worker.attachments.lookup id =
      if id = 1 then some ⟨0, 0, 7, true⟩ else none := fun id => by
    split
    next heq => rw [heq, hfirst]
    next hne =>
      refine AList.lookup_eq_none.mpr fun hmem => hne ?_
      rw [AList.mem_keys, hkeys] at hmem
      exact List.mem_singleton.mp hmem
  have hasleep : worker.Asleep := by
    refine ⟨hphase, hbatch, fun source _ => ?_⟩
    cases source with
    | broker => simp [Worker.reportable, hinbox]
    | shutdown => exact hshutdown
    | attachment id =>
        rw [Worker.reportable, hlookup]
        split
        · rw [Option.any_some, hreadable]
          rfl
        · rfl
  have hreach : (subscriberWorker fun _ => zeroedMapping).Reachable worker :=
    System.ReachableWith.initial.run (fun _ _ _ => trivial) hrun
  obtain ⟨hinbox', hstopping, hcaughtUp⟩ :=
    (sleeping_subscriber_has_caught_up hreach).2.1 hasleep
  obtain ⟨-, hhanded⟩ := hcaughtUp 1 ⟨0, 0, 7, true⟩ reader (by simp [hlookup]) rfl hreader
    (by simp [hsignalling])
  refine ⟨worker, hreach, hasleep, hinbox', hstopping, hhanded.trans ?_⟩
  rw [hjoined, List.drop_zero, hpublished]

end DriveBus.Asynchronous.Subscriber
