import DriveBus.Asynchronous.EventLoop
import DriveBus.Asynchronous.Ledger
import DriveBus.SharedMemory.Delivery
import DriveBus.SharedMemory.SpaceSignal

/-!
# No lost wake-up

Whenever the worker goes back to `epoll_wait` with messages left, a work event is
pending, a space event is pending, or some subscriber will still signal space.  Once
every subscriber has consumed everything only the events remain, so a quiescent
publisher has nothing outstanding.
-/

namespace DriveBus.Asynchronous

open DriveBus.ByteMemory DriveBus.SharedMemory DriveBus.Transition

/-! ## What wakes the worker -/

namespace AsyncPublisher

/-- A space event is pending, or the data plane stays blocked until a subscriber acts. -/
def SpaceComing (publisher : AsyncPublisher) (awaits : Prop) : Prop :=
  publisher.signalled .spaceAvailable = true ∨ awaits

/-- A message that a later work event would skip is waited for. -/
def BlockedCovered (publisher : AsyncPublisher) (awaits : Prop) : Prop :=
  publisher.publisherReady = false → publisher.queue.inFlight.any (·.state = .blocked) = true →
    publisher.SpaceComing awaits

/-- What the position of the worker promises; `awaits` says whether the data plane stays
blocked until a subscriber acts. -/
def Wakes (publisher : AsyncPublisher) (awaits : Prop) : Prop :=
  match publisher.worker with
  | some .polling =>
      (publisher.queue.outstanding = [] ∨ publisher.signalled .publishWork = true ∨
        publisher.SpaceComing awaits) ∧ publisher.BlockedCovered awaits
  | some .workDrained => publisher.BlockedCovered awaits
  | some (.attempted _ .blocked) => publisher.SpaceComing awaits
  | some (.publishing _) | some (.attempted _ .succeeded) | some .rescheduling
  | some (.resuming _) => publisher.publisherReady = true
  | _ => True

variable {publisher : AsyncPublisher} {awaits awaits' : Prop}

theorem wakes_polling (hworker : publisher.worker = some .polling) :
    publisher.Wakes awaits ↔
      (publisher.queue.outstanding = [] ∨ publisher.signalled .publishWork = true ∨
        publisher.SpaceComing awaits) ∧ publisher.BlockedCovered awaits := by
  rw [Wakes, hworker]

theorem Wakes.polling (hworker : publisher.worker = some .polling)
    (houtstanding : publisher.queue.outstanding = [] ∨
      publisher.signalled .publishWork = true ∨ publisher.SpaceComing awaits)
    (hcovered : publisher.BlockedCovered awaits) : publisher.Wakes awaits :=
  (wakes_polling hworker).mpr ⟨houtstanding, hcovered⟩

theorem Wakes.mono (hwakes : publisher.Wakes awaits)
    (hmono : publisher.SpaceComing awaits → publisher.SpaceComing awaits') :
    publisher.Wakes awaits' := by
  unfold Wakes at hwakes ⊢
  split at hwakes
  · exact ⟨hwakes.1.imp_right (Or.imp_right hmono),
      fun hready hblocked => hmono (hwakes.2 hready hblocked)⟩
  · exact fun hready hblocked => hmono (hwakes hready hblocked)
  · exact hmono hwakes
  all_goals exact hwakes

end AsyncPublisher

/-! ## The producer -/

namespace MessageQueue

variable (queue : MessageQueue)

theorem inFlight_takeOverwritten :
    queue.takeOverwritten.2.inFlight = queue.inFlight ∨
      queue.takeOverwritten.2.inFlight = none := by
  unfold takeOverwritten
  split
  · split <;> simp_all
  · exact .inl rfl

/-- The producer may take a message out of flight, but puts none there. -/
theorem inFlight_enqueue (env : EnqueueEnv) (message : PendingMessage) :
    (queue.enqueue env message).2.inFlight = queue.inFlight ∨
      (queue.enqueue env message).2.inFlight = none := by
  have htaken : ∀ queue' : MessageQueue,
      queue'.inFlight = queue.takeOverwritten.2.inFlight →
        queue'.inFlight = queue.inFlight ∨ queue'.inFlight = none := by
    intro queue' heq
    rw [heq]
    exact queue.inFlight_takeOverwritten
  unfold enqueue
  dsimp only
  repeat' split
  all_goals exact htaken _ rfl

/-- A call that fails on an empty queue leaves it empty. -/
theorem outstanding_enqueue_of_empty (hempty : queue.outstanding = []) (env : EnqueueEnv)
    (message : PendingMessage) :
    (∃ overwritten, (queue.enqueue env message).1 = .accepted overwritten) ∨
      (queue.enqueue env message).2.outstanding = [] := by
  have hroom : queue.queuedMessageCount < kMaxOutstandingMessages := by
    rw [← length_outstanding, hempty]
    decide
  rw [enqueue, takeOverwritten_room hroom]
  dsimp only
  split
  · split
    · exact .inl ⟨_, rfl⟩
    · right
      simpa [popBack, pushBack, outstanding] using hempty
  · exact .inr hempty

end MessageQueue

namespace AsyncPublisher

variable {publisher publisher' : AsyncPublisher} {awaits : Prop}

/-- What a call of `publish` leaves alone, and what it signals. -/
theorem publish_effect (publisher : AsyncPublisher) (payload : List Byte) (env : EnqueueEnv) :
    let publisher' := (publisher.publish payload env).2
    publisher'.worker = publisher.worker ∧
      publisher'.publisherReady = publisher.publisherReady ∧
      publisher'.signalled .spaceAvailable = publisher.signalled .spaceAvailable ∧
      (publisher'.queue.inFlight = publisher.queue.inFlight ∨
        publisher'.queue.inFlight = none) ∧
      (publisher'.signalled .publishWork = true ∨
        publisher'.signalled .publishWork = publisher.signalled .publishWork ∧
          (publisher.queue.outstanding = [] → publisher'.queue.outstanding = [])) := by
  unfold publish
  by_cases hlarge : kMaxPayloadSizeBytes < payload.length
  · simp [hlarge]
  by_cases hactive : publisher.runThreadActive = false
  · simp [hlarge, hactive]
  rw [if_neg hlarge, if_neg hactive]
  have hinFlight := publisher.queue.inFlight_enqueue env ⟨payload, publisher.journal.nextTicket⟩
  have hempty := fun hempty => publisher.queue.outstanding_enqueue_of_empty hempty env
    ⟨payload, publisher.journal.nextTicket⟩
  cases henqueue : publisher.queue.enqueue env ⟨payload, publisher.journal.nextTicket⟩ with
  | mk result queue' =>
      rw [henqueue] at hinFlight hempty
      dsimp only at hinFlight hempty ⊢
      rcases result with (_ | victim) | _ | (_ | victim) <;>
        simp_all [setSignalled]

theorem Wakes.publish (hwakes : publisher.Wakes awaits) (payload : List Byte)
    (env : EnqueueEnv) : (publisher.publish payload env).2.Wakes awaits := by
  obtain ⟨hworker, hready, hspace, hinFlight, hwork⟩ := publisher.publish_effect payload env
  have hcoming : publisher.SpaceComing awaits →
      (publisher.publish payload env).2.SpaceComing awaits := by
    rw [SpaceComing, SpaceComing, hspace]
    exact id
  have hcovered : publisher.BlockedCovered awaits →
      (publisher.publish payload env).2.BlockedCovered awaits := by
    intro hcovered hready' hblocked'
    rcases hinFlight with hsame | hnone
    · exact hcoming (hcovered (hready ▸ hready') (hsame ▸ hblocked'))
    · rw [hnone] at hblocked'
      cases hblocked'
  unfold Wakes at hwakes ⊢
  rw [hworker]
  split at hwakes
  · refine ⟨?_, hcovered hwakes.2⟩
    rcases hwork with hsignalled | ⟨hsame, hempty⟩
    · exact .inr (.inl hsignalled)
    · rw [hsame]
      exact hwakes.1.imp hempty (Or.imp_right hcoming)
  · exact hcovered hwakes
  · exact hcoming hwakes
  all_goals first | exact hready.trans hwakes | trivial

/-! ## The worker -/

/-- A step that changes neither the worker nor the queue, and clears no event. -/
theorem Wakes.congr (hwakes : publisher.Wakes awaits)
    (hworker : publisher'.worker = publisher.worker)
    (hqueue : publisher'.queue = publisher.queue)
    (hready : publisher'.publisherReady = publisher.publisherReady)
    (hsignalled : ∀ source, publisher.signalled source = true →
      publisher'.signalled source = true) : publisher'.Wakes awaits := by
  have hcoming : publisher.SpaceComing awaits → publisher'.SpaceComing awaits :=
    Or.imp_left (hsignalled .spaceAvailable)
  have hcovered : publisher.BlockedCovered awaits → publisher'.BlockedCovered awaits := by
    intro hcovered hready' hblocked'
    exact hcoming (hcovered (hready ▸ hready') (hqueue ▸ hblocked'))
  unfold Wakes at hwakes ⊢
  rw [hworker]
  split at hwakes
  · rw [hqueue]
    exact ⟨hwakes.1.imp_right (Or.imp (hsignalled .publishWork) hcoming), hcovered hwakes.2⟩
  · exact hcovered hwakes
  · exact hcoming hwakes
  all_goals first | exact hready.trans hwakes | trivial

theorem signalled_setSignalled (publisher : AsyncPublisher) (raised source : EventSource)
    (hsource : publisher.signalled source = true) :
    (publisher.setSignalled raised true).signalled source = true := by
  by_cases heq : source = raised
  · subst heq
    exact Function.update_self ..
  · exact (Function.update_of_ne heq _ _).trans hsource

theorem Wakes.setSignalled (hwakes : publisher.Wakes awaits) (raised : EventSource) :
    (publisher.setSignalled raised true).Wakes awaits :=
  hwakes.congr rfl rfl rfl (publisher.signalled_setSignalled raised)

/-- Going back to `epoll_wait` with a work event pending. -/
theorem wakes_polling_of_ready (hready : publisher.publisherReady = true)
    (hpending : publisher.queue.outstanding = [] ∨ publisher.signalled .publishWork = true) :
    (publisher.setWorker .polling).Wakes awaits :=
  ⟨hpending.imp_right .inl, fun hnot => by
    rw [show publisher.publisherReady = false from hnot] at hready
    cases hready⟩

/-- Going back to `epoll_wait` while space is coming. -/
theorem wakes_polling_of_coming (hcoming : publisher.SpaceComing awaits) :
    (publisher.setWorker .polling).Wakes awaits :=
  ⟨.inr (.inr hcoming), fun _ _ => hcoming⟩

theorem wakes_endLoop (hready : publisher.publisherReady = true ∨
      publisher.SpaceComing awaits) : publisher.endLoop.Wakes awaits := by
  unfold endLoop
  split
  next hstop =>
    rcases hready with hready | hcoming
    · have hempty := hstop.resolve_left (by simp [hready])
      exact wakes_polling_of_ready hready (.inl hempty)
    · exact wakes_polling_of_coming hcoming
  next hmore => exact Bool.eq_true_of_not_eq_false fun hnot => hmore (.inl hnot)

theorem wakes_enterLoop (hready : publisher.publisherReady = true) (published : ℕ) :
    (publisher.enterLoop published).Wakes awaits := by
  unfold enterLoop
  split
  · split
    · exact hready
    · exact wakes_endLoop (.inl hready)
  · exact wakes_endLoop (.inl hready)

theorem Wakes.dispatch (hwakes : publisher.Wakes awaits)
    (hworker : publisher.worker = some .polling) {drains : Bool}
    (hdispatch : publisher.dispatch drains = some publisher') : publisher'.Wakes awaits := by
  obtain ⟨-, hcovered⟩ := (wakes_polling hworker).mp hwakes
  unfold AsyncPublisher.dispatch at hdispatch
  split at hdispatch
  next => cases hdispatch
  next source events hevents =>
    cases source <;> cases drains <;> cases hdispatch
    case publishWork.true =>
      intro hready hblocked
      exact hcovered hready hblocked
    all_goals trivial

theorem Wakes.beginWork (hwakes : publisher.Wakes awaits)
    (hworker : publisher.worker = some .workDrained) : publisher.beginWork.Wakes awaits := by
  rw [Wakes, hworker] at hwakes
  unfold AsyncPublisher.beginWork
  split
  next hskip => exact wakes_polling_of_coming (hwakes hskip.1 hskip.2)
  next => exact wakes_enterLoop rfl 0

theorem Wakes.recordAttempt (hwakes : publisher.Wakes awaits) {published : ℕ}
    {attempt : PublishAttempt} (hworker : publisher.worker = some (.attempted published attempt)) :
    (publisher.recordAttempt published attempt).Wakes awaits := by
  rw [Wakes, hworker] at hwakes
  cases attempt with
  | blocked => exact wakes_endLoop (.inr hwakes)
  | succeeded =>
      apply wakes_enterLoop
      exact hwakes

/-- What the answer of the mapping to an attempt or to a check has to mean. -/
def AnswerExplained (publisher : AsyncPublisher) (awaits : Prop) : Action → Prop
  | .attempt (.ok .blocked) _ | .checked (.ok .blocked) => publisher.SpaceComing awaits
  | .checked (.ok .noMessage) => publisher.queue.outstanding = []
  | _ => True

theorem Wakes.attempt (hwakes : publisher.Wakes awaits) {published : ℕ}
    (hworker : publisher.worker = some (.publishing published))
    {result : Except RunError PublishAttempt} {appended : Option (List Byte)}
    (hanswer : publisher.AnswerExplained awaits (.attempt result appended)) :
    (publisher.attempt published result appended).Wakes awaits := by
  rw [Wakes, hworker] at hwakes
  have hlogged : (publisher.logAppended appended).publisherReady = publisher.publisherReady ∧
      (publisher.logAppended appended).signalled = publisher.signalled := by
    unfold logAppended
    split <;> exact ⟨rfl, rfl⟩
  rcases result with error | blocked | succeeded
  · trivial
  · exact hlogged.1.trans hwakes
  · have hcoming : (publisher.logAppended appended).SpaceComing awaits := by
      rw [SpaceComing, hlogged.2]
      exact hanswer
    exact hcoming

theorem wakes_checked {resumer : Resumer} {readiness : Except RunError PublishReadiness}
    (hanswer : publisher.AnswerExplained awaits (.checked readiness)) :
    (publisher.checked resumer readiness).Wakes awaits := by
  rcases readiness with error | ready | blocked | noMessage
  · trivial
  · rfl
  · exact wakes_polling_of_coming hanswer
  · have hempty : publisher.queue.outstanding = [] := hanswer
    refine ⟨.inl hempty, fun _ hblocked => ?_⟩
    have hnone : publisher.queue.inFlight = none := by
      simpa using (List.append_eq_nil_iff.mp hempty).1
    simp [AsyncPublisher.checked, setWorker, hnone] at hblocked

/-- Publishing goes on through another work event. -/
theorem wakes_polling_of_resumed (hready : publisher.publisherReady = true) :
    ((publisher.setSignalled .publishWork true).setWorker .polling).Wakes awaits :=
  wakes_polling_of_ready hready (.inr (by simp [setSignalled]))

theorem Wakes.reschedule (hwakes : publisher.Wakes awaits)
    (hworker : publisher.worker = some .rescheduling) (signals : Bool) :
    (publisher.reschedule signals).Wakes awaits := by
  rw [Wakes, hworker] at hwakes
  cases signals with
  | false => trivial
  | true => exact wakes_polling_of_resumed hwakes

theorem Wakes.resume (hwakes : publisher.Wakes awaits) {resumer : Resumer}
    (hworker : publisher.worker = some (.resuming resumer)) (signals : Bool) :
    (publisher.resume resumer signals).Wakes awaits := by
  rw [Wakes, hworker] at hwakes
  cases signals with
  | false => trivial
  | true => exact wakes_polling_of_resumed hwakes

/-! ## The owner -/

theorem Wakes.beginStop (hwakes : publisher.Wakes awaits) (stopIntent : WorkerStopIntent) :
    (publisher.beginStop stopIntent).Wakes awaits := by
  unfold AsyncPublisher.beginStop
  split <;> exact hwakes.congr rfl rfl rfl fun _ => id

theorem Wakes.storeIntent (hwakes : publisher.Wakes awaits) (stopIntent : WorkerStopIntent)
    (wasActive : Bool) : (publisher.storeIntent stopIntent wasActive).Wakes awaits := by
  unfold AsyncPublisher.storeIntent
  split <;> exact hwakes.congr rfl rfl rfl fun _ => id

theorem Wakes.signalShutdown (hwakes : publisher.Wakes awaits)
    (stopIntent : WorkerStopIntent) (signals : Bool) :
    (publisher.signalShutdown stopIntent signals).Wakes awaits := by
  refine hwakes.congr rfl rfl rfl fun source hsource => ?_
  by_cases heq : source = .shutdown
  · subst heq
    simp [AsyncPublisher.signalShutdown, AsyncPublisher.setSignalled, hsource]
  · exact (Function.update_of_ne heq _ _).trans hsource

theorem Wakes.join (hwakes : publisher.Wakes awaits) {stopIntent : WorkerStopIntent}
    {wasActive : Bool} (hjoin : publisher.join stopIntent wasActive = some publisher') :
    publisher'.Wakes awaits := by
  unfold AsyncPublisher.join at hjoin
  split at hjoin
  · cases hjoin
    exact hwakes.congr rfl rfl rfl fun _ => id
  · cases hjoin

theorem publishing_of_attempt {result : Except RunError PublishAttempt}
    {appended : Option (List Byte)}
    (hnext : publisher.next (.attempt result appended) = some publisher') :
    ∃ published, publisher.worker = some (.publishing published) := by
  unfold AsyncPublisher.next at hnext
  split at hnext
  all_goals first | exact ⟨_, ‹_›⟩ | simp_all

/-- Every step of every thread keeps what the position of the worker promises. -/
theorem Wakes.next {action : Action} (hwakes : publisher.Wakes awaits)
    (hanswer : publisher.AnswerExplained awaits action)
    (hnext : publisher.next action = some publisher') : publisher'.Wakes awaits := by
  unfold AsyncPublisher.next at hnext
  split at hnext
  · cases hnext
    exact hwakes.publish _ _
  · cases hnext
    exact hwakes.setSignalled _
  · cases hnext
    exact hwakes.setSignalled _
  · unfold AsyncPublisher.fetch at hnext
    split at hnext
    · cases hnext
      exact hwakes.congr rfl rfl rfl fun _ => id
    · cases hnext
  · split at hnext
    · cases hnext
      trivial
    · cases hnext
  · exact hwakes.dispatch ‹_› hnext
  · cases hnext
    unfold AsyncPublisher.controlProcessed
    split <;> trivial
  · cases hnext
    exact hwakes.beginWork ‹_›
  · cases hnext
    exact hwakes.attempt ‹_› hanswer
  · cases hnext
    exact hwakes.recordAttempt ‹_›
  · cases hnext
    exact hwakes.reschedule ‹_› _
  · cases hnext
    exact wakes_checked hanswer
  · cases hnext
    exact hwakes.resume ‹_› _
  -- The worker is on its way out.
  · cases hnext
    trivial
  · cases hnext
    trivial
  · cases hnext
    trivial
  · cases hnext
    trivial
  · cases hnext
    exact hwakes.beginStop _
  · cases hnext
    exact hwakes.storeIntent _ _
  · cases hnext
    exact hwakes.signalShutdown _ _
  · exact hwakes.join hnext
  · cases hnext

end AsyncPublisher

/-! ## The event loop -/

/-- The data plane keeps its invariant, and what the worker waits for will come. -/
structure EventLoop.Invariant (loop : EventLoop) : Prop where
  plane : ∃ pool : Pool loop.plane.published,
    SharedMemory.Invariant loop.plane pool ∧ pool.NoneLost
  wakes : loop.publisher.Wakes loop.plane.AwaitsSubscribers

namespace EventLoop.Invariant

variable {loop loop' : EventLoop}

/-- Every step of the data plane keeps its part. -/
theorem planeStep (hinv : loop.Invariant) (action : SharedMemory.Action) {outcome : Outcome}
    {plane : State} (hstops : SharedMemory.StopsBetweenMessages loop.plane action)
    (hstep : loop.plane.step action = some (outcome, plane)) :
    ∃ pool : Pool plane.published, SharedMemory.Invariant plane pool ∧ pool.NoneLost := by
  obtain ⟨pool, hplane, hkept⟩ := hinv.plane
  obtain ⟨pool', hplane', -, hkept'⟩ := hplane.step hstep
  exact ⟨pool', hplane', hkept' (reapsNoReturner_of_stopsBetweenMessages hstops) hkept⟩

/-- A step of the threads that leaves the data plane alone. -/
theorem advance (hinv : loop.Invariant) {action : Action}
    (hanswer : loop.publisher.AnswerExplained loop.plane.AwaitsSubscribers action)
    (hnext : loop.advance action = some loop') : loop'.Invariant := by
  obtain ⟨publisher, hpublisher, rfl⟩ := Option.map_eq_some_iff.mp hnext
  exact ⟨hinv.plane, hinv.wakes.next hanswer hpublisher⟩

theorem attempt (hinv : loop.Invariant) (hnext : loop.attempt = some loop') :
    loop'.Invariant := by
  unfold EventLoop.attempt at hnext
  split at hnext
  next => cases hnext
  next inFlight hinFlight =>
    obtain ⟨pool, hplane, hkept⟩ := hinv.plane
    have hafter : ({ loop with
        plane := (loop.plane.publish inFlight.message.payload).2 } : EventLoop).Invariant := by
      refine ⟨hinv.planeStep (.publish inFlight.message.payload) trivial rfl, ?_⟩
      obtain ⟨publisher, hpublisher, -⟩ := Option.map_eq_some_iff.mp hnext
      obtain ⟨published, hworker⟩ := AsyncPublisher.publishing_of_attempt hpublisher
      have hwakes := hinv.wakes
      rw [AsyncPublisher.Wakes, hworker] at hwakes
      rw [AsyncPublisher.Wakes, hworker]
      exact hwakes
    refine hafter.advance ?_ hnext
    cases hresult : (tryPublishOne loop.plane.toPublisherProcess inFlight.message.payload).1 with
    | error => trivial
    | ok attempt =>
        cases attempt with
        | succeeded => trivial
        | blocked =>
            have hawaits := hplane.awaitsSubscribers_of_blocked hkept hresult
            have hpublished : (loop.plane.publish inFlight.message.payload).2.published =
                loop.plane.published := by
              simp [State.publish, hresult]
            right
            rw [State.AwaitsSubscribers, State.OwesSpace, hpublished]
            exact hawaits

/-- What `can_publish_next_message` answers is explained by the data plane. -/
theorem check (hinv : loop.Invariant) (hnext : loop.check = some loop') :
    loop'.Invariant := by
  refine hinv.advance ?_ hnext
  obtain ⟨pool, hplane, hkept⟩ := hinv.plane
  unfold canPublishNextMessage
  split
  next hempty => exact hempty
  next =>
    split
    next => trivial
    next sizeClass hclass =>
      split
      next hring => exact .inr (hplane.awaitsSubscribers_of_descriptorsBlocked hring)
      next =>
        split
        next hempty =>
          exact .inr (.inr (hplane.owesSpace_of_exhausted hkept
            (findSizeClass_eq_some hclass).1 hempty))
        next => trivial

/-- While the records of the broker are processed nothing is promised. -/
theorem processRecord (hinv : loop.Invariant) {dataAvailableEventFd : ℕ}
    (hstops : loop.StopsBetweenMessages (.control dataAvailableEventFd))
    (hnext : loop.processRecord dataAvailableEventFd = some loop') : loop'.Invariant := by
  unfold EventLoop.processRecord at hnext
  split at hnext
  next hcontrolling =>
    have hprocessed : ∀ (plane : State) (control : List ControlRecord),
        (∃ pool : Pool plane.published, SharedMemory.Invariant plane pool ∧ pool.NoneLost) →
          ({ loop with plane, control } : EventLoop).Invariant := fun plane control hplane =>
      ⟨hplane, by rw [AsyncPublisher.Wakes, hcontrolling]; trivial⟩
    have hsettled : ∀ {processed : EventLoop} {error : RunError}, processed.Invariant →
        processed.settleRecord error = some loop' → loop'.Invariant := by
      intro processed error hprocessed hsettle
      unfold EventLoop.settleRecord at hsettle
      split at hsettle
      · cases hsettle
        exact hprocessed
      · refine hprocessed.advance ?_ hsettle
        trivial
    split at hnext
    next => cases hnext
    next slotIndex control hcontrol =>
      split at hnext
      next plane htrack =>
        cases hnext
        exact hprocessed plane control
          (hinv.planeStep (.track dataAvailableEventFd slotIndex) trivial htrack)
      next error plane _ htrack =>
        exact hsettled (hprocessed plane control
          (hinv.planeStep (.track dataAvailableEventFd slotIndex) trivial htrack)) hnext
      next => cases hnext
    next slotIndex control hcontrol =>
      split at hnext
      next error plane hreap =>
        exact hsettled (hprocessed plane control (hinv.planeStep (.reap slotIndex)
          (hstops slotIndex control hcontrol) hreap)) hnext
      next => exact hsettled (hprocessed loop.plane control hinv.plane) hnext
  next => cases hnext

/-- A subscriber keeps owing its signal until it sends it. -/
theorem subscriber (hinv : loop.Invariant) {action : SharedMemory.Action}
    (hconsumes : ConsumesMessages action) (hnext : loop.subscriber action = some loop') :
    loop'.Invariant := by
  obtain ⟨⟨outcome, plane⟩, hstep, rfl⟩ := Option.map_eq_some_iff.mp hnext
  have hstops : SharedMemory.StopsBetweenMessages loop.plane action := by
    cases action with
    | reap => exact absurd hconsumes id
    | _ => trivial
  refine ⟨hinv.planeStep action hstops hstep, ?_⟩
  obtain ⟨pool, hplane, hkept⟩ := hinv.plane
  have hkeeps : (∀ slot, action ≠ .signalSpace slot) →
      loop.publisher.Wakes plane.AwaitsSubscribers := by
    intro hsilent
    refine hinv.wakes.mono (Or.imp_right ?_)
    rintro (hnone | howes)
    · rw [State.step_of_untracked hconsumes hnone] at hstep
      cases hstep
    · exact .inr (hplane.owesSpace_step hconsumes hsilent hstep howes)
  cases action with
  | signalSpace slot =>
      exact (hinv.wakes.setSignalled .spaceAvailable).mono fun _ =>
        .inl (by simp [AsyncPublisher.setSignalled])
  | _ => exact hkeeps (by simp)

/-- The step lemma. -/
theorem next (hinv : loop.Invariant) {action : LoopAction}
    (hstops : loop.StopsBetweenMessages action) (hnext : loop.next action = some loop') :
    loop'.Invariant := by
  cases action with
  | thread action =>
      simp only [EventLoop.next, Option.ite_none_right_eq_some] at hnext
      obtain ⟨hlocal, hnext⟩ := hnext
      refine hinv.advance ?_ hnext
      cases action with
      | attempt | checked => exact absurd hlocal id
      | _ => trivial
  | attempt => exact hinv.attempt hnext
  | check => exact hinv.check hnext
  | arrive record =>
      cases hnext
      exact ⟨hinv.plane, hinv.wakes.setSignalled .broker⟩
  | control dataAvailableEventFd => exact hinv.processRecord hstops hnext
  | controlDrained =>
      simp only [EventLoop.next, Option.ite_none_right_eq_some] at hnext
      refine hinv.advance ?_ hnext.2
      trivial
  | subscriber action =>
      simp only [EventLoop.next, Option.ite_none_right_eq_some] at hnext
      exact hinv.subscriber hnext.1 hnext.2

end EventLoop.Invariant

/-- A created publisher starts with a work event pending. -/
theorem EventLoop.Invariant.initial {mapped : SharedData} {plane : State}
    (hplane : (dataPlane mapped).ReachableWith SharedMemory.StopsBetweenMessages plane) :
    (eventLoop plane).initial.Invariant where
  plane := noneLost_of_reachable
    (hplane.mono fun _ _ => reapsNoReturner_of_stopsBetweenMessages)
  wakes := ⟨.inl rfl, nofun⟩

/-- The run lemma. -/
theorem eventLoop_invariant {mapped : SharedData} {plane : State}
    (hplane : (dataPlane mapped).ReachableWith SharedMemory.StopsBetweenMessages plane)
    {loop : EventLoop}
    (hreach : (eventLoop plane).ReachableWith EventLoop.StopsBetweenMessages loop) :
    loop.Invariant :=
  hreach.invariant EventLoop.Invariant (.initial hplane) fun _ _ _ hinv hstops hnext =>
    hinv.next hstops hnext

/-! ## Quiescence -/

/-- The worker waits with no event pending, and every tracked subscriber, of which there is
one, is between messages and has consumed up to the write index. -/
structure EventLoop.Quiescent (loop : EventLoop) : Prop where
  waiting : loop.publisher.worker = some .polling ∧ loop.publisher.events = []
  noneSignalled : ∀ source ≠ .shutdown, loop.publisher.signalled source = false
  tracked : ∃ slot reader, loop.plane.readers slot = some reader
  consumed : ∀ slot reader, loop.plane.readers slot = some reader →
    reader.phase = .idle ∧ loop.plane.shared.descriptorReadIndices slot =
      loop.plane.shared.descriptorWriteIndex

/-- Subscribers that have consumed everything owe nothing. -/
theorem EventLoop.Quiescent.not_awaits {loop : EventLoop} (hquiet : loop.Quiescent)
    {pool : Pool loop.plane.published} (hplane : SharedMemory.Invariant loop.plane pool) :
    ¬loop.plane.AwaitsSubscribers := by
  rintro (hnone | ⟨slot, reader, hreader, howes⟩)
  · obtain ⟨slot, reader, hreader⟩ := hquiet.tracked
    rw [hnone slot] at hreader
    cases hreader
  · obtain ⟨hidle, hindex⟩ := hquiet.consumed slot reader hreader
    have hrinv := hplane.reader hreader
    have hlength := hrinv.length_lt
    rw [hrinv.readIndex_eq, hplane.ring.write_eq] at hindex
    rw [Reader.owes_of_idle hidle] at howes
    simp only [kDescriptorSlotCount] at hlength hindex
    omega

/-- No lost wake-up: when nothing is pending any more and every tracked subscriber has
consumed everything, the publisher has published every message. -/
theorem quiescent_outstanding_nil {mapped : SharedData} {plane : State}
    (hplane : (dataPlane mapped).ReachableWith SharedMemory.StopsBetweenMessages plane)
    {loop : EventLoop}
    (hreach : (eventLoop plane).ReachableWith EventLoop.StopsBetweenMessages loop)
    (hquiet : loop.Quiescent) : loop.publisher.queue.outstanding = [] := by
  have hinv := eventLoop_invariant hplane hreach
  obtain ⟨pool, hpool, -⟩ := hinv.plane
  have hawaits := hquiet.not_awaits hpool
  obtain ⟨hpending, -⟩ := (AsyncPublisher.wakes_polling hquiet.waiting.1).mp hinv.wakes
  rcases hpending with hempty | hwork | hspace | hwaits
  · exact hempty
  · rw [hquiet.noneSignalled .publishWork (by simp)] at hwork
    cases hwork
  · rw [hquiet.noneSignalled .spaceAvailable (by simp)] at hspace
    cases hspace
  · exact absurd hwaits hawaits

/-- The records of this run are registrations. -/
def registersOnly (loop : EventLoop) : LoopAction → Bool
  | .control _ => !(loop.control.head? matches some (.subscriberDisconnected _))
  | _ => true

theorem stopsBetweenMessages_of_registersOnly (loop : EventLoop) (action : LoopAction)
    (hguard : registersOnly loop action = true) : loop.StopsBetweenMessages action := by
  cases action with
  | control dataAvailableEventFd =>
      intro slotIndex control hcontrol
      simp [registersOnly, hcontrol] at hguard
  | _ => trivial

/-- A message is blocked until a first subscriber is registered, which then consumes it. -/
def lateSubscriberActions : List LoopAction :=
  [.thread (.publish [1, 2] ⟨true, true, true⟩), .thread (.fetch [.publishWork]),
    .thread (.dispatch true), .thread .beginWork, .attempt, .thread .recordAttempt,
    .arrive (.subscriberRegistered 3), .thread (.fetch [.broker]), .thread (.dispatch true),
    .control 7, .controlDrained, .check, .thread (.resume true),
    .thread (.fetch [.publishWork]), .thread (.dispatch true), .thread .beginWork, .attempt,
    .thread .recordAttempt, .subscriber (.fetchDescriptors 3), .subscriber (.readPayload 3),
    .subscriber (.clearReference 3), .subscriber (.storeReadIndex 3),
    .subscriber (.returnChunk 3), .subscriber (.signalSpace 3),
    .thread (.fetch [.spaceAvailable]), .thread (.dispatch true), .check]

theorem quiescent_outstanding_nil_lateSubscriber : ∃ loop : EventLoop,
    (eventLoop (State.created zeroedMapping)).ReachableWith EventLoop.StopsBetweenMessages loop ∧
    loop.Quiescent ∧ loop.plane.published.length = 1 ∧
    loop.publisher.queue.outstanding = [] := by
  have hworker : ((eventLoop (State.created zeroedMapping)).guardedRun registersOnly
      (eventLoop (State.created zeroedMapping)).initial lateSubscriberActions).map
      (fun loop => (loop.publisher.worker, loop.publisher.events,
        [EventSource.publishWork, .spaceAvailable, .broker].map loop.publisher.signalled)) =
      some (some .polling, [], [false, false, false]) := by decide +kernel
  have hplane : ((eventLoop (State.created zeroedMapping)).guardedRun registersOnly
      (eventLoop (State.created zeroedMapping)).initial lateSubscriberActions).map
      (fun loop => ((loop.plane.readers 3).isSome, loop.plane.published.length,
        (List.range kMaxSubscribers).all fun slot => (loop.plane.readers slot).all fun reader =>
          decide (reader.phase = .idle ∧ loop.plane.shared.descriptorReadIndices slot =
            loop.plane.shared.descriptorWriteIndex))) = some (true, 1, true) := by
    decide +kernel
  obtain ⟨loop, hrun, hloop⟩ := Option.map_eq_some_iff.mp hworker
  rw [hrun, Option.map_some, Option.some.injEq] at hplane
  simp only [Prod.mk.injEq, List.map_cons, List.map_nil, List.cons.injEq, and_true] at hloop
  simp only [Prod.mk.injEq, Option.isSome_iff_exists, List.all_eq_true, List.mem_range] at hplane
  obtain ⟨hpolling, hevents, hwork, hspace, hbroker⟩ := hloop
  obtain ⟨htracked, hlength, hconsumed⟩ := hplane
  have hcreated := @System.ReachableWith.initial _ _ (dataPlane zeroedMapping)
    SharedMemory.StopsBetweenMessages
  have hreach := System.ReachableWith.initial.guardedRun
    stopsBetweenMessages_of_registersOnly hrun
  obtain ⟨pool, hpool, -⟩ := (eventLoop_invariant hcreated hreach).plane
  have hquiet : loop.Quiescent := by
    refine ⟨⟨hpolling, hevents⟩, ?_, ⟨3, htracked⟩, fun slot reader hreader => ?_⟩
    · intro source hsource
      cases source with
      | shutdown => exact absurd rfl hsource
      | publishWork => exact hwork
      | spaceAvailable => exact hspace
      | broker => exact hbroker
    · have hslot := hconsumed slot (hpool.slot_lt hreader)
      rw [hreader] at hslot
      simpa using hslot
  exact ⟨loop, hreach, hquiet, hlength, quiescent_outstanding_nil hcreated hreach hquiet⟩

end DriveBus.Asynchronous
