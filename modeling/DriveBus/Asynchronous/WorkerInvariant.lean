import DriveBus.Asynchronous.Attempt
import DriveBus.Asynchronous.Ledger

/-!
# The invariant of an asynchronous publisher

The ledger is in the mode that the worker's position names, and the worker leaves its
loop without an error only on a shutdown that the owner has requested after storing
its intent.  Each step of each thread keeps both.
-/

namespace DriveBus.Asynchronous

open DriveBus.ByteMemory DriveBus.SharedMemory

/-! ## Modes of a publisher -/

/-- The reason with which a worker on its exit path has left its loop. -/
def WorkerPhase.exitReason : WorkerPhase → Option RunError
  | leaving reason => some reason
  | inactive reason => some reason
  | completed reason => some reason
  | notified reason => some reason
  | finished reason => some reason
  | _ => none

/-- The worker has not cleared the activity flag yet. -/
def WorkerPhase.isActive : WorkerPhase → Bool
  | inactive _ => false
  | completed _ => false
  | notified _ => false
  | finished _ => false
  | _ => true

theorem WorkerPhase.exists_exitReason (phase : WorkerPhase) (hphase : phase.isActive = false) :
    ∃ reason, phase.exitReason = some reason := by
  cases phase with
  | inactive reason | completed reason | notified reason | finished reason => exact ⟨_, rfl⟩
  | _ => cases hphase

/-- The mode after the exit path has or has not settled the outstanding messages. -/
def exitMode (stopIntent : WorkerStopIntent) (reason : RunError) : Mode :=
  if reason = .none ∧ stopIntent = .transfer then .resting else .settled

def WorkerPhase.mode (stopIntent : WorkerStopIntent) : WorkerPhase → Mode
  | publishing _ => .publishing
  | attempted _ .blocked => .publishing
  | attempted _ .succeeded => .published
  | leaving reason => if reason = .none then .resting else .failing
  | inactive reason => if reason = .none then .resting else .failing
  | completed reason => exitMode stopIntent reason
  | notified reason => exitMode stopIntent reason
  | finished reason => exitMode stopIntent reason
  | _ => .resting

namespace AsyncPublisher

/-- Without a joinable thread every outstanding message has been settled. -/
def mode (publisher : AsyncPublisher) : Mode :=
  publisher.worker.elim .settled (WorkerPhase.mode publisher.workerStopIntent)

/-- The worker is on its exit path with this reason. -/
def Exits (publisher : AsyncPublisher) (reason : RunError) : Prop :=
  ∃ phase, publisher.worker = some phase ∧ phase.exitReason = some reason

/-- The owner has requested the shutdown of an active worker, or has joined it. -/
def Requested (publisher : AsyncPublisher) : Prop :=
  ∃ stopIntent, publisher.owner = .joining stopIntent true ∨
    ∃ restart, publisher.owner = .joined stopIntent restart

end AsyncPublisher

/-! ## The stop protocol -/

structure StopInvariant (publisher : AsyncPublisher) : Prop where
  active : publisher.runThreadActive = publisher.worker.any WorkerPhase.isActive
  shutdown : publisher.worker ≠ none →
    publisher.signalled .shutdown = true ∨ .shutdown ∈ publisher.events ∨
      publisher.Exits .none → publisher.Requested
  shutdownTaken : publisher.Exits .none → .shutdown ∉ publisher.events
  events : publisher.events.Nodup
  intent : ∀ stopIntent, publisher.owner = .intentStored stopIntent ∨
    publisher.owner = .joining stopIntent true → publisher.workerStopIntent = stopIntent
  inactive : ∀ stopIntent, publisher.owner = .activeLoaded stopIntent false ∨
    publisher.owner = .joining stopIntent false → ∃ reason ≠ .none, publisher.Exits reason
  joined : ∀ stopIntent restart, publisher.owner = .joined stopIntent restart →
    publisher.worker = none ∧ restart = false ∨
      ∃ reason, publisher.worker = some (.finished reason) ∧
        (restart = true → stopIntent = .transfer) ∧
        (restart = true ↔ reason = .none ∧ publisher.workerStopIntent = .transfer)

namespace StopInvariant

variable {publisher publisher' : AsyncPublisher} {phase phase' : WorkerPhase}

/-- A step that leaves the worker and its owner where they are. -/
theorem congr (hstop : StopInvariant publisher)
    (hworker : publisher'.worker = publisher.worker)
    (howner : publisher'.owner = publisher.owner)
    (hactive : publisher'.runThreadActive = publisher.runThreadActive)
    (hintent : publisher'.workerStopIntent = publisher.workerStopIntent)
    (hshutdown : publisher'.signalled .shutdown = publisher.signalled .shutdown)
    (hevents : publisher'.events = publisher.events) : StopInvariant publisher' where
  active := by rw [hactive, hworker, hstop.active]
  shutdown := by
    have hold := hstop.shutdown
    simpa only [AsyncPublisher.Exits, AsyncPublisher.Requested, hworker, howner, hshutdown,
      hevents] using hold
  shutdownTaken := by
    have hold := hstop.shutdownTaken
    simpa only [AsyncPublisher.Exits, hworker, hevents] using hold
  events := hevents ▸ hstop.events
  intent := by
    have hold := hstop.intent
    simpa only [howner, hintent] using hold
  inactive := by
    have hold := hstop.inactive
    simpa only [AsyncPublisher.Exits, hworker, howner] using hold
  joined := by
    have hold := hstop.joined
    simpa only [hworker, howner, hintent] using hold

/-- A step of the worker into the exit path or within its loop.  It may have taken
events, and leaves without an error only after it has taken the shutdown event. -/
theorem advance (hstop : StopInvariant publisher)
    (hworker : publisher.worker = some phase) (hloop : phase.exitReason = none)
    (hworker' : publisher'.worker = some phase') (hactive' : phase'.isActive = true)
    (hactive : publisher'.runThreadActive = publisher.runThreadActive)
    (howner : publisher'.owner = publisher.owner)
    (hintent : publisher'.workerStopIntent = publisher.workerStopIntent)
    (hshutdown : publisher'.signalled .shutdown = true → publisher.signalled .shutdown = true)
    (hevents : publisher'.events.Sublist publisher.events)
    (hexit : phase'.exitReason = some .none →
      .shutdown ∈ publisher.events ∧ .shutdown ∉ publisher'.events) :
    StopInvariant publisher' where
  active := by
    have hold := hstop.active
    rw [hworker] at hold
    rw [hactive, hworker', hold]
    have hphase : phase.isActive = true := by
      cases phase <;> first | rfl | cases hloop
    simp [hphase, hactive']
  shutdown := by
    intro _ hrequest
    have hold : publisher.Requested := by
      refine hstop.shutdown (by simp [hworker]) ?_
      obtain hsignal | hevent | ⟨other, hother, hreason⟩ := hrequest
      · exact .inl (hshutdown hsignal)
      · exact .inr (.inl (hevents.subset hevent))
      · obtain rfl := Option.some.inj (hworker'.symm.trans hother)
        exact .inr (.inl (hexit hreason).1)
    simpa only [AsyncPublisher.Requested, howner] using hold
  shutdownTaken := by
    rintro ⟨other, hother, hreason⟩
    obtain rfl := Option.some.inj (hworker'.symm.trans hother)
    exact (hexit hreason).2
  events := hstop.events.sublist hevents
  intent := by
    have hold := hstop.intent
    simpa only [howner, hintent] using hold
  inactive := by
    intro stopIntent hwaits
    obtain ⟨reason, -, other, hother, hreason⟩ := hstop.inactive stopIntent (howner ▸ hwaits)
    obtain rfl := Option.some.inj (hworker.symm.trans hother)
    rw [hloop] at hreason
    cases hreason
  joined := by
    intro stopIntent restart hjoined
    obtain ⟨hnone, -⟩ | ⟨reason, hfinished, -⟩ :=
      hstop.joined stopIntent restart (howner ▸ hjoined)
    · rw [hworker] at hnone
      cases hnone
    · obtain rfl := Option.some.inj (hworker.symm.trans hfinished)
      cases hloop

/-- A step along the exit path. -/
theorem exit (hstop : StopInvariant publisher) {reason : RunError}
    (hworker : publisher.worker = some phase) (hreason : phase.exitReason = some reason)
    (hunfinished : ∀ other, phase ≠ .finished other)
    (hworker' : publisher'.worker = some phase') (hreason' : phase'.exitReason = some reason)
    (hactive : publisher'.runThreadActive = phase'.isActive)
    (howner : publisher'.owner = publisher.owner)
    (hintent : publisher'.workerStopIntent = publisher.workerStopIntent)
    (hshutdown : publisher'.signalled .shutdown = publisher.signalled .shutdown)
    (hevents : publisher'.events = publisher.events) : StopInvariant publisher' := by
  have hexits : ∀ other, publisher'.Exits other ↔ publisher.Exits other := by
    intro other
    simp [AsyncPublisher.Exits, hworker, hworker', hreason, hreason']
  refine ⟨by rw [hactive, hworker']; rfl, ?_, ?_, hevents ▸ hstop.events, ?_, ?_, ?_⟩
  · have hold := hstop.shutdown (by simp [hworker])
    simpa only [hexits, AsyncPublisher.Requested, howner, hshutdown, hevents,
      hworker', ne_eq, reduceCtorEq, not_false_eq_true, forall_const] using hold
  · rw [hexits, hevents]
    exact hstop.shutdownTaken
  · have hold := hstop.intent
    simpa only [howner, hintent] using hold
  · have hold := hstop.inactive
    simpa only [hexits, howner] using hold
  · intro stopIntent restart hjoined
    obtain ⟨hnone, -⟩ | ⟨other, hfinished, -⟩ :=
      hstop.joined stopIntent restart (howner ▸ hjoined)
    · rw [hworker] at hnone
      cases hnone
    · exact absurd (Option.some.inj (hworker.symm.trans hfinished)) (hunfinished other)

end StopInvariant

/-! ## The invariant -/

structure Invariant (publisher : AsyncPublisher) : Prop where
  ledger : Ledger publisher.queue publisher.journal publisher.mode
  stop : StopInvariant publisher

namespace Invariant

variable {publisher publisher' : AsyncPublisher} {phase phase' : WorkerPhase}

theorem mode_eq (hworker : publisher.worker = some phase) :
    publisher.mode = phase.mode publisher.workerStopIntent := by
  rw [AsyncPublisher.mode, hworker]
  rfl

theorem ledger_of (hinv : Invariant publisher) (hworker : publisher.worker = some phase)
    {mode : Mode} (hmode : phase.mode publisher.workerStopIntent = mode) :
    Ledger publisher.queue publisher.journal mode := by
  have hledger := hinv.ledger
  rwa [mode_eq hworker, hmode] at hledger

/-- A publisher whose worker is active has settled nothing. -/
theorem mode_ne_settled (hinv : Invariant publisher)
    (hactive : publisher.runThreadActive = true) : publisher.mode ≠ .settled := by
  have hany := hinv.stop.active.symm.trans hactive
  cases hworker : publisher.worker with
  | none => simp [hworker] at hany
  | some phase =>
      rw [hworker, Option.any_some] at hany
      rw [mode_eq hworker]
      cases phase with
      | attempted published attempt => cases attempt <;> simp [WorkerPhase.mode]
      | leaving reason =>
          simp only [WorkerPhase.mode]
          split <;> simp
      | inactive | completed | notified | finished => cases hany
      | _ => simp [WorkerPhase.mode]

/-! ### The producer -/

theorem publish (hinv : Invariant publisher) (payload : List Byte) (env : EnqueueEnv) :
    Invariant (publisher.publish payload env).2 := by
  unfold AsyncPublisher.publish
  by_cases hlarge : kMaxPayloadSizeBytes < payload.length
  · rw [if_pos hlarge]
    exact hinv
  rw [if_neg hlarge]
  by_cases hactive : publisher.runThreadActive = false
  · rw [if_pos hactive]
    exact hinv
  rw [if_neg hactive]
  have hmode := hinv.mode_ne_settled (eq_true_of_ne_false hactive)
  dsimp only
  cases henqueue : publisher.queue.enqueue env ⟨payload, publisher.journal.nextTicket⟩ with
  | mk result queue' =>
      cases result with
      | thrown destroyed =>
          have hledger := hinv.ledger.enqueue_failed hmode henqueue (by simp)
          cases destroyed with
          | none => exact ⟨hledger.skipTicket, hinv.stop.congr rfl rfl rfl rfl rfl rfl⟩
          | some victim => exact ⟨hledger.skipTicket, hinv.stop.congr rfl rfl rfl rfl rfl rfl⟩
      | notificationFailed =>
          have hledger := hinv.ledger.enqueue_failed hmode henqueue (by simp)
          exact ⟨hledger.skipTicket, hinv.stop.congr rfl rfl rfl rfl rfl rfl⟩
      | accepted overwritten =>
          have hledger := hinv.ledger.enqueue_accepted hmode henqueue
          cases overwritten with
          | none => exact ⟨hledger, hinv.stop.congr rfl rfl rfl rfl rfl rfl⟩
          | some victim => exact ⟨hledger, hinv.stop.congr rfl rfl rfl rfl rfl rfl⟩

/-- A readable descriptor other than the shutdown event. -/
theorem signal (hinv : Invariant publisher) {source : EventSource} (readable : Bool)
    (hsource : source ≠ .shutdown) : Invariant (publisher.setSignalled source readable) :=
  ⟨hinv.ledger, hinv.stop.congr rfl rfl rfl rfl (Function.update_of_ne hsource.symm _ _) rfl⟩

/-! ### The worker's loop -/

/-- A step of the worker that does not take an event. -/
theorem advance (hstop : StopInvariant publisher) (hworker : publisher.worker = some phase)
    (hloop : phase.exitReason = none) (hactive' : phase'.isActive = true)
    (hexit : phase'.exitReason ≠ some .none)
    (hledger : Ledger publisher.queue publisher.journal
      (phase'.mode publisher.workerStopIntent)) :
    Invariant (publisher.setWorker phase') :=
  ⟨hledger, hstop.advance hworker hloop rfl hactive' rfl rfl rfl id (List.Sublist.refl _)
    fun hreason => absurd hreason hexit⟩

theorem leave (hstop : StopInvariant publisher) (hworker : publisher.worker = some phase)
    (hloop : phase.exitReason = none) {reason : RunError} (hreason : reason ≠ .none)
    {mode : Mode} (hledger : Ledger publisher.queue publisher.journal mode)
    (hmode : mode ≠ .settled) : Invariant (publisher.leave reason) := by
  refine advance hstop hworker hloop rfl (by simpa [WorkerPhase.exitReason] using hreason) ?_
  rw [WorkerPhase.mode, if_neg hreason]
  exact hledger.fail hmode

theorem fetch (hinv : Invariant publisher) (hworker : publisher.worker = some .polling)
    {events : List EventSource} (hfetch : publisher.fetch events = some publisher') :
    Invariant publisher' := by
  unfold AsyncPublisher.fetch at hfetch
  split at hfetch
  · obtain ⟨-, -, hnodup, hreadable⟩ := ‹publisher.events = [] ∧ _›
    obtain rfl := Option.some.inj hfetch
    have hexits : ∀ reason, ¬publisher.Exits reason := by
      rintro reason ⟨phase, hphase, hreason⟩
      obtain rfl := Option.some.inj (hworker.symm.trans hphase)
      cases hreason
    refine ⟨hinv.ledger, hinv.stop.active, ?_, fun hexit => absurd hexit (hexits .none), hnodup,
      hinv.stop.intent, hinv.stop.inactive, hinv.stop.joined⟩
    rintro hjoinable (hsignal | hevent | hexit)
    · exact hinv.stop.shutdown hjoinable (.inl hsignal)
    · exact hinv.stop.shutdown hjoinable (.inl (hreadable _ hevent))
    · exact absurd hexit (hexits .none)
  · cases hfetch

theorem fetchFails (hinv : Invariant publisher) (hworker : publisher.worker = some .polling)
    (timedOut : Bool) : Invariant
      (publisher.leave (if timedOut then .unexpectedEpollTimeout else .epollWaitFailed)) := by
  have hledger : Ledger publisher.queue publisher.journal .resting :=
    hinv.ledger_of hworker rfl
  cases timedOut with
  | true => exact leave hinv.stop hworker rfl (by simp) hledger (by simp)
  | false => exact leave hinv.stop hworker rfl (by simp) hledger (by simp)

/-- Taking the next event off the fetched ones. -/
theorem takeEvent (hinv : Invariant publisher) {source : EventSource}
    {events : List EventSource} (hworker : publisher.worker = some .polling)
    (hevents : publisher.events = source :: events) :
    StopInvariant { publisher with events } := by
  have hsublist : events.Sublist publisher.events := hevents ▸ List.sublist_cons_self _ _
  exact hinv.stop.advance hworker rfl hworker rfl rfl rfl rfl id hsublist (by rintro ⟨⟩)

/-- Draining a descriptor other than the shutdown event. -/
theorem drained (hstop : StopInvariant publisher) {source : EventSource} {readable : Bool}
    (hsource : source ≠ .shutdown) : StopInvariant (publisher.setSignalled source readable) :=
  hstop.congr rfl rfl rfl rfl (Function.update_of_ne hsource.symm _ _) rfl

theorem dispatch (hinv : Invariant publisher) (hworker : publisher.worker = some .polling)
    {drains : Bool} (hdispatch : publisher.dispatch drains = some publisher') :
    Invariant publisher' := by
  have hledger : Ledger publisher.queue publisher.journal .resting :=
    hinv.ledger_of hworker rfl
  cases hevents : publisher.events with
  | nil => simp [AsyncPublisher.dispatch, hevents] at hdispatch
  | cons source events =>
      have hstop := hinv.takeEvent hworker hevents
      simp only [AsyncPublisher.dispatch, hevents] at hdispatch
      cases source with
      | publishWork =>
          cases drains with
          | true =>
              cases hdispatch
              exact advance (drained hstop (by simp)) hworker rfl rfl nofun hledger
          | false =>
              cases hdispatch
              exact leave hstop hworker rfl (by simp) hledger (by simp)
      | spaceAvailable =>
          cases drains with
          | true =>
              cases hdispatch
              exact advance (drained hstop (by simp)) hworker rfl rfl nofun hledger
          | false =>
              cases hdispatch
              exact leave hstop hworker rfl (by simp) hledger (by simp)
      | broker =>
          cases hdispatch
          exact advance hstop hworker rfl rfl nofun hledger
      | shutdown =>
          cases drains with
          | true =>
              cases hdispatch
              have hnodup := hinv.stop.events
              rw [hevents, List.nodup_cons] at hnodup
              refine ⟨hledger, hinv.stop.advance hworker rfl rfl rfl rfl rfl rfl ?_
                (hevents ▸ List.sublist_cons_self _ _) fun _ => ⟨by simp [hevents], hnodup.1⟩⟩
              simp [AsyncPublisher.leave, AsyncPublisher.setSignalled, AsyncPublisher.setWorker]
          | false =>
              cases hdispatch
              exact leave hstop hworker rfl (by simp) hledger (by simp)

theorem controlProcessed (hinv : Invariant publisher)
    (hworker : publisher.worker = some .controlling) (error : RunError) :
    Invariant (publisher.controlProcessed error) := by
  have hledger : Ledger publisher.queue publisher.journal .resting :=
    hinv.ledger_of hworker rfl
  unfold AsyncPublisher.controlProcessed
  split
  · exact advance (drained hinv.stop (by simp)) hworker rfl rfl nofun hledger
  · exact leave hinv.stop hworker rfl ‹error ≠ .none› hledger (by simp)

theorem endLoop (hstop : StopInvariant publisher) (hworker : publisher.worker = some phase)
    (hloop : phase.exitReason = none)
    (hledger : Ledger publisher.queue publisher.journal .resting) :
    Invariant publisher.endLoop := by
  unfold AsyncPublisher.endLoop
  split
  · exact advance hstop hworker hloop rfl nofun hledger
  · exact advance hstop hworker hloop rfl nofun hledger

theorem enterLoop (hstop : StopInvariant publisher) (hworker : publisher.worker = some phase)
    (hloop : phase.exitReason = none)
    (hledger : Ledger publisher.queue publisher.journal .resting) (published : ℕ) :
    Invariant (publisher.enterLoop published) := by
  unfold AsyncPublisher.enterLoop
  split
  · cases hbegin : publisher.queue.beginPublishing with
    | none => exact endLoop hstop hworker hloop hledger
    | some next =>
        obtain ⟨message, queue'⟩ := next
        have hstop' : StopInvariant { publisher with queue := queue' } :=
          hstop.congr rfl rfl rfl rfl rfl rfl
        exact advance hstop' hworker hloop rfl nofun
          (hledger.beginPublishing hbegin)
  · exact endLoop hstop hworker hloop hledger

theorem beginWork (hinv : Invariant publisher)
    (hworker : publisher.worker = some .workDrained) : Invariant publisher.beginWork := by
  have hledger : Ledger publisher.queue publisher.journal .resting :=
    hinv.ledger_of hworker rfl
  unfold AsyncPublisher.beginWork
  split
  · exact advance hinv.stop hworker rfl rfl nofun hledger
  · have hstop : StopInvariant { publisher with publisherReady := true } :=
      hinv.stop.congr rfl rfl rfl rfl rfl rfl
    exact enterLoop hstop hworker rfl hledger 0

theorem attempt (hinv : Invariant publisher) {published : ℕ}
    (hworker : publisher.worker = some (.publishing published))
    {result : Except RunError PublishAttempt} {appended : Option (List Byte)}
    (hsound : ∀ inFlight, publisher.queue.inFlight = some inFlight →
      AttemptSound inFlight.message.payload result appended) :
    Invariant (publisher.attempt published result appended) := by
  have hledger : Ledger publisher.queue publisher.journal .publishing :=
    hinv.ledger_of hworker rfl
  obtain ⟨message, hinFlight, -⟩ := hledger.inFlight
  have hresult := hsound _ hinFlight
  have hstop : StopInvariant { publisher with
      journal := { publisher.journal with
        appended := publisher.journal.appended ++ [message] } } :=
    hinv.stop.congr rfl rfl rfl rfl rfl rfl
  unfold AsyncPublisher.attempt AsyncPublisher.logAppended
  rw [hinFlight]
  cases result with
  | error error =>
      obtain ⟨hreason, rfl | rfl⟩ := hresult
      · exact leave hinv.stop hworker rfl hreason hledger (by simp)
      · exact leave hstop hworker rfl hreason (hledger.append hinFlight) (by simp)
  | ok outcome =>
      cases outcome with
      | blocked =>
          obtain rfl : appended = none := hresult
          exact advance hinv.stop hworker rfl rfl nofun hledger
      | succeeded =>
          obtain rfl : appended = some message.payload := hresult
          exact advance hstop hworker rfl rfl nofun
            (hledger.append hinFlight)

theorem recordAttempt (hinv : Invariant publisher) {published : ℕ} {outcome : PublishAttempt}
    (hworker : publisher.worker = some (.attempted published outcome)) :
    Invariant (publisher.recordAttempt published outcome) := by
  cases outcome with
  | blocked =>
      have hledger : Ledger publisher.queue publisher.journal .publishing :=
        hinv.ledger_of hworker rfl
      have hstop : StopInvariant { publisher with
          publisherReady := false, queue := publisher.queue.block } :=
        hinv.stop.congr rfl rfl rfl rfl rfl rfl
      exact endLoop hstop hworker rfl hledger.block
  | succeeded =>
      have hledger : Ledger publisher.queue publisher.journal .published :=
        hinv.ledger_of hworker rfl
      obtain ⟨message, hinFlight, -⟩ := hledger.inFlight
      have hstop : StopInvariant { publisher with
          journal := publisher.journal.setValue .published message
          queue := publisher.queue.clearInFlight } :=
        hinv.stop.congr rfl rfl rfl rfl rfl rfl
      unfold AsyncPublisher.recordAttempt
      rw [hinFlight]
      exact enterLoop hstop hworker rfl (hledger.publish hinFlight) _

theorem reschedule (hinv : Invariant publisher)
    (hworker : publisher.worker = some .rescheduling) (signals : Bool) :
    Invariant (publisher.reschedule signals) := by
  have hledger : Ledger publisher.queue publisher.journal .resting :=
    hinv.ledger_of hworker rfl
  cases signals with
  | true =>
      exact advance (drained hinv.stop (by simp)) hworker rfl rfl nofun hledger
  | false => exact leave hinv.stop hworker rfl (by simp) hledger (by simp)

theorem checked (hinv : Invariant publisher) {resumer : Resumer}
    (hworker : publisher.worker = some (.checking resumer))
    {readiness : Except RunError PublishReadiness}
    (hsound : ∀ error, readiness = .error error → error ≠ .none) :
    Invariant (publisher.checked resumer readiness) := by
  have hledger : Ledger publisher.queue publisher.journal .resting :=
    hinv.ledger_of hworker rfl
  cases readiness with
  | error error => exact leave hinv.stop hworker rfl (hsound error rfl) hledger (by simp)
  | ok answer =>
      cases answer with
      | ready =>
          have hstop : StopInvariant { publisher with publisherReady := true } :=
            hinv.stop.congr rfl rfl rfl rfl rfl rfl
          exact advance hstop hworker rfl rfl nofun hledger
      | blocked =>
          exact advance hinv.stop hworker rfl rfl nofun hledger
      | noMessage =>
          exact advance hinv.stop hworker rfl rfl nofun hledger

theorem resume (hinv : Invariant publisher) {resumer : Resumer}
    (hworker : publisher.worker = some (.resuming resumer)) (signals : Bool) :
    Invariant (publisher.resume resumer signals) := by
  have hledger : Ledger publisher.queue publisher.journal .resting :=
    hinv.ledger_of hworker rfl
  cases signals with
  | true =>
      exact advance (drained hinv.stop (by simp)) hworker rfl rfl nofun hledger
  | false =>
      have hreason : resumer.resumeError ≠ .none := by cases resumer <;> nofun
      exact leave hinv.stop hworker rfl hreason hledger (by simp)

/-! ### The exit path -/

theorem deactivate (hinv : Invariant publisher) {reason : RunError}
    (hworker : publisher.worker = some (.leaving reason)) :
    Invariant ({ publisher with runThreadActive := false }.setWorker (.inactive reason)) :=
  ⟨hinv.ledger_of hworker rfl, hinv.stop.exit hworker rfl nofun rfl rfl rfl rfl rfl rfl rfl⟩

theorem complete (hinv : Invariant publisher) {reason : RunError}
    (hworker : publisher.worker = some (.inactive reason)) :
    Invariant (publisher.complete reason) := by
  have hledger := hinv.ledger_of hworker rfl
  have hactive := hinv.stop.active
  rw [hworker] at hactive
  by_cases hreason : reason = .none
  · rw [WorkerPhase.mode, if_pos hreason] at hledger
    by_cases hintent : publisher.workerStopIntent = .transfer
    · have hcomplete : publisher.complete reason = publisher.setWorker (.completed reason) := by
        simp [AsyncPublisher.complete, hreason, hintent]
      have hmode : exitMode publisher.workerStopIntent reason = .resting := by
        simp [exitMode, hreason, hintent]
      rw [← hmode] at hledger
      rw [hcomplete]
      exact ⟨hledger, hinv.stop.exit hworker rfl nofun rfl rfl hactive rfl rfl rfl rfl⟩
    · have hcomplete : publisher.complete reason =
          (publisher.completeOutstandingMessages .workerStopped).setWorker (.completed reason) := by
        simp [AsyncPublisher.complete, hreason, hintent]
      have hmode : exitMode publisher.workerStopIntent reason = .settled := by
        simp [exitMode, hintent]
      have hsettled := hledger.complete (by simp) (.inr ⟨rfl, rfl⟩)
      rw [← hmode] at hsettled
      rw [hcomplete]
      exact ⟨hsettled, hinv.stop.exit hworker rfl nofun rfl rfl hactive rfl rfl rfl rfl⟩
  · rw [WorkerPhase.mode, if_neg hreason] at hledger
    have hcomplete : publisher.complete reason =
        (publisher.completeOutstandingMessages .workerFailed).setWorker (.completed reason) := by
      simp [AsyncPublisher.complete, hreason]
    have hmode : exitMode publisher.workerStopIntent reason = .settled := by
      simp [exitMode, hreason]
    have hsettled := hledger.complete (by simp) (.inl rfl)
    rw [← hmode] at hsettled
    rw [hcomplete]
    exact ⟨hsettled, hinv.stop.exit hworker rfl nofun rfl rfl hactive rfl rfl rfl rfl⟩

theorem notify (hinv : Invariant publisher) {reason : RunError}
    (hworker : publisher.worker = some (.completed reason)) :
    Invariant (publisher.setWorker (.notified reason)) := by
  have hactive := hinv.stop.active
  rw [hworker] at hactive
  exact ⟨hinv.ledger_of hworker rfl,
    hinv.stop.exit hworker rfl nofun rfl rfl hactive rfl rfl rfl rfl⟩

theorem signalExit (hinv : Invariant publisher) {reason : RunError}
    (hworker : publisher.worker = some (.notified reason)) (signals : Bool) :
    Invariant (publisher.signalExit reason signals) := by
  have hactive := hinv.stop.active
  rw [hworker] at hactive
  exact ⟨hinv.ledger_of hworker rfl,
    hinv.stop.exit hworker rfl nofun rfl rfl hactive rfl rfl rfl rfl⟩

/-! ### The owner -/

/-- Before a request no worker has left its loop without an error. -/
theorem exits_ne_none (hinv : Invariant publisher) (hrequested : ¬publisher.Requested)
    {reason : RunError} (hexits : publisher.Exits reason) : reason ≠ .none := by
  rintro rfl
  obtain ⟨phase, hworker, -⟩ := id hexits
  exact hrequested (hinv.stop.shutdown (by simp [hworker]) (.inr (.inr hexits)))

theorem beginStop (hinv : Invariant publisher) (howner : publisher.owner = .free)
    (stopIntent : WorkerStopIntent) : Invariant (publisher.beginStop stopIntent) := by
  have hrequested : ¬publisher.Requested := by simp [AsyncPublisher.Requested, howner]
  cases hworker : publisher.worker with
  | none =>
      have hstep : publisher.beginStop stopIntent =
          { publisher with owner := .joined stopIntent false } := by
        simp [AsyncPublisher.beginStop, hworker]
      rw [hstep]
      refine ⟨hinv.ledger, hinv.stop.active, fun hjoinable => absurd hworker hjoinable,
        hinv.stop.shutdownTaken, hinv.stop.events, by simp, by simp, ?_⟩
      rintro _ _ ⟨⟩
      exact .inl ⟨hworker, rfl⟩
  | some phase =>
      have hstep : publisher.beginStop stopIntent =
          { publisher with owner := .activeLoaded stopIntent publisher.runThreadActive } := by
        simp [AsyncPublisher.beginStop, hworker]
      rw [hstep]
      refine ⟨hinv.ledger, hinv.stop.active, ?_, hinv.stop.shutdownTaken, hinv.stop.events,
        by simp, ?_, by simp⟩
      · exact fun hjoinable hrequest =>
          absurd (hinv.stop.shutdown hjoinable hrequest) hrequested
      · intro other hloaded
        have hinactive : stopIntent = other ∧ publisher.runThreadActive = false := by
          simpa using hloaded
        have hphase := hinv.stop.active.symm.trans hinactive.2
        rw [hworker, Option.any_some] at hphase
        obtain ⟨reason, hreason⟩ := phase.exists_exitReason hphase
        have hexit : publisher.Exits reason := ⟨phase, hworker, hreason⟩
        exact ⟨reason, hinv.exits_ne_none hrequested hexit, hexit⟩

/-- The intent decides the mode of a worker that left its loop without an error only. -/
theorem mode_storeIntent (hinv : Invariant publisher) (hrequested : ¬publisher.Requested)
    (hworker : publisher.worker = some phase) (stopIntent : WorkerStopIntent) :
    phase.mode stopIntent = phase.mode publisher.workerStopIntent := by
  have hexits : ∀ reason, phase.exitReason = some reason → reason ≠ .none :=
    fun reason hreason => hinv.exits_ne_none hrequested ⟨phase, hworker, hreason⟩
  cases phase with
  | completed reason | notified reason | finished reason =>
      simp [WorkerPhase.mode, exitMode, hexits reason rfl]
  | attempted published attempt => cases attempt <;> rfl
  | _ => rfl

theorem storeIntent (hinv : Invariant publisher) {stopIntent : WorkerStopIntent}
    {wasActive : Bool} (howner : publisher.owner = .activeLoaded stopIntent wasActive) :
    Invariant (publisher.storeIntent stopIntent wasActive) := by
  have hrequested : ¬publisher.Requested := by simp [AsyncPublisher.Requested, howner]
  have hshutdown : publisher.worker ≠ none →
      ¬(publisher.signalled .shutdown = true ∨ .shutdown ∈ publisher.events ∨
        publisher.Exits .none) :=
    fun hjoinable hrequest => hrequested (hinv.stop.shutdown hjoinable hrequest)
  unfold AsyncPublisher.storeIntent
  cases wasActive with
  | true =>
      refine ⟨?_, hinv.stop.active, fun hjoinable hrequest => absurd hrequest (hshutdown hjoinable),
        hinv.stop.shutdownTaken, hinv.stop.events, by simp, by simp, by simp⟩
      have hledger := hinv.ledger
      unfold AsyncPublisher.mode at hledger ⊢
      cases hworker : publisher.worker with
      | none => simpa [hworker] using hledger
      | some phase =>
          rw [hworker, Option.elim_some] at hledger
          simpa [hworker, hinv.mode_storeIntent hrequested hworker stopIntent] using hledger
  | false =>
      refine ⟨hinv.ledger, hinv.stop.active,
        fun hjoinable hrequest => absurd hrequest (hshutdown hjoinable), hinv.stop.shutdownTaken,
        hinv.stop.events, by simp, ?_, by simp⟩
      intro other hwaits
      obtain rfl : stopIntent = other := by simpa using hwaits
      exact hinv.stop.inactive stopIntent (.inl howner)

theorem signalShutdown (hinv : Invariant publisher) {stopIntent : WorkerStopIntent}
    (howner : publisher.owner = .intentStored stopIntent) (signals : Bool) :
    Invariant (publisher.signalShutdown stopIntent signals) := by
  refine ⟨hinv.ledger, hinv.stop.active, fun _ _ => ⟨stopIntent, .inl rfl⟩,
    hinv.stop.shutdownTaken, hinv.stop.events, ?_, ?_, ?_⟩
  · intro other hother
    obtain rfl : stopIntent = other := by
      simpa [AsyncPublisher.signalShutdown] using hother
    exact hinv.stop.intent stopIntent (.inl howner)
  · simp [AsyncPublisher.signalShutdown]
  · simp [AsyncPublisher.signalShutdown]

theorem join (hinv : Invariant publisher) {stopIntent : WorkerStopIntent} {wasActive : Bool}
    (howner : publisher.owner = .joining stopIntent wasActive)
    (hjoin : publisher.join stopIntent wasActive = some publisher') : Invariant publisher' := by
  unfold AsyncPublisher.join at hjoin
  split at hjoin
  · rename_i reason hworker
    obtain rfl := Option.some.inj hjoin
    refine ⟨hinv.ledger, hinv.stop.active, fun _ _ => ⟨stopIntent, .inr ⟨_, rfl⟩⟩,
      hinv.stop.shutdownTaken, hinv.stop.events, by simp, by simp, ?_⟩
    rintro _ _ ⟨⟩
    refine .inr ⟨reason, hworker, by simpa using fun _ htransfer _ => htransfer, ?_⟩
    cases wasActive with
    | true =>
        have hintent := hinv.stop.intent stopIntent (.inr howner)
        simp [← hintent, and_comm]
    | false =>
        obtain ⟨other, hother, phase, hphase, hreason⟩ :=
          hinv.stop.inactive stopIntent (.inr howner)
        obtain rfl := Option.some.inj (hworker.symm.trans hphase)
        obtain rfl := Option.some.inj hreason
        simp [hother]
  · cases hjoin

/-! ### One step -/

end Invariant

/-- The mapping answers an attempt or a check as it may. -/
def Action.Sound (publisher : AsyncPublisher) : Action → Prop
  | .attempt result appended => ∀ inFlight, publisher.queue.inFlight = some inFlight →
      AttemptSound inFlight.message.payload result appended
  | .checked readiness => ∀ error, readiness = .error error → error ≠ .none
  | _ => True

/-- Every step of every thread keeps the invariant. -/
theorem Invariant.next {publisher publisher' : AsyncPublisher} {action : Action}
    (hinv : Invariant publisher) (hsound : action.Sound publisher)
    (hnext : publisher.next action = some publisher') : Invariant publisher' := by
  unfold AsyncPublisher.next at hnext
  split at hnext
  · cases hnext
    exact hinv.publish _ _
  · cases hnext
    exact hinv.signal _ (by simp)
  · cases hnext
    exact hinv.signal _ (by simp)
  · exact hinv.fetch ‹_› hnext
  · split at hnext
    · cases hnext
      exact hinv.fetchFails ‹_› _
    · cases hnext
  · exact hinv.dispatch ‹_› hnext
  · cases hnext
    exact hinv.controlProcessed ‹_› _
  · cases hnext
    exact hinv.beginWork ‹_›
  · cases hnext
    exact hinv.attempt ‹_› hsound
  · cases hnext
    exact hinv.recordAttempt ‹_›
  · cases hnext
    exact hinv.reschedule ‹_› _
  · cases hnext
    exact hinv.checked ‹_› hsound
  · cases hnext
    exact hinv.resume ‹_› _
  · cases hnext
    exact hinv.deactivate ‹_›
  · cases hnext
    exact hinv.complete ‹_›
  · cases hnext
    exact hinv.notify ‹_›
  · cases hnext
    exact hinv.signalExit ‹_› _
  · cases hnext
    exact hinv.beginStop ‹_› _
  · cases hnext
    exact hinv.storeIntent ‹_›
  · cases hnext
    exact hinv.signalShutdown ‹_› _
  · exact hinv.join ‹_› hnext
  · cases hnext

end DriveBus.Asynchronous
