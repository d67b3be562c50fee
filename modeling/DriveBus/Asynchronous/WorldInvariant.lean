import DriveBus.Asynchronous.Lifecycle
import DriveBus.Asynchronous.WorkerInvariant

/-!
# Invariants of all objects

Every object keeps the invariant of its worker, and the ledger of every ring whose
publisher is gone has been settled.  A move hands the ledger on: in the resting mode
if the destination's worker is started, else in the settled one.
-/

namespace DriveBus.Asynchronous

open DriveBus.ByteMemory DriveBus.SharedMemory

/-! ## One object -/

theorem Invariant.objectNext {object object' : PublisherObject}
    {action : PublisherObject.Action} (hinv : Invariant object.toAsyncPublisher)
    (hnext : object.next action = some object') : Invariant object'.toAsyncPublisher := by
  cases action with
  | step action =>
      have hsound : action.Sound object.toAsyncPublisher := by
        cases action with
        | attempt | checked => cases hnext
        | _ => trivial
      obtain ⟨publisher, hstep, rfl⟩ : ∃ publisher,
          object.toAsyncPublisher.next action = some publisher ∧
            { object with toAsyncPublisher := publisher } = object' := by
        cases action <;> first | cases hnext | exact Option.map_eq_some_iff.mp hnext
      exact hinv.next hsound hstep
  | environment process =>
      cases hnext
      exact hinv
  | control error process =>
      obtain ⟨publisher, hstep, rfl⟩ := Option.map_eq_some_iff.mp hnext
      have hsound : (Action.controlProcessed error).Sound object.toAsyncPublisher := trivial
      exact hinv.next hsound hstep
  | attempt =>
      simp only [PublisherObject.next, PublisherObject.attempt] at hnext
      cases hinFlight : object.queue.inFlight with
      | none => simp [hinFlight] at hnext
      | some inFlight =>
          rw [hinFlight] at hnext
          obtain ⟨publisher, hstep, rfl⟩ := Option.map_eq_some_iff.mp hnext
          have hsound : Action.Sound object.toAsyncPublisher (.attempt
              (tryPublishOne object.process inFlight.message.payload).1
              (appendedPayload object.process.shared
                (tryPublishOne object.process inFlight.message.payload).2.shared)) := by
            intro other hother
            obtain rfl := Option.some.inj (hinFlight.symm.trans hother)
            exact tryPublishOne_sound ..
          exact hinv.next hsound hstep
  | check =>
      obtain ⟨publisher, hstep, rfl⟩ := Option.map_eq_some_iff.mp hnext
      have hsound : Action.Sound object.toAsyncPublisher
          (.checked (canPublishNextMessage object.process.shared object.queue)) :=
        fun _ hcheck => canPublishNextMessage_ne_none hcheck
      exact hinv.next hsound hstep

/-! ## Handing the ledger on -/

theorem Ledger.settled_of_empty {queue : MessageQueue} {journal : Journal} {mode : Mode}
    (hledger : Ledger queue journal mode) (hempty : queue.outstanding = []) :
    Ledger queue journal .settled :=
  { hledger with
    inFlight := trivial
    outstanding := fun _ hmem => absurd (hempty ▸ hmem) List.not_mem_nil }

namespace Invariant

variable {object : PublisherObject}

/-- A worker that is restarted after the move has left its messages unsettled. -/
theorem restartable (hinv : Invariant object.toAsyncPublisher) {stopIntent : WorkerStopIntent}
    (howner : object.owner = .joined stopIntent true) :
    Ledger object.queue object.journal .resting ∧ object.Exits .none := by
  obtain ⟨-, hfalse⟩ | ⟨reason, hworker, -, hrestart⟩ := hinv.stop.joined _ _ howner
  · cases hfalse
  · obtain ⟨rfl, hintent⟩ := hrestart.mp rfl
    exact ⟨hinv.ledger_of hworker (by simp [WorkerPhase.mode, exitMode, hintent]),
      _, hworker, rfl⟩

/-- Any other worker that has been joined has settled them. -/
theorem settled_of_joined (hinv : Invariant object.toAsyncPublisher)
    {stopIntent : WorkerStopIntent} (howner : object.owner = .joined stopIntent false) :
    Ledger object.queue object.journal .settled := by
  obtain ⟨hnone, -⟩ | ⟨reason, hworker, -, hrestart⟩ := hinv.stop.joined _ _ howner
  · have hledger := hinv.ledger
    rwa [AsyncPublisher.mode, hnone] at hledger
  · have hmode : ¬(reason = .none ∧ object.workerStopIntent = .transfer) := fun hboth => by
      cases hrestart.mpr hboth
    exact hinv.ledger_of hworker (by simp [WorkerPhase.mode, exitMode, hmode])

/-- A worker that has been joined for good is never to be restarted. -/
theorem restart_of_destroy (hinv : Invariant object.toAsyncPublisher) {restart : Bool}
    (howner : object.owner = .joined .destroy restart) : restart = false := by
  obtain ⟨-, hfalse⟩ | ⟨-, -, htransfer, -⟩ := hinv.stop.joined _ _ howner
  · exact hfalse
  · cases restart with
    | false => rfl
    | true => cases htransfer rfl

/-- An object without a thread whose messages have been settled. -/
theorem of_settled {publisher : AsyncPublisher}
    (hledger : Ledger publisher.queue publisher.journal .settled)
    (hworker : publisher.worker = none) (howner : publisher.owner = .free)
    (hactive : publisher.runThreadActive = false) (hevents : publisher.events.Nodup) :
    Invariant publisher := by
  refine ⟨?_, by simp [hactive, hworker], by simp [hworker], ?_, hevents, by simp [howner],
    by simp [howner], by simp [howner]⟩
  · rw [AsyncPublisher.mode, hworker]
    exact hledger
  · rintro ⟨phase, hphase, -⟩
    rw [hworker] at hphase
    cases hphase

theorem started {publisher : AsyncPublisher}
    (hledger : Ledger publisher.queue publisher.journal .resting)
    (howner : publisher.owner = .free) (hevents : publisher.events.Nodup)
    (hshutdown : publisher.signalled .shutdown = false)
    (htaken : .shutdown ∉ publisher.events) : Invariant publisher.startRunThread := by
  have hexits : ∀ reason, ¬publisher.startRunThread.Exits reason := by
    rintro reason ⟨_, ⟨⟩, hreason⟩
    cases hreason
  refine ⟨hledger, rfl, ?_, fun hexit => absurd hexit (hexits _), hevents, ?_, ?_, ?_⟩
  · rintro - (hsignal | hevent | hexit)
    · cases hshutdown.symm.trans hsignal
    · exact absurd hevent htaken
    · exact absurd hexit (hexits _)
  · simp [AsyncPublisher.startRunThread, howner]
  · simp [AsyncPublisher.startRunThread, howner]
  · simp [AsyncPublisher.startRunThread, howner]

/-- The worker of a joined object no longer runs. -/
theorem inactive_of_joined (hinv : Invariant object.toAsyncPublisher)
    {stopIntent : WorkerStopIntent} {restart : Bool}
    (howner : object.owner = .joined stopIntent restart) : object.runThreadActive = false := by
  rw [hinv.stop.active]
  obtain ⟨hnone, -⟩ | ⟨reason, hworker, -⟩ := hinv.stop.joined _ _ howner
  · rw [hnone]
    rfl
  · rw [hworker]
    rfl

theorem abandoned (hinv : Invariant object.toAsyncPublisher) {stopIntent : WorkerStopIntent}
    {restart : Bool} (howner : object.owner = .joined stopIntent restart)
    (hledger : Ledger object.queue object.journal .settled) :
    Invariant object.abandoned.toAsyncPublisher :=
  of_settled hledger rfl rfl (hinv.inactive_of_joined howner) hinv.stop.events

/-- A move whose destination's worker is not started. -/
theorem takenFrom (hledger : Ledger object.queue object.journal .settled)
    (hevents : object.events.Nodup) : Invariant object.takenFrom.toAsyncPublisher :=
  of_settled hledger rfl rfl rfl hevents

/-- A move that restarts the worker. -/
theorem restarted (hinv : Invariant object.toAsyncPublisher) {stopIntent : WorkerStopIntent}
    (howner : object.owner = .joined stopIntent true) :
    Invariant object.drainNotifications.takenFrom.startRunThread := by
  obtain ⟨hledger, hexits⟩ := hinv.restartable howner
  exact started hledger rfl hinv.stop.events (by
    simp [PublisherObject.takenFrom, PublisherObject.drainNotifications])
    (hinv.stop.shutdownTaken hexits)

end Invariant

/-! ## All objects -/

structure WorldInvariant (world : World) : Prop where
  objects : ∀ id object, world.objects id = some object → Invariant object.toAsyncPublisher
  archive : ∀ journal ∈ world.archive, ∃ queue, Ledger queue journal .settled

/-- Moves that fail find no message outstanding. -/
def FailsEmpty (world : World) : WorldAction → Prop
  | .transfer source _ outcome => outcome = .succeeds ∨
      ∀ object, world.objects source = some object → object.queue.outstanding = []
  | _ => True

namespace WorldInvariant

variable {world world' : World}

theorem initial : WorldInvariant World.initial where
  objects _ _ hobject := by cases hobject
  archive _ hmem := absurd hmem List.not_mem_nil

theorem setObject (hworld : WorldInvariant world) (id : ℕ) {object : Option PublisherObject}
    (hinv : ∀ present, object = some present → Invariant present.toAsyncPublisher) :
    WorldInvariant (world.setObject id object) where
  objects := by
    intro other present hpresent
    by_cases hother : other = id
    · subst hother
      exact hinv present (by simpa [World.setObject] using hpresent)
    · exact hworld.objects other present (by simpa [World.setObject, hother] using hpresent)
  archive := hworld.archive

theorem archived (hworld : WorldInvariant world) {journals : List Journal}
    (hsettled : ∀ journal ∈ journals, ∃ queue, Ledger queue journal .settled) :
    WorldInvariant { world with archive := world.archive ++ journals } where
  objects := hworld.objects
  archive journal hmem := (List.mem_append.mp hmem).elim (hworld.archive journal)
    (hsettled journal)

/-- A released destination has settled its messages. -/
theorem released (hworld : WorldInvariant world) {id : ℕ} (hreleased : world.Released id)
    {object : PublisherObject} (hobject : world.objects id = some object) :
    object.owner = .joined .destroy false ∧
      Ledger object.queue object.journal .settled := by
  have howner : object.owner = .joined .destroy false := by
    simpa [World.Released, hobject] using hreleased
  exact ⟨howner, (hworld.objects id object hobject).settled_of_joined howner⟩

theorem retired (hworld : WorldInvariant world) {id : ℕ} (hreleased : world.Released id) :
    ∀ journal ∈ world.retired id, ∃ queue, Ledger queue journal .settled := by
  intro journal hmem
  cases hobject : world.objects id with
  | none => simp [World.retired, hobject] at hmem
  | some object =>
      obtain rfl : journal = object.journal := by simpa [World.retired, hobject] using hmem
      exact ⟨_, (hworld.released hreleased hobject).2⟩

theorem create (hworld : WorldInvariant world) {id : ℕ} {process : PublisherProcess}
    (hcreate : world.create id process = some world') : WorldInvariant world' := by
  unfold World.create at hcreate
  split at hcreate
  · cases hcreate
  · cases hcreate
    refine hworld.setObject id fun present hpresent => ?_
    cases hpresent
    exact Invariant.started ledger_empty rfl .nil rfl (by simp)

theorem object (hworld : WorldInvariant world) {id : ℕ} {action : PublisherObject.Action}
    (hobject : world.object id action = some world') : WorldInvariant world' := by
  obtain ⟨object, hpresent, hstep⟩ := Option.bind_eq_some_iff.mp hobject
  obtain ⟨object', hnext, rfl⟩ := Option.map_eq_some_iff.mp hstep
  refine hworld.setObject id fun present hsome => ?_
  cases hsome
  exact (hworld.objects id object hpresent).objectNext hnext

theorem destroy (hworld : WorldInvariant world) {id : ℕ}
    (hdestroy : world.destroy id = some world') : WorldInvariant world' := by
  obtain ⟨object, hpresent, hstep⟩ := Option.bind_eq_some_iff.mp hdestroy
  split at hstep
  · rename_i restart howner
    cases hstep
    have hinv := hworld.objects id object hpresent
    obtain rfl := hinv.restart_of_destroy howner
    refine (hworld.setObject id (by simp)).archived fun journal hmem => ?_
    obtain rfl := List.mem_singleton.mp hmem
    exact ⟨_, hinv.settled_of_joined howner⟩
  · cases hstep

theorem transfer (hworld : WorldInvariant world) {source destination : ℕ}
    {outcome : TransferOutcome}
    (hempty : FailsEmpty world (.transfer source destination outcome))
    (htransfer : world.transfer source destination outcome = some world') :
    WorldInvariant world' := by
  obtain ⟨object, hpresent, hstep⟩ := Option.bind_eq_some_iff.mp htransfer
  have hinv := hworld.objects source object hpresent
  have habsent : WorldInvariant (world.setObject source none) :=
    hworld.setObject source (by simp)
  -- A failing move restarts nothing, so its messages have to be settled already.
  have hsettled : outcome ≠ .succeeds → object.owner = .joined .transfer true →
      Ledger object.queue object.journal .settled := fun houtcome howner =>
    (hinv.restartable howner).1.settled_of_empty
      (hempty.resolve_left houtcome object hpresent)
  split at hstep
  · cases hstep
  · rename_i hguard
    obtain ⟨-, hreleased⟩ := not_or.mp hguard
    rw [not_not] at hreleased
    split at hstep
    · rename_i howner
      cases hstep
      refine (habsent.setObject destination fun present hsome => ?_).archived
        (hworld.retired hreleased)
      cases hsome
      exact Invariant.takenFrom (hinv.settled_of_joined howner) hinv.stop.events
    · rename_i howner
      cases hstep
      refine (habsent.setObject destination fun present hsome => ?_).archived
        (hworld.retired hreleased)
      cases hsome
      exact hinv.restarted howner
    · rename_i howner
      cases hstep
      refine (hworld.setObject source fun present hsome => ?_).setObject destination
        fun present hsome => ?_
      · cases hsome
        exact hinv.abandoned howner (hsettled (by simp) howner)
      · obtain ⟨assigned, hassigned, rfl⟩ := Option.map_eq_some_iff.mp hsome
        obtain ⟨hjoined, hledger⟩ := hworld.released hreleased hassigned
        exact (hworld.objects destination assigned hassigned).abandoned hjoined hledger
    · rename_i howner
      split at hstep
      · cases hstep
        refine habsent.archived fun journal hmem => ?_
        obtain rfl := List.mem_singleton.mp hmem
        exact ⟨_, hsettled (by simp) howner⟩
      · rename_i assigned hassigned
        cases hstep
        refine (habsent.setObject destination fun present hsome => ?_).archived
          fun journal hmem => ?_
        · cases hsome
          exact Invariant.takenFrom (hsettled (by simp) howner) hinv.stop.events
        · obtain rfl := List.mem_singleton.mp hmem
          exact ⟨_, (hworld.released hreleased hassigned).2⟩
    · cases hstep

theorem next (hworld : WorldInvariant world) {action : WorldAction}
    (hempty : FailsEmpty world action) (hnext : world.next action = some world') :
    WorldInvariant world' := by
  cases action with
  | create id process => exact hworld.create hnext
  | object id action => exact hworld.object hnext
  | destroy id => exact hworld.destroy hnext
  | transfer source destination outcome => exact hworld.transfer hempty hnext

end WorldInvariant

open DriveBus.Transition in
theorem worldInvariant_of_reachable {world : World}
    (hreach : lifecycle.ReachableWith FailsEmpty world) : WorldInvariant world :=
  hreach.invariant WorldInvariant WorldInvariant.initial
    fun _ _ _ hworld hempty hnext => hworld.next hempty hnext

end DriveBus.Asynchronous
