import DriveBus.Asynchronous.WorldInvariant
import DriveBus.SharedMemory.Delivery

/-!
# Completion of accepted messages

The promise of an accepted message is set once, by the worker, by the producer that
overwrites the message or by the exit path, and no later than the publisher is
destroyed.  The one way out is an exception that strikes a producer after it has moved
the oldest message out of a full queue: that message is destroyed with its promise.
-/

namespace DriveBus.Asynchronous

open DriveBus.ByteMemory DriveBus.SharedMemory DriveBus.Transition

/-! ## Conditions on steps -/

/-- The call moves a message out of a full queue and then runs out of memory: for the
copy of its payload, or after a failed signal for putting the message back. -/
def EnqueueEnv.LosesOldest (env : EnqueueEnv) (queue : MessageQueue) : Prop :=
  kMaxOutstandingMessages ≤ queue.queuedMessageCount ∧
    (env.copies = false ∨ env.signals = false ∧ env.reinserts = false)

/-- The call gets as far as the queue and then loses the oldest message. -/
def PublisherObject.LosesOldest (object : PublisherObject) (payload : List Byte)
    (env : EnqueueEnv) : Prop :=
  payload.length ≤ kMaxPayloadSizeBytes ∧ object.runThreadActive = true ∧
    env.LosesOldest object.queue

def KeepsOldest (world : World) : WorldAction → Prop
  | .object id (.step (.publish payload env)) => ∀ object, world.objects id = some object →
      ¬object.LosesOldest payload env
  | _ => True

def MovesSucceed : WorldAction → Prop
  | .transfer _ _ outcome => outcome = .succeeds
  | _ => True

theorem failsEmpty_of_movesSucceed (world : World) {action : WorldAction}
    (hmoves : MovesSucceed action) : FailsEmpty world action := by
  cases action with
  | transfer source destination outcome => exact .inl hmoves
  | _ => trivial

/-! ## One message -/

namespace Ledger

variable {queue : MessageQueue} {journal : Journal} {mode : Mode} {message : PendingMessage}

theorem completed_cases (hledger : Ledger queue journal mode)
    (haccepted : message ∈ journal.accepted) :
    (journal.completions message.ticket).length = 1 ∨
      journal.completions message.ticket = [] ∧
        (message ∈ queue.outstanding ∨ message ∈ journal.destroyed) := by
  by_cases hmem : message ∈ queue.outstanding
  · have hpromise := hledger.outstanding message hmem
    cases mode with
    | settled =>
        obtain hfailed | ⟨hstopped, -⟩ := hpromise
        · exact .inl (by simp [hfailed])
        · exact .inl (by simp [hstopped])
    | resting | publishing | published | failing => exact .inr ⟨hpromise, .inl hmem⟩
  · obtain ⟨hpublished, -⟩ | ⟨-, hoverwritten | ⟨hnone, hdestroyed⟩⟩ :=
      hledger.others message haccepted hmem
    · exact .inl (by simp [hpublished])
    · exact .inl (by simp [hoverwritten])
    · exact .inr ⟨hnone, .inr hdestroyed⟩

theorem completed_of_settled (hledger : Ledger queue journal .settled)
    (haccepted : message ∈ journal.accepted) (hkept : message ∉ journal.destroyed) :
    (journal.completions message.ticket).length = 1 := by
  obtain hdone | ⟨hnone, hmem | hdestroyed⟩ := hledger.completed_cases haccepted
  · exact hdone
  · obtain hfailed | ⟨hstopped, -⟩ := hledger.outstanding message hmem
    · simp [hfailed]
    · simp [hstopped]
  · exact absurd hdestroyed hkept

end Ledger

/-! ## What only a call of `publish` changes -/

/-- Neither history knows a call that the other one does not know. -/
structure Journal.SameCalls (before after : Journal) : Prop where
  nextTicket : after.nextTicket = before.nextTicket
  accepted : after.accepted = before.accepted
  destroyed : after.destroyed = before.destroyed

theorem Journal.SameCalls.trans {before middle after : Journal}
    (hfirst : before.SameCalls middle) (hsecond : middle.SameCalls after) :
    before.SameCalls after where
  nextTicket := hsecond.nextTicket.trans hfirst.nextTicket
  accepted := hsecond.accepted.trans hfirst.accepted
  destroyed := hsecond.destroyed.trans hfirst.destroyed

namespace AsyncPublisher

variable (publisher : AsyncPublisher)

theorem sameCalls_endLoop : publisher.journal.SameCalls publisher.endLoop.journal := by
  unfold endLoop
  split <;> exact ⟨rfl, rfl, rfl⟩

theorem sameCalls_enterLoop (published : ℕ) :
    publisher.journal.SameCalls (publisher.enterLoop published).journal := by
  unfold enterLoop
  split
  · split
    · exact ⟨rfl, rfl, rfl⟩
    · exact publisher.sameCalls_endLoop
  · exact publisher.sameCalls_endLoop

theorem sameCalls_beginWork : publisher.journal.SameCalls publisher.beginWork.journal := by
  unfold beginWork
  split
  · exact ⟨rfl, rfl, rfl⟩
  · exact sameCalls_enterLoop { publisher with publisherReady := true } 0

theorem sameCalls_attempt (published : ℕ) (result : Except RunError PublishAttempt)
    (appended : Option (List Byte)) :
    publisher.journal.SameCalls (publisher.attempt published result appended).journal := by
  have hlogged : publisher.journal.SameCalls (publisher.logAppended appended).journal := by
    unfold logAppended
    split <;> exact ⟨rfl, rfl, rfl⟩
  cases result <;> exact hlogged

theorem sameCalls_recordAttempt (published : ℕ) (outcome : PublishAttempt) :
    publisher.journal.SameCalls (publisher.recordAttempt published outcome).journal := by
  cases outcome with
  | blocked => exact sameCalls_endLoop { publisher with
      publisherReady := false, queue := publisher.queue.block }
  | succeeded =>
      refine Journal.SameCalls.trans ?_ (sameCalls_enterLoop _ _)
      dsimp only
      split <;> exact ⟨rfl, rfl, rfl⟩

theorem sameCalls_complete (reason : RunError) :
    publisher.journal.SameCalls (publisher.complete reason).journal := by
  have hsettled : ∀ completion, publisher.journal.SameCalls
      (publisher.completeOutstandingMessages completion).journal := by
    intro completion
    obtain ⟨haccepted, -, hdestroyed, hnext⟩ :=
      Ledger.accepted_foldl publisher.journal publisher.queue.outstanding completion
    exact ⟨hnext, haccepted, hdestroyed⟩
  unfold complete
  dsimp only
  split
  · exact hsettled _
  · split
    · exact hsettled _
    · exact ⟨rfl, rfl, rfl⟩

/-- No step but a call of `publish` changes what is known of the calls. -/
theorem sameCalls_next {publisher publisher' : AsyncPublisher} {action : Action}
    (hother : ∀ payload env, action ≠ .publish payload env)
    (hnext : publisher.next action = some publisher') :
    publisher.journal.SameCalls publisher'.journal := by
  unfold next at hnext
  split at hnext
  · exact absurd rfl (hother _ _)
  · cases hnext; exact ⟨rfl, rfl, rfl⟩
  · cases hnext; exact ⟨rfl, rfl, rfl⟩
  · unfold fetch at hnext
    split at hnext <;> cases hnext
    exact ⟨rfl, rfl, rfl⟩
  · split at hnext <;> cases hnext
    exact ⟨rfl, rfl, rfl⟩
  · unfold dispatch at hnext
    split at hnext
    · cases hnext
    · dsimp only at hnext
      split at hnext <;> cases hnext <;> exact ⟨rfl, rfl, rfl⟩
  · cases hnext
    unfold controlProcessed
    split <;> exact ⟨rfl, rfl, rfl⟩
  · cases hnext
    exact publisher.sameCalls_beginWork
  · cases hnext
    exact publisher.sameCalls_attempt _ _ _
  · cases hnext
    exact publisher.sameCalls_recordAttempt _ _
  · cases hnext
    unfold reschedule
    split <;> exact ⟨rfl, rfl, rfl⟩
  · cases hnext
    unfold checked
    split <;> exact ⟨rfl, rfl, rfl⟩
  · cases hnext
    unfold resume
    split <;> exact ⟨rfl, rfl, rfl⟩
  · cases hnext; exact ⟨rfl, rfl, rfl⟩
  · cases hnext
    exact publisher.sameCalls_complete _
  · cases hnext; exact ⟨rfl, rfl, rfl⟩
  · cases hnext; exact ⟨rfl, rfl, rfl⟩
  · cases hnext
    unfold beginStop
    split <;> exact ⟨rfl, rfl, rfl⟩
  · cases hnext
    unfold storeIntent
    split <;> exact ⟨rfl, rfl, rfl⟩
  · cases hnext; exact ⟨rfl, rfl, rfl⟩
  · unfold join at hnext
    split at hnext <;> cases hnext
    exact ⟨rfl, rfl, rfl⟩
  · cases hnext

theorem destroyed_publish {payload : List Byte} {env : EnqueueEnv}
    (hkeeps : payload.length ≤ kMaxPayloadSizeBytes → publisher.runThreadActive = true →
      ¬env.LosesOldest publisher.queue) :
    (publisher.publish payload env).2.journal.destroyed = publisher.journal.destroyed := by
  unfold publish
  split
  case isTrue => rfl
  case isFalse hsize =>
  split
  case isTrue => rfl
  case isFalse hactive =>
  have hresult : ∀ victim queue', publisher.queue.enqueue env
      ⟨payload, publisher.journal.nextTicket⟩ ≠ (.thrown (some victim), queue') := by
    intro victim queue' henqueue
    refine hkeeps (not_lt.mp hsize) (eq_true_of_ne_false hactive) ?_
    obtain ⟨copies, signals, reinserts⟩ := env
    unfold MessageQueue.enqueue at henqueue
    have hfull : kMaxOutstandingMessages ≤ publisher.queue.queuedMessageCount := by
      by_contra hroom
      rw [MessageQueue.takeOverwritten_room (not_le.mp hroom)] at henqueue
      cases copies <;> cases signals <;> cases henqueue
    refine ⟨hfull, ?_⟩
    cases htake : publisher.queue.takeOverwritten with
    | mk overwritten taken =>
        rw [htake] at henqueue
        cases overwritten <;> cases copies <;> cases signals <;> cases reinserts <;>
          simp_all
  dsimp only
  cases henqueue : publisher.queue.enqueue env ⟨payload, publisher.journal.nextTicket⟩ with
  | mk result queue' =>
      cases result with
      | accepted overwritten => cases overwritten <;> rfl
      | notificationFailed => rfl
      | thrown destroyed =>
          cases destroyed with
          | none => rfl
          | some victim => exact absurd henqueue (hresult victim queue')

end AsyncPublisher

/-- A step of an object is a call of `publish` or leaves the calls alone. -/
theorem PublisherObject.next_cases {object object' : PublisherObject}
    {action : PublisherObject.Action} (hnext : object.next action = some object') :
    (∃ payload env, action = .step (.publish payload env) ∧
      object'.toAsyncPublisher = (object.publish payload env).2) ∨
      object.journal.SameCalls object'.journal := by
  cases action with
  | step action =>
      obtain ⟨publisher, hstep, rfl⟩ : ∃ publisher,
          object.toAsyncPublisher.next action = some publisher ∧
            { object with toAsyncPublisher := publisher } = object' := by
        cases action <;> first | cases hnext | exact Option.map_eq_some_iff.mp hnext
      cases action with
      | publish payload env =>
          refine .inl ⟨payload, env, rfl, ?_⟩
          unfold AsyncPublisher.next at hstep
          split at hstep <;> simp_all
      | _ => exact .inr (AsyncPublisher.sameCalls_next (by simp) hstep)
  | environment process =>
      cases hnext
      exact .inr ⟨rfl, rfl, rfl⟩
  | control error process =>
      obtain ⟨publisher, hstep, rfl⟩ := Option.map_eq_some_iff.mp hnext
      exact .inr (AsyncPublisher.sameCalls_next (by simp) hstep)
  | attempt =>
      simp only [PublisherObject.next, PublisherObject.attempt] at hnext
      split at hnext
      · cases hnext
      · obtain ⟨publisher, hstep, rfl⟩ := Option.map_eq_some_iff.mp hnext
        exact .inr (AsyncPublisher.sameCalls_next (by simp) hstep)
  | check =>
      obtain ⟨publisher, hstep, rfl⟩ := Option.map_eq_some_iff.mp hnext
      exact .inr (AsyncPublisher.sameCalls_next (by simp) hstep)

/-! ## Histories of all rings -/

/-- The history of a ring whose publisher exists, or is gone. -/
def World.HasJournal (world : World) (journal : Journal) : Prop :=
  (∃ id object, world.objects id = some object ∧ object.journal = journal) ∨
    journal ∈ world.archive

namespace World

variable {world world' : World} {journal : Journal}

theorem hasJournal_setObject {id : ℕ} {object : Option PublisherObject}
    (hjournal : (world.setObject id object).HasJournal journal) :
    world.HasJournal journal ∨ ∃ present, object = some present ∧ present.journal = journal := by
  obtain ⟨other, present, hpresent, rfl⟩ | harchived := hjournal
  · by_cases hother : other = id
    · subst hother
      exact .inr ⟨present, by simpa [setObject] using hpresent, rfl⟩
    · exact .inl (.inl ⟨other, present, by simpa [setObject, hother] using hpresent, rfl⟩)
  · exact .inl (.inr harchived)

theorem hasJournal_archived {journals : List Journal}
    (hjournal : HasJournal { world with archive := world.archive ++ journals } journal) :
    world.HasJournal journal ∨ journal ∈ journals := by
  obtain hobject | harchived := hjournal
  · exact .inl (.inl hobject)
  · exact (List.mem_append.mp harchived).imp .inr id

theorem hasJournal_retired {id : ℕ} (hmem : journal ∈ world.retired id) :
    world.HasJournal journal := by
  cases hobject : world.objects id with
  | none => simp [retired, hobject] at hmem
  | some object =>
      obtain rfl : journal = object.journal := by simpa [retired, hobject] using hmem
      exact .inl ⟨id, object, hobject, rfl⟩

/-- A move passes the histories on as they are. -/
theorem hasJournal_transfer {source destination : ℕ} {outcome : TransferOutcome}
    (htransfer : world.transfer source destination outcome = some world')
    (hjournal : world'.HasJournal journal) : world.HasJournal journal := by
  obtain ⟨object, hpresent, hstep⟩ := Option.bind_eq_some_iff.mp htransfer
  have hobject : world.HasJournal object.journal := .inl ⟨source, object, hpresent, rfl⟩
  have hmoved : ∀ present : PublisherObject,
      ((world.setObject source none).setObject destination (some present)).HasJournal journal →
      present.journal = object.journal → world.HasJournal journal := by
    intro present hset hsame
    obtain hset | ⟨_, ⟨⟩, rfl⟩ := hasJournal_setObject hset
    · obtain hold | ⟨_, ⟨⟩, -⟩ := hasJournal_setObject hset
      exact hold
    · exact hsame ▸ hobject
  split at hstep
  · cases hstep
  · split at hstep
    · cases hstep
      obtain hset | hretired := hasJournal_archived hjournal
      · exact hmoved _ hset rfl
      · exact hasJournal_retired hretired
    · cases hstep
      obtain hset | hretired := hasJournal_archived hjournal
      · exact hmoved _ hset rfl
      · exact hasJournal_retired hretired
    · cases hstep
      obtain hset | ⟨present, hmapped, rfl⟩ := hasJournal_setObject hjournal
      · obtain hold | ⟨_, ⟨⟩, rfl⟩ := hasJournal_setObject hset
        · exact hold
        · exact hobject
      · obtain ⟨assigned, hassigned, rfl⟩ := Option.map_eq_some_iff.mp hmapped
        exact .inl ⟨destination, assigned, hassigned, rfl⟩
    · split at hstep
      · cases hstep
        obtain hset | hmem := hasJournal_archived hjournal
        · obtain hold | ⟨_, ⟨⟩, -⟩ := hasJournal_setObject hset
          exact hold
        · exact List.mem_singleton.mp hmem ▸ hobject
      · rename_i assigned hassigned
        cases hstep
        obtain hset | hmem := hasJournal_archived hjournal
        · exact hmoved _ hset rfl
        · exact .inl ⟨destination, assigned, hassigned, (List.mem_singleton.mp hmem).symm⟩
    · cases hstep

end World

/-! ## Runs that keep every promise -/

def NothingDestroyed (world : World) : Prop :=
  ∀ journal, world.HasJournal journal → journal.destroyed = []

theorem NothingDestroyed.next {world world' : World} {action : WorldAction}
    (hnothing : NothingDestroyed world) (hkeeps : KeepsOldest world action)
    (hnext : world.next action = some world') : NothingDestroyed world' := by
  intro journal hjournal
  cases action with
  | create id process =>
      simp only [World.next, World.create] at hnext
      split at hnext
      · cases hnext
      · cases hnext
        obtain hold | ⟨_, ⟨⟩, rfl⟩ := World.hasJournal_setObject hjournal
        · exact hnothing journal hold
        · rfl
  | object id action =>
      obtain ⟨object, hobject, hstep⟩ := Option.bind_eq_some_iff.mp hnext
      obtain ⟨object', hobject', rfl⟩ := Option.map_eq_some_iff.mp hstep
      obtain hold | ⟨_, ⟨⟩, rfl⟩ := World.hasJournal_setObject hjournal
      · exact hnothing journal hold
      · have hold := hnothing _ (.inl ⟨id, object, hobject, rfl⟩)
        obtain ⟨payload, env, rfl, hcall⟩ | hsame := PublisherObject.next_cases hobject'
        · rw [hcall, object.destroyed_publish fun hsize hactive hloses =>
            hkeeps object hobject ⟨hsize, hactive, hloses⟩]
          exact hold
        · exact hsame.destroyed.trans hold
  | destroy id =>
      obtain ⟨object, hobject, hstep⟩ := Option.bind_eq_some_iff.mp hnext
      split at hstep
      · cases hstep
        obtain hset | hmem := World.hasJournal_archived hjournal
        · obtain hold | ⟨_, ⟨⟩, -⟩ := World.hasJournal_setObject hset
          exact hnothing journal hold
        · obtain rfl := List.mem_singleton.mp hmem
          exact hnothing _ (.inl ⟨id, object, hobject, rfl⟩)
      · cases hstep
  | transfer source destination outcome =>
      exact hnothing journal (World.hasJournal_transfer hnext hjournal)

/-- Every accepted message has been completed once, or waits in the queue of an object
that exists. -/
structure CompletedOnce (world : World) : Prop where
  existing : ∀ id object, world.objects id = some object →
    ∀ message ∈ object.journal.accepted,
      (object.journal.completions message.ticket).length = 1 ∨
        object.journal.completions message.ticket = [] ∧ message ∈ object.queue.outstanding
  gone : ∀ journal ∈ world.archive, ∀ message ∈ journal.accepted,
    (journal.completions message.ticket).length = 1

theorem completedOnce_of_kept {world : World} (hworld : WorldInvariant world)
    (hnothing : NothingDestroyed world) : CompletedOnce world where
  existing := by
    intro id object hobject message haccepted
    have hkept := hnothing object.journal (.inl ⟨id, object, hobject, rfl⟩)
    obtain hdone | ⟨hnone, hmem | hdestroyed⟩ :=
      (hworld.objects id object hobject).ledger.completed_cases haccepted
    · exact .inl hdone
    · exact .inr ⟨hnone, hmem⟩
    · rw [hkept] at hdestroyed
      cases hdestroyed
  gone := by
    intro journal hjournal message haccepted
    obtain ⟨queue, hledger⟩ := hworld.archive journal hjournal
    have hkept := hnothing journal (.inr hjournal)
    exact hledger.completed_of_settled haccepted (by simp [hkept])

/-- A producer that finds the worker inactive is told so and enqueues nothing. -/
theorem AsyncPublisher.publish_inactive {publisher : AsyncPublisher} {payload : List Byte}
    (hactive : publisher.runThreadActive = false)
    (hsize : payload.length ≤ kMaxPayloadSizeBytes) (env : EnqueueEnv) :
    publisher.publish payload env = (.error .workerExited, publisher) := by
  rw [publish, if_neg (not_lt.mpr hsize), if_pos hactive]

/-- Exactly-once completion over every interleaving and any number of successful moves,
as long as no exception strikes a producer that holds the oldest message. -/
theorem accepted_messages_completed_once {world : World}
    (hreach : lifecycle.ReachableWith
      (fun world action => MovesSucceed action ∧ KeepsOldest world action) world) :
    CompletedOnce world ∧ ∀ id object payload env, world.objects id = some object →
      object.runThreadActive = false → payload.length ≤ kMaxPayloadSizeBytes →
      object.publish payload env = (.error .workerExited, object.toAsyncPublisher) := by
  have hworld : WorldInvariant world := worldInvariant_of_reachable (hreach.mono
    fun world _ hallowed => failsEmpty_of_movesSucceed world hallowed.1)
  have hnothing : NothingDestroyed world := by
    refine hreach.invariant NothingDestroyed ?_ fun _ _ _ hold hallowed hnext =>
      hold.next hallowed.2 hnext
    rintro journal (⟨_, _, ⟨⟩, -⟩ | hmem)
    cases hmem
  exact ⟨completedOnce_of_kept hworld hnothing, fun _ _ _ env _ hactive hsize =>
    AsyncPublisher.publish_inactive hactive hsize env⟩

/-- Everything that a worker and its owner do to stop an idle worker. -/
def stopActions (id : ℕ) (stopIntent : WorkerStopIntent) : List WorldAction :=
  [.beginStop stopIntent, .storeIntent, .signalShutdown true, .fetch [.shutdown],
    .dispatch true, .deactivate, .complete, .notify, .signalExit true, .join].map
      fun action => .object id (.step action)

def ampleMemory : EnqueueEnv where
  copies := true
  signals := true
  reinserts := true

/-- A publisher is moved with one message outstanding, accepts another one and is
destroyed. -/
def movedPublisherActions : List WorldAction :=
  .create 0 (State.created zeroedMapping).toPublisherProcess ::
    .object 0 (.step (.publish [1] ampleMemory)) ::
    stopActions 0 .transfer ++ .transfer 0 1 .succeeds ::
    .object 1 (.step (.publish [2] ampleMemory)) :: stopActions 1 .destroy ++ [.destroy 1]

theorem accepted_messages_completed_once_movedPublisher : ∃ world,
    lifecycle.run World.initial movedPublisherActions = some world ∧
    CompletedOnce world ∧
    world.archive.map (fun journal => journal.accepted.map PendingMessage.payload) =
      [[[1], [2]]] := by
  have hview : (lifecycle.run World.initial movedPublisherActions).map (fun world =>
      world.archive.map fun journal => journal.accepted.map PendingMessage.payload) =
      some [[[1], [2]]] := by decide +kernel
  obtain ⟨world, hrun, hstate⟩ := Option.map_eq_some_iff.mp hview
  have hreach : lifecycle.ReachableWith
      (fun world action => MovesSucceed action ∧ KeepsOldest world action) world := by
    have hmoves : ∀ action ∈ movedPublisherActions, MovesSucceed action := by
      simp [movedPublisherActions, stopActions, MovesSucceed]
    have hkeeps : ∀ state, ∀ action ∈ movedPublisherActions, KeepsOldest state action := by
      simp [movedPublisherActions, stopActions, KeepsOldest, PublisherObject.LosesOldest,
        EnqueueEnv.LosesOldest, ampleMemory]
    exact System.ReachableWith.initial.run
      (fun state action hmem => ⟨hmoves action hmem, hkeeps state action hmem⟩) hrun
  exact ⟨world, hrun, (accepted_messages_completed_once hreach).1, hstate⟩

/-- The copy of a message for a full queue runs out of memory. -/
def exhaustedProducerActions : List WorldAction :=
  .create 0 (State.created zeroedMapping).toPublisherProcess ::
    List.replicate 64 (.object 0 (.step (.publish [1] ampleMemory))) ++
    .object 0 (.step (.publish [2] { ampleMemory with copies := false })) ::
    stopActions 0 .destroy ++ [.destroy 0]

/-- The oldest message of the full queue is never completed. -/
theorem exhausted_producer_loses_promise :
    ¬∀ world, lifecycle.ReachableWith (fun _ action => MovesSucceed action) world →
      CompletedOnce world := by
  intro hclaim
  have hview : (lifecycle.run World.initial exhaustedProducerActions).map (fun world =>
      world.archive.all fun journal => journal.accepted.all fun message =>
        decide ((journal.completions message.ticket).length = 1)) =
      some false := by decide +kernel
  obtain ⟨world, hrun, hstate⟩ := Option.map_eq_some_iff.mp hview
  have hreach : lifecycle.ReachableWith (fun _ action => MovesSucceed action) world := by
    have hmoves : ∀ action ∈ exhaustedProducerActions, MovesSucceed action := by
      simp [exhaustedProducerActions, stopActions, MovesSucceed, or_imp, forall_and]
    exact System.ReachableWith.initial.run (fun _ => hmoves) hrun
  have honce := (hclaim world hreach).gone
  simp only [List.all_eq_false] at hstate
  obtain ⟨journal, hjournal, hmissing⟩ := hstate
  rw [List.all_eq_true] at hmissing
  exact hmissing fun message haccepted => decide_eq_true (honce journal hjournal message haccepted)

end DriveBus.Asynchronous
