import DriveBus.Asynchronous.DropOldest

/-!
# Failed calls of an asynchronous publisher

A call that returns no ticket leaves the outstanding messages and their promises as
they were, and a message that it has built never reaches the ring.  A producer that has
moved the oldest message out of a full queue keeps this promise only while it finds
the memory that it needs.
-/

namespace DriveBus.Asynchronous

open DriveBus.ByteMemory DriveBus.SharedMemory DriveBus.Transition

/-! ## The producer's section -/

namespace MessageQueue

variable {queue : MessageQueue} {env : EnqueueEnv}

/-- A call that runs out of memory with the oldest message in its hands. -/
theorem enqueue_losesOldest (hloses : env.LosesOldest queue) (message : PendingMessage) :
    ∃ victim taken, queue.enqueue env message = (.thrown (some victim), taken) := by
  obtain ⟨copies, signals, reinserts⟩ := env
  obtain ⟨hfull, hmemory⟩ := hloses
  obtain ⟨victim, -, htake⟩ | ⟨victim, pending, -, -, htake⟩ := takeOverwritten_full hfull
  · refine ⟨victim, ⟨none, queue.pending⟩, ?_⟩
    unfold enqueue
    rw [htake]
    obtain rfl | ⟨rfl, rfl⟩ := hmemory
    · rfl
    · cases copies <;> simp [Ledger.popBack_pushBack]
  · refine ⟨victim, ⟨queue.inFlight, pending⟩, ?_⟩
    unfold enqueue
    rw [htake]
    obtain rfl | ⟨rfl, rfl⟩ := hmemory
    · rfl
    · cases copies <;> simp [Ledger.popBack_pushBack]

/-- Any other failed call puts the oldest message back where it was in the order. -/
theorem enqueue_restores (message : PendingMessage) (hkeeps : ¬env.LosesOldest queue)
    (hfailed : ∀ overwritten taken, queue.enqueue env message ≠ (.accepted overwritten, taken)) :
    (queue.enqueue env message).2.outstanding = queue.outstanding ∧
      ((queue.enqueue env message).1 = .notificationFailed ∨
        (queue.enqueue env message).1 = .thrown none) := by
  obtain ⟨copies, signals, reinserts⟩ := env
  unfold enqueue at hfailed ⊢
  by_cases hfull : kMaxOutstandingMessages ≤ queue.queuedMessageCount
  · have hmemory : copies = true ∧ (signals = false → reinserts = true) := by
      simpa [EnqueueEnv.LosesOldest, hfull] using hkeeps
    obtain ⟨rfl, hreinserts⟩ := hmemory
    cases signals with
    | true => exact absurd rfl (hfailed _ _)
    | false =>
        obtain rfl := hreinserts rfl
        obtain ⟨victim, hinFlight, htake⟩ | ⟨victim, pending, hpublishing, hpending, htake⟩ :=
          takeOverwritten_full hfull
        · simp [htake, Ledger.popBack_pushBack, outstanding, pushFront, hinFlight]
        · simp [htake, Ledger.popBack_pushBack, outstanding, pushFront, hpending]
  · rw [takeOverwritten_room (not_le.mp hfull)] at hfailed ⊢
    cases copies with
    | false => exact ⟨rfl, .inr rfl⟩
    | true =>
        cases signals with
        | true => exact absurd rfl (hfailed _ _)
        | false => simp [Ledger.popBack_pushBack]

end MessageQueue

/-! ## Rejected messages -/

/-- The steps of an object, and the moves that any other objects make of it. -/
inductive PublisherObject.LifeAction
  | own (action : PublisherObject.Action)
  | moved (world : World) (source destination : ℕ) (outcome : TransferOutcome)

/-- Where the messages are when the move out of the object has ended, if an object has
them. -/
def PublisherObject.moved (object : PublisherObject) (world : World)
    (source destination : ℕ) (outcome : TransferOutcome) : Option PublisherObject :=
  ((world.setObject source (some object)).transfer source destination outcome).bind
    fun world' => (world'.objects source).or (world'.objects destination)

/-- The runs of one object, on into the objects that it is moved to. -/
def PublisherObject.runs (object : PublisherObject) :
    System PublisherObject PublisherObject.LifeAction where
  initial := object
  next := fun object action =>
    match action with
    | .own action => object.next action
    | .moved world source destination outcome =>
        object.moved world source destination outcome

/-- The ring never receives a message with this ticket, wherever the object is moved. -/
def PublisherObject.NeverAppends (object : PublisherObject) (ticket : ℕ) : Prop :=
  ∀ later, object.runs.Reachable later → ∀ message ∈ later.journal.appended,
    message.ticket ≠ ticket

/-- A ticket that has been given to no accepted message and will be given to none. -/
def Journal.Rejected (journal : Journal) (ticket : ℕ) : Prop :=
  ticket < journal.nextTicket ∧ ∀ message ∈ journal.accepted, message.ticket ≠ ticket

theorem Journal.SameCalls.rejected {before after : Journal} {ticket : ℕ}
    (hsame : before.SameCalls after) (hrejected : before.Rejected ticket) :
    after.Rejected ticket := by
  rwa [Journal.Rejected, hsame.nextTicket, hsame.accepted]

theorem AsyncPublisher.rejected_publish {publisher : AsyncPublisher} {ticket : ℕ}
    (hrejected : publisher.journal.Rejected ticket) (payload : List Byte) (env : EnqueueEnv) :
    (publisher.publish payload env).2.journal.Rejected ticket := by
  obtain ⟨hlt, hunused⟩ := hrejected
  have hnew : ∀ message ∈ publisher.journal.accepted ++
      [⟨payload, publisher.journal.nextTicket⟩], message.ticket ≠ ticket := by
    intro message hmem
    rw [List.mem_append, List.mem_singleton] at hmem
    obtain hold | rfl := hmem
    · exact hunused message hold
    · exact hlt.ne'
  have hstill : ticket < publisher.journal.nextTicket + 1 := hlt.trans (Nat.lt_succ_self _)
  unfold publish
  split
  · exact ⟨hlt, hunused⟩
  · split
    · exact ⟨hlt, hunused⟩
    · dsimp only
      cases henqueue : publisher.queue.enqueue env ⟨payload, publisher.journal.nextTicket⟩ with
      | mk result queue' =>
          cases result with
          | accepted overwritten => cases overwritten <;> exact ⟨hstill, hnew⟩
          | notificationFailed => exact ⟨hstill, hunused⟩
          | thrown destroyed => cases destroyed <;> exact ⟨hstill, hunused⟩

/-- The worker is gone and will not be restarted. -/
structure PublisherObject.Stranded (object : PublisherObject) : Prop where
  worker : object.worker = none
  inactive : object.runThreadActive = false
  owner : object.owner = .free ∨ ∃ stopIntent, object.owner = .joined stopIntent false

/-- Without a worker only calls and signals remain. -/
theorem PublisherObject.Stranded.step {object : PublisherObject} {publisher : AsyncPublisher}
    {action : Asynchronous.Action} (hstranded : object.Stranded)
    (hnext : object.toAsyncPublisher.next action = some publisher) :
    PublisherObject.Stranded { object with toAsyncPublisher := publisher } ∧
      publisher.journal = object.journal := by
  obtain ⟨hworker, hinactive, howner⟩ := hstranded
  have hcall : ∀ payload env, (object.publish payload env).2 = object.toAsyncPublisher := by
    intro payload env
    by_cases hlarge : kMaxPayloadSizeBytes < payload.length
    · rw [AsyncPublisher.publish, if_pos hlarge]
    · rw [AsyncPublisher.publish_inactive hinactive (not_lt.mp hlarge)]
  obtain hfree | ⟨stopIntent, hjoined⟩ := howner
  · cases action with
    | publish payload env =>
        simp only [AsyncPublisher.next, hfree, hcall, Option.some.injEq] at hnext
        exact hnext ▸ ⟨⟨hworker, hinactive, .inl hfree⟩, rfl⟩
    | signal source =>
        cases source <;> cases hnext <;> exact ⟨⟨hworker, hinactive, .inl hfree⟩, rfl⟩
    | beginStop intent =>
        simp only [AsyncPublisher.next, AsyncPublisher.beginStop, hworker, hfree,
          Option.some.injEq] at hnext
        exact hnext ▸ ⟨⟨rfl, hinactive, .inr ⟨intent, rfl⟩⟩, rfl⟩
    | _ => simp [AsyncPublisher.next, hworker, hfree] at hnext
  · cases action with
    | signal source =>
        cases source <;> cases hnext <;>
          exact ⟨⟨hworker, hinactive, .inr ⟨stopIntent, hjoined⟩⟩, rfl⟩
    | _ => simp [AsyncPublisher.next, hworker, hjoined] at hnext

theorem PublisherObject.Stranded.next {object object' : PublisherObject}
    {action : PublisherObject.Action} (hstranded : object.Stranded)
    (hnext : object.next action = some object') :
    object'.Stranded ∧ object'.journal = object.journal := by
  cases action with
  | step action =>
      obtain ⟨publisher, hstep, rfl⟩ : ∃ publisher,
          object.toAsyncPublisher.next action = some publisher ∧
            { object with toAsyncPublisher := publisher } = object' := by
        cases action <;> first | cases hnext | exact Option.map_eq_some_iff.mp hnext
      exact hstranded.step hstep
  | environment process =>
      cases hnext
      exact ⟨⟨hstranded.worker, hstranded.inactive, hstranded.owner⟩, rfl⟩
  | control error process =>
      simp [PublisherObject.next, AsyncPublisher.next, hstranded.worker] at hnext
  | attempt =>
      simp only [PublisherObject.next, PublisherObject.attempt, AsyncPublisher.next,
        hstranded.worker] at hnext
      split at hnext <;> cases hnext
  | check => simp [PublisherObject.next, AsyncPublisher.next, hstranded.worker] at hnext

/-- A move restarts the worker, or the messages are left without one. -/
theorem PublisherObject.moved_cases {object after : PublisherObject} {world : World}
    {source destination : ℕ} {outcome : TransferOutcome}
    (hmoved : object.moved world source destination outcome = some after) :
    after.journal = object.journal ∧ ∃ restart, object.owner = .joined .transfer restart ∧
      (restart = true ∧ after.toAsyncPublisher =
          object.drainNotifications.takenFrom.startRunThread ∨
        after.worker = none ∧ after.owner = .free ∧
          (object.runThreadActive = false → after.runThreadActive = false)) := by
  obtain ⟨world', htransfer, hplace⟩ := Option.bind_eq_some_iff.mp hmoved
  obtain ⟨_, hpresent, hstep⟩ := Option.bind_eq_some_iff.mp htransfer
  obtain rfl : object = _ := by simpa [World.setObject] using hpresent
  split at hstep
  · cases hstep
  · rename_i hguard
    have hdistinct : destination ≠ source := fun heq => hguard (.inl heq.symm)
    split at hstep
    · rename_i howner
      cases hstep
      obtain rfl : object.takenFrom = after := by
        simpa [World.setObject, hdistinct.symm] using hplace
      exact ⟨rfl, _, howner, .inr ⟨rfl, rfl, fun _ => rfl⟩⟩
    · rename_i howner
      cases hstep
      simp only [World.setObject, Function.update_self, Function.update_of_ne hdistinct.symm,
        Option.none_or, Option.some.injEq] at hplace
      subst hplace
      exact ⟨rfl, _, howner, .inl ⟨rfl, rfl⟩⟩
    · rename_i howner
      cases hstep
      obtain rfl : object.abandoned = after := by
        simpa [World.setObject, hdistinct.symm] using hplace
      exact ⟨rfl, _, howner, .inr ⟨rfl, rfl, id⟩⟩
    · rename_i howner
      split at hstep
      · rename_i hnone
        cases hstep
        simp only [World.setObject, Function.update_of_ne hdistinct] at hnone
        simp [World.setObject, hdistinct, hnone] at hplace
      · cases hstep
        obtain rfl : object.drainNotifications.takenFrom = after := by
          simpa [World.setObject, hdistinct.symm] using hplace
        exact ⟨rfl, _, howner, .inr ⟨rfl, rfl, fun _ => rfl⟩⟩
    · cases hstep

/-- What later calls and moves leave as it is: the ticket has not been given away, and the
ring has only accepted messages. -/
structure PublisherObject.Excludes (object : PublisherObject) (ticket : ℕ) : Prop where
  sound : Invariant object.toAsyncPublisher ∨ object.Stranded
  rejected : object.journal.Rejected ticket
  appended : ∀ message ∈ object.journal.appended, message ∈ object.journal.accepted

theorem PublisherObject.Excludes.next {object object' : PublisherObject} {ticket : ℕ}
    (hexcludes : object.Excludes ticket) {action : PublisherObject.LifeAction}
    (hnext : object.runs.next object action = some object') : object'.Excludes ticket := by
  obtain ⟨hsound, hrejected, happended⟩ := hexcludes
  cases action with
  | own action =>
      refine ⟨hsound.imp (·.objectNext hnext) fun hstranded => (hstranded.next hnext).1,
        ?_, ?_⟩
      · obtain ⟨payload, env, -, hcall⟩ | hsame := PublisherObject.next_cases hnext
        · rw [hcall]
          exact AsyncPublisher.rejected_publish hrejected payload env
        · exact hsame.rejected hrejected
      · obtain hinv | hstranded := hsound
        · exact fun message hmem =>
            (hinv.objectNext hnext).ledger.mem_accepted_of_appended hmem
        · rwa [(hstranded.next hnext).2]
  | moved world source destination outcome =>
      obtain ⟨hjournal, restart, howner, hafter⟩ := PublisherObject.moved_cases hnext
      rw [← hjournal] at hrejected happended
      refine ⟨?_, hrejected, happended⟩
      obtain ⟨rfl, hrestarted⟩ | ⟨hworker, hfree, hinactive⟩ := hafter
      · obtain hinv | ⟨-, -, hfree | ⟨stopIntent, hjoined⟩⟩ := hsound
        · exact .inl (hrestarted ▸ hinv.restarted howner)
        · cases hfree.symm.trans howner
        · cases hjoined.symm.trans howner
      · exact .inr ⟨hworker, hinactive (hsound.elim (·.inactive_of_joined howner)
          (·.inactive)), .inl hfree⟩

theorem PublisherObject.Excludes.neverAppends {object : PublisherObject} {ticket : ℕ}
    (hexcludes : object.Excludes ticket) : object.NeverAppends ticket := by
  intro later hreach message hmem
  have hlater : later.Excludes ticket := hreach.invariant (·.Excludes ticket) hexcludes
    fun _ _ _ hold _ hnext => hold.next hnext
  exact hlater.rejected.2 message (hlater.appended message hmem)

theorem Invariant.neverAppends {object : PublisherObject} {ticket : ℕ}
    (hinv : Invariant object.toAsyncPublisher) (hrejected : object.journal.Rejected ticket) :
    object.NeverAppends ticket :=
  PublisherObject.Excludes.neverAppends
    ⟨.inl hinv, hrejected, fun _ hmem => hinv.ledger.mem_accepted_of_appended hmem⟩

/-! ## The whole call -/

/-- A call that returns no ticket has changed nothing that can be observed: the
outstanding messages are the same in the same order, no promise has been set or
destroyed, and the message, if one was built, never reaches the ring. -/
def PublisherObject.RollsBack (object : PublisherObject) (payload : List Byte)
    (env : EnqueueEnv) : Prop :=
  match object.publish payload env with
  | (.ticket _ _, _) => True
  | (_, after) =>
      after.queue.outstanding = object.queue.outstanding ∧
      after.journal.completions = object.journal.completions ∧
      after.journal.destroyed = object.journal.destroyed ∧
      (after = object.toAsyncPublisher ∨
        PublisherObject.NeverAppends { object with toAsyncPublisher := after }
          object.journal.nextTicket)

theorem Invariant.rollsBack_iff {object : PublisherObject}
    (hinv : Invariant object.toAsyncPublisher) (payload : List Byte) (env : EnqueueEnv) :
    object.RollsBack payload env ↔ ¬object.LosesOldest payload env := by
  have hafter := hinv.publish payload env
  unfold PublisherObject.RollsBack PublisherObject.LosesOldest
  by_cases hlarge : kMaxPayloadSizeBytes < payload.length
  · simp [AsyncPublisher.publish, hlarge, not_le.mpr hlarge]
  by_cases hactive : object.runThreadActive = false
  · simp [AsyncPublisher.publish, hlarge, hactive]
  have hreaches : payload.length ≤ kMaxPayloadSizeBytes ∧ object.runThreadActive = true :=
    ⟨not_lt.mp hlarge, eq_true_of_ne_false hactive⟩
  rw [← and_assoc, and_iff_right hreaches]
  have hrejected : Journal.Rejected { object.journal with
      nextTicket := object.journal.nextTicket + 1 } object.journal.nextTicket :=
    ⟨Nat.lt_succ_self _, fun message hmem => (hinv.ledger.bounded message hmem).ne⟩
  unfold AsyncPublisher.publish at hafter ⊢
  rw [if_neg hlarge, if_neg hactive] at hafter ⊢
  dsimp only at hafter ⊢
  by_cases hloses : env.LosesOldest object.queue
  · obtain ⟨victim, taken, henqueue⟩ := MessageQueue.enqueue_losesOldest hloses
      ⟨payload, object.journal.nextTicket⟩
    simp [henqueue, hloses, Journal.destroy]
  · rw [iff_true_right hloses]
    have hrestores := MessageQueue.enqueue_restores ⟨payload, object.journal.nextTicket⟩ hloses
    cases henqueue : object.queue.enqueue env ⟨payload, object.journal.nextTicket⟩ with
    | mk result queue' =>
        rw [henqueue] at hrestores hafter
        cases result with
        | accepted overwritten => cases overwritten <;> trivial
        | notificationFailed =>
            obtain ⟨hsame, -⟩ := hrestores (by simp)
            exact ⟨hsame, rfl, rfl, .inr (Invariant.neverAppends hafter hrejected)⟩
        | thrown destroyed =>
            obtain ⟨hsame, hthrown⟩ := hrestores (by simp)
            obtain rfl : destroyed = none := by simpa using hthrown
            exact ⟨hsame, rfl, rfl, .inr (Invariant.neverAppends hafter hrejected)⟩

/-! ## All runs -/

/-- Every object keeps the invariant of its worker, or has none since a move failed. -/
def World.Sound (world : World) : Prop :=
  ∀ id object, world.objects id = some object →
    Invariant object.toAsyncPublisher ∨ object.Stranded

namespace World.Sound

variable {world world' : World}

theorem setObject (hsound : world.Sound) (id : ℕ) {object : Option PublisherObject}
    (hobject : ∀ present, object = some present →
      Invariant present.toAsyncPublisher ∨ present.Stranded) :
    (world.setObject id object).Sound := by
  intro other present hpresent
  by_cases hother : other = id
  · subst hother
    exact hobject present (by simpa [World.setObject] using hpresent)
  · exact hsound other present (by simpa [World.setObject, hother] using hpresent)

theorem inactive_of_joined (hsound : world.Sound) {id : ℕ} {object : PublisherObject}
    (hobject : world.objects id = some object) {stopIntent : WorkerStopIntent} {restart : Bool}
    (howner : object.owner = .joined stopIntent restart) : object.runThreadActive = false :=
  (hsound id object hobject).elim (·.inactive_of_joined howner) (·.inactive)

theorem object (hsound : world.Sound) {id : ℕ} {action : PublisherObject.Action}
    (hobject : world.object id action = some world') : world'.Sound := by
  obtain ⟨object, hpresent, hstep⟩ := Option.bind_eq_some_iff.mp hobject
  obtain ⟨object', hnext, rfl⟩ := Option.map_eq_some_iff.mp hstep
  refine hsound.setObject id fun present hsome => ?_
  cases hsome
  exact (hsound id object hpresent).imp (·.objectNext hnext) fun hstranded =>
    (hstranded.next hnext).1

/-- The object that a move leaves behind or sets up without a worker. -/
theorem transfer (hsound : world.Sound) {source destination : ℕ} {outcome : TransferOutcome}
    (htransfer : world.transfer source destination outcome = some world') : world'.Sound := by
  obtain ⟨object, hpresent, hstep⟩ := Option.bind_eq_some_iff.mp htransfer
  have habsent : World.Sound (world.setObject source none) := hsound.setObject source (by simp)
  have hobject := hsound source object hpresent
  have hstranded : ∀ taken : PublisherObject, taken.worker = none →
      taken.runThreadActive = false → taken.owner = .free →
      ((world.setObject source none).setObject destination (some taken)).Sound := by
    intro taken hworker hinactive howner
    refine habsent.setObject destination fun present hsome => ?_
    cases hsome
    exact .inr ⟨hworker, hinactive, .inl howner⟩
  split at hstep
  · cases hstep
  · rename_i hguard
    obtain ⟨-, hreleased⟩ := not_or.mp hguard
    rw [not_not] at hreleased
    split at hstep
    · cases hstep
      exact hstranded _ rfl rfl rfl
    · rename_i howner
      cases hstep
      refine habsent.setObject destination fun present hsome => ?_
      cases hsome
      obtain hinv | ⟨-, -, hfree | ⟨stopIntent, hjoined⟩⟩ := hobject
      · exact .inl (hinv.restarted howner)
      · cases hfree.symm.trans howner
      · cases hjoined.symm.trans howner
    · rename_i howner
      cases hstep
      have hinactive := hsound.inactive_of_joined hpresent howner
      refine (hsound.setObject source fun present hsome => ?_).setObject destination
        fun present hsome => ?_
      · cases hsome
        exact .inr ⟨rfl, hinactive, .inl rfl⟩
      · obtain ⟨assigned, hassigned, rfl⟩ := Option.map_eq_some_iff.mp hsome
        have hjoined : assigned.owner = .joined .destroy false := by
          simpa [World.Released, hassigned] using hreleased
        have hreleasedInactive := hsound.inactive_of_joined hassigned hjoined
        exact .inr ⟨rfl, hreleasedInactive, .inl rfl⟩
    · split at hstep
      · cases hstep
        exact habsent
      · cases hstep
        exact hstranded _ rfl rfl rfl
    · cases hstep

theorem next (hsound : world.Sound) {action : WorldAction}
    (hnext : world.next action = some world') : world'.Sound := by
  cases action with
  | create id process =>
      simp only [World.next, World.create] at hnext
      split at hnext <;> cases hnext
      refine hsound.setObject id fun present hsome => ?_
      cases hsome
      exact .inl (Invariant.started ledger_empty rfl .nil rfl (by simp))
  | object id action => exact hsound.object hnext
  | destroy id =>
      obtain ⟨object, -, hstep⟩ := Option.bind_eq_some_iff.mp hnext
      split at hstep <;> cases hstep
      exact hsound.setObject id (by simp)
  | transfer source destination outcome => exact hsound.transfer hnext

end World.Sound

theorem PublisherObject.Stranded.rollsBack_iff {object : PublisherObject}
    (hstranded : object.Stranded) (payload : List Byte) (env : EnqueueEnv) :
    object.RollsBack payload env ↔ ¬object.LosesOldest payload env := by
  unfold PublisherObject.RollsBack PublisherObject.LosesOldest
  by_cases hlarge : kMaxPayloadSizeBytes < payload.length
  · simp [AsyncPublisher.publish, hlarge, not_le.mpr hlarge]
  · simp [AsyncPublisher.publish, hlarge, hstranded.inactive]

/-- A failed call rolls back unless it runs out of memory with a full queue. -/
theorem failed_call_rolls_back_iff {world : World} (hreach : lifecycle.Reachable world)
    {id : ℕ} {object : PublisherObject} (hobject : world.objects id = some object)
    (payload : List Byte) (env : EnqueueEnv) :
    object.RollsBack payload env ↔ ¬object.LosesOldest payload env := by
  have hsound : world.Sound := hreach.invariant World.Sound
    (fun _ _ hnone => by cases hnone) fun _ _ _ hold _ hnext => hold.next hnext
  obtain hinv | hstranded := hsound id object hobject
  · exact hinv.rollsBack_iff payload env
  · exact hstranded.rollsBack_iff payload env

/-- A publisher with 64 messages outstanding. -/
def fullPublisherActions : List WorldAction :=
  .create 0 (State.created zeroedMapping).toPublisherProcess ::
    List.replicate 64 (.object 0 (.step (.publish [1] ampleMemory)))

theorem failed_call_rolls_back_iff_fullPublisher : ∃ world object,
    lifecycle.run World.initial fullPublisherActions = some world ∧
    world.objects 0 = some object ∧ object.queue.outstanding.length = 64 ∧
    object.RollsBack [2] { ampleMemory with signals := false } := by
  have hview : ((lifecycle.run World.initial fullPublisherActions).bind fun world =>
      (world.objects 0).map fun object => object.queue.outstanding.length) = some 64 := by
    decide +kernel
  obtain ⟨world, hrun, hobjects⟩ := Option.bind_eq_some_iff.mp hview
  obtain ⟨object, hobject, hlength⟩ := Option.map_eq_some_iff.mp hobjects
  have hreach : lifecycle.Reachable world :=
    System.ReachableWith.initial.run (fun _ _ _ => trivial) hrun
  refine ⟨world, object, hrun, hobject, hlength,
    (failed_call_rolls_back_iff hreach hobject [2] _).mpr ?_⟩
  simp [PublisherObject.LosesOldest, EnqueueEnv.LosesOldest, ampleMemory]

/-- The copy of the new message runs out of memory, and the oldest one is gone. -/
theorem exhausted_call_does_not_roll_back :
    ¬∀ world id object payload env, lifecycle.Reachable world →
      world.objects id = some object → object.RollsBack payload env := by
  intro hclaim
  have hview : ((lifecycle.run World.initial fullPublisherActions).bind fun world =>
      (world.objects 0).map fun object =>
        let (outcome, after) := object.publish [2] { ampleMemory with copies := false }
        (outcome, after.queue.outstanding.length, object.queue.outstanding.length)) =
      some (.thrown, 63, 64) := by decide +kernel
  obtain ⟨world, hrun, hobjects⟩ := Option.bind_eq_some_iff.mp hview
  obtain ⟨object, hobject, hcall⟩ := Option.map_eq_some_iff.mp hobjects
  have hreach : lifecycle.Reachable world :=
    System.ReachableWith.initial.run (fun _ _ _ => trivial) hrun
  have hrolls := hclaim world 0 object [2] { ampleMemory with copies := false } hreach hobject
  unfold PublisherObject.RollsBack at hrolls
  cases hpublish : object.publish [2] { ampleMemory with copies := false } with
  | mk outcome after =>
      rw [hpublish] at hrolls hcall
      simp only [Prod.mk.injEq] at hcall
      obtain ⟨rfl, hafter, hbefore⟩ := hcall
      rw [hrolls.1, hbefore] at hafter
      cases hafter

end DriveBus.Asynchronous
