import DriveBus.Asynchronous.Completion

/-!
# First in, first out, dropping the oldest

The ring receives the accepted messages in their order, and the promises tell the truth
about it.  A producer that finds the queue full drops the oldest message that the
worker is not publishing, and says so in the disposition that it returns.
-/

namespace DriveBus.Asynchronous

open DriveBus.ByteMemory DriveBus.SharedMemory DriveBus.Transition

/-! ## Histories -/

/-- The ring and the promises of a history agree. -/
structure Journal.Truthful (journal : Journal) : Prop where
  distinct : (journal.accepted.map PendingMessage.ticket).Pairwise (· < ·)
  fifo : journal.appended.Sublist journal.accepted
  published : ∀ message ∈ journal.accepted,
    .published ∈ journal.completions message.ticket → journal.appended.count message = 1
  dropped : ∀ message ∈ journal.accepted,
    .overwritten ∈ journal.completions message.ticket ∨
      .workerStopped ∈ journal.completions message.ticket → message ∉ journal.appended

namespace Ledger

variable {queue : MessageQueue} {journal : Journal} {mode : Mode} {message : PendingMessage}

theorem appended_of_published (hledger : Ledger queue journal mode)
    (haccepted : message ∈ journal.accepted)
    (hpublished : .published ∈ journal.completions message.ticket) :
    message ∈ journal.appended := by
  by_cases hmem : message ∈ queue.outstanding
  · have hpromise := hledger.outstanding message hmem
    cases mode with
    | settled =>
        obtain hfailed | ⟨hstopped, -⟩ := hpromise
        · simp [hfailed] at hpublished
        · simp [hstopped] at hpublished
    | resting | publishing | published | failing =>
        have hnone : journal.completions message.ticket = [] := hpromise
        simp [hnone] at hpublished
  · obtain ⟨-, happended⟩ | ⟨-, hoverwritten | ⟨hnone, -⟩⟩ :=
      hledger.others message haccepted hmem
    · exact happended
    · simp [hoverwritten] at hpublished
    · simp [hnone] at hpublished

theorem notMem_appended_of_dropped (hledger : Ledger queue journal mode)
    (haccepted : message ∈ journal.accepted)
    (hdropped : .overwritten ∈ journal.completions message.ticket ∨
      .workerStopped ∈ journal.completions message.ticket) : message ∉ journal.appended := by
  by_cases hmem : message ∈ queue.outstanding
  · have hpromise := hledger.outstanding message hmem
    cases mode with
    | settled =>
        obtain hfailed | ⟨-, hunsent⟩ := hpromise
        · simp [hfailed] at hdropped
        · exact hunsent
    | resting | publishing | published | failing =>
        have hnone : journal.completions message.ticket = [] := hpromise
        simp [hnone] at hdropped
  · obtain ⟨hpublished, -⟩ | ⟨hunsent, -⟩ := hledger.others message haccepted hmem
    · simp [hpublished] at hdropped
    · exact hunsent

theorem truthful (hledger : Ledger queue journal mode) : journal.Truthful where
  distinct := hledger.tickets
  fifo := (List.sublist_append_left _ _).trans hledger.ordered
  published _ haccepted hpublished := List.count_eq_one_of_mem hledger.appended_nodup
    (hledger.appended_of_published haccepted hpublished)
  dropped _ haccepted hdropped := hledger.notMem_appended_of_dropped haccepted hdropped

end Ledger

/-! ## The victim -/

/-- The outstanding messages that the worker is not publishing. -/
def MessageQueue.overwritable (queue : MessageQueue) : List PendingMessage :=
  match queue.inFlight with
  | some ⟨_, .publishing⟩ => queue.pending
  | _ => queue.outstanding

theorem MessageQueue.takeOverwritten_overwritable {queue taken : MessageQueue}
    {victim : PendingMessage} (htake : queue.takeOverwritten = (some victim, taken)) :
    queue.overwritable = victim :: taken.overwritable := by
  obtain ⟨inFlight, pending⟩ := queue
  unfold takeOverwritten at htake
  split at htake
  · rcases inFlight with _ | ⟨message, _ | _⟩
    · cases pending with
      | nil => cases htake
      | cons head rest => cases htake; rfl
    · cases pending with
      | nil => cases htake
      | cons head rest => cases htake; rfl
    · cases htake
      rfl
  · cases htake

/-- The messages that may be overwritten are in the order of their tickets. -/
theorem Ledger.overwritable_sorted {queue : MessageQueue} {journal : Journal} {mode : Mode}
    (hledger : Ledger queue journal mode) :
    queue.overwritable.Pairwise fun older newer => older.ticket < newer.ticket := by
  have hsorted : journal.accepted.Pairwise fun older newer => older.ticket < newer.ticket :=
    List.pairwise_map.mp hledger.tickets
  refine hsorted.sublist (List.Sublist.trans ?_
    ((List.sublist_append_right _ _).trans hledger.ordered))
  obtain ⟨inFlight, pending⟩ := queue
  rcases inFlight with _ | ⟨message, _ | _⟩
  · exact List.Sublist.refl _
  · unfold MessageQueue.unsent
    dsimp only [MessageQueue.overwritable]
    split
    · exact List.Sublist.refl _
    · exact List.sublist_cons_self _ _
  · have hunsent := hledger.blocked message rfl
    simp [MessageQueue.unsent, MessageQueue.overwritable, MessageQueue.outstanding, hunsent]

/-! ## One call -/

/-- What a call of `publish(payload)` does to the promises of other messages.  It
overwrites one exactly if it says so, and then the queue was full and the message the
oldest one that is not being published. -/
def AsyncPublisher.DropsOldest (publisher : AsyncPublisher) (payload : List Byte)
    (env : EnqueueEnv) : Prop :=
  match publisher.publish payload env with
  | (.ticket .enqueuedAfterOverwritingOldest _, after) =>
      publisher.queue.outstanding.length = kMaxOutstandingMessages ∧
      ∃ victim ∈ publisher.queue.overwritable,
        (∀ other ∈ publisher.queue.overwritable, victim.ticket ≤ other.ticket) ∧
        after.journal.completions = Function.update publisher.journal.completions victim.ticket
          (publisher.journal.completions victim.ticket ++ [.overwritten])
  | (.ticket disposition _, after) =>
      disposition = .enqueued ∧
      publisher.queue.outstanding.length < kMaxOutstandingMessages ∧
      after.journal.completions = publisher.journal.completions
  | (_, after) => after.journal.completions = publisher.journal.completions

theorem MessageQueue.enqueue_accepted {queue queue' : MessageQueue} {env : EnqueueEnv}
    {message : PendingMessage} {overwritten : Option PendingMessage}
    (henqueue : queue.enqueue env message = (.accepted overwritten, queue')) :
    queue.takeOverwritten.1 = overwritten := by
  obtain ⟨copies, signals, reinserts⟩ := env
  unfold enqueue at henqueue
  cases htake : queue.takeOverwritten with
  | mk victim taken =>
      rw [htake] at henqueue
      cases victim <;> cases copies <;> cases signals <;> cases reinserts <;> simp_all

theorem Invariant.dropsOldest {publisher : AsyncPublisher} (hinv : Invariant publisher)
    (payload : List Byte) (env : EnqueueEnv) : publisher.DropsOldest payload env := by
  unfold AsyncPublisher.DropsOldest AsyncPublisher.publish
  by_cases hlarge : kMaxPayloadSizeBytes < payload.length
  · simp [hlarge]
  by_cases hactive : publisher.runThreadActive = false
  · simp [hlarge, hactive]
  rw [if_neg hlarge, if_neg hactive]
  dsimp only
  cases henqueue : publisher.queue.enqueue env ⟨payload, publisher.journal.nextTicket⟩ with
  | mk result queue' =>
      cases result with
      | notificationFailed => rfl
      | thrown destroyed => cases destroyed <;> rfl
      | accepted overwritten =>
          have htake := MessageQueue.enqueue_accepted henqueue
          have hcapacity := hinv.ledger.capacity
          cases overwritten with
          | none =>
              refine ⟨rfl, lt_of_not_ge fun hfull => ?_, rfl⟩
              rw [MessageQueue.length_outstanding] at hfull
              obtain ⟨victim, taken, hvictim, -⟩ := hinv.ledger.takeOverwritten
                (hinv.mode_ne_settled (eq_true_of_ne_false hactive)) hfull
              rw [hvictim] at htake
              cases htake
          | some victim =>
              have hfull : kMaxOutstandingMessages ≤ publisher.queue.queuedMessageCount := by
                by_contra hroom
                rw [MessageQueue.takeOverwritten_room (not_le.mp hroom)] at htake
                cases htake
              have hvictim := MessageQueue.takeOverwritten_overwritable
                (Prod.ext htake rfl : publisher.queue.takeOverwritten = (some victim, _))
              have hsorted := hinv.ledger.overwritable_sorted
              rw [hvictim, List.pairwise_cons] at hsorted
              refine ⟨le_antisymm hcapacity (by rwa [MessageQueue.length_outstanding]), victim,
                by simp [hvictim], ?_, rfl⟩
              intro other hother
              rw [hvictim, List.mem_cons] at hother
              obtain rfl | hlater := hother
              · exact le_refl _
              · exact (hsorted.1 other hlater).le

/-! ## All runs -/

theorem WorldInvariant.truthful {world : World} (hworld : WorldInvariant world)
    {journal : Journal} (hjournal : world.HasJournal journal) : journal.Truthful := by
  obtain ⟨id, object, hobject, rfl⟩ | harchived := hjournal
  · exact (hworld.objects id object hobject).ledger.truthful
  · obtain ⟨queue, hledger⟩ := hworld.archive journal harchived
    exact hledger.truthful

/-- Asynchronous publishing over every interleaving and any number of successful moves. -/
theorem publishing_fifo_drops_oldest {world : World}
    (hreach : lifecycle.ReachableWith (fun _ action => MovesSucceed action) world) :
    (∀ journal, world.HasJournal journal → journal.Truthful) ∧
    ∀ id object, world.objects id = some object →
      object.queue.outstanding.length ≤ kMaxOutstandingMessages ∧
      ∀ payload env, object.DropsOldest payload env := by
  have hworld : WorldInvariant world := worldInvariant_of_reachable (hreach.mono
    fun world _ hmoves => failsEmpty_of_movesSucceed world hmoves)
  refine ⟨fun journal hjournal => hworld.truthful hjournal, fun id object hobject => ?_⟩
  have hinv := hworld.objects id object hobject
  exact ⟨hinv.ledger.capacity, hinv.dropsOldest⟩

/-- A publisher that tracks one subscriber. -/
def trackingProcess : PublisherProcess :=
  let process := (State.created zeroedMapping).toPublisherProcess
  (trackSubscriber { process with eventFds := Function.update process.eventFds 7 (some 0) } 7 0).2

/-- A message is published, another one is moved to a second object and published there. -/
def publishedAcrossMoveActions : List WorldAction :=
  let publishOne (id : ℕ) (message : List Byte) : List WorldAction :=
    [.object id (.step (.publish message ampleMemory)),
      .object id (.step (.fetch [.publishWork])), .object id (.step (.dispatch true)),
      .object id (.step .beginWork), .object id .attempt, .object id (.step .recordAttempt)]
  .create 0 trackingProcess :: publishOne 0 [1] ++ stopActions 0 .transfer ++
    .transfer 0 1 .succeeds :: publishOne 1 [2]

theorem publishing_fifo_drops_oldest_acrossMove : ∃ world object,
    lifecycle.run World.initial publishedAcrossMoveActions = some world ∧
    world.objects 1 = some object ∧ object.journal.Truthful ∧
    object.journal.appended.map PendingMessage.payload = [[1], [2]] ∧
    object.DropsOldest [3] ampleMemory := by
  have hview : ((lifecycle.run World.initial publishedAcrossMoveActions).bind fun world =>
      (world.objects 1).map fun object =>
        object.journal.appended.map PendingMessage.payload) = some [[1], [2]] := by
    decide +kernel
  obtain ⟨world, hrun, hobjects⟩ := Option.bind_eq_some_iff.mp hview
  obtain ⟨object, hobject, happended⟩ := Option.map_eq_some_iff.mp hobjects
  have hmoves : ∀ action ∈ publishedAcrossMoveActions, MovesSucceed action := by
    simp [publishedAcrossMoveActions, stopActions, MovesSucceed]
  obtain ⟨htruthful, hqueues⟩ := publishing_fifo_drops_oldest
    (System.ReachableWith.initial.run (fun _ => hmoves) hrun)
  exact ⟨world, object, hrun, hobject, htruthful _ (.inl ⟨1, object, hobject, rfl⟩), happended,
    (hqueues 1 object hobject).2 [3] ampleMemory⟩

end DriveBus.Asynchronous
