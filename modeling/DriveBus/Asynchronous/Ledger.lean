import DriveBus.Asynchronous.Worker
import Mathlib.Data.List.Pairwise

/-!
# The ledger of a message queue

What the queue, the history of the ring and the promises have to do with each other.
The ledger is kept in one of five modes, which say what the worker is doing with the
message in flight and whether the exit path has settled the outstanding messages.
Each locked section keeps the ledger and moves it from mode to mode.
-/

namespace DriveBus.Asynchronous

open DriveBus.ByteMemory DriveBus.SharedMemory

/-! ## Modes -/

inductive Mode
  | resting
  | publishing
  | published
  | failing
  | settled
  deriving DecidableEq

/-- The messages that have yet to reach the ring. -/
def MessageQueue.unsent (queue : MessageQueue) (appended : List PendingMessage) :
    List PendingMessage :=
  match queue.inFlight with
  | none => queue.pending
  | some inFlight =>
      if inFlight.message ∈ appended then queue.pending
      else inFlight.message :: queue.pending

/-- What a mode says about the message in flight. -/
def Mode.InFlight (queue : MessageQueue) (appended : List PendingMessage) : Mode → Prop
  | resting => ∀ inFlight, queue.inFlight = some inFlight → inFlight.state = .blocked
  | publishing => ∃ message, queue.inFlight = some ⟨message, .publishing⟩ ∧ message ∉ appended
  | published => ∃ message, queue.inFlight = some ⟨message, .publishing⟩ ∧ message ∈ appended
  | failing => True
  | settled => True

/-- What a mode says about the promise of an outstanding message. -/
def Mode.Outstanding (journal : Journal) (message : PendingMessage) : Mode → Prop
  | settled => journal.completions message.ticket = [.workerFailed] ∨
      journal.completions message.ticket = [.workerStopped] ∧ message ∉ journal.appended
  | _ => journal.completions message.ticket = []

/-! ## The ledger -/

structure Ledger (queue : MessageQueue) (journal : Journal) (mode : Mode) : Prop where
  tickets : (journal.accepted.map PendingMessage.ticket).Pairwise (· < ·)
  bounded : ∀ message ∈ journal.accepted, message.ticket < journal.nextTicket
  fresh : ∀ ticket, journal.nextTicket ≤ ticket → journal.completions ticket = []
  ordered : (journal.appended ++ queue.unsent journal.appended).Sublist journal.accepted
  capacity : queue.outstanding.length ≤ kMaxOutstandingMessages
  blocked : ∀ message, queue.inFlight = some ⟨message, .blocked⟩ → message ∉ journal.appended
  inFlight : mode.InFlight queue journal.appended
  outstanding : ∀ message ∈ queue.outstanding, mode.Outstanding journal message
  others : ∀ message ∈ journal.accepted, message ∉ queue.outstanding →
    journal.completions message.ticket = [.published] ∧ message ∈ journal.appended ∨
      message ∉ journal.appended ∧ (journal.completions message.ticket = [.overwritten] ∨
        journal.completions message.ticket = [] ∧ message ∈ journal.destroyed)

theorem ledger_empty : Ledger MessageQueue.empty Journal.empty .resting where
  tickets := .nil
  bounded _ hmem := absurd hmem List.not_mem_nil
  fresh _ _ := rfl
  ordered := List.Sublist.refl _
  capacity := Nat.zero_le _
  blocked _ hinFlight := by cases hinFlight
  inFlight _ hinFlight := by cases hinFlight
  outstanding _ hmem := absurd hmem List.not_mem_nil
  others _ hmem := absurd hmem List.not_mem_nil

namespace Ledger

variable {queue : MessageQueue} {journal : Journal} {mode : Mode} {message : PendingMessage}

theorem accepted_nodup (hledger : Ledger queue journal mode) : journal.accepted.Nodup :=
  List.Nodup.of_map _ (hledger.tickets.imp fun hlt => hlt.ne)

/-- A ticket names one accepted message. -/
theorem eq_of_ticket (hledger : Ledger queue journal mode) {left right : PendingMessage}
    (hleft : left ∈ journal.accepted) (hright : right ∈ journal.accepted)
    (hticket : left.ticket = right.ticket) : left = right :=
  List.inj_on_of_nodup_map (hledger.tickets.imp fun hlt => hlt.ne) hleft hright hticket

theorem mem_accepted_of_appended (hledger : Ledger queue journal mode)
    (hmem : message ∈ journal.appended) : message ∈ journal.accepted :=
  hledger.ordered.subset (List.mem_append_left _ hmem)

theorem appended_nodup (hledger : Ledger queue journal mode) : journal.appended.Nodup :=
  (List.nodup_append.mp (hledger.ordered.nodup hledger.accepted_nodup)).1

theorem unsent_nodup (hledger : Ledger queue journal mode) :
    (queue.unsent journal.appended).Nodup :=
  (List.nodup_append.mp (hledger.ordered.nodup hledger.accepted_nodup)).2.1

/-- What has yet to reach the ring has not reached it. -/
theorem notMem_appended_of_unsent (hledger : Ledger queue journal mode)
    (hmem : message ∈ queue.unsent journal.appended) : message ∉ journal.appended :=
  fun happended => (List.nodup_append.mp
    (hledger.ordered.nodup hledger.accepted_nodup)).2.2 _ happended _ hmem rfl

theorem pending_subset_unsent : queue.pending ⊆ queue.unsent journal.appended := by
  intro other hmem
  unfold MessageQueue.unsent
  split
  · exact hmem
  · split
    · exact hmem
    · exact List.mem_cons_of_mem _ hmem

theorem mem_outstanding_iff : message ∈ queue.outstanding ↔
    (∃ inFlight, queue.inFlight = some inFlight ∧ inFlight.message = message) ∨
      message ∈ queue.pending := by
  simp [MessageQueue.outstanding]

theorem mem_accepted (hledger : Ledger queue journal mode)
    (hmem : message ∈ queue.outstanding) : message ∈ journal.accepted := by
  rw [mem_outstanding_iff] at hmem
  obtain ⟨inFlight, hinFlight, rfl⟩ | hpending := hmem
  · by_cases happended : inFlight.message ∈ journal.appended
    · exact hledger.mem_accepted_of_appended happended
    · refine hledger.ordered.subset (List.mem_append_right _ ?_)
      simp [MessageQueue.unsent, hinFlight, happended]
  · exact hledger.ordered.subset (List.mem_append_right _ (pending_subset_unsent hpending))

theorem notMem_appended_of_pending (hledger : Ledger queue journal mode)
    (hmem : message ∈ queue.pending) : message ∉ journal.appended :=
  hledger.notMem_appended_of_unsent (pending_subset_unsent hmem)

theorem outstanding_nodup (hledger : Ledger queue journal mode) :
    queue.outstanding.Nodup := by
  have hunsent := hledger.unsent_nodup
  unfold MessageQueue.unsent at hunsent
  unfold MessageQueue.outstanding
  cases hinFlight : queue.inFlight with
  | none => simpa [hinFlight] using hunsent
  | some inFlight =>
      rw [hinFlight] at hunsent
      by_cases happended : inFlight.message ∈ journal.appended
      · simp only [happended, if_true] at hunsent
        have hpending : inFlight.message ∉ queue.pending :=
          fun hmem => hledger.notMem_appended_of_pending hmem happended
        simpa using ⟨hpending, hunsent⟩
      · simpa [happended] using hunsent

/-! ## Setting promises -/

theorem completions_setValue (completion : PublishCompletion) (message : PendingMessage)
    (ticket : ℕ) : (journal.setValue completion message).completions ticket =
      if ticket = message.ticket then journal.completions ticket ++ [completion]
      else journal.completions ticket := by
  by_cases hticket : ticket = message.ticket
  · subst hticket
    simp [Journal.setValue]
  · simp [Journal.setValue, hticket]

@[simp]
theorem appended_setValue (completion : PublishCompletion) (message : PendingMessage) :
    (journal.setValue completion message).appended = journal.appended := rfl

@[simp]
theorem accepted_setValue (completion : PublishCompletion) (message : PendingMessage) :
    (journal.setValue completion message).accepted = journal.accepted := rfl

/-- The same queue up to the container that holds its first message. -/
theorem rearrange (hledger : Ledger queue journal mode) {queue' : MessageQueue}
    {mode' : Mode} (houtstanding : queue'.outstanding = queue.outstanding)
    (hunsent : queue'.unsent journal.appended = queue.unsent journal.appended)
    (hblocked : ∀ message, queue'.inFlight = some ⟨message, .blocked⟩ →
      message ∉ journal.appended)
    (hinFlight : mode'.InFlight queue' journal.appended)
    (hpromise : ∀ message, mode.Outstanding journal message →
      mode'.Outstanding journal message) : Ledger queue' journal mode' where
  tickets := hledger.tickets
  bounded := hledger.bounded
  fresh := hledger.fresh
  ordered := hunsent ▸ hledger.ordered
  capacity := houtstanding ▸ hledger.capacity
  blocked := hblocked
  inFlight := hinFlight
  outstanding message hmem := hpromise message (hledger.outstanding message (houtstanding ▸ hmem))
  others := houtstanding ▸ hledger.others

/-! ## The producer's section -/

theorem skipTicket (hledger : Ledger queue journal mode) :
    Ledger queue { journal with nextTicket := journal.nextTicket + 1 } mode where
  tickets := hledger.tickets
  bounded message hmem := (hledger.bounded message hmem).trans (Nat.lt_succ_self _)
  fresh ticket hle := hledger.fresh ticket (Nat.le_of_succ_le hle)
  ordered := hledger.ordered
  capacity := hledger.capacity
  blocked := hledger.blocked
  inFlight := hledger.inFlight
  outstanding := by
    have houtstanding := hledger.outstanding
    cases mode <;> exact houtstanding
  others := hledger.others

end Ledger

/-- A full queue gives up its oldest message that is not being published. -/
theorem MessageQueue.takeOverwritten_full {queue : MessageQueue}
    (hfull : kMaxOutstandingMessages ≤ queue.queuedMessageCount) :
    (∃ victim, queue.inFlight = some ⟨victim, .blocked⟩ ∧
      queue.takeOverwritten = (some victim, ⟨none, queue.pending⟩)) ∨
    ∃ victim pending, (∀ message, queue.inFlight ≠ some ⟨message, .blocked⟩) ∧
      queue.pending = victim :: pending ∧
      queue.takeOverwritten = (some victim, ⟨queue.inFlight, pending⟩) := by
  obtain ⟨inFlight, pending⟩ := queue
  cases pending with
  | nil =>
      cases inFlight with
      | none => simp [queuedMessageCount, kMaxOutstandingMessages] at hfull
      | some inFlight => simp [queuedMessageCount, kMaxOutstandingMessages] at hfull
  | cons victim pending =>
      rcases inFlight with _ | ⟨message, _ | _⟩
      · exact .inr ⟨victim, pending, by simp, rfl, by simp [takeOverwritten, hfull]⟩
      · exact .inr ⟨victim, pending, by simp, rfl, by simp [takeOverwritten, hfull]⟩
      · exact .inl ⟨message, rfl, by simp [takeOverwritten, hfull]⟩

theorem MessageQueue.takeOverwritten_room {queue : MessageQueue}
    (hroom : queue.queuedMessageCount < kMaxOutstandingMessages) :
    queue.takeOverwritten = (none, queue) := by
  rw [takeOverwritten, if_neg (by omega)]

namespace Ledger

variable {queue : MessageQueue} {journal : Journal} {mode : Mode} {message : PendingMessage}

/-- Destroying a message that has not reached the ring. -/
theorem drop (hledger : Ledger queue journal mode) (hmode : mode ≠ .settled)
    {taken : MessageQueue} {victim : PendingMessage}
    (hvictim : victim ∈ queue.outstanding) (hunsent : victim ∉ journal.appended)
    (houtstanding : taken.outstanding = queue.outstanding.erase victim)
    (hordered : (taken.unsent journal.appended).Sublist (queue.unsent journal.appended))
    (hblocked : ∀ message, taken.inFlight = some ⟨message, .blocked⟩ →
      message ∉ journal.appended)
    (hinFlight : mode.InFlight taken journal.appended) :
    Ledger taken (journal.destroy victim) mode where
  tickets := hledger.tickets
  bounded := hledger.bounded
  fresh := hledger.fresh
  ordered := (List.Sublist.append_left hordered _).trans hledger.ordered
  capacity := by
    rw [houtstanding]
    exact (List.length_erase_le).trans hledger.capacity
  blocked := hblocked
  inFlight := hinFlight
  outstanding other hmem := by
    have hold := hledger.outstanding other (List.mem_of_mem_erase (houtstanding ▸ hmem))
    cases mode <;> exact hold
  others := by
    intro other haccepted hnot
    by_cases hother : other = victim
    · subst hother
      have hpromise := hledger.outstanding other hvictim
      refine .inr ⟨hunsent, .inr ⟨?_, by simp [Journal.destroy]⟩⟩
      cases mode with
      | settled => exact absurd rfl hmode
      | resting | publishing | published | failing => exact hpromise
    · have houtside : other ∉ queue.outstanding := by
        intro hmem
        rw [houtstanding] at hnot
        exact hnot ((List.mem_erase_of_ne hother).mpr hmem)
      simpa [Journal.destroy, hother] using hledger.others other haccepted houtside

/-- A full queue after its victim has been moved out. -/
theorem takeOverwritten (hledger : Ledger queue journal mode) (hmode : mode ≠ .settled)
    (hfull : kMaxOutstandingMessages ≤ queue.queuedMessageCount) :
    ∃ victim taken, queue.takeOverwritten = (some victim, taken) ∧
      victim ∈ queue.outstanding ∧ victim ∉ journal.appended ∧
      taken.outstanding = queue.outstanding.erase victim ∧
      Ledger taken (journal.destroy victim) mode := by
  have hnodup := hledger.outstanding_nodup
  obtain ⟨victim, hinFlight, htake⟩ | ⟨victim, pending, hpublishing, hpending, htake⟩ :=
    MessageQueue.takeOverwritten_full hfull
  · have hvictim : victim ∈ queue.outstanding := by
      simp [MessageQueue.outstanding, hinFlight]
    have hunsent := hledger.blocked victim hinFlight
    have houtstanding : MessageQueue.outstanding ⟨none, queue.pending⟩ =
        queue.outstanding.erase victim := by
      simp [MessageQueue.outstanding, hinFlight]
    refine ⟨victim, _, htake, hvictim, hunsent, houtstanding,
      hledger.drop hmode hvictim hunsent houtstanding ?_ (by simp) ?_⟩
    · simp [MessageQueue.unsent, hinFlight, hunsent]
    · have hstate := hledger.inFlight
      cases mode with
      | resting => simp [Mode.InFlight]
      | publishing => simp [Mode.InFlight, hinFlight] at hstate
      | published => simp [Mode.InFlight, hinFlight] at hstate
      | failing => trivial
      | settled => trivial
  · have hvictim : victim ∈ queue.outstanding := by
      simp [MessageQueue.outstanding, hpending]
    have hunsent := hledger.notMem_appended_of_pending (by simp [hpending] : victim ∈ queue.pending)
    have houtstanding : MessageQueue.outstanding ⟨queue.inFlight, pending⟩ =
        queue.outstanding.erase victim := by
      unfold MessageQueue.outstanding at hnodup ⊢
      rw [hpending] at hnodup ⊢
      rw [List.erase_append_right _ fun hmem =>
        (List.nodup_append.mp hnodup).2.2 _ hmem victim (List.mem_cons_self ..) rfl]
      simp
    refine ⟨victim, _, htake, hvictim, hunsent, houtstanding,
      hledger.drop hmode hvictim hunsent houtstanding ?_ hledger.blocked hledger.inFlight⟩
    unfold MessageQueue.unsent
    rw [hpending]
    dsimp only
    split
    · exact List.sublist_cons_self _ _
    · split
      · exact List.sublist_cons_self _ _
      · exact (List.sublist_cons_self _ _).cons_cons _

/-- A new message at the back of a queue that has room. -/
theorem push (hledger : Ledger queue journal mode) (hmode : mode ≠ .settled)
    (hroom : queue.queuedMessageCount < kMaxOutstandingMessages) (payload : List Byte) :
    Ledger (queue.pushBack ⟨payload, journal.nextTicket⟩)
      { journal with
        nextTicket := journal.nextTicket + 1
        accepted := journal.accepted ++ [⟨payload, journal.nextTicket⟩] } mode where
  tickets := by
    rw [List.map_append, List.pairwise_append]
    refine ⟨hledger.tickets, by simp, ?_⟩
    intro ticket hticket other hother
    obtain ⟨message, hmem, rfl⟩ := List.mem_map.mp hticket
    obtain rfl : other = journal.nextTicket := by simpa using hother
    exact hledger.bounded message hmem
  bounded := by
    intro message hmem
    rw [List.mem_append, List.mem_singleton] at hmem
    obtain hold | rfl := hmem
    · exact (hledger.bounded message hold).trans (Nat.lt_succ_self _)
    · exact Nat.lt_succ_self _
  fresh ticket hle := hledger.fresh ticket (Nat.le_of_succ_le hle)
  ordered := by
    have hunsent : (queue.pushBack ⟨payload, journal.nextTicket⟩).unsent journal.appended =
        queue.unsent journal.appended ++ [⟨payload, journal.nextTicket⟩] := by
      unfold MessageQueue.unsent MessageQueue.pushBack
      dsimp only
      split
      · rfl
      · split <;> rfl
    rw [hunsent, ← List.append_assoc]
    exact hledger.ordered.append_right _
  capacity := by
    have hlength := queue.length_outstanding
    have hpushed : (queue.pushBack ⟨payload, journal.nextTicket⟩).outstanding =
        queue.outstanding ++ [⟨payload, journal.nextTicket⟩] := by
      simp [MessageQueue.outstanding, MessageQueue.pushBack]
    rw [hpushed, List.length_append, List.length_singleton]
    omega
  blocked := hledger.blocked
  inFlight := by
    have hinFlight := hledger.inFlight
    cases mode <;> exact hinFlight
  outstanding := by
    intro message hmem
    have hpushed : message ∈ queue.outstanding ∨ message = ⟨payload, journal.nextTicket⟩ := by
      simpa [MessageQueue.outstanding, MessageQueue.pushBack, or_assoc] using hmem
    obtain hold | rfl := hpushed
    · have hpromise := hledger.outstanding message hold
      cases mode <;> exact hpromise
    · have hpromise := hledger.fresh journal.nextTicket (Nat.le_refl _)
      cases mode with
      | settled => exact absurd rfl hmode
      | resting | publishing | published | failing => exact hpromise
  others := by
    intro message haccepted hnot
    have hpushed : message ∉ queue.outstanding ∧ message ≠ ⟨payload, journal.nextTicket⟩ := by
      have hboth : ¬(message ∈ queue.outstanding ∨ message = ⟨payload, journal.nextTicket⟩) :=
        fun hmem => hnot (by
          simpa [MessageQueue.outstanding, MessageQueue.pushBack, or_assoc] using hmem)
      exact not_or.mp hboth
    obtain hold | hnew := List.mem_append.mp haccepted
    · exact hledger.others message hold hpushed.1
    · exact absurd (List.mem_singleton.mp hnew) hpushed.2

/-- The promise of a message that is on its way out is set. -/
theorem setOverwritten {victim : PendingMessage}
    (hledger : Ledger queue (journal.destroy victim) mode) (haccepted : victim ∈ journal.accepted) (houtside : victim ∉ queue.outstanding)
    (hunsent : victim ∉ journal.appended)
    (hpromise : journal.completions victim.ticket = []) :
    Ledger queue (journal.setValue .overwritten victim) mode := by
  have hother : ∀ message ∈ journal.accepted, message ≠ victim →
      (journal.setValue .overwritten victim).completions message.ticket =
        journal.completions message.ticket := by
    intro message hmem hne
    rw [completions_setValue, if_neg fun hticket =>
      hne (hledger.eq_of_ticket hmem haccepted hticket)]
  refine ⟨hledger.tickets, hledger.bounded, ?_, hledger.ordered, hledger.capacity,
    hledger.blocked, ?_, ?_, ?_⟩
  · intro ticket hle
    have hlt : victim.ticket < ticket :=
      (hledger.bounded victim haccepted).trans_le hle
    rw [completions_setValue, if_neg hlt.ne']
    exact hledger.fresh ticket hle
  · have hinFlight := hledger.inFlight
    cases mode <;> exact hinFlight
  · intro message hmem
    have hsame := hother message (hledger.mem_accepted hmem)
      fun heq => houtside (heq ▸ hmem)
    have hold : mode.Outstanding journal message := by
      have hpromise := hledger.outstanding message hmem
      cases mode <;> exact hpromise
    cases mode <;> simpa only [Mode.Outstanding, hsame, appended_setValue] using hold
  · intro message hmem hnot
    by_cases hvictim : message = victim
    · subst hvictim
      refine .inr ⟨hunsent, .inl ?_⟩
      rw [completions_setValue, if_pos rfl, hpromise]
      rfl
    · rw [hother message hmem hvictim]
      simpa [Journal.destroy, Journal.setValue, hvictim] using
        hledger.others message hmem hnot

/-- The message moved out goes back to the front. -/
theorem pushFront (hledger : Ledger queue journal mode) {victim : PendingMessage}
    {taken : MessageQueue} (htake : queue.takeOverwritten = (some victim, taken))
    (hmode : mode ≠ .settled) (hfull : kMaxOutstandingMessages ≤ queue.queuedMessageCount) :
    (taken.pushFront victim).outstanding = queue.outstanding ∧
      Ledger (taken.pushFront victim) journal mode := by
  obtain ⟨other, hinFlight, hother⟩ | ⟨other, pending, hpublishing, hpending, hother⟩ :=
    MessageQueue.takeOverwritten_full hfull
  · obtain ⟨rfl, rfl⟩ : other = victim ∧ ⟨none, queue.pending⟩ = taken := by
      simpa using hother.symm.trans htake
    have houtstanding : (MessageQueue.pushFront ⟨none, queue.pending⟩ other).outstanding =
        queue.outstanding := by
      simp [MessageQueue.outstanding, MessageQueue.pushFront, hinFlight]
    refine ⟨houtstanding, hledger.rearrange houtstanding ?_ ?_ ?_ fun _ => id⟩
    · simp [MessageQueue.unsent, MessageQueue.pushFront, hinFlight, hledger.blocked other hinFlight]
    · simp [MessageQueue.pushFront]
    · have hstate := hledger.inFlight
      cases mode with
      | resting => simp [Mode.InFlight, MessageQueue.pushFront]
      | publishing => simp [Mode.InFlight, hinFlight] at hstate
      | published => simp [Mode.InFlight, hinFlight] at hstate
      | failing => trivial
      | settled => exact absurd rfl hmode
  · obtain ⟨rfl, rfl⟩ : other = victim ∧ ⟨queue.inFlight, pending⟩ = taken := by
      simpa using hother.symm.trans htake
    have hsame : MessageQueue.pushFront ⟨queue.inFlight, pending⟩ other = queue := by
      simp [MessageQueue.pushFront, ← hpending]
    rw [hsame]
    exact ⟨rfl, hledger⟩

theorem popBack_pushBack (queue : MessageQueue) (message : PendingMessage) :
    (queue.pushBack message).popBack = queue := by
  simp [MessageQueue.pushBack, MessageQueue.popBack]

/-! ## The worker's sections -/

theorem unsent_of_inFlight {inFlight : InFlightMessage}
    (hinFlight : queue.inFlight = some inFlight) (hunsent : inFlight.message ∉ journal.appended) :
    queue.unsent journal.appended = inFlight.message :: queue.pending := by
  simp [MessageQueue.unsent, hinFlight, hunsent]

theorem beginPublishing (hledger : Ledger queue journal .resting) {queue' : MessageQueue}
    (hbegin : queue.beginPublishing = some (message, queue')) :
    Ledger queue' journal .publishing := by
  obtain ⟨inFlight, pending⟩ := queue
  cases inFlight with
  | some inFlight =>
      obtain ⟨message, state⟩ := inFlight
      obtain rfl : state = .blocked := hledger.inFlight _ rfl
      have hunsent := hledger.blocked message rfl
      cases hbegin
      refine hledger.rearrange rfl ?_ (by simp) ⟨_, rfl, hunsent⟩ fun _ => id
      simp [MessageQueue.unsent, hunsent]
  | none =>
      cases pending with
      | nil => cases hbegin
      | cons next pending =>
          have hunsent := hledger.notMem_appended_of_pending (List.mem_cons_self ..)
          cases hbegin
          refine hledger.rearrange rfl ?_ (by simp) ⟨_, rfl, hunsent⟩ fun _ => id
          simp [MessageQueue.unsent, hunsent]

theorem block (hledger : Ledger queue journal .publishing) :
    Ledger queue.block journal .resting := by
  obtain ⟨message, hinFlight, hunsent⟩ := hledger.inFlight
  refine hledger.rearrange ?_ ?_ ?_ ?_ fun _ => id
  · simp [MessageQueue.outstanding, MessageQueue.block, hinFlight]
  · simp [MessageQueue.unsent, MessageQueue.block, hinFlight]
  · intro other hother
    simp only [MessageQueue.block, hinFlight, Option.map_some, Option.some.injEq,
      InFlightMessage.mk.injEq, and_true] at hother
    exact hother ▸ hunsent
  · intro inFlight hblocked
    simp only [MessageQueue.block, hinFlight, Option.map_some, Option.some.injEq] at hblocked
    rw [← hblocked]

/-- An attempt that fails leaves the message in flight as it is. -/
theorem fail (hledger : Ledger queue journal mode) (hmode : mode ≠ .settled) :
    Ledger queue journal .failing := by
  refine hledger.rearrange rfl rfl hledger.blocked trivial fun other hpromise => ?_
  cases mode with
  | settled => exact absurd rfl hmode
  | resting | publishing | published | failing => exact hpromise

/-- The message in flight reaches the ring. -/
theorem append (hledger : Ledger queue journal .publishing)
    (hinFlight : queue.inFlight = some ⟨message, .publishing⟩) :
    Ledger queue { journal with appended := journal.appended ++ [message] } .published := by
  have hunsent : message ∉ journal.appended := by
    obtain ⟨other, hother, hnot⟩ := hledger.inFlight
    rw [hinFlight, Option.some.injEq, InFlightMessage.mk.injEq] at hother
    exact hother.1 ▸ hnot
  have hmem : message ∈ queue.outstanding := by
    simp [MessageQueue.outstanding, hinFlight]
  refine ⟨hledger.tickets, hledger.bounded, hledger.fresh, ?_, hledger.capacity,
    by simp [hinFlight], ⟨message, hinFlight, by simp⟩, hledger.outstanding, ?_⟩
  · have hold := hledger.ordered
    rw [unsent_of_inFlight hinFlight hunsent] at hold
    simpa [MessageQueue.unsent, hinFlight] using hold
  · intro other haccepted hnot
    have hne : other ≠ message := fun heq => hnot (heq ▸ hmem)
    simpa [hne] using hledger.others other haccepted hnot

/-- The promise of a message that has reached the ring is set. -/
theorem publish (hledger : Ledger queue journal .published)
    (hinFlight : queue.inFlight = some ⟨message, .publishing⟩) :
    Ledger queue.clearInFlight (journal.setValue .published message) .resting := by
  have happended : message ∈ journal.appended := by
    obtain ⟨other, hother, hmem⟩ := hledger.inFlight
    rw [hinFlight, Option.some.injEq, InFlightMessage.mk.injEq] at hother
    exact hother.1 ▸ hmem
  have hmessage : message ∈ queue.outstanding := by
    simp [MessageQueue.outstanding, hinFlight]
  have haccepted := hledger.mem_accepted hmessage
  have houtstanding : queue.outstanding = message :: queue.pending := by
    simp [MessageQueue.outstanding, hinFlight]
  have hpromise : journal.completions message.ticket = [] :=
    hledger.outstanding message hmessage
  have hother : ∀ other ∈ journal.accepted, other ≠ message →
      (journal.setValue .published message).completions other.ticket =
        journal.completions other.ticket := by
    intro other hmem hne
    rw [completions_setValue, if_neg fun hticket =>
      hne (hledger.eq_of_ticket hmem haccepted hticket)]
  have hcleared : queue.clearInFlight.outstanding = queue.pending := by
    simp [MessageQueue.outstanding, MessageQueue.clearInFlight]
  refine ⟨hledger.tickets, hledger.bounded, ?_, ?_, ?_, by simp [MessageQueue.clearInFlight],
    by simp [Mode.InFlight, MessageQueue.clearInFlight], ?_, ?_⟩
  · intro ticket hle
    have hlt : message.ticket < ticket := (hledger.bounded message haccepted).trans_le hle
    rw [completions_setValue, if_neg hlt.ne']
    exact hledger.fresh ticket hle
  · have hold := hledger.ordered
    simp only [MessageQueue.unsent, hinFlight, happended, if_true] at hold
    exact hold
  · have hcapacity := hledger.capacity
    rw [houtstanding, List.length_cons] at hcapacity
    rw [hcleared]
    omega
  · intro other hmem
    rw [hcleared] at hmem
    have hne : other ≠ message :=
      fun heq => hledger.notMem_appended_of_pending hmem (heq ▸ happended)
    have houtside : other ∈ queue.outstanding := by simp [houtstanding, hmem]
    exact (hother other (hledger.mem_accepted houtside) hne).trans
      (hledger.outstanding other houtside)
  · intro other hmem hnot
    rw [hcleared] at hnot
    by_cases hne : other = message
    · subst hne
      refine .inl ⟨?_, happended⟩
      rw [completions_setValue, if_pos rfl, hpromise]
      rfl
    · rw [hother other hmem hne]
      refine hledger.others other hmem fun houtside => ?_
      rw [houtstanding, List.mem_cons] at houtside
      exact houtside.elim hne hnot

/-! ## The exit path -/

theorem completions_foldl (journal : Journal) {messages : List PendingMessage}
    (completion : PublishCompletion)
    (hnodup : (messages.map PendingMessage.ticket).Nodup) (ticket : ℕ) :
    (messages.foldl (·.setValue completion ·) journal).completions ticket =
      if ticket ∈ messages.map PendingMessage.ticket then
        journal.completions ticket ++ [completion]
      else journal.completions ticket := by
  induction messages generalizing journal with
  | nil => simp
  | cons message messages ih =>
      rw [List.map_cons, List.nodup_cons] at hnodup
      rw [List.foldl_cons, ih _ hnodup.2, completions_setValue, List.map_cons]
      by_cases hticket : ticket = message.ticket
      · subst hticket
        simp [hnodup.1]
      · simp [hticket]

theorem accepted_foldl (journal : Journal) (messages : List PendingMessage)
    (completion : PublishCompletion) :
    (messages.foldl (·.setValue completion ·) journal).accepted = journal.accepted ∧
      (messages.foldl (·.setValue completion ·) journal).appended = journal.appended ∧
      (messages.foldl (·.setValue completion ·) journal).destroyed = journal.destroyed ∧
      (messages.foldl (·.setValue completion ·) journal).nextTicket = journal.nextTicket := by
  induction messages generalizing journal with
  | nil => exact ⟨rfl, rfl, rfl, rfl⟩
  | cons message messages ih => exact ih _

/-- The exit path settles every outstanding message. -/
theorem complete (hledger : Ledger queue journal mode) (hmode : mode ≠ .settled)
    {completion : PublishCompletion}
    (hcompletion : completion = .workerFailed ∨ completion = .workerStopped ∧ mode = .resting) :
    Ledger queue (queue.outstanding.foldl (·.setValue completion ·) journal) .settled := by
  obtain ⟨haccepted, happended, hdestroyed, hnext⟩ :=
    accepted_foldl journal queue.outstanding completion
  have hinj : (queue.outstanding.map PendingMessage.ticket).Nodup :=
    hledger.outstanding_nodup.map_on fun left hleft right hright =>
      hledger.eq_of_ticket (hledger.mem_accepted hleft) (hledger.mem_accepted hright)
  have hpromises := completions_foldl journal completion hinj
  have hmemTicket : ∀ other ∈ journal.accepted,
      other.ticket ∈ queue.outstanding.map PendingMessage.ticket ↔ other ∈ queue.outstanding := by
    intro other hother
    refine ⟨fun hmem => ?_, fun hmem => List.mem_map_of_mem hmem⟩
    obtain ⟨message, hmessage, hticket⟩ := List.mem_map.mp hmem
    exact hledger.eq_of_ticket (hledger.mem_accepted hmessage) hother hticket ▸ hmessage
  refine ⟨haccepted ▸ hledger.tickets, ?_, ?_, ?_, hledger.capacity, ?_, trivial, ?_, ?_⟩
  · rw [haccepted, hnext]
    exact hledger.bounded
  · intro ticket hle
    rw [hnext] at hle
    rw [hpromises, if_neg]
    · exact hledger.fresh ticket hle
    · intro hmem
      obtain ⟨message, hmessage, rfl⟩ := List.mem_map.mp hmem
      exact absurd (hledger.bounded message (hledger.mem_accepted hmessage)) (by omega)
  · rw [haccepted, happended]
    exact hledger.ordered
  · rw [happended]
    exact hledger.blocked
  · intro message hmem
    have hpromise : journal.completions message.ticket = [] := by
      have hold := hledger.outstanding message hmem
      cases mode with
      | settled => exact absurd rfl hmode
      | resting | publishing | published | failing => exact hold
    have hset := hpromises message.ticket
    rw [if_pos ((hmemTicket message (hledger.mem_accepted hmem)).mpr hmem), hpromise,
      List.nil_append] at hset
    obtain rfl | ⟨rfl, rfl⟩ := hcompletion
    · exact .inl hset
    · refine .inr ⟨hset, ?_⟩
      rw [happended]
      obtain ⟨inFlight, hinFlight, rfl⟩ | hpending := mem_outstanding_iff.mp hmem
      · obtain ⟨message, state⟩ := inFlight
        obtain rfl : state = .blocked := hledger.inFlight _ hinFlight
        exact hledger.blocked message hinFlight
      · exact hledger.notMem_appended_of_pending hpending
  · intro message hmem hnot
    rw [haccepted] at hmem
    rw [happended, hdestroyed, hpromises,
      if_neg fun hticket => hnot ((hmemTicket message hmem).mp hticket)]
    exact hledger.others message hmem hnot

end Ledger

/-! ## The whole section of a producer -/

/-- The history once a message has been enqueued. -/
def Journal.accept (journal : Journal) (payload : List Byte)
    (overwritten : Option PendingMessage) : Journal :=
  let accepted := { journal with
    nextTicket := journal.nextTicket + 1
    accepted := journal.accepted ++ [⟨payload, journal.nextTicket⟩] }
  match overwritten with
  | none => accepted
  | some victim => accepted.setValue .overwritten victim

/-- The history once a call has failed. -/
def Journal.reject (journal : Journal) : EnqueueResult → Journal
  | .thrown (some victim) => journal.destroy victim
  | _ => journal

namespace Ledger

variable {queue : MessageQueue} {journal : Journal} {mode : Mode}

/-- A failed call changes at most the container of the first message, unless an
exception destroys the message that it has moved out. -/
theorem enqueue_failed (hledger : Ledger queue journal mode) (hmode : mode ≠ .settled)
    {env : EnqueueEnv} {message : PendingMessage} {result : EnqueueResult}
    {queue' : MessageQueue} (henqueue : queue.enqueue env message = (result, queue'))
    (hfailed : ∀ overwritten, result ≠ .accepted overwritten) :
    Ledger queue' (journal.reject result) mode := by
  unfold MessageQueue.enqueue at henqueue
  by_cases hfull : kMaxOutstandingMessages ≤ queue.queuedMessageCount
  · obtain ⟨victim, taken, htake, -, -, -, htaken⟩ := hledger.takeOverwritten hmode hfull
    obtain ⟨copies, signals, reinserts⟩ := env
    simp only [htake, popBack_pushBack] at henqueue
    cases copies with
    | false => cases henqueue; exact htaken
    | true =>
        cases signals with
        | true =>
            cases henqueue
            exact absurd rfl (hfailed _)
        | false =>
            cases reinserts with
            | true => cases henqueue; exact (hledger.pushFront htake hmode hfull).2
            | false => cases henqueue; exact htaken
  · simp only [MessageQueue.takeOverwritten_room (not_le.mp hfull), popBack_pushBack] at henqueue
    obtain ⟨copies, signals, reinserts⟩ := env
    cases copies with
    | false => cases henqueue; exact hledger
    | true =>
        cases signals with
        | true =>
            cases henqueue
            exact absurd rfl (hfailed _)
        | false => cases henqueue; exact hledger

theorem enqueue_accepted (hledger : Ledger queue journal mode) (hmode : mode ≠ .settled)
    {env : EnqueueEnv} {payload : List Byte} {overwritten : Option PendingMessage}
    {queue' : MessageQueue} (henqueue : queue.enqueue env ⟨payload, journal.nextTicket⟩ =
      (.accepted overwritten, queue')) :
    Ledger queue' (journal.accept payload overwritten) mode := by
  unfold MessageQueue.enqueue at henqueue
  obtain ⟨copies, signals, reinserts⟩ := env
  by_cases hfull : kMaxOutstandingMessages ≤ queue.queuedMessageCount
  · obtain ⟨victim, taken, htake, hvictim, hunsent, houtstanding, htaken⟩ :=
      hledger.takeOverwritten hmode hfull
    simp only [htake] at henqueue
    obtain rfl : copies = true := by cases copies <;> simp_all
    obtain rfl : signals = true := by
      cases signals with
      | true => rfl
      | false => cases reinserts <;> simp at henqueue
    simp only [if_true, Prod.mk.injEq, EnqueueResult.accepted.injEq] at henqueue
    obtain ⟨rfl, rfl⟩ := henqueue
    have hroom : taken.queuedMessageCount < kMaxOutstandingMessages := by
      have hcapacity := hledger.capacity
      have hlength : taken.outstanding.length = queue.outstanding.length - 1 := by
        rw [houtstanding, List.length_erase_of_mem hvictim]
      have hpositive := List.length_pos_of_mem hvictim
      rw [MessageQueue.length_outstanding] at hlength
      omega
    have haccepted := hledger.mem_accepted hvictim
    refine (htaken.push hmode hroom payload).setOverwritten (List.mem_append_left _ haccepted)
      ?_ hunsent ?_
    · intro hmem
      have hpushed : victim ∈ taken.outstanding ∨ victim = ⟨payload, journal.nextTicket⟩ := by
        simpa [MessageQueue.outstanding, MessageQueue.pushBack, or_assoc] using hmem
      obtain hold | hnew := hpushed
      · rw [houtstanding] at hold
        exact hledger.outstanding_nodup.not_mem_erase hold
      · have hlt := hledger.bounded victim haccepted
        rw [hnew] at hlt
        exact lt_irrefl _ hlt
    · have hpromise := hledger.outstanding victim hvictim
      cases mode with
      | settled => exact absurd rfl hmode
      | resting | publishing | published | failing => exact hpromise
  · rw [not_le] at hfull
    simp only [MessageQueue.takeOverwritten_room hfull] at henqueue
    obtain rfl : copies = true := by cases copies <;> simp_all
    obtain rfl : signals = true := by cases signals <;> simp_all
    simp only [if_true, Prod.mk.injEq, EnqueueResult.accepted.injEq] at henqueue
    obtain ⟨rfl, rfl⟩ := henqueue
    exact hledger.push hmode hfull payload

end Ledger

end DriveBus.Asynchronous
