import DriveBus.Asynchronous.Completion

/-!
# Moves that fail

A move stops the source's worker without settling its messages and may then throw:
while the notifications are drained, or when the destination's worker does not start.
Nobody settles the messages afterwards, so the move is harmless only if the source has
none outstanding once its worker has been joined.
-/

namespace DriveBus.Asynchronous

open DriveBus.ByteMemory DriveBus.SharedMemory DriveBus.Transition

/-- After a move every message that was outstanding in one of the two objects has been
completed, or one of them owns it and has a running worker. -/
def World.MoveKeeps (world world' : World) (source destination : ℕ) : Prop :=
  ∀ id, id = source ∨ id = destination → ∀ object, world.objects id = some object →
    ∀ message ∈ object.queue.outstanding, world'.HasJournal object.journal ∧
      (object.journal.completions message.ticket ≠ [] ∨
        ∃ owner, (owner = source ∨ owner = destination) ∧
          ∃ object', world'.objects owner = some object' ∧ object'.journal = object.journal ∧
            message ∈ object'.queue.outstanding ∧
            object'.worker.any WorkerPhase.isActive = true)

namespace World

variable {world world' : World} {source destination : ℕ} {outcome : TransferOutcome}
variable {object : PublisherObject}

/-- What a failing move leaves behind: no worker at either end, and the history of the
destination as it was. -/
theorem transfer_fails (hobject : world.objects source = some object)
    (htransfer : world.transfer source destination outcome = some world')
    (houtcome : outcome ≠ .succeeds) :
    object.owner = .joined .transfer true ∧ world.Released destination ∧
    (∀ assigned, world.objects destination = some assigned →
      world'.HasJournal assigned.journal) ∧
    ∀ owner object', owner = source ∨ owner = destination →
      world'.objects owner = some object' → object'.worker = none := by
  simp only [transfer, hobject, Option.bind_some] at htransfer
  split at htransfer
  · cases htransfer
  · rename_i hguard
    obtain ⟨hne, hreleased⟩ := not_or.mp hguard
    rw [not_not] at hreleased
    split at htransfer
    · exact absurd rfl houtcome
    · exact absurd rfl houtcome
    · rename_i howner
      cases htransfer
      refine ⟨howner, hreleased, fun assigned hassigned =>
        .inl ⟨destination, assigned.abandoned, by simp [setObject, hassigned], rfl⟩, ?_⟩
      rintro owner object' (rfl | rfl) hafter
      · simp only [setObject, ne_eq, hne, not_false_eq_true, Function.update_of_ne,
          Function.update_self, Option.some.injEq] at hafter
        exact hafter ▸ rfl
      · simp only [setObject, Function.update_self, Option.map_eq_some_iff] at hafter
        obtain ⟨assigned, -, rfl⟩ := hafter
        rfl
    · rename_i howner
      split at htransfer
      · rename_i habsent
        cases htransfer
        refine ⟨howner, hreleased, fun assigned hassigned => ?_, ?_⟩
        · cases habsent.symm.trans hassigned
        · rintro owner object' (rfl | rfl) hafter
          · simp [setObject] at hafter
          · simp [setObject, Ne.symm hne, habsent] at hafter
      · rename_i assigned hassigned
        cases htransfer
        refine ⟨howner, hreleased, fun other hother => ?_, ?_⟩
        · obtain rfl := Option.some.inj (hassigned.symm.trans hother)
          exact .inr (List.mem_append_right _ (List.mem_singleton_self _))
        · rintro owner object' (rfl | rfl) hafter
          · simp [setObject, hne] at hafter
          · simp only [setObject, Function.update_self, Option.some.injEq] at hafter
            exact hafter ▸ rfl
    · cases htransfer

end World

/-- A move that fails abandons no message if and only if the source has none outstanding
once its worker has been joined. -/
theorem failed_move_keeps_messages_iff {world world' : World}
    (hreach : lifecycle.ReachableWith FailsEmpty world) {source destination : ℕ}
    {outcome : TransferOutcome} {object : PublisherObject}
    (hobject : world.objects source = some object)
    (htransfer : world.transfer source destination outcome = some world')
    (houtcome : outcome ≠ .succeeds) :
    world.MoveKeeps world' source destination ↔ object.queue.outstanding = [] := by
  have hworld : WorldInvariant world := worldInvariant_of_reachable hreach
  obtain ⟨howner, hreleased, hhistory, hworkers⟩ :=
    World.transfer_fails hobject htransfer houtcome
  obtain ⟨hledger, -⟩ := (hworld.objects source object hobject).restartable howner
  constructor
  · intro hkeeps
    refine List.eq_nil_iff_forall_not_mem.mpr fun message hmem => ?_
    obtain ⟨-, hset | ⟨owner, hend, object', hobject', -, -, hactive⟩⟩ :=
      hkeeps source (.inl rfl) object hobject message hmem
    · exact hset (hledger.outstanding message hmem)
    · rw [hworkers owner object' hend hobject'] at hactive
      cases hactive
  · rintro hempty id (rfl | rfl) other hother message hmem
    · obtain rfl := Option.some.inj (hobject.symm.trans hother)
      rw [hempty] at hmem
      cases hmem
    · refine ⟨hhistory other hother, .inl ?_⟩
      obtain ⟨-, hsettled⟩ := hworld.released hreleased hother
      obtain hfailed | ⟨hstopped, -⟩ := hsettled.outstanding message hmem
      · simp [hfailed]
      · simp [hstopped]

/-- A publisher without messages is to be assigned to one whose message has been
settled. -/
def emptySourceActions : List WorldAction :=
  .create 0 (State.created zeroedMapping).toPublisherProcess ::
    .create 1 (State.created zeroedMapping).toPublisherProcess ::
    .object 1 (.step (.publish [1] ampleMemory)) ::
    stopActions 1 .destroy ++ stopActions 0 .transfer

theorem failed_move_keeps_messages_iff_emptySource : ∃ world world' object assigned,
    lifecycle.run World.initial emptySourceActions = some world ∧
    world.objects 0 = some object ∧ world.objects 1 = some assigned ∧
    assigned.queue.outstanding.length = 1 ∧
    world.transfer 0 1 .restartFails = some world' ∧ world.MoveKeeps world' 0 1 := by
  have hview : ((lifecycle.run World.initial emptySourceActions).bind fun world =>
      (world.objects 0).bind fun object => (world.objects 1).bind fun assigned =>
        (world.transfer 0 1 .restartFails).map fun _ =>
          (object.queue.outstanding, assigned.queue.outstanding.length)) = some ([], 1) := by
    decide +kernel
  obtain ⟨world, hrun, hobjects⟩ := Option.bind_eq_some_iff.mp hview
  obtain ⟨object, hobject, hassigned⟩ := Option.bind_eq_some_iff.mp hobjects
  obtain ⟨assigned, hassigned, hmove⟩ := Option.bind_eq_some_iff.mp hassigned
  obtain ⟨world', htransfer, hqueues⟩ := Option.map_eq_some_iff.mp hmove
  simp only [Prod.mk.injEq] at hqueues
  have hempty : ∀ state, ∀ action ∈ emptySourceActions, FailsEmpty state action := by
    simp [emptySourceActions, stopActions, FailsEmpty]
  have hreach := System.ReachableWith.initial.run hempty hrun
  exact ⟨world, world', object, assigned, hrun, hobject, hassigned, hqueues.2, htransfer,
    (failed_move_keeps_messages_iff hreach hobject htransfer (by simp)).mpr hqueues.1⟩

/-- A publisher with one message is to be moved. -/
def loadedSourceActions : List WorldAction :=
  .create 0 (State.created zeroedMapping).toPublisherProcess ::
    .object 0 (.step (.publish [1] ampleMemory)) :: stopActions 0 .transfer

/-- Draining the source's notifications fails, and the message is abandoned. -/
theorem failed_move_abandons_message :
    ¬∀ world world' source destination outcome, lifecycle.Reachable world →
      world.transfer source destination outcome = some world' → outcome ≠ .succeeds →
      world.MoveKeeps world' source destination := by
  intro hclaim
  have hview : ((lifecycle.run World.initial loadedSourceActions).bind fun world =>
      (world.objects 0).bind fun object =>
        (world.transfer 0 1 .drainFails).map fun world' =>
          (object.queue.outstanding, object.journal.completions 0,
            (world'.objects 0).bind (·.worker), (world'.objects 1).isSome)) =
      some ([⟨[1], 0⟩], [], none, false) := by decide +kernel
  obtain ⟨world, hrun, hobjects⟩ := Option.bind_eq_some_iff.mp hview
  obtain ⟨object, hobject, hmove⟩ := Option.bind_eq_some_iff.mp hobjects
  obtain ⟨world', htransfer, hafter⟩ := Option.map_eq_some_iff.mp hmove
  simp only [Prod.mk.injEq] at hafter
  obtain ⟨hqueue, hpromise, hworker, hdestination⟩ := hafter
  have hreach : lifecycle.Reachable world :=
    System.ReachableWith.initial.run (fun _ _ _ => trivial) hrun
  have hkeeps := hclaim world world' 0 1 .drainFails hreach htransfer (by simp)
  obtain ⟨-, hset | ⟨owner, rfl | rfl, object', hobject', -, -, hactive⟩⟩ :=
    hkeeps 0 (.inl rfl) object hobject ⟨[1], 0⟩ (by rw [hqueue]; simp)
  · exact hset hpromise
  · rw [hobject', Option.bind_some] at hworker
    rw [hworker] at hactive
    cases hactive
  · rw [hobject'] at hdestination
    cases hdestination

end DriveBus.Asynchronous
