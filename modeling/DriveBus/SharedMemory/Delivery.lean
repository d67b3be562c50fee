import DriveBus.SharedMemory.PublisherSteps

/-!
# Delivery

Every subscriber, tracked or already reaped, has delivered a prefix of what was
published after it joined.  The bytes come from shared memory, so this also says
that no chunk is recycled or relinked while a reader still has to copy it.
-/

namespace DriveBus.SharedMemory

open DriveBus.Transition

/-- What a reader has delivered starts at its own first message and has neither
a gap nor a repetition. -/
theorem Invariant.messages_prefix {state : State} {pool : Pool state.published}
    (hinv : Invariant state pool) {reader : Reader}
    (hreader : (∃ slot, state.readers slot = some reader) ∨ reader ∈ state.retired) :
    reader.messages <+:
      (state.published.drop reader.joinedAt).map Message.payload := by
  rcases hreader with ⟨slot, hslot⟩ | hretired
  · rw [(hinv.reader hslot).messages_eq]
    exact Reader.delivered_prefix _
  · obtain ⟨stop, -, hmessages⟩ := hinv.retired reader hretired
    rw [hmessages]
    exact Reader.delivered_prefix _

/-- While sequence numbers fit an `int`, copying a payload never fails. -/
theorem Invariant.readPayload_ok {state state' : State} {pool : Pool state.published}
    (hinv : Invariant state pool) {slot : ℕ} {outcome : Outcome}
    (hbound : state.published.length < 2 ^ 31)
    (hstep : state.step (.readPayload slot) = some (outcome, state')) :
    ∃ payload, outcome = .readPayload (.ok payload) := by
  obtain ⟨-, -, hsound, -⟩ := hinv.step hstep
  simp only [State.step, State.readPayload, Option.bind_eq_bind,
    Option.bind_eq_some_iff] at hstep
  obtain ⟨reader, -, ⟨result, started⟩, -, hstep⟩ := hstep
  simp only [Option.some.injEq, Prod.mk.injEq] at hstep
  obtain ⟨rfl, -⟩ := hstep
  cases result with
  | ok payload => exact ⟨payload, rfl⟩
  | error fault => exact absurd hsound.2 (by omega)

/-- In-order exactly-once delivery with intact payloads: over every interleaving
in which only subscribers that stopped between two messages are reaped, a
subscriber's deliveries are a prefix of the payloads published since it was
tracked, and `read_data` reports no fault. -/
theorem deliveries_prefix_of_published (mapped : SharedData) {state : State}
    (hreach : (dataPlane mapped).ReachableWith StopsBetweenMessages state)
    (hbound : state.published.length < 2 ^ 31) :
    (∀ reader, ((∃ slot, state.readers slot = some reader) ∨ reader ∈ state.retired) →
      reader.messages <+:
        (state.published.drop reader.joinedAt).map Message.payload) ∧
    ∀ slot outcome state',
      state.step (.readPayload slot) = some (outcome, state') →
        ∃ payload, outcome = .readPayload (.ok payload) := by
  obtain ⟨pool, hinv⟩ := invariant_of_reachable hreach.reachable
  exact ⟨fun reader hreader => hinv.messages_prefix hreader,
    fun slot outcome state' hstep => hinv.readPayload_ok hbound hstep⟩

/-- A mapping of zero bytes, as `ftruncate` leaves it. -/
def zeroedMapping : SharedData where
  descriptorReadIndices := fun _ => 0
  descriptorWriteIndex := 0
  descRing := fun _ => { offset := 0, len := 0 }
  head := fun _ => 0
  tail := fun _ => 0
  chunkReferenceCounts := fun _ => 0
  data := fun _ => 0
  isInUse := fun _ _ => false

/-- One subscriber consumes a first message while a second one joins behind it. -/
def lateJoinActions : List Action :=
  [.track 7 0, .publish [1, 2, 3], .track 8 1, .publish [4, 5], .fetchDescriptors 0,
    .readPayload 0, .fetchDescriptors 1, .readPayload 1, .clearReference 0]

theorem lateJoin_reachable {final : State}
    (hrun : (dataPlane zeroedMapping).run (State.created zeroedMapping) lateJoinActions =
      some final) :
    (dataPlane zeroedMapping).ReachableWith StopsBetweenMessages final := by
  refine System.ReachableWith.initial.run (fun state action hmem => ?_) hrun
  simp only [lateJoinActions, List.mem_cons, List.not_mem_nil, or_false] at hmem
  rcases hmem with rfl | rfl | rfl | rfl | rfl | rfl | rfl | rfl | rfl <;> trivial

theorem deliveries_prefix_lateJoin : ∃ state first second,
    (dataPlane zeroedMapping).ReachableWith StopsBetweenMessages state ∧
    state.readers 0 = some first ∧ first.messages = [[1, 2, 3]] ∧
    state.readers 1 = some second ∧ second.messages = [[4, 5]] ∧
    first.messages <+: (state.published.drop first.joinedAt).map Message.payload ∧
    second.messages <+: (state.published.drop second.joinedAt).map Message.payload := by
  have hview : ((dataPlane zeroedMapping).run (State.created zeroedMapping)
      lateJoinActions).map (fun state => ((state.readers 0).map Reader.messages,
        (state.readers 1).map Reader.messages, state.published.length)) =
      some (some [[1, 2, 3]], some [[4, 5]], 2) := by decide +kernel
  obtain ⟨state, hrun, hstate⟩ := Option.map_eq_some_iff.mp hview
  simp only [Prod.mk.injEq, Option.map_eq_some_iff] at hstate
  obtain ⟨⟨first, hfirst, hfirstMessages⟩, ⟨second, hsecond, hsecondMessages⟩, hlength⟩ :=
    hstate
  have hreach := lateJoin_reachable hrun
  obtain ⟨hbefore, -⟩ := deliveries_prefix_of_published zeroedMapping hreach
    (by rw [hlength]; norm_num)
  exact ⟨state, first, second, hreach, hfirst, hfirstMessages, hsecond, hsecondMessages,
    hbefore first (.inl ⟨0, hfirst⟩), hbefore second (.inl ⟨1, hsecond⟩)⟩

end DriveBus.SharedMemory
