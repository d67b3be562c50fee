import DriveBus.Asynchronous.Queue
import DriveBus.SharedMemory.SpaceSignal

/-!
# The ring admission test beside running subscribers

The scan of `find_slowest_read_index` loads one read index after the other while
subscribers move theirs towards the write index, so the loaded values need not be
a snapshot.  Every loaded value still lies between the index at the start of the
scan and the index at its end, and the test on the loaded values inherits its two
directions from the ends.
-/

namespace DriveBus.SharedMemory

open DriveBus.Transition

/-! ## What the two callers of the test return -/

/-- No slot is tracked, or some tracked subscriber has consumed nothing of a full
ring. -/
def SharedData.Full (shared : SharedData) : Prop :=
  (∀ slot < kMaxSubscribers, shared.descriptorReadIndices slot = kInvalidIndex) ∨
    ∃ slot < kMaxSubscribers, shared.descriptorReadIndices slot ≠ kInvalidIndex ∧
      unreadCount shared.descriptorWriteIndex (shared.descriptorReadIndices slot) =
        kDescriptorSlotCount - 1

/-- A message of a valid size is blocked by the ring or by its empty free list. -/
theorem tryPublishOne_blocked_iff {process : PublisherProcess}
    (hring : RingIndices process.shared) {payload : List ByteMemory.Byte} {sizeClass : ℕ}
    (hsize : findSizeClass (payload.length + kMessageHeaderSizeBytes) = some sizeClass) :
    (tryPublishOne process payload).1 = .ok .blocked ↔
      process.shared.Full ∨
        process.shared.head sizeClass = process.shared.tail sizeClass := by
  have hclass := findSizeClass_eq_some hsize
  have hmax : kClassSizeBytes sizeClass ≤ 1024 := by
    have hlt := hclass.1
    unfold kClassCount at hlt
    interval_cases sizeClass <;> decide
  have hlength : ¬ 2 ^ 32 - 1 - kMessageHeaderSizeBytes < payload.length := by
    have hle := hclass.2
    omega
  rw [SharedData.Full, ← descriptorsBlocked_iff hring]
  simp only [tryPublishOne, if_neg hlength, hsize]
  split
  next hblocked => simp [hblocked]
  next hfree =>
    split
    next hempty => simp [hempty]
    next hchunk =>
      have hne := publishChunk_ne_blocked process payload sizeClass
        (process.shared.head sizeClass)
      split
      · simp [hfree, hchunk]
      · split <;> simp [hfree, hchunk, hne]

/-- The worker's readiness test asks the same of the next message. -/
theorem canPublishNextMessage_blocked_iff {shared : SharedData} (hring : RingIndices shared)
    {queue : Asynchronous.MessageQueue} {message : Asynchronous.PendingMessage}
    {rest : List Asynchronous.PendingMessage} (hnext : queue.outstanding = message :: rest)
    {sizeClass : ℕ}
    (hsize : findSizeClass (kMessageHeaderSizeBytes + message.payload.length) =
      some sizeClass) :
    Asynchronous.canPublishNextMessage shared queue = .ok .blocked ↔
      shared.Full ∨ shared.head sizeClass = shared.tail sizeClass := by
  rw [SharedData.Full, ← descriptorsBlocked_iff hring]
  simp only [Asynchronous.canPublishNextMessage, hnext, hsize]
  split
  next hblocked => simp [hblocked]
  next hfree =>
    split
    next hempty => simp [hempty]
    next hchunk => simp [hfree, hchunk]

/-! ## One subscriber's progress -/

theorem SharedData.storeReadIndex_self (shared : SharedData) (slot index : ℕ) :
    (shared.storeReadIndex slot index).descriptorReadIndices slot = index :=
  Function.update_self ..

theorem SharedData.storeReadIndex_of_ne (shared : SharedData) {slot other : ℕ}
    (index : ℕ) (hne : other ≠ slot) :
    (shared.storeReadIndex slot index).descriptorReadIndices other =
      shared.descriptorReadIndices other :=
  Function.update_of_ne hne ..

/-- A read index that has moved towards the write index, or stayed. -/
def Advanced (wr before after : ℕ) : Prop :=
  before = kInvalidIndex ∧ after = kInvalidIndex ∨
    before < kDescriptorSlotCount ∧ after < kDescriptorSlotCount ∧
      unreadCount wr after ≤ unreadCount wr before

namespace Advanced

variable {wr before middle after : ℕ}

theorem refl (hindex : before = kInvalidIndex ∨ before < kDescriptorSlotCount) :
    Advanced wr before before :=
  hindex.imp (fun hinvalid => ⟨hinvalid, hinvalid⟩) fun hlt => ⟨hlt, hlt, le_refl _⟩

theorem trans (hfirst : Advanced wr before middle) (hsecond : Advanced wr middle after) :
    Advanced wr before after := by
  have hinvalid : kDescriptorSlotCount ≤ kInvalidIndex := by decide
  rcases hfirst with ⟨hbefore, hmiddle⟩ | ⟨hbefore, hmiddle, hle⟩
  · rcases hsecond with ⟨-, hafter⟩ | ⟨hlt, -⟩
    · exact .inl ⟨hbefore, hafter⟩
    · omega
  · rcases hsecond with ⟨heq, -⟩ | ⟨-, hafter, hle'⟩
    · omega
    · exact .inr ⟨hbefore, hafter, hle'.trans hle⟩

/-- Consuming one descriptor. -/
theorem increment (hwr : wr < kDescriptorSlotCount) (hlt : before < kDescriptorSlotCount)
    (hunread : before ≠ wr) : Advanced wr before (Reader.incrementReadIndex before) := by
  have hincrement : Reader.incrementReadIndex before = (before + 1) % kDescriptorSlotCount := by
    rw [← ReaderInvariant.incrementReadIndex_mod, Nat.mod_eq_of_lt hlt]
  right
  rw [hincrement]
  simp only [unreadCount, kDescriptorSlotCount] at hwr hlt ⊢
  omega

theorem invalid_iff (hadvanced : Advanced wr before after) :
    before = kInvalidIndex ↔ after = kInvalidIndex := by
  have hinvalid : kDescriptorSlotCount ≤ kInvalidIndex := by decide
  rcases hadvanced with ⟨hbefore, hafter⟩ | ⟨hbefore, hafter, -⟩
  · exact iff_of_true hbefore hafter
  · exact iff_of_false (by omega) (by omega)

theorem unread_le (hadvanced : Advanced wr before after) :
    unreadCount wr after ≤ unreadCount wr before := by
  rcases hadvanced with ⟨rfl, rfl⟩ | ⟨-, -, hle⟩
  · exact le_refl _
  · exact hle

theorem right_ring (hadvanced : Advanced wr before after) :
    after = kInvalidIndex ∨ after < kDescriptorSlotCount :=
  hadvanced.imp (fun hinvalid => hinvalid.2) fun hvalid => hvalid.2.1

end Advanced

/-! ## The scan as a transition system -/

/-- The publisher inside `find_slowest_read_index`: the slots loaded so far and
the two running minima. -/
structure Scan where
  shared : SharedData
  loaded : ℕ
  slowest : SlowestReadIndices

inductive ScanAction
  | load
  | consume (slotIndex : ℕ)
  deriving DecidableEq

namespace Scan

/-- The next iteration of the loop. -/
def load (scan : Scan) : Option Scan :=
  if scan.loaded < kMaxSubscribers then
    some { scan with
      loaded := scan.loaded + 1
      slowest := scanReadIndex scan.shared.descriptorWriteIndex scan.slowest
        (scan.shared.descriptorReadIndices scan.loaded) }
  else none

/-- The subscriber of a slot stores its next read index. -/
def consume (scan : Scan) (slotIndex : ℕ) : Option Scan :=
  let readIndex := scan.shared.descriptorReadIndices slotIndex
  if slotIndex < kMaxSubscribers ∧ readIndex ≠ kInvalidIndex ∧
      readIndex ≠ scan.shared.descriptorWriteIndex then
    some { scan with
      shared := scan.shared.storeReadIndex slotIndex
        (Reader.incrementReadIndex readIndex) }
  else none

def next (scan : Scan) : ScanAction → Option Scan
  | .load => scan.load
  | .consume slotIndex => scan.consume slotIndex

/-- What the function returns once every slot has been loaded. -/
def result (scan : Scan) : ℕ :=
  if scan.slowest.beforeWrite ≠ kInvalidIndex then scan.slowest.beforeWrite
  else scan.slowest.afterWrite

end Scan

/-- The scan of a mapping while its subscribers consume. -/
def concurrentScan (shared : SharedData) : System Scan ScanAction where
  initial :=
    { shared
      loaded := 0
      slowest := { beforeWrite := kInvalidIndex, afterWrite := kInvalidIndex } }
  next := Scan.next

/-- The scan has folded the values `loads`, each of which its slot held at some
moment since the start. -/
structure Scan.Invariant (start : SharedData) (loads : ℕ → ℕ) (scan : Scan) : Prop where
  write_eq : scan.shared.descriptorWriteIndex = start.descriptorWriteIndex
  loaded_le : scan.loaded ≤ kMaxSubscribers
  slowest_eq : scan.slowest = (List.range scan.loaded).foldl
    (fun slowest slot => scanReadIndex start.descriptorWriteIndex slowest (loads slot))
    { beforeWrite := kInvalidIndex, afterWrite := kInvalidIndex }
  since_start : ∀ slot < kMaxSubscribers, Advanced start.descriptorWriteIndex
    (start.descriptorReadIndices slot) (scan.shared.descriptorReadIndices slot)
  until_load : ∀ slot < scan.loaded, Advanced start.descriptorWriteIndex
    (start.descriptorReadIndices slot) (loads slot)
  since_load : ∀ slot < scan.loaded, Advanced start.descriptorWriteIndex
    (loads slot) (scan.shared.descriptorReadIndices slot)

namespace Scan.Invariant

variable {start : SharedData} {loads : ℕ → ℕ} {scan scan' : Scan}

theorem initial (hring : RingIndices start) :
    Scan.Invariant start loads (concurrentScan start).initial where
  write_eq := rfl
  loaded_le := Nat.zero_le _
  slowest_eq := rfl
  since_start slot hslot := Advanced.refl (hring.read_lt slot hslot)
  until_load _ hslot := absurd hslot (Nat.not_lt_zero _)
  since_load _ hslot := absurd hslot (Nat.not_lt_zero _)

/-- A load remembers the value it found. -/
theorem load (hinv : Scan.Invariant start loads scan) (hnext : scan.load = some scan') :
    Scan.Invariant start (Function.update loads scan.loaded
      (scan.shared.descriptorReadIndices scan.loaded)) scan' := by
  obtain ⟨hlt, hsome⟩ := Option.ite_none_right_eq_some.mp hnext
  obtain rfl := Option.some.inj hsome
  have hsame : ∀ slot < scan.loaded, Function.update loads scan.loaded
      (scan.shared.descriptorReadIndices scan.loaded) slot = loads slot :=
    fun slot hslot => Function.update_of_ne (by omega) _ _
  refine ⟨hinv.write_eq, hlt, ?_, hinv.since_start, ?_, ?_⟩
  · have hfold : ∀ slots : List ℕ, (∀ slot ∈ slots, slot < scan.loaded) → ∀ slowest,
        slots.foldl (fun slowest slot =>
          scanReadIndex start.descriptorWriteIndex slowest (Function.update loads
            scan.loaded (scan.shared.descriptorReadIndices scan.loaded) slot)) slowest =
          slots.foldl (fun slowest slot =>
            scanReadIndex start.descriptorWriteIndex slowest (loads slot)) slowest := by
      intro slots hslots
      refine fun slowest => List.foldl_ext _ _ _ fun slowest slot hmem => ?_
      rw [hsame slot (hslots slot hmem)]
    simp only [List.range_succ, List.foldl_append, List.foldl_cons, List.foldl_nil,
      Function.update_self]
    rw [hfold _ fun slot hmem => List.mem_range.mp hmem, ← hinv.slowest_eq, hinv.write_eq]
  all_goals
    intro slot hslot
    rcases Nat.lt_succ_iff_lt_or_eq.mp hslot with hlt' | rfl
  · rw [hsame slot hlt']
    exact hinv.until_load slot hlt'
  · rw [Function.update_self]
    exact hinv.since_start _ hlt
  · rw [hsame slot hlt']
    exact hinv.since_load slot hlt'
  · rw [Function.update_self]
    exact Advanced.refl (hinv.since_start _ hlt).right_ring

/-- A subscriber's store keeps the loads. -/
theorem consume (hinv : Scan.Invariant start loads scan)
    (hwrite : start.descriptorWriteIndex < kDescriptorSlotCount) {slotIndex : ℕ}
    (hnext : scan.consume slotIndex = some scan') : Scan.Invariant start loads scan' := by
  obtain ⟨⟨hslot, hvalid, hunread⟩, hsome⟩ := Option.ite_none_right_eq_some.mp hnext
  obtain rfl := Option.some.inj hsome
  have hstep : ∀ slot < kMaxSubscribers, Advanced start.descriptorWriteIndex
      (scan.shared.descriptorReadIndices slot)
      ((scan.shared.storeReadIndex slotIndex (Reader.incrementReadIndex
        (scan.shared.descriptorReadIndices slotIndex))).descriptorReadIndices slot) := by
    intro slot hlt
    have hring := (hinv.since_start slot hlt).right_ring
    by_cases heq : slot = slotIndex
    · subst heq
      rw [SharedData.storeReadIndex_self]
      exact Advanced.increment hwrite (hring.resolve_left hvalid)
        (hinv.write_eq ▸ hunread)
    · rw [SharedData.storeReadIndex_of_ne _ _ heq]
      exact Advanced.refl hring
  exact ⟨hinv.write_eq, hinv.loaded_le, hinv.slowest_eq,
    fun slot hlt => (hinv.since_start slot hlt).trans (hstep slot hlt), hinv.until_load,
    fun slot hlt => (hinv.since_load slot hlt).trans
      (hstep slot (hlt.trans_le hinv.loaded_le))⟩

end Scan.Invariant

theorem scanInvariant_of_reachable {start : SharedData} (hring : RingIndices start)
    {scan : Scan} (hreach : (concurrentScan start).Reachable scan) :
    ∃ loads, Scan.Invariant start loads scan := by
  refine hreach.invariant (fun scan => ∃ loads, Scan.Invariant start loads scan)
    ⟨fun _ => 0, Scan.Invariant.initial hring⟩ ?_
  rintro scan action scan' ⟨loads, hinv⟩ - hnext
  cases action with
  | load => exact ⟨_, hinv.load hnext⟩
  | consume slotIndex => exact ⟨loads, hinv.consume hring.write_lt hnext⟩

/-! ## The verdict -/

namespace Scan.Invariant

variable {start : SharedData} {loads : ℕ → ℕ} {scan : Scan}

/-- A finished scan returns what a snapshot of the loaded values would give. -/
theorem result_eq (hinv : Scan.Invariant start loads scan)
    (hdone : scan.loaded = kMaxSubscribers) :
    scan.result = findSlowestReadIndex { start with descriptorReadIndices := loads } := by
  rw [Scan.result, hinv.slowest_eq, hdone]
  rfl

theorem loads_ring (hinv : Scan.Invariant start loads scan) (hring : RingIndices start)
    (hdone : scan.loaded = kMaxSubscribers) :
    RingIndices { start with descriptorReadIndices := loads } where
  write_lt := hring.write_lt
  read_lt slot hslot := (hinv.until_load slot (hdone ▸ hslot)).right_ring

/-- A free ring: somebody is tracked, and nobody tracked has fifteen unread. -/
theorem free (hinv : Scan.Invariant start loads scan) (hring : RingIndices start)
    (hdone : scan.loaded = kMaxSubscribers)
    (hfree : ¬ DescriptorsBlocked scan.result scan.shared.descriptorWriteIndex) :
    ¬ scan.shared.Full := by
  rw [hinv.result_eq hdone, hinv.write_eq] at hfree
  have hnotFull := mt (descriptorsBlocked_iff (hinv.loads_ring hring hdone)).mpr hfree
  push Not at hnotFull
  obtain ⟨⟨slot, hslot, htracked⟩, hunread⟩ := hnotFull
  have hload := fun slot hslot => hinv.since_load slot (hdone ▸ hslot)
  rintro (hnone | ⟨other, hother, hvalid, hfull⟩)
  · exact htracked ((hload slot hslot).invalid_iff.mpr (hnone slot hslot))
  · have hloaded := hunread other hother (mt (hload other hother).invalid_iff.mp hvalid)
    have hle := (hload other hother).unread_le
    rw [hinv.write_eq] at hfull
    have hlt : unreadCount start.descriptorWriteIndex (loads other) <
        kDescriptorSlotCount := Nat.mod_lt _ (by decide)
    dsimp only at hloaded
    omega

/-- A blocked ring was full when the scan started. -/
theorem blocked (hinv : Scan.Invariant start loads scan) (hring : RingIndices start)
    (hdone : scan.loaded = kMaxSubscribers)
    (hblocked : DescriptorsBlocked scan.result scan.shared.descriptorWriteIndex) :
    start.Full := by
  rw [hinv.result_eq hdone, hinv.write_eq] at hblocked
  have hload := fun slot hslot => hinv.until_load slot (hdone ▸ hslot)
  rcases (descriptorsBlocked_iff (hinv.loads_ring hring hdone)).mp hblocked with
    hnone | ⟨slot, hslot, hvalid, hfull⟩
  · exact .inl fun slot hslot => (hload slot hslot).invalid_iff.mpr (hnone slot hslot)
  · refine .inr ⟨slot, hslot, mt (hload slot hslot).invalid_iff.mp hvalid, ?_⟩
    have hle := (hload slot hslot).unread_le
    have hlt : unreadCount start.descriptorWriteIndex (start.descriptorReadIndices slot) <
        kDescriptorSlotCount := Nat.mod_lt _ (by decide)
    dsimp only at hfull
    omega

end Scan.Invariant

/-! ## The scan inside the data plane -/

/-- A reader about to store its read index has unread messages, and its local index
is the shared one. -/
theorem Invariant.consume_of_bitCleared {state : State} {pool : Pool state.published}
    (hinv : Invariant state pool) {slot : ℕ} {reader : Reader}
    (hreader : state.readers slot = some reader) {descriptor : MessageDescriptor}
    {sizeClass : ℕ} {lastHolder : Bool}
    (hphase : reader.phase = .bitCleared descriptor sizeClass lastHolder) (loaded : ℕ)
    (slowest : SlowestReadIndices) :
    Scan.consume ⟨state.shared, loaded, slowest⟩ slot =
      some ⟨state.shared.storeReadIndex reader.slotIndex
        (Reader.incrementReadIndex reader.subscriberReadIndex), loaded, slowest⟩ := by
  have hrinv := hinv.reader hreader
  have hnext : reader.next = reader.cursor + 1 := by simp [Reader.next, hphase]
  have hle := hrinv.next_le
  have hlt := hrinv.length_lt
  have hlocal : reader.subscriberReadIndex = state.shared.descriptorReadIndices slot := by
    rw [hrinv.readIndex_eq]
    exact hrinv.localIndex.resolve_right fun hidle => by
      rw [hphase] at hidle
      cases hidle.2.1
  have hcond : slot < kMaxSubscribers ∧
      state.shared.descriptorReadIndices slot ≠ kInvalidIndex ∧
      state.shared.descriptorReadIndices slot ≠ state.shared.descriptorWriteIndex := by
    refine ⟨hrinv.slot_lt, ?_, ?_⟩
    · rw [hrinv.readIndex_eq]
      simp only [kInvalidIndex, kDescriptorSlotCount]
      omega
    · rw [hrinv.readIndex_eq, hinv.ring.write_eq]
      simp only [kDescriptorSlotCount] at hlt ⊢
      omega
  rw [hrinv.slotIndex_eq, hlocal]
  exact if_pos hcond

/-- In the data plane, a subscriber's step leaves the indices alone or is one
`consume` of the scan. -/
theorem Invariant.consume_of_step {state state' : State} {pool : Pool state.published}
    (hinv : Invariant state pool) {action : Action} (hconsumes : ConsumesMessages action)
    {outcome : Outcome} (hstep : state.step action = some (outcome, state')) :
    state'.shared.descriptorWriteIndex = state.shared.descriptorWriteIndex ∧
      (state'.shared.descriptorReadIndices = state.shared.descriptorReadIndices ∨
        ∃ slot, ∀ loaded slowest,
          Scan.consume ⟨state.shared, loaded, slowest⟩ slot =
            some ⟨state'.shared, loaded, slowest⟩) := by
  cases action with
  | publish | track | reap => cases hconsumes
  | fetchDescriptors slot =>
      simp only [State.step, State.fetchDescriptors] at hstep
      split at hstep
      · cases hstep
      · split at hstep
        · cases hstep
          exact ⟨rfl, .inl rfl⟩
        · cases hstep
  | readPayload slot =>
      simp only [State.step, State.readPayload, Option.bind_eq_bind,
        Option.bind_eq_some_iff] at hstep
      obtain ⟨reader, -, ⟨result, started⟩, -, hstep⟩ := hstep
      cases hstep
      exact ⟨rfl, .inl rfl⟩
  | clearReference slot =>
      simp only [State.step, State.clearReference, Option.bind_eq_bind,
        Option.bind_eq_some_iff] at hstep
      obtain ⟨reader, -, ⟨cleared, shared⟩, hclear, hstep⟩ := hstep
      cases hstep
      unfold Reader.clearOwnReference at hclear
      split at hclear <;> cases hclear
      exact ⟨rfl, .inl rfl⟩
  | storeReadIndex slot =>
      simp only [State.step, State.storeReadIndex, Option.bind_eq_bind,
        Option.bind_eq_some_iff] at hstep
      obtain ⟨reader, hreader, ⟨stored, shared⟩, hstore, hstep⟩ := hstep
      cases hstep
      unfold Reader.storeOwnReadIndex at hstore
      split at hstore <;> cases hstore
      next descriptor sizeClass lastHolder hphase =>
        exact ⟨rfl, .inr ⟨slot, hinv.consume_of_bitCleared hreader hphase⟩⟩
  | returnChunk slot =>
      simp only [State.step, State.returnChunk, Option.bind_eq_bind,
        Option.bind_eq_some_iff] at hstep
      obtain ⟨reader, -, ⟨result, returned, shared⟩, hreturn, hstep⟩ := hstep
      cases hstep
      unfold Reader.returnChunk at hreturn
      split at hreturn
      · dsimp only at hreturn
        split at hreturn <;> cases hreturn <;> exact ⟨rfl, .inl rfl⟩
      · cases hreturn
  | signalSpace slot =>
      simp only [State.step, State.signalSpace, Option.bind_eq_bind,
        Option.bind_eq_some_iff] at hstep
      obtain ⟨reader, -, ⟨signalled, spaceAvailable⟩, -, hstep⟩ := hstep
      cases hstep
      exact ⟨rfl, .inl rfl⟩

/-- The admission test is exact on a snapshot, in both functions that make it, and
sound while subscribers consume between its loads. -/
theorem ringAdmission_exact {shared : SharedData} (hring : RingIndices shared) :
    (findSlowestReadIndex shared = kInvalidIndex ↔
        ∀ slot < kMaxSubscribers, shared.descriptorReadIndices slot = kInvalidIndex) ∧
      (findSlowestReadIndex shared ≠ kInvalidIndex →
        (∃ slot < kMaxSubscribers,
          shared.descriptorReadIndices slot = findSlowestReadIndex shared) ∧
        ∀ slot < kMaxSubscribers, shared.descriptorReadIndices slot ≠ kInvalidIndex →
          unreadCount shared.descriptorWriteIndex (shared.descriptorReadIndices slot) ≤
            unreadCount shared.descriptorWriteIndex (findSlowestReadIndex shared)) ∧
      (DescriptorsBlocked (findSlowestReadIndex shared) shared.descriptorWriteIndex ↔
        shared.Full) ∧
      (∀ (process : PublisherProcess) (payload : List ByteMemory.Byte) (sizeClass : ℕ),
        process.shared = shared →
        findSizeClass (payload.length + kMessageHeaderSizeBytes) = some sizeClass →
        ((tryPublishOne process payload).1 = .ok .blocked ↔
          shared.Full ∨ shared.head sizeClass = shared.tail sizeClass)) ∧
      (∀ (queue : Asynchronous.MessageQueue) (message : Asynchronous.PendingMessage)
          (rest : List Asynchronous.PendingMessage) (sizeClass : ℕ),
        queue.outstanding = message :: rest →
        findSizeClass (kMessageHeaderSizeBytes + message.payload.length) =
          some sizeClass →
        (Asynchronous.canPublishNextMessage shared queue = .ok .blocked ↔
          shared.Full ∨ shared.head sizeClass = shared.tail sizeClass)) ∧
      ∀ scan, (concurrentScan shared).Reachable scan → scan.loaded = kMaxSubscribers →
        (¬ DescriptorsBlocked scan.result scan.shared.descriptorWriteIndex →
          ¬ scan.shared.Full) ∧
        (DescriptorsBlocked scan.result scan.shared.descriptorWriteIndex →
          shared.Full) := by
  have hinvalid : kDescriptorSlotCount ≤ kInvalidIndex := by decide
  refine ⟨?_, ?_, descriptorsBlocked_iff hring, ?_, ?_, ?_⟩
  · rcases findSlowestReadIndex_spec hring with ⟨hnone, hall⟩ | ⟨hlt, ⟨slot, hslot, hread⟩, -⟩
    · exact iff_of_true hnone hall
    · exact iff_of_false (by omega) fun hall => by
        have hslotInvalid := hall slot hslot
        omega
  · intro hvalid
    rcases findSlowestReadIndex_spec hring with ⟨hnone, -⟩ | ⟨-, htracked, hmax⟩
    · exact absurd hnone hvalid
    · exact ⟨htracked, hmax⟩
  · rintro process payload sizeClass rfl hsize
    exact tryPublishOne_blocked_iff hring hsize
  · intro queue message rest sizeClass hnext hsize
    exact canPublishNextMessage_blocked_iff hring hnext hsize
  · intro scan hreach hdone
    obtain ⟨loads, hinv⟩ := scanInvariant_of_reachable hring hreach
    exact ⟨hinv.free hring hdone, hinv.blocked hring hdone⟩

/-- A wrapped ring: the subscriber of slot 1 has fifteen unread descriptors, the one
of slot 0 has ten. -/
def wrappedRing : SharedData where
  descriptorReadIndices slot :=
    if slot = 0 then 3 else if slot = 1 then 14 else kInvalidIndex
  descriptorWriteIndex := 13
  descRing _ := ⟨0, 0⟩
  head := initialHead
  tail := initialTail
  chunkReferenceCounts _ := 0
  data := initialData fun _ => 0
  isInUse _ _ := false

theorem wrappedRing_indices : RingIndices wrappedRing where
  write_lt := by decide
  read_lt := by decide

theorem ringAdmission_wrappedRing :
    findSlowestReadIndex wrappedRing = 14 ∧ wrappedRing.Full :=
  ⟨by decide, (ringAdmission_exact wrappedRing_indices).2.2.1.mp (by decide)⟩

end DriveBus.SharedMemory
