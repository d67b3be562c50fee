import DriveBus.SharedMemory.Invariant

/-!
# Subscriber steps preserve the invariant

One lemma for each access of a `read_data` iteration.  Each says what the step
returns and names the pool it leads to: copying descriptors, copying a payload,
storing the read index and signalling space leave the pool alone, clearing the
reference bit drops a reference or takes the chunk over, and the append puts it
back.
-/

namespace DriveBus.SharedMemory

open DriveBus.ByteMemory

/-! ## Machine integers -/

theorem wordInt_intWord {value : ℕ} (hvalue : value < 2 ^ 31) :
    wordInt (intWord value) = value := by
  have hword : intWord value = value := by
    rw [intWord]
    omega
  rw [hword, wordInt, if_pos hvalue]

theorem intWord_lt (value : ℤ) : intWord value < 2 ^ 32 := by
  rw [intWord]
  omega

/-! ## Copying descriptors -/

theorem unreadSegment_getElem? {shared : SharedData} {log : List Message}
    (hring : RingHistory shared log) {cursor position : ℕ}
    {descriptor : MessageDescriptor} (hle : cursor ≤ log.length)
    (hlength : log.length < cursor + kDescriptorSlotCount)
    (hcopied : (Reader.unreadSegment shared (cursor % kDescriptorSlotCount))[position]? =
      some descriptor) :
    ∃ message, log[cursor + position]? = some message ∧
      message.descriptor = descriptor := by
  simp only [Reader.unreadSegment, hring.write_eq, List.getElem?_map,
    Option.map_eq_some_iff] at hcopied
  obtain ⟨index, hindex, hdescriptor⟩ := hcopied
  have hposition := (List.getElem?_eq_some_iff.mp hindex).1
  rw [List.length_range'] at hposition
  rw [List.getElem?_range' hposition, Option.some.injEq, Nat.one_mul] at hindex
  have hstop : cursor + position < log.length ∧
      (cursor + position) % kDescriptorSlotCount = index := by
    by_cases hwrapped :
        log.length % kDescriptorSlotCount < cursor % kDescriptorSlotCount
    · rw [if_pos hwrapped] at hposition
      simp only [kDescriptorSlotCount] at hlength hwrapped hposition hindex ⊢
      omega
    · rw [if_neg hwrapped] at hposition
      simp only [kDescriptorSlotCount] at hlength hwrapped hposition hindex ⊢
      omega
  obtain ⟨hlt, rfl⟩ := hstop
  have hmessage := List.getElem?_eq_getElem hlt
  refine ⟨_, hmessage, ?_⟩
  rw [← hdescriptor, ← hring.recent hmessage
    (by simp only [kDescriptorSlotCount] at hlength ⊢; omega)]

namespace ReaderInvariant

variable {shared : SharedData} {log : List Message} {slot : ℕ} {reader : Reader}

/-- The first event loads the shared read index, later ones keep the local one. -/
theorem initializeReadIndex (hinv : ReaderInvariant log
      (shared.descriptorReadIndices slot) slot reader) :
    reader.initializeSubscriberReadIndex shared =
      { reader with subscriberReadIndex := reader.cursor % kDescriptorSlotCount } := by
  unfold Reader.initializeSubscriberReadIndex
  rcases hinv.localIndex with hlocal | ⟨hinvalid, -, -⟩
  · have hvalid : reader.subscriberReadIndex ≠ kInvalidIndex := by
      rw [hlocal]
      simp only [kDescriptorSlotCount, kInvalidIndex]
      omega
    rw [if_neg hvalid, ← hlocal]
  · rw [if_pos hinvalid, hinv.slotIndex_eq, hinv.readIndex_eq]

theorem fetchDescriptors (hinv : ReaderInvariant log
      (shared.descriptorReadIndices slot) slot reader)
    (hring : RingHistory shared log) (hphase : reader.phase = .idle) :
    ReaderInvariant log (shared.descriptorReadIndices slot) slot
      (reader.fetchDescriptors shared) := by
  rw [Reader.fetchDescriptors, hinv.initializeReadIndex]
  have hnext := Reader.next_of_idle hphase
  have hle := hinv.next_le
  rw [hnext] at hle
  exact
    { slotIndex_eq := hinv.slotIndex_eq
      slot_lt := hinv.slot_lt
      readIndex_eq := hinv.readIndex_eq
      joinedAt_le := hinv.joinedAt_le
      next_le := hinv.next_le
      length_lt := hinv.length_lt
      localIndex := .inl rfl
      copied := by
        intro position descriptor hcopied
        have hmessage := unreadSegment_getElem? hring hle hinv.length_lt hcopied
        rw [← hnext] at hmessage
        exact hmessage
      messages_eq := hinv.messages_eq
      expected := hinv.expected
      current_isChunk := hinv.current_isChunk
      current_message := hinv.current_message }

/-- A reader that gives up its copied descriptors keeps its position. -/
theorem dropCopies {readIndex : ℕ} (hinv : ReaderInvariant log readIndex slot reader)
    (hlocal : reader.subscriberReadIndex = reader.cursor % kDescriptorSlotCount) :
    ReaderInvariant log readIndex slot { reader with descRing := [] } where
  slotIndex_eq := hinv.slotIndex_eq
  slot_lt := hinv.slot_lt
  readIndex_eq := hinv.readIndex_eq
  joinedAt_le := hinv.joinedAt_le
  next_le := hinv.next_le
  length_lt := hinv.length_lt
  localIndex := .inl hlocal
  copied := by simp
  messages_eq := hinv.messages_eq
  expected := hinv.expected
  current_isChunk := hinv.current_isChunk
  current_message := hinv.current_message

end ReaderInvariant

/-! ## Copying a payload -/

theorem loadWord_of_messageBytes {data : Memory} {offset : ℕ} {seq : ℤ}
    {payload : List Byte}
    (hcontent : load data offset (payload.length + kMessageHeaderSizeBytes) =
      messageBytes seq payload) :
    loadWord data offset = kMagic ∧ loadWord data (offset + wordSize) = intWord seq ∧
      load data (offset + kMessageHeaderSizeBytes) payload.length = payload := by
  have hsplit : load data offset wordSize ++ (load data (offset + wordSize) wordSize ++
      load data (offset + kMessageHeaderSizeBytes) payload.length) =
      littleEndian wordSize kMagic ++ (littleEndian wordSize (intWord seq) ++ payload) := by
    rw [show payload.length + kMessageHeaderSizeBytes =
      wordSize + (wordSize + payload.length) by
        simp only [kMessageHeaderSizeBytes]; omega, load_add, load_add] at hcontent
    rw [messageBytes, List.append_assoc] at hcontent
    convert hcontent using 4
    simp only [kMessageHeaderSizeBytes]
    omega
  obtain ⟨hmagic, hrest⟩ := List.append_inj hsplit (by simp)
  obtain ⟨hseq, hpayload⟩ := List.append_inj hrest (by simp)
  refine ⟨?_, ?_, hpayload⟩
  · rw [loadWord, hmagic, ofLittleEndian_littleEndian]
    rfl
  · rw [loadWord, hseq, ofLittleEndian_littleEndian]
    exact Nat.mod_eq_of_lt (by have hlt := intWord_lt seq; norm_num [wordSize]; omega)

namespace Reader

/-- The reader after the sequence check has adopted a first number. -/
def adoptSeq (reader : Reader) (seq : ℤ) : Reader :=
  if reader.expectedSeq = -1 then { reader with expectedSeq := seq } else reader

/-- Reading an intact message only ever fails its sequence check. -/
theorem readPayload_eq (reader : Reader) {shared : SharedData}
    {descriptor : MessageDescriptor} {sizeClass : ℕ} {seq : ℤ} {payload : List Byte}
    (hclass : findSizeClass descriptor.len = some sizeClass)
    (hchunk : IsChunk sizeClass descriptor.offset)
    (hlen : descriptor.len = payload.length + kMessageHeaderSizeBytes)
    (hcontent : load shared.data descriptor.offset descriptor.len =
      messageBytes seq payload) :
    reader.readPayload shared descriptor =
      if wordInt (intWord seq) ≠ (reader.adoptSeq (wordInt (intWord seq))).expectedSeq then
        (.error .seqMismatch, reader.adoptSeq (wordInt (intWord seq)))
      else
        (.ok payload, { reader.adoptSeq (wordInt (intWord seq)) with
          messages := (reader.adoptSeq (wordInt (intWord seq))).messages ++ [payload]
          expectedSeq := (reader.adoptSeq (wordInt (intWord seq))).expectedSeq + 1
          phase := .payloadRead descriptor sizeClass }) := by
  obtain ⟨hfirst, hlast⟩ := hchunk.range
  rw [hlen] at hcontent
  obtain ⟨hmagic, hseq, hpayload⟩ := loadWord_of_messageBytes hcontent
  rw [readPayload, hclass]
  dsimp only
  rw [if_neg (by omega), if_neg (by omega), hmagic, hseq, if_neg (by simp), hlen,
    Nat.add_sub_cancel, hpayload]
  rfl

/-- Copying a payload keeps the cursor, and the phase unless it succeeds. -/
theorem readPayload_position (reader : Reader) (shared : SharedData)
    (descriptor : MessageDescriptor) :
    (reader.readPayload shared descriptor).2.cursor = reader.cursor ∧
      ((reader.readPayload shared descriptor).2.phase = reader.phase ∨
        ∃ sizeClass, (reader.readPayload shared descriptor).2.phase =
          .payloadRead descriptor sizeClass) := by
  unfold readPayload
  dsimp only
  repeat' split
  all_goals simp

theorem startIteration_eq {reader : Reader} {shared : SharedData}
    {descriptor : MessageDescriptor} {rest : List MessageDescriptor}
    (hphase : reader.phase = .idle) (hcopies : reader.descRing = descriptor :: rest) :
    reader.startIteration shared =
      match readPayload { reader with descRing := rest } shared descriptor with
      | (.ok payload, started) => some (.ok payload, started)
      | (.error fault, stopped) => some (.error fault, { stopped with descRing := [] }) := by
  cases reader
  dsimp only at hphase hcopies
  subst hphase hcopies
  rfl

end Reader

namespace ReaderInvariant

variable {shared : SharedData} {log : List Message} {pool : Pool log}
variable {readIndex slot : ℕ} {reader : Reader}

/-- With copied descriptors the local read index is initialized. -/
theorem localIndex_of_copies (hinv : ReaderInvariant log readIndex slot reader)
    (hcopies : reader.descRing ≠ []) :
    reader.subscriberReadIndex = reader.cursor % kDescriptorSlotCount :=
  hinv.localIndex.resolve_right fun hidle => hcopies hidle.2.2

/-- Moving on to the next copied descriptor delivers its message, unless the
sequence numbers have outgrown an `int`. -/
theorem startIteration (hinv : ReaderInvariant log readIndex slot reader)
    (hrep : Represents shared pool) (hphase : reader.phase = .idle)
    {descriptor : MessageDescriptor} {rest : List MessageDescriptor}
    (hcopies : reader.descRing = descriptor :: rest)
    (hholds : ∀ index, reader.cursor ≤ index → index < log.length →
      pool.holds slot index) :
    ∃ message started, log[reader.cursor]? = some message ∧
      ReaderInvariant log readIndex slot started ∧
      started.heldFrom = reader.cursor ∧ started.returningOffset = none ∧
      (reader.startIteration shared = some (.ok message.payload, started) ∨
        reader.startIteration shared = some (.error .seqMismatch, started) ∧
          2 ^ 31 ≤ log.length) := by
  have hnext := Reader.next_of_idle hphase
  have hlocal := hinv.localIndex_of_copies (by simp [hcopies])
  obtain ⟨message, hmessage, hdescriptor⟩ : ∃ message,
      log[reader.cursor]? = some message ∧ message.descriptor = descriptor := by
    have hfirst : reader.descRing[0]? = some descriptor := by simp [hcopies]
    simpa [hnext] using hinv.copied hfirst
  have hlt := (List.getElem?_eq_some_iff.mp hmessage).1
  obtain ⟨hlen, sizeClass, hclass, hchunk⟩ :=
    pool.wellFormed message (List.mem_of_getElem? hmessage)
  have hcontent := hrep.content hmessage (hholds _ le_rfl hlt)
  rw [hdescriptor] at hclass hchunk hlen hcontent
  have hread := Reader.readPayload_eq { reader with descRing := rest } hclass hchunk hlen hcontent
  -- What the sequence check compares, as long as the counter fits an `int`.
  have hseq : log.length < 2 ^ 31 →
      wordInt (intWord (reader.cursor : ℤ)) = (reader.cursor : ℤ) := fun hbound =>
    wordInt_intWord (by omega)
  have hcopied : ∀ {position other}, rest[position]? = some other →
      ∃ message, log[reader.cursor + 1 + position]? = some message ∧
        message.descriptor = other := by
    intro position other hother
    have hold' : reader.descRing[position + 1]? = some other := by simpa [hcopies] using hother
    have hold := hinv.copied hold'
    rwa [hnext, Nat.add_comm position, ← Nat.add_assoc] at hold
  have hmessages : reader.messages ++ [message.payload] =
      reader.delivered log (reader.cursor + 1) := by
    rw [hinv.messages_eq, hnext, Reader.delivered_succ hmessage hinv.joinedAt_le]
  rw [Reader.startIteration_eq hphase hcopies, hread]
  by_cases hfirst : reader.expectedSeq = -1
  · simp only [Reader.adoptSeq, hfirst, if_true, ne_eq, not_true_eq_false, if_false]
    refine ⟨message, _, hmessage, ?_, ?_, ?_, .inl rfl⟩
    · exact
        { slotIndex_eq := hinv.slotIndex_eq
          slot_lt := hinv.slot_lt
          readIndex_eq := hinv.readIndex_eq
          joinedAt_le := hinv.joinedAt_le
          next_le := hlt
          length_lt := hinv.length_lt
          localIndex := .inl hlocal
          copied := hcopied
          messages_eq := hmessages
          expected := fun hbound => .inr (by rw [hseq hbound]; rfl)
          current_isChunk := by rintro _ _ ⟨⟩; exact hchunk
          current_message := by rintro _ _ ⟨⟩; exact ⟨message, hmessage, hdescriptor⟩ }
    · rfl
    · rfl
  · simp only [Reader.adoptSeq, hfirst, if_false]
    by_cases hmatch : wordInt (intWord (reader.cursor : ℤ)) = reader.expectedSeq
    · simp only [hmatch, ne_eq, not_true_eq_false, if_false]
      refine ⟨message, _, hmessage, ?_, ?_, ?_, .inl rfl⟩
      · exact
          { slotIndex_eq := hinv.slotIndex_eq
            slot_lt := hinv.slot_lt
            readIndex_eq := hinv.readIndex_eq
            joinedAt_le := hinv.joinedAt_le
            next_le := hlt
            length_lt := hinv.length_lt
            localIndex := .inl hlocal
            copied := hcopied
            messages_eq := hmessages
            expected := fun hbound => .inr (by rw [← hmatch, hseq hbound]; rfl)
            current_isChunk := by rintro _ _ ⟨⟩; exact hchunk
            current_message := by rintro _ _ ⟨⟩; exact ⟨message, hmessage, hdescriptor⟩ }
      · rfl
      · rfl
    · simp only [ne_eq, hmatch, not_false_eq_true, if_true]
      refine ⟨message, _, hmessage, hinv.dropCopies hlocal, ?_, ?_, .inr ⟨rfl, ?_⟩⟩
      · simp [Reader.heldFrom, hphase]
      · simp [Reader.returningOffset, hphase]
      · by_contra hsmall
        rcases hinv.expected (by omega) with ⟨hnone, -⟩ | hexpected
        · exact hfirst hnone
        · exact hmatch (by rw [hseq (by omega), hexpected, hnext])

/-! ## Finishing an iteration -/

/-- A phase change that keeps the position and names no new chunk. -/
theorem setPhase (hinv : ReaderInvariant log readIndex slot reader)
    (hphase : reader.phase ≠ .idle) {phase : Phase}
    (hnext : ({ reader with phase } : Reader).next = reader.next)
    (hcurrent : ∀ chunk, ({ reader with phase } : Reader).currentChunk = some chunk →
      reader.currentChunk = some chunk)
    (hnotRead : ∀ descriptor sizeClass, phase ≠ .payloadRead descriptor sizeClass) :
    ReaderInvariant log readIndex slot { reader with phase } where
  slotIndex_eq := hinv.slotIndex_eq
  slot_lt := hinv.slot_lt
  readIndex_eq := hinv.readIndex_eq
  joinedAt_le := hinv.joinedAt_le
  next_le := by rw [hnext]; exact hinv.next_le
  length_lt := hinv.length_lt
  localIndex := .inl (hinv.localIndex.resolve_right fun hidle => hphase hidle.2.1)
  copied := by rw [hnext]; exact hinv.copied
  messages_eq := by rw [hnext]; exact hinv.messages_eq
  expected := by rw [hnext]; exact hinv.expected
  current_isChunk := fun hchunk => hinv.current_isChunk (hcurrent _ hchunk)
  current_message := fun hread => absurd hread (hnotRead _ _)

theorem incrementReadIndex_mod (cursor : ℕ) :
    Reader.incrementReadIndex (cursor % kDescriptorSlotCount) =
      (cursor + 1) % kDescriptorSlotCount := by
  rw [Reader.incrementReadIndex]
  split <;> simp only [kDescriptorSlotCount] at * <;> omega

/-- Advancing both read indices past the message just consumed. -/
theorem storeOwnReadIndex (hinv : ReaderInvariant log readIndex slot reader)
    {descriptor : MessageDescriptor} {sizeClass : ℕ} {lastHolder : Bool}
    (hphase : reader.phase = .bitCleared descriptor sizeClass lastHolder) :
    ReaderInvariant log ((reader.cursor + 1) % kDescriptorSlotCount) slot
      { reader with
        subscriberReadIndex := Reader.incrementReadIndex reader.subscriberReadIndex
        cursor := reader.cursor + 1
        phase := if lastHolder then .indexStored descriptor sizeClass else .idle } := by
  have hlocal := hinv.localIndex.resolve_right fun hidle => by
    rw [hphase] at hidle
    cases hidle.2.1
  have hnext : reader.next = reader.cursor + 1 := by simp [Reader.next, hphase]
  have hnext' : ({ reader with
      subscriberReadIndex := Reader.incrementReadIndex reader.subscriberReadIndex
      cursor := reader.cursor + 1
      phase := if lastHolder then .indexStored descriptor sizeClass else .idle } :
      Reader).next = reader.next := by
    rw [hnext]
    cases lastHolder <;> rfl
  have hchunk : reader.currentChunk = some (sizeClass, descriptor.offset) := by
    simp [Reader.currentChunk, hphase]
  exact
    { slotIndex_eq := hinv.slotIndex_eq
      slot_lt := hinv.slot_lt
      readIndex_eq := rfl
      joinedAt_le := hinv.joinedAt_le.trans (Nat.le_succ _)
      next_le := by rw [hnext']; exact hinv.next_le
      length_lt := hinv.length_lt.trans (by dsimp only; omega)
      localIndex := .inl (by rw [hlocal]; exact incrementReadIndex_mod _)
      copied := by rw [hnext']; exact hinv.copied
      messages_eq := by rw [hnext']; exact hinv.messages_eq
      expected := by rw [hnext']; exact hinv.expected
      current_isChunk := by
        intro otherClass offset hother
        cases lastHolder
        · cases hother
        · cases hother
          exact hinv.current_isChunk hchunk
      current_message := by
        intro other otherClass hread
        cases lastHolder <;> cases hread }

end ReaderInvariant

/-! ## The steps of the system -/

namespace Invariant

variable {state state' : State} {pool : Pool state.published} {slot : ℕ}
variable {outcome : Outcome}

/-- A step that moves one reader and touches neither the mapping nor the pool. -/
theorem moveReader (hinv : Invariant state pool) {reader reader' : Reader}
    {spaceAvailable : ℕ} (hreader : state.readers slot = some reader)
    (hreader' : ReaderInvariant state.published (state.shared.descriptorReadIndices slot)
      slot reader')
    (hheld : reader'.heldFrom = reader.heldFrom)
    (hreturning : reader'.returningOffset = reader.returningOffset) :
    Invariant ({ state with spaceAvailable }.setReader slot reader') pool := by
  refine hinv.updateReader hreader hinv.represents rfl rfl (fun _ _ => rfl) hreader'
    (fun _ => Iff.rfl) ?_ (fun _ => Iff.rfl) ?_
  · intro index
    simp [hinv.holds_iff, hreader, hheld]
  · intro offset
    simp [hinv.returning_iff, hreader, hreturning]

theorem holds_own_iff (hinv : Invariant state pool) {reader : Reader} {index : ℕ}
    (hreader : state.readers slot = some reader) :
    pool.holds slot index ↔ reader.heldFrom ≤ index ∧ index < state.published.length := by
  simp [hinv.holds_iff, hreader]

theorem returning_own_iff (hinv : Invariant state pool) {reader : Reader} {offset : ℕ}
    (hreader : state.readers slot = some reader) :
    pool.owner offset = .returning slot ↔ reader.returningOffset = some offset := by
  simp [hinv.returning_iff, hreader]

theorem fetchDescriptors (hinv : Invariant state pool)
    (hstep : state.fetchDescriptors slot = some (outcome, state')) :
    Consumed state pool slot outcome state' := by
  unfold State.fetchDescriptors at hstep
  split at hstep
  next => cases hstep
  next reader hreader =>
    split at hstep
    next hidle =>
      simp only [Option.some.injEq, Prod.mk.injEq] at hstep
      obtain ⟨rfl, rfl⟩ := hstep
      have hphase : (reader.fetchDescriptors state.shared).phase = reader.phase := by
        simp only [Reader.fetchDescriptors, Reader.initializeSubscriberReadIndex]
        split <;> rfl
      have hcursor : (reader.fetchDescriptors state.shared).cursor = reader.cursor := by
        simp only [Reader.fetchDescriptors, Reader.initializeSubscriberReadIndex]
        split <;> rfl
      refine ⟨pool, hinv.moveReader hreader
        ((hinv.reader hreader).fetchDescriptors hinv.ring hidle.1) ?_ ?_, trivial, rfl, fun _ => .inl rfl⟩
      · simp [Reader.heldFrom, hphase, hcursor]
      · simp [Reader.returningOffset, hphase]
    next => cases hstep

theorem readPayload (hinv : Invariant state pool)
    (hstep : state.readPayload slot = some (outcome, state')) :
    Consumed state pool slot outcome state' := by
  simp only [State.readPayload, Option.bind_eq_bind, Option.bind_eq_some_iff] at hstep
  obtain ⟨reader, hreader, ⟨result, started⟩, hstart, hstep⟩ := hstep
  simp only [Option.some.injEq, Prod.mk.injEq] at hstep
  obtain ⟨rfl, rfl⟩ := hstep
  obtain ⟨hphase, descriptor, rest, hcopies⟩ : reader.phase = .idle ∧
      ∃ descriptor rest, reader.descRing = descriptor :: rest := by
    unfold Reader.startIteration at hstart
    split at hstart
    next descriptor rest hphase hcopies => exact ⟨hphase, descriptor, rest, hcopies⟩
    next => cases hstart
  have hheld : reader.heldFrom = reader.cursor := by simp [Reader.heldFrom, hphase]
  obtain ⟨message, started', -, hreader', hheld', hreturning, hresult⟩ :=
    (hinv.reader hreader).startIteration hinv.represents hphase hcopies
      fun index hle hlt => (hinv.holds_own_iff hreader).mpr ⟨hheld ▸ hle, hlt⟩
  have hsame : started = started' ∧
      (Outcome.readPayload result).Sound state.published.length := by
    rcases hresult with hok | ⟨herror, hlarge⟩
    · rw [hok, Option.some.injEq, Prod.mk.injEq] at hstart
      obtain ⟨rfl, rfl⟩ := hstart
      exact ⟨rfl, trivial⟩
    · rw [herror, Option.some.injEq, Prod.mk.injEq] at hstart
      obtain ⟨rfl, rfl⟩ := hstart
      exact ⟨rfl, rfl, hlarge⟩
  obtain ⟨rfl, hsound⟩ := hsame
  refine ⟨pool, hinv.moveReader hreader hreader' (hheld'.trans hheld.symm) ?_, hsound, rfl,
    fun _ => .inl rfl⟩
  rw [hreturning]
  simp [Reader.returningOffset, hphase]

theorem clearReference (hinv : Invariant state pool)
    (hstep : state.clearReference slot = some (outcome, state')) :
    Consumed state pool slot outcome state' := by
  simp only [State.clearReference, Option.bind_eq_bind, Option.bind_eq_some_iff] at hstep
  obtain ⟨reader, hreader, ⟨cleared, shared⟩, hclear, hstep⟩ := hstep
  simp only [Option.some.injEq, Prod.mk.injEq] at hstep
  obtain ⟨rfl, rfl⟩ := hstep
  have hrinv := hinv.reader hreader
  obtain rfl := hrinv.slotIndex_eq
  unfold Reader.clearOwnReference at hclear
  split at hclear
  next descriptor sizeClass hphase =>
    simp only [Option.some.injEq, Prod.mk.injEq] at hclear
    obtain ⟨rfl, rfl⟩ := hclear
    obtain ⟨message, hmessage, rfl⟩ := hrinv.current_message hphase
    have hchunk : IsChunk sizeClass message.descriptor.offset :=
      hrinv.current_isChunk (by simp [Reader.currentChunk, hphase])
    have hlt := (List.getElem?_eq_some_iff.mp hmessage).1
    have hheld : reader.heldFrom = reader.cursor := by simp [Reader.heldFrom, hphase]
    have hholds : pool.holds reader.slotIndex reader.cursor :=
      (hinv.holds_own_iff hreader).mpr ⟨hheld.le, hlt⟩
    have howner := pool.owner_of_holds hmessage hholds
    have hothers : ∀ {other index}, other ≠ reader.slotIndex →
        (pool.holdsWithout reader.slotIndex message.descriptor.offset other index ↔
          pool.holds other index) := fun hne => by simp [Pool.holdsWithout, hne]
    have hown : ∀ {index}, pool.holdsWithout reader.slotIndex message.descriptor.offset reader.slotIndex index ↔
        reader.cursor + 1 ≤ index ∧ index < state.published.length := by
      intro index
      rw [Pool.holdsWithout, hinv.holds_own_iff hreader, howner, hheld,
        Owner.message.injEq]
      omega
    have hslot : reader.slotIndex < kMaxSubscribers := hrinv.slot_lt
    have hphase' : ∀ lastHolder : Bool, ReaderInvariant state.published
        (state.shared.descriptorReadIndices reader.slotIndex) reader.slotIndex
        { reader with phase := .bitCleared message.descriptor sizeClass lastHolder } :=
      fun lastHolder => hrinv.setPhase (by simp [hphase]) (by simp [Reader.next, hphase])
        (by simp [Reader.currentChunk, hphase]) (by simp)
    by_cases hbit : state.shared.chunkReferenceCounts
        (chunkIndex sizeClass message.descriptor.offset) = subscriberReferenceBit reader.slotIndex
    · obtain ⟨last, hlastOwner, -, honly⟩ :=
        (hinv.represents.mask_eq_bit_iff hchunk hslot).mp hbit
      have hlast : ∃ index, pool.owner message.descriptor.offset = .message index ∧
          ∀ other, pool.holds other index → other = reader.slotIndex := ⟨last, hlastOwner, honly⟩
      refine ⟨pool.takeLast reader.slotIndex message.descriptor.offset reader.slotIndex hlast,
        hinv.updateReader hreader (hinv.represents.takeLast reader.slotIndex hchunk hlast) rfl rfl
          (fun _ _ => rfl) (hphase' _) hothers hown ?_ ?_, trivial, rfl, ?_⟩
      · intro offset other hne
        by_cases heq : offset = message.descriptor.offset
        · subst heq
          simp [howner, Ne.symm hne]
        · simp [heq]
      · intro offset
        by_cases heq : offset = message.descriptor.offset
        · subst heq
          simp [Reader.returningOffset, hbit]
        · simp [Reader.returningOffset, hbit, heq, Ne.symm heq,
            hinv.returning_own_iff hreader, hphase]
      · intro offset
        by_cases heq : offset = message.descriptor.offset
        · exact .inr ⟨⟨_, heq ▸ howner⟩, by simp [heq]⟩
        · exact .inl (by simp [heq])
    · have hshared : ∀ index, pool.owner message.descriptor.offset = .message index →
          ∃ other, other ≠ reader.slotIndex ∧ pool.holds other index := by
        intro index hindex
        rw [howner, Owner.message.injEq] at hindex
        subst hindex
        by_contra hnone
        push Not at hnone
        refine hbit ((hinv.represents.mask_eq_bit_iff hchunk hslot).mpr
          ⟨_, howner, hholds, fun other hother => ?_⟩)
        by_contra hne
        exact hnone other hne hother
      refine ⟨pool.dropReference reader.slotIndex message.descriptor.offset hshared,
        hinv.updateReader hreader (hinv.represents.dropReference hchunk hshared) rfl rfl
          (fun _ _ => rfl) (hphase' _) hothers hown (fun _ => Iff.rfl) ?_, trivial, rfl,
        fun _ => .inl rfl⟩
      intro offset
      rw [Pool.dropReference_owner, hinv.returning_own_iff hreader]
      simp [Reader.returningOffset, hphase, hbit]
  next => cases hclear

theorem storeReadIndex (hinv : Invariant state pool)
    (hstep : state.storeReadIndex slot = some (outcome, state')) :
    Consumed state pool slot outcome state' := by
  simp only [State.storeReadIndex, Option.bind_eq_bind, Option.bind_eq_some_iff] at hstep
  obtain ⟨reader, hreader, ⟨stored, shared⟩, hstore, hstep⟩ := hstep
  simp only [Option.some.injEq, Prod.mk.injEq] at hstep
  obtain ⟨rfl, rfl⟩ := hstep
  have hrinv := hinv.reader hreader
  unfold Reader.storeOwnReadIndex at hstore
  split at hstore
  next descriptor sizeClass lastHolder hphase =>
    simp only [Option.some.injEq, Prod.mk.injEq] at hstore
    obtain ⟨rfl, rfl⟩ := hstore
    have hlocal := hrinv.localIndex.resolve_right fun hidle => by
      rw [hphase] at hidle
      cases hidle.2.1
    have hstored := hrinv.storeOwnReadIndex hphase
    obtain rfl := hrinv.slotIndex_eq
    refine ⟨pool, hinv.updateReader hreader (hinv.represents.storeReadIndex _ _) rfl rfl ?_
      ?_ (fun _ => Iff.rfl) ?_ (fun _ => Iff.rfl) ?_, trivial, rfl, fun _ => .inl rfl⟩
    · intro other hne
      simp [SharedData.storeReadIndex, hne]
    · have hread : (state.shared.storeReadIndex reader.slotIndex
          (Reader.incrementReadIndex reader.subscriberReadIndex)).descriptorReadIndices
            reader.slotIndex = (reader.cursor + 1) % kDescriptorSlotCount := by
        rw [hlocal, ReaderInvariant.incrementReadIndex_mod]
        exact Function.update_self ..
      rw [hread]
      exact hstored
    · intro index
      rw [hinv.holds_own_iff hreader]
      cases lastHolder <;> simp [Reader.heldFrom, hphase]
    · intro offset
      rw [hinv.returning_own_iff hreader]
      cases lastHolder <;> simp [Reader.returningOffset, hphase]
  next => cases hstore

theorem returnChunk (hinv : Invariant state pool)
    (hstep : state.returnChunk slot = some (outcome, state')) :
    Preserved state pool outcome state' := by
  simp only [State.returnChunk, Option.bind_eq_bind, Option.bind_eq_some_iff] at hstep
  obtain ⟨reader, hreader, ⟨result, returned, shared⟩, hreturn, hstep⟩ := hstep
  simp only [Option.some.injEq, Prod.mk.injEq] at hstep
  obtain ⟨rfl, rfl⟩ := hstep
  have hrinv := hinv.reader hreader
  unfold Reader.returnChunk at hreturn
  split at hreturn
  next descriptor sizeClass hphase =>
    have hchunk : IsChunk sizeClass descriptor.offset :=
      hrinv.current_isChunk (by simp [Reader.currentChunk, hphase])
    have howner : pool.owner descriptor.offset = .returning slot :=
      (hinv.returning_own_iff hreader).mpr (by simp [Reader.returningOffset, hphase])
    have hused := hinv.represents.inUse hchunk (by simp [howner]) (by simp [howner])
    rw [if_neg (by rw [hused]; simp)] at hreturn
    simp only [Option.some.injEq, Prod.mk.injEq] at hreturn
    obtain ⟨rfl, rfl, rfl⟩ := hreturn
    refine ⟨pool.append sizeClass descriptor.offset slot hchunk howner,
      hinv.updateReader hreader (hinv.represents.appendChunk hchunk howner) rfl rfl
        (fun _ _ => rfl) (hrinv.setPhase (by simp [hphase]) (by simp [Reader.next, hphase])
          (by simp [Reader.currentChunk]) (by simp))
        (fun _ => Iff.rfl) ?_ ?_ ?_, trivial, ?_⟩
    · intro index
      rw [Pool.append_holds, hinv.holds_own_iff hreader]
      simp [Reader.heldFrom, hphase]
    · intro offset other hne
      by_cases heq : offset = descriptor.offset
      · subst heq
        simp [howner, Ne.symm hne]
      · simp [heq]
    · intro offset
      by_cases heq : offset = descriptor.offset
      · subst heq
        simp [Reader.returningOffset]
      · simp [Reader.returningOffset, heq, hinv.returning_own_iff hreader, hphase,
          Ne.symm heq]
    · intro hnone offset
      by_cases heq : offset = descriptor.offset
      · simp [heq]
      · simpa [heq] using hnone offset
  next => cases hreturn

theorem signalSpace (hinv : Invariant state pool)
    (hstep : state.signalSpace slot = some (outcome, state')) :
    Consumed state pool slot outcome state' := by
  simp only [State.signalSpace, Option.bind_eq_bind, Option.bind_eq_some_iff] at hstep
  obtain ⟨reader, hreader, ⟨signalled, spaceAvailable⟩, hsignal, hstep⟩ := hstep
  simp only [Option.some.injEq, Prod.mk.injEq] at hstep
  obtain ⟨rfl, rfl⟩ := hstep
  unfold Reader.signalSpaceAvailable at hsignal
  split at hsignal
  next hphase =>
    simp only [Option.some.injEq, Prod.mk.injEq] at hsignal
    obtain ⟨rfl, rfl⟩ := hsignal
    refine ⟨pool, hinv.moveReader hreader ((hinv.reader hreader).setPhase
      (by simp [hphase]) (by simp [Reader.next, hphase]) (by simp [Reader.currentChunk])
      (by simp)) ?_ ?_, trivial, rfl, fun _ => .inl rfl⟩
    · simp [Reader.heldFrom, hphase]
    · simp [Reader.returningOffset, hphase]
  next => cases hsignal

end Invariant

end DriveBus.SharedMemory
