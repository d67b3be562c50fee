import DriveBus.SharedMemory.Delivery
import DriveBus.Synchronous.ReadData

/-!
# Handing acknowledged messages over

An iteration of `read_data` acknowledges its message or leaves it as it was, and it can fail
either way.  A run of the handler is accounted iteration by iteration, and the mapping shows
the account as long as the other parties leave the reader's own read index and references
alone.
-/

namespace DriveBus.Synchronous.Subscriber

open DriveBus.ByteMemory DriveBus.SharedMemory DriveBus.Transition

/-! ## What an iteration can do -/

/-- A message passes the checks exactly if its payload is copied. -/
theorem Iteration.passes_iff (iteration : Iteration) : iteration.Passes ↔
    ∃ payload copied, iteration.reader.readPayload iteration.atRead iteration.descriptor =
      (.ok payload, copied) := by
  constructor
  · rintro ⟨⟨sizeClass, hsize, hfirst, hlast⟩, hheader, hmagic, hseq⟩
    rw [Reader.readPayload, hsize]
    dsimp only
    rw [if_neg (by omega), if_neg (by omega), if_neg (not_not.mpr hmagic), if_neg ?_]
    · exact ⟨_, _, rfl⟩
    · rw [not_not, hseq, expectedSeq]
      split <;> rfl
  · rintro ⟨payload, copied, hread⟩
    cases hsize : findSizeClass iteration.descriptor.len with
    | none =>
        rw [Reader.readPayload, hsize] at hread
        cases hread
    | some sizeClass =>
        rw [Reader.readPayload, hsize] at hread
        dsimp only at hread
        by_cases hrange : iteration.descriptor.offset < kFirstOffset sizeClass ∨
            kLastOffset sizeClass < iteration.descriptor.offset
        · rw [if_pos hrange] at hread
          cases hread
        by_cases hheader : iteration.descriptor.len < kMessageHeaderSizeBytes
        · rw [if_neg hrange, if_pos hheader] at hread
          cases hread
        by_cases hmagic : loadWord iteration.atRead.data iteration.descriptor.offset = kMagic
        swap
        · rw [if_neg hrange, if_neg hheader, if_pos hmagic] at hread
          cases hread
        refine ⟨⟨sizeClass, hsize, by omega, by omega⟩, by omega, hmagic, ?_⟩
        by_contra hseq
        rw [if_neg hrange, if_neg hheader, if_neg (not_not.mpr hmagic), if_pos ?_] at hread
        · cases hread
        · rw [expectedSeq] at hseq
          split <;> simp_all

/-- Whatever the checks say, the reader stays where it is. -/
theorem readPayload_keeps (reader : Reader) (shared : SharedData)
    (descriptor : MessageDescriptor) :
    (reader.readPayload shared descriptor).2.slotIndex = reader.slotIndex ∧
      (reader.readPayload shared descriptor).2.subscriberReadIndex =
        reader.subscriberReadIndex := by
  unfold Reader.readPayload
  dsimp only
  repeat' split
  all_goals exact ⟨rfl, rfl⟩

theorem readPayload_phase {reader copied : Reader} {shared : SharedData}
    {descriptor : MessageDescriptor} {payload : List Byte}
    (hread : reader.readPayload shared descriptor = (.ok payload, copied)) :
    copied.phase =
      .payloadRead descriptor ((findSizeClass descriptor.len).getD kClassCount) := by
  unfold Reader.readPayload at hread
  dsimp only at hread
  repeat' split at hread
  all_goals cases hread
  all_goals simp_all

theorem incrementReadIndex_ne (readIndex : ℕ) :
    Reader.incrementReadIndex readIndex ≠ readIndex := by
  unfold Reader.incrementReadIndex kDescriptorSlotCount
  split <;> omega

namespace Iteration

variable {iteration : Iteration} {payload : List Byte} {copied : Reader}

/-- A message that does not get into the batch is left as it was. -/
theorem leaves_of_not_accepted (hrefused : ¬ iteration.Accepted) :
    iteration.LeavesUnacknowledged ∧
      iteration.run.reader.slotIndex = iteration.reader.slotIndex ∧
      ∀ payload, iteration.run.completion ≠ .ok payload := by
  obtain ⟨hslot, hindex⟩ := readPayload_keeps iteration.reader iteration.atRead
    iteration.descriptor
  unfold LeavesUnacknowledged run
  cases hread : iteration.reader.readPayload iteration.atRead iteration.descriptor with
  | mk result refused =>
  rw [hread] at hslot hindex
  cases result with
  | error => exact ⟨⟨rfl, hindex⟩, hslot, by simp⟩
  | ok payload =>
      have hstarved : iteration.turn.allocates = false := by
        by_contra hallocates
        exact hrefused ⟨iteration.passes_iff.mpr ⟨payload, refused, hread⟩,
          by simpa using hallocates⟩
      simp [hstarved]

theorem run_reader (hread : iteration.reader.readPayload iteration.atRead
      iteration.descriptor = (.ok payload, copied))
    (hallocates : iteration.turn.allocates = true) :
    iteration.run.reader = { copied with
      subscriberReadIndex := iteration.readIndex
      cursor := copied.cursor + 1
      phase := .idle } := by
  unfold run
  rw [hread]
  dsimp only
  rw [if_neg (by simp [hallocates])]
  repeat' split
  all_goals rfl

theorem run_shared (hread : iteration.reader.readPayload iteration.atRead
      iteration.descriptor = (.ok payload, copied))
    (hallocates : iteration.turn.allocates = true) :
    iteration.run.shared =
      if iteration.LastHolder then
        if iteration.atReturn.isInUse iteration.sizeClass
            (localChunkIndex iteration.sizeClass iteration.descriptor.offset) = false then
          iteration.atReturn
        else iteration.returned
      else iteration.stored := by
  unfold run
  rw [hread]
  dsimp only
  rw [if_neg (by simp [hallocates])]
  repeat' split
  all_goals rfl

/-- Once the message is in the batch, only the return of its chunk can fail. -/
theorem run_completion (hread : iteration.reader.readPayload iteration.atRead
      iteration.descriptor = (.ok payload, copied))
    (hallocates : iteration.turn.allocates = true) :
    (iteration.ReturnsIfLast ∧ iteration.run.completion = .ok payload) ∨
      (¬ iteration.ReturnsIfLast ∧
        iteration.run.completion = .error .contiguousMessageConsumptionFailed) := by
  unfold run ReturnsIfLast Returns
  rw [hread]
  dsimp only
  rw [if_neg (by simp [hallocates])]
  by_cases hlast : iteration.LastHolder
  · rw [if_pos hlast]
    split
    next hunmarked => exact .inr ⟨fun hreturns => by simp_all, rfl⟩
    next hmarked =>
      split
      next hrefused => exact .inr ⟨fun hreturns => by simp_all, rfl⟩
      next htaken => exact .inl ⟨fun _ => by simp_all, rfl⟩
  · rw [if_neg hlast]
    exact .inl ⟨fun hheld => absurd hheld hlast, rfl⟩

theorem acknowledges (hread : iteration.reader.readPayload iteration.atRead
      iteration.descriptor = (.ok payload, copied))
    (hallocates : iteration.turn.allocates = true) : iteration.Acknowledges payload := by
  obtain ⟨hslot, hindex⟩ := readPayload_keeps iteration.reader iteration.atRead
    iteration.descriptor
  have hphase := readPayload_phase hread
  rw [hread] at hslot hindex
  dsimp only at hslot hindex
  have hclear : copied.clearOwnReference iteration.atClear = some
      ({ copied with
          phase := .bitCleared iteration.descriptor iteration.sizeClass iteration.LastHolder },
        iteration.atClear.clearReference iteration.chunk iteration.referenceBit) := by
    simp only [Reader.clearOwnReference, hphase, hslot]
    rfl
  have hstore : ({ copied with
      phase := .bitCleared iteration.descriptor iteration.sizeClass iteration.LastHolder } :
        Reader).storeOwnReadIndex iteration.atStore = some
      ({ copied with
          subscriberReadIndex := iteration.readIndex
          cursor := copied.cursor + 1
          phase :=
            if decide iteration.LastHolder then
              .indexStored iteration.descriptor iteration.sizeClass
            else .idle },
        iteration.stored) := by
    simp only [Reader.storeOwnReadIndex, hslot, hindex, stored, readIndex]
  refine ⟨copied, _, _, hread, hclear, hstore, ?_, ?_⟩
  · rw [run_reader hread hallocates]
  · rw [run_shared hread hallocates]
    by_cases hlast : iteration.LastHolder
    · simp only [hlast, decide_true, if_true, Reader.returnChunk]
      split
      · exact ⟨_, _, rfl⟩
      · exact ⟨_, _, rfl⟩
    · simp only [if_neg hlast]

/-- An accepted message is acknowledged, and it is handed on if its chunk can be
returned. -/
theorem acknowledges_of_accepted (haccepted : iteration.Accepted) :
    ∃ payload, iteration.Acknowledges payload ∧
      ((iteration.ReturnsIfLast ∧ iteration.run.completion = .ok payload) ∨
        (¬ iteration.ReturnsIfLast ∧
          iteration.run.completion = .error .contiguousMessageConsumptionFailed)) := by
  obtain ⟨hpasses, hallocates⟩ := haccepted
  obtain ⟨payload, copied, hread⟩ := iteration.passes_iff.mp hpasses
  exact ⟨payload, acknowledges hread hallocates, run_completion hread hallocates⟩

/-- What an acknowledgement leaves of the reader. -/
theorem Acknowledges.reader (hacknowledges : iteration.Acknowledges payload) :
    iteration.run.reader.slotIndex = iteration.reader.slotIndex ∧
      iteration.run.reader.subscriberReadIndex = iteration.readIndex := by
  obtain ⟨copied, cleared, advanced, hread, hclear, hstore, hreader, -⟩ := hacknowledges
  have hkeeps := readPayload_keeps iteration.reader iteration.atRead iteration.descriptor
  rw [hread] at hkeeps
  have hphase := readPayload_phase hread
  simp only [Reader.clearOwnReference, hphase, Option.some.injEq, Prod.mk.injEq] at hclear
  rw [← hclear.1] at hstore
  simp only [Reader.storeOwnReadIndex, Option.some.injEq, Prod.mk.injEq] at hstore
  rw [hreader, ← hstore.1]
  exact ⟨hkeeps.1, by rw [readIndex, ← hkeeps.2]⟩

theorem Acknowledges.advances (hacknowledges : iteration.Acknowledges payload) :
    iteration.Advances := by
  rw [Advances, hacknowledges.reader.2]
  exact incrementReadIndex_ne _

/-- Exactly the accepted messages are acknowledged. -/
theorem advances_iff : iteration.Advances ↔ iteration.Accepted := by
  constructor
  · intro hadvances
    by_contra hrefused
    exact hadvances (leaves_of_not_accepted hrefused).1.2
  · intro haccepted
    obtain ⟨payload, hacknowledges, -⟩ := acknowledges_of_accepted haccepted
    exact hacknowledges.advances

end Iteration

/-! ## The account of a batch -/

/-- The iteration hands its message on. -/
def Iteration.Completes (iteration : Iteration) : Prop :=
  iteration.Accepted ∧ iteration.ReturnsIfLast

namespace BatchRun

/-- Nothing has failed. -/
def Completed (run : BatchRun) : Prop :=
  run.starved = false ∧ ∀ iteration ∈ run.iterations, iteration.Completes

/-- The last thing that the run did has failed: a vector's allocation, or an iteration. -/
def FailsLast (run : BatchRun) : Prop :=
  (run.starved = true ∧ ∀ iteration ∈ run.iterations, iteration.Completes) ∨
    (run.starved = false ∧ ∃ before last, run.iterations = before ++ [last] ∧
      (∀ iteration ∈ before, iteration.Completes) ∧ ¬ last.Completes)

/-- A run that has collected `messages` before goes on without a failure, returns them
with one message for each iteration, or fails. -/
inductive Accounted (messages : MessageBatch) (run : BatchRun) : Prop
  | running (hrunning : run.completion = none) (hcompleted : run.Completed)
  | collected (payloads : MessageBatch)
      (hcollected : run.completion = some (.ok (messages ++ payloads)))
      (hacknowledges : List.Forall₂ Iteration.Acknowledges run.iterations payloads)
      (hcompleted : run.Completed)
  | failed (failure : Completion MessageBatch) (hfailed : run.completion = some failure)
      (hfailure : ∀ collected, failure ≠ .ok collected) (hlast : run.FailsLast)

variable {messages : MessageBatch}

theorem accounted_ended (messages : MessageBatch) (reader : Reader) (shared : SharedData) :
    (ended (.ok messages) reader shared).Accounted messages :=
  .collected [] (by rw [List.append_nil]; rfl) .nil ⟨rfl, by simp [ended]⟩

/-- An allocation fails behind iterations that have handed their messages on. -/
theorem accounted_starving {run : BatchRun}
    (hcompletes : ∀ iteration ∈ run.iterations, iteration.Completes) :
    run.starving.Accounted messages :=
  .failed .threw rfl (by simp) (.inl ⟨rfl, hcompletes⟩)

/-- Going on after `iterations` that have handed `payloads` on. -/
theorem Accounted.behind {run : BatchRun} {iterations : List Iteration}
    {payloads : MessageBatch} (hrun : run.Accounted (messages ++ payloads))
    (hacknowledges : List.Forall₂ Iteration.Acknowledges iterations payloads)
    (hcompletes : ∀ iteration ∈ iterations, iteration.Completes) :
    (run.behind iterations).Accounted messages := by
  have hall : (∀ iteration ∈ run.iterations, iteration.Completes) →
      ∀ iteration ∈ (run.behind iterations).iterations, iteration.Completes :=
    fun hrest iteration hmem =>
      (List.mem_append.mp hmem).elim (hcompletes _) (hrest _)
  cases hrun with
  | running hrunning hcompleted => exact .running hrunning ⟨hcompleted.1, hall hcompleted.2⟩
  | collected others hcollected hothers hcompleted =>
      refine .collected (payloads ++ others) ?_ (List.rel_append hacknowledges hothers)
        ⟨hcompleted.1, hall hcompleted.2⟩
      rw [← List.append_assoc]
      exact hcollected
  | failed failure hfailed hfailure hlast =>
      refine .failed failure hfailed hfailure ?_
      rcases hlast with ⟨hstarved, hrest⟩ | ⟨hfed, before, last, hiterations, hbefore, hlast⟩
      · exact .inl ⟨hstarved, hall hrest⟩
      · refine .inr ⟨hfed, iterations ++ before, last, ?_, ?_, hlast⟩
        · rw [BatchRun.behind, hiterations, List.append_assoc]
        · exact fun iteration hmem =>
            (List.mem_append.mp hmem).elim (hcompletes _) (hbefore _)

/-- Joining a batch with the messages that have been collected before. -/
theorem Accounted.join {run : BatchRun} (hrun : run.Accounted []) (joins : Bool)
    (messages : MessageBatch) : (run.join joins messages).Accounted messages := by
  cases hrun with
  | running hrunning hcompleted =>
      rw [BatchRun.join, hrunning]
      exact .running hrunning hcompleted
  | collected payloads hcollected hacknowledges hcompleted =>
      rw [BatchRun.join, hcollected]
      dsimp only
      split
      next => exact accounted_starving hcompleted.2
      next => exact .collected payloads rfl hacknowledges hcompleted
  | failed failure hfailed hfailure hlast =>
      have hjoin : run.join joins messages = run := by
        rw [BatchRun.join, hfailed]
        cases failure with
        | ok collected => exact absurd rfl (hfailure collected)
        | error | threw => rfl
      rw [hjoin]
      exact .failed failure hfailed hfailure hlast

/-- What a run with a batch has done before the function goes on. -/
theorem Accounted.of_collected {run : BatchRun} {collected : MessageBatch}
    (hrun : run.Accounted messages) (hcollected : run.completion = some (.ok collected)) :
    ∃ payloads, collected = messages ++ payloads ∧
      List.Forall₂ Iteration.Acknowledges run.iterations payloads ∧
      ∀ iteration ∈ run.iterations, iteration.Completes := by
  cases hrun with
  | running hrunning =>
      rw [hrunning] at hcollected
      cases hcollected
  | collected payloads hpayloads hacknowledges hcompleted =>
      rw [hpayloads, Option.some.injEq, Completion.ok.injEq] at hcollected
      exact ⟨payloads, hcollected.symm, hacknowledges, hcompleted.2⟩
  | failed failure hfailed hfailure =>
      rw [hfailed, Option.some.injEq] at hcollected
      exact absurd hcollected (hfailure collected)

/-- A caller may report a failure under an error of its own. -/
theorem Accounted.relabel {run : BatchRun} (hrun : run.Accounted messages)
    (hends : run.completion ≠ none)
    (hfails : ∀ collected, run.completion ≠ some (.ok collected)) (error : RunError) :
    ({ run with completion := some (.error error) } : BatchRun).Accounted messages := by
  cases hrun with
  | running hrunning => exact absurd hrunning hends
  | collected _ hcollected => exact absurd hcollected (hfails _)
  | failed _ _ _ hlast => exact .failed (.error error) rfl (by simp) hlast

end BatchRun

theorem accounted_readData (turns : ℕ → IterationTurn) (descRing : List MessageDescriptor)
    (messages : MessageBatch) (reader : Reader) (shared : SharedData) :
    (readData turns descRing messages reader shared).Accounted messages := by
  induction descRing generalizing messages reader shared with
  | nil => exact BatchRun.accounted_ended messages reader shared
  | cons descriptor rest ih =>
      rw [readData]
      set iteration : Iteration := { turn := turns rest.length, descriptor, reader, shared }
      -- An iteration that does not hand its message on is the last one.
      have hends : ∀ {failure : Completion MessageBatch} {last : IterationEnd},
          (∀ collected, failure ≠ .ok collected) → ¬ iteration.Completes →
          (BatchRun.behind [iteration] (.ended failure last.reader last.shared)).Accounted
            messages := fun hfailure hfails =>
        .failed _ rfl hfailure (.inr ⟨rfl, [], iteration, rfl, by simp, hfails⟩)
      by_cases haccepted : iteration.Accepted
      swap
      · have hrefused := (Iteration.leaves_of_not_accepted haccepted).2.2
        have hfails : ¬ iteration.Completes := fun hcompletes => haccepted hcompletes.1
        cases hlast : iteration.run.completion with
        | ok payload => exact absurd hlast (hrefused payload)
        | error => exact hends (by simp) hfails
        | threw => exact hends (by simp) hfails
      obtain ⟨payload, hacknowledges, ⟨hreturns, hok⟩ | ⟨hkept, herror⟩⟩ :=
        Iteration.acknowledges_of_accepted haccepted
      · rw [hok]
        exact (ih _ _ _).behind (.cons hacknowledges .nil)
          (by simpa using ⟨haccepted, hreturns⟩)
      · rw [herror]
        exact hends (by simp) fun hcompletes => hkept hcompletes.2

theorem accounted_consumeContiguousMessages (segments : List Segment)
    (messages : MessageBatch) (reader : Reader) (shared : SharedData) :
    (consumeContiguousMessages segments messages reader shared).Accounted messages := by
  induction segments generalizing messages reader shared with
  | nil => exact .running rfl ⟨rfl, by simp [consumeContiguousMessages]⟩
  | cons segment segments ih =>
      rw [consumeContiguousMessages]
      dsimp only
      split
      next => exact BatchRun.accounted_ended _ _ _
      next =>
        split
        next => exact BatchRun.accounted_starving (by simp [BatchRun.ended])
        next =>
          have hread := fun descRing => (accounted_readData segment.turns descRing [] reader
            (segment.beforeCopy (segment.beforeLoad shared))).join segment.joins messages
          split
          next collected hcollected =>
            obtain ⟨payloads, rfl, hacknowledges, hcompletes⟩ :=
              (hread _).of_collected hcollected
            exact (ih _ _ _).behind hacknowledges hcompletes
          next => exact hread _

/-- `read_data` always ends. -/
theorem readData_ends (turns : ℕ → IterationTurn) (descRing : List MessageDescriptor)
    (messages : MessageBatch) (reader : Reader) (shared : SharedData) :
    (readData turns descRing messages reader shared).completion ≠ none := by
  induction descRing generalizing messages reader shared with
  | nil => simp [readData, BatchRun.ended]
  | cons descriptor rest ih =>
      rw [readData]
      dsimp only [BatchRun.behind]
      split
      next => exact ih _ _ _
      next => simp [BatchRun.ended]
      next => simp [BatchRun.ended]

/-- The two errors before the first iteration acknowledge nothing; otherwise the event is
accounted. -/
theorem accounted_handleDataAvailableEvent (script : EventScript)
    (attachment : Option Reader) (shared : SharedData) :
    (∃ error reader, handleDataAvailableEvent script attachment shared =
        .ended (.error error) reader shared) ∨
      (handleDataAvailableEvent script attachment shared).Accounted [] := by
  cases attachment with
  | none => exact .inl ⟨_, _, rfl⟩
  | some reader =>
      rw [handleDataAvailableEvent]
      split
      next => exact .inl ⟨_, _, rfl⟩
      next =>
        right
        dsimp only
        split
        next =>
          split
          next => exact BatchRun.accounted_starving (by simp [BatchRun.ended])
          next =>
            have hwrapped := accounted_readData script.wrappedTurns
            split
            next messages hread =>
              obtain ⟨payloads, hpayloads, hacknowledges, hcompletes⟩ :=
                (hwrapped _ _ _ _).of_collected hread
              refine BatchRun.Accounted.behind ?_ hacknowledges hcompletes
              rw [← hpayloads]
              exact (accounted_consumeContiguousMessages _ _ _ _).join _ _
            next => exact hwrapped _ _ _ _
            next hfails _ =>
              exact (hwrapped _ _ _ _).relabel (readData_ends _ _ _ _ _) hfails _
        next => exact (accounted_consumeContiguousMessages _ _ _ _).join _ _

/-! ## What the mapping shows -/

/-- The reference of the slot to the chunk stands. -/
def HoldsReference (slotIndex : ℕ) (shared : SharedData) (chunk : ℕ) : Prop :=
  (shared.chunkReferenceCounts chunk).getLsbD slotIndex = true

/-- A change by the other parties, which may add references of the slot but neither clear
one nor store the slot's read index. -/
structure KeepsOwn (slotIndex : ℕ) (change : SharedData → SharedData) : Prop where
  readIndex : ∀ shared, (change shared).descriptorReadIndices slotIndex =
    shared.descriptorReadIndices slotIndex
  references : ∀ shared chunk, HoldsReference slotIndex shared chunk →
    HoldsReference slotIndex (change shared) chunk

structure IterationTurn.KeepsOwn (slotIndex : ℕ) (turn : IterationTurn) : Prop where
  beforeRead : Subscriber.KeepsOwn slotIndex turn.beforeRead
  beforeClear : Subscriber.KeepsOwn slotIndex turn.beforeClear
  beforeStore : Subscriber.KeepsOwn slotIndex turn.beforeStore
  beforeReturn : Subscriber.KeepsOwn slotIndex turn.beforeReturn

structure Segment.KeepsOwn (slotIndex : ℕ) (segment : Segment) : Prop where
  beforeLoad : Subscriber.KeepsOwn slotIndex segment.beforeLoad
  beforeCopy : Subscriber.KeepsOwn slotIndex segment.beforeCopy
  turns : ∀ behind, (segment.turns behind).KeepsOwn slotIndex

structure EventScript.KeepsOwn (slotIndex : ℕ) (script : EventScript) : Prop where
  beforeInitialize : Subscriber.KeepsOwn slotIndex script.beforeInitialize
  beforeLoad : Subscriber.KeepsOwn slotIndex script.beforeLoad
  beforeCopy : Subscriber.KeepsOwn slotIndex script.beforeCopy
  wrappedTurns : ∀ behind, (script.wrappedTurns behind).KeepsOwn slotIndex
  segments : ∀ segment ∈ script.segments, segment.KeepsOwn slotIndex

/-- The mapping shows that the owner of the slot has acknowledged as many messages as the
run has: `shared` is the mapping at its start. -/
structure BatchRun.Shows (reader : Reader) (shared : SharedData) (run : BatchRun) :
    Prop where
  slotIndex : run.reader.slotIndex = reader.slotIndex
  ownReadIndex : run.reader.subscriberReadIndex =
    Reader.incrementReadIndex^[run.acknowledged.length] reader.subscriberReadIndex
  readIndex : shared.descriptorReadIndices reader.slotIndex = reader.subscriberReadIndex →
    run.shared.descriptorReadIndices reader.slotIndex = run.reader.subscriberReadIndex
  references : ∀ chunk, HoldsReference reader.slotIndex shared chunk →
    (∀ iteration ∈ run.acknowledged, iteration.chunk ≠ chunk) →
    HoldsReference reader.slotIndex run.shared chunk

namespace BatchRun

variable {reader : Reader} {shared : SharedData} {run : BatchRun}

theorem shows_ended (completion : Completion MessageBatch) (reader : Reader)
    (shared : SharedData) : (ended completion reader shared).Shows reader shared where
  slotIndex := rfl
  ownReadIndex := rfl
  readIndex hstored := hstored
  references _ hholds _ := hholds

/-- The run begins when the other parties have made a change. -/
theorem Shows.of_change {change : SharedData → SharedData}
    (hshows : run.Shows reader (change shared)) (hkeeps : KeepsOwn reader.slotIndex change) :
    run.Shows reader shared where
  slotIndex := hshows.slotIndex
  ownReadIndex := hshows.ownReadIndex
  readIndex hstored := hshows.readIndex ((hkeeps.readIndex shared).trans hstored)
  references chunk hholds := hshows.references chunk (hkeeps.references shared chunk hholds)

/-- How the run ends makes no difference. -/
theorem Shows.completing (hshows : run.Shows reader shared)
    (completion : Option (Completion MessageBatch)) (starved : Bool) :
    ({ run with completion, starved } : BatchRun).Shows reader shared :=
  ⟨hshows.slotIndex, hshows.ownReadIndex, hshows.readIndex, hshows.references⟩

theorem Shows.join (hshows : run.Shows reader shared) (joins : Bool)
    (messages : MessageBatch) : (run.join joins messages).Shows reader shared := by
  unfold BatchRun.join
  split
  next =>
    split
    next => exact hshows.completing (some .threw) true
    next => exact hshows.completing _ run.starved
  next => exact hshows

/-- Going on where `first` has ended. -/
theorem Shows.behind {first : BatchRun} (hfirst : first.Shows reader shared)
    (hrun : run.Shows first.reader first.shared) :
    (run.behind first.iterations).Shows reader shared := by
  have hacknowledged : (run.behind first.iterations).acknowledged =
      first.acknowledged ++ run.acknowledged := List.filter_append ..
  obtain ⟨hslot, hindex, hstored, hreferences⟩ := hrun
  rw [hfirst.slotIndex] at hslot hstored hreferences
  constructor
  · exact hslot
  · rw [hacknowledged, List.length_append, Nat.add_comm, Function.iterate_add_apply,
      ← hfirst.ownReadIndex]
    exact hindex
  · exact fun hstart => hstored (hfirst.readIndex hstart)
  · intro chunk hholds hothers
    rw [hacknowledged] at hothers
    exact hreferences chunk
      (hfirst.references chunk hholds fun iteration hmem =>
        hothers iteration (List.mem_append_left _ hmem))
      fun iteration hmem => hothers iteration (List.mem_append_right _ hmem)

end BatchRun

/-- A return of a chunk changes neither read indices nor reference counts. -/
theorem returnChunk_keeps {reader returned : Reader} {shared after : SharedData}
    {outcome : Except ReadFault Unit}
    (hreturn : reader.returnChunk shared = some (outcome, returned, after)) :
    after.descriptorReadIndices = shared.descriptorReadIndices ∧
      after.chunkReferenceCounts = shared.chunkReferenceCounts := by
  unfold Reader.returnChunk at hreturn
  dsimp only at hreturn
  repeat' split at hreturn
  all_goals cases hreturn
  all_goals exact ⟨rfl, rfl⟩

namespace Iteration

variable {iteration : Iteration}

/-- What the mapping keeps up to the store of the read index. -/
theorem stored_keeps (hkeeps : iteration.turn.KeepsOwn iteration.reader.slotIndex) :
    iteration.stored.descriptorReadIndices iteration.reader.slotIndex =
        iteration.readIndex ∧
      ∀ chunk, HoldsReference iteration.reader.slotIndex iteration.shared chunk →
        iteration.chunk ≠ chunk →
        HoldsReference iteration.reader.slotIndex iteration.stored chunk := by
  refine ⟨Function.update_self .., fun chunk hholds hother => ?_⟩
  have hread := hkeeps.beforeRead.references _ chunk hholds
  have hclear := hkeeps.beforeClear.references _ chunk hread
  refine hkeeps.beforeStore.references _ chunk ?_
  have hcleared : (iteration.atClear.clearReference iteration.chunk
      iteration.referenceBit).chunkReferenceCounts chunk =
        iteration.atClear.chunkReferenceCounts chunk := Function.update_of_ne hother.symm ..
  rw [HoldsReference, hcleared]
  exact hclear

/-- Behind an acknowledgement the mapping shows the next read index, and of the own
references only the one to the message's chunk is gone. -/
theorem Acknowledges.shared_keeps {payload : List Byte}
    (hacknowledges : iteration.Acknowledges payload)
    (hkeeps : iteration.turn.KeepsOwn iteration.reader.slotIndex) :
    iteration.run.shared.descriptorReadIndices iteration.reader.slotIndex =
        iteration.readIndex ∧
      ∀ chunk, HoldsReference iteration.reader.slotIndex iteration.shared chunk →
        iteration.chunk ≠ chunk →
        HoldsReference iteration.reader.slotIndex iteration.run.shared chunk := by
  obtain ⟨hindex, hreferences⟩ := stored_keeps hkeeps
  obtain ⟨_, _, _, -, -, -, -, hshared⟩ := hacknowledges
  split at hshared
  next =>
    obtain ⟨_, _, hreturn⟩ := hshared
    obtain ⟨hindices, hcounts⟩ := returnChunk_keeps hreturn
    rw [hindices]
    refine ⟨(hkeeps.beforeReturn.readIndex _).trans hindex, fun chunk hholds hother => ?_⟩
    rw [HoldsReference, hcounts]
    exact hkeeps.beforeReturn.references _ chunk (hreferences chunk hholds hother)
  next =>
    rw [hshared]
    exact ⟨hindex, hreferences⟩

/-- What the mapping shows of one iteration. -/
theorem shows (hkeeps : iteration.turn.KeepsOwn iteration.reader.slotIndex)
    (completion : Completion MessageBatch) :
    (BatchRun.behind [iteration]
      (.ended completion iteration.run.reader iteration.run.shared)).Shows iteration.reader
        iteration.shared := by
  by_cases haccepted : iteration.Accepted
  · have hacknowledged : (BatchRun.behind [iteration] (.ended completion iteration.run.reader
        iteration.run.shared)).acknowledged = [iteration] :=
      List.filter_cons_of_pos (by simpa using advances_iff.mpr haccepted)
    obtain ⟨payload, hacknowledges, -⟩ := acknowledges_of_accepted haccepted
    obtain ⟨hslot, hown⟩ := hacknowledges.reader
    obtain ⟨hindex, hreferences⟩ := hacknowledges.shared_keeps hkeeps
    refine ⟨hslot, ?_, fun _ => hindex.trans hown.symm, fun chunk hholds hothers => ?_⟩
    · rw [hacknowledged]
      exact hown
    · exact hreferences chunk hholds (hothers iteration (by simp [hacknowledged]))
  · obtain ⟨⟨hshared, hown⟩, hslot, -⟩ := leaves_of_not_accepted haccepted
    have hacknowledged : (BatchRun.behind [iteration] (.ended completion iteration.run.reader
        iteration.run.shared)).acknowledged = [] :=
      List.filter_cons_of_neg (by simpa using mt advances_iff.mp haccepted)
    refine ⟨hslot, ?_, fun hstored => ?_, fun chunk hholds _ => ?_⟩
    · rw [hacknowledged]
      exact hown
    · calc iteration.run.shared.descriptorReadIndices iteration.reader.slotIndex
          = iteration.shared.descriptorReadIndices iteration.reader.slotIndex := by
            rw [hshared]
            exact hkeeps.beforeRead.readIndex _
        _ = iteration.run.reader.subscriberReadIndex := hstored.trans hown.symm
    · have hread := hkeeps.beforeRead.references _ chunk hholds
      change HoldsReference _ iteration.run.shared chunk
      rw [hshared]
      exact hread

end Iteration

theorem shows_readData {turns : ℕ → IterationTurn} {reader : Reader}
    (hkeeps : ∀ behind, (turns behind).KeepsOwn reader.slotIndex)
    (descRing : List MessageDescriptor) (messages : MessageBatch) (shared : SharedData) :
    (readData turns descRing messages reader shared).Shows reader shared := by
  induction descRing generalizing messages reader shared with
  | nil => exact BatchRun.shows_ended _ reader shared
  | cons descriptor rest ih =>
      rw [readData]
      set iteration : Iteration := { turn := turns rest.length, descriptor, reader, shared }
      have hfirst := iteration.shows (hkeeps rest.length)
      split
      next payload _ =>
        refine (hfirst .threw).behind (ih (fun behind => ?_) _ _)
        rw [(hfirst .threw).slotIndex]
        exact hkeeps behind
      next => exact hfirst _
      next => exact hfirst _

theorem shows_consumeContiguousMessages {segments : List Segment} {reader : Reader}
    (hkeeps : ∀ segment ∈ segments, segment.KeepsOwn reader.slotIndex)
    (messages : MessageBatch) (shared : SharedData) :
    (consumeContiguousMessages segments messages reader shared).Shows reader shared := by
  induction segments generalizing messages reader shared with
  | nil => exact (BatchRun.shows_ended .threw reader shared).completing none false
  | cons segment segments ih =>
      have hsegment := hkeeps segment List.mem_cons_self
      rw [consumeContiguousMessages]
      refine BatchRun.Shows.of_change ?_ hsegment.beforeLoad
      dsimp only
      split
      next => exact BatchRun.shows_ended _ _ _
      next =>
        split
        next => exact (BatchRun.shows_ended _ _ _).completing _ _
        next =>
          refine BatchRun.Shows.of_change ?_ hsegment.beforeCopy
          have hread := fun descRing => (shows_readData hsegment.turns descRing []
            (segment.beforeCopy (segment.beforeLoad shared))).join segment.joins messages
          split
          next =>
            refine (hread _).behind (ih (fun other hmem => ?_) _ _)
            rw [(hread _).slotIndex]
            exact hkeeps other (List.mem_cons_of_mem _ hmem)
          next => exact hread _

/-- The reader knows its read index, or has not yet loaded it. -/
def InStep (reader : Reader) (shared : SharedData) : Prop :=
  reader.subscriberReadIndex = kInvalidIndex ∨
    reader.subscriberReadIndex = shared.descriptorReadIndices reader.slotIndex

theorem initializeSubscriberReadIndex_inStep {reader : Reader} {shared : SharedData}
    (hinStep : InStep reader shared) :
    shared.descriptorReadIndices reader.slotIndex =
      (reader.initializeSubscriberReadIndex shared).subscriberReadIndex := by
  unfold Reader.initializeSubscriberReadIndex
  split
  next => rfl
  next hvalid => exact (hinStep.resolve_left hvalid).symm

theorem initializeSubscriberReadIndex_slotIndex (reader : Reader) (shared : SharedData) :
    (reader.initializeSubscriberReadIndex shared).slotIndex = reader.slotIndex := by
  unfold Reader.initializeSubscriberReadIndex
  split <;> rfl

/-- What the mapping shows of an event whose eventfd drains. -/
theorem shows_handleDataAvailableEvent {script : EventScript} {reader : Reader}
    (hdrains : script.drains = true) (hkeeps : script.KeepsOwn reader.slotIndex)
    (shared : SharedData) :
    (handleDataAvailableEvent script (some reader) shared).Shows
      (reader.initializeSubscriberReadIndex (script.beforeInitialize shared))
      (script.beforeInitialize shared) := by
  rw [handleDataAvailableEvent]
  dsimp only
  rw [if_neg (by simp [hdrains])]
  rw [← initializeSubscriberReadIndex_slotIndex reader (script.beforeInitialize shared)]
    at hkeeps
  refine BatchRun.Shows.of_change ?_ hkeeps.beforeLoad
  split
  next =>
    split
    next => exact (BatchRun.shows_ended _ _ _).completing _ _
    next =>
      refine BatchRun.Shows.of_change ?_ hkeeps.beforeCopy
      have hwrapped := fun descRing => shows_readData hkeeps.wrappedTurns descRing []
        (script.beforeCopy (script.beforeLoad (script.beforeInitialize shared)))
      split
      next =>
        refine (hwrapped _).behind ((shows_consumeContiguousMessages ?_ _ _).join _ _)
        rw [(hwrapped _).slotIndex]
        exact hkeeps.segments
      next => exact hwrapped _
      next => exact (hwrapped _).completing _ _
  next => exact (shows_consumeContiguousMessages hkeeps.segments _ _).join _ _

/-- Behind a call that has ended, the mapping has the read index of the reader's slot moved
on by the messages that are handed over, and every reference but those of these
messages. -/
structure LeavesRest (reader : Reader) (shared : SharedData) (call : BatchRun)
    (handed : MessageBatch) : Prop where
  readIndex : InStep reader shared →
    call.shared.descriptorReadIndices reader.slotIndex =
      Reader.incrementReadIndex^[handed.length]
        (shared.descriptorReadIndices reader.slotIndex)
  references : ∀ chunk, HoldsReference reader.slotIndex shared chunk →
    (∀ iteration ∈ call.acknowledged, iteration.chunk ≠ chunk) →
    HoldsReference reader.slotIndex call.shared chunk

/-- A call of the handler that has ended hands over, in order, what it has acknowledged, and
nothing else; every other message is still unacknowledged in shared memory. -/
structure HandsOverAcknowledged (script : EventScript) (attachment : Option Reader)
    (shared : SharedData) (call : BatchRun) : Prop where
  handsOver : ∀ completion, call.completion = some completion →
    List.Forall₂ Iteration.Acknowledges call.acknowledged (handedOver completion)
  leavesOthers : ∀ iteration ∈ call.iterations, ¬ iteration.Advances →
    iteration.LeavesUnacknowledged
  leavesRest : ∀ completion, call.completion = some completion →
    ∀ reader ∈ attachment, script.KeepsOwn reader.slotIndex →
      LeavesRest reader shared call (handedOver completion)

/-- Only the first message of the call can be refused, every chunk that is to be returned
can be, and no vector of descriptors or batches lacks memory behind a message. -/
structure FailsFirst (call : BatchRun) : Prop where
  accepted : ∀ iteration ∈ call.iterations.tail, iteration.Accepted
  returns : ∀ iteration ∈ call.iterations, iteration.Accepted → iteration.ReturnsIfLast
  fed : call.starved = true → call.iterations = []

theorem leavesRest_handleDataAvailableEvent {script : EventScript} {reader : Reader}
    {shared : SharedData} (hkeeps : script.KeepsOwn reader.slotIndex)
    {handed : MessageBatch} (hhanded : handed.length =
      (handleDataAvailableEvent script (some reader) shared).acknowledged.length) :
    LeavesRest reader shared (handleDataAvailableEvent script (some reader) shared)
      handed := by
  cases hdrains : script.drains with
  | false =>
      have hcall : handleDataAvailableEvent script (some reader) shared =
          .ended (.error .dataAvailableEventReadFailed) reader shared := by
        rw [handleDataAvailableEvent]
        simp [hdrains]
      rw [hcall] at hhanded ⊢
      rw [List.eq_nil_of_length_eq_zero hhanded]
      exact ⟨fun _ => rfl, fun _ hholds _ => hholds⟩
  | true =>
      have hshows := shows_handleDataAvailableEvent hdrains hkeeps shared
      have hslot := initializeSubscriberReadIndex_slotIndex reader
        (script.beforeInitialize shared)
      have hfound := hkeeps.beforeInitialize.readIndex shared
      constructor
      · intro hinStep
        have hinitialized : InStep reader (script.beforeInitialize shared) :=
          hinStep.imp_right fun hstored => hstored.trans hfound.symm
        have hindex := initializeSubscriberReadIndex_inStep hinitialized
        have hstored := hshows.readIndex (hslot ▸ hindex)
        rw [hslot] at hstored
        rw [hstored, hshows.ownReadIndex, ← hindex, hfound, hhanded]
      · intro chunk hholds hothers
        have hreferences := hshows.references chunk
        rw [hslot] at hreferences
        exact hreferences (hkeeps.beforeInitialize.references _ chunk hholds) hothers

theorem handedOver_ok (messages : MessageBatch) :
    handedOver (.ok messages) = messages := by
  cases messages <;> rfl

theorem handedOver_failure {failure : Completion MessageBatch}
    (hfailure : ∀ collected, failure ≠ .ok collected) : handedOver failure = [] := by
  cases failure with
  | ok collected => exact absurd rfl (hfailure collected)
  | error | threw => rfl

namespace BatchRun

variable {run : BatchRun}

theorem acknowledged_eq_iterations
    (haccepted : ∀ iteration ∈ run.iterations, iteration.Accepted) :
    run.acknowledged = run.iterations :=
  List.filter_eq_self.mpr fun iteration hmem =>
    by simpa using Iteration.advances_iff.mpr (haccepted iteration hmem)

theorem acknowledged_eq_nil_iff :
    run.acknowledged = [] ↔ ∀ iteration ∈ run.iterations, ¬ iteration.Accepted := by
  simp [BatchRun.acknowledged, List.filter_eq_nil_iff, Iteration.advances_iff]

theorem Completed.failsFirst (hcompleted : run.Completed) : FailsFirst run where
  accepted iteration hmem := (hcompleted.2 iteration (List.mem_of_mem_tail hmem)).1
  returns iteration hmem _ := (hcompleted.2 iteration hmem).2
  fed hstarved := by simp [hcompleted.1] at hstarved

/-- A failed run has acknowledged nothing exactly if nothing came before the failure. -/
theorem FailsLast.acknowledged_eq_nil_iff (hlast : run.FailsLast) :
    run.acknowledged = [] ↔ FailsFirst run := by
  rw [BatchRun.acknowledged_eq_nil_iff]
  rcases hlast with ⟨hstarved, hcompletes⟩ | ⟨hfed, before, last, hiterations, hbefore, hlast⟩
  · constructor
    · intro hnone
      have hempty : run.iterations = [] := List.eq_nil_iff_forall_not_mem.mpr
        fun iteration hmem => hnone iteration hmem (hcompletes iteration hmem).1
      exact ⟨by simp [hempty], by simp [hempty], fun _ => hempty⟩
    · intro hfails
      simp [hfails.fed hstarved]
  · constructor
    · intro hnone
      have hempty : before = [] := List.eq_nil_iff_forall_not_mem.mpr
        fun iteration hmem => hnone iteration (by simp [hiterations, hmem])
          (hbefore iteration hmem).1
      subst hempty
      refine ⟨by simp [hiterations], fun iteration hmem haccepted => ?_, by simp [hfed]⟩
      exact absurd haccepted (hnone iteration hmem)
    · intro hfails
      have hrefused : ¬ last.Accepted := fun haccepted =>
        hlast ⟨haccepted, hfails.returns last (by simp [hiterations]) haccepted⟩
      have hempty : before = [] := by
        by_contra hne
        refine hrefused (hfails.accepted last ?_)
        rw [hiterations, List.tail_append_of_ne_nil hne]
        simp
      simpa [hiterations, hempty] using hrefused

/-- An accounted run hands over what it has acknowledged exactly if it fails first. -/
theorem Accounted.handsOver_iff (haccounted : run.Accounted []) :
    (∀ completion, run.completion = some completion →
        List.Forall₂ Iteration.Acknowledges run.acknowledged (handedOver completion)) ↔
      FailsFirst run := by
  cases haccounted with
  | running hrunning hcompleted =>
      exact iff_of_true (by simp [hrunning]) hcompleted.failsFirst
  | collected payloads hcollected hacknowledges hcompleted =>
      refine iff_of_true (fun completion hcompletion => ?_) hcompleted.failsFirst
      rw [hcollected, Option.some.injEq] at hcompletion
      rw [← hcompletion, List.nil_append, handedOver_ok,
        acknowledged_eq_iterations fun iteration hmem => (hcompleted.2 iteration hmem).1]
      exact hacknowledges
  | failed failure hfailed hfailure hlast =>
      rw [← hlast.acknowledged_eq_nil_iff]
      simp [hfailed, handedOver_failure hfailure]

end BatchRun

/-- A synchronous subscriber hands over what one event has acknowledged exactly if no
message or allocation of the event fails behind an acknowledged message. -/
theorem handsOverAcknowledged_iff (script : EventScript) (attachment : Option Reader)
    (shared : SharedData) :
    HandsOverAcknowledged script attachment shared
        (handleDataAvailableEvent script attachment shared) ↔
      FailsFirst (handleDataAvailableEvent script attachment shared) := by
  have hhands : (∀ completion,
      (handleDataAvailableEvent script attachment shared).completion = some completion →
        List.Forall₂ Iteration.Acknowledges
          (handleDataAvailableEvent script attachment shared).acknowledged
          (handedOver completion)) ↔
      FailsFirst (handleDataAvailableEvent script attachment shared) := by
    rcases accounted_handleDataAvailableEvent script attachment shared with
      ⟨error, reader, hended⟩ | haccounted
    · rw [hended]
      refine iff_of_true (fun completion hcompletion => ?_)
        ⟨by simp [BatchRun.ended], by simp [BatchRun.ended], fun _ => rfl⟩
      cases hcompletion
      exact .nil
    · exact haccounted.handsOver_iff
  rw [← hhands]
  refine ⟨fun hall => hall.handsOver, fun hacknowledged => ⟨hacknowledged, ?_, ?_⟩⟩
  · intro iteration _ hstays
    exact (Iteration.leaves_of_not_accepted (mt Iteration.advances_iff.mpr hstays)).1
  · rintro completion hcompletion reader hreader hkeeps
    cases hreader
    exact leavesRest_handleDataAvailableEvent hkeeps
      (hacknowledged completion hcompletion).length_eq.symm

/-- Nobody else touches the mapping, the allocations succeed, and the eventfds work. -/
def quietTurn : IterationTurn where
  beforeRead := id
  beforeClear := id
  beforeStore := id
  beforeReturn := id
  allocates := true
  signals := true

def quietSegment : Segment where
  beforeLoad := id
  beforeCopy := id
  copies := true
  turns := fun _ => quietTurn
  joins := true

def quietScript : EventScript where
  drains := true
  beforeInitialize := id
  beforeLoad := id
  copies := true
  beforeCopy := id
  wrappedTurns := fun _ => quietTurn
  segments := [quietSegment, quietSegment]
  joins := true

/-- The memory runs out at the last message of the first segment. -/
def starvedScript : EventScript :=
  { quietScript with
    segments := [{ quietSegment with
      turns := fun behind => { quietTurn with allocates := decide (behind ≠ 0) } }] }

/-- How many messages a call hands over, and how many it has acknowledged. -/
def messageCounts (call : BatchRun) : Option ℕ × ℕ :=
  (call.completion.map fun completion => (handedOver completion).length,
    call.acknowledged.length)

theorem not_handsOverAcknowledged {script : EventScript} {attachment : Option Reader}
    {shared : SharedData} {call : BatchRun} (hlost : messageCounts call = (some 0, 1)) :
    ¬ HandsOverAcknowledged script attachment shared call := by
  obtain ⟨hhanded, hacknowledged⟩ := Prod.mk.injEq .. |>.mp hlost
  obtain ⟨completion, hcompletion, hnone⟩ := Option.map_eq_some_iff.mp hhanded
  intro hhands
  have hlength := (hhands.handsOver completion hcompletion).length_eq
  omega

/-- Two messages are published.  If the magic number of the second one is overwritten, or if
its copy gets no memory, the first message is acknowledged, and nobody gets it. -/
theorem acknowledgedMessage_lost : ∃ state,
    (dataPlane zeroedMapping).run (State.created zeroedMapping)
        [.track 7 0, .publish [1, 2, 3], .publish [4, 5]] = some state ∧
      let overwritten := { state.shared with data := storeWord state.shared.data 16 0 }
      let reader := Reader.attached 0 0
      ¬ HandsOverAcknowledged quietScript (some reader) overwritten
          (handleDataAvailableEvent quietScript (some reader) overwritten) ∧
        ¬ HandsOverAcknowledged starvedScript (some reader) state.shared
          (handleDataAvailableEvent starvedScript (some reader) state.shared) := by
  have hview : ((dataPlane zeroedMapping).run (State.created zeroedMapping)
      [.track 7 0, .publish [1, 2, 3], .publish [4, 5]]).map (fun state =>
        (messageCounts (handleDataAvailableEvent quietScript (some (Reader.attached 0 0))
          { state.shared with data := storeWord state.shared.data 16 0 }),
        messageCounts (handleDataAvailableEvent starvedScript (some (Reader.attached 0 0))
          state.shared))) = some ((some 0, 1), (some 0, 1)) := by
    decide +kernel
  obtain ⟨state, hrun, hstate⟩ := Option.map_eq_some_iff.mp hview
  obtain ⟨hrefused, hstarved⟩ := Prod.mk.injEq .. |>.mp hstate
  exact ⟨state, hrun, not_handsOverAcknowledged hrefused, not_handsOverAcknowledged hstarved⟩

end DriveBus.Synchronous.Subscriber
