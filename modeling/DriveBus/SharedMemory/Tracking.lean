import DriveBus.SharedMemory.DataPlane

/-!
# The subscriber tables of a publisher

The three tables that `track_subscriber` fills and `reap_dead_subscribers`
empties agree with the read indices in the mapping, and every event descriptor
they name is open.  From this the mask of a publish is exactly the set of
tracked slots, and none of its signals fails.
-/

namespace DriveBus.SharedMemory

open DriveBus.UnorderedMap

def SharedData.Tracked (shared : SharedData) (slot : ℕ) : Prop :=
  slot < kMaxSubscribers ∧ shared.descriptorReadIndices slot ≠ kInvalidIndex

structure TrackingTables (process : PublisherProcess) : Prop where
  nodup : process.publisher.dataAvailableEventFds.Nodup
  mem_iff : ∀ {eventFd}, eventFd ∈ process.publisher.dataAvailableEventFds ↔
    ∃ slot, process.publisher.subscriberSlotIndexByDataAvailableEventFd.lookup
      eventFd = some slot
  slot_of_lookup : ∀ {eventFd slot},
    process.publisher.subscriberSlotIndexByDataAvailableEventFd.lookup eventFd =
      some slot →
    process.shared.Tracked slot ∧
      process.publisher.dataAvailableEventFdBySubscriberSlotIndex slot = eventFd ∧
      (process.eventFds eventFd).isSome
  lookup_of_tracked : ∀ {slot}, process.shared.Tracked slot →
    process.publisher.subscriberSlotIndexByDataAvailableEventFd.lookup
      (process.publisher.dataAvailableEventFdBySubscriberSlotIndex slot) = some slot

/-! ## Signals -/

theorem signalEventfd_of_open {eventFds : EventFdTable} {eventFd : ℕ}
    (hopen : (eventFds eventFd).isSome) :
    ∃ eventFds', signalEventfd eventFds eventFd = (true, eventFds') ∧
      ∀ other, (eventFds' other).isSome = (eventFds other).isSome := by
  obtain ⟨count, hcount⟩ := Option.isSome_iff_exists.mp hopen
  rw [signalEventfd, hcount]
  dsimp only
  split
  · refine ⟨_, rfl, fun other => ?_⟩
    by_cases heq : other = eventFd
    · subst heq
      simp [hcount]
    · simp [heq]
  · exact ⟨_, rfl, fun _ => rfl⟩

/-- Signals to open descriptors all succeed and close nothing. -/
theorem signalSubscribers_of_open {eventFds : EventFdTable} {targets : List ℕ}
    (hopen : ∀ eventFd ∈ targets, (eventFds eventFd).isSome) :
    ∃ eventFds', signalSubscribers targets eventFds = (true, eventFds') ∧
      ∀ other, (eventFds' other).isSome = (eventFds other).isSome := by
  induction targets generalizing eventFds with
  | nil => exact ⟨eventFds, rfl, fun _ => rfl⟩
  | cons eventFd targets ih =>
      obtain ⟨signalled, hsignal, hsame⟩ :=
        signalEventfd_of_open (hopen eventFd (by simp))
      have hstill : ∀ other ∈ targets, (signalled other).isSome := fun other hmem => by
        rw [hsame]
        exact hopen other (by simp [hmem])
      obtain ⟨eventFds', hrest, hsame'⟩ := ih hstill
      refine ⟨eventFds', ?_, fun other => by rw [hsame', hsame]⟩
      rw [signalSubscribers, hsignal]
      exact hrest

/-! ## The mask of a publish -/

theorem chunkReferenceMask_eq_foldl {slotByEventFd : AList fun _ : ℕ => ℕ}
    {slotOf : ℕ → ℕ} {eventFds : List ℕ} {mask : BitVec 32}
    (hlookup : ∀ eventFd ∈ eventFds,
      slotByEventFd.lookup eventFd = some (slotOf eventFd)) :
    chunkReferenceMask slotByEventFd eventFds mask =
      some ((eventFds.map slotOf).foldl
        (fun sum slot => sum + HolderMask.bit 32 slot) mask) := by
  induction eventFds generalizing mask with
  | nil => rfl
  | cons eventFd eventFds ih =>
      rw [chunkReferenceMask, hlookup eventFd (by simp)]
      exact ih fun other hmem => hlookup other (by simp [hmem])

namespace TrackingTables

variable {process : PublisherProcess}

/-- The mask that a publish adds has exactly the bits of the tracked slots. -/
theorem chunkReferenceMask_eq (htables : TrackingTables process) :
    ∃ mask, chunkReferenceMask
        process.publisher.subscriberSlotIndexByDataAvailableEventFd
        process.publisher.dataAvailableEventFds 0 = some mask ∧
      ∀ slot < 32, mask.getLsbD slot = true ↔ process.shared.Tracked slot := by
  let slotOf : ℕ → ℕ := fun eventFd =>
    (process.publisher.subscriberSlotIndexByDataAvailableEventFd.lookup eventFd).getD 0
  have hlookup : ∀ eventFd ∈ process.publisher.dataAvailableEventFds,
      process.publisher.subscriberSlotIndexByDataAvailableEventFd.lookup eventFd =
        some (slotOf eventFd) := by
    intro eventFd hmem
    obtain ⟨slot, hslot⟩ := htables.mem_iff.mp hmem
    simp [slotOf, hslot]
  have hinjective : ∀ left ∈ process.publisher.dataAvailableEventFds,
      ∀ right ∈ process.publisher.dataAvailableEventFds,
      slotOf left = slotOf right → left = right := by
    intro left hleft right hright heq
    rw [← (htables.slot_of_lookup (hlookup left hleft)).2.1, heq,
      (htables.slot_of_lookup (hlookup right hright)).2.1]
  have hbound : ∀ slot ∈ process.publisher.dataAvailableEventFds.map slotOf,
      slot < 32 := by
    intro slot hmem
    obtain ⟨eventFd, hfd, rfl⟩ := List.mem_map.mp hmem
    have hlt := (htables.slot_of_lookup (hlookup eventFd hfd)).1.1
    simp only [kMaxSubscribers] at hlt
    omega
  refine ⟨_, chunkReferenceMask_eq_foldl hlookup, fun slot hslot => ?_⟩
  rw [HolderMask.getLsbD_foldl_add _ _ (htables.nodup.map_on hinjective) (by simp)
    hbound slot hslot]
  simp only [BitVec.ofNat_eq_ofNat, BitVec.getLsbD_zero, Bool.false_or,
    decide_eq_true_eq, List.mem_map]
  constructor
  · rintro ⟨eventFd, hfd, rfl⟩
    exact (htables.slot_of_lookup (hlookup eventFd hfd)).1
  · intro htracked
    have hfound := htables.lookup_of_tracked htracked
    exact ⟨_, htables.mem_iff.mpr ⟨slot, hfound⟩, by simp [slotOf, hfound]⟩

theorem isSome_of_mem (htables : TrackingTables process) {eventFd : ℕ}
    (hmem : eventFd ∈ process.publisher.dataAvailableEventFds) :
    (process.eventFds eventFd).isSome := by
  obtain ⟨slot, hslot⟩ := htables.mem_iff.mp hmem
  exact (htables.slot_of_lookup hslot).2.2

/-- The tables only depend on which slots are tracked and which descriptors are
open. -/
theorem congr {process' : PublisherProcess} (htables : TrackingTables process)
    (hfds : process'.publisher.dataAvailableEventFds =
      process.publisher.dataAvailableEventFds)
    (hslots : process'.publisher.subscriberSlotIndexByDataAvailableEventFd =
      process.publisher.subscriberSlotIndexByDataAvailableEventFd)
    (hfdOf : process'.publisher.dataAvailableEventFdBySubscriberSlotIndex =
      process.publisher.dataAvailableEventFdBySubscriberSlotIndex)
    (htracked : ∀ slot, process'.shared.Tracked slot ↔ process.shared.Tracked slot)
    (hopen : ∀ eventFd, (process'.eventFds eventFd).isSome =
      (process.eventFds eventFd).isSome) : TrackingTables process' where
  nodup := by rw [hfds]; exact htables.nodup
  mem_iff := by rw [hfds, hslots]; exact htables.mem_iff
  slot_of_lookup := by
    intro eventFd slot hlookup
    rw [hslots] at hlookup
    rw [htracked, hfdOf, hopen]
    exact htables.slot_of_lookup hlookup
  lookup_of_tracked := by
    intro slot hslot
    rw [hslots, hfdOf]
    exact htables.lookup_of_tracked ((htracked slot).mp hslot)

/-! ## Tracking and forgetting -/

/-- Registering a freshly opened descriptor for a free slot succeeds. -/
theorem trackSubscriber_eq (htables : TrackingTables process) {eventFd slot : ℕ}
    (hfresh : process.eventFds eventFd = none) (hslot : slot < kMaxSubscribers)
    (hfree : process.shared.descriptorReadIndices slot = kInvalidIndex)
    (hwrite : process.shared.descriptorWriteIndex < kDescriptorSlotCount) :
    ∃ process', trackSubscriber { process with
        eventFds := Function.update process.eventFds eventFd (some 0) } eventFd slot =
        (none, process') ∧
      TrackingTables process' ∧
      process'.publisher.seq = process.publisher.seq ∧
      process'.shared = process.shared.storeReadIndex slot
        process.shared.descriptorWriteIndex := by
  have habsent : process.publisher.subscriberSlotIndexByDataAvailableEventFd.lookup
      eventFd = none := by
    cases hlookup : process.publisher.subscriberSlotIndexByDataAvailableEventFd.lookup
        eventFd with
    | none => rfl
    | some other =>
        have hopen := (htables.slot_of_lookup hlookup).2.2
        simp [hfresh] at hopen
  have hvalid : process.shared.descriptorWriteIndex ≠ kInvalidIndex := by
    simp only [kDescriptorSlotCount, kInvalidIndex] at hwrite ⊢
    omega
  have huntracked : ¬process.shared.Tracked slot := fun htracked => htracked.2 hfree
  have hnew : ∀ other, (process.shared.storeReadIndex slot
      process.shared.descriptorWriteIndex).Tracked other ↔
        other = slot ∨ process.shared.Tracked other := by
    intro other
    by_cases heq : other = slot
    · subst heq
      simp [SharedData.Tracked, SharedData.storeReadIndex, hslot, hvalid]
    · simp [SharedData.Tracked, SharedData.storeReadIndex, heq]
  rw [trackSubscriber, if_neg (by omega), if_neg (by simp [hfree]),
    if_neg (by simp [habsent])]
  refine ⟨_, rfl, ?_, rfl, rfl⟩
  constructor
  · refine List.Nodup.append htables.nodup (List.nodup_singleton eventFd) ?_
    rw [List.disjoint_singleton]
    intro hmem
    have hopen := htables.isSome_of_mem hmem
    simp [hfresh] at hopen
  · intro other
    simp only [List.mem_append, List.mem_singleton, lookup_insert]
    by_cases heq : other = eventFd
    · simp [heq]
    · simp [heq, htables.mem_iff]
  · intro other otherSlot hlookup
    dsimp only at hlookup ⊢
    rw [lookup_insert] at hlookup
    by_cases heq : other = eventFd
    · subst heq
      rw [if_pos rfl, Option.some.injEq] at hlookup
      subst hlookup
      exact ⟨(hnew slot).mpr (.inl rfl), by simp, by simp⟩
    · rw [if_neg heq] at hlookup
      obtain ⟨htracked, hfd, hopen⟩ := htables.slot_of_lookup hlookup
      have hother : otherSlot ≠ slot := fun hsame => huntracked (hsame ▸ htracked)
      exact ⟨(hnew otherSlot).mpr (.inr htracked), by simpa [hother] using hfd,
        by simpa [heq] using hopen⟩
  · intro other htracked
    dsimp only at htracked ⊢
    rw [lookup_insert]
    rcases (hnew other).mp htracked with rfl | hold
    · simp
    · have hother : other ≠ slot := fun hsame => huntracked (hsame ▸ hold)
      have hfound := htables.lookup_of_tracked hold
      have hne : process.publisher.dataAvailableEventFdBySubscriberSlotIndex other ≠
          eventFd := fun hsame => by
        rw [hsame, habsent] at hfound
        cases hfound
      rw [Function.update_of_ne hother, if_neg hne, hfound]

/-- Forgetting a slot whose read index has just been invalidated succeeds. -/
theorem forgetSubscriber_eq (htables : TrackingTables process) {slot : ℕ}
    (htracked : process.shared.Tracked slot) (shared : SharedData)
    (hreads : shared.descriptorReadIndices =
      Function.update process.shared.descriptorReadIndices slot kInvalidIndex) :
    ∃ process', forgetSubscriber { process with shared } slot =
        (RunError.none, process') ∧
      TrackingTables process' ∧
      process'.publisher.seq = process.publisher.seq ∧ process'.shared = shared := by
  have hfound := htables.lookup_of_tracked htracked
  have hnew : ∀ other, shared.Tracked other ↔
      other ≠ slot ∧ process.shared.Tracked other := by
    intro other
    rw [SharedData.Tracked, hreads]
    by_cases heq : other = slot
    · simp [heq]
    · simp [heq, SharedData.Tracked]
  rw [forgetSubscriber, if_neg (by simp [hfound])]
  refine ⟨_, rfl, ?_, rfl, rfl⟩
  -- A slot other than the forgotten one has another descriptor.
  have hdistinct : ∀ {eventFd other},
      process.publisher.subscriberSlotIndexByDataAvailableEventFd.lookup eventFd =
        some other →
      (eventFd ≠ process.publisher.dataAvailableEventFdBySubscriberSlotIndex slot ↔
        other ≠ slot) := by
    intro eventFd other hlookup
    refine not_congr ⟨fun heq => ?_, fun heq => ?_⟩
    · rw [heq, hfound, Option.some.injEq] at hlookup
      exact hlookup.symm
    · rw [← heq, (htables.slot_of_lookup hlookup).2.1]
  constructor
  · exact htables.nodup.filter _
  · intro eventFd
    dsimp only
    rw [lookup_erase, List.mem_filter, htables.mem_iff]
    by_cases heq : eventFd =
        process.publisher.dataAvailableEventFdBySubscriberSlotIndex slot
    · simp [heq]
    · simp [heq]
  · intro eventFd other hlookup
    dsimp only at hlookup ⊢
    rw [lookup_erase] at hlookup
    split at hlookup
    next => cases hlookup
    next hne =>
      obtain ⟨hother, hfd, hopen⟩ := htables.slot_of_lookup hlookup
      refine ⟨(hnew other).mpr ⟨(hdistinct hlookup).mp hne, hother⟩, hfd, ?_⟩
      rwa [Function.update_of_ne hne]
  · intro other hother
    dsimp only at hother ⊢
    obtain ⟨hne, hold⟩ := (hnew other).mp hother
    have hlookup := htables.lookup_of_tracked hold
    rw [lookup_erase, if_neg ((hdistinct hlookup).mpr hne), hlookup]

end TrackingTables

end DriveBus.SharedMemory
