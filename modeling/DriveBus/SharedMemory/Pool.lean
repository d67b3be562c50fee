import DriveBus.SharedMemory.DataPlane

/-!
# The chunk pool, abstractly

What the payload pool is for: every chunk has one owner, the free chunks of a
size class queue up in a list, and a published message owns its chunk for as
long as some subscriber slot still holds it.  A `Pool` carries these rules as
fields, so each operation below has to re-establish them once and no client
can build a pool that breaks them.
-/

namespace DriveBus.SharedMemory

/-- Who answers for a chunk: the free list, a party between its last-holder
test and its append, a published message, or nobody. -/
inductive Owner
  | free
  | returning (party : ℕ)
  | message (index : ℕ)
  | lost
  deriving DecidableEq, Repr

/-- The descriptor names a chunk of the class its length selects, and the
length is that of the header and the payload. -/
def Message.WellFormed (message : Message) : Prop :=
  message.descriptor.len = message.payload.length + kMessageHeaderSizeBytes ∧
    ∃ sizeClass, findSizeClass message.descriptor.len = some sizeClass ∧
      IsChunk sizeClass message.descriptor.offset

theorem Message.WellFormed.isChunk {message : Message} (hwellFormed : message.WellFormed)
    {sizeClass : ℕ} (hclass : findSizeClass message.descriptor.len = some sizeClass) :
    IsChunk sizeClass message.descriptor.offset := by
  obtain ⟨-, messageClass, hmessageClass, hchunk⟩ := hwellFormed
  rw [hclass, Option.some.injEq] at hmessageClass
  exact hmessageClass ▸ hchunk

/-- The pool after the messages of `log` have been published. -/
structure Pool (log : List Message) where
  owner : ℕ → Owner
  free : ℕ → List ℕ
  holds : ℕ → ℕ → Prop
  wellFormed : ∀ message ∈ log, message.WellFormed
  holds_bound : ∀ {slot index}, holds slot index →
    slot < kMaxSubscribers ∧ index < log.length
  free_nodup : ∀ sizeClass, (free sizeClass).Nodup
  mem_free_iff : ∀ {sizeClass offset}, offset ∈ free sizeClass ↔
    IsChunk sizeClass offset ∧ owner offset = .free
  owner_message_iff : ∀ {offset index}, owner offset = .message index ↔
    ∃ message, log[index]? = some message ∧ message.descriptor.offset = offset ∧
      ∃ slot, holds slot index

namespace Pool

variable {log : List Message}

theorem owner_of_holds (pool : Pool log) {slot index : ℕ} {message : Message}
    (hmessage : log[index]? = some message) (hholds : pool.holds slot index) :
    pool.owner message.descriptor.offset = .message index :=
  pool.owner_message_iff.mpr ⟨message, hmessage, rfl, slot, hholds⟩

theorem length_free_le (pool : Pool log) (sizeClass : ℕ) :
    (pool.free sizeClass).length ≤ kTotalChunkCount := by
  by_cases hclass : sizeClass < kClassCount
  · have hsub : pool.free sizeClass ⊆ chunkOffsets sizeClass := fun offset hmem =>
      (mem_chunkOffsets_iff hclass).mpr (pool.mem_free_iff.mp hmem).1
    have hle := (List.subperm_of_subset (pool.free_nodup sizeClass) hsub).length_le
    rw [chunkOffsets, List.length_map, List.length_range] at hle
    refine hle.trans ?_
    unfold kClassCount at hclass
    interval_cases sizeClass <;> decide
  · have hnil : pool.free sizeClass = [] := by
      rw [List.eq_nil_iff_forall_not_mem]
      exact fun offset hmem => hclass (pool.mem_free_iff.mp hmem).1.class_lt
    simp [hnil]

/-- A chunk with no holder moves from one owner to another. -/
theorem owner_message_update (pool : Pool log) {offset : ℕ} {owner : Owner}
    (hbefore : ∀ index, pool.owner offset ≠ .message index)
    (hafter : ∀ index, owner ≠ .message index) {other index : ℕ} :
    Function.update pool.owner offset owner other = .message index ↔
      ∃ message, log[index]? = some message ∧ message.descriptor.offset = other ∧
        ∃ slot, pool.holds slot index := by
  by_cases hoffset : other = offset
  · subst hoffset
    rw [Function.update_self, ← pool.owner_message_iff]
    exact iff_of_false (hafter index) (hbefore index)
  · rw [Function.update_of_ne hoffset, pool.owner_message_iff]

/-! ## Publishing -/

/-- Take the first free chunk of a class off its list; nobody answers for it until a message
is published in it. -/
def take (pool : Pool log) (sizeClass offset : ℕ)
    (hhead : (pool.free sizeClass).head? = some offset) : Pool log where
  owner := Function.update pool.owner offset .lost
  free := Function.update pool.free sizeClass (pool.free sizeClass).tail
  holds := pool.holds
  wellFormed := pool.wellFormed
  holds_bound := pool.holds_bound
  free_nodup := by
    intro other
    by_cases heq : other = sizeClass
    · subst heq
      simpa using (pool.free_nodup other).tail
    · simpa [heq] using pool.free_nodup other
  mem_free_iff := by
    intro other offset'
    have hmem : offset ∈ pool.free sizeClass := List.mem_of_mem_head? hhead
    have hchunk := (pool.mem_free_iff.mp hmem).1
    by_cases hoffset : offset' = offset
    · -- The popped chunk is on no list any more.
      subst hoffset
      simp only [Function.update_self, reduceCtorEq, and_false, iff_false]
      intro hin
      by_cases hclass : other = sizeClass
      · subst hclass
        rw [Function.update_self] at hin
        obtain ⟨rest, hrest⟩ := List.head?_eq_some_iff.mp hhead
        have hnodup := pool.free_nodup other
        rw [hrest] at hnodup hin
        exact (List.nodup_cons.mp hnodup).1 hin
      · rw [Function.update_of_ne hclass] at hin
        exact hclass ((pool.mem_free_iff.mp hin).1.class_unique hchunk)
    · rw [Function.update_of_ne hoffset, ← pool.mem_free_iff]
      by_cases hclass : other = sizeClass
      · subst hclass
        obtain ⟨rest, hrest⟩ := List.head?_eq_some_iff.mp hhead
        simp [hrest, hoffset]
      · rw [Function.update_of_ne hclass]
  owner_message_iff :=
    pool.owner_message_update
      (by simp [(pool.mem_free_iff.mp (List.mem_of_mem_head? hhead)).2]) (by simp)

section
variable (pool : Pool log) (sizeClass offset : ℕ)
  (hhead : (pool.free sizeClass).head? = some offset)

@[simp]
theorem take_owner :
    (pool.take sizeClass offset hhead).owner = Function.update pool.owner offset .lost := rfl

@[simp]
theorem take_free :
    (pool.take sizeClass offset hhead).free =
      Function.update pool.free sizeClass (pool.free sizeClass).tail := rfl

@[simp]
theorem take_holds : (pool.take sizeClass offset hhead).holds = pool.holds := rfl

end

/-- Publish `message`, held by `slots`, in a chunk that nobody answers for. -/
def fill (pool : Pool log) (message : Message) (slots : ℕ → Prop)
    (hwellFormed : message.WellFormed)
    (hslots : ∀ slot, slots slot → slot < kMaxSubscribers) (hsome : ∃ slot, slots slot)
    (hlost : pool.owner message.descriptor.offset = .lost) : Pool (log ++ [message]) where
  owner := Function.update pool.owner message.descriptor.offset (.message log.length)
  free := pool.free
  holds := fun slot index =>
    pool.holds slot index ∨ (index = log.length ∧ slots slot)
  wellFormed := by
    intro other hmem
    rcases List.mem_append.mp hmem with hold | hnew
    · exact pool.wellFormed other hold
    · rw [List.mem_singleton.mp hnew]
      exact hwellFormed
  holds_bound := by
    rintro slot index (hold | ⟨rfl, hslot⟩)
    · have hbound := pool.holds_bound hold
      simp only [List.length_append, List.length_singleton]
      omega
    · simp [hslots slot hslot]
  free_nodup := pool.free_nodup
  mem_free_iff := by
    intro sizeClass offset
    by_cases hoffset : offset = message.descriptor.offset
    · subst hoffset
      simp [pool.mem_free_iff, hlost]
    · rw [Function.update_of_ne hoffset, pool.mem_free_iff]
  owner_message_iff := by
    intro offset index
    have hfresh : ∀ slot, ¬pool.holds slot log.length := fun slot hholds =>
      absurd (pool.holds_bound hholds).2 (lt_irrefl _)
    by_cases hoffset : offset = message.descriptor.offset
    · subst hoffset
      rw [Function.update_self, Owner.message.injEq]
      constructor
      · rintro rfl
        obtain ⟨slot, hslot⟩ := hsome
        exact ⟨message, by simp, rfl, slot, .inr ⟨rfl, hslot⟩⟩
      · rintro ⟨other, hother, hoff, slot, hold | ⟨hindex, -⟩⟩
        · have hlt := (pool.holds_bound hold).2
          rw [List.getElem?_append_left hlt] at hother
          have howner := pool.owner_of_holds hother hold
          rw [hoff, hlost] at howner
          cases howner
        · exact hindex.symm
    · rw [Function.update_of_ne hoffset, pool.owner_message_iff]
      constructor
      · rintro ⟨other, hother, hoff, slot, hholds⟩
        have hlt := (pool.holds_bound hholds).2
        exact ⟨other, by rwa [List.getElem?_append_left hlt], hoff, slot, .inl hholds⟩
      · rintro ⟨other, hother, hoff, slot, hold | ⟨rfl, -⟩⟩
        · have hlt := (pool.holds_bound hold).2
          rw [List.getElem?_append_left hlt] at hother
          exact ⟨other, hother, hoff, slot, hold⟩
        · rw [List.getElem?_concat_length, Option.some.injEq] at hother
          exact absurd (hother ▸ hoff.symm) hoffset

section
variable (pool : Pool log) (message : Message) (slots : ℕ → Prop)
  (hwellFormed : message.WellFormed) (hslots : ∀ slot, slots slot → slot < kMaxSubscribers)
  (hsome : ∃ slot, slots slot) (hlost : pool.owner message.descriptor.offset = .lost)

@[simp]
theorem fill_owner :
    (pool.fill message slots hwellFormed hslots hsome hlost).owner =
      Function.update pool.owner message.descriptor.offset (.message log.length) := rfl

@[simp]
theorem fill_free :
    (pool.fill message slots hwellFormed hslots hsome hlost).free = pool.free := rfl

@[simp]
theorem fill_holds (slot index : ℕ) :
    (pool.fill message slots hwellFormed hslots hsome hlost).holds slot index ↔
      pool.holds slot index ∨ (index = log.length ∧ slots slot) := Iff.rfl

end

/-! ## Giving up a reference -/

/-- The references left when `slot` gives up the chunk at `offset`. -/
def holdsWithout (pool : Pool log) (slot offset : ℕ) : ℕ → ℕ → Prop :=
  fun other index =>
    pool.holds other index ∧ ¬(other = slot ∧ pool.owner offset = .message index)

/-- `slot` gives up a chunk that it does not hold alone. -/
def dropReference (pool : Pool log) (slot offset : ℕ)
    (hshared : ∀ index, pool.owner offset = .message index →
      ∃ other, other ≠ slot ∧ pool.holds other index) : Pool log where
  owner := pool.owner
  free := pool.free
  holds := pool.holdsWithout slot offset
  wellFormed := pool.wellFormed
  holds_bound := fun hholds => pool.holds_bound hholds.1
  free_nodup := pool.free_nodup
  mem_free_iff := pool.mem_free_iff
  owner_message_iff := by
    intro other index
    constructor
    · intro howner
      obtain ⟨message, hmessage, hoff, slot', hholds⟩ :=
        pool.owner_message_iff.mp howner
      refine ⟨message, hmessage, hoff, ?_⟩
      by_cases hoffset : pool.owner offset = .message index
      · obtain ⟨holder, hne, hholder⟩ := hshared index hoffset
        exact ⟨holder, hholder, fun hboth => hne hboth.1⟩
      · exact ⟨slot', hholds, fun hboth => hoffset hboth.2⟩
    · rintro ⟨message, hmessage, hoff, slot', hholds, -⟩
      exact pool.owner_message_iff.mpr ⟨message, hmessage, hoff, slot', hholds⟩

section
variable (pool : Pool log) (slot offset : ℕ)
  (hshared : ∀ index, pool.owner offset = .message index →
    ∃ other, other ≠ slot ∧ pool.holds other index)

@[simp]
theorem dropReference_owner :
    (pool.dropReference slot offset hshared).owner = pool.owner := rfl

@[simp]
theorem dropReference_free :
    (pool.dropReference slot offset hshared).free = pool.free := rfl

@[simp]
theorem dropReference_holds :
    (pool.dropReference slot offset hshared).holds = pool.holdsWithout slot offset := rfl

end

/-- `slot`, the last holder of the message at `offset`, gives it up; `party`
now has to return the chunk. -/
def takeLast (pool : Pool log) (slot offset party : ℕ)
    (hlast : ∃ index, pool.owner offset = .message index ∧
      ∀ other, pool.holds other index → other = slot) : Pool log where
  owner := Function.update pool.owner offset (.returning party)
  free := pool.free
  holds := pool.holdsWithout slot offset
  wellFormed := pool.wellFormed
  holds_bound := fun hholds => pool.holds_bound hholds.1
  free_nodup := pool.free_nodup
  mem_free_iff := by
    intro sizeClass other
    obtain ⟨index, howner, -⟩ := hlast
    by_cases hoffset : other = offset
    · subst hoffset
      simp [pool.mem_free_iff, howner]
    · rw [Function.update_of_ne hoffset, pool.mem_free_iff]
  owner_message_iff := by
    intro other index
    obtain ⟨last, howner, honly⟩ := hlast
    by_cases hoffset : other = offset
    · subst hoffset
      rw [Function.update_self]
      constructor
      · intro hcontra
        cases hcontra
      · rintro ⟨message, hmessage, hoff, slot', hholds, hnot⟩
        have hindex := pool.owner_of_holds hmessage hholds
        rw [hoff, howner, Owner.message.injEq] at hindex
        subst hindex
        exact absurd ⟨honly slot' hholds, howner⟩ hnot
    · rw [Function.update_of_ne hoffset, pool.owner_message_iff]
      constructor
      · rintro ⟨message, hmessage, hoff, slot', hholds⟩
        refine ⟨message, hmessage, hoff, slot', hholds, ?_⟩
        rintro ⟨-, hsame⟩
        obtain ⟨message', hmessage', hoff', -⟩ := pool.owner_message_iff.mp hsame
        rw [hmessage, Option.some.injEq] at hmessage'
        exact hoffset (by rw [← hoff, hmessage', hoff'])
      · rintro ⟨message, hmessage, hoff, slot', hholds, -⟩
        exact ⟨message, hmessage, hoff, slot', hholds⟩

section
variable (pool : Pool log) (slot offset party : ℕ)
  (hlast : ∃ index, pool.owner offset = .message index ∧
    ∀ other, pool.holds other index → other = slot)

@[simp]
theorem takeLast_owner :
    (pool.takeLast slot offset party hlast).owner =
      Function.update pool.owner offset (.returning party) := rfl

@[simp]
theorem takeLast_free : (pool.takeLast slot offset party hlast).free = pool.free := rfl

@[simp]
theorem takeLast_holds :
    (pool.takeLast slot offset party hlast).holds = pool.holdsWithout slot offset := rfl

end

/-! ## Returning and losing chunks -/

/-- The party that had to return the chunk stops for good. -/
def lose (pool : Pool log) (offset party : ℕ)
    (hreturning : pool.owner offset = .returning party) : Pool log where
  owner := Function.update pool.owner offset .lost
  free := pool.free
  holds := pool.holds
  wellFormed := pool.wellFormed
  holds_bound := pool.holds_bound
  free_nodup := pool.free_nodup
  mem_free_iff := by
    intro sizeClass other
    by_cases hoffset : other = offset
    · subst hoffset
      simp [pool.mem_free_iff, hreturning]
    · rw [Function.update_of_ne hoffset, pool.mem_free_iff]
  owner_message_iff :=
    pool.owner_message_update (by simp [hreturning]) (by simp)

section
variable (pool : Pool log) (offset party : ℕ)
  (hreturning : pool.owner offset = .returning party)

@[simp]
theorem lose_owner :
    (pool.lose offset party hreturning).owner = Function.update pool.owner offset .lost :=
  rfl

@[simp]
theorem lose_free : (pool.lose offset party hreturning).free = pool.free := rfl

@[simp]
theorem lose_holds : (pool.lose offset party hreturning).holds = pool.holds := rfl

end

/-- A chunk that nobody answers for goes to the end of its list. -/
def recover (pool : Pool log) (sizeClass offset : ℕ) (hchunk : IsChunk sizeClass offset)
    (hlost : pool.owner offset = .lost) : Pool log where
  owner := Function.update pool.owner offset .free
  free := Function.update pool.free sizeClass (pool.free sizeClass ++ [offset])
  holds := pool.holds
  wellFormed := pool.wellFormed
  holds_bound := pool.holds_bound
  free_nodup := by
    intro other
    by_cases hclass : other = sizeClass
    · subst hclass
      have habsent : offset ∉ pool.free other := fun hmem => by
        have hfree := (pool.mem_free_iff.mp hmem).2
        rw [hlost] at hfree
        cases hfree
      rw [Function.update_self]
      exact List.Nodup.append (pool.free_nodup other) (List.nodup_singleton offset)
        (by simpa using habsent)
    · simpa [hclass] using pool.free_nodup other
  mem_free_iff := by
    intro other offset'
    by_cases hoffset : offset' = offset
    · subst hoffset
      rw [Function.update_self, eq_self_iff_true, and_true]
      by_cases hclass : other = sizeClass
      · subst hclass
        simp [hchunk]
      · rw [Function.update_of_ne hclass, pool.mem_free_iff, hlost]
        refine iff_of_false (fun hboth => by cases hboth.2) fun hother => ?_
        exact hclass (hother.class_unique hchunk)
    · rw [Function.update_of_ne hoffset, ← pool.mem_free_iff]
      by_cases hclass : other = sizeClass
      · subst hclass
        simp [hoffset]
      · rw [Function.update_of_ne hclass]
  owner_message_iff :=
    pool.owner_message_update (by simp [hlost]) (by simp)

section
variable (pool : Pool log) (sizeClass offset : ℕ) (hchunk : IsChunk sizeClass offset)
  (hlost : pool.owner offset = .lost)

@[simp]
theorem recover_owner :
    (pool.recover sizeClass offset hchunk hlost).owner =
      Function.update pool.owner offset .free := rfl

@[simp]
theorem recover_free :
    (pool.recover sizeClass offset hchunk hlost).free =
      Function.update pool.free sizeClass (pool.free sizeClass ++ [offset]) := rfl

@[simp]
theorem recover_holds : (pool.recover sizeClass offset hchunk hlost).holds = pool.holds := rfl

end

/-- The party that had to return the chunk puts it at the end of its list. -/
def append (pool : Pool log) (sizeClass offset party : ℕ)
    (hchunk : IsChunk sizeClass offset)
    (hreturning : pool.owner offset = .returning party) : Pool log :=
  (pool.lose offset party hreturning).recover sizeClass offset hchunk
    (Function.update_self ..)

section
variable (pool : Pool log) (sizeClass offset party : ℕ)
  (hchunk : IsChunk sizeClass offset) (hreturning : pool.owner offset = .returning party)

@[simp]
theorem append_owner :
    (pool.append sizeClass offset party hchunk hreturning).owner =
      Function.update pool.owner offset .free := Function.update_idem ..

@[simp]
theorem append_free :
    (pool.append sizeClass offset party hchunk hreturning).free =
      Function.update pool.free sizeClass (pool.free sizeClass ++ [offset]) := rfl

@[simp]
theorem append_holds :
    (pool.append sizeClass offset party hchunk hreturning).holds = pool.holds := rfl

end

/-- The pool over the initial free lists, before any message. -/
def initial : Pool [] where
  owner := fun _ => .free
  free := fun sizeClass =>
    if sizeClass < kClassCount then chunkOffsets sizeClass else []
  holds := fun _ _ => False
  wellFormed := by simp
  holds_bound := False.elim
  free_nodup := by
    intro sizeClass
    split
    next hclass =>
      refine List.Nodup.map_on ?_ List.nodup_range
      intro left _ right _ heq
      have hsize := kClassSizeBytes_ge hclass
      exact Nat.eq_of_mul_eq_mul_right (by omega) (Nat.add_left_cancel heq)
    next => exact List.nodup_nil
  mem_free_iff := by
    intro sizeClass offset
    split
    next hclass => simp [mem_chunkOffsets_iff hclass]
    next hclass => simp [IsChunk, hclass]
  owner_message_iff := by simp

end Pool

end DriveBus.SharedMemory
