import Mathlib.Data.List.Nodup

/-!
# Holder masks

A set of small numbers kept as the bits of a machine word.  Everything is
stated through `getLsbD`, so that clients reason about membership and never
about the word's value.
-/

namespace DriveBus.HolderMask

variable {width : ℕ}

/-- The word whose only bit is `holder`. -/
def bit (width holder : ℕ) : BitVec width := BitVec.ofNat width 1 <<< holder

theorem getLsbD_bit (holder index : ℕ) (hindex : index < width) :
    (bit width holder).getLsbD index = decide (index = holder) := by
  rw [bit, BitVec.getLsbD_shiftLeft, BitVec.getLsbD_one]
  by_cases heq : index = holder
  · subst heq
    simp [hindex, Nat.zero_lt_of_lt hindex]
  · by_cases hlt : index < holder
    · simp [hlt, heq]
    · have hpos : index - holder ≠ 0 := by omega
      simp [heq, hpos]

/-- Clearing one bit removes one holder. -/
theorem getLsbD_clear (mask : BitVec width) (holder index : ℕ)
    (hindex : index < width) :
    (mask &&& ~~~bit width holder).getLsbD index =
      (mask.getLsbD index && !decide (index = holder)) := by
  rw [BitVec.getLsbD_and, BitVec.getLsbD_not, getLsbD_bit holder index hindex]
  simp [hindex]

/-- Clearing the bit of a number that is no holder changes nothing. -/
theorem clear_of_not_holder {mask : BitVec width} {holder : ℕ}
    (habsent : mask.getLsbD holder = false) : mask &&& ~~~bit width holder = mask := by
  apply BitVec.eq_of_getLsbD_eq
  intro index hindex
  rw [getLsbD_clear mask holder index hindex]
  by_cases heq : index = holder
  · rw [heq, habsent, Bool.false_and]
  · simp [heq]

/-- A word is a single bit exactly when that bit is its only member. -/
theorem eq_bit_iff (mask : BitVec width) (holder : ℕ) :
    mask = bit width holder ↔
      ∀ index, index < width → (mask.getLsbD index = true ↔ index = holder) := by
  constructor
  · rintro rfl index hindex
    simp [getLsbD_bit holder index hindex]
  · intro hmembers
    apply BitVec.eq_of_getLsbD_eq
    intro index hindex
    rw [getLsbD_bit holder index hindex, Bool.eq_iff_iff, hmembers index hindex]
    simp

theorem eq_zero_iff (mask : BitVec width) :
    mask = 0 ↔ ∀ index, index < width → mask.getLsbD index = false := by
  constructor
  · rintro rfl index _
    simp
  · intro hmembers
    apply BitVec.eq_of_getLsbD_eq
    intro index hindex
    simp [hmembers index hindex]

/-- Adding a holder that is not yet a member sets its bit and no other. -/
theorem getLsbD_add_bit (mask : BitVec width) (holder index : ℕ)
    (hindex : index < width) (habsent : mask.getLsbD holder = false) :
    (mask + bit width holder).getLsbD index =
      (mask.getLsbD index || decide (index = holder)) := by
  have hdisjoint : mask &&& bit width holder = 0 := by
    rw [eq_zero_iff]
    intro other hother
    rw [BitVec.getLsbD_and, getLsbD_bit holder other hother]
    by_cases heq : other = holder
    · simp [heq, habsent]
    · simp [heq]
  rw [BitVec.add_eq_or_of_and_eq_zero _ _ hdisjoint, BitVec.getLsbD_or,
    getLsbD_bit holder index hindex]

/-- Summing the bits of distinct holders collects them as members. -/
theorem getLsbD_foldl_add (holders : List ℕ) (mask : BitVec width)
    (hnodup : holders.Nodup)
    (habsent : ∀ holder ∈ holders, mask.getLsbD holder = false)
    (hbound : ∀ holder ∈ holders, holder < width)
    (index : ℕ) (hindex : index < width) :
    (holders.foldl (fun sum holder => sum + bit width holder) mask).getLsbD index =
      (mask.getLsbD index || decide (index ∈ holders)) := by
  induction holders generalizing mask with
  | nil => simp
  | cons holder holders ih =>
      rw [List.nodup_cons] at hnodup
      have hhead := habsent holder (by simp)
      have hrest : ∀ other ∈ holders,
          (mask + bit width holder).getLsbD other = false := by
        intro other hmem
        rw [getLsbD_add_bit mask holder other (hbound other (by simp [hmem])) hhead,
          habsent other (by simp [hmem])]
        have hne : other ≠ holder := fun heq => hnodup.1 (heq ▸ hmem)
        simp [hne]
      rw [List.foldl_cons, ih _ hnodup.2 hrest
        (fun other hmem => hbound other (by simp [hmem])),
        getLsbD_add_bit mask holder index hindex hhead]
      simp [Bool.or_assoc]

end DriveBus.HolderMask
