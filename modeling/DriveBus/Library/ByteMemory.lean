import Mathlib.Data.Fin.Basic
import Mathlib.Data.List.GetD
import Mathlib.Tactic.Ring
import Mathlib.Tactic.NormNum

/-!
# Byte memory and little-endian words

A memory is a total map from addresses to bytes.  Stores and loads move byte
ranges; a word is the little-endian encoding of a natural number in a fixed
number of bytes.  The two facts every client needs are that a load of the
range just stored gives the bytes back, and that a load of a disjoint range
does not see the store.
-/

namespace DriveBus.ByteMemory

abbrev Byte := Fin 256

/-- The instance that byte literals go through. -/
instance neZeroByteCount : NeZero 256 := ⟨by decide⟩

/-! ## Little-endian words -/

/-- The `width` least significant base-256 digits, least significant first. -/
def littleEndian : ℕ → ℕ → List Byte
  | 0, _ => []
  | width + 1, value => Fin.ofNat 256 value :: littleEndian width (value / 256)

def ofLittleEndian : List Byte → ℕ
  | [] => 0
  | byte :: bytes => byte.val + 256 * ofLittleEndian bytes

@[simp]
theorem length_littleEndian (width value : ℕ) :
    (littleEndian width value).length = width := by
  induction width generalizing value with
  | zero => rfl
  | succ width ih => simp [littleEndian, ih]

theorem ofLittleEndian_littleEndian (width value : ℕ) :
    ofLittleEndian (littleEndian width value) = value % 256 ^ width := by
  induction width generalizing value with
  | zero => simp [littleEndian, ofLittleEndian, Nat.mod_one]
  | succ width ih =>
      rw [littleEndian, ofLittleEndian, ih, pow_succ', Nat.mod_mul]
      rfl

/-! ## Ranges of memory -/

abbrev Memory := ℕ → Byte

def load (memory : Memory) (address length : ℕ) : List Byte :=
  (List.range length).map fun index => memory (address + index)

def store (memory : Memory) (address : ℕ) (bytes : List Byte) : Memory :=
  fun cell =>
    if address ≤ cell ∧ cell < address + bytes.length then
      bytes.getD (cell - address) 0
    else memory cell

@[simp]
theorem length_load (memory : Memory) (address length : ℕ) :
    (load memory address length).length = length := by
  simp [load]

theorem load_add (memory : Memory) (address left right : ℕ) :
    load memory address (left + right) =
      load memory address left ++ load memory (address + left) right := by
  simp [load, List.range_add, Nat.add_assoc, Function.comp_def]

@[simp]
theorem load_store_self (memory : Memory) (address : ℕ) (bytes : List Byte) :
    load (store memory address bytes) address bytes.length = bytes := by
  apply List.ext_getElem (by simp)
  intro index _ hindex
  simp [load, store, hindex]

/-- Reading a range that the store does not touch. -/
theorem load_store_of_disjoint (memory : Memory) {address other : ℕ}
    {bytes : List Byte} {length : ℕ}
    (hdisjoint : address + bytes.length ≤ other ∨ other + length ≤ address) :
    load (store memory address bytes) other length = load memory other length := by
  apply List.ext_getElem (by simp)
  intro index hindex _
  have hlt : index < length := by simpa using hindex
  have hout : ¬(address ≤ other + index ∧
      other + index < address + bytes.length) := by omega
  simp [load, store, hout]

@[simp]
theorem store_nil (memory : Memory) (address : ℕ) :
    store memory address [] = memory := by
  funext cell
  have hempty : ¬(address ≤ cell ∧ cell < address) := by omega
  simp [store, hempty]

/-- Two adjacent stores are one store of both ranges. -/
theorem store_append (memory : Memory) (address : ℕ) (left right : List Byte) :
    store (store memory address left) (address + left.length) right =
      store memory address (left ++ right) := by
  funext cell
  simp only [store, List.length_append]
  by_cases hleft : address ≤ cell ∧ cell < address + left.length
  · have hright : ¬(address + left.length ≤ cell ∧
        cell < address + left.length + right.length) := by omega
    rw [if_neg hright, if_pos hleft, if_pos (by omega),
      List.getD_append _ _ _ _ (by omega)]
  · by_cases hright : address + left.length ≤ cell ∧
        cell < address + left.length + right.length
    · rw [if_pos hright, if_pos (by omega),
        List.getD_append_right _ _ _ _ (by omega)]
      congr 1
      omega
    · rw [if_neg hright, if_neg hleft, if_neg (by omega)]

/-! ## Words in memory -/

def wordSize : ℕ := 4

def loadWord (memory : Memory) (address : ℕ) : ℕ :=
  ofLittleEndian (load memory address wordSize)

def storeWord (memory : Memory) (address value : ℕ) : Memory :=
  store memory address (littleEndian wordSize value)

theorem loadWord_storeWord_self (memory : Memory) {address value : ℕ}
    (hvalue : value < 2 ^ 32) :
    loadWord (storeWord memory address value) address = value := by
  have hload := load_store_self memory address (littleEndian wordSize value)
  rw [length_littleEndian] at hload
  rw [loadWord, storeWord, hload, ofLittleEndian_littleEndian]
  exact Nat.mod_eq_of_lt (by norm_num [wordSize]; omega)

theorem loadWord_store_of_disjoint (memory : Memory) {address other : ℕ}
    {bytes : List Byte}
    (hdisjoint : address + bytes.length ≤ other ∨ other + wordSize ≤ address) :
    loadWord (store memory address bytes) other = loadWord memory other := by
  rw [loadWord, loadWord, load_store_of_disjoint memory hdisjoint]

theorem loadWord_storeWord_of_disjoint (memory : Memory) {address other value : ℕ}
    (hdisjoint : address + wordSize ≤ other ∨ other + wordSize ≤ address) :
    loadWord (storeWord memory address value) other = loadWord memory other :=
  loadWord_store_of_disjoint memory (by simpa using hdisjoint)

end DriveBus.ByteMemory
