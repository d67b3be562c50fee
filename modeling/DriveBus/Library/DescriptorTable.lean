import Mathlib.Data.Multiset.AddSub
import Mathlib.Data.Multiset.OrderedMonoid

/-!
# Descriptor tables

A process numbers the objects it has open.  The table says for every number who
was given it, and a program keeps in its own data which numbers it holds.  What it
holds is sound when every number is open, belongs to the one that holds it and is
held once; then whoever gives a number up closes what is still its own.
-/

namespace DriveBus.DescriptorTable

/-- Who owns each open number. -/
abbrev Table (Fd Owner : Type*) := Fd → Option Owner

variable {Fd Owner : Type*} [DecidableEq Fd]

/-- The table after some numbers were handed out. -/
def install (table : Table Fd Owner) (acquired : List (Fd × Owner)) : Table Fd Owner :=
  acquired.foldl (fun table pair => Function.update table pair.1 (some pair.2)) table

/-- The table after some numbers were closed. -/
def closeAll (table : Table Fd Owner) (fds : List Fd) : Table Fd Owner :=
  fds.foldl (fun table fd => Function.update table fd none) table

/-- Close the numbers one after the other, each on behalf of an owner; a number that
does not belong to its closer any more stops this. -/
def closeByOwner [DecidableEq Owner] (table : Table Fd Owner) :
    List (Fd × Owner) → Option (Table Fd Owner)
  | [] => some table
  | (fd, owner) :: rest =>
      if table fd = some owner then closeByOwner (Function.update table fd none) rest
      else none

@[simp]
theorem closeAll_apply (table : Table Fd Owner) (fds : List Fd) (fd : Fd) :
    closeAll table fds fd = if fd ∈ fds then none else table fd := by
  induction fds generalizing table with
  | nil => simp [closeAll]
  | cons other fds ih =>
      rw [closeAll, List.foldl_cons, ← closeAll, ih]
      by_cases heq : fd = other <;> simp [heq]

theorem install_of_notMem {table : Table Fd Owner} {acquired : List (Fd × Owner)} {fd : Fd}
    (hother : fd ∉ acquired.map Prod.fst) : install table acquired fd = table fd := by
  induction acquired generalizing table with
  | nil => rfl
  | cons pair acquired ih =>
      rw [List.map_cons, List.mem_cons, not_or] at hother
      rw [install, List.foldl_cons, ← install, ih hother.2, Function.update_of_ne hother.1]

theorem install_of_mem {table : Table Fd Owner} {acquired : List (Fd × Owner)}
    (hnodup : (acquired.map Prod.fst).Nodup) {pair : Fd × Owner} (hmem : pair ∈ acquired) :
    install table acquired pair.1 = some pair.2 := by
  induction acquired generalizing table with
  | nil => cases hmem
  | cons head acquired ih =>
      rw [List.map_cons, List.nodup_cons] at hnodup
      rw [install, List.foldl_cons, ← install]
      rcases List.mem_cons.mp hmem with rfl | hrest
      · rw [install_of_notMem hnodup.1, Function.update_self]
      · exact ih hnodup.2 hrest

/-! ## Holding -/

/-- The numbers handed out are not in use, and no two of them are equal. -/
def Fresh (table : Table Fd Owner) (acquired : List (Fd × Owner)) : Prop :=
  (acquired.map Prod.fst).Nodup ∧ ∀ pair ∈ acquired, table pair.1 = none

/-- Every number is open and belongs to the one that holds it, and no number is held
twice. -/
structure Owned (table : Table Fd Owner) (held : Multiset (Fd × Owner)) : Prop where
  once : (held.map Prod.fst).Nodup
  owner : ∀ pair ∈ held, table pair.1 = some pair.2

namespace Owned

variable {table : Table Fd Owner} {held held' : Multiset (Fd × Owner)}

omit [DecidableEq Fd] in
theorem zero : Owned table 0 := ⟨by simp, by simp⟩

omit [DecidableEq Fd] in
theorem of_le (howned : Owned table held) (hle : held' ≤ held) : Owned table held' :=
  ⟨Multiset.nodup_of_le (Multiset.map_le_map hle) howned.once,
    fun pair hmem => howned.owner pair (Multiset.mem_of_le hle hmem)⟩

/-- What was handed out anew is held beside what was held before. -/
theorem install (howned : Owned table held) {acquired : List (Fd × Owner)}
    (hfresh : Fresh table acquired) :
    Owned (install table acquired) (held + acquired) := by
  have hnew : ∀ pair ∈ held, pair.1 ∉ acquired.map Prod.fst := by
    intro pair hmem hacquired
    obtain ⟨other, hother, heq⟩ := List.mem_map.mp hacquired
    have hnone := hfresh.2 other hother
    rw [heq, howned.owner pair hmem] at hnone
    cases hnone
  constructor
  · rw [Multiset.map_add, Multiset.nodup_add]
    refine ⟨howned.once, hfresh.1, Multiset.disjoint_left.mpr ?_⟩
    intro fd hheld hacquired
    obtain ⟨pair, hmem, rfl⟩ := Multiset.mem_map.mp hheld
    exact hnew pair hmem hacquired
  · intro pair hmem
    rcases Multiset.mem_add.mp hmem with hold | hacquired
    · rw [install_of_notMem (hnew pair hold)]
      exact howned.owner pair hold
    · exact install_of_mem hfresh.1 hacquired

/-- What is given up is closed; the rest is held as before. -/
theorem closeAll {closings : List (Fd × Owner)} (howned : Owned table (held + closings)) :
    Owned (closeAll table (closings.map Prod.fst)) held := by
  have honce := howned.once
  rw [Multiset.map_add, Multiset.nodup_add] at honce
  refine ⟨honce.1, fun pair hmem => ?_⟩
  have hkept : pair.1 ∉ closings.map Prod.fst := fun hclosed =>
    Multiset.disjoint_left.mp honce.2.2 (Multiset.mem_map_of_mem Prod.fst hmem) hclosed
  rw [closeAll_apply, if_neg hkept]
  exact howned.owner pair (Multiset.mem_add.mpr (.inl hmem))

omit [DecidableEq Fd] in
/-- A number that is given up is held by nobody else. -/
theorem disjoint {closings : Multiset (Fd × Owner)} (howned : Owned table (held + closings)) :
    ∀ pair ∈ closings, ∀ owner, (pair.1, owner) ∉ held := by
  intro pair hmem owner hheld
  have honce := howned.once
  rw [Multiset.map_add, Multiset.nodup_add] at honce
  have hkept : pair.1 ∈ held.map Prod.fst := Multiset.mem_map.mpr ⟨_, hheld, rfl⟩
  exact Multiset.disjoint_left.mp honce.2.2 hkept (Multiset.mem_map_of_mem Prod.fst hmem)

/-- Numbers are handed out and given up, and the books balance: everything that is
still held or was given up had been held or was handed out. -/
theorem exchange (howned : Owned table held) {acquired closings : List (Fd × Owner)}
    (hfresh : Fresh table acquired)
    (hbalance : held' + (closings : Multiset (Fd × Owner)) ≤ held + acquired) :
    Owned (DescriptorTable.closeAll (DescriptorTable.install table acquired)
      (closings.map Prod.fst)) held' ∧
      Owned (DescriptorTable.install table acquired) closings := by
  have hboth := (howned.install hfresh).of_le hbalance
  exact ⟨hboth.closeAll, hboth.of_le (Multiset.le_add_left _ _)⟩

/-- The numbers can be closed in any order by the ones that hold them. -/
theorem closeByOwner_isSome [DecidableEq Owner] {closings : List (Fd × Owner)}
    (howned : Owned table (closings : Multiset (Fd × Owner))) :
    (closeByOwner table closings).isSome := by
  induction closings generalizing table with
  | nil => rfl
  | cons pair closings ih =>
      have hhead : table pair.1 = some pair.2 := howned.owner pair (by simp)
      rw [closeByOwner, if_pos hhead]
      have hsplit : Owned table ((closings : Multiset (Fd × Owner)) + [pair]) := by
        rwa [Multiset.coe_add, Multiset.coe_eq_coe.mpr List.perm_append_comm,
          List.singleton_append]
      exact ih hsplit.closeAll

end Owned

/-! ## Accounts -/

/-- A number that has come in is held once and has not been closed since, or has been
closed once and is not held. -/
def Settled (fd : Fd) (closed closed' : List Fd) (held' : Multiset Fd) : Prop :=
  (held'.count fd = 1 ∧ closed'.count fd = closed.count fd) ∨
    (held'.count fd = 0 ∧ closed'.count fd = closed.count fd + 1)

/-- The books over some time: what was held, closed or has come in is held or closed, and
a new number that has come in once is settled. -/
structure Accounted (held held' : Multiset Fd) (closed closed' received : List Fd) :
    Prop where
  balance : held' + (closed' : Multiset Fd) = held + (closed : Multiset Fd) + received
  settled : ∀ fd, received.count fd = 1 → held.count fd = 0 → Settled fd closed closed' held'

/-- Balanced books settle every new number, as nothing that was closed is open again. -/
theorem accounted_of_balance {held held' : Multiset Fd} {closed closed' received : List Fd}
    (hbalance : held' + (closed' : Multiset Fd) = held + (closed : Multiset Fd) + received)
    (hlog : closed <+: closed') : Accounted held held' closed closed' received := by
  refine ⟨hbalance, fun fd honce hnew => ?_⟩
  have hcount := congrArg (Multiset.count fd) hbalance
  simp only [Multiset.count_add, Multiset.coe_count, honce, hnew, zero_add] at hcount
  have hgrows := hlog.sublist.count_le fd
  rw [Settled]
  omega

end DriveBus.DescriptorTable
