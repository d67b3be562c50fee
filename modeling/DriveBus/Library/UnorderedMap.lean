import Mathlib.Data.List.AList
import Mathlib.Algebra.BigOperators.Group.Finset.Piecewise
import Mathlib.Algebra.Order.BigOperators.Group.Finset
import Mathlib.Data.Multiset.OrderedMonoid
import Mathlib.Tactic.Abel

/-!
# Unordered maps

The operations of a hash map with unspecified iteration order, over Mathlib's
association lists: `find`, an insertion that keeps an existing entry, an
assignment that replaces it, and `erase`.  `total` adds up a weight over all
entries; its lemmas say how one key contributes to the total, which is what
counting invariants over a whole map need.
-/

namespace DriveBus.UnorderedMap

/-- A map from keys to values, all of one type. -/
abbrev Map (K V : Type*) := AList fun _ : K => V

variable {K V : Type*} [DecidableEq K]

/-- Insertion that leaves an existing entry untouched. -/
def insertNew (map : Map K V) (key : K) (value : V) : Map K V :=
  if key ∈ map then map else map.insert key value

theorem lookup_insertNew_of_notMem {map : Map K V} {key : K}
    (value : V) (habsent : map.lookup key = none) (other : K) :
    (insertNew map key value).lookup other =
      if other = key then some value else map.lookup other := by
  have hnot : key ∉ map := AList.lookup_eq_none.mp habsent
  by_cases heq : other = key
  · subst heq
    simp [insertNew, hnot]
  · simp [insertNew, hnot, heq, AList.lookup_insert_ne]

theorem lookup_insertNew_ne (map : Map K V) {key other : K} (value : V)
    (hne : other ≠ key) : (insertNew map key value).lookup other = map.lookup other := by
  unfold insertNew
  split
  · rfl
  · exact AList.lookup_insert_ne hne

theorem lookup_insert (map : Map K V) (key other : K) (value : V) :
    (map.insert key value).lookup other =
      if other = key then some value else map.lookup other := by
  by_cases heq : other = key
  · subst heq
    simp
  · simp [heq, AList.lookup_insert_ne]

theorem lookup_erase (map : Map K V) (key other : K) :
    (map.erase key).lookup other =
      if other = key then none else map.lookup other := by
  by_cases heq : other = key
  · subst heq
    simp
  · simp [heq, AList.lookup_erase_ne]

/-- Taking back an insertion under a new key. -/
theorem erase_insert_of_notMem {map : Map K V} {key : K} (value : V)
    (habsent : map.lookup key = none) : (map.insert key value).erase key = map := by
  have hnot : key ∉ map.entries.keys := AList.lookup_eq_none.mp habsent
  apply AList.ext
  change List.kerase key (map.insert key value).entries = map.entries
  rw [AList.entries_insert_of_notMem hnot]
  exact List.kerase_cons_eq rfl

/-- Insert several entries, one after the other. -/
def insertAll (map : Map K V) (entries : List (K × V)) : Map K V :=
  entries.foldl (fun map entry => map.insert entry.1 entry.2) map

theorem lookup_insertAll_of_notMem {map : Map K V} {entries : List (K × V)} {key : K}
    (hother : key ∉ entries.map Prod.fst) :
    (insertAll map entries).lookup key = map.lookup key := by
  induction entries generalizing map with
  | nil => rfl
  | cons entry entries ih =>
      rw [List.map_cons, List.mem_cons, not_or] at hother
      rw [insertAll, List.foldl_cons, ← insertAll, ih hother.2,
        AList.lookup_insert_ne hother.1]

theorem lookup_insertAll_of_mem {map : Map K V} {entries : List (K × V)}
    (hnodup : (entries.map Prod.fst).Nodup) {entry : K × V} (hmem : entry ∈ entries) :
    (insertAll map entries).lookup entry.1 = some entry.2 := by
  induction entries generalizing map with
  | nil => cases hmem
  | cons head entries ih =>
      rw [List.map_cons, List.nodup_cons] at hnodup
      rw [insertAll, List.foldl_cons, ← insertAll]
      rcases List.mem_cons.mp hmem with rfl | hrest
      · rw [lookup_insertAll_of_notMem hnodup.1, AList.lookup_insert]
      · exact ih hnodup.2 hrest

/-! ## Totals over all entries -/

variable {M : Type*} [AddCommMonoid M]

/-- The weight of the entry under `key`; an absent key weighs nothing. -/
def weightAt (weight : K → V → M) (map : Map K V) (key : K) : M :=
  (map.lookup key).elim 0 (weight key)

/-- The total weight of all entries. -/
def total (weight : K → V → M) (map : Map K V) : M :=
  ∑ key ∈ map.keys.toFinset, weightAt weight map key

theorem weightAt_of_notMem {weight : K → V → M} {map : Map K V} {key : K}
    (habsent : key ∉ map.keys) : weightAt weight map key = 0 := by
  have hnone : map.lookup key = none := AList.lookup_eq_none.mpr habsent
  simp [weightAt, hnone]

/-- Summing over more keys than the map has does not change the total. -/
theorem total_eq_sum (weight : K → V → M) {map : Map K V}
    {keys : Finset K} (hkeys : map.keys.toFinset ⊆ keys) :
    total weight map = ∑ key ∈ keys, weightAt weight map key := by
  apply Finset.sum_subset hkeys
  intro key _ habsent
  exact weightAt_of_notMem fun hmem => habsent (List.mem_toFinset.mpr hmem)

/-- The total depends on the weight under each key only. -/
theorem total_congr {weight : K → V → M} {map map' : Map K V}
    (heq : ∀ key, weightAt weight map' key = weightAt weight map key) :
    total weight map' = total weight map := by
  have hsub' : map'.keys.toFinset ⊆ map'.keys.toFinset ∪ map.keys.toFinset :=
    Finset.subset_union_left
  have hsub : map.keys.toFinset ⊆ map'.keys.toFinset ∪ map.keys.toFinset :=
    Finset.subset_union_right
  rw [total_eq_sum weight hsub', total_eq_sum weight hsub]
  exact Finset.sum_congr rfl fun key _ => heq key

/-- Replacing what one key holds moves the total by the difference. -/
theorem total_exchange {weight : K → V → M} {map map' : Map K V} (key : K)
    (hother : ∀ other, other ≠ key →
      weightAt weight map' other = weightAt weight map other) :
    total weight map' + weightAt weight map key =
      total weight map + weightAt weight map' key := by
  let keys := insert key (map.keys.toFinset ∪ map'.keys.toFinset)
  have hmem : key ∈ keys := Finset.mem_insert_self _ _
  have hsub : map.keys.toFinset ⊆ keys :=
    Finset.subset_union_left.trans (Finset.subset_insert _ _)
  have hsub' : map'.keys.toFinset ⊆ keys :=
    Finset.subset_union_right.trans (Finset.subset_insert _ _)
  rw [total_eq_sum weight hsub, total_eq_sum weight hsub',
    ← Finset.add_sum_erase keys _ hmem, ← Finset.add_sum_erase keys _ hmem]
  have hrest : ∑ other ∈ keys.erase key, weightAt weight map' other =
      ∑ other ∈ keys.erase key, weightAt weight map other :=
    Finset.sum_congr rfl fun other hother' => hother other (Finset.ne_of_mem_erase hother')
  rw [hrest]
  abel

/-- An assignment adds the new value's weight and takes away the old one's. -/
theorem total_insert (weight : K → V → M) (map : Map K V) (key : K) (value : V) :
    total weight (map.insert key value) + weightAt weight map key =
      total weight map + weight key value := by
  have hweight : weightAt weight (map.insert key value) key = weight key value := by
    simp [weightAt]
  rw [← hweight]
  refine total_exchange key fun other hne => ?_
  rw [weightAt, AList.lookup_insert_ne hne, weightAt]

/-- Erasing takes away the weight of the entry. -/
theorem total_erase (weight : K → V → M) (map : Map K V) (key : K) :
    total weight (map.erase key) + weightAt weight map key = total weight map := by
  have hnone : weightAt weight (map.erase key) key = 0 := by simp [weightAt]
  rw [← add_zero (total weight map), ← hnone]
  refine total_exchange key fun other hne => ?_
  rw [weightAt, AList.lookup_erase_ne hne, weightAt]

/-- What one key holds, and the other entries. -/
theorem total_eq_add_erase {weight : K → V → M} {map : Map K V} {key : K} {value : V}
    (hlookup : map.lookup key = some value) :
    total weight map = weight key value + total weight (map.erase key) := by
  rw [← total_erase weight map key, weightAt, hlookup, add_comm]
  rfl

/-- A homomorphism maps the total weight to the total of the mapped weights. -/
theorem map_total {N : Type*} [AddCommMonoid N] (hom : M →+ N) (weight : K → V → M)
    (map : Map K V) :
    hom (total weight map) = total (fun key value => hom (weight key value)) map := by
  rw [total, total, map_sum]
  refine Finset.sum_congr rfl fun key _ => ?_
  rw [weightAt, weightAt]
  cases map.lookup key with
  | none => exact hom.map_zero
  | some value => rfl

/-- What a total of multisets contains. -/
theorem mem_total {A : Type*} {weight : K → V → Multiset A} {map : Map K V} {item : A} :
    item ∈ total weight map ↔ ∃ key, item ∈ weightAt weight map key := by
  rw [total, Multiset.mem_sum]
  constructor
  · rintro ⟨key, -, hmem⟩
    exact ⟨key, hmem⟩
  · rintro ⟨key, hmem⟩
    refine ⟨key, List.mem_toFinset.mpr ?_, hmem⟩
    by_contra habsent
    rw [weightAt_of_notMem habsent] at hmem
    exact Multiset.notMem_zero item hmem

/-- Some of the entries weigh at most as much as all of them. -/
theorem sum_weightAt_le {A : Type*} {weight : K → V → Multiset A} (map : Map K V)
    (keys : Finset K) : ∑ key ∈ keys, weightAt weight map key ≤ total weight map := by
  have hkeys : map.keys.toFinset ⊆ keys ∪ map.keys.toFinset := Finset.subset_union_right
  rw [total_eq_sum weight hkeys]
  exact Finset.sum_le_sum_of_subset Finset.subset_union_left

/-- A loop over the entries that takes at most a bounded amount from each key. -/
theorem coe_flatMap_entries_le {A : Type*} {map : Map K V}
    {items : (Σ _ : K, V) → List A} (bound : K → Multiset A)
    (hbound : ∀ entry ∈ map.entries, (items entry : Multiset A) ≤ bound entry.1) :
    (map.entries.flatMap items : Multiset A) ≤ ∑ key ∈ map.keys.toFinset, bound key := by
  rw [List.sum_toFinset bound map.keys_nodup, AList.keys, List.keys, List.map_map]
  generalize map.entries = entries at hbound
  induction entries with
  | nil => simp
  | cons entry entries ih =>
      rw [List.flatMap_cons, ← Multiset.coe_add, List.map_cons, List.sum_cons]
      exact add_le_add (hbound entry List.mem_cons_self)
        (ih fun other hmem => hbound other (List.mem_cons_of_mem _ hmem))

/-- A loop over the entries meets each entry once. -/
theorem coe_flatMap_entries {A : Type*} (map : Map K V) (items : (Σ _ : K, V) → List A) :
    (map.entries.flatMap items : Multiset A) =
      total (fun key value => (items ⟨key, value⟩ : Multiset A)) map := by
  have hweight : ∀ entry ∈ map.entries,
      weightAt (fun key value => (items ⟨key, value⟩ : Multiset A)) map entry.1 = items entry :=
    fun entry hmem => by rw [weightAt, AList.mem_lookup_iff.mpr hmem]; rfl
  rw [total, List.sum_toFinset _ map.keys_nodup, AList.keys, List.keys, List.map_map]
  generalize weightAt (fun key value => (items ⟨key, value⟩ : Multiset A)) map = weight
    at hweight ⊢
  generalize map.entries = entries at hweight
  induction entries with
  | nil => rfl
  | cons entry entries ih =>
      rw [List.flatMap_cons, ← Multiset.coe_add, List.map_cons, List.sum_cons,
        ih fun other hmem => hweight other (List.mem_cons_of_mem _ hmem), Function.comp_apply,
        hweight entry List.mem_cons_self]

/-! ## Rows in the order of the keys -/

section Rows

variable {W : Type*} {map : Map K V} {row : K → V → W} {keys : List K}

/-- A loop that looks up keys of the map makes a row for each. -/
theorem map_filterMap_lookup {key : W → K} (hkey : ∀ name value, key (row name value) = name)
    (hkeys : ∀ name ∈ keys, name ∈ map) :
    (keys.filterMap fun name => (map.lookup name).map (row name)).map key = keys := by
  induction keys with
  | nil => rfl
  | cons name keys ih =>
      obtain ⟨value, hvalue⟩ :=
        Option.isSome_iff_exists.mp (AList.lookup_isSome.mpr (hkeys name List.mem_cons_self))
      rw [List.filterMap_cons, hvalue, Option.map_some, List.map_cons, hkey,
        ih fun other hmem => hkeys other (List.mem_cons_of_mem _ hmem)]

/-- What such a loop makes a row of. -/
theorem mem_filterMap_lookup {found : W} :
    (found ∈ keys.filterMap fun name => (map.lookup name).map (row name)) ↔
      ∃ name ∈ keys, ∃ value, map.lookup name = some value ∧ row name value = found := by
  simp only [List.mem_filterMap, Option.map_eq_some_iff]

end Rows

/-- Grouping pairs by their keys loses none of them. -/
theorem sum_groups {A W : Type*} (item : K × W → A) {keys : Finset K}
    {pairs : List (K × W)} (hkeys : ∀ pair ∈ pairs, pair.1 ∈ keys) :
    ∑ key ∈ keys, (((pairs.filter (·.1 = key)).map item : List A) : Multiset A) =
      (pairs.map item : List A) := by
  induction pairs with
  | nil => simp
  | cons pair pairs ih =>
      have hsplit : ∀ key, ((((pair :: pairs).filter (·.1 = key)).map item : List A) :
          Multiset A) = (if pair.1 = key then {item pair} else 0) +
            ((pairs.filter (·.1 = key)).map item : List A) := by
        intro key
        by_cases hkey : pair.1 = key
        · simp [hkey, ← Multiset.cons_coe, ← Multiset.singleton_add]
        · simp [hkey]
      rw [Finset.sum_congr rfl fun key _ => hsplit key, Finset.sum_add_distrib,
        ih fun other hmem => hkeys other (List.mem_cons_of_mem _ hmem),
        Finset.sum_ite_eq, if_pos (hkeys pair List.mem_cons_self), List.map_cons,
        ← Multiset.cons_coe, Multiset.singleton_add]

/-- A map that holds the pairs grouped by their keys weighs as much as the pairs. -/
theorem total_groups {A W : Type*} {weight : K → V → Multiset A} {map : Map K V}
    (item : K × W → A) {pairs : List (K × W)}
    (hgroups : ∀ key, weightAt weight map key =
      ((pairs.filter (·.1 = key)).map item : List A)) :
    total weight map = (pairs.map item : List A) := by
  rw [total, Finset.sum_congr rfl fun key _ => hgroups key]
  refine sum_groups item fun pair hmem => List.mem_toFinset.mpr ?_
  by_contra habsent
  have hgroup := hgroups pair.1
  rw [weightAt_of_notMem habsent, eq_comm, Multiset.coe_eq_zero, List.map_eq_nil_iff,
    List.filter_eq_nil_iff] at hgroup
  exact hgroup pair hmem (by simp)

end DriveBus.UnorderedMap
