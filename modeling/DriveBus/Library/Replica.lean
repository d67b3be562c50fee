import Mathlib.Data.List.Monad
import Mathlib.Data.Multiset.MapFold

/-!
# Replicas behind a channel

A replica applies the records of a FIFO channel one at a time, and a record that
does not apply stops it.  `replay` is the state that the replica comes to once
the channel is drained: sending extends the channel and delivering shortens it,
and neither changes where the replay ends unless something new was sent.

A keyed table is the replica that matters here: its records insert a key that is
not there or remove one that is.  `Lists` compares it with the entries of the
original.
-/

namespace DriveBus.Replica

/-! ## Replays -/

section Replay

variable {σ μ : Type*} {apply : σ → μ → Option σ}

/-- The state after all records of the channel, if each of them applies. -/
def replay (apply : σ → μ → Option σ) (state : σ) (channel : List μ) : Option σ :=
  channel.foldlM apply state

@[simp]
theorem replay_nil (state : σ) : replay apply state [] = some state := rfl

theorem replay_append (state : σ) (left right : List μ) :
    replay apply state (left ++ right) =
      (replay apply state left).bind fun middle => replay apply middle right :=
  List.foldlM_append

/-- Sending moves the end of the replay as it moves the original. -/
theorem replay_send {state final final' : σ} {channel sent : List μ}
    (hchannel : replay apply state channel = some final)
    (hsent : replay apply final sent = some final') :
    replay apply state (channel ++ sent) = some final' := by
  rw [replay_append, hchannel, Option.bind_some, hsent]

/-- A record that is delivered applies, and the replay still ends where it did. -/
theorem replay_deliver {state final : σ} {record : μ} {channel : List μ}
    (hreplay : replay apply state (record :: channel) = some final) :
    ∃ state', apply state record = some state' ∧
      replay apply state' channel = some final := by
  rw [replay, List.foldlM_cons] at hreplay
  exact Option.bind_eq_some_iff.mp hreplay

end Replay

/-! ## Keyed tables -/

variable {K V : Type*}

abbrev Table (K V : Type*) := K → Option V

inductive Update (K V : Type*)
  | insert (key : K) (value : V)
  | remove (key : K)

/-- An update applies to a table that does not have its key, or does, respectively. -/
def Table.apply [DecidableEq K] (table : Table K V) : Update K V → Option (Table K V)
  | .insert key value =>
      if table key = none then some (Function.update table key (some value)) else none
  | .remove key =>
      if table key = none then none else some (Function.update table key none)

/-- The table with its values seen through a function. -/
def Table.map {W : Type*} (f : V → W) (table : Table K V) : Table K W :=
  fun key => (table key).map f

def Update.map {W : Type*} (f : V → W) : Update K V → Update K W
  | .insert key value => .insert key (f value)
  | .remove key => .remove key

theorem Table.map_update [DecidableEq K] {W : Type*} (f : V → W) (table : Table K V) (key : K)
    (found : Option V) :
    Table.map f (Function.update table key found) =
      Function.update (table.map f) key (found.map f) := by
  funext other
  by_cases hother : other = key
  · subst hother
    simp [Table.map]
  · simp [Table.map, hother]

/-- The table has the given entries, under distinct keys. -/
structure Lists (table : Table K V) (entries : Multiset (K × V)) : Prop where
  nodup : (entries.map Prod.fst).Nodup
  eq_some_iff : ∀ key value, table key = some value ↔ (key, value) ∈ entries

namespace Lists

variable {table : Table K V} {entries : Multiset (K × V)} {key : K} {value : V}

theorem empty : Lists (fun _ => none : Table K V) 0 where
  nodup := Multiset.nodup_zero
  eq_some_iff key value := by simp

theorem eq_none_iff (hlists : Lists table entries) :
    table key = none ↔ key ∉ entries.map Prod.fst := by
  rw [Option.eq_none_iff_forall_ne_some]
  simp [hlists.eq_some_iff]

theorem map {W : Type*} (f : V → W) (hlists : Lists table entries) :
    Lists (table.map f) (entries.map fun entry => (entry.1, f entry.2)) where
  nodup := by
    rw [Multiset.map_map]
    exact hlists.nodup
  eq_some_iff key value := by
    rw [Table.map, Option.map_eq_some_iff, Multiset.mem_map]
    constructor
    · rintro ⟨found, hfound, rfl⟩
      exact ⟨(key, found), (hlists.eq_some_iff key found).mp hfound, rfl⟩
    · rintro ⟨⟨_, found⟩, hmem, heq⟩
      obtain ⟨rfl, rfl⟩ := Prod.mk.inj heq
      exact ⟨found, (hlists.eq_some_iff _ found).mpr hmem, rfl⟩

variable [DecidableEq K]

theorem insert (hlists : Lists table entries) (value : V)
    (hnew : key ∉ entries.map Prod.fst) :
    ∃ table', table.apply (.insert key value) = some table' ∧
      Lists table' ((key, value) ::ₘ entries) := by
  refine ⟨_, if_pos (hlists.eq_none_iff.mpr hnew), ?_, fun other found => ?_⟩
  · rw [Multiset.map_cons]
    exact Multiset.nodup_cons.mpr ⟨hnew, hlists.nodup⟩
  · rw [Multiset.mem_cons, Function.update_apply]
    by_cases hkey : other = key
    · have hmissing : (key, found) ∉ entries := fun hmem =>
        hnew (Multiset.mem_map.mpr ⟨(key, found), hmem, rfl⟩)
      simp [hkey, hmissing, eq_comm]
    · simp [hkey, hlists.eq_some_iff]

theorem remove (hlists : Lists table ((key, value) ::ₘ entries)) :
    ∃ table', table.apply (.remove key) = some table' ∧ Lists table' entries := by
  have hnodup := hlists.nodup
  rw [Multiset.map_cons, Multiset.nodup_cons] at hnodup
  have hfound : table key = some value :=
    (hlists.eq_some_iff key value).mpr (Multiset.mem_cons_self _ _)
  refine ⟨_, if_neg (by simp [hfound]), hnodup.2, fun other found => ?_⟩
  rw [Function.update_apply]
  by_cases hkey : other = key
  · have hmissing : (key, found) ∉ entries := fun hmem =>
      hnodup.1 (Multiset.mem_map.mpr ⟨(key, found), hmem, rfl⟩)
    simp [hkey, hmissing]
  · simp [hkey, hlists.eq_some_iff]

/-- Inserting a list of entries under keys that are all new and distinct. -/
theorem replay_insert (hlists : Lists table entries) {new : List (K × V)}
    (hnodup : ((entries + new).map Prod.fst).Nodup) :
    ∃ table', replay Table.apply table (new.map fun entry => .insert entry.1 entry.2) =
      some table' ∧ Lists table' (entries + new) := by
  induction new generalizing table entries with
  | nil => exact ⟨table, rfl, by simpa using hlists⟩
  | cons entry new ih =>
      obtain ⟨key, value⟩ := entry
      have hshift : entries + ((key, value) :: new : List (K × V)) =
          ((key, value) ::ₘ entries) + (new : Multiset (K × V)) := by
        rw [← Multiset.cons_coe, Multiset.add_cons, Multiset.cons_add]
      rw [hshift] at hnodup ⊢
      have hnew : key ∉ entries.map Prod.fst := by
        rw [Multiset.cons_add, Multiset.map_cons, Multiset.nodup_cons,
          Multiset.map_add] at hnodup
        exact fun hmem => hnodup.1 (Multiset.mem_add.mpr (.inl hmem))
      obtain ⟨middle, hmiddle, hmiddleLists⟩ := hlists.insert value hnew
      obtain ⟨final, hfinal, hfinalLists⟩ := ih hmiddleLists hnodup
      refine ⟨final, ?_, hfinalLists⟩
      rw [List.map_cons, replay, List.foldlM_cons, hmiddle]
      exact hfinal

/-- Removing the keys of some of the entries. -/
theorem replay_remove {old : List (K × V)} (hlists : Lists table (entries + old)) :
    ∃ table', replay Table.apply table (old.map fun entry => .remove entry.1) =
      some table' ∧ Lists table' entries := by
  induction old generalizing table with
  | nil => exact ⟨table, rfl, by simpa using hlists⟩
  | cons entry old ih =>
      obtain ⟨key, value⟩ := entry
      rw [← Multiset.cons_coe, Multiset.add_cons] at hlists
      obtain ⟨middle, hmiddle, hmiddleLists⟩ := hlists.remove
      obtain ⟨final, hfinal, hfinalLists⟩ := ih hmiddleLists
      refine ⟨final, ?_, hfinalLists⟩
      rw [List.map_cons, replay, List.foldlM_cons, hmiddle]
      exact hfinal

end Lists

end DriveBus.Replica
