import Mathlib.Data.Finset.Erase
import Mathlib.Data.Finset.Insert
import Mathlib.Data.Multiset.Filter
import Mathlib.Data.Multiset.OrderedMonoid

/-!
# Guarded scopes

A function acquires things one after the other and guards each of them; when it fails, its
guards give back what it has acquired, the last one first.  A kernel hands out only what is
not in use.  The books balance when everything in use is owed by one guard or one object:
then nothing is lost, and nothing is given back twice.
-/

namespace DriveBus.GuardedScope

universe u

variable {Resource Name ε : Type} {α β : Type u}

/-! ## The kernel -/

/-- What a destructor does: it gives back a resource, or it removes a name, whoever has
created it. -/
inductive Cleanup (Resource Name : Type)
  | release (resource : Resource)
  | unlink (name : Name)
  deriving DecidableEq

/-- What is in use, which names exist, and, as history, what was given back without being
in use. -/
structure Kernel (Resource Name : Type) where
  inUse : Finset Resource
  names : Finset Name
  stray : List Resource

def Cleanup.resource : Cleanup Resource Name → Option Resource
  | .release resource => some resource
  | .unlink _ => none

def Cleanup.name : Cleanup Resource Name → Option Name
  | .release _ => none
  | .unlink name => some name

namespace Kernel

def initial : Kernel Resource Name where
  inUse := ∅
  names := ∅
  stray := []

/-- Nothing that is in use is handed out. -/
def take [DecidableEq Resource] (kernel : Kernel Resource Name) (resource : Resource) :
    Option (Kernel Resource Name) :=
  if resource ∈ kernel.inUse then none
  else some { kernel with inUse := insert resource kernel.inUse }

def takeAll [DecidableEq Resource] (kernel : Kernel Resource Name)
    (resources : List Resource) : Option (Kernel Resource Name) :=
  resources.foldlM take kernel

def addName [DecidableEq Name] (kernel : Kernel Resource Name) (name : Name) :
    Kernel Resource Name :=
  { kernel with names := insert name kernel.names }

def clean [DecidableEq Resource] [DecidableEq Name] (kernel : Kernel Resource Name) :
    Cleanup Resource Name → Kernel Resource Name
  | .release resource =>
      if resource ∈ kernel.inUse then { kernel with inUse := kernel.inUse.erase resource }
      else { kernel with stray := kernel.stray ++ [resource] }
  | .unlink name => { kernel with names := kernel.names.erase name }

def cleanAll [DecidableEq Resource] [DecidableEq Name] (kernel : Kernel Resource Name)
    (cleanups : List (Cleanup Resource Name)) : Kernel Resource Name :=
  cleanups.foldl clean kernel

/-- What is in use is owed once, every name is owed, and nothing was given back that was
not in use. -/
structure Owes (kernel : Kernel Resource Name) (owed : Multiset (Cleanup Resource Name)) :
    Prop where
  inUse : kernel.inUse.val = owed.filterMap Cleanup.resource
  names : ∀ name ∈ kernel.names, Cleanup.unlink name ∈ owed
  stray : kernel.stray = []

end Kernel

namespace Kernel.Owes

variable {kernel kernel' : Kernel Resource Name} {owed : Multiset (Cleanup Resource Name)}

theorem initial : (Kernel.initial : Kernel Resource Name).Owes 0 :=
  ⟨rfl, fun _ hmem => absurd hmem (Finset.notMem_empty _), rfl⟩

@[simp]
theorem filterMap_resource_release (resource : Resource)
    (owed : Multiset (Cleanup Resource Name)) :
    (Cleanup.release resource ::ₘ owed).filterMap Cleanup.resource =
      resource ::ₘ owed.filterMap Cleanup.resource :=
  Multiset.filterMap_cons_some _ _ _ rfl

@[simp]
theorem filterMap_resource_unlink (name : Name) (owed : Multiset (Cleanup Resource Name)) :
    (Cleanup.unlink name ::ₘ owed).filterMap Cleanup.resource =
      owed.filterMap Cleanup.resource :=
  Multiset.filterMap_cons_none _ _ rfl

theorem take [DecidableEq Resource] (howes : kernel.Owes owed) {resource : Resource}
    (htake : kernel.take resource = some kernel') :
    kernel'.Owes (.release resource ::ₘ owed) := by
  rw [Kernel.take] at htake
  split at htake
  · cases htake
  next hfree =>
    obtain rfl := Option.some.inj htake
    refine ⟨?_, fun name hmem => Multiset.mem_cons_of_mem (howes.names name hmem),
      howes.stray⟩
    rw [filterMap_resource_release, ← howes.inUse]
    exact Finset.insert_val_of_notMem hfree

theorem takeAll [DecidableEq Resource] (howes : kernel.Owes owed) {resources : List Resource}
    (htake : kernel.takeAll resources = some kernel') :
    kernel'.Owes ((resources.map .release : List (Cleanup Resource Name)) + owed) := by
  induction resources generalizing kernel owed with
  | nil =>
      obtain rfl := Option.some.inj htake
      rwa [List.map_nil, Multiset.coe_nil, zero_add]
  | cons resource resources ih =>
      rw [Kernel.takeAll, List.foldlM_cons] at htake
      obtain ⟨middle, hfirst, hrest⟩ := Option.bind_eq_some_iff.mp htake
      have hafter := ih (howes.take hfirst) hrest
      rwa [Multiset.add_cons, ← Multiset.cons_add, Multiset.cons_coe] at hafter

theorem addName [DecidableEq Name] (howes : kernel.Owes owed) (name : Name) :
    (kernel.addName name).Owes (.unlink name ::ₘ owed) := by
  refine ⟨?_, fun other hmem => ?_, howes.stray⟩
  · rw [filterMap_resource_unlink]
    exact howes.inUse
  · obtain rfl | hold := Finset.mem_insert.mp hmem
    · exact Multiset.mem_cons_self _ _
    · exact Multiset.mem_cons_of_mem (howes.names other hold)

variable [DecidableEq Resource] [DecidableEq Name]

/-- A name may be removed by anyone. -/
theorem unlink (howes : kernel.Owes owed) (name : Name) :
    (kernel.clean (.unlink name)).Owes owed :=
  ⟨howes.inUse, fun other hmem => howes.names other (Finset.mem_of_mem_erase hmem),
    howes.stray⟩

/-- One cleanup that is owed. -/
theorem clean {cleanup : Cleanup Resource Name} (howes : kernel.Owes (cleanup ::ₘ owed)) :
    (kernel.clean cleanup).Owes owed := by
  cases cleanup with
  | release resource =>
      have hval := howes.inUse
      rw [filterMap_resource_release] at hval
      have hmem : resource ∈ kernel.inUse := by
        rw [← Finset.mem_val, hval]
        exact Multiset.mem_cons_self _ _
      rw [Kernel.clean, if_pos hmem]
      refine ⟨?_, fun name hname => ?_, howes.stray⟩
      · rw [Finset.erase_val, hval, Multiset.erase_cons_head]
      · exact (Multiset.mem_cons.mp (howes.names name hname)).resolve_left nofun
  | unlink name =>
      have hval := howes.inUse
      rw [filterMap_resource_unlink] at hval
      refine ⟨hval, fun other hother => ?_, howes.stray⟩
      obtain ⟨hne, hmem⟩ := Finset.mem_erase.mp hother
      refine (Multiset.mem_cons.mp (howes.names other hmem)).resolve_left fun heq => hne ?_
      injection heq

/-- Everything that a scope or an object owes, in the order it chooses. -/
theorem cleanAll {cleanups : List (Cleanup Resource Name)}
    (howes : kernel.Owes ((cleanups : Multiset (Cleanup Resource Name)) + owed)) :
    (kernel.cleanAll cleanups).Owes owed := by
  induction cleanups generalizing kernel with
  | nil => rwa [Multiset.coe_nil, zero_add] at howes
  | cons cleanup cleanups ih =>
      rw [← Multiset.cons_coe, Multiset.cons_add] at howes
      exact ih howes.clean

end Kernel.Owes

/-! ## Scopes -/

/-- The kernel and the guards of a running function, the innermost first. -/
structure Frame (Resource Name : Type) where
  kernel : Kernel Resource Name
  guards : List (Cleanup Resource Name)

/-- A function with guards, which may fail; there is no run in which the kernel hands out
what is in use. -/
def Scoped (Resource Name ε : Type) (α : Type u) : Type u :=
  Frame Resource Name → Option (Except ε α × Frame Resource Name)

namespace Scoped

instance instMonad : Monad (Scoped Resource Name ε) where
  pure value frame := some (.ok value, frame)
  bind program next frame := (program frame).bind fun (result, frame) =>
    match result with
    | .error error => some (.error error, frame)
    | .ok value => next value frame

/-- A call that gives the number of a resource, which is guarded, or fails. -/
def acquire [DecidableEq Resource] (wrap : α → Resource) (answer : Option α) (error : ε) :
    Scoped Resource Name ε α := fun frame =>
  match answer with
  | none => some (.error error, frame)
  | some number => (frame.kernel.take (wrap number)).map fun kernel =>
      (.ok number, ⟨kernel, .release (wrap number) :: frame.guards⟩)

/-- A call that only succeeds or fails. -/
def check (succeeds : Bool) (error : ε) : Scoped Resource Name ε Unit := fun frame =>
  some (if succeeds then .ok () else .error error, frame)

def createName [DecidableEq Name] (name : Name) : Scoped Resource Name ε Unit := fun frame =>
  some (.ok (), ⟨frame.kernel.addName name, .unlink name :: frame.guards⟩)

def unlinkName [DecidableEq Resource] [DecidableEq Name] (name : Name) :
    Scoped Resource Name ε Unit := fun frame =>
  some (.ok (), { frame with kernel := frame.kernel.clean (.unlink name) })

/-- A function with a scope of its own.  When it fails its guards clean up; what it returns
is guarded anew by its caller. -/
def call [DecidableEq Resource] [DecidableEq Name] (program : Scoped Resource Name ε α)
    (guard : α → List (Cleanup Resource Name)) : Scoped Resource Name ε α := fun frame =>
  (program ⟨frame.kernel, []⟩).map fun (result, inner) =>
    match result with
    | .error error =>
        (.error error, { frame with kernel := inner.kernel.cleanAll inner.guards })
    | .ok value => (.ok value, ⟨inner.kernel, guard value ++ frame.guards⟩)

/-- The outermost scope: it hands over what its guards have kept. -/
def run [DecidableEq Resource] [DecidableEq Name] (program : Scoped Resource Name ε α)
    (kernel : Kernel Resource Name) : Option (Except ε α × Kernel Resource Name) :=
  (program ⟨kernel, []⟩).map fun (result, frame) =>
    match result with
    | .error error => (.error error, frame.kernel.cleanAll frame.guards)
    | .ok value => (.ok value, frame.kernel)

/-- Whatever else is owed, a function guards all that it acquires, and a value comes with
what `post` says is guarded for it. -/
def Guards (program : Scoped Resource Name ε α)
    (post : α → List (Cleanup Resource Name) → Prop) : Prop :=
  ∀ (frame : Frame Resource Name) (owed : Multiset (Cleanup Resource Name))
    (result : Except ε α) (frame' : Frame Resource Name),
    frame.kernel.Owes ((frame.guards : Multiset (Cleanup Resource Name)) + owed) →
    program frame = some (result, frame') →
      frame'.kernel.Owes ((frame'.guards : Multiset (Cleanup Resource Name)) + owed) ∧
      ∃ added, frame'.guards = added ++ frame.guards ∧
        ∀ value, result = .ok value → post value added

namespace Guards

variable {post : α → List (Cleanup Resource Name) → Prop}

theorem pure {value : α} (hpost : post value []) :
    Guards (Pure.pure value : Scoped Resource Name ε α) post := by
  intro frame owed result frame' howes hrun
  obtain ⟨rfl, rfl⟩ := Prod.mk.inj (Option.some.inj hrun)
  exact ⟨howes, [], rfl, by rintro _ ⟨⟩; exact hpost⟩

theorem bind {program : Scoped Resource Name ε α} {next : α → Scoped Resource Name ε β}
    {final : β → List (Cleanup Resource Name) → Prop} (hprogram : program.Guards post)
    (hnext : ∀ value added, post value added →
      (next value).Guards fun value' more => final value' (more ++ added)) :
    (program >>= next).Guards final := by
  intro frame owed result frame' howes hrun
  obtain ⟨⟨middle, frameMiddle⟩, hfirst, hrest⟩ := Option.bind_eq_some_iff.mp hrun
  obtain ⟨howesMiddle, added, hadded, hpost⟩ := hprogram frame owed _ _ howes hfirst
  cases middle with
  | error error =>
      obtain ⟨rfl, rfl⟩ := Prod.mk.inj (Option.some.inj hrest)
      exact ⟨howesMiddle, added, hadded, by rintro _ ⟨⟩⟩
  | ok value =>
      obtain ⟨howes', more, hmore, hfinal⟩ :=
        hnext value added (hpost value rfl) frameMiddle owed _ _ howesMiddle hrest
      exact ⟨howes', more ++ added, by rw [hmore, hadded, List.append_assoc], hfinal⟩

theorem acquire [DecidableEq Resource] (wrap : α → Resource) (answer : Option α) (error : ε) :
    Guards (Scoped.acquire wrap answer error : Scoped Resource Name ε α)
      fun number added => added = [.release (wrap number)] := by
  intro frame owed result frame' howes hrun
  cases answer with
  | none =>
      obtain ⟨rfl, rfl⟩ := Prod.mk.inj (Option.some.inj hrun)
      exact ⟨howes, [], rfl, by rintro _ ⟨⟩⟩
  | some number =>
      obtain ⟨kernel, htake, heq⟩ := Option.map_eq_some_iff.mp hrun
      obtain ⟨rfl, rfl⟩ := Prod.mk.inj heq
      refine ⟨?_, [.release (wrap number)], rfl, by rintro _ ⟨⟩; rfl⟩
      have hafter := howes.take htake
      rwa [← Multiset.cons_add] at hafter

theorem check (succeeds : Bool) (error : ε) :
    Guards (Scoped.check succeeds error : Scoped Resource Name ε Unit)
      fun _ added => added = [] := by
  intro frame owed result frame' howes hrun
  obtain ⟨rfl, rfl⟩ := Prod.mk.inj (Option.some.inj hrun)
  exact ⟨howes, [], rfl, fun _ _ => rfl⟩

theorem createName [DecidableEq Name] (name : Name) :
    Guards (Scoped.createName name : Scoped Resource Name ε Unit)
      fun _ added => added = [.unlink name] := by
  intro frame owed result frame' howes hrun
  obtain ⟨rfl, rfl⟩ := Prod.mk.inj (Option.some.inj hrun)
  refine ⟨?_, [.unlink name], rfl, fun _ _ => rfl⟩
  have hafter := howes.addName name
  rwa [← Multiset.cons_add] at hafter

variable [DecidableEq Resource] [DecidableEq Name]

theorem unlinkName (name : Name) :
    Guards (Scoped.unlinkName name : Scoped Resource Name ε Unit)
      fun _ added => added = [] := by
  intro frame owed result frame' howes hrun
  obtain ⟨rfl, rfl⟩ := Prod.mk.inj (Option.some.inj hrun)
  exact ⟨howes.unlink name, [], rfl, fun _ _ => rfl⟩

/-- What the called function has guarded is what its caller guards. -/
theorem call {program : Scoped Resource Name ε α} {guard : α → List (Cleanup Resource Name)}
    (hprogram : program.Guards fun value added => (guard value).Perm added) :
    (Scoped.call program guard).Guards fun value added => added = guard value := by
  intro frame owed result frame' howes hrun
  obtain ⟨⟨middle, inner⟩, hinner, heq⟩ := Option.map_eq_some_iff.mp hrun
  have hstart : (⟨frame.kernel, []⟩ : Frame Resource Name).kernel.Owes
      ((([] : List (Cleanup Resource Name)) : Multiset (Cleanup Resource Name)) +
        (frame.guards + owed)) := by
    rwa [Multiset.coe_nil, zero_add]
  obtain ⟨howes', added, hadded, hpost⟩ := hprogram _ _ _ _ hstart hinner
  rw [List.append_nil] at hadded
  cases middle with
  | error error =>
      obtain ⟨rfl, rfl⟩ := Prod.mk.inj heq
      exact ⟨howes'.cleanAll, [], rfl, by rintro _ ⟨⟩⟩
  | ok value =>
      obtain ⟨rfl, rfl⟩ := Prod.mk.inj heq
      refine ⟨?_, guard value, rfl, by rintro _ ⟨⟩; rfl⟩
      rw [hadded, ← Multiset.coe_eq_coe.mpr (hpost value rfl),
        ← add_assoc, Multiset.coe_add] at howes'
      exact howes'

/-- A function that fails leaves the books as they were; one that returns hands over what
it has guarded. -/
theorem run {program : Scoped Resource Name ε α} (hprogram : program.Guards post)
    {kernel kernel' : Kernel Resource Name} {owed : Multiset (Cleanup Resource Name)}
    (howes : kernel.Owes owed) {result : Except ε α}
    (hrun : program.run kernel = some (result, kernel')) :
    (∃ error, result = .error error ∧ kernel'.Owes owed) ∨
      ∃ value guards, result = .ok value ∧ post value guards ∧
        kernel'.Owes ((guards : Multiset (Cleanup Resource Name)) + owed) := by
  obtain ⟨⟨middle, frame⟩, hframe, heq⟩ := Option.map_eq_some_iff.mp hrun
  obtain ⟨howes', added, hadded, hpost⟩ :=
    hprogram _ owed _ _ (by rwa [Multiset.coe_nil, zero_add]) hframe
  rw [List.append_nil] at hadded
  cases middle with
  | error error =>
      obtain ⟨rfl, rfl⟩ := Prod.mk.inj heq
      exact .inl ⟨error, rfl, howes'.cleanAll⟩
  | ok value =>
      obtain ⟨rfl, rfl⟩ := Prod.mk.inj heq
      exact .inr ⟨value, added, rfl, hpost value rfl, hadded ▸ howes'⟩

end Guards

end Scoped

end DriveBus.GuardedScope
