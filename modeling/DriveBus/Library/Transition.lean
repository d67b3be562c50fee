import Mathlib.Logic.Basic

/-!
# Executable transition systems

A system is an initial state together with a partial step function; `none`
means that the action is not enabled.  Environment choices are part of the
action, so every run is determined by its list of actions.  `ReachableWith`
restricts the runs to those whose steps all meet a side condition, and an
invariant is proved once per step.
-/

namespace DriveBus.Transition

/-- A deterministic labelled transition system with partial steps. -/
structure System (State Action : Type*) where
  initial : State
  next : State → Action → Option State

namespace System

variable {State Action : Type*} (sys : System State Action)
variable {allowed weaker : State → Action → Prop}

/-- States reached by runs all of whose steps satisfy `allowed`. -/
inductive ReachableWith (allowed : State → Action → Prop) : State → Prop
  | initial : ReachableWith allowed sys.initial
  | step {state state' : State} {action : Action} :
      ReachableWith allowed state → allowed state action →
      sys.next state action = some state' → ReachableWith allowed state'

/-- States reached by any run. -/
abbrev Reachable : State → Prop := sys.ReachableWith fun _ _ => True

/-- Run a list of actions, stopping at the first one that is not enabled. -/
def run : State → List Action → Option State
  | state, [] => some state
  | state, action :: actions => (sys.next state action).bind (run · actions)

/-- Run a list of actions, stopping also at the first one that the guard refuses. -/
def guardedRun (guard : State → Action → Bool) : State → List Action → Option State
  | state, [] => some state
  | state, action :: actions =>
      if guard state action then
        (sys.next state action).bind (guardedRun guard · actions)
      else none

variable {sys}

/-- An invariant established initially and preserved by every allowed step
holds in every state such runs reach. -/
theorem ReachableWith.invariant (Inv : State → Prop) (hinitial : Inv sys.initial)
    (hstep : ∀ state action state', Inv state → allowed state action →
      sys.next state action = some state' → Inv state')
    {state : State} (hreach : sys.ReachableWith allowed state) : Inv state := by
  induction hreach with
  | initial => exact hinitial
  | step _ hallowed hnext ih => exact hstep _ _ _ ih hallowed hnext

/-- Weakening the side condition only adds runs. -/
theorem ReachableWith.mono
    (hweaken : ∀ state action, allowed state action → weaker state action)
    {state : State} (hreach : sys.ReachableWith allowed state) :
    sys.ReachableWith weaker state := by
  induction hreach with
  | initial => exact .initial
  | step _ hallowed hnext ih => exact .step ih (hweaken _ _ hallowed) hnext

theorem ReachableWith.reachable {state : State}
    (hreach : sys.ReachableWith allowed state) : sys.Reachable state :=
  hreach.mono fun _ _ _ => trivial

/-- Where every allowed step is an allowed step of a projection, or leaves the projection as
it is, runs project to runs. -/
theorem ReachableWith.project {Image Label : Type*} {image : System Image Label}
    {permitted : Image → Label → Prop} (project : State → Image)
    (hinitial : project sys.initial = image.initial)
    (hstep : ∀ state action state', allowed state action →
      sys.next state action = some state' →
        project state' = project state ∨ ∃ label, permitted (project state) label ∧
          image.next (project state) label = some (project state'))
    {state : State} (hreach : sys.ReachableWith allowed state) :
    image.ReachableWith permitted (project state) := by
  induction hreach with
  | initial => exact hinitial ▸ .initial
  | step _ hallowed hnext ih =>
      obtain hsame | ⟨label, hlabel, himage⟩ := hstep _ _ _ hallowed hnext
      · exact hsame ▸ ih
      · exact ih.step hlabel himage

/-- The final state of a list of actions, each allowed where it is taken. -/
theorem ReachableWith.run {state final : State} {actions : List Action}
    (hreach : sys.ReachableWith allowed state)
    (hallowed : ∀ state, ∀ action ∈ actions, allowed state action)
    (hrun : sys.run state actions = some final) :
    sys.ReachableWith allowed final := by
  induction actions generalizing state with
  | nil =>
      simp only [System.run, Option.some.injEq] at hrun
      exact hrun ▸ hreach
  | cons action actions ih =>
      simp only [System.run, Option.bind_eq_some_iff] at hrun
      obtain ⟨state', hnext, hrest⟩ := hrun
      have hhead : allowed state action := hallowed state action (by simp)
      exact ih (hreach.step hhead hnext)
        (fun later other hmem => hallowed later other (by simp [hmem])) hrest

/-- The final state of a list of actions that passed a guard implying the condition. -/
theorem ReachableWith.guardedRun {guard : State → Action → Bool} {state final : State}
    {actions : List Action} (hreach : sys.ReachableWith allowed state)
    (hguard : ∀ state action, guard state action = true → allowed state action)
    (hrun : sys.guardedRun guard state actions = some final) :
    sys.ReachableWith allowed final := by
  induction actions generalizing state with
  | nil =>
      simp only [System.guardedRun, Option.some.injEq] at hrun
      exact hrun ▸ hreach
  | cons action actions ih =>
      simp only [System.guardedRun, Option.ite_none_right_eq_some,
        Option.bind_eq_some_iff] at hrun
      obtain ⟨hpassed, state', hnext, hrest⟩ := hrun
      exact ih (hreach.step (hguard state action hpassed) hnext) hrest

end System

end DriveBus.Transition
