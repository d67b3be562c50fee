import Mathlib.Data.List.Basic

/-!
# Contracts of computations that may stop

A computation in `Except` either returns a value or stops for a reason.
`Meets` is its total contract: a postcondition on the value and a condition on
the reason.  The rules compose contracts along a sequence of computations and
along a loop, whose invariant speaks of the items already processed.
-/

namespace DriveBus.Contract

universe u

variable {ε : Type*} {α β σ : Type u}

/-! ## Primitive computations -/

/-- The value of a lookup, stopping for `reason` if there is none. -/
def orStop (found : Option α) (reason : ε) : Except ε α :=
  match found with
  | some value => .ok value
  | none => .error reason

/-- Stop for `reason` unless the condition holds. -/
def require (condition : Prop) [Decidable condition] (reason : ε) :
    Except ε Unit :=
  if condition then .ok () else .error reason

/-! ## Loops that stop -/

/-- A loop that stops has processed some items and stops at the next one. -/
theorem foldlM_error {τ : Type*} {items : List τ} {body : σ → τ → Except ε σ} {state : σ}
    {reason : ε} (hstops : items.foldlM body state = .error reason) :
    ∃ done item rest state', items = done ++ item :: rest ∧
      done.foldlM body state = .ok state' ∧ body state' item = .error reason := by
  induction items generalizing state with
  | nil => cases hstops
  | cons item items ih =>
      rw [List.foldlM_cons] at hstops
      cases hbody : body state item with
      | error other =>
          rw [hbody] at hstops
          obtain rfl : other = reason := Except.error.inj hstops
          exact ⟨[], item, items, state, rfl, rfl, hbody⟩
      | ok state' =>
          rw [hbody] at hstops
          obtain ⟨done, next, rest, final, rfl, hdone, hnext⟩ := ih hstops
          refine ⟨item :: done, next, rest, final, rfl, ?_, hnext⟩
          rw [List.foldlM_cons, hbody]
          exact hdone

/-! ## Contracts -/

/-- Every value returned satisfies `post` and every reason for stopping
satisfies `stop`. -/
def Meets (program : Except ε α) (post : α → Prop) (stop : ε → Prop) : Prop :=
  match program with
  | .ok value => post value
  | .error reason => stop reason

namespace Meets

variable {program : Except ε α} {post weaker : α → Prop} {stop weakerStop : ε → Prop}

theorem pure {value : α} (hpost : post value) :
    Meets (Pure.pure value : Except ε α) post stop := hpost

theorem ok {value : α} (hpost : post value) :
    Meets (.ok value : Except ε α) post stop := hpost

theorem error {reason : ε} (hstop : stop reason) :
    Meets (.error reason : Except ε α) post stop := hstop

theorem mono (hmeets : Meets program post stop)
    (hpost : ∀ value, post value → weaker value)
    (hstop : ∀ reason, stop reason → weakerStop reason) :
    Meets program weaker weakerStop := by
  cases program with
  | ok value => exact hpost value hmeets
  | error reason => exact hstop reason hmeets

/-- Allow for further reasons to stop. -/
theorem orElse {other : ε → Prop} (hmeets : Meets program post stop) :
    Meets program post fun reason => other reason ∨ stop reason :=
  hmeets.mono (fun _ hpost => hpost) fun _ => .inr

theorem bind {next : α → Except ε β} {final : β → Prop}
    (hmeets : Meets program post stop)
    (hnext : ∀ value, post value → Meets (next value) final stop) :
    Meets (program >>= next) final stop := by
  cases program with
  | ok value => exact hnext value hmeets
  | error reason => exact hmeets

theorem orStop {found : Option α} {reason : ε}
    (hfound : ∀ value, found = some value → post value)
    (hmissing : found = none → stop reason) :
    Meets (Contract.orStop found reason) post stop := by
  cases hcase : found with
  | none => exact hmissing hcase
  | some value => exact hfound value hcase

/-- A lookup that may stop returns what it found. -/
theorem orStop_found {found : Option α} {reason : ε} (hmissing : stop reason) :
    Meets (Contract.orStop found reason) (fun value => found = some value) stop :=
  .orStop (fun _ hfound => hfound) fun _ => hmissing

/-- A lookup known to succeed. -/
theorem orStop_some {found : Option α} {value : α} {reason : ε}
    (hfound : found = some value) :
    Meets (Contract.orStop found reason) (· = value) stop := by
  subst hfound
  exact .ok rfl

theorem require {condition : Prop} [Decidable condition] {reason : ε}
    (hfail : ¬condition → stop reason) :
    Meets (Contract.require condition reason) (fun _ => condition) stop := by
  unfold Contract.require
  split
  · exact .ok ‹condition›
  · exact .error (hfail ‹¬condition›)

/-- A requirement known to hold. -/
theorem require_of {condition : Prop} [Decidable condition] {reason : ε}
    (hholds : condition) :
    Meets (Contract.require condition reason) (fun _ => True) stop := by
  rw [Contract.require, if_pos hholds]
  exact .ok trivial

/-- The loop rule.  The invariant relates the items processed so far to the
state, and the body re-establishes it for one more item. -/
theorem foldlM {τ : Type*} {items : List τ} {body : σ → τ → Except ε σ} {state : σ}
    (inv : List τ → σ → Prop) (hstart : inv [] state)
    (hbody : ∀ done item rest state, items = done ++ item :: rest → inv done state →
      Meets (body state item) (inv (done ++ [item])) stop) :
    Meets (items.foldlM body state) (inv items) stop := by
  -- Generalize to a loop that has already processed `done`.
  have hloop : ∀ rest done state, items = done ++ rest → inv done state →
      Meets (rest.foldlM body state) (inv items) stop := by
    intro rest
    induction rest with
    | nil =>
        intro done state hitems hinv
        rw [List.append_nil] at hitems
        exact .pure (hitems ▸ hinv)
    | cons item rest ih =>
        intro done state hitems hinv
        rw [List.foldlM_cons]
        exact Meets.bind (hbody done item rest state hitems hinv) fun state' hinv' =>
          ih (done ++ [item]) state' (by simp [hitems]) hinv'
  exact hloop items [] state rfl hstart

/-- Every computation meets the contract that says nothing. -/
theorem always : Meets program (fun _ => True) (fun _ => True) := by
  cases program <;> exact trivial

/-- A computation that has no reason to stop returns. -/
theorem returns (hmeets : Meets program post stop) (hnever : ∀ reason, ¬stop reason) :
    ∃ value, program = .ok value ∧ post value := by
  cases program with
  | ok value => exact ⟨value, rfl, hmeets⟩
  | error reason => exact (hnever reason hmeets).elim

/-- A computation that has no value to return stops. -/
theorem stops (hmeets : Meets program (fun _ => False) stop) :
    ∃ reason, program = .error reason ∧ stop reason := by
  cases program with
  | ok value => exact hmeets.elim
  | error reason => exact ⟨reason, rfl, hmeets⟩

theorem of_ok {value : α} (hmeets : Meets program post stop)
    (hreturns : program = .ok value) : post value := by
  subst hreturns
  exact hmeets

theorem of_error {reason : ε} (hmeets : Meets program post stop)
    (hstops : program = .error reason) : stop reason := by
  subst hstops
  exact hmeets

end Meets

end DriveBus.Contract
