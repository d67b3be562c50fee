import Mathlib.Data.List.Basic
import Mathlib.Order.Notation

/-!
# Edge-triggered readiness

A poll instance notes the edges of its sources.  A fetch takes some of the noted sources, of
which each is still raised, and an edge that has been taken is not reported again: whoever
handles a source has to bring it down, or it stays raised unnoticed.  `Covers` is the
invariant of a loop that loses no edge: what is pending is noted or in the current batch.
-/

namespace DriveBus.EdgeTrigger

/-- The sources with an edge that has not been reported, and what is left of the batch. -/
structure Poll (Source : Type*) where
  ready : Source → Bool
  batch : List Source

namespace Poll

variable {Source : Type*}

def initial : Poll Source where
  ready _ := false
  batch := []

/-- New edges. -/
def raise (poll : Poll Source) (edges : Source → Bool) : Poll Source where
  ready source := poll.ready source || edges source
  batch := poll.batch

/-- The batch goes on behind its first entry. -/
def advance (poll : Poll Source) : Poll Source where
  ready := poll.ready
  batch := poll.batch.tail

/-- Nothing that has been noted is still raised. -/
def Blocked (poll : Poll Source) (raised : Source → Bool) : Prop :=
  ∀ source, poll.ready source = true → raised source = false

/-- No edge of a pending source is lost. -/
def Covers (poll : Poll Source) (pending : Source → Prop) : Prop :=
  ∀ source, pending source → poll.ready source = true ∨ source ∈ poll.batch

section Sources

variable [DecidableEq Source]

/-- A new batch. -/
def fetch (poll : Poll Source) (batch : List Source) : Poll Source where
  ready source := poll.ready source && source ∉ batch
  batch := batch

/-- The batches that a fetch may give; at most `limit` sources fit. -/
def Gives (poll : Poll Source) (raised : Source → Bool) (limit : ℕ) (batch : List Source) :
    Prop :=
  poll.batch = [] ∧ batch ≠ [] ∧ batch.length ≤ limit ∧ batch.Nodup ∧
    ∀ source ∈ batch, poll.ready source = true ∧ raised source = true

instance instDecidableGives (poll : Poll Source) (raised : Source → Bool) (limit : ℕ)
    (batch : List Source) : Decidable (poll.Gives raised limit batch) :=
  inferInstanceAs (Decidable (_ ∧ _))

/-- A source is taken out of the poll instance. -/
def drop (poll : Poll Source) (dropped : Source) : Poll Source where
  ready source := poll.ready source && source ≠ dropped
  batch := poll.batch

end Sources

namespace Covers

variable {poll : Poll Source} {pending pending' : Source → Prop}

theorem initial (hnone : ∀ source, ¬pending source) : (Poll.initial : Poll Source).Covers pending :=
  fun source hpending => absurd hpending (hnone source)

theorem mono (hcovers : poll.Covers pending) (hmono : ∀ source, pending' source → pending source) :
    poll.Covers pending' :=
  fun source hpending => hcovers source (hmono source hpending)

/-- What becomes pending comes with an edge. -/
theorem raise (hcovers : poll.Covers pending) {edges : Source → Bool}
    (hedges : ∀ source, pending' source → pending source ∨ edges source = true) :
    (poll.raise edges).Covers pending' := by
  intro source hpending
  obtain hold | hedge := hedges source hpending
  · obtain hready | hmem := hcovers source hold
    · exact .inl (Bool.or_eq_true_iff.mpr (.inl hready))
    · exact .inr hmem
  · exact .inl (Bool.or_eq_true_iff.mpr (.inr hedge))

/-- The first source of the batch may go on once it is down. -/
theorem advance (hcovers : poll.Covers pending) {first : Source} {rest : List Source}
    (hbatch : poll.batch = first :: rest)
    (hdown : ∀ source, pending' source → pending source ∧ source ≠ first) :
    poll.advance.Covers pending' := by
  intro source hpending
  obtain ⟨hold, hne⟩ := hdown source hpending
  rw [Poll.advance, hbatch]
  refine (hcovers source hold).imp_right fun hmem => ?_
  rw [hbatch] at hmem
  exact (List.mem_cons.mp hmem).resolve_left hne

/-- A loop that blocks has nothing pending. -/
theorem not_pending (hcovers : poll.Covers pending) {raised : Source → Bool}
    (hbatch : poll.batch = []) (hblocked : poll.Blocked raised)
    (hraised : ∀ source, pending source → raised source = true) (source : Source) :
    ¬pending source := by
  intro hpending
  obtain hready | hmem := hcovers source hpending
  · have hdown := hblocked source hready
    rw [hraised source hpending] at hdown
    cases hdown
  · rw [hbatch] at hmem
    cases hmem

variable [DecidableEq Source]

/-- A batch that is used up is replaced. -/
theorem fetch (hcovers : poll.Covers pending) {batch : List Source}
    (hbatch : poll.batch = []) : (poll.fetch batch).Covers pending := by
  intro source hpending
  obtain hready | hmem := hcovers source hpending
  · by_cases hnew : source ∈ batch
    · exact .inr hnew
    · exact .inl (Bool.and_eq_true_iff.mpr ⟨hready, decide_eq_true hnew⟩)
  · rw [hbatch] at hmem
    cases hmem

theorem drop (hcovers : poll.Covers pending) {dropped : Source}
    (hdropped : ∀ source, pending' source → pending source ∧ source ≠ dropped) :
    (poll.drop dropped).Covers pending' := by
  intro source hpending
  obtain ⟨hold, hne⟩ := hdropped source hpending
  exact (hcovers source hold).imp_left fun hready =>
    Bool.and_eq_true_iff.mpr ⟨hready, decide_eq_true hne⟩

end Covers

/-- A fetch that does not block may give one source. -/
theorem gives_of_not_blocked [DecidableEq Source] {poll : Poll Source} {raised : Source → Bool}
    {limit : ℕ} (hlimit : 0 < limit) (hbatch : poll.batch = [])
    (hblocked : ¬poll.Blocked raised) : ∃ batch, poll.Gives raised limit batch := by
  unfold Blocked at hblocked
  push Not at hblocked
  obtain ⟨source, hready, hraised⟩ := hblocked
  refine ⟨[source], hbatch, by simp, hlimit, by simp, fun other hmem => ?_⟩
  obtain rfl := List.mem_singleton.mp hmem
  exact ⟨hready, Bool.not_eq_false _ ▸ hraised⟩

end Poll

end DriveBus.EdgeTrigger
