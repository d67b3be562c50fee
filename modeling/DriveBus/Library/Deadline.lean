import Mathlib.Data.Int.Basic
import Mathlib.Data.List.Infix
import Mathlib.Tactic.NormNum

/-!
# Deadlines in 64-bit nanoseconds

A caller's timeout in microseconds becomes a deadline on a nanosecond clock, and what is
left of it becomes a `timespec` for the kernel.  All three are signed 64-bit
computations: each definition has beside it the exact results that have to fit.  A call
that waits until its deadline leaves a trace of what it has read off the clock, computed,
asked of the kernel and done with the events that it has fetched.
-/

namespace DriveBus.Deadline

/-- The values of a signed 64-bit integer. -/
def IsInt64 (value : ℤ) : Prop := -2 ^ 63 ≤ value ∧ value < 2 ^ 63

/-- The 64-bit value of an exact result. -/
def wrap (value : ℤ) : ℤ := (value + 2 ^ 63) % 2 ^ 64 - 2 ^ 63

theorem wrap_of_isInt64 {value : ℤ} (hvalue : IsInt64 value) : wrap value = value := by
  obtain ⟨hlower, hupper⟩ := hvalue
  unfold wrap
  omega

def nanosPerMicro : ℤ := 1000

def nanosPerSecond : ℤ := 10 ^ 9

/-! ## The deadline -/

/-- `began + timeout`, with the microseconds widened first. -/
def deadline (began timeout : ℤ) : ℤ := wrap (began + wrap (timeout * nanosPerMicro))

/-- The exact results behind `deadline`. -/
def deadlineResults (began timeout : ℤ) : List ℤ :=
  [timeout * nanosPerMicro, began + wrap (timeout * nanosPerMicro)]

/-- The timeout in nanoseconds, and the instant at which it has passed, fit. -/
def Fits (began timeout : ℤ) : Prop :=
  IsInt64 (timeout * nanosPerMicro) ∧ IsInt64 (began + timeout * nanosPerMicro)

theorem deadlineResults_fit_iff (began timeout : ℤ) :
    (∀ value ∈ deadlineResults began timeout, IsInt64 value) ↔ Fits began timeout := by
  simp only [deadlineResults, List.mem_cons, List.not_mem_nil, or_false, forall_eq_or_imp,
    forall_eq, Fits]
  exact and_congr_right fun hnanos => by rw [wrap_of_isInt64 hnanos]

theorem deadline_eq {began timeout : ℤ} (hfits : Fits began timeout) :
    deadline began timeout = began + timeout * nanosPerMicro := by
  rw [deadline, wrap_of_isInt64 hfits.1, wrap_of_isInt64 hfits.2]

/-! ## The remaining time -/

/-- `deadline - now`. -/
def remaining (deadline now : ℤ) : ℤ := wrap (deadline - now)

structure Timespec where
  tvSec : ℤ
  tvNsec : ℤ
  deriving DecidableEq, Repr

def Timespec.WellFormed (timespec : Timespec) : Prop :=
  0 ≤ timespec.tvSec ∧ 0 ≤ timespec.tvNsec ∧ timespec.tvNsec < nanosPerSecond

def Timespec.nanos (timespec : Timespec) : ℤ :=
  timespec.tvSec * nanosPerSecond + timespec.tvNsec

/-- The whole seconds of a duration, and the nanoseconds behind them; a cast to seconds
rounds towards zero. -/
def splitNanos (duration : ℤ) : Timespec where
  tvSec := duration.tdiv nanosPerSecond
  tvNsec := wrap (duration - wrap (duration.tdiv nanosPerSecond * nanosPerSecond))

/-- The exact results behind `splitNanos`. -/
def splitResults (duration : ℤ) : List ℤ :=
  [duration.tdiv nanosPerSecond * nanosPerSecond,
    duration - wrap (duration.tdiv nanosPerSecond * nanosPerSecond)]

section Split

variable {duration : ℤ}

theorem tdiv_bounds (hnonneg : 0 ≤ duration) :
    0 ≤ duration.tdiv nanosPerSecond ∧
      0 ≤ duration - duration.tdiv nanosPerSecond * nanosPerSecond ∧
      duration - duration.tdiv nanosPerSecond * nanosPerSecond < nanosPerSecond := by
  rw [Int.tdiv_eq_ediv_of_nonneg hnonneg]
  simp only [nanosPerSecond]
  omega

theorem splitResults_fit (hnonneg : 0 ≤ duration) (hfits : IsInt64 duration) :
    ∀ value ∈ splitResults duration, IsInt64 value := by
  obtain ⟨hseconds, hlower, hupper⟩ := tdiv_bounds hnonneg
  have hwhole : IsInt64 (duration.tdiv nanosPerSecond * nanosPerSecond) := by
    obtain ⟨-, hmax⟩ := hfits
    simp only [IsInt64, nanosPerSecond] at *
    omega
  simp only [splitResults, List.mem_cons, List.not_mem_nil, or_false, forall_eq_or_imp,
    forall_eq, wrap_of_isInt64 hwhole]
  refine ⟨hwhole, ?_⟩
  simp only [IsInt64, nanosPerSecond] at *
  omega

theorem splitNanos_eq (hnonneg : 0 ≤ duration) (hfits : IsInt64 duration) :
    splitNanos duration = ⟨duration.tdiv nanosPerSecond,
      duration - duration.tdiv nanosPerSecond * nanosPerSecond⟩ := by
  have hresults := splitResults_fit hnonneg hfits
  simp only [splitResults, List.mem_cons, List.not_mem_nil, or_false, forall_eq_or_imp,
    forall_eq] at hresults
  rw [splitNanos, wrap_of_isInt64 hresults.2, wrap_of_isInt64 hresults.1]

/-- A duration that is not negative is handed to the kernel as it is. -/
theorem splitNanos_wellFormed (hnonneg : 0 ≤ duration) (hfits : IsInt64 duration) :
    (splitNanos duration).WellFormed ∧ (splitNanos duration).nanos = duration := by
  rw [splitNanos_eq hnonneg hfits]
  refine ⟨tdiv_bounds hnonneg, ?_⟩
  simp only [Timespec.nanos]
  omega

end Split

/-- Between the call's begin and its deadline, the remaining time fits and is positive. -/
theorem remaining_of_lt {began timeout now : ℤ} (hfits : Fits began timeout)
    (hbegan : began ≤ now) (hbefore : now < deadline began timeout) :
    IsInt64 (deadline began timeout - now) ∧
      remaining (deadline began timeout) now = deadline began timeout - now ∧
      0 < deadline began timeout - now := by
  have hremaining : IsInt64 (deadline began timeout - now) := by
    rw [deadline_eq hfits] at hbefore ⊢
    obtain ⟨⟨-, hmax⟩, -⟩ := hfits
    constructor <;> omega
  exact ⟨hremaining, wrap_of_isInt64 hremaining, by omega⟩

/-! ## Calls that wait until a deadline -/

/-- A wait for events: the reading before it, what the kernel is asked to wait at most,
whether it returned without an event, and when it returned. -/
structure Wait where
  start : ℤ
  timespec : Timespec
  timedOut : Bool
  woke : ℤ
  deriving DecidableEq, Repr

/-- The trace of one call.  `readings` are those after the one that begins the call;
`timeoutAt` is the instant at which the call gives up. -/
structure Trace (Event : Type*) where
  readings : List ℤ
  results : List ℤ
  waits : List Wait
  handled : List Event
  fetched : List Event
  pending : List Event
  timeoutAt : Option ℤ

namespace Trace

variable {Event : Type*}

/-- A call that ends, or goes no further, with these events pending. -/
def ends (pending : List Event) : Trace Event where
  readings := []
  results := []
  waits := []
  handled := []
  fetched := []
  pending := pending
  timeoutAt := none

def expires (pending : List Event) (instant : ℤ) : Trace Event :=
  { ends pending with timeoutAt := some instant }

def read (reading : ℤ) (trace : Trace Event) : Trace Event :=
  { trace with readings := reading :: trace.readings }

def compute (results : List ℤ) (trace : Trace Event) : Trace Event :=
  { trace with results := results ++ trace.results }

def handle (event : Event) (trace : Trace Event) : Trace Event :=
  { trace with handled := event :: trace.handled }

def wait (wait : Wait) (fetched : List Event) (trace : Trace Event) : Trace Event :=
  { trace with
    waits := wait :: trace.waits
    fetched := fetched ++ trace.fetched }

/-- `first` has been done before. -/
def after (first trace : Trace Event) : Trace Event :=
  { trace with
    readings := first.readings ++ trace.readings
    results := first.results ++ trace.results
    waits := first.waits ++ trace.waits
    handled := first.handled ++ trace.handled
    fetched := first.fetched ++ trace.fetched }

/-- The clock never goes back, and the kernel returns without an event only when the
requested time has passed. -/
structure Realistic (began : ℤ) (trace : Trace Event) : Prop where
  ordered : (began :: trace.readings).Pairwise (· ≤ ·)
  readings_isInt64 : ∀ reading ∈ began :: trace.readings, IsInt64 reading
  waited : ∀ wait ∈ trace.waits, wait.timedOut = true →
    wait.start + wait.timespec.nanos ≤ wait.woke

/-- A call that began with `events` pending gives up at the deadline or later, computes in
64 bits, asks for well formed waits, and waits only when it has handled every event; no
event is lost or handled twice. -/
structure Timely (deadline : ℤ) (events : List Event) (trace : Trace Event) : Prop where
  expired : ∀ {instant}, trace.timeoutAt = some instant → deadline ≤ instant
  results_isInt64 : ∀ value ∈ trace.results, IsInt64 value
  wellFormed : ∀ wait ∈ trace.waits, wait.timespec.WellFormed
  conserved : events ++ trace.fetched = trace.handled ++ trace.pending
  served : trace.waits ≠ [] → events <+: trace.handled

/-- What is asked of a call that may give up for the time: it never does so early, its
computations fit, its waits are well formed, and the events that it leaves to the next
call are those that it has not handled. -/
structure KeepsTime (began timeout : ℤ) (events : List Event) (timedOut : Prop)
    (trace : Trace Event) : Prop where
  notEarly : timedOut → ∃ instant, trace.timeoutAt = some instant ∧
    began + timeout * nanosPerMicro ≤ instant
  results_isInt64 : ∀ value ∈ trace.results, IsInt64 value
  wellFormed : ∀ wait ∈ trace.waits, wait.timespec.WellFormed
  conserved : events ++ trace.fetched = trace.handled ++ trace.pending
  served : trace.waits ≠ [] → events <+: trace.handled

section Timely

variable {deadline : ℤ} {events : List Event} {trace : Trace Event}

theorem timely_ends (deadline : ℤ) (events : List Event) : (ends events).Timely deadline events where
  expired hinstant := by cases hinstant
  results_isInt64 := by simp [ends]
  wellFormed := by simp [ends]
  conserved := by simp [ends]
  served hwaits := absurd rfl hwaits

theorem timely_expires (events : List Event) {instant : ℤ} (hinstant : deadline ≤ instant) :
    (expires events instant).Timely deadline events :=
  { timely_ends deadline events with
    expired := fun hexpired => Option.some.inj hexpired ▸ hinstant }

theorem Timely.read (htimely : trace.Timely deadline events) (reading : ℤ) :
    (trace.read reading).Timely deadline events :=
  { htimely with }

theorem Timely.compute (htimely : trace.Timely deadline events) {results : List ℤ}
    (hresults : ∀ value ∈ results, IsInt64 value) :
    (trace.compute results).Timely deadline events :=
  { htimely with
    results_isInt64 := fun value hmem =>
      (List.mem_append.mp hmem).elim (hresults value) (htimely.results_isInt64 value) }

theorem Timely.handle (htimely : trace.Timely deadline events) (event : Event) :
    (trace.handle event).Timely deadline (event :: events) where
  expired := htimely.expired
  results_isInt64 := htimely.results_isInt64
  wellFormed := htimely.wellFormed
  conserved := congrArg (event :: ·) htimely.conserved
  served hwaits := List.cons_prefix_cons.mpr ⟨rfl, htimely.served hwaits⟩

/-- A call waits when nothing is pending. -/
theorem Timely.wait (htimely : trace.Timely deadline events) {wait : Wait}
    (hwait : wait.timespec.WellFormed) : (trace.wait wait events).Timely deadline [] where
  expired := htimely.expired
  results_isInt64 := htimely.results_isInt64
  wellFormed := List.forall_mem_cons.mpr ⟨hwait, htimely.wellFormed⟩
  conserved := htimely.conserved
  served _ := List.nil_prefix

theorem Timely.after {first : Trace Event} {middle : List Event}
    (hfirst : first.Timely deadline events) (hpending : first.pending = middle)
    (hrest : trace.Timely deadline middle) : (first.after trace).Timely deadline events where
  expired := hrest.expired
  results_isInt64 value hmem :=
    (List.mem_append.mp hmem).elim (hfirst.results_isInt64 value) (hrest.results_isInt64 value)
  wellFormed wait hmem :=
    (List.mem_append.mp hmem).elim (hfirst.wellFormed wait) (hrest.wellFormed wait)
  conserved := by
    simp only [Trace.after]
    rw [← List.append_assoc, hfirst.conserved, hpending, List.append_assoc, hrest.conserved,
      List.append_assoc]
  served hwaits := by
    have hmiddle : events <+: first.handled ++ middle := by
      rw [← hpending, ← hfirst.conserved]
      exact List.prefix_append ..
    simp only [Trace.after] at hwaits ⊢
    by_cases hwaited : first.waits = []
    · rw [hwaited, List.nil_append] at hwaits
      exact hmiddle.trans ((List.prefix_append_right_inj _).mpr (hrest.served hwaits))
    · exact (hfirst.served hwaited).trans (List.prefix_append ..)

/-- Keeping a deadline that fits is keeping time. -/
theorem Timely.keepsTime {began timeout : ℤ} {timedOut : Prop} (hfits : Fits began timeout)
    (htimely : trace.Timely (Deadline.deadline began timeout) events)
    (hwhen : timedOut → trace.timeoutAt.isSome) :
    trace.KeepsTime began timeout events timedOut where
  notEarly htimedOut := by
    obtain ⟨instant, hinstant⟩ := Option.isSome_iff_exists.mp (hwhen htimedOut)
    exact ⟨instant, hinstant, deadline_eq hfits ▸ htimely.expired hinstant⟩
  results_isInt64 := htimely.results_isInt64
  wellFormed := htimely.wellFormed
  conserved := htimely.conserved
  served := htimely.served

/-- A call that is over before it forms its deadline. -/
theorem keepsTime_ends {began timeout : ℤ} {timedOut : Prop} (hreturned : ¬ timedOut)
    (events : List Event) : (ends events).KeepsTime began timeout events timedOut where
  notEarly htimedOut := absurd htimedOut hreturned
  results_isInt64 := by simp [ends]
  wellFormed := by simp [ends]
  conserved := by simp [ends]
  served hwaits := absurd rfl hwaits

end Timely

end Trace

end DriveBus.Deadline
