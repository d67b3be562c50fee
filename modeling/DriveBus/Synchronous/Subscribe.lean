import DriveBus.Synchronous.ClockedPublish
import DriveBus.Synchronous.ReadData

/-!
# Synchronous subscribing

`subscribe(timeout)` takes one event at a time from its last wait and returns with the
first batch that is not empty.  Unlike `publish` it reads the clock twice before a wait:
once at the head of the loop, and once for the time that is left.
-/

namespace DriveBus.Synchronous.Subscriber

open DriveBus.ByteMemory DriveBus.SharedMemory DriveBus.Deadline

/-- The event id of the broker's socket. -/
def kBrokerEventId : ℕ := 0

/-- A data event: its script, the attachment of its eventfd if there is one, and the
mapping. -/
structure DataEvent where
  script : EventScript
  attachment : Option Reader
  shared : SharedData

def DataEvent.run (event : DataEvent) : BatchRun :=
  handleDataAvailableEvent event.script event.attachment event.shared

inductive WaitEnd
  | fetched (events : List ℕ)
  | timedOut
  | interrupted
  | failed

/-- One round of the loop: the readings at its head and before the wait, how the wait ends
and when, whether processing the broker's records succeeds, and the data event of the
attachment with the event's id, if there is one. -/
structure SubscribeRound where
  readingHead : ℤ
  readingWait : ℤ
  wait : WaitEnd
  woke : ℤ
  controlSucceeds : Bool
  dataEvent : Option DataEvent

/-- What the loop does with an event: `none` as long as its handler has not returned or if
it throws, and `some none` if the loop goes on. -/
def handleEvent (round : SubscribeRound) (event : ℕ) :
    Option (Option (Except SubscribeError MessageBatch)) :=
  if event = kBrokerEventId then
    if round.controlSucceeds then some none else some (some (.error .brokerUnavailable))
  else
    match round.dataEvent with
    | none => some none
    | some dataEvent => dataEvent.run.result.map subscribeDataEvent

/-- A call, or what is left of it.  `waitReadings` are the readings from which it has
computed the time that is left. -/
structure SubscribeRun where
  result : Option (Except SubscribeError MessageBatch)
  trace : Trace ℕ
  waitReadings : List ℤ

namespace SubscribeRun

def ends (result : Option (Except SubscribeError MessageBatch)) (trace : Trace ℕ) :
    SubscribeRun where
  result := result
  trace := trace
  waitReadings := []

def mapTrace (change : Trace ℕ → Trace ℕ) (run : SubscribeRun) : SubscribeRun :=
  { run with trace := change run.trace }

/-- The run that first computed the time left at `reading`. -/
def beforeWait (deadline reading : ℤ) (run : SubscribeRun) : SubscribeRun :=
  { run with
    trace := .read reading (.compute [deadline - reading] run.trace)
    waitReadings := reading :: run.waitReadings }

end SubscribeRun

def subscribeRounds (deadline : ℤ) : List SubscribeRound → List ℕ → SubscribeRun
  | [], events => .ends none (.ends events)
  | round :: rounds, events =>
      SubscribeRun.mapTrace (.read round.readingHead)
        (if deadline ≤ round.readingHead then
          .ends (some (.error .timeout)) (.expires events round.readingHead)
        else match events with
          | [] =>
              let left := remaining deadline round.readingWait
              SubscribeRun.beforeWait deadline round.readingWait
                (if left < 0 then
                  .ends (some (.error .timeout)) (.expires [] round.readingWait)
                else
                  let wait : Wait :=
                    { start := round.readingWait
                      timespec := splitNanos left
                      timedOut := round.wait matches .timedOut
                      woke := round.woke }
                  SubscribeRun.mapTrace (.compute (splitResults left))
                    (match round.wait with
                    | .failed => .ends (some (.error .eventWaitFailed)) (.wait wait [] (.ends []))
                    | .interrupted => (subscribeRounds deadline rounds []).mapTrace (.wait wait [])
                    | .timedOut =>
                        .ends (some (.error .timeout)) (.wait wait [] (.expires [] round.woke))
                    | .fetched events =>
                        (subscribeRounds deadline rounds events).mapTrace (.wait wait events)))
          | event :: rest =>
              SubscribeRun.mapTrace (.handle event)
                (match handleEvent round event with
                | none => .ends none (.ends rest)
                | some none => subscribeRounds deadline rounds rest
                | some (some result) => .ends (some result) (.ends rest)))

/-- `subscribe(timeout)`, begun when the clock reads `began`. -/
def subscribe (began timeout : ℤ) (rounds : List SubscribeRound) (events : List ℕ) :
    SubscribeRun :=
  SubscribeRun.mapTrace (.compute (deadlineResults began timeout))
    (subscribeRounds (deadline began timeout) rounds events)

/-- A call that gives up for the time says when. -/
def SubscribeRun.SaysWhen (run : SubscribeRun) : Prop :=
  run.result = some (.error .timeout) → run.trace.timeoutAt.isSome

/-- No event makes the call give up for the time. -/
theorem handleEvent_ne_timeout (round : SubscribeRound) (event : ℕ) :
    handleEvent round event ≠ some (some (.error .timeout)) := by
  unfold handleEvent
  split
  next =>
    split <;> simp
  next =>
    split
    next => simp
    next dataEvent _ =>
      intro htimeout
      obtain ⟨result, hresult, hsubscribed⟩ := Option.map_eq_some_iff.mp htimeout
      cases result with
      | error error =>
          rw [subscribeDataEvent, handleDataAvailableEvent_error hresult] at hsubscribed
          cases hsubscribed
      | ok messages =>
          rw [subscribeDataEvent] at hsubscribed
          split at hsubscribed <;> cases hsubscribed

/-- What the computation of the time left adds to a run in which it has been computed from
every other wait reading. -/
theorem SubscribeRun.beforeWait_results {deadline reading : ℤ} {run : SubscribeRun}
    (hrun : ∀ other ∈ run.waitReadings, deadline - other ∈ run.trace.results) :
    ∀ other ∈ (run.beforeWait deadline reading).waitReadings,
      deadline - other ∈ (run.beforeWait deadline reading).trace.results := by
  intro other hmem
  rcases List.mem_cons.mp hmem with rfl | hmem
  · exact List.mem_cons_self
  · exact List.mem_cons_of_mem _ (hrun other hmem)

/-- The time left is computed from every wait reading. -/
theorem waitReadings_results (deadline : ℤ) (rounds : List SubscribeRound) (events : List ℕ) :
    ∀ reading ∈ (subscribeRounds deadline rounds events).waitReadings,
      deadline - reading ∈ (subscribeRounds deadline rounds events).trace.results := by
  induction rounds generalizing events with
  | nil => simp [subscribeRounds, SubscribeRun.ends]
  | cons round rounds ih =>
      rw [subscribeRounds.eq_def]
      dsimp only
      split
      next => simp [SubscribeRun.ends, SubscribeRun.mapTrace]
      next =>
        split
        next =>
          refine SubscribeRun.beforeWait_results ?_
          split
          next => simp [SubscribeRun.ends]
          next =>
            split
            next => simp [SubscribeRun.ends, SubscribeRun.mapTrace]
            next => exact fun reading hmem => List.mem_append_right _ (ih [] reading hmem)
            next => simp [SubscribeRun.ends, SubscribeRun.mapTrace]
            next fetched _ =>
              exact fun reading hmem => List.mem_append_right _ (ih fetched reading hmem)
        next event rest =>
          split
          next => simp [SubscribeRun.ends, SubscribeRun.mapTrace]
          next => exact ih rest
          next => simp [SubscribeRun.ends, SubscribeRun.mapTrace]

/-- If the deadline fits and no reading before a wait is too far behind it, every call
keeps it. -/
theorem subscribeRounds_timely {began timeout : ℤ} (hfits : Fits began timeout)
    (rounds : List SubscribeRound) (events : List ℕ)
    (hreadings : ∀ reading ∈ (subscribeRounds (deadline began timeout) rounds
      events).trace.readings, began ≤ reading)
    (hwaits : ∀ wait ∈ (subscribeRounds (deadline began timeout) rounds events).trace.waits,
      wait.timedOut = true → wait.start + wait.timespec.nanos ≤ wait.woke)
    (hnear : ∀ reading ∈ (subscribeRounds (deadline began timeout) rounds
      events).waitReadings, reading ≤ deadline began timeout + 2 ^ 63) :
    (subscribeRounds (deadline began timeout) rounds events).trace.Timely
        (deadline began timeout) events ∧
      (subscribeRounds (deadline began timeout) rounds events).SaysWhen := by
  induction rounds generalizing events with
  | nil => exact ⟨Trace.timely_ends _ _, fun htimeout => by cases htimeout⟩
  | cons round rounds ih =>
      rw [subscribeRounds.eq_def] at hreadings hwaits hnear ⊢
      dsimp only at hreadings hwaits hnear ⊢
      by_cases hhead : deadline began timeout ≤ round.readingHead
      · rw [if_pos hhead]
        exact ⟨(Trace.timely_expires _ hhead).read _, fun _ => rfl⟩
      rw [if_neg hhead] at hreadings hwaits hnear ⊢
      cases events with
      | cons event rest =>
          dsimp only at hreadings hwaits hnear ⊢
          cases hevent : handleEvent round event with
          | none =>
              exact ⟨((Trace.timely_ends _ _).handle _).read _, fun htimeout => by
                cases htimeout⟩
          | some outcome =>
          cases outcome with
          | some result =>
              refine ⟨((Trace.timely_ends _ _).handle _).read _, fun htimeout => ?_⟩
              rw [Option.some.inj htimeout] at hevent
              exact absurd hevent (handleEvent_ne_timeout round event)
          | none =>
              rw [hevent] at hreadings hwaits hnear
              obtain ⟨hrest, hwhen⟩ := ih rest
                (fun reading hmem => hreadings reading (List.mem_cons_of_mem _ hmem))
                hwaits hnear
              exact ⟨(hrest.handle event).read _, hwhen⟩
      | nil =>
          dsimp only at hreadings hwaits hnear ⊢
          have hbegan : began ≤ round.readingWait :=
            hreadings _ (List.mem_cons_of_mem _ List.mem_cons_self)
          have hfar : round.readingWait ≤ deadline began timeout + 2 ^ 63 :=
            hnear _ List.mem_cons_self
          have hisInt64 : IsInt64 (deadline began timeout - round.readingWait) := by
            have hmax := hfits.1.2
            rw [deadline_eq hfits] at hfar ⊢
            constructor <;> omega
          have hleft : remaining (deadline began timeout) round.readingWait =
              deadline began timeout - round.readingWait := wrap_of_isInt64 hisInt64
          have hcomputed : ∀ value ∈ [deadline began timeout - round.readingWait],
              IsInt64 value := by simpa using hisInt64
          rw [hleft] at hreadings hwaits hnear ⊢
          by_cases hpassed : deadline began timeout - round.readingWait < 0
          · rw [if_pos hpassed]
            have hexpired : deadline began timeout ≤ round.readingWait := by omega
            exact ⟨(((Trace.timely_expires _ hexpired).compute hcomputed).read _).read _,
              fun _ => rfl⟩
          rw [if_neg hpassed] at hreadings hwaits hnear ⊢
          have hnonneg : 0 ≤ deadline began timeout - round.readingWait := by omega
          obtain ⟨hwellFormed, hnanos⟩ := splitNanos_wellFormed hnonneg hisInt64
          -- What the round has done before it goes on from the wait.
          have hround : ∀ {fetched : List ℕ} {rest : Trace ℕ} {wait : Wait},
              wait.timespec.WellFormed → rest.Timely (deadline began timeout) fetched →
              Trace.Timely (deadline began timeout) [] (.read round.readingHead
                (.read round.readingWait
                  (.compute [deadline began timeout - round.readingWait]
                    (.compute (splitResults (deadline began timeout - round.readingWait))
                      (.wait wait fetched rest))))) :=
            fun hwait hrest => ((((hrest.wait hwait).compute
              (splitResults_fit hnonneg hisInt64)).compute hcomputed).read _).read _
          cases hwait : round.wait with
          | failed =>
              exact ⟨hround hwellFormed (Trace.timely_ends _ _), fun htimeout => by
                cases htimeout⟩
          | timedOut =>
              rw [hwait] at hwaits
              refine ⟨hround hwellFormed (Trace.timely_expires _ ?_), fun _ => rfl⟩
              have hwoke : round.readingWait +
                  (splitNanos (deadline began timeout - round.readingWait)).nanos ≤
                    round.woke := hwaits ⟨_, _, true, _⟩ List.mem_cons_self rfl
              omega
          | interrupted =>
              rw [hwait] at hreadings hwaits hnear
              obtain ⟨hrest, hwhen⟩ := ih []
                (fun reading hmem => hreadings reading
                  (List.mem_cons_of_mem _ (List.mem_cons_of_mem _ hmem)))
                (fun wait hmem => hwaits wait (List.mem_cons_of_mem _ hmem))
                fun reading hmem => hnear reading (List.mem_cons_of_mem _ hmem)
              exact ⟨hround hwellFormed hrest, hwhen⟩
          | fetched fetched =>
              rw [hwait] at hreadings hwaits hnear
              obtain ⟨hrest, hwhen⟩ := ih fetched
                (fun reading hmem => hreadings reading
                  (List.mem_cons_of_mem _ (List.mem_cons_of_mem _ hmem)))
                (fun wait hmem => hwaits wait (List.mem_cons_of_mem _ hmem))
                fun reading hmem => hnear reading (List.mem_cons_of_mem _ hmem)
              exact ⟨hround hwellFormed hrest, hwhen⟩

/-- A call keeps time exactly if its deadline fits and it computes the time left from no
reading that is more than 2^63 ns past the deadline. -/
theorem subscribe_keepsTime_iff {began timeout : ℤ} {rounds : List SubscribeRound}
    {events : List ℕ}
    (hrealistic : (subscribe began timeout rounds events).trace.Realistic began) :
    (subscribe began timeout rounds events).trace.KeepsTime began timeout events
        ((subscribe began timeout rounds events).result = some (.error .timeout)) ↔
      Fits began timeout ∧
        ∀ reading ∈ (subscribe began timeout rounds events).waitReadings,
          reading ≤ began + timeout * nanosPerMicro + 2 ^ 63 := by
  constructor
  · intro hkeeps
    have hfits : Fits began timeout := (deadlineResults_fit_iff began timeout).mp
      fun value hmem => hkeeps.results_isInt64 value (List.mem_append_left _ hmem)
    refine ⟨hfits, fun reading hmem => ?_⟩
    have hleft := hkeeps.results_isInt64 _ (List.mem_append_right _
      (waitReadings_results (deadline began timeout) rounds events reading hmem))
    rw [deadline_eq hfits] at hleft
    have hlower := hleft.1
    omega
  · rintro ⟨hfits, hnear⟩
    rw [← deadline_eq hfits] at hnear
    obtain ⟨htimely, hwhen⟩ := subscribeRounds_timely hfits rounds events
      (fun _ hmem => List.rel_of_pairwise_cons hrealistic.ordered hmem) hrealistic.waited hnear
    exact (htimely.compute ((deadlineResults_fit_iff began timeout).mpr hfits)).keepsTime
      hfits hwhen

/-- The two synchronous calls keep time exactly as long as their nanoseconds fit. -/
theorem timeouts_keepTime_iff (began timeout : ℤ) :
    (∀ (publisher : SyncPublisher) (payload : List Byte) (rounds : List ClockedRound),
      (publisher.publishClocked payload began timeout rounds).trace.Realistic began →
        ((publisher.publishClocked payload began timeout rounds).trace.KeepsTime began timeout
            publisher.events
            ((publisher.publishClocked payload began timeout rounds).result =
              some (.error .timeout)) ↔
          (publisher.synchronous = true → payload.length ≤ kMaxPayloadSizeBytes →
            Fits began timeout))) ∧
      ∀ (rounds : List SubscribeRound) (events : List ℕ),
        (subscribe began timeout rounds events).trace.Realistic began →
          ((subscribe began timeout rounds events).trace.KeepsTime began timeout events
              ((subscribe began timeout rounds events).result = some (.error .timeout)) ↔
            Fits began timeout ∧
              ∀ reading ∈ (subscribe began timeout rounds events).waitReadings,
                reading ≤ began + timeout * nanosPerMicro + 2 ^ 63) :=
  ⟨fun _ _ _ hrealistic => publishClocked_keepsTime_iff hrealistic,
    fun _ _ hrealistic => subscribe_keepsTime_iff hrealistic⟩

/-- A round whose clock reads `head` and, 10 ns later, waits without an event until
`woke`. -/
def idleRound (head woke : ℤ) : SubscribeRound where
  readingHead := head
  readingWait := head + 10
  wait := .timedOut
  woke := woke
  controlSucceeds := true
  dataEvent := none

/-- `subscribe` with a timeout of 2 ms, begun when the clock reads 1 s. -/
def shortWait : SubscribeRun :=
  subscribe (10 ^ 9) 2000 [idleRound (10 ^ 9 + 5) (10 ^ 9 + 2 * 10 ^ 6)] []

theorem timeouts_keepTime_shortWait :
    shortWait.result = some (.error .timeout) ∧
      shortWait.trace.KeepsTime (10 ^ 9) 2000 []
        (shortWait.result = some (.error .timeout)) := by
  have hreadings : shortWait.trace.readings = [10 ^ 9 + 5, 10 ^ 9 + 15] := by decide
  have hwaits : shortWait.trace.waits =
      [⟨10 ^ 9 + 15, ⟨0, 1999985⟩, true, 10 ^ 9 + 2 * 10 ^ 6⟩] := by decide
  have hrealistic : shortWait.trace.Realistic (10 ^ 9) := by
    constructor
    · rw [hreadings]
      norm_num
    · rw [hreadings]
      norm_num [IsInt64]
    · rw [hwaits]
      norm_num [Timespec.nanos, nanosPerSecond]
  refine ⟨by decide, ((timeouts_keepTime_iff _ _).2 _ _ hrealistic).mpr ⟨?_, ?_⟩⟩
  · norm_num [Fits, IsInt64, nanosPerMicro]
  · have hnear : shortWait.waitReadings = [10 ^ 9 + 15] := by decide
    rw [show (subscribe _ _ _ _).waitReadings = _ from hnear]
    norm_num [nanosPerMicro]

/-- `subscribe(microseconds::max())`, begun when the clock reads 1 s. -/
def endlessWait : SubscribeRun :=
  subscribe (10 ^ 9) (2 ^ 63 - 1) [idleRound (10 ^ 9 + 5) (10 ^ 9 + 20)] []

/-- The longest timeout overflows and gives up at once. -/
theorem endlessWait_early :
    endlessWait.trace.Realistic (10 ^ 9) ∧ endlessWait.result = some (.error .timeout) ∧
      endlessWait.trace.timeoutAt = some (10 ^ 9 + 5) ∧
      ¬ endlessWait.trace.KeepsTime (10 ^ 9) (2 ^ 63 - 1) []
        (endlessWait.result = some (.error .timeout)) := by
  have hreadings : endlessWait.trace.readings = [10 ^ 9 + 5] := by decide
  have hwaits : endlessWait.trace.waits = [] := by decide
  have hresult : endlessWait.result = some (.error .timeout) := by decide
  have htimeout : endlessWait.trace.timeoutAt = some (10 ^ 9 + 5) := by decide
  refine ⟨⟨?_, ?_, ?_⟩, hresult, htimeout, fun hkeeps => ?_⟩
  · rw [hreadings]
    norm_num
  · rw [hreadings]
    norm_num [IsInt64]
  · simp [hwaits]
  · obtain ⟨instant, hinstant, hlate⟩ := hkeeps.notEarly hresult
    rw [htimeout, Option.some.injEq] at hinstant
    subst hinstant
    norm_num [nanosPerMicro] at hlate

end DriveBus.Synchronous.Subscriber
