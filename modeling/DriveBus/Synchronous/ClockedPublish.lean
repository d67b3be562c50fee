import DriveBus.Library.Deadline
import DriveBus.Synchronous.Publish

/-!
# Synchronous publishing with its clock

`publish(payload, timeout)` with the clock readings it makes and the waits it asks for.
Dropping the trace and keeping which readings were at or past the deadline gives the call
of the untimed model.
-/

namespace DriveBus.Synchronous

open DriveBus.ByteMemory DriveBus.SharedMemory DriveBus.Asynchronous DriveBus.Deadline

/-- What happens while one event is handled, and the reading before it. -/
structure ClockedTurn where
  reading : ℤ
  drains : Bool
  controlled : PublisherProcess → PublisherProcess
  control : RunError

/-- One round of the loop with its readings before and after the attempt, and the instant
at which the wait returns. -/
structure ClockedRound where
  turns : ℕ → ClockedTurn
  readingBefore : ℤ
  shared : PublisherProcess → PublisherProcess
  readingAfter : ℤ
  wait : WaitOutcome
  woke : ℤ

def ClockedTurn.untimed (deadline : ℤ) (turn : ClockedTurn) : EventTurn where
  expired := deadline ≤ turn.reading
  drains := turn.drains
  controlled := turn.controlled
  control := turn.control

def ClockedRound.untimed (deadline : ℤ) (round : ClockedRound) : Round where
  turns := fun behind => (round.turns behind).untimed deadline
  expiredBefore := deadline ≤ round.readingBefore
  shared := round.shared
  expiredAfter := deadline ≤ round.readingAfter
  wait := round.wait

/-- How the loop over the fetched events ends. -/
structure EventsRun where
  error : Option PublishError
  process : PublisherProcess
  trace : Trace SyncSource

def EventsRun.mapTrace (change : Trace SyncSource → Trace SyncSource) (run : EventsRun) :
    EventsRun :=
  { run with trace := change run.trace }

/-- The loop over the fetched events; an event whose handling ends the call stays. -/
def handleClockedEvents (deadline : ℤ) (turns : ℕ → ClockedTurn) :
    List SyncSource → PublisherProcess → EventsRun
  | [], process => { error := none, process, trace := .ends [] }
  | source :: rest, process =>
      let turn := turns rest.length
      EventsRun.mapTrace (.read turn.reading)
        (if deadline ≤ turn.reading then
          { error := some .timeout, process, trace := .expires (source :: rest) turn.reading }
        else match source with
          | .spaceAvailable =>
              if turn.drains then
                (handleClockedEvents deadline turns rest process).mapTrace (.handle source)
              else { error := some .eventWaitFailed, process, trace := .ends (source :: rest) }
          | .broker =>
              if turn.control = .none then
                (handleClockedEvents deadline turns rest (turn.controlled process)).mapTrace
                  (.handle source)
              else
                { error := some (mapSyncRunErrorToPublishError turn.control)
                  process := turn.controlled process
                  trace := .ends (source :: rest) }
          | .other => (handleClockedEvents deadline turns rest process).mapTrace (.handle source))

/-- A call, or what is left of it: its result if it has returned, and its trace. -/
structure ClockedRun where
  result : Option (Except PublishError PublishDisposition)
  process : PublisherProcess
  trace : Trace SyncSource

def ClockedRun.mapTrace (change : Trace SyncSource → Trace SyncSource) (run : ClockedRun) :
    ClockedRun :=
  { run with trace := change run.trace }

def publishClockedRounds (deadline : ℤ) (payload : List Byte) :
    List ClockedRound → List SyncSource → PublisherProcess → ClockedRun
  | [], events, process => { result := none, process, trace := .ends events }
  | round :: rounds, events, process =>
      let handled := handleClockedEvents deadline round.turns events process
      match handled.error with
      | some error => { handled with result := some (.error error) }
      | none =>
          ClockedRun.mapTrace (handled.trace.after ∘ .read round.readingBefore)
            (if deadline ≤ round.readingBefore then
              { result := some (.error .timeout)
                process := handled.process
                trace := .expires [] round.readingBefore }
            else
              let (attempt, process) := tryPublishOne (round.shared handled.process) payload
              match attempt with
              | .error error =>
                  { result := some (.error (mapSyncRunErrorToPublishError error)), process,
                    trace := .ends [] }
              | .ok .succeeded => { result := some (.ok .published), process, trace := .ends [] }
              | .ok .blocked =>
                  ClockedRun.mapTrace (.read round.readingAfter)
                    (if deadline ≤ round.readingAfter then
                      { result := some (.error .timeout)
                        process
                        trace := .expires [] round.readingAfter }
                    else
                      let left := remaining deadline round.readingAfter
                      let wait : Wait :=
                        { start := round.readingAfter
                          timespec := splitNanos left
                          timedOut := round.wait matches .timedOut
                          woke := round.woke }
                      ClockedRun.mapTrace
                        (.compute ((deadline - round.readingAfter) :: splitResults left))
                        (match round.wait with
                        | .timedOut =>
                            { result := some (.error .timeout)
                              process
                              trace := .wait wait [] (.expires [] round.woke) }
                        | .failed =>
                            { result := some (.error .eventWaitFailed), process,
                              trace := .wait wait [] (.ends []) }
                        | .interrupted =>
                            (publishClockedRounds deadline payload rounds [] process).mapTrace
                              (.wait wait [])
                        | .fetched events =>
                            (publishClockedRounds deadline payload rounds events
                              process).mapTrace (.wait wait events))))

/-- `publish(payload, timeout)`, begun when the clock reads `began`. -/
def SyncPublisher.publishClocked (publisher : SyncPublisher) (payload : List Byte)
    (began timeout : ℤ) (rounds : List ClockedRound) : ClockedRun :=
  if publisher.synchronous = false then
    { result := some (.error .modeMismatch)
      process := publisher.process
      trace := .ends publisher.events }
  else if kMaxPayloadSizeBytes < payload.length then
    { result := some (.error .payloadTooLarge)
      process := publisher.process
      trace := .ends publisher.events }
  else
    ClockedRun.mapTrace (.compute (deadlineResults began timeout))
      (publishClockedRounds (deadline began timeout) payload rounds publisher.events
        publisher.process)

/-! ## The untimed call -/

theorem handleClockedEvents_untimed (deadline : ℤ) (turns : ℕ → ClockedTurn)
    (events : List SyncSource) (process : PublisherProcess) :
    handleEvents (fun behind => (turns behind).untimed deadline) events process =
      ((handleClockedEvents deadline turns events process).error,
        (handleClockedEvents deadline turns events process).trace.pending,
        (handleClockedEvents deadline turns events process).process) := by
  induction events generalizing process with
  | nil => rfl
  | cons source rest ih =>
      rw [handleEvents.eq_def, handleClockedEvents.eq_def]
      simp only [ClockedTurn.untimed, decide_eq_true_eq]
      by_cases hexpired : deadline ≤ (turns rest.length).reading
      · rw [if_pos hexpired, if_pos hexpired]
        rfl
      rw [if_neg hexpired, if_neg hexpired]
      cases source with
      | spaceAvailable =>
          dsimp only
          by_cases hdrains : (turns rest.length).drains = true
          · simp only [hdrains, if_true]
            exact ih process
          · simp only [hdrains]
            rfl
      | broker =>
          dsimp only
          by_cases hcontrol : (turns rest.length).control = .none
          · simp only [hcontrol, if_true]
            exact ih _
          · simp only [hcontrol, if_false]
            rfl
      | other => exact ih process

theorem mapSyncRunErrorToPublishError_ne_timeout (error : RunError) :
    mapSyncRunErrorToPublishError error ≠ .timeout := by
  cases error <;> simp [mapSyncRunErrorToPublishError]

/-- What the loop does with its first event: the deadline has passed, its handling fails,
or the loop goes on. -/
theorem handleClockedEvents_cases (deadline : ℤ) (turns : ℕ → ClockedTurn)
    (source : SyncSource) (rest : List SyncSource) (process : PublisherProcess) :
    (deadline ≤ (turns rest.length).reading ∧
      handleClockedEvents deadline turns (source :: rest) process =
        { error := some .timeout
          process
          trace := .read (turns rest.length).reading
            (.expires (source :: rest) (turns rest.length).reading) }) ∨
      (∃ error failed, error ≠ .timeout ∧
        handleClockedEvents deadline turns (source :: rest) process =
          { error := some error
            process := failed
            trace := .read (turns rest.length).reading (.ends (source :: rest)) }) ∨
      ∃ next, handleClockedEvents deadline turns (source :: rest) process =
        (handleClockedEvents deadline turns rest next).mapTrace fun trace =>
          .read (turns rest.length).reading (.handle source trace) := by
  rw [handleClockedEvents.eq_def]
  dsimp only
  by_cases hexpired : deadline ≤ (turns rest.length).reading
  · rw [if_pos hexpired]
    exact .inl ⟨hexpired, rfl⟩
  rw [if_neg hexpired]
  right
  cases source with
  | spaceAvailable =>
      dsimp only
      split
      · exact .inr ⟨process, rfl⟩
      · exact .inl ⟨_, _, by simp, rfl⟩
  | broker =>
      dsimp only
      split
      · exact .inr ⟨_, rfl⟩
      · exact .inl ⟨_, _, mapSyncRunErrorToPublishError_ne_timeout _, rfl⟩
  | other => exact .inr ⟨process, rfl⟩

/-- The loop goes on to the attempt when nothing is pending. -/
theorem handleClockedEvents_pending {deadline : ℤ} {turns : ℕ → ClockedTurn}
    {events : List SyncSource} {process : PublisherProcess}
    (hnone : (handleClockedEvents deadline turns events process).error = none) :
    (handleClockedEvents deadline turns events process).trace.pending = [] := by
  induction events generalizing process with
  | nil => rfl
  | cons source rest ih =>
      rcases handleClockedEvents_cases deadline turns source rest process with
        ⟨-, hrun⟩ | ⟨error, failed, -, hrun⟩ | ⟨next, hrun⟩
      · rw [hrun] at hnone
        cases hnone
      · rw [hrun] at hnone
        cases hnone
      · rw [hrun] at hnone ⊢
        exact ih hnone

/-- Without its trace, a clocked call is the untimed one. -/
theorem publishClockedRounds_untimed (deadline : ℤ) (payload : List Byte)
    (rounds : List ClockedRound) (publisher : SyncPublisher) :
    let run := publishClockedRounds deadline payload rounds publisher.events publisher.process
    (publishRounds payload (rounds.map (·.untimed deadline)) publisher).result = run.result ∧
      (publishRounds payload (rounds.map (·.untimed deadline)) publisher).publisher =
        { publisher with process := run.process, events := run.trace.pending } := by
  induction rounds generalizing publisher with
  | nil => exact ⟨rfl, rfl⟩
  | cons round rounds ih =>
      rw [List.map_cons, publishRounds, publishClockedRounds]
      simp only [ClockedRound.untimed, handleClockedEvents_untimed, decide_eq_true_eq]
      have hpending := @handleClockedEvents_pending deadline round.turns publisher.events
        publisher.process
      generalize handleClockedEvents deadline round.turns publisher.events publisher.process =
        handled at hpending
      obtain ⟨error, process, trace⟩ := handled
      cases error with
      | some error => exact ⟨rfl, rfl⟩
      | none =>
      dsimp only at hpending ⊢
      rw [hpending rfl]
      by_cases hbefore : deadline ≤ round.readingBefore
      · rw [if_pos hbefore, if_pos hbefore]
        exact ⟨rfl, rfl⟩
      rw [if_neg hbefore, if_neg hbefore]
      cases hattempt : tryPublishOne (round.shared process) payload with
      | mk attempt attempted =>
      cases attempt with
      | error error => exact ⟨rfl, rfl⟩
      | ok attempt =>
      cases attempt with
      | succeeded => exact ⟨rfl, rfl⟩
      | blocked =>
      dsimp only [SyncRun.afterAttempt]
      by_cases hafter : deadline ≤ round.readingAfter
      · rw [if_pos hafter, if_pos hafter]
        exact ⟨rfl, rfl⟩
      rw [if_neg hafter, if_neg hafter]
      cases hwait : round.wait with
      | timedOut => exact ⟨rfl, rfl⟩
      | failed => exact ⟨rfl, rfl⟩
      | interrupted => exact ih { publisher with process := attempted, events := [] }
      | fetched events => exact ih { publisher with process := attempted, events }

/-! ## The call keeps its deadline -/

/-- A call that gives up for the time says when. -/
def ClockedRun.SaysWhen (run : ClockedRun) : Prop :=
  run.result = some (.error .timeout) → run.trace.timeoutAt.isSome

theorem handleClockedEvents_timely (deadline : ℤ) (turns : ℕ → ClockedTurn)
    (events : List SyncSource) (process : PublisherProcess) :
    (handleClockedEvents deadline turns events process).trace.Timely deadline events ∧
      ((handleClockedEvents deadline turns events process).error = some .timeout →
        (handleClockedEvents deadline turns events process).trace.timeoutAt.isSome) := by
  induction events generalizing process with
  | nil => exact ⟨Trace.timely_ends _ _, fun herror => by cases herror⟩
  | cons source rest ih =>
      rcases handleClockedEvents_cases deadline turns source rest process with
        ⟨hexpired, hrun⟩ | ⟨error, failed, herror, hrun⟩ | ⟨next, hrun⟩
      · rw [hrun]
        exact ⟨(Trace.timely_expires _ hexpired).read _, fun _ => rfl⟩
      · rw [hrun]
        exact ⟨(Trace.timely_ends _ _).read _, fun htimeout =>
          absurd (Option.some.inj htimeout) herror⟩
      · rw [hrun]
        obtain ⟨htimely, hwhen⟩ := ih next
        exact ⟨(htimely.handle source).read _, hwhen⟩

/-- If the deadline fits, every clocked call keeps it. -/
theorem publishClockedRounds_timely {began timeout : ℤ} (hfits : Fits began timeout)
    (payload : List Byte) (rounds : List ClockedRound) (events : List SyncSource)
    (process : PublisherProcess)
    (hreadings : ∀ reading ∈ (publishClockedRounds (deadline began timeout) payload rounds
      events process).trace.readings, began ≤ reading)
    (hwaits : ∀ wait ∈ (publishClockedRounds (deadline began timeout) payload rounds
      events process).trace.waits, wait.timedOut = true →
        wait.start + wait.timespec.nanos ≤ wait.woke) :
    (publishClockedRounds (deadline began timeout) payload rounds events
        process).trace.Timely (deadline began timeout) events ∧
      (publishClockedRounds (deadline began timeout) payload rounds events
        process).SaysWhen := by
  induction rounds generalizing events process with
  | nil => exact ⟨Trace.timely_ends _ _, fun htimeout => by cases htimeout⟩
  | cons round rounds ih =>
      rw [publishClockedRounds] at hreadings hwaits ⊢
      obtain ⟨hevents, hwhen⟩ := handleClockedEvents_timely (deadline began timeout)
        round.turns events process
      have hpending := @handleClockedEvents_pending (deadline began timeout) round.turns
        events process
      generalize handleClockedEvents (deadline began timeout) round.turns events process =
        handled at hevents hwhen hpending hreadings hwaits ⊢
      obtain ⟨error, handledProcess, trace⟩ := handled
      cases error with
      | some error =>
          exact ⟨hevents, fun htimeout => hwhen (congrArg some
            (Except.error.inj (Option.some.inj htimeout)))⟩
      | none =>
      have hpending := hpending rfl
      dsimp only at hpending hreadings hwaits ⊢
      by_cases hbefore : deadline began timeout ≤ round.readingBefore
      · rw [if_pos hbefore]
        exact ⟨hevents.after hpending ((Trace.timely_expires _ hbefore).read _), fun _ => rfl⟩
      rw [if_neg hbefore] at hreadings hwaits ⊢
      cases hattempt : tryPublishOne (round.shared handledProcess) payload with
      | mk attempt attempted =>
      rw [hattempt] at hreadings hwaits
      cases attempt with
      | error error =>
          exact ⟨hevents.after hpending ((Trace.timely_ends _ _).read _), fun htimeout =>
            absurd (Except.error.inj (Option.some.inj htimeout))
              (mapSyncRunErrorToPublishError_ne_timeout error)⟩
      | ok attempt =>
      cases attempt with
      | succeeded =>
          exact ⟨hevents.after hpending ((Trace.timely_ends _ _).read _), fun htimeout => by
            cases htimeout⟩
      | blocked =>
      dsimp only at hreadings hwaits ⊢
      by_cases hafter : deadline began timeout ≤ round.readingAfter
      · rw [if_pos hafter]
        exact ⟨hevents.after hpending (((Trace.timely_expires _ hafter).read _).read _),
          fun _ => rfl⟩
      rw [if_neg hafter] at hreadings hwaits ⊢
      have hbegan : began ≤ round.readingAfter := hreadings _ (by
        simp [ClockedRun.mapTrace, Trace.after, Trace.read])
      obtain ⟨hisInt64, hleft, hpositive⟩ := remaining_of_lt hfits hbegan (not_le.mp hafter)
      rw [hleft] at hreadings hwaits ⊢
      obtain ⟨hwellFormed, hnanos⟩ := splitNanos_wellFormed hpositive.le hisInt64
      have hresults := List.forall_mem_cons.mpr
        ⟨hisInt64, splitResults_fit hpositive.le hisInt64⟩
      -- What the round has done before it goes on from the wait.
      have hround : ∀ {fetched : List SyncSource} {rest : Trace SyncSource} {wait : Wait},
          wait.timespec.WellFormed → rest.Timely (deadline began timeout) fetched →
          (trace.after (.read round.readingBefore (.read round.readingAfter
            (.compute ((deadline began timeout - round.readingAfter) ::
              splitResults (deadline began timeout - round.readingAfter))
                (.wait wait fetched rest))))).Timely (deadline began timeout) events :=
        fun hwait hrest => hevents.after hpending
          ((((hrest.wait hwait).compute hresults).read _).read _)
      cases hwait : round.wait with
      | timedOut =>
          rw [hwait] at hwaits
          refine ⟨hround hwellFormed (Trace.timely_expires _ ?_), fun _ => rfl⟩
          have hwoke : round.readingAfter +
              (splitNanos (deadline began timeout - round.readingAfter)).nanos ≤ round.woke :=
            hwaits ⟨_, _, true, _⟩ (List.mem_append_right _ List.mem_cons_self) rfl
          omega
      | failed =>
          exact ⟨hround hwellFormed (Trace.timely_ends _ _), fun htimeout => by
            cases htimeout⟩
      | interrupted =>
          rw [hwait] at hreadings hwaits
          obtain ⟨hrest, hrestSays⟩ := ih [] attempted
            (fun reading hmem => hreadings reading (List.mem_append_right _
              (List.mem_cons_of_mem _ (List.mem_cons_of_mem _ hmem))))
            fun wait hmem => hwaits wait (List.mem_append_right _ (List.mem_cons_of_mem _ hmem))
          exact ⟨hround hwellFormed hrest, hrestSays⟩
      | fetched fetched =>
          rw [hwait] at hreadings hwaits
          obtain ⟨hrest, hrestSays⟩ := ih fetched attempted
            (fun reading hmem => hreadings reading (List.mem_append_right _
              (List.mem_cons_of_mem _ (List.mem_cons_of_mem _ hmem))))
            fun wait hmem => hwaits wait (List.mem_append_right _ (List.mem_cons_of_mem _ hmem))
          exact ⟨hround hwellFormed hrest, hrestSays⟩

/-- A call keeps time exactly if its deadline fits, or it is refused before it forms one. -/
theorem publishClocked_keepsTime_iff {publisher : SyncPublisher} {payload : List Byte}
    {began timeout : ℤ} {rounds : List ClockedRound}
    (hrealistic : (publisher.publishClocked payload began timeout rounds).trace.Realistic
      began) :
    (publisher.publishClocked payload began timeout rounds).trace.KeepsTime began timeout
        publisher.events
        ((publisher.publishClocked payload began timeout rounds).result =
          some (.error .timeout)) ↔
      (publisher.synchronous = true → payload.length ≤ kMaxPayloadSizeBytes →
        Fits began timeout) := by
  unfold SyncPublisher.publishClocked at hrealistic ⊢
  cases hsynchronous : publisher.synchronous with
  | false =>
      rw [if_pos rfl]
      exact iff_of_true (Trace.keepsTime_ends (by simp) _) (by simp)
  | true =>
  rw [if_neg (by simp [hsynchronous])] at hrealistic ⊢
  by_cases hlarge : kMaxPayloadSizeBytes < payload.length
  · rw [if_pos hlarge]
    exact iff_of_true (Trace.keepsTime_ends (by simp) _) fun _ hsmall => by omega
  rw [if_neg hlarge] at hrealistic ⊢
  constructor
  · intro hkeeps _ _
    refine (deadlineResults_fit_iff began timeout).mp fun value hmem => ?_
    exact hkeeps.results_isInt64 value (List.mem_append_left _ hmem)
  · intro hfits
    have hfits := hfits rfl (by omega)
    obtain ⟨htimely, hwhen⟩ := publishClockedRounds_timely hfits payload rounds
      publisher.events publisher.process
      (fun _ hmem => List.rel_of_pairwise_cons hrealistic.ordered hmem) hrealistic.waited
    exact (htimely.compute ((deadlineResults_fit_iff began timeout).mpr hfits)).keepsTime
      hfits hwhen

end DriveBus.Synchronous
