import DriveBus.Asynchronous.Attempt

/-!
# Synchronous publishing

`publish(payload, timeout)` handles the events that its last wait has fetched, tries to
publish, and waits for space if the attempt is blocked.  A run of the call is given by
its rounds: what the clock, the kernel, the broker and the subscribers do in each.
-/

namespace DriveBus.Synchronous

open DriveBus.ByteMemory DriveBus.SharedMemory DriveBus.Asynchronous

/-- The descriptors that a synchronous publisher waits for. -/
inductive SyncSource
  | spaceAvailable
  | broker
  | other
  deriving DecidableEq, Repr

/-- A synchronous publisher; `events` are the fetched events from `event_index_` on. -/
structure SyncPublisher where
  synchronous : Bool
  process : PublisherProcess
  events : List SyncSource

/-- What happens while one event is handled: whether the deadline has passed, whether
the eventfd drains, and what processing the broker's records does and returns. -/
structure EventTurn where
  expired : Bool
  drains : Bool
  controlled : PublisherProcess → PublisherProcess
  control : RunError

inductive WaitOutcome
  | fetched (events : List SyncSource)
  | timedOut
  | interrupted
  | failed

/-- One round of the loop.  `turns` are indexed by the number of events behind the one
that is handled; `shared` is what the subscribers do before the attempt. -/
structure Round where
  turns : ℕ → EventTurn
  expiredBefore : Bool
  shared : PublisherProcess → PublisherProcess
  expiredAfter : Bool
  wait : WaitOutcome

/-- `map_sync_run_error_to_publish_error`; no caller passes `RunError::None`, on which
it would terminate the process. -/
def mapSyncRunErrorToPublishError : RunError → PublishError
  | .spaceAvailableEventReadFailed => .eventWaitFailed
  | .brokerClosed | .brokerControlMessageTooShort | .brokerControlMessageProcessingFailed
  | .dynamicSubscriberRegistrationFailed | .chunkReferenceReleaseFailed
  | .deadSubscriberReapFailed => .brokerUnavailable
  | _ => .dataPathFailed

/-- The loop over the fetched events; an event whose handling ends the call stays. -/
def handleEvents (turns : ℕ → EventTurn) :
    List SyncSource → PublisherProcess → Option PublishError × List SyncSource × PublisherProcess
  | [], process => (none, [], process)
  | source :: rest, process =>
      let turn := turns rest.length
      if turn.expired then (some .timeout, source :: rest, process)
      else match source with
        | .spaceAvailable =>
            if turn.drains then handleEvents turns rest process
            else (some .eventWaitFailed, source :: rest, process)
        | .broker =>
            if turn.control = .none then handleEvents turns rest (turn.controlled process)
            else (some (mapSyncRunErrorToPublishError turn.control), source :: rest,
              turn.controlled process)
        | .other => handleEvents turns rest process

/-- How far a call has come: its result if it has returned, and, as history, the
processes at which it has tried to publish and what its attempts have added to the
ring. -/
structure SyncRun where
  result : Option (Except PublishError PublishDisposition)
  publisher : SyncPublisher
  attempts : List PublisherProcess
  appended : List (List Byte)

namespace SyncRun

def returned (result : Except PublishError PublishDisposition) (publisher : SyncPublisher) :
    SyncRun where
  result := some result
  publisher := publisher
  attempts := []
  appended := []

/-- The run whose first attempt was made at `process` and added `appended`. -/
def afterAttempt (process : PublisherProcess) (appended : Option (List Byte)) (run : SyncRun) :
    SyncRun :=
  { run with
    attempts := process :: run.attempts
    appended := appended.toList ++ run.appended }

end SyncRun

def publishRounds (payload : List Byte) : List Round → SyncPublisher → SyncRun
  | [], publisher => { result := none, publisher, attempts := [], appended := [] }
  | round :: rounds, publisher =>
      match handleEvents round.turns publisher.events publisher.process with
      | (some error, events, process) =>
          .returned (.error error) { publisher with process, events }
      | (none, events, handled) =>
          if round.expiredBefore then
            .returned (.error .timeout) { publisher with process := handled, events }
          else
            let before := round.shared handled
            let (attempt, process) := tryPublishOne before payload
            let appended := appendedPayload before.shared process.shared
            let publisher := { publisher with process, events := [] }
            SyncRun.afterAttempt before appended
              (match attempt with
              | .error error =>
                  .returned (.error (mapSyncRunErrorToPublishError error)) publisher
              | .ok .succeeded => .returned (.ok .published) publisher
              | .ok .blocked =>
                  if round.expiredAfter then .returned (.error .timeout) publisher
                  else match round.wait with
                    | .timedOut => .returned (.error .timeout) publisher
                    | .failed => .returned (.error .eventWaitFailed) publisher
                    | .interrupted => publishRounds payload rounds publisher
                    | .fetched events => publishRounds payload rounds { publisher with events })

/-- `publish(payload, timeout)`, with memory for the ticket of a message that has been
appended. -/
def SyncPublisher.publish (publisher : SyncPublisher) (payload : List Byte)
    (rounds : List Round) : SyncRun :=
  if publisher.synchronous = false then .returned (.error .modeMismatch) publisher
  else if kMaxPayloadSizeBytes < payload.length then
    .returned (.error .payloadTooLarge) publisher
  else publishRounds payload rounds publisher

end DriveBus.Synchronous
