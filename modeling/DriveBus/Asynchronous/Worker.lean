import DriveBus.Asynchronous.Queue

/-!
# An asynchronous publisher and its worker

The worker thread runs the event loop of `run` and its exit path; the threads of the
application publish, stop the worker and join it.  Every step is one section under
the mutex, one access to a shared flag or one system call, so the steps of all threads
interleave freely.  What the shared mapping answers to an attempt or to a check for
space is a parameter of the step.
-/

namespace DriveBus.Asynchronous

open DriveBus.ByteMemory DriveBus.SharedMemory

/-! ## Program positions -/

/-- The descriptors in the worker's epoll set. -/
inductive EventSource
  | publishWork
  | spaceAvailable
  | broker
  | shutdown
  deriving DecidableEq, Repr

inductive WorkerStopIntent
  | destroy
  | transfer
  deriving DecidableEq, Repr

/-- The two handlers that resume publishing. -/
inductive Resumer
  | spaceAvailable
  | brokerControl
  deriving DecidableEq, Repr

def Resumer.resumeError : Resumer → RunError
  | spaceAvailable => .publishWorkResumeFailed
  | brokerControl => .publishWorkBrokerResumeFailed

/-- Where the worker thread is; `published` counts the messages of one work event. -/
inductive WorkerPhase
  | polling
  | workDrained
  | publishing (published : ℕ)
  | attempted (published : ℕ) (attempt : PublishAttempt)
  | rescheduling
  | controlling
  | checking (resumer : Resumer)
  | resuming (resumer : Resumer)
  | leaving (reason : RunError)
  | inactive (reason : RunError)
  | completed (reason : RunError)
  | notified (reason : RunError)
  | finished (reason : RunError)
  deriving DecidableEq, Repr

/-- Where the thread that moves or destroys the object is inside
`stop_run_thread`; `joined` keeps the value that it returns. -/
inductive OwnerPhase
  | free
  | activeLoaded (stopIntent : WorkerStopIntent) (wasActive : Bool)
  | intentStored (stopIntent : WorkerStopIntent)
  | joining (stopIntent : WorkerStopIntent) (wasActive : Bool)
  | joined (stopIntent : WorkerStopIntent) (restart : Bool)
  deriving DecidableEq, Repr

/-! ## The object -/

/-- The members of an asynchronous `Publisher` that its threads share, and its history.
`signalled` says which eventfds are readable, `events` are the fetched events not yet
handled, and `worker` is empty while no thread is joinable. -/
structure AsyncPublisher where
  queue : MessageQueue
  journal : Journal
  publisherReady : Bool
  signalled : EventSource → Bool
  workerExitSignalled : Bool
  events : List EventSource
  runThreadActive : Bool
  workerStopIntent : WorkerStopIntent
  worker : Option WorkerPhase
  owner : OwnerPhase

inductive PublishOutcome
  | ticket (disposition : PublishDisposition) (ticket : ℕ)
  | error (error : PublishError)
  | thrown
  deriving DecidableEq, Repr

namespace AsyncPublisher

def setSignalled (publisher : AsyncPublisher) (source : EventSource) (readable : Bool) :
    AsyncPublisher :=
  { publisher with signalled := Function.update publisher.signalled source readable }

def setWorker (publisher : AsyncPublisher) (phase : WorkerPhase) : AsyncPublisher :=
  { publisher with worker := some phase }

/-- `publish(payload)`, which holds the mutex from its first access to its last. -/
def publish (publisher : AsyncPublisher) (payload : List Byte) (env : EnqueueEnv) :
    PublishOutcome × AsyncPublisher :=
  if kMaxPayloadSizeBytes < payload.length then (.error .payloadTooLarge, publisher)
  else if publisher.runThreadActive = false then (.error .workerExited, publisher)
  else
    let message : PendingMessage := { payload, ticket := publisher.journal.nextTicket }
    let (result, queue) := publisher.queue.enqueue env message
    let queued := { publisher with
      queue
      journal := { publisher.journal with nextTicket := publisher.journal.nextTicket + 1 } }
    match result with
    | .thrown none => (.thrown, queued)
    | .thrown (some victim) =>
        (.thrown, { queued with journal := queued.journal.destroy victim })
    | .notificationFailed => (.error .notificationFailed, queued)
    | .accepted overwritten =>
        let accepted := { queued.setSignalled .publishWork true with
          journal := { queued.journal with accepted := queued.journal.accepted ++ [message] } }
        match overwritten with
        | none => (.ticket .enqueued message.ticket, accepted)
        | some victim =>
            (.ticket .enqueuedAfterOverwritingOldest message.ticket, { accepted with
              journal := accepted.journal.setValue .overwritten victim })

/-! ## The event loop -/

def leave (publisher : AsyncPublisher) (reason : RunError) : AsyncPublisher :=
  publisher.setWorker (.leaving reason)

/-- What `epoll_wait` returns: some of the readable descriptors, each once. -/
def fetch (publisher : AsyncPublisher) (events : List EventSource) : Option AsyncPublisher :=
  if publisher.events = [] ∧ events ≠ [] ∧ events.Nodup ∧
      ∀ source ∈ events, publisher.signalled source = true then
    some { publisher with events }
  else none

/-- Take the next fetched event and drain its descriptor. -/
def dispatch (publisher : AsyncPublisher) (drains : Bool) : Option AsyncPublisher :=
  match publisher.events with
  | [] => none
  | source :: events =>
      let taken := { publisher with events }
      match source, drains with
      | .publishWork, true => some ((taken.setSignalled .publishWork false).setWorker .workDrained)
      | .publishWork, false => some (taken.leave .publishWorkEventReadFailed)
      | .spaceAvailable, true =>
          some ((taken.setSignalled .spaceAvailable false).setWorker (.checking .spaceAvailable))
      | .spaceAvailable, false => some (taken.leave .spaceAvailableEventReadFailed)
      | .broker, _ => some (taken.setWorker .controlling)
      | .shutdown, true => some ((taken.setSignalled .shutdown false).leave .none)
      | .shutdown, false => some (taken.leave .shutdownEventReadFailed)

/-- The records of the broker have been processed, or one of them has failed. -/
def controlProcessed (publisher : AsyncPublisher) (error : RunError) : AsyncPublisher :=
  if error = .none then
    (publisher.setSignalled .broker false).setWorker (.checking .brokerControl)
  else publisher.leave error

/-- The rest of the locked section once the publishing loop has ended. -/
def endLoop (publisher : AsyncPublisher) : AsyncPublisher :=
  if publisher.publisherReady = false ∨ publisher.queue.outstanding = [] then
    publisher.setWorker .polling
  else publisher.setWorker .rescheduling

/-- The head of the publishing loop, up to the unlock. -/
def enterLoop (publisher : AsyncPublisher) (published : ℕ) : AsyncPublisher :=
  if published < kMaxPublishesPerWorkEvent then
    match publisher.queue.beginPublishing with
    | some (_, queue) => { publisher with queue }.setWorker (.publishing published)
    | none => publisher.endLoop
  else publisher.endLoop

/-- The locked section of `handle_publish_work_event` before its loop. -/
def beginWork (publisher : AsyncPublisher) : AsyncPublisher :=
  if publisher.publisherReady = false ∧
      publisher.queue.inFlight.any (·.state = .blocked) then
    publisher.setWorker .polling
  else { publisher with publisherReady := true }.enterLoop 0

/-- Log what an attempt for the message in flight has added to the ring. -/
def logAppended (publisher : AsyncPublisher) (appended : Option (List Byte)) :
    AsyncPublisher :=
  match publisher.queue.inFlight, appended with
  | some inFlight, some payload => { publisher with
      journal := { publisher.journal with
        appended := publisher.journal.appended ++
          [{ payload, ticket := inFlight.message.ticket }] } }
  | _, _ => publisher

/-- `try_publish_one` has returned; `appended` is what it has added to the ring. -/
def attempt (publisher : AsyncPublisher) (published : ℕ)
    (result : Except RunError PublishAttempt) (appended : Option (List Byte)) :
    AsyncPublisher :=
  let logged := publisher.logAppended appended
  match result with
  | .error error => logged.leave error
  | .ok attempt => logged.setWorker (.attempted published attempt)

/-- The locked section after an attempt. -/
def recordAttempt (publisher : AsyncPublisher) (published : ℕ) (attempt : PublishAttempt) :
    AsyncPublisher :=
  match attempt with
  | .blocked => { publisher with publisherReady := false, queue := publisher.queue.block }.endLoop
  | .succeeded =>
      let settled := match publisher.queue.inFlight with
        | some inFlight => publisher.journal.setValue .published inFlight.message
        | none => publisher.journal
      { publisher with journal := settled, queue := publisher.queue.clearInFlight }.enterLoop
        (published + 1)

def reschedule (publisher : AsyncPublisher) (signals : Bool) : AsyncPublisher :=
  if signals then (publisher.setSignalled .publishWork true).setWorker .polling
  else publisher.leave .publishWorkRescheduleFailed

/-- `can_publish_next_message` has returned. -/
def checked (publisher : AsyncPublisher) (resumer : Resumer)
    (readiness : Except RunError PublishReadiness) : AsyncPublisher :=
  match readiness with
  | .error error => publisher.leave error
  | .ok .ready => { publisher with publisherReady := true }.setWorker (.resuming resumer)
  | .ok _ => publisher.setWorker .polling

def resume (publisher : AsyncPublisher) (resumer : Resumer) (signals : Bool) :
    AsyncPublisher :=
  if signals then (publisher.setSignalled .publishWork true).setWorker .polling
  else publisher.leave resumer.resumeError

/-! ## The exit path -/

/-- `complete_outstanding_messages`; the queue keeps the settled messages. -/
def completeOutstandingMessages (publisher : AsyncPublisher) (completion : PublishCompletion) :
    AsyncPublisher :=
  { publisher with
    journal := publisher.queue.outstanding.foldl (·.setValue completion ·) publisher.journal }

def complete (publisher : AsyncPublisher) (reason : RunError) : AsyncPublisher :=
  let settled :=
    if reason ≠ .none then publisher.completeOutstandingMessages .workerFailed
    else if publisher.workerStopIntent ≠ .transfer then
      publisher.completeOutstandingMessages .workerStopped
    else publisher
  settled.setWorker (.completed reason)

/-- The last signal of the worker; its failure is only logged. -/
def signalExit (publisher : AsyncPublisher) (reason : RunError) (signals : Bool) :
    AsyncPublisher :=
  { publisher with
    workerExitSignalled := publisher.workerExitSignalled || signals }.setWorker (.finished reason)

/-! ## Starting and stopping the worker -/

/-- `start_run_thread`; `run` begins with the publisher ready. -/
def startRunThread (publisher : AsyncPublisher) : AsyncPublisher :=
  { publisher with
    workerStopIntent := .destroy
    runThreadActive := true
    publisherReady := true
    worker := some .polling }

def beginStop (publisher : AsyncPublisher) (stopIntent : WorkerStopIntent) : AsyncPublisher :=
  match publisher.worker with
  | none => { publisher with owner := .joined stopIntent false }
  | some _ => { publisher with owner := .activeLoaded stopIntent publisher.runThreadActive }

def storeIntent (publisher : AsyncPublisher) (stopIntent : WorkerStopIntent)
    (wasActive : Bool) : AsyncPublisher :=
  if wasActive then
    { publisher with workerStopIntent := stopIntent, owner := .intentStored stopIntent }
  else { publisher with owner := .joining stopIntent false }

/-- The shutdown signal; its failure is only logged. -/
def signalShutdown (publisher : AsyncPublisher) (stopIntent : WorkerStopIntent)
    (signals : Bool) : AsyncPublisher :=
  { publisher.setSignalled .shutdown (publisher.signalled .shutdown || signals) with
    owner := .joining stopIntent true }

/-- `join` returns once the thread has finished. -/
def join (publisher : AsyncPublisher) (stopIntent : WorkerStopIntent) (wasActive : Bool) :
    Option AsyncPublisher :=
  match publisher.worker with
  | some (.finished reason) => some { publisher with
      owner := .joined stopIntent
        (wasActive && decide (stopIntent = .transfer) && decide (reason = .none)) }
  | _ => none

end AsyncPublisher

/-! ## Steps -/

inductive Action
  | publish (payload : List Byte) (env : EnqueueEnv)
  | signal (source : EventSource)
  | fetch (events : List EventSource)
  | fetchFails (timedOut : Bool)
  | dispatch (drains : Bool)
  | controlProcessed (error : RunError)
  | beginWork
  | attempt (result : Except RunError PublishAttempt) (appended : Option (List Byte))
  | recordAttempt
  | reschedule (signals : Bool)
  | checked (readiness : Except RunError PublishReadiness)
  | resume (signals : Bool)
  | deactivate
  | complete
  | notify
  | signalExit (signals : Bool)
  | beginStop (stopIntent : WorkerStopIntent)
  | storeIntent
  | signalShutdown (signals : Bool)
  | join

namespace AsyncPublisher

/-- One step of one thread.  Members may not be called while the object is being
moved or destroyed. -/
def next (publisher : AsyncPublisher) (action : Action) : Option AsyncPublisher :=
  match action, publisher.worker, publisher.owner with
  | .publish payload env, _, .free => some (publisher.publish payload env).2
  | .signal .spaceAvailable, _, _ => some (publisher.setSignalled .spaceAvailable true)
  | .signal .broker, _, _ => some (publisher.setSignalled .broker true)
  | .fetch events, some .polling, _ => publisher.fetch events
  | .fetchFails timedOut, some .polling, _ =>
      if publisher.events = [] then
        some (publisher.leave (if timedOut then .unexpectedEpollTimeout else .epollWaitFailed))
      else none
  | .dispatch drains, some .polling, _ => publisher.dispatch drains
  | .controlProcessed error, some .controlling, _ => some (publisher.controlProcessed error)
  | .beginWork, some .workDrained, _ => some publisher.beginWork
  | .attempt result appended, some (.publishing published), _ =>
      some (publisher.attempt published result appended)
  | .recordAttempt, some (.attempted published attempt), _ =>
      some (publisher.recordAttempt published attempt)
  | .reschedule signals, some .rescheduling, _ => some (publisher.reschedule signals)
  | .checked readiness, some (.checking resumer), _ =>
      some (publisher.checked resumer readiness)
  | .resume signals, some (.resuming resumer), _ => some (publisher.resume resumer signals)
  | .deactivate, some (.leaving reason), _ =>
      some ({ publisher with runThreadActive := false }.setWorker (.inactive reason))
  | .complete, some (.inactive reason), _ => some (publisher.complete reason)
  | .notify, some (.completed reason), _ => some (publisher.setWorker (.notified reason))
  | .signalExit signals, some (.notified reason), _ =>
      some (publisher.signalExit reason signals)
  | .beginStop stopIntent, _, .free => some (publisher.beginStop stopIntent)
  | .storeIntent, _, .activeLoaded stopIntent wasActive =>
      some (publisher.storeIntent stopIntent wasActive)
  | .signalShutdown signals, _, .intentStored stopIntent =>
      some (publisher.signalShutdown stopIntent signals)
  | .join, _, .joining stopIntent wasActive => publisher.join stopIntent wasActive
  | _, _, _ => none

end AsyncPublisher

end DriveBus.Asynchronous
