import DriveBus.SharedMemory.DrainedEvents

/-!
# The exit of a publisher

A publisher exits after its last publish has returned, and the broker tells its
subscribers.  A subscriber hears of it as of its data events, through epoll: it handles the
events of one batch in the order in which they were reported, and the control event that
brings the broker's record releases the attachment, whatever is still unread.
-/

namespace DriveBus.SharedMemory

open DriveBus.ByteMemory DriveBus.Transition

def kMaxEvents : ℕ := 1024

/-- What epoll reports to the loop of a subscriber. -/
inductive LoopEvent
  | data
  | control
  deriving DecidableEq

/-- The event loop around one attachment: whether the broker's record of it has arrived,
whether it is installed, whether the record of its end has arrived, whether it has been
released, and what is left of the batch of events.  `late` is history: the batch was fetched
with the attachment installed, after the publisher had exited, and had room left. -/
structure AttachmentLoop where
  announced : Bool
  installed : Bool
  disconnected : Bool
  released : Bool
  batch : List LoopEvent
  late : Bool

def AttachmentLoop.initial : AttachmentLoop where
  announced := false
  installed := false
  disconnected := false
  released := false
  batch := []
  late := false

/-- History: an attachment that was released, with the messages that its events had handed
over, those that were published after it was tracked, how many descriptors were unread,
whether its eventfd was readable, and the events behind the one that released it. -/
structure Release where
  handedOver : List (List Byte)
  due : List (List Byte)
  unread : ℕ
  readable : Bool
  behind : List LoopEvent
  late : Bool

structure ExitPlane where
  events : EventPlane
  exited : Bool
  loops : ℕ → AttachmentLoop
  releases : List Release

inductive ExitAction
  | store (payload : List Byte)
  | signal
  | track (dataAvailableEventFd slotIndex : ℕ)
  | reap (slotIndex : ℕ)
  /-- The publisher exits. -/
  | exit
  /-- The record of the attachment reaches the subscriber. -/
  | announce (slotIndex : ℕ)
  /-- The record of its end reaches the subscriber. -/
  | disconnect (slotIndex : ℕ)
  /-- `epoll_wait`, with the events that it reports of this attachment and the number of
  other events beside them. -/
  | wait (slotIndex : ℕ) (batch : List LoopEvent) (others : ℕ)
  /-- The next event of the batch. -/
  | dispatch (slotIndex : ℕ)
  /-- An access of the data event that is being handled. -/
  | handle (action : EventAction)

/-- The slot whose data event an access belongs to, from the drain on. -/
def EventAction.handles : EventAction → Option ℕ
  | .initializeReadIndex slotIndex | .load slotIndex | .copy slotIndex
  | .readPayload slotIndex | .clearReference slotIndex | .storeReadIndex slotIndex
  | .returnChunk slotIndex | .signalSpace slotIndex | .reload slotIndex => some slotIndex
  | _ => none

namespace ExitPlane

def readable (state : ExitPlane) (slotIndex : ℕ) : Bool :=
  (state.events.plane.eventFds (state.events.handlers slotIndex).eventFd).any (0 < ·)

/-- The loop is between two events of a subscriber that is there. -/
def Between (state : ExitPlane) (slotIndex : ℕ) : Prop :=
  (state.events.plane.readers slotIndex).isSome ∧
    (state.events.handlers slotIndex).phase = .waiting

instance instDecidableBetween (state : ExitPlane) (slotIndex : ℕ) :
    Decidable (state.Between slotIndex) :=
  inferInstanceAs (Decidable (_ ∧ _))

def setLoop (state : ExitPlane) (slotIndex : ℕ) (loop : AttachmentLoop) : ExitPlane :=
  { state with loops := Function.update state.loops slotIndex loop }

/-- The descriptors between the read index of a subscriber and the write index. -/
def unread (state : ExitPlane) (slotIndex : ℕ) : ℕ :=
  (state.events.plane.shared.descriptorWriteIndex + kDescriptorSlotCount -
    state.events.plane.shared.descriptorReadIndices slotIndex) % kDescriptorSlotCount

/-- The events that `epoll_wait` may report: what is ready, and all of it unless the batch
is full. -/
def Reports (state : ExitPlane) (slotIndex : ℕ) (batch : List LoopEvent) (others : ℕ) :
    Prop :=
  let loop := state.loops slotIndex
  batch.Nodup ∧ batch.length + others ≤ kMaxEvents ∧
    (.data ∈ batch → loop.installed ∧ state.readable slotIndex) ∧
    (batch.length + others < kMaxEvents →
      (loop.installed ∧ state.readable slotIndex → .data ∈ batch) ∧
      (loop.announced ≠ loop.installed ∨ loop.disconnected → .control ∈ batch))

instance instDecidableReports (state : ExitPlane) (slotIndex : ℕ) (batch : List LoopEvent)
    (others : ℕ) : Decidable (state.Reports slotIndex batch others) :=
  inferInstanceAs (Decidable (_ ∧ _))

/-- The record of an attachment that is released before these events. -/
def release (state : ExitPlane) (slotIndex : ℕ) (reader : Reader) (behind : List LoopEvent) :
    Release where
  handedOver := (state.events.handlers slotIndex).handedOver.flatten
  due := (state.events.plane.published.drop reader.joinedAt).map Message.payload
  unread := state.unread slotIndex
  readable := state.readable slotIndex
  behind := behind
  late := (state.loops slotIndex).late

/-- What the publisher does before it exits; a new subscriber has a loop of its own. -/
def publisher (state : ExitPlane) (action : EventAction) (loops : ℕ → AttachmentLoop) :
    Option ExitPlane :=
  if state.exited then none
  else (state.events.next action).map fun events => { state with events, loops }

/-- The next event of the batch.  The control event installs the attachment, or releases it
once the record of its end is there, and a data event that finds it released is ignored. -/
def dispatch (state : ExitPlane) (slotIndex : ℕ) : Option ExitPlane :=
  let loop := state.loops slotIndex
  match loop.batch, state.events.plane.readers slotIndex with
  | [], _ | _, none => none
  | event :: rest, some reader =>
      if (state.events.handlers slotIndex).phase ≠ .waiting then none
      else if loop.released then some (state.setLoop slotIndex { loop with batch := rest })
      else
        match event with
        | .data => (state.events.drain slotIndex).map fun events =>
            { state with events }.setLoop slotIndex { loop with batch := rest }
        | .control =>
            if loop.disconnected then
              some { state.setLoop slotIndex { loop with released := true, batch := rest } with
                releases := state.releases ++ [state.release slotIndex reader rest] }
            else some (state.setLoop slotIndex
              { loop with installed := loop.announced, batch := rest })

def next (state : ExitPlane) : ExitAction → Option ExitPlane
  | .store payload => state.publisher (.store payload) state.loops
  | .signal => state.publisher .signal state.loops
  | .track dataAvailableEventFd slotIndex =>
      state.publisher (.track dataAvailableEventFd slotIndex)
        (if (state.events.plane.readers slotIndex).isNone then
          Function.update state.loops slotIndex .initial
        else state.loops)
  | .reap slotIndex => state.publisher (.reap slotIndex) state.loops
  | .exit =>
      if state.exited = false ∧ state.events.signalling = [] then
        some { state with exited := true }
      else none
  | .announce slotIndex =>
      some (state.setLoop slotIndex { state.loops slotIndex with announced := true })
  | .disconnect slotIndex =>
      if state.exited ∧ (state.loops slotIndex).announced then
        some (state.setLoop slotIndex { state.loops slotIndex with disconnected := true })
      else none
  | .wait slotIndex batch others =>
      let loop := state.loops slotIndex
      if state.Between slotIndex ∧ loop.released = false ∧ loop.batch = [] ∧
          state.Reports slotIndex batch others then
        some (state.setLoop slotIndex
          { loop with
            batch
            late := loop.installed && state.exited &&
              decide (batch.length + others < kMaxEvents) })
      else none
  | .dispatch slotIndex => state.dispatch slotIndex
  | .handle action =>
      match action.handles with
      | none => none
      | some slotIndex =>
          if (state.loops slotIndex).released then none
          else (state.events.next action).map fun events => { state with events }

end ExitPlane

/-- A publisher that may exit, over a fresh mapping. -/
def exitPlane (mapped : SharedData) : System ExitPlane ExitAction where
  initial :=
    { events := (eventPlane mapped).initial
      exited := false
      loops := fun _ => .initial
      releases := [] }
  next := ExitPlane.next

/-! ## Accesses after the exit -/

namespace EventPlane

variable {events events' : EventPlane} {action : EventAction} {slot : ℕ}

@[simp]
theorem setPhase_eventFd (phase : HandlerPhase) (other : ℕ) :
    ((events.setPhase slot phase).handlers other).eventFd = (events.handlers other).eventFd := by
  by_cases heq : other = slot
  · subst heq
    simp [setPhase, setHandler]
  · simp [setPhase, setHandler, heq]

/-- Two states with the same eventfds. -/
structure SameEventFds (events events' : EventPlane) : Prop where
  eventFds : events'.plane.eventFds = events.plane.eventFds
  signalling : events'.signalling = events.signalling
  handlers : ∀ other, (events'.handlers other).eventFd = (events.handlers other).eventFd

theorem SameEventFds.setPhase {events' : EventPlane} (hsame : SameEventFds events events')
    (phase : HandlerPhase) : SameEventFds events (events'.setPhase slot phase) where
  eventFds := hsame.eventFds
  signalling := hsame.signalling
  handlers other := (setPhase_eventFd phase other).trans (hsame.handlers other)

/-- A new handler of the same eventfd. -/
theorem SameEventFds.setHandler {events' : EventPlane} (hsame : SameEventFds events events')
    {handler : EventHandler} (heventFd : handler.eventFd = (events.handlers slot).eventFd) :
    SameEventFds events (events'.setHandler slot handler) where
  eventFds := hsame.eventFds
  signalling := hsame.signalling
  handlers other := by
    change (Function.update events'.handlers slot handler other).eventFd = _
    by_cases heq : other = slot
    · subst heq
      rw [Function.update_self, heventFd]
    · rw [Function.update_of_ne heq, hsame.handlers]

/-- A step of the data plane inside `read_data`. -/
theorem read_sameEventFds {step : Option (Outcome × State)} {outcome : Outcome}
    (hplane : ∀ outcome plane, step = some (outcome, plane) →
      plane.eventFds = events.plane.eventFds)
    (hread : events.read slot step = some (outcome, events')) : SameEventFds events events' := by
  unfold read at hread
  split at hread
  · obtain ⟨⟨other, plane⟩, hstep, heq⟩ := Option.map_eq_some_iff.mp hread
    simp only [Prod.mk.injEq] at heq
    obtain ⟨-, rfl⟩ := heq
    exact ⟨hplane other plane hstep, rfl, fun _ => rfl⟩
  · cases hread

/-- A subscriber's own steps leave the eventfds of the data events alone. -/
theorem consume_eventFds {state state' : State} (action : Action) {outcome : Outcome}
    (hconsumes : ConsumesMessages action) (hstep : state.step action = some (outcome, state')) :
    state'.eventFds = state.eventFds := by
  cases action with
  | publish | track | reap => exact hconsumes.elim
  | fetchDescriptors slot =>
      simp only [State.step, State.fetchDescriptors] at hstep
      split at hstep
      · cases hstep
      · split at hstep
        · cases hstep
          rfl
        · cases hstep
  | readPayload slot =>
      simp only [State.step, State.readPayload, Option.bind_eq_bind,
        Option.bind_eq_some_iff] at hstep
      obtain ⟨reader, -, ⟨result, started⟩, -, hstep⟩ := hstep
      cases hstep
      rfl
  | clearReference slot =>
      simp only [State.step, State.clearReference, Option.bind_eq_bind,
        Option.bind_eq_some_iff] at hstep
      obtain ⟨reader, -, ⟨cleared, shared⟩, -, hstep⟩ := hstep
      cases hstep
      rfl
  | storeReadIndex slot =>
      simp only [State.step, State.storeReadIndex, Option.bind_eq_bind,
        Option.bind_eq_some_iff] at hstep
      obtain ⟨reader, -, ⟨stored, shared⟩, -, hstep⟩ := hstep
      cases hstep
      rfl
  | returnChunk slot =>
      simp only [State.step, State.returnChunk, Option.bind_eq_bind,
        Option.bind_eq_some_iff] at hstep
      obtain ⟨reader, -, ⟨result, returned, shared⟩, -, hstep⟩ := hstep
      cases hstep
      rfl
  | signalSpace slot =>
      simp only [State.step, State.signalSpace, Option.bind_eq_bind,
        Option.bind_eq_some_iff] at hstep
      obtain ⟨reader, -, ⟨signalled, spaceAvailable⟩, -, hstep⟩ := hstep
      cases hstep
      rfl

/-- An access of a data event behind its drain. -/
theorem handle_sameEventFds (hhandles : action.handles = some slot)
    (hnext : events.next action = some events') : SameEventFds events events' := by
  have hrefl : SameEventFds events events := ⟨rfl, rfl, fun _ => rfl⟩
  cases action with
  | store | signal | track | reap | drain => cases hhandles
  | initializeReadIndex other =>
      simp only [next, initializeReadIndex] at hnext
      split at hnext
      next reader _ _ =>
        have hsame : SameEventFds events { events with
            plane := events.plane.setReader other
              (reader.initializeSubscriberReadIndex events.plane.shared) } :=
          ⟨rfl, rfl, fun _ => rfl⟩
        cases hnext
        exact hsame.setPhase _
      · cases hnext
  | load other =>
      simp only [next, load] at hnext
      split at hnext
      · split at hnext <;> cases hnext <;> exact hrefl.setPhase _
      · cases hnext
  | copy other =>
      simp only [next, copy] at hnext
      split at hnext
      · split at hnext <;> cases hnext
        · exact ⟨rfl, rfl, fun _ => rfl⟩
        · exact hrefl.setPhase _
      · cases hnext
  | readPayload other =>
      obtain ⟨⟨outcome, copied⟩, hread, rfl⟩ := Option.map_eq_some_iff.mp hnext
      have hsame := read_sameEventFds (fun outcome plane hstep =>
        consume_eventFds (.readPayload other) trivial hstep) hread
      dsimp only
      split
      · exact hsame.setHandler rfl
      · exact hsame.setPhase _
  | clearReference other =>
      obtain ⟨⟨outcome, cleared⟩, hread, rfl⟩ := Option.map_eq_some_iff.mp hnext
      exact read_sameEventFds (fun outcome plane hstep =>
        consume_eventFds (.clearReference other) trivial hstep) hread
  | storeReadIndex other =>
      obtain ⟨⟨outcome, stored⟩, hread, rfl⟩ := Option.map_eq_some_iff.mp hnext
      exact read_sameEventFds (fun outcome plane hstep =>
        consume_eventFds (.storeReadIndex other) trivial hstep) hread
  | returnChunk other =>
      obtain ⟨⟨outcome, returned⟩, hread, rfl⟩ := Option.map_eq_some_iff.mp hnext
      have hsame := read_sameEventFds (fun outcome plane hstep =>
        consume_eventFds (.returnChunk other) trivial hstep) hread
      dsimp only
      split
      · exact hsame
      · exact hsame.setPhase _
  | signalSpace other =>
      obtain ⟨⟨outcome, signalled⟩, hread, rfl⟩ := Option.map_eq_some_iff.mp hnext
      exact read_sameEventFds (fun outcome plane hstep =>
        consume_eventFds (.signalSpace other) trivial hstep) hread
  | reload other =>
      simp only [next, reload] at hnext
      split at hnext
      · split at hnext
        · split at hnext <;> cases hnext
          · exact hrefl.setPhase _
          · exact hrefl.setHandler rfl
        · cases hnext
      · cases hnext

/-- A drain leaves its own eventfd unreadable, and makes no other one readable. -/
theorem drain_readable (hdrain : events.drain slot = some events') :
    events'.signalling = events.signalling ∧
      (∀ other, (events'.handlers other).eventFd = (events.handlers other).eventFd) ∧
      (∀ eventFd, (events'.plane.eventFds eventFd).any (0 < ·) = true →
        (events.plane.eventFds eventFd).any (0 < ·) = true) ∧
      (events'.plane.eventFds (events.handlers slot).eventFd).any (0 < ·) = false := by
  unfold drain at hdrain
  dsimp only at hdrain
  split at hdrain
  swap
  · cases hdrain
  rw [drainEventfd] at hdrain
  cases hcount : events.plane.eventFds (events.handlers slot).eventFd with
  | none =>
      rw [hcount] at hdrain
      cases hdrain
      refine ⟨rfl, fun other => setPhase_eventFd _ _, fun _ => id, ?_⟩
      change (events.plane.eventFds _).any _ = false
      rw [hcount]
      rfl
  | some count =>
      rw [hcount] at hdrain
      cases hdrain
      refine ⟨rfl, fun other => setPhase_eventFd _ _, fun eventFd hreadable => ?_, ?_⟩
      · change (Function.update events.plane.eventFds _ (some 0) eventFd).any _ = true at hreadable
        by_cases heq : eventFd = (events.handlers slot).eventFd
        · subst heq
          simp at hreadable
        · rwa [Function.update_of_ne heq] at hreadable
      · change (Function.update events.plane.eventFds _ (some 0) _).any _ = false
        simp

end EventPlane

/-! ## What a release loses -/

/-- All but the unread messages have been handed over, in order; and some are unread only if
the eventfd was readable, and its event behind the one that released the attachment where
the batch had to have it. -/
structure Release.Accounts (release : Release) : Prop where
  unread_le : release.unread ≤ release.due.length
  handedOver_eq : release.handedOver = release.due.take (release.due.length - release.unread)
  readable : 0 < release.unread → release.readable = true
  behind : 0 < release.unread → release.late = true → .data ∈ release.behind

namespace ExitPlane

structure Invariant (state : ExitPlane) : Prop where
  events : state.events.Invariant
  quiet : state.exited = true → state.events.signalling = []
  disconnected : ∀ slot, (state.loops slot).disconnected = true → state.exited = true
  exited : ∀ slot, (state.loops slot).late = true → state.exited = true
  late : ∀ slot, (state.loops slot).late = true → (state.loops slot).released = false →
    state.readable slot = true → .data ∈ (state.loops slot).batch
  releases : ∀ release ∈ state.releases, release.Accounts

variable {state state' : ExitPlane} {slot : ℕ}

/-- Between two events every unread message is behind a readable eventfd. -/
theorem Invariant.accounts (hinv : state.Invariant) (hexited : state.exited = true)
    {reader : Reader} (hreader : state.events.plane.readers slot = some reader)
    (hwaiting : (state.events.handlers slot).phase = .waiting) (behind : List LoopEvent)
    (hbehind : (state.loops slot).late = true → state.readable slot = true →
      .data ∈ behind) : (state.release slot reader behind).Accounts := by
  obtain ⟨pool, hplane⟩ := hinv.events.plane
  have hhandler := hinv.events.handler hreader
  have hrinv := hplane.reader hreader
  have hidle := hhandler.resting (by simp [hwaiting])
  have hpromises := hhandler.promises
  rw [hwaiting] at hpromises
  have hle := hrinv.cursor_le hidle
  have hjoined := hrinv.joinedAt_le
  have hlt := hrinv.length_lt
  have hunread : state.unread slot = state.events.plane.published.length - reader.cursor := by
    rw [unread, hplane.ring.write_eq, hrinv.readIndex_eq]
    simp only [kDescriptorSlotCount] at hlt ⊢
    omega
  have hreadable : 0 < state.unread slot → state.readable slot = true := fun hsome => by
    obtain hpending | hmem := hpromises.2 (by omega)
    · exact hpending
    · rw [hinv.quiet hexited] at hmem
      cases hmem
  have hdue : (state.release slot reader behind).due.length =
      state.events.plane.published.length - reader.joinedAt := by
    simp [release]
  refine ⟨?_, ?_, hreadable, fun hsome hlate => hbehind hlate (hreadable hsome)⟩
  · rw [hdue]
    change state.unread slot ≤ _
    omega
  · have hmessages := hhandler.messages_eq
    rw [hhandler.between hwaiting, List.append_nil, hrinv.messages_eq,
      Reader.next_of_idle hidle, Reader.delivered] at hmessages
    rw [hdue]
    change (state.events.handlers slot).handedOver.flatten =
      ((state.events.plane.published.drop reader.joinedAt).map Message.payload).take
        (_ - state.unread slot)
    rw [hmessages, ← List.map_take, hunread, List.drop_take]
    congr 2
    omega

namespace Invariant

/-- A step of one loop. -/
theorem setLoop (hinv : state.Invariant) {loop : AttachmentLoop}
    (hdisconnected : loop.disconnected = true → state.exited = true)
    (hexited : loop.late = true → state.exited = true)
    (hlate : loop.late = true → loop.released = false → state.readable slot = true →
      .data ∈ loop.batch) : (state.setLoop slot loop).Invariant := by
  have hloop : ∀ other, (state.setLoop slot loop).loops other = loop ∧ other = slot ∨
      (state.setLoop slot loop).loops other = state.loops other := fun other => by
    by_cases heq : other = slot
    · subst heq
      exact .inl ⟨Function.update_self _ _ _, rfl⟩
    · exact .inr (Function.update_of_ne heq _ _)
  refine ⟨hinv.events, hinv.quiet, fun other => ?_, fun other => ?_, fun other => ?_,
    hinv.releases⟩
  all_goals obtain ⟨hnew, rfl⟩ | hold := hloop other
  · rw [hnew]
    exact hdisconnected
  · rw [hold]
    exact hinv.disconnected other
  · rw [hnew]
    exact hexited
  · rw [hold]
    exact hinv.exited other
  · rw [hnew]
    exact hlate
  · rw [hold]
    exact hinv.late other

/-- A step of the data events that makes no eventfd readable. -/
theorem setEvents (hinv : state.Invariant) {events : EventPlane} (hevents : events.Invariant)
    (hsignalling : events.signalling = state.events.signalling)
    (hreadable : ∀ slot, ({ state with events } : ExitPlane).readable slot = true →
      state.readable slot = true) : ({ state with events } : ExitPlane).Invariant where
  events := hevents
  quiet hexited := hsignalling.trans (hinv.quiet hexited)
  disconnected := hinv.disconnected
  exited := hinv.exited
  late slot hlate hattached hpending := hinv.late slot hlate hattached (hreadable slot hpending)
  releases := hinv.releases

/-- What the publisher does before it exits. -/
theorem publisher (hinv : state.Invariant) {action : EventAction}
    {loops : ℕ → AttachmentLoop}
    (hloops : ∀ slot, loops slot = state.loops slot ∨ loops slot = .initial)
    (hnext : state.publisher action loops = some state') : state'.Invariant := by
  rw [ExitPlane.publisher] at hnext
  split at hnext
  · cases hnext
  next hrunning =>
    obtain ⟨events, hevents, rfl⟩ := Option.map_eq_some_iff.mp hnext
    have hnone : ∀ slot, (loops slot).disconnected = false ∧ (loops slot).late = false := by
      intro slot
      obtain hold | hnew := hloops slot
      · rw [hold]
        exact ⟨Bool.eq_false_iff.mpr fun h => hrunning (hinv.disconnected slot h),
          Bool.eq_false_iff.mpr fun h => hrunning (hinv.exited slot h)⟩
      · rw [hnew]
        exact ⟨rfl, rfl⟩
    refine ⟨hinv.events.next hevents, fun hexited => absurd hexited hrunning,
      fun slot hslot => ?_, fun slot hslot => ?_, fun slot hslot => ?_, hinv.releases⟩
    · rw [(hnone slot).1] at hslot
      cases hslot
    · rw [(hnone slot).2] at hslot
      cases hslot
    · rw [(hnone slot).2] at hslot
      cases hslot

/-- The next event of a batch. -/
theorem dispatch (hinv : state.Invariant) (hnext : state.dispatch slot = some state') :
    state'.Invariant := by
  unfold ExitPlane.dispatch at hnext
  dsimp only at hnext
  split at hnext
  · cases hnext
  · cases hnext
  next event rest reader hbatch hreader =>
    have hdisconnected := hinv.disconnected slot
    have hexited := hinv.exited slot
    have hlate := hinv.late slot
    rw [hbatch] at hlate
    split at hnext
    · cases hnext
    next hwaiting =>
      replace hwaiting : (state.events.handlers slot).phase = .waiting := not_not.mp hwaiting
      split at hnext
      next hreleased =>
        cases hnext
        refine hinv.setLoop hdisconnected hexited fun _ hattached => ?_
        rw [hreleased] at hattached
        cases hattached
      next hattached =>
        replace hattached := Bool.eq_false_iff.mpr hattached
        cases event with
        | data =>
            -- the drain comes first, and nothing is readable behind it
            obtain ⟨events, hdrain, rfl⟩ := Option.map_eq_some_iff.mp hnext
            obtain ⟨hsignalling, hhandlers, hless, hown⟩ := EventPlane.drain_readable hdrain
            have hdrained : ({ state with events } : ExitPlane).Invariant := by
              refine hinv.setEvents (hinv.events.drain hdrain) hsignalling fun other => ?_
              rw [readable, readable, hhandlers]
              exact hless _
            refine hdrained.setLoop hdisconnected hexited fun _ _ hreadable => ?_
            rw [readable, hhandlers] at hreadable
            rw [hown] at hreadable
            cases hreadable
        | control =>
            have hrest : (state.loops slot).late = true → state.readable slot = true →
                .data ∈ rest := fun hwas hreadable => by
              have hmem := hlate hwas hattached hreadable
              rw [List.mem_cons] at hmem
              exact hmem.resolve_left fun heq => by cases heq
            dsimp only at hnext
            split at hnext
            next hdone =>
              cases hnext
              have hset : (state.setLoop slot
                  { state.loops slot with released := true, batch := rest }).Invariant :=
                hinv.setLoop hdisconnected hexited fun _ hattached => by cases hattached
              refine ⟨hset.events, hset.quiet, hset.disconnected, hset.exited, hset.late,
                fun release hmem => ?_⟩
              obtain hold | hnew := List.mem_append.mp hmem
              · exact hinv.releases release hold
              · rw [List.mem_singleton.mp hnew]
                exact hinv.accounts (hdisconnected hdone) hreader hwaiting rest hrest
            next =>
              cases hnext
              exact hinv.setLoop hdisconnected hexited fun hwas _ => hrest hwas

/-- The step lemma. -/
theorem next (hinv : state.Invariant) {action : ExitAction}
    (hnext : state.next action = some state') : state'.Invariant := by
  cases action with
  | store payload => exact hinv.publisher (fun _ => .inl rfl) hnext
  | signal => exact hinv.publisher (fun _ => .inl rfl) hnext
  | reap slot => exact hinv.publisher (fun _ => .inl rfl) hnext
  | track eventFd slot =>
      refine hinv.publisher (fun other => ?_) hnext
      split
      · by_cases heq : other = slot
        · subst heq
          exact .inr (Function.update_self _ _ _)
        · exact .inl (Function.update_of_ne heq _ _)
      · exact .inl rfl
  | exit =>
      rw [ExitPlane.next, Option.ite_none_right_eq_some] at hnext
      obtain ⟨⟨hrunning, hquiet⟩, hnext⟩ := hnext
      cases hnext
      have hnone : ∀ slot, (state.loops slot).late ≠ true := fun slot hlate => by
        rw [hinv.exited slot hlate] at hrunning
        cases hrunning
      exact ⟨hinv.events, fun _ => hquiet, fun _ _ => rfl, fun _ _ => rfl,
        fun slot hlate => absurd hlate (hnone slot), hinv.releases⟩
  | announce slot =>
      cases hnext
      exact hinv.setLoop (hinv.disconnected slot) (hinv.exited slot) (hinv.late slot)
  | disconnect slot =>
      rw [ExitPlane.next, Option.ite_none_right_eq_some] at hnext
      obtain ⟨⟨hexited, -⟩, hnext⟩ := hnext
      cases hnext
      exact hinv.setLoop (fun _ => hexited) (hinv.exited slot) (hinv.late slot)
  | wait slot batch others =>
      rw [ExitPlane.next, Option.ite_none_right_eq_some] at hnext
      obtain ⟨⟨-, -, -, -, -, -, hall⟩, hnext⟩ := hnext
      cases hnext
      have hlates : ((state.loops slot).installed && state.exited &&
          decide (batch.length + others < kMaxEvents)) = true →
          ((state.loops slot).installed = true ∧ state.exited = true) ∧
            batch.length + others < kMaxEvents := fun hlate => by
        simpa only [Bool.and_eq_true, decide_eq_true_eq] using hlate
      refine hinv.setLoop (hinv.disconnected slot) (fun hlate => (hlates hlate).1.2)
        fun hlate _ hreadable => ?_
      obtain ⟨⟨hinstalled, -⟩, hroom⟩ := hlates hlate
      exact (hall hroom).1 ⟨hinstalled, hreadable⟩
  | dispatch slot => exact hinv.dispatch hnext
  | handle action =>
      rw [ExitPlane.next] at hnext
      split at hnext
      · cases hnext
      next slot hhandles =>
        split at hnext
        · cases hnext
        · obtain ⟨events, hevents, rfl⟩ := Option.map_eq_some_iff.mp hnext
          have hsame := EventPlane.handle_sameEventFds hhandles hevents
          refine hinv.setEvents (hinv.events.next hevents) hsame.signalling fun other => ?_
          rw [readable, readable, hsame.handlers, hsame.eventFds]
          exact id

end Invariant

end ExitPlane

/-- The run lemma. -/
theorem exitPlane_invariant {mapped : SharedData} {state : ExitPlane}
    (hreach : (exitPlane mapped).Reachable state) : state.Invariant := by
  refine hreach.invariant ExitPlane.Invariant ⟨eventPlane_invariant .initial, fun _ => rfl, ?_,
    ?_, ?_, ?_⟩ fun _ _ _ hinv _ hnext => hinv.next hnext
  · simp [exitPlane, AttachmentLoop.initial]
  · simp [exitPlane, AttachmentLoop.initial]
  · simp [exitPlane, AttachmentLoop.initial]
  · simp [exitPlane]

/-- When a subscriber releases the attachment of a publisher that has exited, its events have
handed over what was published since it was tracked, in order, but for the descriptors that
are still unread.  There are any only if the eventfd is readable, and if the batch was fetched
with the attachment installed, after the exit and with room left, only if the data event is
still behind the control event. -/
theorem exit_loses_unhandled_events {mapped : SharedData} {state : ExitPlane}
    (hreach : (exitPlane mapped).Reachable state) :
    ∀ release ∈ state.releases,
      release.unread ≤ release.due.length ∧
      release.handedOver = release.due.take (release.due.length - release.unread) ∧
      (0 < release.unread → release.readable = true) ∧
      (release.late = true → .data ∉ release.behind → release.handedOver = release.due) := by
  intro release hmem
  obtain ⟨hle, htake, hreadable, hbehind⟩ := (exitPlane_invariant hreach).releases release hmem
  refine ⟨hle, htake, hreadable, fun hlate hnot => ?_⟩
  have hnone : release.unread = 0 :=
    Nat.eq_zero_of_not_pos fun hsome => hnot (hbehind hsome hlate)
  rw [htake, hnone, Nat.sub_zero, List.take_length]

/-- Three subscribers of a publisher that exits: one batch has the data event first, one has
it last, and one is full without it. -/
def exitingActions : List ExitAction :=
  [.track 7 0, .track 8 1, .track 9 2, .announce 0, .announce 1, .announce 2,
    .wait 0 [.control] 0, .dispatch 0, .wait 1 [.control] 0, .dispatch 1,
    .wait 2 [.control] 0, .dispatch 2, .store [1, 2], .signal, .signal, .signal, .exit,
    .disconnect 0, .disconnect 1, .disconnect 2, .wait 0 [.data, .control] 1021, .wait 1 [.control, .data] 0, .wait 2 [.control] 1023,
    .dispatch 0, .handle (.initializeReadIndex 0), .handle (.load 0), .handle (.reload 0),
    .handle (.copy 0), .handle (.copy 0), .handle (.readPayload 0),
    .handle (.clearReference 0), .handle (.storeReadIndex 0), .handle (.reload 0),
    .dispatch 0, .dispatch 1, .dispatch 2]

theorem exit_loses_unhandled_events_exiting : ∃ state,
    (exitPlane zeroedMapping).Reachable state ∧ ∃ first second third,
      state.releases = [first, second, third] ∧
      first.due = [[1, 2]] ∧ first.handedOver = first.due ∧
      second.due = [[1, 2]] ∧ second.unread = 1 ∧ second.handedOver = [] ∧
      third.late = false ∧ third.behind = [] ∧ third.unread = 1 ∧ third.handedOver = [] := by
  have hview : ((exitPlane zeroedMapping).run (exitPlane zeroedMapping).initial
      exitingActions).map (fun state => state.releases.map fun release =>
        (release.due, release.unread, release.late, release.behind)) =
      some [([[1, 2]], 0, true, []), ([[1, 2]], 1, true, [.data]),
        ([[1, 2]], 1, false, [])] := by decide +kernel
  obtain ⟨state, hrun, hreleases⟩ := Option.map_eq_some_iff.mp hview
  have hreach : (exitPlane zeroedMapping).Reachable state :=
    System.ReachableWith.initial.run (fun _ _ _ => trivial) hrun
  obtain ⟨first, rest, hlist, hfirst, hrest⟩ := List.map_eq_cons_iff.mp hreleases
  obtain ⟨second, rest', rfl, hsecond, hrest'⟩ := List.map_eq_cons_iff.mp hrest
  obtain ⟨third, none, rfl, hthird, hnone⟩ := List.map_eq_cons_iff.mp hrest'
  rw [List.map_eq_nil_iff] at hnone
  subst hnone
  simp only [Prod.mk.injEq] at hfirst hsecond hthird
  obtain ⟨hdue, -, hlate, hbehind⟩ := hfirst
  obtain ⟨hdue', hunread', -, -⟩ := hsecond
  obtain ⟨hdue'', hunread'', hlate'', hbehind''⟩ := hthird
  obtain ⟨-, -, -, hcomplete⟩ := exit_loses_unhandled_events hreach first (by simp [hlist])
  obtain ⟨-, htake, -, -⟩ := exit_loses_unhandled_events hreach second (by simp [hlist])
  obtain ⟨-, htake', -, -⟩ := exit_loses_unhandled_events hreach third (by simp [hlist])
  refine ⟨state, hreach, first, second, third, hlist, hdue,
    hcomplete hlate (by simp [hbehind]), hdue', hunread', ?_, hlate'', hbehind'', hunread'', ?_⟩
  · rw [htake, hdue', hunread']
    rfl
  · rw [htake', hdue'', hunread'']
    rfl

end DriveBus.SharedMemory
