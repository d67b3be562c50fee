import DriveBus.ControlPlane.Completeness
import DriveBus.ControlPlane.Roles

/-!
# Peers that fail

As long as every peer accepts the records that the broker owes it, the broker
handles every record and every closure that arrives, in any order, tells the
clients concerned and keeps its maps consistent.  One refused record stops it:
a publisher and its subscriber that close together bring the broker down.
-/

namespace DriveBus.ControlPlane

open DriveBus.Contract DriveBus.Transition

/-- The clients behave, resources are left, and every peer accepts the records owed
to it. -/
def EveryPeerAccepts (world : World) (action : Action) : Prop :=
  ClientsBehave world action ∧ Supplied world action ∧ PeersAccept world action

theorem EveryPeerAccepts.clients {world : World}
    (hreach : network.ReachableWith EveryPeerAccepts world) :
    network.ReachableWith ClientsBehave world :=
  hreach.mono fun _ _ hallowed => hallowed.1

/-! ## Nothing to stop for -/

/-- A reason that is no want of descriptors or ids. -/
def NeedsNothing (reason : ExitReason) : Prop :=
  reason.cause ≠ .noEventFd ∧ reason.cause ≠ .noAttachmentId

instance instDecidableNeedsNothing (reason : ExitReason) : Decidable (NeedsNothing reason) :=
  inferInstanceAs (Decidable (_ ∧ _))

theorem send_needsNothing (env : Env) (session : Session) (peer : Fd) (message : BrokerMessage)
    {reason : ExitReason} (hreason : NeedsNothing reason) :
    Meets (session.send env peer message reason) (fun _ => True) NeedsNothing :=
  (Session.send_spec env session peer message reason).mono (fun _ _ => trivial)
    fun _ hstopped => hstopped.1 ▸ hreason

theorem orStop_needsNothing {α : Type} (found : Option α) {reason : ExitReason}
    (hreason : NeedsNothing reason) : Meets (orStop found reason) (fun _ => True) NeedsNothing :=
  .orStop (fun _ _ => trivial) fun _ => hreason

theorem handleSubsciberDisconect_needsNothing (env : Env) (fd : Fd) (session : Session) :
    Meets (handleSubsciberDisconect env fd session) (fun _ => True) NeedsNothing := by
  refine Meets.bind (orStop_needsNothing _ (by decide)) fun attachments _ => ?_
  refine Meets.bind (orStop_needsNothing _ (by decide)) fun topicIds _ => ?_
  refine Meets.bind (Meets.foldlM (fun _ _ => True) trivial fun _ attachment _ session _ _ => ?_)
    fun released _ => Meets.bind (Meets.foldlM (fun _ _ => True) trivial
      fun _ topicId _ broker _ _ => ?_) fun dropped _ => .pure trivial
  · refine Meets.bind (send_needsNothing env session _ _ (by decide)) fun _ _ => ?_
    refine Meets.bind (orStop_needsNothing _ (by decide)) fun _ _ => ?_
    exact Meets.bind (orStop_needsNothing _ (by decide)) fun _ _ => .pure trivial
  · refine Meets.bind (orStop_needsNothing _ (by decide)) fun subscribers _ => ?_
    exact Meets.bind (.require fun _ => by decide) fun _ _ => .pure trivial

theorem handlePublisherDisconnect_needsNothing (env : Env) (fd : Fd) (session : Session) :
    Meets (handlePublisherDisconnect env fd session) (fun _ => True) NeedsNothing := by
  refine Meets.bind (orStop_needsNothing _ (by decide)) fun shmFd _ => ?_
  refine Meets.bind (orStop_needsNothing _ (by decide)) fun found _ => ?_
  refine Meets.bind (orStop_needsNothing _ (by decide)) fun slots _ => ?_
  refine Meets.bind (orStop_needsNothing _ (by decide)) fun heap _ => ?_
  refine Meets.bind (Meets.foldlM (fun _ _ => True) trivial fun _ fd _ session _ _ => ?_)
    fun detached _ => Meets.bind (orStop_needsNothing _ (by decide)) fun _ _ => .pure trivial
  refine Meets.bind (orStop_needsNothing _ (by decide)) fun attachments _ => ?_
  refine Meets.bind (orStop_needsNothing _ (by decide)) fun attachment _ => ?_
  exact Meets.bind (send_needsNothing env session _ _ (by decide)) fun _ _ => .pure trivial

/-- A client leaves without any new descriptor or id. -/
theorem handleClosure_needsNothing (env : Env) (fd : Fd) (session : Session) :
    Meets (handleClosure env fd session) (fun _ => True) NeedsNothing := by
  refine Meets.bind (orStop_needsNothing _ (by decide)) fun role _ => ?_
  cases role with
  | subscriber => exact handleSubsciberDisconect_needsNothing env fd session
  | publisher => exact handlePublisherDisconnect_needsNothing env fd session

theorem handleReceiveError_needsNothing (env : Env) (fd : Fd) (session : Session) :
    Meets (handleReceiveError env fd session) (fun _ => True) NeedsNothing := by
  refine Meets.bind (orStop_needsNothing _ (by decide)) fun role _ => ?_
  refine Meets.bind (.require fun _ => by decide) fun _ _ => ?_
  cases role with
  | subscriber => exact handleSubsciberDisconect_needsNothing env fd _
  | publisher => exact handlePublisherDisconnect_needsNothing env fd _

/-- Only a registration needs any. -/
theorem handleRecord_needsNothing (env : Env) (fd : Fd) (packet : Packet) (session : Session)
    (hother : ¬packet.Registers) :
    Meets (handleRecord env fd packet session) (fun _ => True) NeedsNothing := by
  rw [handleRecord]
  dsimp only
  split
  · exact Meets.bind (handleClosure_needsNothing env fd session) fun _ _ => .pure trivial
  next hne =>
    have hhead := receiveBuffer_zero env hne
    refine Meets.bind (.require fun _ => by decide) fun _ _ => ?_
    split
    · exact Meets.bind (.require fun _ => by decide) fun _ _ => .pure trivial
    split
    next hcode => exact absurd (.inl (hhead.trans (congrArg some hcode))) hother
    split
    next hcode => exact absurd (.inr (hhead.trans (congrArg some hcode))) hother
    next => exact .pure trivial

theorem not_excused {env : Env} {firstId : ℕ} {due : List Fd} {reason : ExitReason}
    (hsupplied : NeedsNothing reason ∨
      (∀ index, env.eventfd index ≠ none) ∧ firstId + due.length < 2 ^ 64)
    (haccepts : ∀ index peer, due[index]? = some peer → env.accepts index peer = true) :
    ¬Excused env firstId due reason := by
  intro hexcused
  unfold Excused at hexcused
  split at hexcused
  next =>
    obtain ⟨index, peer, hdue, hrefused⟩ := hexcused
    rw [haccepts index peer hdue] at hrefused
    cases hrefused
  next hcause =>
    obtain ⟨index, hnone⟩ := hexcused
    rcases hsupplied with hnothing | ⟨heventfd, -⟩
    · exact hnothing.1 hcause
    · exact heventfd index hnone
  next hcause =>
    rcases hsupplied with hnothing | ⟨-, hids⟩
    · exact hnothing.2 hcause
    · omega
  next => exact hexcused

/-- What a handler stops for is the reason of the exit. -/
theorem settle_exited {world : World} {fd : Fd} {connection : Option Connection}
    {result : Except ExitReason Session} {reason : ExitReason} (hrunning : world.exited = none)
    (hexited : (world.settle fd connection result).exited = some reason) :
    result = .error reason := by
  cases result with
  | ok session => cases hrunning.symm.trans hexited
  | error stopped => rw [Option.some.inj hexited]

theorem EveryPeerAccepts.running {world world' : World} {action : Action}
    (hreach : network.ReachableWith EveryPeerAccepts world)
    (hallowed : EveryPeerAccepts world action)
    (hnext : network.next world action = some world') : world'.exited = none := by
  cases hexited : world'.exited with
  | none => rfl
  | some reason =>
      have hexcuses := exit_excused (clients hreach) hallowed.1 hnext hexited
      obtain ⟨-, hsupplied, haccept⟩ := hallowed
      replace hnext : world.next action = some world' := hnext
      have hrunning := World.running_of_next hnext
      cases action with
      | accept fd => exact hexcuses.elim
      | request fd packet => exact hexcuses.elim
      | hangUp fd => exact hexcuses.elim
      | receiveError fd env =>
          simp only [World.next, hrunning, Option.bind_eq_some_iff, Option.some.injEq] at hnext
          obtain ⟨connection, -, rfl⟩ := hnext
          exact absurd hexcuses (not_excused (.inl ((handleReceiveError_needsNothing env fd
            (.start world.broker)).of_error (settle_exited hrunning hexited))) haccept)
      | receive fd env =>
          simp only [World.next, hrunning, Option.bind_eq_some_iff] at hnext
          obtain ⟨connection, hconnection, hreceive⟩ := hnext
          refine absurd hexcuses (not_excused ?_ haccept)
          cases hinbox : connection.inbox with
          | nil =>
              rw [World.receive, hinbox] at hreceive
              dsimp only at hreceive
              split at hreceive
              · obtain rfl := Option.some.inj hreceive
                exact .inl ((handleClosure_needsNothing env fd _).of_error
                  (settle_exited hrunning hexited))
              · cases hreceive
          | cons packet rest =>
              by_cases hregisters : packet.Registers
              · exact .inr (hsupplied connection packet rest hconnection hinbox hregisters)
              · rw [World.receive, hinbox] at hreceive
                obtain rfl := Option.some.inj hreceive
                have hstopped := settle_exited hrunning hexited
                cases hrecord : handleRecord env fd packet (.start world.broker) with
                | ok result =>
                    rw [hrecord] at hstopped
                    cases hstopped
                | error stopped =>
                    rw [hrecord] at hstopped
                    obtain rfl : stopped = reason := Except.error.inj hstopped
                    exact .inl ((handleRecord_needsNothing env fd packet _ hregisters).of_error
                      hrecord)

/-! ## Handling an event -/

/-- A record or a closure waits to be received. -/
def World.Pending (world : World) (fd : Fd) : Prop :=
  ∃ connection, world.connections fd = some connection ∧
    (connection.inbox ≠ [] ∨ connection.peerClosed = true)

theorem World.Pending.enabled {world : World} {fd : Fd} (hpending : world.Pending fd)
    (hrunning : world.exited = none) (env : Env) :
    ∃ world', network.next world (.receive fd env) = some world' := by
  obtain ⟨connection, hconnection, hwaits⟩ := hpending
  have hnext : network.next world (.receive fd env) = world.receive fd connection env := by
    change world.next (.receive fd env) = _
    simp [World.next, hrunning, hconnection]
  rw [hnext, World.receive]
  cases hinbox : connection.inbox with
  | cons packet rest => exact ⟨_, rfl⟩
  | nil =>
      obtain hne | hclosed := hwaits
      · exact absurd hinbox hne
      · exact ⟨_, if_pos hclosed⟩

/-- The broker has handled an event of `fd`: it runs, it has told every client
concerned, and its maps describe the clients that are left. -/
structure Survives (world : World) (fd : Fd) (world' : World) : Prop where
  running : world'.exited = none
  notified : ∃ sent, world'.sent = world.sent ++ sent ∧
    Notified world.broker world'.broker fd sent
  routes : Routes world'.broker world'.members

theorem EveryPeerAccepts.survives {world world' : World} {action : Action} {fd : Fd}
    (hreach : network.ReachableWith EveryPeerAccepts world)
    (hallowed : EveryPeerAccepts world action) (hevent : action.event = some fd)
    (hnext : network.next world action = some world') : Survives world fd world' := by
  have hconsistent := consistent_of_reachable (ClientsBehave.reachable (clients hreach))
  have hrunning := running hreach hallowed hnext
  have hhandles := (hconsistent.step hallowed.1.1.record hnext).2.2.2 fd hevent
  exact ⟨hrunning, hhandles.notified hrunning, hhandles.consistent.routes⟩

/-- In every run in which the peers accept what they are owed, the broker runs with
consistent maps, and it survives the next event whichever it is. -/
theorem accepting_peers_keep_broker_running {world : World}
    (hreach : network.ReachableWith EveryPeerAccepts world) :
    world.exited = none ∧ Routes world.broker world.members ∧
      (∀ fd env, world.Pending fd → EveryPeerAccepts world (.receive fd env) →
        ∃ world', network.next world (.receive fd env) = some world' ∧
          Survives world fd world') ∧
      ∀ fd env, world.connections fd ≠ none →
        EveryPeerAccepts world (.receiveError fd env) →
          ∃ world', network.next world (.receiveError fd env) = some world' ∧
            Survives world fd world' := by
  have hrunning : world.exited = none := by
    cases hreach with
    | initial => rfl
    | step hreach hallowed hnext => exact EveryPeerAccepts.running hreach hallowed hnext
  have hreachClients := ClientsBehave.reachable (EveryPeerAccepts.clients hreach)
  refine ⟨hrunning, (consistent_of_reachable hreachClients).routes, ?_, ?_⟩
  · intro fd env hpending hallowed
    obtain ⟨world', hnext⟩ := hpending.enabled hrunning env
    exact ⟨world', hnext, EveryPeerAccepts.survives hreach hallowed rfl hnext⟩
  · intro fd env hconnected hallowed
    obtain ⟨connection, hconnection⟩ := Option.ne_none_iff_exists'.mp hconnected
    have hnext : network.next world (.receiveError fd env) =
        some (world.settle fd none (handleReceiveError env fd (.start world.broker))) := by
      change world.next (.receiveError fd env) = _
      simp [World.next, hrunning, hconnection]
    exact ⟨_, hnext, EveryPeerAccepts.survives hreach hallowed rfl hnext⟩

/-- The publisher of `repeatedTopic` leaves, and its closure is handled. -/
def publisherGone : World :=
  (network.run repeatedTopic [.hangUp 4, .receive 4 .generous]).getD repeatedTopic

theorem publisherGone_reachable : network.ReachableWith EveryPeerAccepts publisherGone := by
  have hregistered : network.ReachableWith EveryPeerAccepts repeatedTopic :=
    repeatedTopic_reachable.mono fun _ _ horderly => ⟨horderly.1, horderly.2.1, horderly.2.2.2⟩
  have hclosed : network.ReachableWith EveryPeerAccepts _ :=
    hregistered.step (show EveryPeerAccepts _ (.hangUp 4) from
      ⟨⟨trivial, by rintro _ ⟨⟩; decide⟩, trivial, trivial⟩) rfl
  exact hclosed.step (show EveryPeerAccepts _ (.receive 4 .generous) from
    ⟨⟨by rintro _ _ _ ⟨⟩ ⟨⟩, trivial⟩, by rintro _ _ _ ⟨⟩ ⟨⟩, fun _ _ _ => rfl⟩) rfl

theorem accepting_peers_keep_broker_running_publisherGone :
    publisherGone.exited = none ∧ Routes publisherGone.broker publisherGone.members ∧
      publisherGone.members 3 ≠ none ∧ publisherGone.members 4 = none ∧
      (3, .publisherDisconnected 1) ∈ publisherGone.sent :=
  have hrun := accepting_peers_keep_broker_running publisherGone_reachable
  ⟨hrun.1, hrun.2.1, by decide +kernel, by decide +kernel, by decide +kernel⟩

/-! ## A publisher and its subscriber close together -/

/-- What the peers of closed connections do to the broker: the clients behave,
resources are left, and exactly the closed peers refuse their records. -/
def OnlyClosedPeersRefuse (world : World) (action : Action) : Prop :=
  ClientsBehave world action ∧ Supplied world action ∧ ClosedPeersRefuse world action

/-- The sends to descriptor 4 fail. -/
def Env.closedPublisher : Env where
  accepts _ peer := decide (peer ≠ 4)
  eventfd index := some (100 + index)
  leftover _ := 0

/-- Both clients of `repeatedTopic` close, and the subscriber's closure is handled
while the publisher's is still pending. -/
theorem closing_pair_stops_broker :
    ¬∀ world, network.ReachableWith OnlyClosedPeersRefuse world → world.exited = none := by
  intro hclaim
  have hregistered : network.ReachableWith OnlyClosedPeersRefuse repeatedTopic :=
    repeatedTopic_reachable.mono fun _ _ horderly =>
      ⟨horderly.1, horderly.2.1, horderly.2.2.1⟩
  have hclosed : network.ReachableWith OnlyClosedPeersRefuse _ :=
    .step (hregistered.step (show OnlyClosedPeersRefuse _ (.hangUp 3) from
        ⟨⟨trivial, by rintro _ ⟨⟩; decide⟩, trivial, trivial⟩) rfl)
      (show OnlyClosedPeersRefuse _ (.hangUp 4) from
        ⟨⟨trivial, by rintro _ ⟨⟩; decide⟩, trivial, trivial⟩) rfl
  have hrefuses : ∀ world : World,
      (∀ peer ∈ world.due 3, decide (peer ≠ 4) = world.alive peer) →
      ClosedPeersRefuse world (.receive 3 .closedPublisher) :=
    fun _ hdue peer hpeer _ => hdue peer hpeer
  have hstopped : network.ReachableWith OnlyClosedPeersRefuse _ :=
    hclosed.step (show OnlyClosedPeersRefuse _ (.receive 3 .closedPublisher) from
      ⟨⟨by rintro _ _ _ ⟨⟩ ⟨⟩, trivial⟩, by rintro _ _ _ ⟨⟩ ⟨⟩,
        hrefuses _ (by decide +kernel)⟩) rfl
  exact absurd (hclaim _ hstopped) (by decide +kernel)

end DriveBus.ControlPlane
