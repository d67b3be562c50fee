import DriveBus.Agreement.Mirror

/-!
# Runs of the broker with its clients

In every run, what a client has been sent takes its initial view to one that agrees with
the broker, and what the program has made of the records that it has taken is whatever
each of its steps keeps.
-/

namespace DriveBus.Agreement

open DriveBus.ControlPlane DriveBus.Replica DriveBus.Transition

/-! ## What a client hears -/

/-- The attachment ids that a record delivers. -/
def deliveredBy : BrokerMessage → List ℕ
  | .subscriberAttachmentBatch attachments _ => attachments.map (·.attachmentId)
  | _ => []

theorem deliveredIds_eq (sent : List (Fd × BrokerMessage)) :
    deliveredIds sent = (sent.map Prod.snd).flatMap deliveredBy := by
  rw [List.flatMap_map]
  refine List.flatMap_congr fun record _ => ?_
  cases record.2 <;> rfl

/-- What is known of the records that a client has taken and of those in its channel. -/
structure Hears {View : Type} (mirror : Mirror View) (taken channel : List BrokerMessage) :
    Prop where
  ids : ((taken ++ channel).flatMap deliveredBy).Nodup
  encodable : ∀ record ∈ taken ++ channel, record.Encodable
  view : ∃ final, replay mirror.apply mirror.start (taken ++ channel) = some final

/-- The records taken lead to a view from which those in the channel lead on. -/
theorem Hears.split {View : Type} {mirror : Mirror View} {taken channel : List BrokerMessage}
    (hhears : Hears mirror taken channel) :
    ∃ view final, replay mirror.apply mirror.start taken = some view ∧
      replay mirror.apply view channel = some final := by
  obtain ⟨final, hreplay⟩ := hhears.view
  rw [replay_append] at hreplay
  obtain ⟨view, htaken, hchannel⟩ := Option.bind_eq_some_iff.mp hreplay
  exact ⟨view, final, htaken, hchannel⟩

/-- The ids that are still to come are new. -/
theorem Hears.new_ids {View : Type} {mirror : Mirror View} {taken rest : List BrokerMessage}
    {record : BrokerMessage} (hhears : Hears mirror taken (record :: rest)) :
    (deliveredBy record).Nodup ∧
      ∀ id ∈ deliveredBy record, id ∉ taken.flatMap deliveredBy := by
  have hnodup := hhears.ids
  rw [List.flatMap_append, List.flatMap_cons, List.nodup_append] at hnodup
  obtain ⟨-, hchannel, hdisjoint⟩ := hnodup
  exact ⟨(List.nodup_append.mp hchannel).1,
    fun id hid htaken => hdisjoint id htaken id (List.mem_append_left _ hid) rfl⟩

section Runs

variable {Setup State Move View : Type} {program : Program Setup State Move}
  {mirror : Mirror View} {Holds : State → List BrokerMessage → Prop} {joint : Joint State}

/-- A step of the program keeps a fact about its state and the records it has taken. -/
def Program.Keeps (program : Program Setup State Move) (mirror : Mirror View)
    (Holds : State → List BrokerMessage → Prop) : Prop :=
  ∀ state taken channel move state' count, Holds state taken → Hears mirror taken channel →
    program.next state channel move = some (state', count) →
      Holds state' (taken ++ channel.take count)

/-- What holds in every run. -/
structure Mirrored (program : Program Setup State Move) (mirror : Mirror View)
    (Holds : State → List BrokerMessage → Prop) (joint : Joint State) : Prop where
  reachable : network.ReachableWith SendsOneRecord joint.world
  heard : ∀ serial client, joint.clients serial = some client →
    client.heard.Sublist (joint.world.sent.map Prod.snd)
  follows : ∀ serial client, joint.clients serial = some client → client.state ≠ none →
    Follows program mirror joint serial client
  holds : ∀ serial client state, joint.clients serial = some client →
    client.state = some state → Holds state client.taken

theorem Mirrored.hears (hmirrored : Mirrored program mirror Holds joint) {serial : ℕ}
    {client : Client State} (hclient : joint.clients serial = some client)
    (hstate : client.state ≠ none) : Hears mirror client.taken client.channel := by
  have hsublist := hmirrored.heard serial client hclient
  obtain ⟨final, hreplay, -⟩ := (hmirrored.follows serial client hclient hstate).view
  refine ⟨?_, fun record hmem => ?_, final, hreplay⟩
  · have hdistinct := (idsDelivered_of_reachable hmirrored.reachable).distinct.1
    rw [deliveredIds_eq] at hdistinct
    exact hdistinct.sublist (hsublist.flatMap _)
  · obtain ⟨sent, hsent, rfl⟩ := List.mem_map.mp (hsublist.subset hmem)
    exact encodable_of_reachable hmirrored.reachable sent hsent

theorem Mirrored.initial : Mirrored program mirror Holds program.system.initial where
  reachable := .initial
  heard _ _ hclient := by cases hclient
  follows _ _ hclient := by cases hclient
  holds _ _ _ hclient := by cases hclient

theorem clients_update {clients : ℕ → Option (Client State)} {serial other : ℕ}
    {new client : Client State}
    (hclient : Function.update clients serial (some new) other = some client) :
    (other = serial ∧ client = new) ∨ (other ≠ serial ∧ clients other = some client) := by
  by_cases hother : other = serial
  · subst hother
    rw [Function.update_self, Option.some.injEq] at hclient
    exact .inl ⟨rfl, hclient.symm⟩
  · rw [Function.update_of_ne hother] at hclient
    exact .inr ⟨hother, hclient⟩

/-- A new client agrees with the broker, and the others do as before. -/
theorem Mirrored.connect (hfaithful : mirror.Faithful)
    (hholds : ∀ setup, Holds (program.initial setup) []) (hmirrored : Mirrored program mirror Holds joint)
    {serial : ℕ} {fd : Fd} {runs : Option Setup} {world' : World}
    (hnext : joint.world.next (.accept fd) = some world') :
    Mirrored program mirror Holds
      { world := world'
        clients := Function.update joint.clients serial
          (some (Joint.newClient program fd runs))
        clientOf := Function.update joint.clientOf fd serial } := by
  obtain ⟨hsent, hbook⟩ := World.quiet_of_next rfl hnext
  have hmembers := World.members_of_quiet rfl hnext
  obtain ⟨hnone, hconnections⟩ := World.connections_of_accept hnext
  have hreachable' : network.ReachableWith SendsOneRecord world' :=
    hmirrored.reachable.step (show SendsOneRecord joint.world (.accept fd) from trivial) hnext
  refine ⟨hreachable', fun other client hclient => ?_, fun other client hclient hstate => ?_,
    fun other client state hclient hstate => ?_⟩
  · obtain ⟨-, rfl⟩ | ⟨-, hold⟩ := clients_update hclient
    · exact List.nil_sublist _
    · dsimp only
      rw [hsent]
      exact hmirrored.heard other client hold
  · obtain ⟨rfl, rfl⟩ | ⟨hother, hold⟩ := clients_update hclient
    · have hfresh : world'.members fd = none := by
        rw [hmembers, World.members, hnone]
        rfl
      refine ⟨fun _ connection hconnection packet hmem => ?_, mirror.start, rfl, fun _ =>
        hfaithful.fresh (consistent_of_reachable hreachable').routes hfresh⟩
      dsimp only [Joint.newClient] at hconnection
      rw [hconnections, Function.update_self] at hconnection
      obtain rfl := Option.some.inj hconnection
      cases hmem
    · refine (hmirrored.follows other client hold hstate).quiet hfaithful hbook hmembers
        (fun hcurrent => ?_) fun hcurrent connection hconnection => ?_
      · have hfd : client.fd ≠ fd := fun heq => hother <| by
          have hclientOf := hcurrent.1
          dsimp only at hclientOf
          rw [heq, Function.update_self] at hclientOf
          exact hclientOf.symm
        obtain ⟨hclientOf, hopen⟩ := hcurrent
        dsimp only at hclientOf hopen
        rw [Function.update_of_ne hfd] at hclientOf
        rw [hconnections, Function.update_of_ne hfd] at hopen
        exact ⟨hclientOf, hopen⟩
      · have hfd : client.fd ≠ fd := fun heq => by
          have hopen := hcurrent.2
          rw [heq, hnone] at hopen
          cases hopen
        dsimp only at hconnection
        rw [hconnections, Function.update_of_ne hfd] at hconnection
        exact ⟨connection, hconnection, fun _ hmem => .inl hmem⟩
  · obtain ⟨-, rfl⟩ | ⟨-, hold⟩ := clients_update hclient
    · obtain ⟨setup, -, rfl⟩ := Option.map_eq_some_iff.mp hstate
      exact hholds setup
    · exact hmirrored.holds other client state hold hstate

theorem Joint.heard_sublist {world' : World} {serial : ℕ} {client : Client State}
    {new : List (Fd × BrokerMessage)} (hsent : world'.sent = joint.world.sent ++ new)
    (hheard : client.heard.Sublist (joint.world.sent.map Prod.snd)) :
    (joint.hear world' serial client).heard.Sublist (world'.sent.map Prod.snd) := by
  rw [hsent, List.map_append, Joint.hear]
  split
  · rw [Client.heard, ← List.append_assoc, hsent, List.drop_left]
    exact hheard.append (List.filter_sublist.map Prod.snd)
  · exact hheard.trans (List.sublist_append_left _ _)

/-- A step of the broker is quiet, or it handles an event. -/
theorem Mirrored.broker (hfaithful : mirror.Faithful) (hspeaks : program.Speaks mirror)
    (hmirrored : Mirrored program mirror Holds joint) {action : Action} {world' : World}
    (hopens : Opens action = false) (hallowed : program.Allows joint (.broker action))
    (hnext : joint.world.next action = some world') :
    Mirrored program mirror Holds
      { joint with
        world := world'
        clients := fun serial => (joint.clients serial).map (joint.hear world' serial) } := by
  have hreachable' : network.ReachableWith SendsOneRecord world' :=
    hmirrored.reachable.step hallowed.1 hnext
  have hconsistent := consistent_of_reachable hmirrored.reachable
  have hids := idsDelivered_of_reachable hmirrored.reachable
  have hkind : ∀ fd, action ≠ .accept fd := fun fd haccept => by
    rw [haccept] at hopens
    cases hopens
  have hcases := World.quiet_or_event hkind hnext
  refine ⟨hreachable', fun serial client hclient => ?_, fun serial client hclient hstate => ?_,
    fun serial client state hclient hstate => ?_⟩
  all_goals obtain ⟨before, hbefore, rfl⟩ := Option.map_eq_some_iff.mp hclient
  · have hheard := hmirrored.heard serial before hbefore
    obtain hquiet | ⟨fd, hevent, hrunning'⟩ := hcases
    · exact Joint.heard_sublist (hquiet.sent.trans (List.append_nil _).symm) hheard
    · obtain ⟨session, -, connection, rfl⟩ :=
        hconsistent.happened hids.bounded hevent hnext hrunning'
      exact Joint.heard_sublist rfl hheard
  · rw [Joint.hear_state] at hstate
    have hfollows := hmirrored.follows serial before hbefore hstate
    obtain hquiet | ⟨fd, hevent, hrunning'⟩ := hcases
    · rw [Joint.hear_quiet hquiet.sent]
      refine hfollows.quiet hfaithful hquiet.book hquiet.members (fun hcurrent => ?_)
        fun hcurrent connection' hconnection' => ?_
      · obtain ⟨connection', hconnection'⟩ := Option.isSome_iff_exists.mp hcurrent.2
        obtain ⟨connection, hconnection, -⟩ := hquiet.connections _ _ hconnection'
        exact ⟨hcurrent.1, by rw [hconnection]; rfl⟩
      · obtain ⟨connection, hconnection, hpackets⟩ := hquiet.connections _ _ hconnection'
        refine ⟨connection, hconnection, fun packet hmem => ?_⟩
        refine (hpackets packet hmem).imp_right fun hrequest => ?_
        refine hallowed.2 _ packet hrequest before ?_ hstate
        rw [hcurrent.1, hbefore]
    · obtain ⟨hrequests, hview⟩ := hfollows.event hfaithful hspeaks hconsistent hids
        (consistent_of_reachable hreachable') hevent hnext hrunning'
      exact ⟨hrequests, hview⟩
  · rw [Joint.hear_state] at hstate
    rw [Joint.hear_taken]
    exact hmirrored.holds serial before state hbefore hstate

/-- A step of the program only moves records from the channel to those taken. -/
theorem Mirrored.client (hkeeps : program.Keeps mirror Holds)
    (hmirrored : Mirrored program mirror Holds joint) {serial : ℕ} {client : Client State}
    {state : State} {move : Move} {moved : State × ℕ}
    (hclient : joint.clients serial = some client) (hstate : client.state = some state)
    (hnext : program.next state client.channel move = some moved) :
    Mirrored program mirror Holds
      { joint with
        clients := Function.update joint.clients serial
          (some { client with
            state := some moved.1
            taken := client.taken ++ client.channel.take moved.2
            channel := client.channel.drop moved.2 }) } := by
  have hrunning : client.state ≠ none := by simp [hstate]
  have hheard : (client.taken ++ client.channel.take moved.2) ++ client.channel.drop moved.2 =
      client.heard := by
    rw [List.append_assoc, List.take_append_drop]
    rfl
  refine ⟨hmirrored.reachable, fun other after hafter => ?_,
    fun other after hafter hruns => ?_, fun other after state' hafter hstate' => ?_⟩
  · obtain ⟨-, rfl⟩ | ⟨-, hold⟩ := clients_update hafter
    · rw [Client.heard, hheard]
      exact hmirrored.heard serial client hclient
    · exact hmirrored.heard other after hold
  · obtain ⟨rfl, rfl⟩ | ⟨-, hold⟩ := clients_update hafter
    · obtain ⟨hrequests, hview⟩ := hmirrored.follows other client hclient hrunning
      refine ⟨hrequests, ?_⟩
      rw [Client.heard, hheard]
      exact hview
    · obtain ⟨hrequests, hview⟩ := hmirrored.follows other after hold hruns
      exact ⟨hrequests, hview⟩
  · obtain ⟨rfl, rfl⟩ | ⟨-, hold⟩ := clients_update hafter
    · obtain rfl := Option.some.inj hstate'
      exact hkeeps state client.taken client.channel move moved.1 moved.2
        (hmirrored.holds other client state hclient hstate)
        (hmirrored.hears hclient hrunning) hnext
    · exact hmirrored.holds other after state' hold hstate'

/-- The run lemma: whatever the broker and the clients do, in any order. -/
theorem mirrored_of_reachable (hfaithful : mirror.Faithful) (hspeaks : program.Speaks mirror)
    (hholds : ∀ setup, Holds (program.initial setup) []) (hkeeps : program.Keeps mirror Holds)
    (hreach : program.system.ReachableWith program.Allows joint) :
    Mirrored program mirror Holds joint := by
  refine hreach.invariant (Mirrored program mirror Holds) .initial
    fun joint step joint' hmirrored hallowed hnext => ?_
  replace hnext : joint.next program step = some joint' := hnext
  cases step with
  | connect serial fd runs =>
      rw [Joint.next] at hnext
      split at hnext
      · cases hnext
      · obtain ⟨world', hworld', rfl⟩ := Option.map_eq_some_iff.mp hnext
        exact hmirrored.connect hfaithful hholds hworld'
  | broker action =>
      rw [Joint.next] at hnext
      split at hnext
      · cases hnext
      next hopens =>
        obtain ⟨world', hworld', rfl⟩ := Option.map_eq_some_iff.mp hnext
        exact hmirrored.broker hfaithful hspeaks (Bool.eq_false_iff.mpr hopens) hallowed
          hworld'
  | client serial move =>
      simp only [Joint.next, Option.bind_eq_some_iff, Option.map_eq_some_iff] at hnext
      obtain ⟨client, hclient, state, hstate, moved, hmoved, rfl⟩ := hnext
      exact hmirrored.client hkeeps hclient hstate hmoved

/-! ## Given requests -/

/-- The check of `Allows` for one step, when the program sends some of `mine` and every
other client some of `others`. -/
def allowsStep (mine others : List Request) (joint : Joint State) : Step Setup Move → Bool
  | .broker (.request fd packet) =>
      ((joint.world.connections fd).all fun connection =>
        (connection.received ++ connection.inbox).isEmpty) &&
      (decide (packet ∈ mine.map Request.packet) ||
        decide (packet ∈ others.map Request.packet) &&
          (joint.clients (joint.clientOf fd)).all fun client => client.state.isNone)
  | _ => true

end Runs

end DriveBus.Agreement
