import DriveBus.Agreement.Parties
import DriveBus.Agreement.Publishers

/-!
# The two ends of an attachment

Publishers and subscribers around one broker.  Once both ends have taken what waits for
them, a subscriber has an attachment for every topic that it shares with a publisher, the
publisher tracks the slot of each, and what is delivered there is what the publisher has
published since.
-/

namespace DriveBus.Agreement

open DriveBus.Clients DriveBus.ControlPlane DriveBus.Replica DriveBus.Transition
open DriveBus.UnorderedMap

open DriveBus.SharedMemory (SharedData invariant_of_reachable)

/-- Subscribers and publishers. -/
abbrev parties : Program (Bool ⊕ SharedData × Fd) (SubscriberState ⊕ PublisherState)
    (SubscriberMove ⊕ PublisherMove) :=
  subscriberProgram.beside publisherProgram

/-- A connected subscriber that has taken its records, and of which the system has refused
nothing. -/
structure SettledSubscriber (joint : Joint (SubscriberState ⊕ PublisherState))
    (fd : Fd) (subscriber : SubscriberState) : Prop where
  client : ∃ serial client, joint.clients serial = some client ∧ client.fd = fd ∧
    client.state = some (.inl subscriber) ∧ joint.Current serial client ∧ client.channel = []
  served : ¬subscriber.Refused

/-- A connected publisher that has taken its records, and for which no allocation has
failed. -/
structure SettledPublisher (joint : Joint (SubscriberState ⊕ PublisherState))
    (fd : Fd) (publisher : PublisherState) : Prop where
  client : ∃ serial client, joint.clients serial = some client ∧ client.fd = fd ∧
    client.state = some (.inr publisher) ∧ joint.Current serial client ∧ client.channel = []
  served : ¬publisher.Threw
  running : publisher.phase ≠ .stopped

section Ends

variable {joint : Joint (SubscriberState ⊕ PublisherState)} {subscriberFd publisherFd : Fd}
  {subscriber : SubscriberState} {publisher : PublisherState}

/-- What a settled subscriber has in its table is what the broker has for it. -/
theorem SettledSubscriber.lists
    (hreach : parties.system.ReachableWith (AllowsBeside subscriberProgram publisherProgram)
      joint) (hsettled : SettledSubscriber joint subscriberFd subscriber) :
    Lists subscriber.client.entry
      ((joint.world.broker.attachmentsOf subscriberFd).map fun attachment =>
        (attachment.attachmentId, attachment.topicId, attachment.slotIndex) :
          List (ℕ × TopicId × ℕ)) := by
  have hmirrored := mirrored_of_reachable attachmentMirror_faithful subscriberProgram_speaks
    subscriberHolds_initial subscriberProgram_keeps (left_reachable hreach)
  obtain ⟨serial, client, hclient, rfl, hstate, hcurrent, hchannel⟩ := hsettled.client
  have hown : client.state.bind Sum.getLeft? = some subscriber := by rw [hstate]; rfl
  have hclient' : (joint.only Sum.getLeft?).clients serial =
      some ⟨client.fd, some subscriber, client.taken, client.channel⟩ := by
    rw [← Client.only_own hown]
    exact congrArg (Option.map _) hclient
  have hcurrent' : (joint.only Sum.getLeft?).Current serial
      ⟨client.fd, some subscriber, client.taken, client.channel⟩ := by
    rw [← Client.only_own hown]
    exact Joint.only_current.mpr hcurrent
  obtain ⟨final, hreplay, hagrees⟩ :=
    (hmirrored.follows serial _ hclient' (by simp)).view
  have hholds := hmirrored.holds serial _ subscriber hclient' rfl
  rw [Client.heard, hchannel, List.append_nil] at hreplay
  have hlists := (hagrees hcurrent').map AttachmentInfo.place
  rw [hholds.table hsettled.served final hreplay]
  rw [Broker.attachmentEntries, Multiset.map_coe, List.map_map] at hlists
  exact hlists

/-- What a settled publisher tracks is what the broker has attached to it, and every slot
that it tracks has a reader. -/
theorem SettledPublisher.lists
    (hreach : parties.system.ReachableWith (AllowsBeside subscriberProgram publisherProgram)
      joint) (hsettled : SettledPublisher joint publisherFd publisher) :
    Lists publisher.view.table (joint.world.broker.occupants publisherFd) ∧
      ∃ pool, SharedMemory.Invariant publisher.plane pool := by
  have hmirrored := publishers_mirrored (right_reachable hreach)
  obtain ⟨serial, client, hclient, rfl, hstate, hcurrent, hchannel⟩ := hsettled.client
  have hown : client.state.bind Sum.getRight? = some publisher := by rw [hstate]; rfl
  have hclient' : (joint.only Sum.getRight?).clients serial =
      some ⟨client.fd, some publisher, client.taken, client.channel⟩ := by
    rw [← Client.only_own hown]
    exact congrArg (Option.map _) hclient
  have hcurrent' : (joint.only Sum.getRight?).Current serial
      ⟨client.fd, some publisher, client.taken, client.channel⟩ := by
    rw [← Client.only_own hown]
    exact Joint.only_current.mpr hcurrent
  obtain ⟨final, hreplay, hagrees⟩ :=
    (hmirrored.follows serial _ hclient' (by simp)).view
  have hruns := (hmirrored.holds serial _ publisher hclient' rfl).runs hsettled.running
  rw [Client.heard, hchannel, List.append_nil] at hreplay
  refine ⟨?_, ?_⟩
  · rw [← hruns.complete hsettled.served final hreplay]
    exact (hagrees hcurrent').lists
  · obtain ⟨mapped, hplane⟩ := hruns.plane
    exact invariant_of_reachable hplane

end Ends

end DriveBus.Agreement
