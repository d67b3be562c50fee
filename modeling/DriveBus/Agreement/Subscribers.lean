import DriveBus.Agreement.Runs
import DriveBus.Agreement.SubscriberRecords

/-!
# Broker and subscriber agree

The table that a subscriber keeps, changed by the records that it has not yet taken, is
the broker's list of its attachments, however long the records wait.  An event that
epoll has reported is handled on the attachment that it was reported for, or ignored.
-/

namespace DriveBus.Agreement

open DriveBus.ByteMemory DriveBus.Clients DriveBus.ControlPlane DriveBus.Replica
open DriveBus.Transition DriveBus.UnorderedMap

/-! ## The view of a subscriber -/

/-- Attachments by their ids. -/
def attachmentMirror : Mirror AttachmentView where
  Kind member := member.bind Member.topicId = none
  apply := AttachmentView.apply
  start := fun _ => none
  Agrees broker _ fd view := Lists view (broker.attachmentEntries fd)

theorem attachmentMirror_faithful : attachmentMirror.Faithful where
  unregistered := rfl
  fresh {broker members fd} hroutes hmember := by
    have hnone : broker.attachmentsOf fd = [] :=
      hroutes.attachmentsOf_eq_nil (by rw [hmember]; rfl)
    change Lists _ (broker.attachmentEntries fd)
    rw [Broker.attachmentEntries, hnone]
    exact Lists.empty
  quiet {before after members fd view} hbook hagrees := by
    change Lists view (after.attachmentEntries fd)
    rw [Broker.attachmentEntries, attachmentsOf_of_book hbook]
    exact hagrees
  event htranscript hroutes hroutes' hissued hstays hkind hagrees :=
    htranscript.attaching hroutes hroutes' hissued hstays hkind hagrees

theorem subscriberProgram_speaks : subscriberProgram.Speaks attachmentMirror := by
  rintro _ ⟨topics, rfl⟩
  exact ⟨by simp [Request.member], rfl⟩

/-- What a subscriber keeps of what it is told. -/
def AttachmentInfo.place (info : AttachmentInfo) : TopicId × ℕ := (info.topicId, info.slotIndex)

/-! ## Records -/

section Records

variable {client after : SubscriberClient} {issued : List ℕ} {record : BrokerMessage}
  {result : Except ControlError Unit}

theorem mem_ids_of_mem_zip {attachments : List SubscriberAttachment}
    {triples : List AttachmentFds} {entry : SubscriberAttachment × AttachmentFds}
    (hmem : entry ∈ attachments.zip triples) :
    entry.1.attachmentId ∈ attachments.map (·.attachmentId) :=
  List.mem_map_of_mem (List.of_mem_zip hmem).1

/-- A record keeps the table in order. -/
theorem RecordEffect.orderly (heffect : RecordEffect client record result after)
    (horderly : client.Orderly issued) : after.Orderly (issued ++ deliveredBy record) := by
  have hmono := horderly.mono (List.subset_append_left issued (deliveredBy record))
  cases heffect with
  | installed hlength hfresh =>
      exact hmono.installAll hfresh fun entry hmem =>
        List.mem_append_right _ (mem_ids_of_mem_zip hmem)
  | @refused attachments shmFds triples answers error entry installed rest hlength hfresh
      hentries hdenies =>
      have hids : ∀ entry ∈ installed, entry.1.attachmentId ∈
          issued ++ attachments.map (·.attachmentId) := fun other hmem =>
        List.mem_append_right _ (mem_ids_of_mem_zip
          (hentries ▸ List.mem_append_left _ hmem))
      rw [hentries] at hfresh
      obtain ⟨hleft, hright⟩ := hfresh.append
      exact (hmono.installAll hleft hids).release rfl hright.head.2
  | dropped hhas => exact hmono.drop hhas
  | missing hnone => exact hmono

/-- A record brings no attachment under an id that it does not deliver. -/
theorem RecordEffect.has (heffect : RecordEffect client record result after)
    (hpaired : client.Paired) {id : ℕ} (hother : id ∉ deliveredBy record)
    {eventFd : FdVariable} {attachment : PublisherAttachment}
    (hhas : after.Has id eventFd attachment) : client.Has id eventFd attachment := by
  cases heffect with
  | @installed attachments shmFds triples hlength hfresh =>
      refine has_of_installAll hpaired hfresh (fun hmem => hother ?_) hhas
      obtain ⟨entry, hentry, rfl⟩ := List.mem_map.mp hmem
      exact mem_ids_of_mem_zip hentry
  | @refused attachments shmFds triples answers error entry installed rest hlength hfresh
      hentries hdenies =>
      have hid : id ∉ installed.map (·.1.attachmentId) := fun hmem => hother <| by
        obtain ⟨entry, hentry, rfl⟩ := List.mem_map.mp hmem
        exact mem_ids_of_mem_zip (hentries ▸ List.mem_append_left _ hentry)
      rw [hentries] at hfresh
      refine has_of_installAll hpaired hfresh.append.1 hid (hhas.of_congr ?_ ?_)
      · simp [SubscriberClient.releasePublisherAttachment, SubscriberClient.closeFds]
      · simp [SubscriberClient.releasePublisherAttachment, SubscriberClient.closeFds]
  | dropped hdropped =>
      exact ((SubscriberClient.has_drop_iff hpaired hdropped).mp hhas).2
  | missing hnone => exact hhas

/-- A record that is handled changes the table as it changes the view. -/
theorem RecordEffect.entry (heffect : RecordEffect client record result after)
    (hok : result = .ok ()) (hpaired : client.Paired) {view view' : AttachmentView}
    (hentry : client.entry = view.map AttachmentInfo.place)
    (happly : AttachmentView.apply view record = some view') :
    after.entry = view'.map AttachmentInfo.place := by
  cases heffect with
  | @installed attachments shmFds triples hlength hfresh =>
      refine entry_installAll hpaired hfresh SubscriberAttachment.info AttachmentInfo.place
        (fun _ => rfl) hentry ?_
      have hfst : (attachments.zip triples).map Prod.fst = attachments :=
        List.map_fst_zip hlength.ge
      rw [AttachmentView.apply, ← hfst, List.map_map] at happly
      exact happly
  | refused => cases hok
  | @dropped attachmentId eventFd attachment hhas =>
      simp only [AttachmentView.apply, Table.apply, Option.ite_none_left_eq_some,
        Option.some.injEq] at happly
      obtain ⟨-, rfl⟩ := happly
      rw [SubscriberClient.entry_drop hpaired hhas, hentry, Table.map_update]
      rfl
  | missing => cases hok

/-- Where the view is right, only the system makes a record fail. -/
theorem RecordEffect.error_of_apply (heffect : RecordEffect client record result after)
    {view view' : AttachmentView}
    (hentry : client.entry = view.map AttachmentInfo.place)
    (happly : AttachmentView.apply view record = some view') {error : ControlError}
    (herror : result = .error error) : ∃ batchError, error = .batch batchError := by
  cases heffect with
  | installed => cases herror
  | @refused _ _ _ _ batchError =>
      cases herror
      exact ⟨batchError, rfl⟩
  | dropped => cases herror
  | @missing attachmentId hnone =>
      simp only [AttachmentView.apply, Table.apply, Option.ite_none_left_eq_some] at happly
      refine absurd ?_ happly.1
      have hplace := congrFun hentry attachmentId
      rw [SubscriberClient.entry, hnone, Table.map] at hplace
      exact Option.map_eq_none_iff.mp hplace.symm

theorem RecordEffect.denied (heffect : RecordEffect client record result after)
    {error : BatchError} (herror : result = .error (.batch error)) :
    ∃ answers : InstallAnswers, answers.Denies error := by
  cases heffect with
  | installed => cases herror
  | refused hlength hfresh hentries hdenies =>
      cases herror
      exact ⟨_, hdenies⟩
  | dropped => cases herror
  | missing => cases herror

end Records

/-! ## The state of a subscriber -/

/-- The attachment that an event is handled on is the one that it was reported for. -/
def HandledRight (event : Event) (dispatch : Dispatch) : Prop :=
  dispatch = .ignored ∨ ∃ fd registered attachment,
    event.registered = some (fd, registered) ∧ dispatch = .handled (some fd) attachment ∧
      attachment.asInstalled = registered.asInstalled

/-- An event is the socket's or the shutdown's, or whatever has its id now is the
attachment that it was reported for. -/
def Event.Right (event : Event) (state : SubscriberState) (issued : List ℕ) : Prop :=
  event.eventId = kBrokerEventId ∨
  (event.eventId = kShutdownEventId ∧ state.asynchronous) ∨
  event.eventId ∈ issued ∧ ∃ fd registered, event.registered = some (fd, registered) ∧
    ∀ eventFd attachment, state.client.Has event.eventId eventFd attachment →
      eventFd = some fd ∧ attachment.asInstalled = registered.asInstalled

/-- The system has refused what the installation of some attachment asked of it. -/
def SubscriberState.Refused (state : SubscriberState) : Prop :=
  ∃ error, .batch error ∈ state.failures

structure SubscriberHolds (state : SubscriberState) (taken : List BrokerMessage) : Prop where
  orderly : state.client.Orderly (taken.flatMap deliveredBy)
  events : ∀ event ∈ state.events, event.Right state (taken.flatMap deliveredBy)
  dispatched : ∀ entry ∈ state.dispatched, HandledRight entry.1 entry.2
  table : ¬state.Refused → ∀ view, replay AttachmentView.apply (fun _ => none) taken =
    some view → state.client.entry = view.map AttachmentInfo.place
  denied : ∀ error, .batch error ∈ state.failures →
    ∃ answers : InstallAnswers, answers.Denies error
  failures : ¬state.Refused → ∀ error ∈ state.failures, error = .receive ∨ error = .closed

theorem subscriberHolds_initial (asynchronous : Bool) :
    SubscriberHolds (.initial asynchronous) [] where
  orderly := SubscriberClient.orderly_initial
  events _ hmem := absurd hmem List.not_mem_nil
  dispatched _ hmem := absurd hmem List.not_mem_nil
  table _ view hreplay := by
    obtain rfl := Option.some.inj hreplay
    rfl
  denied _ hmem := absurd hmem List.not_mem_nil
  failures _ _ hmem := absurd hmem List.not_mem_nil

section Steps

variable {state : SubscriberState} {taken : List BrokerMessage} {event : Event}

/-- An event is right as long as nothing new comes under its id. -/
theorem Event.Right.mono {state' : SubscriberState} {issued issued' : List ℕ}
    (hright : event.Right state issued)
    (hasynchronous : state'.asynchronous = state.asynchronous) (hsubset : issued ⊆ issued')
    (hhas : event.eventId ∈ issued → ∀ {eventFd attachment},
      state'.client.Has event.eventId eventFd attachment → ∃ before,
        state.client.Has event.eventId eventFd before ∧
          attachment.asInstalled = before.asInstalled) : event.Right state' issued' := by
  obtain hbroker | hshutdown | ⟨hissued, fd, registered, hregistered, howner⟩ := hright
  · exact .inl hbroker
  · exact .inr (.inl (hasynchronous ▸ hshutdown))
  · refine .inr (.inr ⟨hsubset hissued, fd, registered, hregistered,
      fun eventFd attachment hnow => ?_⟩)
    obtain ⟨before, hbefore, hsame⟩ := hhas hissued hnow
    obtain ⟨hfd, hinstalled⟩ := howner eventFd before hbefore
    exact ⟨hfd, hsame.trans hinstalled⟩

/-- What epoll reports is right when it is reported. -/
theorem SubscriberHolds.event_right (hholds : SubscriberHolds state taken) {report : Report}
    (hevent : state.event report = some event) :
    event.Right state (taken.flatMap deliveredBy) := by
  cases report with
  | broker =>
      obtain rfl := Option.some.inj hevent
      exact .inl rfl
  | shutdown =>
      simp only [SubscriberState.event, Option.ite_none_right_eq_some, Option.some.injEq]
        at hevent
      obtain ⟨hasynchronous, rfl⟩ := hevent
      exact .inr (.inl ⟨rfl, hasynchronous⟩)
  | data fd =>
      obtain ⟨eventId, hinterest, rfl⟩ := Option.map_eq_some_iff.mp hevent
      obtain ⟨registered, hhas⟩ := hholds.orderly.registered.mp hinterest
      refine .inr (.inr ⟨hholds.orderly.issued hhas.byId, fd, registered, ?_,
        fun eventFd attachment hnow => ?_⟩)
      · dsimp only
        rw [hhas.byEventFd]
        rfl
      · obtain rfl := Option.some.inj (hnow.byId.symm.trans hhas.byId)
        obtain rfl := Option.some.inj (hnow.byEventFd.symm.trans hhas.byEventFd)
        exact ⟨rfl, rfl⟩

theorem SubscriberHolds.wait (hholds : SubscriberHolds state taken) (reports : List Report) :
    SubscriberHolds { state with events := reports.filterMap state.event } taken := by
  refine ⟨hholds.orderly, fun event hmem => ?_, hholds.dispatched, hholds.table,
    hholds.denied, hholds.failures⟩
  obtain ⟨report, -, hevent⟩ := List.mem_filterMap.mp hmem
  exact hholds.event_right hevent

/-- An event that is right is dispatched right. -/
theorem Event.Right.dispatch {issued : List ℕ} (hright : event.Right state issued)
    (hpaired : state.client.Paired)
    (hshutdown : ¬(state.asynchronous ∧ event.eventId = kShutdownEventId))
    (hbroker : event.eventId ≠ kBrokerEventId) :
    HandledRight event (dispatchDataEvent state.client event.eventId) := by
  obtain heq | ⟨heq, hasynchronous⟩ | ⟨-, fd, registered, hregistered, howner⟩ := hright
  · exact absurd heq hbroker
  · exact absurd ⟨hasynchronous, heq⟩ hshutdown
  · rw [dispatchDataEvent]
    cases hlookup : state.client.dataAvailableEventFdByAttachmentId.lookup event.eventId with
    | none => exact .inl rfl
    | some eventFd =>
        obtain ⟨attachment, hattachment⟩ :=
          Option.isSome_iff_exists.mp (hpaired.forward hlookup)
        obtain ⟨rfl, hinstalled⟩ := howner eventFd attachment ⟨hlookup, hattachment⟩
        dsimp only
        rw [hattachment]
        exact .inr ⟨fd, registered, attachment, hregistered, rfl, hinstalled⟩

/-- Reading keeps the table in order, and what is in it. -/
theorem read_dispatch {client : SubscriberClient} {issued : List ℕ}
    (horderly : client.Orderly issued) (eventId readIndex : ℕ) (expectedSeq : ℤ) :
    let read := (dispatchDataEvent client eventId).read readIndex expectedSeq client
    read.Orderly issued ∧ read.entry = client.entry ∧
      ∀ {id eventFd attachment}, read.Has id eventFd attachment → ∃ before,
        client.Has id eventFd before ∧ attachment.asInstalled = before.asInstalled := by
  rw [dispatchDataEvent]
  split
  · exact ⟨horderly, rfl, fun hhas => ⟨_, hhas, rfl⟩⟩
  next eventFd hlookup =>
    split
    · exact ⟨horderly, rfl, fun hhas => ⟨_, hhas, rfl⟩⟩
    next attachment hattachment =>
      exact ⟨horderly.read hattachment readIndex expectedSeq,
        SubscriberClient.entry_read hattachment readIndex expectedSeq,
        SubscriberClient.has_of_read hattachment⟩

theorem SubscriberHolds.dispatch (hholds : SubscriberHolds state taken) {rest : List Event}
    (hevents : state.events = event :: rest) (readIndex : ℕ) (expectedSeq : ℤ) :
    SubscriberHolds (state.dispatch event rest readIndex expectedSeq) taken := by
  have hright := hholds.events event (hevents ▸ List.mem_cons_self)
  have hrest : ∀ other ∈ rest, other.Right state (taken.flatMap deliveredBy) :=
    fun other hmem => hholds.events other (hevents ▸ List.mem_cons_of_mem _ hmem)
  rw [SubscriberState.dispatch]
  split
  · exact ⟨hholds.orderly, hrest, hholds.dispatched, hholds.table, hholds.denied,
      hholds.failures⟩
  next hshutdown =>
    split
    · exact ⟨hholds.orderly, hrest, hholds.dispatched, hholds.table, hholds.denied,
        hholds.failures⟩
    next hbroker =>
      obtain ⟨horderly, hentry, hhas⟩ :=
        read_dispatch hholds.orderly event.eventId readIndex expectedSeq
      refine ⟨horderly, fun other hmem => ?_, fun entry hmem => ?_, fun hrefused view hreplay =>
        hentry.trans (hholds.table hrefused view hreplay), hholds.denied, hholds.failures⟩
      · exact (hrest other hmem).mono rfl (List.Subset.refl _) fun _ _ _ hnow => hhas hnow
      · rcases List.mem_append.mp hmem with hold | hnew
        · exact hholds.dispatched entry hold
        · rw [List.mem_singleton.mp hnew]
          exact hright.dispatch hholds.orderly.paired hshutdown hbroker

/-- A record that the broker sends to a subscriber is handled in one of the four ways. -/
theorem recordEffect_of_hears {client : SubscriberClient} {record : BrokerMessage}
    {rest : List BrokerMessage} {view view' : AttachmentView} {fds : List Fd}
    (horderly : client.Orderly (taken.flatMap deliveredBy))
    (hhears : Hears attachmentMirror taken (record :: rest))
    (happly : AttachmentView.apply view record = some view')
    (hlength : fds.length = (record.packet.rights.getD []).length) (hnodup : fds.Nodup)
    (hfree : ∀ fd ∈ fds, fd ∉ client.held) (answers : ℕ → InstallAnswers) (buffer : Memory) :
    let received := recvmsg kMaxMessageSize kSubscriberControlSize record.packet.bytes fds
    let run := processBrokerControlMessages [.record received answers] buffer client
    ∃ after closed, RecordEffect client record run.result after ∧
      run.client = after.closeFds closed := by
  have hencodable := hhears.encodable record (by simp)
  obtain ⟨hids, hnew⟩ := hhears.new_ids
  cases record with
  | subscriberAttachmentBatch attachments shmFds =>
      exact effect_batch horderly hencodable hids hnew hlength hnodup hfree
  | publisherDisconnected attachmentId =>
      exact effect_publisherDisconnected horderly hencodable hlength
  | statusSnapshot => cases happly
  | initialSubscriberCount count => cases happly
  | subscriberEventFdAndSlot slotIndex dataAvailableEventFd => cases happly
  | subscriberDisconnected slotIndex => cases happly

theorem SubscriberHolds.receive (hholds : SubscriberHolds state taken)
    {record : BrokerMessage} {rest : List BrokerMessage} {fds : List Fd}
    (hhears : Hears attachmentMirror taken (record :: rest))
    (hlength : fds.length = (record.packet.rights.getD []).length)
    (hfree : state.FreeFds fds) (answers : ℕ → InstallAnswers) (buffer : Memory) :
    SubscriberHolds (state.receive (.record (recvmsg kMaxMessageSize kSubscriberControlSize
      record.packet.bytes fds) answers) buffer) (taken ++ [record]) := by
  obtain ⟨view, final, htaken, hchannel⟩ := hhears.split
  obtain ⟨view', happly, -⟩ := replay_deliver hchannel
  replace happly : AttachmentView.apply view record = some view' := happly
  obtain ⟨after, closed, heffect, hclient⟩ := recordEffect_of_hears hholds.orderly hhears happly
    hlength hfree.1 hfree.2 answers buffer
  have hpaired := hholds.orderly.paired
  have hissued : (taken ++ [record]).flatMap deliveredBy =
      taken.flatMap deliveredBy ++ deliveredBy record := by simp
  have horderly : (after.closeFds closed).Orderly ((taken ++ [record]).flatMap deliveredBy) := by
    rw [hissued]
    exact (heffect.orderly hholds.orderly).congr rfl rfl rfl
  have hevents : ∀ state' : SubscriberState, state'.asynchronous = state.asynchronous →
      state'.client = after.closeFds closed → ∀ event ∈ state.events,
        event.Right state' ((taken ++ [record]).flatMap deliveredBy) := by
    intro state' hasynchronous hafter event hmem
    rw [hissued]
    refine (hholds.events event hmem).mono hasynchronous (List.subset_append_left _ _)
      fun hold _ _ hnow => ?_
    rw [hafter] at hnow
    exact ⟨_, heffect.has hpaired (fun hid => hhears.new_ids.2 _ hid hold)
      (hnow.of_congr rfl rfl), rfl⟩
  rw [SubscriberState.receive, hclient]
  split
  next hresult =>
    refine ⟨horderly, hevents _ rfl rfl, hholds.dispatched, fun hrefused other hreplay => ?_,
      hholds.denied, hholds.failures⟩
    have hend : replay AttachmentView.apply (fun _ => none) (taken ++ [record]) = some view' :=
      replay_send htaken (by rw [replay, List.foldlM_cons, happly]; rfl)
    obtain rfl := Option.some.inj (hreplay.symm.trans hend)
    exact heffect.entry hresult hpaired (hholds.table hrefused view htaken) happly
  next error hresult =>
    -- Unless the system has refused something before, it has now.
    have hrefused' : state.Refused ∨ ∃ batchError, error = .batch batchError := by
      by_cases hrefused : state.Refused
      · exact .inl hrefused
      · exact .inr (heffect.error_of_apply (hholds.table hrefused view htaken) happly hresult)
    have hnow : ∃ batchError, .batch batchError ∈ state.failures ++ [error] := by
      obtain ⟨batchError, hmem⟩ | ⟨batchError, rfl⟩ := hrefused'
      · exact ⟨batchError, List.mem_append_left _ hmem⟩
      · exact ⟨batchError, by simp⟩
    refine ⟨horderly, hevents _ rfl rfl, hholds.dispatched, fun hnot => absurd hnow hnot,
      fun batchError hmem => ?_, fun hnot => absurd hnow hnot⟩
    rcases List.mem_append.mp hmem with hold | hnew
    · exact hholds.denied batchError hold
    · rw [← List.mem_singleton.mp hnew] at hresult
      exact heffect.denied hresult

/-- A call that ends before a record is taken leaves the table as it is. -/
theorem SubscriberHolds.fail (hholds : SubscriberHolds state taken) {error : ControlError}
    (herror : error = .receive ∨ error = .closed) {client : SubscriberClient}
    {closed : List Fd} (hclient : client = state.client.closeFds closed) :
    SubscriberHolds { state with
      client := client
      draining := false
      failures := state.failures ++ [error] } taken := by
  subst hclient
  refine ⟨hholds.orderly.congr rfl rfl rfl, fun event hmem => ?_, hholds.dispatched,
    fun hnot view hreplay => hholds.table (fun hbefore => hnot ?_) view hreplay,
    fun batchError hmem => ?_, fun hnot other hmem => ?_⟩
  · exact (hholds.events event hmem).mono rfl (List.Subset.refl _) fun _ _ _ hnow =>
      ⟨_, hnow.of_congr rfl rfl, rfl⟩
  · obtain ⟨batchError, hbatch⟩ := hbefore
    exact ⟨batchError, List.mem_append_left _ hbatch⟩
  · rcases List.mem_append.mp hmem with hold | hnew
    · exact hholds.denied batchError hold
    · rw [← List.mem_singleton.mp hnew] at herror
      rcases herror with heq | heq <;> cases heq
  · rcases List.mem_append.mp hmem with hold | hnew
    · refine hholds.failures (fun hbefore => hnot ?_) other hold
      obtain ⟨batchError, hbatch⟩ := hbefore
      exact ⟨batchError, List.mem_append_left _ hbatch⟩
    · rwa [List.mem_singleton.mp hnew]

end Steps

theorem subscriberProgram_keeps : subscriberProgram.Keeps attachmentMirror SubscriberHolds := by
  intro state taken channel move state' count hholds hhears hnext
  replace hnext : state.next channel move = some (state', count) := hnext
  have hnone : taken ++ channel.take 0 = taken := by simp
  cases move with
  | wait reports =>
      simp only [SubscriberState.next, Option.ite_none_right_eq_some, Option.some.injEq,
        Prod.mk.injEq] at hnext
      obtain ⟨-, rfl, rfl⟩ := hnext
      rw [hnone]
      exact hholds.wait reports
  | dispatch readIndex expectedSeq =>
      cases hevents : state.events with
      | nil => simp [SubscriberState.next, hevents] at hnext
      | cons event rest =>
          simp only [SubscriberState.next, hevents, Option.ite_none_left_eq_some,
            Option.some.injEq, Prod.mk.injEq] at hnext
          obtain ⟨-, rfl, rfl⟩ := hnext
          rw [hnone]
          exact hholds.dispatch hevents readIndex expectedSeq
  | receive buffer fds answers =>
      cases channel with
      | nil => cases hnext
      | cons record rest =>
          simp only [SubscriberState.next, Option.ite_none_right_eq_some, Option.some.injEq,
            Prod.mk.injEq] at hnext
          obtain ⟨⟨-, hlength, hfree⟩, rfl, rfl⟩ := hnext
          exact hholds.receive hhears hlength hfree answers buffer
  | drained =>
      simp only [SubscriberState.next, Option.ite_none_right_eq_some, Option.some.injEq,
        Prod.mk.injEq] at hnext
      obtain ⟨-, rfl, rfl⟩ := hnext
      rw [hnone]
      exact ⟨hholds.orderly, hholds.events, hholds.dispatched, hholds.table, hholds.denied,
        hholds.failures⟩
  | receiveFailed =>
      simp only [SubscriberState.next, Option.ite_none_right_eq_some, Option.some.injEq,
        Prod.mk.injEq] at hnext
      obtain ⟨-, rfl, rfl⟩ := hnext
      rw [hnone]
      have hclient : state.client = state.client.closeFds [] := by
        simp [SubscriberClient.closeFds]
      exact hholds.fail (.inl rfl) hclient
  | closed =>
      simp only [SubscriberState.next, Option.ite_none_right_eq_some, Option.some.injEq,
        Prod.mk.injEq] at hnext
      obtain ⟨-, rfl, rfl⟩ := hnext
      rw [hnone]
      exact hholds.fail (.inr rfl) rfl

/-! ## Agreement -/

theorem oneTopic_nonempty : ([1] : List TopicId) ≠ [] := List.cons_ne_nil 1 []

theorem oneTopic_bounded : ([1] : List TopicId).length ≤ kMaxSubscriberTopicCount := by decide

def subscription : Request := .subscribe ⟨[1], oneTopic_nonempty, oneTopic_bounded⟩

def publication : Request := .publish 1 50 51

/-- A subscriber takes its attachment and handles an event on it, and the publisher's
disconnection waits for it. -/
def publisherLeaves : List (Step Bool SubscriberMove) :=
  [.connect 0 3 (some false), .broker (.request 3 subscription.packet),
    .broker (.receive 3 .generous), .connect 1 4 none,
    .broker (.request 4 publication.packet), .broker (.receive 4 .generous),
    .client 0 (.wait [.broker]), .client 0 (.dispatch 0 0),
    .client 0 (.receive (fun _ => 0) [] fun _ => .generous),
    .client 0 (.receive (fun _ => 0) [10, 11, 12] fun _ => .generous),
    .client 0 .drained, .client 0 (.wait [.data 12, .broker]),
    .broker (.hangUp 4), .broker (.receive 4 .generous), .client 0 (.dispatch 7 1)]

def oneSubscriber (steps : List (Step Bool SubscriberMove)) : Joint SubscriberState :=
  (subscriberProgram.system.guardedRun (allowsStep [subscription] [publication])
    subscriberProgram.system.initial steps).getD subscriberProgram.system.initial

def publisherLeft : Joint SubscriberState := oneSubscriber publisherLeaves

end DriveBus.Agreement
