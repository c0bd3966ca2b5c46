/-
  Coterie.Supervisor.Notified

  Notifications over every order of requests about them and of other transactions.

  A request applies one mutation or changes nothing (`NoticeCall.serve_cases`), and what it applies
  is a `NoticeStep` for every session.  Other transactions leave the notifications alone and only
  lengthen the log and the inboxes.  The marks of the sessions (`Notice.mark`) are carried along as
  ghost state, so that what is pending can be told from the log and the inbox.
-/

import Coterie.State.Notices
import Coterie.Supervisor.Cycles
import Coterie.Supervisor.Following
import Coterie.Supervisor.Mailbox
import Coterie.Supervisor.Notifications

namespace Coterie

-- ============================================================================
-- The system
-- ============================================================================

/-- A request with what the supervisor knows about its sender. -/
structure NoticeCall where
  config : EffectiveConfig
  runId : RunId
  caller : AuthenticatedCaller
  ownsBridge : Bool
  now : Int
  request : NotificationRequest

def NoticeCall.serve (call : NoticeCall) (db : Db) :
    Except RequestError NotificationResponse × Db :=
  (executeNotification call.config call.runId call.caller call.ownsBridge call.now
    call.request).run db

/-- The request repeats a recorded operation, or the receipt of a delivery. -/
def NoticeCall.Repeats (call : NoticeCall) (db : Db) : Prop :=
  (∃ id, call.request.operationId = some id ∧ db.operation id ≠ none) ∨
    ∃ id, ∃ delivery ∈ db.notificationDeliveries,
      call.request = .receive id delivery.operationId ∧ delivery.received = true

/-- A request about notifications, or another transaction. -/
inductive NoticeInput where
  | request (call : NoticeCall)
  | transact (command : Command)

def NoticeInput.apply : NoticeInput → Db → Db
  | .request call, db => (call.serve db).2
  | .transact command, db => command.exec db

/-- A store with the marks of its sessions. -/
structure Noticed where
  db : Db
  marks : SessionId → Nat × Nat

def noticeMachine : Machine Noticed NoticeInput where
  start := ⟨.empty, fun _ => (0, 0)⟩
  step input s :=
    { db := input.apply s.db
      marks := fun id =>
        Notice.mark (s.db.highWater id) (s.db.notice id) ((input.apply s.db).notice id)
          (s.marks id) }

/-- Something came up after the mark: a message that is not acknowledged, or an event that can wake
    a session that reads tasks. -/
def Noticed.Unread (s : Noticed) (scope : SessionScope) (progress : Bool) : Prop :=
  (∃ message ∈ s.db.inboxOf scope.runId scope.agentId,
      message.acknowledgedAt = none ∧ (s.marks scope.sessionId).2 < message.sequence) ∨
    progress = true ∧ ∃ event ∈ s.db.events,
      event.Wakes scope ∧ (s.marks scope.sessionId).1 < event.sequence

/-- At most one delivery of a session is outstanding, and a session is to be notified exactly while
    it is live and bound, has none outstanding and has something unread. -/
structure Noticed.Safe (s : Noticed) : Prop where
  single : ∀ id, (s.db.notice id).outstanding.length ≤ 1
  pending : ∀ scope progress, (s.db.pendingNotification scope progress).isSome = true ↔
    s.db.notificationsLive scope = true ∧
      (∃ binding, s.db.foregroundNotification scope.sessionId = some binding ∧
        binding.threadId ≠ none) ∧
      (s.db.notice scope.sessionId).outstanding = [] ∧ s.Unread scope progress

-- ============================================================================
-- Requests
-- ============================================================================

section Requests

variable {db db' : Db}

theorem applyNotification_notifies {scope : SessionScope} {id : OperationId} {progress : Bool}
    {now : Int} {request : NotificationRequest} {response : NotificationResponse}
    (hkeyed : db.NoticesKeyed)
    (h : (applyNotification scope id progress now request).run db = (.ok response, db')) :
    db.Notifies db' := by
  have hsettled : ∀ {response db db'},
      (applyNotification.settled scope now).run db = (.ok response, db') → db' = db := by
    intro response db db' h
    obtain ⟨availability, _, h₁, h⟩ := Tx.bind_eq_ok.mp h
    obtain ⟨-, rfl⟩ := Tx.read_eq_ok.mp h₁
    obtain ⟨-, rfl⟩ := Tx.pure_eq_ok.mp h
    rfl
  cases request with
  | enable operationId scope' =>
      obtain ⟨_, _, h₁, h⟩ := Tx.bind_eq_ok.mp h
      obtain rfl := hsettled h
      exact enableNotifications_notifies hkeyed h₁
  | bind operationId threadId =>
      obtain ⟨isBound, _, h₁, h⟩ := Tx.bind_eq_ok.mp h
      obtain ⟨_, _, h₂, h⟩ := Tx.bind_eq_ok.mp h
      obtain rfl := hsettled h
      rcases Tx.when_eq_ok.mp h₂ with ⟨-, herror⟩ | ⟨-, rfl⟩
      · cases herror
      · exact bindNotifications_notifies hkeyed h₁
  | claim operationId scope' =>
      obtain ⟨claim, _, h₁, h⟩ := Tx.bind_eq_ok.mp h
      obtain ⟨-, rfl⟩ := Tx.pure_eq_ok.mp h
      exact claimNotification_notifies hkeyed h₁
  | observe operationId scope' deliveryId outcome =>
      obtain ⟨_, _, h₁, h⟩ := Tx.bind_eq_ok.mp h
      obtain rfl := hsettled h
      exact observeNotification_notifies hkeyed h₁
  | receive operationId deliveryId =>
      obtain ⟨isReceived, _, h₁, h⟩ := Tx.bind_eq_ok.mp h
      obtain ⟨-, rfl⟩ := Tx.pure_eq_ok.mp h
      exact receiveNotification_notifies hkeyed h₁
  | pending scope' => cases h

/-- A request applies its mutation once, or changes nothing. -/
theorem NoticeCall.serve_cases (call : NoticeCall) (db : Db) :
    (call.serve db).2 = db ∨ ∃ scope operationId progress response json,
      call.request.operationId = some operationId ∧
        (notificationCall call.runId call.caller scope operationId progress call.now
          call.request).AppliedFrom db (call.serve db).2 response json := by
  generalize hserve : call.serve db = served
  obtain ⟨result, db'⟩ := served
  dsimp only
  unfold serve executeNotification at hserve
  rcases (Tx.Keeps.ofExcept _).bind_run hserve with ⟨e, -, hsame⟩ | ⟨⟨scope, id⟩, htarget, h⟩
  · exact .inl hsame
  have hid := notificationTarget_ok (Tx.ofExcept_eq_ok.mp htarget).1
  rcases (still_requireForegroundScope call.config call.runId scope).bind_run h with
    ⟨e, -, hsame⟩ | ⟨_, -, h⟩
  · exact .inl hsame
  rcases (still_agentRecord call.runId scope.agentId).bind_run h with ⟨e, -, hsame⟩ | ⟨agent, -, h⟩
  · exact .inl hsame
  cases id with
  | none =>
      -- a question about what is pending
      cases h
      exact .inl rfl
  | some operationId =>
      generalize
        (call.config.archetype.authorize agent.role ⟨"task", "read"⟩ == .allowed) = progress at h
      let mutation := notificationCall call.runId call.caller scope operationId progress call.now
        call.request
      rcases committed_cases (mutationBody mutation.codec mutation.mutation none mutation.apply) db
        with ⟨outcome, db'', hrun, hcommitted⟩ | ⟨e, hcommitted⟩
      · have hok := (Tx.bind_eq_ok.mpr ⟨outcome, db'', hcommitted, rfl⟩).symm.trans h
        cases hok
        have hout : mutation.outcome db = (.ok outcome, db') := Tx.transaction_eq_ok.mpr hrun
        rcases mutation.outcome_cases db with
          ⟨response, json, applied, hcase, happlied⟩ | ⟨response, hcase⟩ | ⟨e, hcase⟩
        · rw [hcase] at hout
          cases hout
          exact .inr ⟨scope, operationId, progress, response, json, hid.symm, happlied⟩
        · rw [hcase] at hout
          cases hout
          exact .inl rfl
        · rw [hcase] at hout
          cases hout
      · have herror := (Tx.bind_eq_error.mpr (.inl hcommitted)).symm.trans h
        cases herror
        exact .inl rfl

/-- A request changes nobody in the roster, no event and no message. -/
theorem NoticeCall.serve_same (call : NoticeCall) (db : Db) :
    (call.serve db).2.roster = db.roster ∧ (call.serve db).2.events = db.events ∧
      (call.serve db).2.messages = db.messages := by
  rcases call.serve_cases db with hsame | ⟨scope, id, progress, response, json, -, happlied⟩
  · rw [hsame]
    exact ⟨rfl, rfl, rfl⟩
  · obtain ⟨-, -, db₁, happly, hdb⟩ := happlied
    have hwritten := ((writes_applyNotification scope id progress call.now call.request).of_ok
      happly).writesOnly
    rw [hdb]
    have hagents : db₁.agents = db.agents := hwritten.same .agents (by decide)
    have hsessions : db₁.sessions = db.sessions := hwritten.same .sessions (by decide)
    have hcredentials : db₁.sessionCredentials = db.sessionCredentials :=
      hwritten.same .sessionCredentials (by decide)
    have hevents : db₁.events = db.events := hwritten.same .events (by decide)
    have hmessages : db₁.messages = db.messages := hwritten.same .messages (by decide)
    refine ⟨?_, hevents, hmessages⟩
    show Roster.mk db₁.agents db₁.sessions db₁.sessionCredentials = _
    rw [hagents, hsessions, hcredentials]
    rfl

theorem NoticeCall.serve_notifies (call : NoticeCall) (hkeyed : db.NoticesKeyed) :
    db.Notifies (call.serve db).2 := by
  rcases call.serve_cases db with hsame | ⟨scope, id, progress, response, json, -, happlied⟩
  · rw [hsame]
    exact .of_same hkeyed
  · obtain ⟨-, -, db₁, happly, hdb⟩ := happlied
    rw [hdb]
    have hopened : Db.NoticesKeyed ((notificationCall call.runId call.caller scope id progress
        call.now call.request).opened db) := ⟨hkeyed.sessions, hkeyed.deliveries⟩
    have hnotifies := applyNotification_notifies hopened happly
    exact ⟨hnotifies.steps, hnotifies.keyed⟩

/-- The receipt of a delivery that was received already changes nothing. -/
theorem receiveNotification_again {scope : SessionScope} {now : Int} {isReceived : Bool}
    {delivery : NotificationDelivery} (hkeyed : db.NoticesKeyed)
    (hmem : delivery ∈ db.notificationDeliveries) (hreceived : delivery.received = true)
    (h : (receiveNotification scope delivery.operationId now).run db = (.ok isReceived, db')) :
    db' = db := by
  obtain ⟨live, _, h₁, r₁⟩ := Tx.bind_eq_ok.mp h
  obtain ⟨rfl, rfl⟩ := Tx.read_eq_ok.mp h₁
  split at r₁
  · exact (Tx.pure_eq_ok.mp r₁).2.symm
  · obtain ⟨deliveries, _, h₂, r₂⟩ := Tx.bind_eq_ok.mp r₁
    obtain ⟨rfl, rfl⟩ := Tx.read_eq_ok.mp h₂
    dsimp only at r₂
    split at r₂
    · exact (Tx.pure_eq_ok.mp r₂).2.symm
    · next hreceipt =>
        -- the delivery that is still to be received would be the received one
        obtain ⟨found, hfound, hpending⟩ := Option.map_eq_some_iff.mp hreceipt
        have hselected := List.find?_some hfound
        simp only [Bool.and_eq_true, beq_iff_eq] at hselected
        have hfound' := (mem_deliveriesTo.mp (List.mem_of_find?_eq_some hfound)).1
        rw [← hkeyed.deliveries.eq_of_key_eq hfound' hmem hselected.1] at hreceived
        unfold NotificationDelivery.received at hreceived
        rw [hpending] at hreceived
        cases hreceived
    · exact (Tx.pure_eq_ok.mp r₂).2.symm
    · exact (Tx.pure_eq_ok.mp r₂).2.symm

theorem NoticeCall.serve_repeats {call : NoticeCall} (hkeyed : db.NoticesKeyed)
    (h : call.Repeats db) :
    (call.serve db).2.foregroundNotifications = db.foregroundNotifications ∧
      (call.serve db).2.notificationDeliveries = db.notificationDeliveries := by
  rcases call.serve_cases db with hsame | ⟨scope, id, progress, response, json, hid, happlied⟩
  · rw [hsame]
    exact ⟨rfl, rfl⟩
  · obtain ⟨hnew, -, db₁, happly, hdb⟩ := happlied
    rcases h with ⟨id', hid', hrecorded⟩ | ⟨id', delivery, hmem, hrequest, hreceived⟩
    · -- an operation that is recorded is not applied again
      rw [hid] at hid'
      cases hid'
      exact absurd hnew hrecorded
    · rw [hdb]
      generalize hopened : (notificationCall call.runId call.caller scope id progress call.now
        call.request).opened db = opened at happly
      have hkeyed' : opened.NoticesKeyed := hopened ▸ ⟨hkeyed.sessions, hkeyed.deliveries⟩
      have hmem' : delivery ∈ opened.notificationDeliveries := hopened ▸ hmem
      change (applyNotification scope id progress call.now call.request).run opened = _ at happly
      rw [hrequest] at happly
      obtain ⟨isReceived, _, h₁, h₂⟩ := Tx.bind_eq_ok.mp happly
      obtain ⟨-, rfl⟩ := Tx.pure_eq_ok.mp h₂
      have hsame := receiveNotification_again hkeyed' hmem' hreceived h₁
      rw [hsame, ← hopened]
      exact ⟨rfl, rfl⟩

end Requests

-- ============================================================================
-- Other transactions
-- ============================================================================

/-- The notifications are written by requests about them alone. -/
theorem exec_notificationTables (command : Command) (db : Db) :
    (command.exec db).foregroundNotifications = db.foregroundNotifications ∧
      (command.exec db).notificationDeliveries = db.notificationDeliveries := by
  have hno : .foregroundNotifications ∉ command.writes ∧
      .notificationDeliveries ∉ command.writes := by
    cases command <;> dsimp only [Command.writes] <;> decide
  exact ⟨command.exec_writesOnly db .foregroundNotifications hno.1,
    command.exec_writesOnly db .notificationDeliveries hno.2⟩

theorem exec_notice (command : Command) (db : Db) (id : SessionId) :
    (command.exec db).notice id = db.notice id := by
  obtain ⟨hbindings, hdeliveries⟩ := exec_notificationTables command db
  unfold Db.notice Db.foregroundNotification Db.deliveriesTo
  rw [hbindings, hdeliveries]

/-- A session whose row is still there, and whose log and inbox got longer. -/
theorem highWater_mono {db db' : Db} (hfenced : db'.roster.Fenced)
    (hscopes : ∀ session ∈ db.sessions, ∃ session' ∈ db'.sessions, session'.scope = session.scope)
    (hlog : db.events <+: db'.events)
    (hinbox : ∀ runId agentId, db.highestCursor runId agentId ≤ db'.highestCursor runId agentId)
    (id : SessionId) : db.highWater id ≤ db'.highWater id := by
  cases hfound : db.session id with
  | none =>
      unfold Db.highWater
      rw [hfound]
      exact ⟨Nat.zero_le _, Nat.zero_le _⟩
  | some session =>
      obtain ⟨session', hsession', hscope⟩ := hscopes session (List.mem_of_find?_eq_some hfound)
      have hid : session.id = id := by simpa using List.find?_some hfound
      have hfound' : db'.session id = some session' := by
        rw [← hid, show session.id = session'.id from congrArg SessionScope.sessionId hscope.symm]
        exact hfenced.sessions.find?_eq_some hsession'
      have hrun : session'.runId = session.runId := congrArg SessionScope.runId hscope
      have hagent : session'.agentId = session.agentId := congrArg SessionScope.agentId hscope
      unfold Db.highWater
      rw [hfound, hfound']
      dsimp only
      rw [hrun, hagent]
      refine ⟨?_, hinbox _ _⟩
      refine Table.foldl_max_le_iff.mpr ⟨Nat.zero_le _, fun value hvalue => Table.le_foldl_max ?_⟩
      exact ((hlog.sublist.filter _).map _).subset hvalue

-- ============================================================================
-- Every run
-- ============================================================================

/-- What the notifications of a store rest on. -/
structure Noticed.Holds (s : Noticed) : Prop where
  fenced : s.db.roster.Fenced
  keyed : Table.Keyed (·.operationId) s.db.notificationDeliveries
  inboxes : ∀ runId agentId, ∃ through, Mailbox (s.db.inboxOf runId agentId) through
  sound : ∀ id, (s.db.notice id).Sound (s.db.highWater id) (s.marks id)

/-- The notifications of every session are continued. -/
def Noticed.Continues (s s' : Noticed) : Prop :=
  ∀ id, (s.db.notice id).Continues (s'.db.notice id)

instance : Std.Refl Noticed.Continues where
  refl _ := fun _ => Std.Refl.refl _

instance : IsTrans Noticed Noticed.Continues where
  trans _ _ _ hab hbc := fun id => IsTrans.trans _ _ _ (hab id) (hbc id)

namespace Noticed

variable {s : Noticed}

theorem Holds.noticesKeyed (h : s.Holds) : s.db.NoticesKeyed :=
  ⟨h.fenced.sessions, h.keyed⟩

theorem holds_start : noticeMachine.start.Holds where
  fenced := Roster.fenced_empty
  keyed := List.nodup_nil
  inboxes := fun _ _ => ⟨0, Paging.markedThrough_nil⟩
  sound := fun _ => Notice.sound_empty _ _

theorem Holds.request (h : s.Holds) (call : NoticeCall) :
    (noticeMachine.step (.request call) s).Holds ∧
      s.Continues (noticeMachine.step (.request call) s) := by
  have hnotifies := call.serve_notifies h.noticesKeyed
  obtain ⟨hroster, hevents, hmessages⟩ := call.serve_same s.db
  have hsessions : (call.serve s.db).2.sessions = s.db.sessions := congrArg Roster.sessions hroster
  have hhigh : ∀ id, (call.serve s.db).2.highWater id = s.db.highWater id := by
    intro id
    unfold Db.highWater Db.session Db.lastEventSequence Db.highestCursor Db.inboxOf
    rw [hsessions, hevents, hmessages]
  have hkeyed : ∀ id, Table.Keyed (·.operationId) (s.db.notice id).deliveries :=
    fun id => h.keyed.filter _
  refine ⟨⟨?_, hnotifies.keyed, fun runId agentId => ?_, fun id => ?_⟩, fun id => ?_⟩
  · show (call.serve s.db).2.roster.Fenced
    rw [hroster]
    exact h.fenced
  · show ∃ through, Mailbox ((call.serve s.db).2.inboxOf runId agentId) through
    rw [inboxOf_of_messages hmessages]
    exact h.inboxes runId agentId
  · show ((call.serve s.db).2.notice id).Sound ((call.serve s.db).2.highWater id)
      (Notice.mark (s.db.highWater id) _ _ (s.marks id))
    rw [hhigh id]
    exact (h.sound id).step (hnotifies.steps id)
  · exact (h.sound id).continues (hkeyed id) (hnotifies.steps id)

theorem Holds.transact (h : s.Holds) (command : Command) :
    (noticeMachine.step (.transact command) s).Holds ∧
      s.Continues (noticeMachine.step (.transact command) s) := by
  have hleads := command.exec_rosterMoves s.db h.fenced
  have hfenced := h.fenced.leads hleads
  have hinboxes : ∀ runId agentId, ∃ through,
      Mailbox ((command.exec s.db).inboxOf runId agentId) through ∧
        s.db.highestCursor runId agentId ≤ (command.exec s.db).highestCursor runId agentId := by
    intro runId agentId
    obtain ⟨through, hmailbox⟩ := h.inboxes runId agentId
    have hstep := exec_inboxStep command s.db hmailbox
    obtain ⟨through', -, hmailbox'⟩ := hstep.mailbox hmailbox
    refine ⟨through', hmailbox', ?_⟩
    rw [highestCursor_eq hmailbox, highestCursor_eq hmailbox']
    exact hstep.continues.length
  have hhigh := highWater_mono hfenced hleads.scopes (command.exec_logGrows s.db).events
    fun runId agentId => (hinboxes runId agentId).choose_spec.2
  refine ⟨⟨hfenced, ?_, fun runId agentId => ?_, fun id => ?_⟩, fun id => ?_⟩
  · show Table.Keyed _ (command.exec s.db).notificationDeliveries
    rw [(exec_notificationTables command s.db).2]
    exact h.keyed
  · obtain ⟨through, hmailbox, -⟩ := hinboxes runId agentId
    exact ⟨through, hmailbox⟩
  · show ((command.exec s.db).notice id).Sound ((command.exec s.db).highWater id)
      (Notice.mark (s.db.highWater id) _ ((command.exec s.db).notice id) (s.marks id))
    rw [exec_notice]
    have hsound := (h.sound id).mono (hhigh id)
    unfold Notice.mark
    rw [if_neg (by cases (s.db.notice id).binding <;> exact Bool.false_ne_true),
      if_neg (Nat.lt_irrefl _)]
    exact hsound
  · show (s.db.notice id).Continues ((command.exec s.db).notice id)
    rw [exec_notice]
    exact Std.Refl.refl _

theorem Holds.step (h : s.Holds) (input : NoticeInput) :
    (noticeMachine.step input s).Holds ∧ s.Continues (noticeMachine.step input s) := by
  cases input with
  | request call => exact h.request call
  | transact command => exact h.transact command

theorem holds_run (inputs : List NoticeInput) : (noticeMachine.run inputs).Holds :=
  Machine.invariant_run holds_start (fun _ input h => (h.step input).1) inputs

/-- With no delivery outstanding the cursors are the mark. -/
theorem Holds.safe (h : s.Holds) : s.Safe where
  single := fun id => (h.sound id).single
  pending := by
    intro scope progress
    have hsettled : ∀ n : Notice, n.outstanding = [] ↔
        ∀ delivery ∈ n.deliveries, delivery.settled = true := by
      intro n
      unfold Notice.outstanding
      simp
    have hcursors : ∀ binding, s.db.foregroundNotification scope.sessionId = some binding →
        (s.db.notice scope.sessionId).outstanding = [] →
          binding.cursors = s.marks scope.sessionId := fun binding hbinding hnone =>
      (h.sound scope.sessionId).idle binding hbinding (Notice.received_of_outstanding hnone)
    have hunread : ∀ binding : ForegroundNotification, binding.cursors = s.marks scope.sessionId →
        (s.Unread scope progress ↔
          binding.messageCursor < s.db.unnotifiedMessages scope binding.messageCursor ∨
            binding.eventCursor < if progress = true then
              s.db.unnotifiedEvents scope binding.eventCursor else binding.eventCursor) := by
      intro binding hmark
      unfold Unread
      rw [← hmark, lt_unnotifiedMessages]
      refine or_congr Iff.rfl ?_
      cases progress with
      | false => simp
      | true =>
          rw [if_pos rfl, lt_unnotifiedEvents]
          simp [ForegroundNotification.cursors]
    constructor
    · intro hsome
      obtain ⟨⟨thread, events, messages⟩, hpending⟩ := Option.isSome_iff_exists.mp hsome
      obtain ⟨hlive, binding, hbinding, hthread, hall, rfl, rfl, hmore⟩ :=
        pendingNotification_eq_some.mp hpending
      have hnone := (hsettled (s.db.notice scope.sessionId)).mpr hall
      refine ⟨hlive, ⟨binding, hbinding, by rw [hthread]; exact Option.some_ne_none _⟩, hnone, ?_⟩
      exact (hunread binding (hcursors binding hbinding hnone)).mpr hmore
    · rintro ⟨hlive, ⟨binding, hbinding, hthread⟩, hnone, hsome⟩
      obtain ⟨thread, hthread⟩ := Option.ne_none_iff_exists'.mp hthread
      have hmore := (hunread binding (hcursors binding hbinding hnone)).mp hsome
      exact Option.isSome_iff_exists.mpr ⟨_, pendingNotification_eq_some.mpr
        ⟨hlive, binding, hbinding, hthread, (hsettled _).mp hnone, rfl, rfl, hmore⟩⟩

end Noticed

/-- In every run of requests about notifications and other transactions: at most one delivery of a
    session is outstanding, and a session is to be notified exactly while it is live and bound to a
    thread, none is outstanding, and something came up after the log and the inbox that it last
    received, or, before any receipt, after the log at its enabling or anywhere in the inbox; later
    inputs keep its thread and its deliveries, and never move its cursors back; a request changes
    no event and acknowledges no message; and one that repeats a recorded operation, or a receipt,
    changes no notification. -/
theorem notifications_safe (before after : List NoticeInput) :
    (noticeMachine.run before).Safe ∧
      (noticeMachine.run before).Continues (noticeMachine.run (before ++ after)) ∧
      ∀ call : NoticeCall,
        let db := (noticeMachine.run before).db
        (call.serve db).2.events = db.events ∧ (call.serve db).2.messages = db.messages ∧
          (call.Repeats db →
            (call.serve db).2.foregroundNotifications = db.foregroundNotifications ∧
              (call.serve db).2.notificationDeliveries = db.notificationDeliveries) := by
  have hholds := Noticed.holds_run before
  refine ⟨hholds.safe, ?_, fun call => ?_⟩
  · rw [Machine.run_append]
    exact Machine.relation_runFrom (fun _ input h => (h.step input).1)
      (fun _ input h => (h.step input).2) hholds after
  · obtain ⟨-, hevents, hmessages⟩ := call.serve_same (noticeMachine.run before).db
    exact ⟨hevents, hmessages, fun hrepeats => call.serve_repeats hholds.noticesKeyed hrepeats⟩

end Coterie
