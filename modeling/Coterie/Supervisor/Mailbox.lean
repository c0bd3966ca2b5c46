/-
  Coterie.Supervisor.Mailbox

  The inboxes of a run over every order of sends, acknowledgements and other transactions.

  To one recipient an inbox is a list that is only appended to, and whose rows change once at most,
  when an acknowledgement covers them (`InboxStep`).  That the store numbers it without a gap and
  that the acknowledged messages are its first ones is `Paging.MarkedThrough`; reading it from a
  cursor is then `List.drop`.
-/

import Coterie.Base.Numbered
import Coterie.Supervisor.Inbox
import Coterie.Supervisor.Limits

namespace Coterie

/-! ## One inbox -/

/-- An acknowledgement up to a sequence reaches the message. -/
def MessageRecord.acknowledge (through : Nat) (acknowledgedAt : Int) (message : MessageRecord) :
    MessageRecord :=
  if message.sequence ≤ through ∧ message.acknowledgedAt = none then
    { message with acknowledgedAt := some acknowledgedAt }
  else message

theorem MessageRecord.acknowledge_sequence (through : Nat) (acknowledgedAt : Int)
    (message : MessageRecord) :
    (message.acknowledge through acknowledgedAt).sequence = message.sequence := by
  unfold acknowledge
  split <;> rfl

theorem MessageRecord.acknowledge_mark (through : Nat) (acknowledgedAt : Int)
    (message : MessageRecord) :
    (message.acknowledge through acknowledgedAt).acknowledgedAt.isSome =
      (message.acknowledgedAt.isSome || decide (message.sequence ≤ through)) := by
  unfold acknowledge
  by_cases hle : message.sequence ≤ through <;>
    cases hmark : message.acknowledgedAt <;> simp [hle, hmark]

/-- What one transaction does to an inbox. -/
inductive InboxStep (inbox : List MessageRecord) : List MessageRecord → Prop where
  | same : InboxStep inbox inbox
  | send (message : MessageRecord) (hnext : message.sequence = inbox.length + 1)
      (hnew : message.acknowledgedAt = none) : InboxStep inbox (inbox ++ [message])
  | acknowledge (through : Nat) (acknowledgedAt : Int) (hthrough : through ≤ inbox.length) :
      InboxStep inbox (inbox.map (·.acknowledge through acknowledgedAt))

/-- The inbox is numbered, and exactly its messages up to a sequence are acknowledged. -/
def Mailbox (inbox : List MessageRecord) (through : Nat) : Prop :=
  Paging.MarkedThrough (fun message : MessageRecord => message.acknowledgedAt.isSome) (·.sequence)
    inbox through

/-- A message stays as it is, but that it may be acknowledged. -/
def MessageRecord.Kept (message message' : MessageRecord) : Prop :=
  message' = message ∨ message.acknowledgedAt = none ∧
    ∃ acknowledgedAt, message' = { message with acknowledgedAt := some acknowledgedAt }

instance : Std.Refl MessageRecord.Kept where
  refl _ := .inl rfl

instance : IsTrans MessageRecord MessageRecord.Kept where
  trans := by
    rintro a b c (rfl | ⟨hnone, acknowledgedAt, rfl⟩) hbc
    · exact hbc
    · rcases hbc with rfl | ⟨hnone', -⟩
      · exact .inr ⟨hnone, acknowledgedAt, rfl⟩
      · cases hnone'

/-- An inbox is continued by one whose first messages are the same. -/
structure InboxContinues (inbox inbox' : List MessageRecord) : Prop where
  length : inbox.length ≤ inbox'.length
  kept : List.Forall₂ MessageRecord.Kept inbox (inbox'.take inbox.length)

theorem InboxContinues.refl (inbox : List MessageRecord) : InboxContinues inbox inbox := by
  refine ⟨Nat.le_refl _, ?_⟩
  rw [List.take_length]
  exact List.forall₂_refl _

theorem InboxContinues.trans {a b c : List MessageRecord} (hab : InboxContinues a b)
    (hbc : InboxContinues b c) : InboxContinues a c := by
  refine ⟨Nat.le_trans hab.length hbc.length, ?_⟩
  have hrest := List.forall₂_take a.length hbc.kept
  rw [List.take_take, min_eq_left hab.length] at hrest
  exact Table.forall₂_trans hab.kept hrest

theorem InboxContinues.ids {inbox inbox' : List MessageRecord} (h : InboxContinues inbox inbox') :
    (inbox'.take inbox.length).map (·.id) = inbox.map (·.id) := by
  refine Table.map_eq_of_forall₂ (fun message message' hkept => ?_) h.kept
  rcases hkept with rfl | ⟨-, acknowledgedAt, rfl⟩ <;> rfl

/-- What was read up to the end of an inbox, and what is read behind it later. -/
theorem InboxContinues.drop_ids {inbox inbox' : List MessageRecord}
    (h : InboxContinues inbox inbox') (cursor : Nat) :
    (inbox.drop cursor).map (·.id) ++ (inbox'.drop (max cursor inbox.length)).map (·.id) =
      (inbox'.drop cursor).map (·.id) := by
  by_cases hcursor : cursor ≤ inbox.length
  · have hparts : inbox'.drop cursor =
        (inbox'.take inbox.length).drop cursor ++ inbox'.drop inbox.length := by
      conv_lhs => rw [← List.take_append_drop inbox.length inbox']
      rw [List.drop_append_of_le_length (by rwa [List.length_take_of_le h.length])]
    rw [hparts, max_eq_right hcursor, List.map_append, List.map_drop, ← h.ids, ← List.map_drop]
  · rw [List.drop_eq_nil_of_le (Nat.le_of_not_le hcursor), max_eq_left (Nat.le_of_not_le hcursor)]
    rfl

theorem InboxStep.continues {inbox inbox' : List MessageRecord} (h : InboxStep inbox inbox') :
    InboxContinues inbox inbox' := by
  cases h with
  | same => exact .refl inbox
  | send message hnext hnew =>
      refine ⟨by simp, ?_⟩
      rw [List.take_left]
      exact List.forall₂_refl _
  | acknowledge through acknowledgedAt hthrough =>
      refine ⟨by simp, ?_⟩
      rw [List.take_of_length_le (by simp), List.forall₂_map_right_iff]
      refine List.forall₂_same.mpr fun message _ => ?_
      unfold MessageRecord.acknowledge
      split
      · next hcovered => exact .inr ⟨hcovered.2, acknowledgedAt, rfl⟩
      · exact .inl rfl

/-- A step acknowledges more of the inbox at most. -/
theorem InboxStep.mailbox {inbox inbox' : List MessageRecord} {through : Nat}
    (h : InboxStep inbox inbox') (hmailbox : Mailbox inbox through) :
    ∃ through', through ≤ through' ∧ Mailbox inbox' through' := by
  cases h with
  | same => exact ⟨through, Nat.le_refl _, hmailbox⟩
  | send message hnext hnew =>
      exact ⟨through, Nat.le_refl _, hmailbox.concat hnext (by rw [hnew]; rfl)⟩
  | acknowledge next acknowledgedAt hthrough =>
      exact ⟨max through next, le_max_left _ _,
        hmailbox.map hthrough (fun _ => MessageRecord.acknowledge_sequence _ _ _)
          fun _ _ => MessageRecord.acknowledge_mark _ _ _⟩

/-! ## The inboxes of a store -/

section Store

variable {runId : RunId} {agentId : AgentId} {db db' : Db}

theorem highestCursor_eq {through : Nat} (h : Mailbox (db.inboxOf runId agentId) through) :
    db.highestCursor runId agentId = (db.inboxOf runId agentId).length :=
  h.numbered.foldl_max

/-- The greatest acknowledged sequence says what is acknowledged. -/
theorem acknowledgedThrough_eq {through : Nat} (h : Mailbox (db.inboxOf runId agentId) through) :
    db.acknowledgedThrough runId agentId = through := by
  refine Eq.trans ?_ h.foldl_max
  unfold Db.acknowledgedThrough
  refine congrArg (fun rows : List MessageRecord => (rows.map (·.sequence)).foldl max 0) ?_
  refine List.filter_congr fun message _ => ?_
  cases message.acknowledgedAt <;> rfl

/-- Reading after a cursor leaves out so many messages. -/
theorem messagesAfter_eq {through : Nat} (h : Mailbox (db.inboxOf runId agentId) through)
    (after : Nat) :
    db.messagesAfter runId agentId after = (db.inboxOf runId agentId).drop after := by
  rw [← h.numbered.later_eq_drop]
  refine List.mergeSort_of_pairwise ((h.numbered.ordered.later after).imp fun hlt => ?_)
  rw [decide_eq_true_eq]
  exact Nat.le_of_lt hlt

theorem inboxOf_of_messages (h : db'.messages = db.messages) :
    db'.inboxOf runId agentId = db.inboxOf runId agentId := by
  unfold Db.inboxOf
  rw [h]

theorem sendMessage_messages {ctx : RequestContext} {sent : NewMessage} {json : JsonValue}
    (h : (sendMessage ctx sent).run db = (.ok json, db')) :
    db'.messages =
      db.messages ++ [sent.record ctx (db.nextMessageSequence ctx.runId sent.recipientAgentId)] := by
  obtain ⟨sequence, _, h₁, r₁⟩ := Tx.bind_eq_ok.mp h
  obtain ⟨rfl, rfl⟩ := Tx.read_eq_ok.mp h₁
  obtain ⟨_, db₁, h₂, r₂⟩ := Tx.bind_eq_ok.mp r₁
  simp only [insertMessage, constraint, Tx.bind_eq_ok, Tx.require_eq_ok, Tx.write_eq_ok] at h₂
  obtain ⟨_, _, ⟨-, rfl⟩, _, _, ⟨-, rfl⟩, _, _, ⟨-, rfl⟩, _, _, ⟨-, rfl⟩, _, _, ⟨-, rfl⟩, _, _,
    ⟨-, rfl⟩, rfl⟩ := h₂
  have hrest : Written [.events] { db with messages := db.messages ++
      [sent.record ctx (db.nextMessageSequence ctx.runId sent.recipientAgentId)] } db' :=
    Tx.Keeps.of_ok (.bind (writes_appendEvent _ rfl) fun _ => .pure _) r₂
  exact hrest.writesOnly .messages (by decide)

theorem inboxOf_send {ctx : RequestContext} {sent : NewMessage} {sequence : Nat}
    (h : db'.messages = db.messages ++ [sent.record ctx sequence])
    (hsequence : sequence = db.nextMessageSequence ctx.runId sent.recipientAgentId)
    {through : Nat} (hmailbox : Mailbox (db.inboxOf runId agentId) through) :
    InboxStep (db.inboxOf runId agentId) (db'.inboxOf runId agentId) := by
  have happend : db'.inboxOf runId agentId = db.inboxOf runId agentId ++
      [sent.record ctx sequence].filter fun message =>
        message.runId == runId && message.recipientAgentId == agentId := by
    unfold Db.inboxOf
    rw [h, List.filter_append]
  rw [happend]
  by_cases hours : ctx.runId = runId ∧ sent.recipientAgentId = agentId
  · obtain ⟨rfl, rfl⟩ := hours
    rw [List.filter_cons_of_pos (by simp [NewMessage.record]), List.filter_nil]
    refine .send _ ?_ rfl
    show sequence = _
    rw [hsequence, Db.nextMessageSequence, highestCursor_eq hmailbox]
  · have hother : ((sent.record ctx sequence).runId == runId &&
        (sent.record ctx sequence).recipientAgentId == agentId) = false := by
      rw [Bool.eq_false_iff]
      simpa [NewMessage.record] using hours
    rw [List.filter_cons_of_neg (by rw [hother]; decide), List.filter_nil, List.append_nil]
    exact .same

/-- What an acknowledgement writes. -/
theorem acknowledgeMessages_messages {acknowledgement : AcknowledgeMessagesMutation}
    {json : JsonValue} (h : (acknowledgeMessages acknowledgement).run db = (.ok json, db')) :
    db'.messages = db.messages ∨
      acknowledgement.through ≤ db.highestCursor acknowledgement.runId acknowledgement.agentId ∧
        db'.messages = Table.updateWhere acknowledgement.covers
          (fun message => { message with acknowledgedAt := some acknowledgement.acknowledgedAt })
          db.messages := by
  obtain ⟨result, db₁, h₁, r₁⟩ := Tx.bind_eq_ok.mp h
  have hrecord : Written [.events] db₁ db' := by
    refine Tx.Keeps.of_ok (.bind ?_ fun _ => .pure _) r₁
    cases result with
    | acknowledged acknowledgedThrough acknowledgedCount =>
        exact .when (writes_appendEvent _ rfl)
    | cursorNotFound highestCursor => exact .pure _
  have hsame : db'.messages = db₁.messages := hrecord.writesOnly .messages (by decide)
  rw [hsame]
  obtain ⟨highestCursor, _, h₂, r₂⟩ := Tx.bind_eq_ok.mp h₁
  obtain ⟨rfl, rfl⟩ := Tx.read_eq_ok.mp h₂
  split at r₂
  · obtain ⟨-, rfl⟩ := Tx.pure_eq_ok.mp r₂
    exact .inl rfl
  · next hfound =>
      rw [not_or, Nat.not_lt] at hfound
      obtain ⟨_, _, h₃, r₃⟩ := Tx.bind_eq_ok.mp r₂
      obtain ⟨-, rfl⟩ := Tx.read_eq_ok.mp h₃
      obtain ⟨_, _, h₄, r₄⟩ := Tx.bind_eq_ok.mp r₃
      obtain ⟨-, rfl⟩ := Tx.read_eq_ok.mp h₄
      obtain ⟨_, _, h₅, r₅⟩ := Tx.bind_eq_ok.mp r₄
      obtain ⟨-, rfl⟩ := Tx.require_eq_ok.mp h₅
      obtain ⟨_, _, h₆, r₆⟩ := Tx.bind_eq_ok.mp r₅
      obtain rfl := Tx.write_eq_ok.mp h₆
      obtain ⟨-, rfl⟩ := Tx.pure_eq_ok.mp r₆
      exact .inr ⟨hfound.2, rfl⟩

/-- The recipient's own inbox after an acknowledgement. -/
theorem inboxOf_acknowledged {acknowledgement : AcknowledgeMessagesMutation}
    (h : db'.messages = Table.updateWhere acknowledgement.covers
      (fun message => { message with acknowledgedAt := some acknowledgement.acknowledgedAt })
      db.messages) :
    db'.inboxOf runId agentId = (db.inboxOf runId agentId).map fun message =>
      if acknowledgement.covers message = true then
        { message with acknowledgedAt := some acknowledgement.acknowledgedAt }
      else message := by
  unfold Db.inboxOf
  rw [h, Table.updateWhere, List.filter_map]
  refine congrArg (List.map _) (List.filter_congr fun message _ => ?_)
  simp only [Function.comp_apply]
  split <;> rfl

theorem inboxOf_acknowledged_own {acknowledgement : AcknowledgeMessagesMutation}
    (h : db'.messages = Table.updateWhere acknowledgement.covers
      (fun message => { message with acknowledgedAt := some acknowledgement.acknowledgedAt })
      db.messages) :
    db'.inboxOf acknowledgement.runId acknowledgement.agentId =
      (db.inboxOf acknowledgement.runId acknowledgement.agentId).map
        (·.acknowledge acknowledgement.through acknowledgement.acknowledgedAt) := by
  rw [inboxOf_acknowledged h]
  refine List.map_congr_left fun message hmessage => ?_
  have howner := (List.mem_filter.mp hmessage).2
  unfold AcknowledgeMessagesMutation.covers MessageRecord.acknowledge
  rw [howner]
  simp only [Bool.true_and, Bool.and_eq_true, decide_eq_true_eq, beq_iff_eq]

theorem inboxOf_acknowledge {acknowledgement : AcknowledgeMessagesMutation}
    (h : db'.messages = Table.updateWhere acknowledgement.covers
      (fun message => { message with acknowledgedAt := some acknowledgement.acknowledgedAt })
      db.messages)
    (hthrough : acknowledgement.through ≤
      db.highestCursor acknowledgement.runId acknowledgement.agentId)
    {through : Nat} (hmailbox : Mailbox (db.inboxOf runId agentId) through) :
    InboxStep (db.inboxOf runId agentId) (db'.inboxOf runId agentId) := by
  by_cases hours : acknowledgement.runId = runId ∧ acknowledgement.agentId = agentId
  · obtain ⟨rfl, rfl⟩ := hours
    rw [inboxOf_acknowledged_own h]
    exact .acknowledge _ _ (by rwa [highestCursor_eq hmailbox] at hthrough)
  · have hsame : db'.inboxOf runId agentId = db.inboxOf runId agentId := by
      rw [inboxOf_acknowledged h]
      refine (List.map_congr_left fun message hmessage => ?_).trans (List.map_id _)
      have howner := (List.mem_filter.mp hmessage).2
      simp only [Bool.and_eq_true, beq_iff_eq] at howner
      refine if_neg fun hcovers => hours ?_
      simp only [AcknowledgeMessagesMutation.covers, Bool.and_eq_true, beq_iff_eq] at hcovers
      exact ⟨hcovers.1.1.1.symm.trans howner.1, hcovers.1.1.2.symm.trans howner.2⟩
    rw [hsame]
    exact .same

/-- The messages after the transaction of an acknowledgement. -/
theorem exec_acknowledgeMessages (acknowledgement : AcknowledgeMessagesMutation) (db : Db) :
    ((Command.acknowledgeMessages acknowledgement).exec db).messages = db.messages ∨
      acknowledgement.through ≤ db.highestCursor acknowledgement.runId acknowledgement.agentId ∧
        ((Command.acknowledgeMessages acknowledgement).exec db).messages =
          Table.updateWhere acknowledgement.covers
            (fun message => { message with acknowledgedAt := some acknowledgement.acknowledgedAt })
            db.messages := by
  rcases Command.exec_mutated_cases
    (show (Command.acknowledgeMessages acknowledgement).body = _ from rfl) db with
    hsame | ⟨-, json, before, after, hbefore, -, hacknowledged, hafter⟩
  · rw [hsame]
    exact .inl rfl
  · have hfirst : before.messages = db.messages := hbefore.writesOnly .messages (by decide)
    have hlast := hafter.writesOnly .messages (by decide)
    rcases acknowledgeMessages_messages hacknowledged with hsame | ⟨hthrough, hstep⟩
    · exact .inl (Eq.trans hlast (hsame.trans hfirst))
    · unfold Db.highestCursor Db.inboxOf at hthrough ⊢
      rw [hfirst] at hstep hthrough
      exact .inr ⟨hthrough, Eq.trans hlast hstep⟩

end Store

/-! ## Every run -/

section Runs

variable {runId : RunId} {agentId : AgentId}

/-- A transaction changes an inbox by one step at most. -/
theorem exec_inboxStep (command : Command) (db : Db) {through : Nat}
    (hmailbox : Mailbox (db.inboxOf runId agentId) through) :
    InboxStep (db.inboxOf runId agentId) ((command.exec db).inboxOf runId agentId) := by
  have hcalm : .messages ∉ command.writes →
      InboxStep (db.inboxOf runId agentId) ((command.exec db).inboxOf runId agentId) := by
    intro hno
    have hsame : (command.exec db).messages = db.messages :=
      command.exec_writesOnly db .messages hno
    rw [inboxOf_of_messages hsame]
    exact .same
  cases command
  case sendMessage ctx requestFingerprint sent =>
    rcases Command.exec_mutated_cases
      (show (Command.sendMessage ctx requestFingerprint sent).body = _ from rfl) db with
      hsame | ⟨-, json, before, after, hbefore, -, hsent, hafter⟩
    · rw [hsame]
      exact .same
    · have hfirst : before.messages = db.messages := hbefore.writesOnly .messages (by decide)
      have hlast := hafter.writesOnly .messages (by decide)
      have hstep := sendMessage_messages hsent
      have hnext : before.nextMessageSequence ctx.runId sent.recipientAgentId =
          db.nextMessageSequence ctx.runId sent.recipientAgentId := by
        unfold Db.nextMessageSequence Db.highestCursor Db.inboxOf
        rw [hfirst]
      rw [hfirst] at hstep
      exact inboxOf_send (Eq.trans hlast hstep) hnext hmailbox
  case acknowledgeMessages acknowledgement =>
    rcases exec_acknowledgeMessages acknowledgement db with hsame | ⟨hthrough, hstep⟩
    · rw [inboxOf_of_messages hsame]
      exact .same
    · exact inboxOf_acknowledge hstep hthrough hmailbox
  all_goals exact hcalm (by dsimp only [Command.writes]; decide)

/-- The inboxes after more transactions. -/
theorem mailbox_runFrom {db : Db} {through : Nat} (h : Mailbox (db.inboxOf runId agentId) through)
    (commands : List Command) :
    InboxContinues (db.inboxOf runId agentId)
        ((storeMachine.runFrom db commands).inboxOf runId agentId) ∧
      ∃ through', through ≤ through' ∧
        Mailbox ((storeMachine.runFrom db commands).inboxOf runId agentId) through' := by
  induction commands generalizing db through with
  | nil => exact ⟨.refl _, through, Nat.le_refl _, h⟩
  | cons command rest ih =>
      have hstep := exec_inboxStep command db h
      obtain ⟨next, hnext, hmailbox⟩ := hstep.mailbox h
      obtain ⟨hcontinues, last, hlast, hend⟩ := ih hmailbox
      exact ⟨hstep.continues.trans hcontinues, last, Nat.le_trans hnext hlast, hend⟩

theorem mailbox_run (runId : RunId) (agentId : AgentId) (commands : List Command) :
    ∃ through, Mailbox ((storeMachine.run commands).inboxOf runId agentId) through := by
  have hempty : Mailbox (Db.empty.inboxOf runId agentId) 0 := Paging.markedThrough_nil
  obtain ⟨-, through, -, hmailbox⟩ := mailbox_runFrom hempty commands
  exact ⟨through, hmailbox⟩

/-- What an inbox request answers, and where it leaves the reader. -/
theorem inbox_page {caller : AuthenticatedCaller} {after through : Nat} {db db' : Db}
    {page : InboxPage} (h : (inbox runId caller after).run db = (.ok page, db'))
    (hcaller : caller.agentId = some agentId)
    (hmailbox : Mailbox (db.inboxOf runId agentId) through) :
    page.messages = ((db.inboxOf runId agentId).drop after).map (·.summary) ∧
      page.nextCursor = max after (db.inboxOf runId agentId).length := by
  obtain ⟨_, _, h₁, r₁⟩ := Tx.bind_eq_ok.mp h
  obtain ⟨-, rfl⟩ := Tx.require_eq_ok.mp h₁
  obtain ⟨owner, _, h₂, r₂⟩ := Tx.bind_eq_ok.mp r₁
  obtain ⟨howner, rfl⟩ := Tx.okOr_eq_ok.mp h₂
  obtain rfl : agentId = owner := Option.some.inj (hcaller.symm.trans howner)
  obtain ⟨_, _, h₃, r₃⟩ := Tx.bind_eq_ok.mp r₂
  obtain ⟨-, rfl⟩ := Tx.require_eq_ok.mp h₃
  obtain ⟨messages, _, h₄, r₄⟩ := Tx.bind_eq_ok.mp r₃
  obtain ⟨rfl, rfl⟩ := Tx.read_eq_ok.mp h₄
  obtain ⟨rfl, -⟩ := Tx.pure_eq_ok.mp r₄
  rw [messagesAfter_eq hmailbox]
  exact ⟨rfl, hmailbox.numbered.cursorAfter_drop⟩

/-- In every run of the store: the messages to a recipient are numbered 1, 2, … without a gap and
    stay in place; exactly those up to `acknowledgedThrough` are acknowledged, and that bound never
    falls.  A reader that goes on from the cursor it was given, whatever was sent or acknowledged in
    between, is shown every message once and in order. -/
theorem inbox_prefix (runId : RunId) (agentId : AgentId) (before after : List Command) :
    (((storeMachine.run before).inboxOf runId agentId).map (·.sequence) =
        List.range' 1 ((storeMachine.run before).inboxOf runId agentId).length ∧
      ∀ message ∈ (storeMachine.run before).inboxOf runId agentId,
        message.acknowledgedAt.isSome = true ↔
          message.sequence ≤ (storeMachine.run before).acknowledgedThrough runId agentId) ∧
    InboxContinues ((storeMachine.run before).inboxOf runId agentId)
      ((storeMachine.run (before ++ after)).inboxOf runId agentId) ∧
    (storeMachine.run before).acknowledgedThrough runId agentId ≤
      (storeMachine.run (before ++ after)).acknowledgedThrough runId agentId ∧
    ∀ (caller : AuthenticatedCaller) (cursor : Nat) (page page' : InboxPage),
      caller.agentId = some agentId →
      ((inbox runId caller cursor).run (storeMachine.run before)).1 = .ok page →
      ((inbox runId caller page.nextCursor).run (storeMachine.run (before ++ after))).1 =
        .ok page' →
      page.messages.map (·.id) ++ page'.messages.map (·.id) =
        (((storeMachine.run (before ++ after)).inboxOf runId agentId).drop cursor).map (·.id) := by
  obtain ⟨through, hbefore⟩ := mailbox_run runId agentId before
  obtain ⟨hcontinues, through', hthrough, hafter⟩ := mailbox_runFrom hbefore after
  rw [← Machine.run_append] at hcontinues hafter
  refine ⟨⟨hbefore.numbered, ?_⟩, hcontinues, ?_, ?_⟩
  · rw [acknowledgedThrough_eq hbefore]
    exact hbefore.marked
  · rw [acknowledgedThrough_eq hbefore, acknowledgedThrough_eq hafter]
    exact hthrough
  · intro caller cursor page page' hcaller hread hread'
    obtain ⟨hpage, hnext⟩ := inbox_page (Prod.ext hread rfl) hcaller hbefore
    obtain ⟨hpage', -⟩ := inbox_page (Prod.ext hread' rfl) hcaller hafter
    rw [hpage, hpage', hnext, List.map_map, List.map_map]
    exact hcontinues.drop_ids cursor

end Runs

/-- A message to the worker. -/
def messageTo (number : String) : Command :=
  .sendMessage
    { operationId := ⟨"send-" ++ number⟩, runId := readingScope.runId, caller := none, now := 20 }
    none
    { messageId := ⟨"message-" ++ number⟩, recipientAgentId := readingScope.agentId,
      message := "go on" }

/-- The worker acknowledges its first message. -/
def acknowledgeFirst : Command :=
  .acknowledgeMessages
    { operationId := ⟨"acknowledge-1"⟩, runId := readingScope.runId,
      agentId := readingScope.agentId, through := 1, acknowledgedAt := 30 }

/-- The worker gets two messages. -/
def twoMessages : List Command := readingWorker ++ [messageTo "1", messageTo "2"]

/-- The worker reads two messages, and a third one from the cursor that it was given. -/
theorem inbox_prefix_read :
    ∃ page page', ((inbox readingScope.runId (.agent readingScope) 0).run
        (storeMachine.run twoMessages)).1 = .ok page ∧
      ((inbox readingScope.runId (.agent readingScope) page.nextCursor).run
        (storeMachine.run (twoMessages ++ [acknowledgeFirst, messageTo "3"]))).1 = .ok page' ∧
      page.messages.map (·.id) ++ page'.messages.map (·.id) =
        [⟨"message-1"⟩, ⟨"message-2"⟩, ⟨"message-3"⟩] := by
  obtain ⟨page, hpage⟩ : ∃ page, ((inbox readingScope.runId (.agent readingScope) 0).run
      (storeMachine.run twoMessages)).1 = .ok page :=
    Except.exists_of_isOk (by decide +kernel)
  have hnext : page.nextCursor = 2 := by
    obtain ⟨through, hmailbox⟩ :=
      mailbox_run readingScope.runId readingScope.agentId twoMessages
    rw [(inbox_page (Prod.ext hpage rfl) rfl hmailbox).2]
    decide +kernel
  obtain ⟨page', hpage'⟩ : ∃ page', ((inbox readingScope.runId (.agent readingScope)
      page.nextCursor).run
        (storeMachine.run (twoMessages ++ [acknowledgeFirst, messageTo "3"]))).1 = .ok page' := by
    rw [hnext]
    exact Except.exists_of_isOk (by decide +kernel)
  refine ⟨page, page', hpage, hpage', ?_⟩
  rw [( inbox_prefix readingScope.runId readingScope.agentId twoMessages _).2.2.2
    (.agent readingScope) 0 page page' rfl hpage hpage']
  decide +kernel

end Coterie
