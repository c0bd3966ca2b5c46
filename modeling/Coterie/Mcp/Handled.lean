/-
  Coterie.Mcp.Handled

  Messages through the bridges of an agent (`mcp/client.rs`: the inbox of `poll`, `handled`).

  A call of `handled` reads the inbox and decides up to where to acknowledge it; the acknowledgement
  is a request of its own, which the bridge repeats after a lost response, so it reaches the
  supervisor at any later time and any number of times.  `bridges` is an agent with any number of
  bridges, one after the other or at once, beside everything else that the store sees.  What carries
  the results is `Decided`: an acknowledgement on its way covers handled messages only.
-/

import Coterie.Mcp.Client
import Coterie.Supervisor.Mailbox

namespace Coterie

namespace Mcp

/-! ## Acknowledging handled messages -/

/-- The arguments of a call that names handled messages. -/
structure Handled where
  operationId : OperationId
  messageIds : List MessageId
deriving DecidableEq, Repr

/-- The messages of an inbox that a call names. -/
def Handled.selected (arguments : Handled) (messages : List MessageSummary) :
    List MessageSummary :=
  messages.filter fun message => arguments.messageIds.contains message.id

/-- The sequence up to which the named messages reach. -/
def Handled.through (arguments : Handled) (messages : List MessageSummary) : Nat :=
  ((arguments.selected messages).map (·.sequence)).foldl max 0

/-- Decide up to where the inbox is acknowledged: the call names a nonempty list of messages of the
    inbox, each once, and no message before them is left out. -/
def decideHandled {σ : Type} (transport : Transport σ) (arguments : Handled) :
    Tx σ ClientError Nat := do
  Tx.require
    (.rejected (invalidArgument "Supply a nonempty list of unique handled message IDs."))
    fun _ => !arguments.messageIds.isEmpty && decide arguments.messageIds.Nodup
  -- the identifiers are resolved from the inbox; sequence numbers of the caller are not trusted
  let inbox ← Tx.ofExcept (asInbox (← transport (.inbox 0)))
  Tx.require
    (.rejected (invalidArgument "A handled message ID is absent from this agent's inbox."))
    fun _ => (arguments.selected inbox.messages).length == arguments.messageIds.length
  Tx.require
    (.rejected (conflict "Earlier messages remain unhandled. Acknowledge only a handled prefix, or finish the earlier messages first."))
    fun _ => !inbox.messages.any fun message =>
      decide (message.sequence ≤ arguments.through inbox.messages) && !message.acknowledged &&
        !arguments.messageIds.contains message.id
  pure (arguments.through inbox.messages)

/-- Acknowledge the messages that a call names. -/
def handled {σ : Type} (transport : Transport σ)
    (acknowledge : OperationId → Nat → Tx σ ClientError JsonValue) (arguments : Handled) :
    Tx σ ClientError JsonValue := do
  let through ← decideHandled transport arguments
  acknowledge arguments.operationId through

/-! ## A store that others use as well -/

/-- The store, and what others do to it before each request that it serves. -/
structure SharedStore where
  db : Db
  others : List (List Command)

/-- A request is served after the transactions of others that come before it. -/
def interleaved {α : Type} (request : Tx Db ClientError α) : Tx SharedStore ClientError α :=
  ⟨fun store =>
    let served := request.run (storeMachine.runFrom store.db (store.others.headD []))
    (served.1, { db := served.2, others := store.others.tail })⟩

/-- One session of the agent's bridge. -/
structure BridgeSession where
  sessionId : SessionId
  generation : Int

/-- The caller that the bridge speaks for. -/
def BridgeSession.caller (session : BridgeSession) (runId : RunId) (agentId : AgentId) :
    AuthenticatedCaller :=
  .agent { sessionId := session.sessionId, runId, agentId, generation := session.generation }

/-- A poll of a bridge, from one of the cursors that were handed out or without one. -/
structure BridgePoll where
  session : BridgeSession
  cursor : Option Nat
  waitSeconds : Option Nat
  includeProgress : Option Bool
  clock : Clock
  others : List (List Command)

/-- An agent's bridges: the store, the cursors that polls have returned and the acknowledgements
    that calls have decided on. -/
structure Bridges where
  db : Db
  cursors : List PollCursor
  decided : List (Handled × Nat)

inductive BridgeInput where
  /-- Any transaction: other requests of the agent and what everybody else does. -/
  | command (command : Command)
  | poll (call : BridgePoll)
  | decide (session : BridgeSession) (clock : Clock) (arguments : Handled)
  /-- An acknowledgement reaches the supervisor. -/
  | deliver (session : BridgeSession) (index : Nat) (acknowledgedAt : Int)

section

variable (config : EffectiveConfig) (runId : RunId) (agentId : AgentId)

/-- Run a poll against the store. -/
def BridgePoll.run (call : BridgePoll) (bridges : Bridges) :
    Except ClientError PollResult × SharedStore :=
  (poll (fun request =>
      interleaved (serve config runId (call.session.caller runId agentId) call.clock request))
    { cursor := call.cursor.bind fun index => bridges.cursors[index]?
      waitSeconds := call.waitSeconds, includeProgress := call.includeProgress }).run
      { db := bridges.db, others := call.others }

/-- The bridges after an input. -/
def bridgesStep : BridgeInput → Bridges → Bridges
  | .command command, bridges => { bridges with db := command.exec bridges.db }
  | .poll call, bridges =>
      match call.run config runId agentId bridges with
      | (.ok result, store) =>
          { bridges with db := store.db, cursors := bridges.cursors ++ [result.cursor] }
      | (.error _, store) => { bridges with db := store.db }
  | .decide session clock arguments, bridges =>
      match (decideHandled (serve config runId (session.caller runId agentId) clock)
          arguments).run bridges.db with
      | (.ok through, db) =>
          { bridges with db, decided := bridges.decided ++ [(arguments, through)] }
      | (.error _, db) => { bridges with db }
  | .deliver session index acknowledgedAt, bridges =>
      match bridges.decided[index]? with
      | none => bridges
      | some (arguments, through) =>
          { bridges with
            db := ((acknowledgeInbox runId (session.caller runId agentId) arguments.operationId
              through acknowledgedAt).run bridges.db).2 }

/-- The bridges of an agent under every order of inputs. -/
def bridges : Machine Bridges BridgeInput where
  start := { db := Db.empty, cursors := [], decided := [] }
  step := bridgesStep config runId agentId

end

/-! ## What the requests of a call do -/

section Reads

variable {σ : Type} {R : σ → σ → Prop} [Std.Refl R] [IsTrans σ R] {transport : Transport σ}

theorem keeps_readProgress (h : ∀ request, Tx.Keeps R (transport request)) (runId : RunId)
    (pages waitSeconds : Nat) (read : ProgressRead) :
    Tx.Keeps R (readProgress transport runId pages waitSeconds read) := by
  induction pages generalizing waitSeconds read with
  | zero => exact .pure _
  | succ pages ih =>
      exact .bind (h _) fun _ => .bind (.ofExcept _) fun _ => .bind (.require _ _) fun _ =>
        .ite (.pure _) (ih _ _)

/-- A poll does what its requests do. -/
theorem keeps_poll (h : ∀ request, Tx.Keeps R (transport request)) (arguments : Poll) :
    Tx.Keeps R (poll transport arguments) := by
  refine .bind (.require _ _) fun _ => .bind (h _) fun _ => .bind (.ofExcept _) fun owner =>
    .bind (.require _ _) fun _ => .bind ?_ fun _ => .bind (h _) fun _ => .bind (.ofExcept _)
      fun _ => .pure _
  exact .ite (keeps_readProgress h _ _ _ _) (.pure _)

theorem keeps_decideHandled (h : ∀ request, Tx.Keeps R (transport request)) (arguments : Handled) :
    Tx.Keeps R (decideHandled transport arguments) :=
  .bind (.require _ _) fun _ => .bind (h _) fun _ => .bind (.ofExcept _) fun _ =>
    .bind (.require _ _) fun _ => .bind (.require _ _) fun _ => .pure _

end Reads

/-! ## Reading leaves the store alone -/

section Still

variable {config : EffectiveConfig} {runId : RunId} {agentId : AgentId}
  {caller : AuthenticatedCaller}

theorem still_pollUntilShown (limit waitSeconds : Nat) (after : Option String) (now : Int)
    (laterReadings : List Int) :
    Tx.Keeps Eq (Progress.pollUntilShown config runId caller limit waitSeconds after now
      laterReadings) := by
  have hpoll : ∀ after now, Tx.Keeps Eq (Progress.poll config runId caller after limit 0 now) :=
    fun _ _ => .bind (.require _ _) fun _ => .bind (still_requireCapability _ _ _ _) fun _ =>
      .bind (.ofExcept _) fun _ => .bind (.ofExcept _) fun _ => .bind (.read _) fun _ =>
        .bind (.ofExcept _) fun _ => .bind (.read _) fun _ => .bind (.require _ _) fun _ => .pure _
  induction laterReadings generalizing after now with
  | nil => exact .bind (hpoll _ _) fun _ => .pure _
  | cons next laterReadings ih =>
      exact .bind (hpoll _ _) fun _ => .ite (.pure _) (ih _ _)

theorem still_inbox (after : Nat) : Tx.Keeps Eq (Coterie.inbox runId caller after) :=
  .bind (.require _ _) fun _ => .bind (.okOr _ _) fun _ => .bind (.require _ _) fun _ =>
    .bind (.read _) fun _ => .pure _

theorem still_whoami : Tx.Keeps Eq (whoami runId caller) := by
  refine .bind (.require _ _) fun _ => ?_
  cases caller.agentId with
  | none => exact .pure _
  | some agentId =>
      exact .bind (.bind (.read _) fun _ => .okOr _ _) fun _ => .pure _

theorem still_served {α : Type} {request : Request α} (h : Tx.Keeps Eq request) :
    Tx.Keeps Eq (served request) :=
  fun db => h db

theorem still_serve (clock : Clock) (request : RpcRequest) :
    Tx.Keeps Eq (serve config runId caller clock request) := by
  cases request with
  | whoami => exact still_served (.bind still_whoami fun _ => .pure _)
  | progress after limit waitSeconds =>
      exact still_served (.bind (.bind (.ofExcept _) fun _ => still_pollUntilShown _ _ _ _ _)
        fun _ => .pure _)
  | inbox after => exact still_served (.bind (still_inbox _) fun _ => .pure _)

/-- What an inbox request is answered. -/
theorem serve_inbox {clock : Clock} {after through : Nat} {db db' : Db} {response : RpcResponse}
    {page : InboxPage} (h : (serve config runId caller clock (.inbox after)).run db =
      (.ok response, db')) (hpage : asInbox response = .ok page)
    (hcaller : caller.agentId = some agentId)
    (hmailbox : Mailbox (db.inboxOf runId agentId) through) :
    db' = db ∧ page.messages = ((db.inboxOf runId agentId).drop after).map (·.summary) := by
  obtain rfl : db = db' := (still_serve clock _).of_ok h
  refine ⟨rfl, ?_⟩
  have hserved : ((do
      let page ← Coterie.inbox runId caller after
      pure (RpcResponse.inbox page) : Request RpcResponse).run db).1 = .ok response := by
    have hfirst := congrArg Prod.fst h
    simp only [serve, served] at hfirst
    cases hrun : ((do
        let page ← Coterie.inbox runId caller after
        pure (RpcResponse.inbox page) : Request RpcResponse).run db).1 with
    | error error =>
        rw [hrun] at hfirst
        cases hfirst
    | ok found =>
        rw [hrun] at hfirst
        exact congrArg Except.ok (Except.ok.inj hfirst)
  obtain ⟨found, _, hread, hlast⟩ := Tx.bind_eq_ok.mp (Prod.ext hserved rfl)
  obtain ⟨rfl, -⟩ := Tx.pure_eq_ok.mp hlast
  obtain rfl : found = page := Except.ok.inj hpage
  exact (inbox_page hread hcaller hmailbox).1

end Still

/-! ## One poll -/

section Polls

variable {config : EffectiveConfig} {runId : RunId} {agentId : AgentId}

/-- The store was used by others in between. -/
def Reaches (db db' : Db) : Prop :=
  ∃ commands, db' = storeMachine.runFrom db commands

/-- The shared store was only used by others. -/
def OnlyOthers (store store' : SharedStore) : Prop :=
  Reaches store.db store'.db

instance : Std.Refl OnlyOthers where
  refl _ := ⟨[], rfl⟩

instance : IsTrans SharedStore OnlyOthers where
  trans := by
    rintro a b c ⟨first, hfirst⟩ ⟨second, hsecond⟩
    exact ⟨first ++ second, by rw [Machine.runFrom_append, ← hfirst, ← hsecond]⟩

theorem onlyOthers_interleaved {α : Type} {request : Tx Db ClientError α}
    (h : Tx.Keeps Eq request) : Tx.Keeps OnlyOthers (interleaved request) :=
  fun store => ⟨store.others.headD [], (h _).symm⟩

/-- A poll takes its messages from the store as it leaves it. -/
theorem poll_ok {clock : Clock} {caller : AuthenticatedCaller} {arguments : Poll}
    {store store' : SharedStore} {result : PollResult}
    (h : (poll (fun request => interleaved (serve config runId caller clock request))
      arguments).run store = (.ok result, store')) (hcaller : caller.agentId = some agentId) :
    ∃ start : Nat,
      (start = 0 ∨ ∃ cursor, arguments.cursor = some cursor ∧ start = cursor.inbox) ∧
      ∀ through, Mailbox (store'.db.inboxOf runId agentId) through → ∃ page : InboxPage,
        page.messages = ((store'.db.inboxOf runId agentId).drop start).map (·.summary) ∧
        result.messages = page.messages.filter (fun message => !message.acknowledged) ∧
        result.cursor.inbox = acknowledgedPrefix page.messages start := by
  obtain ⟨_, s₁, h₁, r₁⟩ := Tx.bind_eq_ok.mp h
  obtain ⟨-, rfl⟩ := Tx.require_eq_ok.mp h₁
  obtain ⟨identity, s₂, h₂, r₂⟩ := Tx.bind_eq_ok.mp r₁
  obtain ⟨⟨ofRun, ofAgent⟩, _, h₃, r₃⟩ := Tx.bind_eq_ok.mp r₂
  obtain ⟨-, rfl⟩ := Tx.ofExcept_eq_ok.mp h₃
  obtain ⟨_, _, h₄, r₄⟩ := Tx.bind_eq_ok.mp r₃
  obtain ⟨-, rfl⟩ := Tx.require_eq_ok.mp h₄
  obtain ⟨read, s₃, h₅, r₅⟩ := Tx.bind_eq_ok.mp r₄
  obtain ⟨response, s₄, h₆, r₆⟩ := Tx.bind_eq_ok.mp r₅
  obtain ⟨page, _, h₇, r₇⟩ := Tx.bind_eq_ok.mp r₆
  obtain ⟨hpage, rfl⟩ := Tx.ofExcept_eq_ok.mp h₇
  obtain ⟨rfl, rfl⟩ := Tx.pure_eq_ok.mp r₇
  refine ⟨(arguments.cursor.getD (firstCursor ofRun ofAgent)).inbox, ?_, ?_⟩
  · cases hcursor : arguments.cursor with
    | none => exact .inl rfl
    | some cursor => exact .inr ⟨cursor, rfl, rfl⟩
  · intro through hmailbox
    refine ⟨page, ?_, rfl, rfl⟩
    -- the inbox is read after the last transactions of others
    have hserved : (serve config runId caller clock
        (.inbox (arguments.cursor.getD (firstCursor ofRun ofAgent)).inbox)).run
          (storeMachine.runFrom s₃.db (s₃.others.headD [])) = (.ok response, s₄.db) := by
      have hfirst := congrArg Prod.fst h₆
      have hsecond := congrArg (fun outcome => outcome.2.db) h₆
      exact Prod.ext hfirst hsecond
    have hsame : storeMachine.runFrom s₃.db (s₃.others.headD []) = s₄.db :=
      (still_serve clock _).of_ok hserved
    rw [hsame] at hserved
    exact (serve_inbox hserved hpage hcaller hmailbox).2

end Polls

/-! ## Decided acknowledgements -/

section Decisions

variable {config : EffectiveConfig} {runId : RunId} {agentId : AgentId}

/-- An acknowledgement up to a sequence of the inbox covers named messages only. -/
structure Decided (messageIds : List MessageId) (through : Nat) (inbox : List MessageRecord) :
    Prop where
  bounded : through ≤ inbox.length
  covers : ∀ message ∈ inbox, message.sequence ≤ through →
    message.acknowledgedAt.isSome = true ∨ message.id ∈ messageIds

/-- A decision stands, whatever arrives or is acknowledged later. -/
theorem Decided.continues {messageIds : List MessageId} {through : Nat}
    {inbox inbox' : List MessageRecord} (h : Decided messageIds through inbox)
    (hcontinues : InboxContinues inbox inbox') (hnumbered : Paging.Numbered (·.sequence) inbox') :
    Decided messageIds through inbox' where
  bounded := Nat.le_trans h.bounded hcontinues.length
  covers := by
    intro message hmessage hle
    have hfirst : message ∈ inbox'.take inbox.length :=
      hnumbered.mem_take hmessage (Nat.le_trans hle h.bounded)
    obtain ⟨old, hold, hkept⟩ := Table.exists_mem_of_forall₂ hcontinues.kept hfirst
    rcases hkept with rfl | ⟨hnone, acknowledgedAt, rfl⟩
    · exact h.covers message hold hle
    · exact .inl rfl

/-- What a call decides. -/
theorem decideHandled_ok {clock : Clock} {caller : AuthenticatedCaller} {arguments : Handled}
    {db db' : Db} {through bound : Nat}
    (h : (decideHandled (serve config runId caller clock) arguments).run db = (.ok through, db'))
    (hcaller : caller.agentId = some agentId)
    (hmailbox : Mailbox (db.inboxOf runId agentId) bound) :
    db' = db ∧ Decided arguments.messageIds through (db.inboxOf runId agentId) := by
  obtain ⟨_, _, h₁, r₁⟩ := Tx.bind_eq_ok.mp h
  obtain ⟨-, rfl⟩ := Tx.require_eq_ok.mp h₁
  obtain ⟨response, s₁, h₂, r₂⟩ := Tx.bind_eq_ok.mp r₁
  obtain ⟨page, _, h₃, r₃⟩ := Tx.bind_eq_ok.mp r₂
  obtain ⟨hpage, rfl⟩ := Tx.ofExcept_eq_ok.mp h₃
  obtain ⟨rfl, hmessages⟩ := serve_inbox h₂ hpage hcaller hmailbox
  obtain ⟨_, _, h₄, r₄⟩ := Tx.bind_eq_ok.mp r₃
  obtain ⟨-, rfl⟩ := Tx.require_eq_ok.mp h₄
  obtain ⟨_, _, h₅, r₅⟩ := Tx.bind_eq_ok.mp r₄
  obtain ⟨hearlier, rfl⟩ := Tx.require_eq_ok.mp h₅
  obtain ⟨rfl, rfl⟩ := Tx.pure_eq_ok.mp r₅
  rw [List.drop_zero] at hmessages
  refine ⟨rfl, ?_, fun message hmessage hle => ?_⟩
  · refine Table.foldl_max_le_iff.mpr ⟨Nat.zero_le _, fun sequence hsequence => ?_⟩
    obtain ⟨summary, hselected, rfl⟩ := List.mem_map.mp hsequence
    have hsummary := (List.mem_filter.mp hselected).1
    rw [hmessages] at hsummary
    obtain ⟨message, hmessage, rfl⟩ := List.mem_map.mp hsummary
    exact (hmailbox.numbered.pos hmessage).2
  · by_contra hleft
    rw [not_or, Bool.not_eq_true] at hleft
    have hsummary : message.summary ∈ page.messages := by
      rw [hmessages]
      exact List.mem_map_of_mem hmessage
    have hrefused : page.messages.any (fun summary =>
        decide (summary.sequence ≤ arguments.through page.messages) && !summary.acknowledged &&
          !arguments.messageIds.contains summary.id) = true := by
      refine List.any_eq_true.mpr ⟨message.summary, hsummary, ?_⟩
      have hsequence : message.summary.sequence ≤ arguments.through page.messages := hle
      have hacknowledged : message.summary.acknowledged = false := hleft.1
      have hunnamed : arguments.messageIds.contains message.summary.id = false := by
        rw [Bool.eq_false_iff]
        exact fun hcontains => hleft.2 (List.contains_iff_mem.mp hcontains)
      rw [decide_eq_true hsequence, hacknowledged, hunnamed]
      rfl
    rw [hrefused] at hearlier
    cases hearlier

theorem still_decideHandled {caller : AuthenticatedCaller} (clock : Clock) (arguments : Handled) :
    Tx.Keeps Eq (decideHandled (serve config runId caller clock) arguments) :=
  .bind (.require _ _) fun _ => .bind (still_serve _ _) fun _ => .bind (.ofExcept _) fun _ =>
    .bind (.require _ _) fun _ => .bind (.require _ _) fun _ => .pure _

/-- An acknowledgement that reaches the supervisor is one transaction at most. -/
theorem acknowledgeInbox_db (caller : AuthenticatedCaller) (operationId : OperationId)
    (through : Nat) (acknowledgedAt : Int) (db : Db) (hcaller : caller.agentId = some agentId) :
    ((acknowledgeInbox runId caller operationId through acknowledgedAt).run db).2 = db ∨
      ((acknowledgeInbox runId caller operationId through acknowledgedAt).run db).2 =
        (Command.acknowledgeMessages
          { operationId, runId, agentId, through, acknowledgedAt }).exec db := by
  generalize hrun :
    (acknowledgeInbox runId caller operationId through acknowledgedAt).run db = outcome
  obtain ⟨answer, db'⟩ := outcome
  have hrequire : Tx.Keeps Eq (requireCurrentCaller runId caller) := .require _ _
  have howner : Tx.Keeps Eq (inboxOwner caller) := .okOr _ _
  have hcursor : Tx.Keeps Eq (requireInboxCursor through) := .require _ _
  rcases hrequire.bind_run hrun with ⟨error, -, hsame⟩ | ⟨_, -, r₁⟩
  · exact .inl hsame
  rcases howner.bind_run r₁ with ⟨error, -, hsame⟩ | ⟨owner, hfound, r₂⟩
  · exact .inl hsame
  obtain ⟨hfound, -⟩ := Tx.okOr_eq_ok.mp hfound
  obtain rfl : agentId = owner := Option.some.inj (hcaller.symm.trans hfound)
  rcases hcursor.bind_run r₂ with ⟨error, -, hsame⟩ | ⟨_, -, r₃⟩
  · exact .inl hsame
  let acknowledgement : AcknowledgeMessagesMutation :=
    { operationId, runId, agentId, through, acknowledgedAt }
  have hcommits : Commits
      (mutationBody .json acknowledgement.mutation none (acknowledgeMessages acknowledgement))
      (.acknowledgeMessages acknowledgement) := commits_of_discard rfl
  rcases committed_cases (mutationBody .json acknowledgement.mutation none
      (acknowledgeMessages acknowledgement)) db with
    ⟨result, db₁, hbody, hcommitted⟩ | ⟨error, hcommitted⟩
  · rw [Tx.run_bind_of_ok hcommitted] at r₃
    obtain ⟨-, rfl⟩ := Prod.mk.injEq .. ▸ r₃
    right
    rw [← hcommits db]
    rcases Tx.transaction_cases (mutationBody .json acknowledgement.mutation none
        (acknowledgeMessages acknowledgement)) db with ⟨_, _, hok, htransaction⟩ | ⟨_, hfailed, -⟩
    · rw [htransaction]
      exact congrArg Prod.snd (hbody.symm.trans hok)
    · rw [hbody] at hfailed
      cases hfailed
  · rw [Tx.run_bind_of_error hcommitted] at r₃
    exact .inl (congrArg Prod.snd r₃).symm

end Decisions

/-! ## Every run -/

section Runs

variable {config : EffectiveConfig} {runId : RunId} {agentId : AgentId}

/-- The inbox is in order, no cursor has passed an unacknowledged message, and every decision still
    covers named messages only. -/
structure Bridges.Holds (runId : RunId) (agentId : AgentId) (bridges : Bridges) : Prop where
  mailbox : Mailbox (bridges.db.inboxOf runId agentId)
    (bridges.db.acknowledgedThrough runId agentId)
  cursors : ∀ cursor ∈ bridges.cursors,
    cursor.inbox ≤ bridges.db.acknowledgedThrough runId agentId
  decided : ∀ decision ∈ bridges.decided,
    Decided decision.1.messageIds decision.2 (bridges.db.inboxOf runId agentId)

/-- The invariant survives whatever others do. -/
theorem Bridges.Holds.reaches {bridges : Bridges} (h : bridges.Holds runId agentId) {db : Db}
    (hreaches : Reaches bridges.db db) : Bridges.Holds runId agentId { bridges with db } := by
  obtain ⟨commands, rfl⟩ := hreaches
  obtain ⟨hcontinues, through, hthrough, hmailbox⟩ := mailbox_runFrom h.mailbox commands
  refine ⟨?_, fun cursor hcursor => ?_, fun decision hdecision => ?_⟩
  · show Mailbox _ (Db.acknowledgedThrough _ runId agentId)
    rw [acknowledgedThrough_eq hmailbox]
    exact hmailbox
  · show cursor.inbox ≤ Db.acknowledgedThrough _ runId agentId
    rw [acknowledgedThrough_eq hmailbox]
    exact Nat.le_trans (h.cursors cursor hcursor) hthrough
  · exact (h.decided decision hdecision).continues hcontinues hmailbox.numbered

/-- Only unacknowledged messages are shown, and all of them. -/
theorem shown_of_drop {inbox : List MessageRecord} {page : InboxPage} {start through : Nat}
    (hmailbox : Mailbox inbox through) (hstart : start ≤ through)
    (hpage : page.messages = (inbox.drop start).map (·.summary)) :
    page.messages.filter (fun message => !message.acknowledged) =
      (inbox.filter fun message => !message.acknowledgedAt.isSome).map (·.summary) := by
  rw [hpage, List.filter_map, ← hmailbox.filter_drop hstart]
  rfl

/-- The cursor of a poll ends at the last acknowledged message. -/
theorem acknowledgedPrefix_of_drop {inbox : List MessageRecord} {page : InboxPage}
    {start through : Nat} (hmailbox : Mailbox inbox through)
    (hpage : page.messages = (inbox.drop start).map (·.summary)) :
    acknowledgedPrefix page.messages start = max start through := by
  rw [← hmailbox.cursorAfter_takeWhile, acknowledgedPrefix, hpage, List.takeWhile_map,
    Paging.cursorAfter_map]
  rfl

/-- A poll from a cursor that was handed out shows the unacknowledged messages, and hands out
    another such cursor. -/
theorem Bridges.Holds.poll {before : Bridges} (h : before.Holds runId agentId) {call : BridgePoll}
    {result : PollResult} {store : SharedStore}
    (hrun : call.run config runId agentId before = (.ok result, store))
    (hreaches : Reaches before.db store.db) :
    result.messages = ((store.db.inboxOf runId agentId).filter fun message =>
        !message.acknowledgedAt.isSome).map (·.summary) ∧
      result.cursor.inbox ≤ store.db.acknowledgedThrough runId agentId := by
  have howner : (call.session.caller runId agentId).agentId = some agentId := rfl
  obtain ⟨start, hstart, hpage⟩ := poll_ok hrun howner
  have hafter := h.reaches hreaches
  have hle : start ≤ store.db.acknowledgedThrough runId agentId := by
    rcases hstart with rfl | ⟨cursor, hcursor, rfl⟩
    · exact Nat.zero_le _
    · obtain ⟨index, -, hindex⟩ := Option.bind_eq_some_iff.mp hcursor
      exact hafter.cursors cursor (List.mem_of_getElem? hindex)
  obtain ⟨page, hmessages, hshown, hcursor⟩ := hpage _ hafter.mailbox
  rw [hshown, shown_of_drop hafter.mailbox hle hmessages, hcursor,
    acknowledgedPrefix_of_drop hafter.mailbox hmessages]
  exact ⟨rfl, Nat.le_of_eq (max_eq_right hle)⟩

theorem reaches_poll (call : BridgePoll) (before : Bridges) :
    Reaches before.db (call.run config runId agentId before).2.db :=
  keeps_poll (fun request => onlyOthers_interleaved (still_serve call.clock request)) _ _

theorem reaches_exec (command : Command) (db : Db) : Reaches db (command.exec db) :=
  ⟨[command], rfl⟩

theorem reaches_acknowledgeInbox (session : BridgeSession) (operationId : OperationId)
    (through : Nat) (acknowledgedAt : Int) (db : Db) :
    Reaches db ((acknowledgeInbox runId (session.caller runId agentId) operationId through
      acknowledgedAt).run db).2 := by
  have howner : (session.caller runId agentId).agentId = some agentId := rfl
  rcases acknowledgeInbox_db (session.caller runId agentId) operationId through acknowledgedAt db
    howner with hsame | hexec
  · exact ⟨[], hsame⟩
  · rw [hexec]
    exact reaches_exec _ db

theorem bridgesStep_holds (input : BridgeInput) {before : Bridges}
    (h : before.Holds runId agentId) :
    (bridgesStep config runId agentId input before).Holds runId agentId := by
  cases input with
  | command command => exact h.reaches (reaches_exec command before.db)
  | poll call =>
      have hreaches : Reaches before.db (call.run config runId agentId before).2.db :=
        reaches_poll call before
      unfold bridgesStep
      dsimp only
      cases hrun : call.run config runId agentId before with
      | mk answer store =>
          rw [hrun] at hreaches
          have hafter := h.reaches hreaches
          cases answer with
          | error error => exact hafter
          | ok result =>
              refine ⟨hafter.mailbox, fun cursor hcursor => ?_, hafter.decided⟩
              rcases List.mem_append.mp hcursor with hold | hnew
              · exact hafter.cursors cursor hold
              · rw [List.mem_singleton.mp hnew]
                exact (h.poll hrun hreaches).2
  | decide session clock arguments =>
      unfold bridgesStep
      dsimp only
      split
      · next through db hrun =>
          have howner : (session.caller runId agentId).agentId = some agentId := rfl
          obtain ⟨rfl, hdecided⟩ := decideHandled_ok hrun howner h.mailbox
          refine ⟨h.mailbox, h.cursors, fun decision hdecision => ?_⟩
          rcases List.mem_append.mp hdecision with hold | hnew
          · exact h.decided decision hold
          · rw [List.mem_singleton.mp hnew]
            exact hdecided
      · next error db hrun =>
          have hstill : Tx.Keeps Eq (decideHandled
              (serve config runId (session.caller runId agentId) clock) arguments) :=
            still_decideHandled clock arguments
          have hsame := hstill before.db
          rw [hrun] at hsame
          subst hsame
          exact ⟨h.mailbox, h.cursors, h.decided⟩
  | deliver session index acknowledgedAt =>
      unfold bridgesStep
      dsimp only
      split
      · exact h
      · next arguments through _ => exact h.reaches (reaches_acknowledgeInbox _ _ _ _ _)

/-- An acknowledgement that was decided on changes named messages only. -/
theorem Decided.delivered {arguments : Handled} {through : Nat} {db : Db}
    (h : Decided arguments.messageIds through (db.inboxOf runId agentId)) (session : BridgeSession)
    (acknowledgedAt : Int) :
    ∀ message ∈ ((acknowledgeInbox runId (session.caller runId agentId) arguments.operationId
      through acknowledgedAt).run db).2.inboxOf runId agentId,
      message.acknowledgedAt.isSome = true → message ∈ db.inboxOf runId agentId ∨
        message.id ∈ arguments.messageIds := by
  intro message hmessage hacknowledged
  have howner : (session.caller runId agentId).agentId = some agentId := rfl
  rcases acknowledgeInbox_db (session.caller runId agentId) arguments.operationId through
    acknowledgedAt db howner with hsame | hexec
  · rw [hsame] at hmessage
    exact .inl hmessage
  · rw [hexec] at hmessage
    let acknowledgement : AcknowledgeMessagesMutation :=
      { operationId := arguments.operationId, runId, agentId, through, acknowledgedAt }
    rcases exec_acknowledgeMessages acknowledgement db with hsame | ⟨-, hstep⟩
    · rw [inboxOf_of_messages hsame] at hmessage
      exact .inl hmessage
    · have hown : ((Command.acknowledgeMessages acknowledgement).exec db).inboxOf runId agentId =
          (db.inboxOf runId agentId).map (·.acknowledge through acknowledgedAt) :=
        inboxOf_acknowledged_own hstep
      rw [hown] at hmessage
      obtain ⟨old, hold, rfl⟩ := List.mem_map.mp hmessage
      unfold MessageRecord.acknowledge at hacknowledged ⊢
      split
      · next hcovered =>
          -- it was not acknowledged before, so the call has named it
          rcases h.covers old hold hcovered.1 with hdone | hnamed
          · rw [hcovered.2] at hdone
            cases hdone
          · exact .inr hnamed
      · exact .inl hold

/-- In every run of an agent's bridges, beside any other use of the store: a poll, from any cursor
    that an earlier poll has returned or from none, shows exactly the messages that are not
    acknowledged, in order; and an acknowledgement that reaches the supervisor, whenever and however
    often it does, acknowledges only messages that the call which decided on it has named. -/
theorem handled_messages (config : EffectiveConfig) (runId : RunId) (agentId : AgentId)
    (inputs : List BridgeInput) :
    (∀ (call : BridgePoll) (result : PollResult) (store : SharedStore),
      call.run config runId agentId ((bridges config runId agentId).run inputs) =
        (.ok result, store) →
      result.messages = ((store.db.inboxOf runId agentId).filter fun message =>
        !message.acknowledgedAt.isSome).map (·.summary)) ∧
    ∀ session index acknowledgedAt, ∀ message ∈
      ((bridges config runId agentId).step (.deliver session index acknowledgedAt)
        ((bridges config runId agentId).run inputs)).db.inboxOf runId agentId,
      message.acknowledgedAt.isSome = true →
        message ∈ ((bridges config runId agentId).run inputs).db.inboxOf runId agentId ∨
        ∃ arguments through,
          ((bridges config runId agentId).run inputs).decided[index]? = some (arguments, through) ∧
            message.id ∈ arguments.messageIds := by
  have hempty : Bridges.Holds runId agentId { db := Db.empty, cursors := [], decided := [] } :=
    ⟨Paging.markedThrough_nil, nofun, nofun⟩
  have hholds : ((bridges config runId agentId).run inputs).Holds runId agentId :=
    Machine.invariant_run (m := bridges config runId agentId) hempty
      (fun _ input h => bridgesStep_holds input h) inputs
  generalize (bridges config runId agentId).run inputs = reached at hholds ⊢
  refine ⟨fun call result store hrun => ?_, fun session index acknowledgedAt message hmessage
    hacknowledged => ?_⟩
  · have hreaches : Reaches reached.db (call.run config runId agentId reached).2.db :=
      reaches_poll call reached
    rw [hrun] at hreaches
    exact (hholds.poll hrun hreaches).1
  · cases hindex : reached.decided[index]? with
    | none =>
        left
        simp only [bridges, bridgesStep, hindex] at hmessage
        exact hmessage
    | some decision =>
        obtain ⟨arguments, through⟩ := decision
        simp only [bridges, bridgesStep, hindex] at hmessage
        have hdecided := hholds.decided _ (List.mem_of_getElem? hindex)
        exact (hdecided.delivered session acknowledgedAt message hmessage
          hacknowledged).imp id fun hnamed => ⟨arguments, through, rfl, hnamed⟩

end Runs

/-- The bridge of the worker's session. -/
def readingSession : BridgeSession where
  sessionId := readingScope.sessionId
  generation := readingScope.generation

/-- The worker handles its first message; its acknowledgement comes after another message. -/
def handledFirst : List BridgeInput :=
  (readingWorker ++ [messageTo "1"]).map .command ++
    [.decide readingSession (fun _ => (30, [])) ⟨⟨"handled-1"⟩, [⟨"message-1"⟩]⟩,
     .command (messageTo "2"),
     .deliver readingSession 0 30]

/-- The worker asks for its messages alone. -/
def messagesPoll : BridgePoll where
  session := readingSession
  cursor := none
  waitSeconds := none
  includeProgress := some false
  clock := fun _ => (40, [])
  others := []

/-- The next poll shows the second message alone. -/
theorem handled_messages_polled : ∃ config, resolve {} {} {} = .ok config ∧
    ∃ result store, messagesPoll.run config readingScope.runId readingScope.agentId
        ((bridges config readingScope.runId readingScope.agentId).run handledFirst) =
          (.ok result, store) ∧
      result.messages.map (·.id) = [⟨"message-2"⟩] := by
  have hpolls : (resolve {} {} {}).toOption.any (fun config =>
      (messagesPoll.run config readingScope.runId readingScope.agentId
        ((bridges config readingScope.runId readingScope.agentId).run handledFirst)).1.isOk &&
      (((messagesPoll.run config readingScope.runId readingScope.agentId
        ((bridges config readingScope.runId readingScope.agentId).run
          handledFirst)).2.db.inboxOf readingScope.runId readingScope.agentId).filter
            fun message => !message.acknowledgedAt.isSome).map (·.id) == [⟨"message-2"⟩]) =
      true := by
    decide +kernel
  obtain ⟨config, hconfig, hpolls⟩ := Except.exists_ok_of_any hpolls
  rw [Bool.and_eq_true, beq_iff_eq] at hpolls
  refine ⟨config, hconfig, ?_⟩
  have hids : ∀ messages : List MessageRecord,
      (messages.map (·.summary)).map (·.id) = messages.map (·.id) := fun messages => by
    rw [List.map_map]
    rfl
  have hshows := (handled_messages config readingScope.runId readingScope.agentId handledFirst).1
    messagesPoll
  generalize messagesPoll.run config readingScope.runId readingScope.agentId
    ((bridges config readingScope.runId readingScope.agentId).run handledFirst) = outcome
    at hpolls hshows ⊢
  obtain ⟨answer, store⟩ := outcome
  obtain ⟨result, rfl⟩ := Except.exists_of_isOk hpolls.1
  refine ⟨result, store, rfl, ?_⟩
  rw [hshows result store rfl, hids]
  exact hpolls.2

end Mcp

end Coterie
