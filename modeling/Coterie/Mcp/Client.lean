/-
  Coterie.Mcp.Client

  The client mechanics behind the polling tool of the agents' bridge (`mcp/client.rs`).  A poll
  joins up to 16 pages of progress and reads the inbox.  Its cursor can be replayed after a lost
  response or in a new bridge; authority remains in the supervisor.

  A transport answers the requests of the client in a state of its own, so that the client can be
  run against any supervisor; `serve` is the supervisor over a store that stands still.
-/

import Coterie.Supervisor.Inbox

namespace Coterie

namespace Mcp

/-! ## Transports -/

/-- The requests that a poll sends. -/
inductive RpcRequest where
  | whoami
  | progress (after : Option String) (limit waitSeconds : Nat)
  | inbox (after : Nat)
deriving DecidableEq, Repr

/-- What the supervisor answers to them. -/
inductive RpcResponse where
  | identity (runId : RunId) (agent : Option AgentId)
  | progress (page : ProgressPage)
  | inbox (page : InboxPage)
deriving DecidableEq, Repr

/-- Why a call of the client failed. -/
inductive ClientError where
  | rejected (error : RequestError)
  | unexpectedMessage (expected : String)
  | invalidProof
deriving DecidableEq, Repr

/-- How the client reaches the supervisor. -/
abbrev Transport (σ : Type) : Type := RpcRequest → Tx σ ClientError RpcResponse

/-- The refusal of a response of another kind. -/
def unexpected : ClientError :=
  .unexpectedMessage "the requested client helper response"

/-- The page of a progress response. -/
def asProgress : RpcResponse → Except ClientError ProgressPage
  | .progress page => .ok page
  | _ => .error unexpected

/-- The messages of an inbox response. -/
def asInbox : RpcResponse → Except ClientError InboxPage
  | .inbox page => .ok page
  | _ => .error unexpected

/-- The run and the agent of an identity response. -/
def asAgent : RpcResponse → Except ClientError (RunId × AgentId)
  | .identity runId (some agentId) => .ok (runId, agentId)
  | _ => .error unexpected

/-! ## Polling -/

/-- A read checkpoint can be replayed after a lost response or bridge replacement.  It grants no
    authority and never represents a durable acknowledgement. -/
structure PollCursor where
  runId : RunId
  agentId : AgentId
  progress : Option String
  inbox : Nat
deriving DecidableEq, Repr

/-- The arguments of a poll. -/
structure Poll where
  cursor : Option PollCursor
  waitSeconds : Option Nat
  includeProgress : Option Bool
deriving DecidableEq, Repr

structure PollResult where
  cursor : PollCursor
  changes : List ProgressChange
  deadlines : List JobDeadline
  omittedDeadlines : Nat
  messages : List MessageSummary
  hasMore : Bool
  timedOut : Bool
deriving DecidableEq, Repr

def maxProgressPages : Nat := 16
def maxChanges : Nat := 100

/-- The progress that a poll has read. -/
structure ProgressRead where
  cursor : Option String
  changes : List ProgressChange := []
  deadlines : List JobDeadline := []
  omittedDeadlines : Nat := 0
  hasMore : Bool := false
  timedOut : Bool := false
deriving DecidableEq, Repr

/-- The progress read, with one more page. -/
def ProgressRead.extend (read : ProgressRead) (page : ProgressPage) : ProgressRead where
  cursor := some page.nextCursor
  changes := read.changes ++ page.changes
  deadlines := page.deadlines
  omittedDeadlines := page.omittedDeadlines
  hasMore := page.hasMore
  timedOut := read.timedOut || page.timedOut

/-- A page that the supervisor never sends: of another run, without an advance, or too long. -/
def ProgressRead.refuses (read : ProgressRead) (runId : RunId) (page : ProgressPage) : Bool :=
  page.runId != runId || (page.hasMore && read.cursor == some page.nextCursor) ||
    decide (maxChanges - read.changes.length < page.changes.length)

variable {σ : Type}

/-- Read at most so many pages, until nothing is left or the changes are full.  Only the first page
    waits. -/
def readProgress (transport : Transport σ) (runId : RunId) :
    Nat → Nat → ProgressRead → Tx σ ClientError ProgressRead
  | 0, _, read => pure read
  | pages + 1, waitSeconds, read => do
      let response ←
        transport (.progress read.cursor (maxChanges - read.changes.length) waitSeconds)
      let page ← Tx.ofExcept (asProgress response)
      Tx.require .invalidProof fun _ => !read.refuses runId page
      if page.hasMore = false ∨ (read.extend page).changes.length = maxChanges then
        pure (read.extend page)
      else readProgress transport runId pages 0 (read.extend page)

/-- The sequence of the last message before the first unacknowledged one. -/
def acknowledgedPrefix (messages : List MessageSummary) (start : Nat) : Nat :=
  Paging.cursorAfter (·.sequence) start (messages.takeWhile (·.acknowledged))

/-- The cursor of an agent that has not polled yet. -/
def firstCursor (runId : RunId) (agentId : AgentId) : PollCursor where
  runId := runId
  agentId := agentId
  progress := none
  inbox := 0

/-- The progress of a poll that may leave it out. -/
def pollProgress (transport : Transport σ) (runId : RunId) (cursor : Option String)
    (waitSeconds : Nat) (includeProgress : Bool) : Tx σ ClientError ProgressRead :=
  if includeProgress = true then
    readProgress transport runId maxProgressPages waitSeconds { cursor }
  else pure { cursor }

/-- Read what happened, and the messages that are not handled. -/
def poll (transport : Transport σ) (arguments : Poll) : Tx σ ClientError PollResult := do
  let waitSeconds := arguments.waitSeconds.getD 0
  Tx.require
    (.rejected (invalidArgument "wait_seconds must be between zero and five."))
    fun _ => decide (waitSeconds ≤ 5)
  let (runId, agentId) ← Tx.ofExcept (asAgent (← transport .whoami))
  let cursor := arguments.cursor.getD (firstCursor runId agentId)
  Tx.require
    (.rejected (invalidArgument "The poll cursor belongs to a different run or agent."))
    fun _ => cursor.runId == runId && cursor.agentId == agentId
  let read ← pollProgress transport runId cursor.progress waitSeconds
    (arguments.includeProgress.getD true)
  -- the inbox is read also after an empty or timed-out wait; reading acknowledges nothing
  let inbox ← Tx.ofExcept (asInbox (← transport (.inbox cursor.inbox)))
  pure {
    cursor :=
      { cursor with
        progress := read.cursor
        inbox := acknowledgedPrefix inbox.messages cursor.inbox }
    changes := read.changes
    deadlines := read.deadlines
    omittedDeadlines := read.omittedDeadlines
    messages := inbox.messages.filter fun message => !message.acknowledged
    hasMore := read.hasMore
    timedOut := read.timedOut }

/-! ## A supervisor over a store that stands still -/

/-- A request of the supervisor, as its client sees it. -/
def served {α : Type} (request : Request α) : Tx Db ClientError α :=
  ⟨fun db => ((request.run db).1.mapError .rejected, (request.run db).2)⟩

/-- The identity of the caller. -/
def whoami (runId : RunId) (caller : AuthenticatedCaller) : Request (Option AgentId) := do
  requireCurrentCaller runId caller
  match caller.agentId with
  | none => pure none
  | some agentId => do
      let agent ← agentRecord runId agentId
      pure (some agent.id)

/-- The readings of the supervisor's clock while it serves a request: the first one, and those of
    the pages that it reads later. -/
abbrev Clock : Type := RpcRequest → Int × List Int

/-- The supervisor's answers. -/
def serve (config : EffectiveConfig) (runId : RunId) (caller : AuthenticatedCaller)
    (clock : Clock) : Transport Db
  | .whoami => served do
      let agent ← whoami runId caller
      pure (.identity runId agent)
  | .progress after limit waitSeconds => served do
      let readings := clock (.progress after limit waitSeconds)
      let page ← Progress.wait config runId caller after
        { limit, waitSeconds, now := readings.1, laterReadings := readings.2 }
      pure (.progress page)
  | .inbox after => served do
      let page ← Coterie.inbox runId caller after
      pure (.inbox page)

/-- A poll that reads progress, and the clock while it is served. -/
structure PollCall where
  waitSeconds : Option Nat
  includeProgress : Option Bool
  clock : Clock

/-- A poll within its bounds that reads progress. -/
structure PollCall.Valid (call : PollCall) : Prop where
  waitSeconds : call.waitSeconds.getD 0 ≤ 5
  includeProgress : call.includeProgress.getD true = true

/-- Polls one after the other, each from the cursor that the one before it returned. -/
def polls (config : EffectiveConfig) (runId : RunId) (caller : AuthenticatedCaller) :
    Option PollCursor → List PollCall → Tx Db ClientError (List PollResult)
  | _, [] => pure []
  | cursor, call :: calls => do
      let result ← poll (serve config runId caller call.clock)
        { cursor, waitSeconds := call.waitSeconds, includeProgress := call.includeProgress }
      let rest ← polls config runId caller (some result.cursor) calls
      pure (result :: rest)

/-- What a reader takes from a poll. -/
def reading (result : PollResult) : Progress.Reading where
  changes := result.changes
  nextCursor := result.cursor.progress.getD ""
  hasMore := result.hasMore

/-! ## What a poll reads -/

section

variable {config : EffectiveConfig} {db : Db} {runId : RunId} {caller : AuthenticatedCaller}

theorem served_ok {α : Type} {request : Request α} {a : α} {db' : Db}
    (h : request.run db = (.ok a, db')) : (served request).run db = (.ok a, db') := by
  unfold served
  dsimp only
  rw [h]
  rfl

/-- A page that has more behind it moves the cursor. -/
theorem not_refuses (hlog : db.ProgressLog runId) {read : ProgressRead} {cursor next : Nat}
    (hafter : Progress.parseCursor read.cursor (Progress.cursorPrefix runId caller) = .ok cursor)
    {page : ProgressPage}
    (hcovers : Progress.Covers db runId caller cursor next (Progress.reading page))
    (hlength : page.changes.length ≤ maxChanges - read.changes.length)
    (hrun : page.runId = runId) : read.refuses runId page = false := by
  have hmoves : ¬ (page.hasMore = true ∧ read.cursor = some page.nextCursor) := by
    rintro ⟨hmore, hsame⟩
    have hresumes := hcovers.resumes hlog
    rw [show some (Progress.reading page).nextCursor = read.cursor from hsame.symm, hafter]
      at hresumes
    obtain rfl : cursor = next := by simpa using hresumes
    rcases hcovers.forward with hlt | hnone
    · omega
    · exact hcovers.hasMore.mp hmore hnone
  simp only [ProgressRead.refuses, Bool.or_eq_false_iff, bne_eq_false_iff_eq,
    decide_eq_false_iff_not, not_lt]
  refine ⟨⟨hrun, ?_⟩, hlength⟩
  rw [Bool.eq_false_iff]
  intro hboth
  rw [Bool.and_eq_true, beq_iff_eq] at hboth
  exact hmoves hboth

/-- One page of a poll. -/
theorem readProgress_step (hlog : db.ProgressLog runId)
    (hcaller : Progress.MayRead config db runId caller) (clock : Clock) {waitSeconds : Nat}
    (hwait : waitSeconds ≤ 5) {read : ProgressRead} {cursor : Nat}
    (hafter : Progress.parseCursor read.cursor (Progress.cursorPrefix runId caller) = .ok cursor)
    (hcursor : cursor ≤ db.highWatermark runId) (hroom : read.changes.length < maxChanges) :
    ∃ page next, Progress.Covers db runId caller cursor next (Progress.reading page) ∧
      (read.extend page).changes.length ≤ maxChanges ∧
      ∀ pages, (readProgress (serve config runId caller clock) runId (pages + 1) waitSeconds
          read).run db =
        if page.hasMore = false ∨ (read.extend page).changes.length = maxChanges then
          (.ok (read.extend page), db)
        else
          (readProgress (serve config runId caller clock) runId pages 0 (read.extend page)).run
            db := by
  have hvalid : Progress.Call.Valid
      { limit := maxChanges - read.changes.length
        waitSeconds
        now := (clock (.progress read.cursor (maxChanges - read.changes.length) waitSeconds)).1
        laterReadings :=
          (clock (.progress read.cursor (maxChanges - read.changes.length) waitSeconds)).2 } := by
    refine ⟨?_, hwait⟩
    unfold maxChanges at hroom ⊢
    dsimp only
    omega
  obtain ⟨page, next, hpage, hcovers, hlength, hrun⟩ :=
    Progress.wait_covers hlog hcaller hafter hcursor hvalid
  refine ⟨page, next, hcovers, ?_, fun pages => ?_⟩
  · show (read.changes ++ page.changes).length ≤ maxChanges
    rw [List.length_append]
    dsimp only at hlength
    omega
  · have hserved : (serve config runId caller clock
        (.progress read.cursor (maxChanges - read.changes.length) waitSeconds)).run db =
          (.ok (.progress page), db) := by
      refine served_ok ?_
      rw [Tx.bind_eq_ok]
      exact ⟨page, db, hpage, rfl⟩
    have haccepted := not_refuses hlog hafter hcovers hlength hrun
    rw [readProgress, Tx.run_bind, hserved]
    dsimp only [asProgress]
    rw [Tx.run_bind, Tx.run_ofExcept]
    dsimp only
    rw [Tx.run_bind, Tx.run_require, haccepted, Bool.not_false, if_pos rfl]
    dsimp only
    rw [Tx.run_ite]
    rfl

/-- A poll reads one page after the other, which together are a page. -/
theorem readProgress_covers (hlog : db.ProgressLog runId)
    (hcaller : Progress.MayRead config db runId caller) (clock : Clock) (pages : Nat)
    {waitSeconds : Nat} (hwait : waitSeconds ≤ 5) {read : ProgressRead} {cursor : Nat}
    (hafter : Progress.parseCursor read.cursor (Progress.cursorPrefix runId caller) = .ok cursor)
    (hcursor : cursor ≤ db.highWatermark runId) (hroom : read.changes.length < maxChanges) :
    ∃ read' next shown,
      (readProgress (serve config runId caller clock) runId (pages + 1) waitSeconds read).run db =
        (.ok read', db) ∧
      read'.changes = read.changes ++ shown ∧
      read'.cursor = some (Progress.cursorText runId caller next) ∧
      Progress.Covers db runId caller cursor next
        { changes := shown, nextCursor := Progress.cursorText runId caller next,
          hasMore := read'.hasMore } ∧
      read'.changes.length ≤ maxChanges := by
  induction pages generalizing waitSeconds read cursor with
  | zero =>
      obtain ⟨page, next, hcovers, hfits, hstep⟩ :=
        readProgress_step hlog hcaller clock hwait hafter hcursor hroom
      have hnext : page.nextCursor = Progress.cursorText runId caller next := hcovers.nextCursor
      refine ⟨read.extend page, next, page.changes, ?_, rfl, congrArg some hnext, ?_, hfits⟩
      · rw [hstep]
        split <;> rfl
      · rw [← hnext]
        exact hcovers
  | succ pages ih =>
      obtain ⟨page, next, hcovers, hfits, hstep⟩ :=
        readProgress_step hlog hcaller clock hwait hafter hcursor hroom
      have hnext : page.nextCursor = Progress.cursorText runId caller next := hcovers.nextCursor
      rw [hstep]
      by_cases hdone : page.hasMore = false ∨
          (read.extend page).changes.length = maxChanges
      · rw [if_pos hdone]
        refine ⟨read.extend page, next, page.changes, rfl, rfl, congrArg some hnext, ?_, hfits⟩
        rw [← hnext]
        exact hcovers
      · rw [if_neg hdone]
        have hleft : (read.extend page).changes.length < maxChanges := by
          push Not at hdone
          omega
        obtain ⟨read', next', shown, hread, hchanges, hcursor', hcovers', hfits'⟩ :=
          ih (Nat.zero_le 5) (hcovers.resumes hlog) hcovers.bounded hleft
        refine ⟨read', next', page.changes ++ shown, hread, ?_, hcursor', ?_, hfits'⟩
        · rw [hchanges, ← List.append_assoc]
          rfl
        · exact hcovers.trans hlog hcursor hcovers'

/-- An accepted agent is told who it is. -/
theorem whoami_ok {scope : SessionScope}
    (hcaller : Progress.MayRead config db runId (.agent scope)) :
    (whoami runId (.agent scope)).run db = (.ok (some scope.agentId), db) := by
  have hcapable := hcaller.capable
  rw [requireCapability] at hcapable
  obtain ⟨agent, db₁, hagent, -⟩ := Tx.bind_eq_ok.mp hcapable
  have hid : agent.id = scope.agentId ∧ db₁ = db := by
    rw [agentRecord, Tx.bind_eq_ok] at hagent
    obtain ⟨found, db₂, hfound, hsome⟩ := hagent
    obtain ⟨rfl, rfl⟩ := Tx.read_eq_ok.mp hfound
    obtain ⟨hsome, hsame⟩ := Tx.okOr_eq_ok.mp hsome
    obtain ⟨hfind, -⟩ := Option.filter_eq_some_iff.mp hsome
    exact ⟨by simpa using List.find?_some hfind, hsame.symm⟩
  obtain ⟨hid, rfl⟩ := hid
  rw [whoami, Tx.bind_eq_ok]
  refine ⟨(), db₁, Tx.require_eq_ok.mpr ⟨hcaller.current, rfl⟩, ?_⟩
  show (agentRecord runId scope.agentId >>= fun agent => pure (some agent.id)).run db₁ = _
  rw [Tx.bind_eq_ok]
  exact ⟨agent, db₁, hagent, by rw [hid]; rfl⟩

/-- The sequences of the stored messages are 64-bit integers, as their column has it. -/
def MessagesRepresentable (db : Db) : Prop :=
  ∀ message ∈ db.messages, message.sequence ≤ i64Max.toNat

/-- An agent's inbox after a cursor. -/
theorem inbox_ok (hmessages : MessagesRepresentable db) {scope : SessionScope}
    (hcurrent : db.callerIsCurrent runId (.agent scope) = true) {after : Nat}
    (hafter : after ≤ i64Max.toNat) :
    ∃ page, (Coterie.inbox runId (.agent scope) after).run db = (.ok page, db) ∧
      ∀ message ∈ page.messages, message.sequence ≤ i64Max.toNat := by
  refine ⟨{
    messages := (db.messagesAfter runId scope.agentId after).map (·.summary)
    nextCursor := Paging.cursorAfter (·.sequence) after
      (db.messagesAfter runId scope.agentId after) }, ?_, ?_⟩
  · rw [Coterie.inbox, Tx.bind_eq_ok]
    refine ⟨(), db, Tx.require_eq_ok.mpr ⟨hcurrent, rfl⟩, ?_⟩
    rw [Tx.bind_eq_ok]
    refine ⟨scope.agentId, db, Tx.okOr_eq_ok.mpr ⟨rfl, rfl⟩, ?_⟩
    rw [Tx.bind_eq_ok]
    refine ⟨(), db, Tx.require_eq_ok.mpr ⟨decide_eq_true hafter, rfl⟩, ?_⟩
    rw [Tx.bind_eq_ok]
    exact ⟨_, db, Tx.read_eq_ok.mpr ⟨rfl, rfl⟩, rfl⟩
  · intro summary hsummary
    obtain ⟨message, hmessage, rfl⟩ := List.mem_map.mp hsummary
    rw [Db.messagesAfter, List.mem_mergeSort] at hmessage
    exact hmessages message (List.mem_filter.mp (List.mem_filter.mp hmessage).1).1

/-- The inbox cursor of a poll stays a 64-bit integer. -/
theorem acknowledgedPrefix_le {messages : List MessageSummary} {start bound : Nat}
    (hstart : start ≤ bound) (hmessages : ∀ message ∈ messages, message.sequence ≤ bound) :
    acknowledgedPrefix messages start ≤ bound := by
  unfold acknowledgedPrefix
  rcases List.eq_nil_or_concat (messages.takeWhile (·.acknowledged)) with hnil | ⟨front, last, heq⟩
  · rw [hnil]
    exact hstart
  · rw [heq, List.concat_eq_append, Paging.cursorAfter_concat]
    apply hmessages
    apply List.takeWhile_subset (·.acknowledged)
    rw [heq]
    simp

/-- A cursor that a poll may start from: one of this reader, at a sequence of the log. -/
structure PollCursor.At (start : PollCursor) (db : Db) (runId : RunId) (scope : SessionScope)
    (cursor : Nat) : Prop where
  ofRun : start.runId = runId
  ofAgent : start.agentId = scope.agentId
  progress : Progress.parseCursor start.progress
    (Progress.cursorPrefix runId (.agent scope)) = .ok cursor
  bounded : cursor ≤ db.highWatermark runId
  inbox : start.inbox ≤ i64Max.toNat

/-- One poll that reads progress. -/
theorem poll_covers (hlog : db.ProgressLog runId) (hmessages : MessagesRepresentable db)
    {scope : SessionScope} (hcaller : Progress.MayRead config db runId (.agent scope))
    {start : Option PollCursor} {cursor : Nat}
    (hstart : (start.getD (firstCursor runId scope.agentId)).At db runId scope cursor)
    {call : PollCall} (hvalid : call.Valid) :
    ∃ result next,
      (poll (serve config runId (.agent scope) call.clock)
        { cursor := start, waitSeconds := call.waitSeconds,
          includeProgress := call.includeProgress }).run db = (.ok result, db) ∧
      Progress.Covers db runId (.agent scope) cursor next (reading result) ∧
      result.changes.length ≤ maxChanges ∧ result.cursor.At db runId scope next := by
  have hafter : Progress.parseCursor
      ({ cursor := (start.getD (firstCursor runId scope.agentId)).progress } : ProgressRead).cursor
      (Progress.cursorPrefix runId (.agent scope)) = .ok cursor := hstart.progress
  obtain ⟨read, next, shown, hread, hchanges, hcursor, hcovers, hfits⟩ :=
    readProgress_covers hlog hcaller call.clock 15 hvalid.waitSeconds hafter hstart.bounded
      (show 0 < maxChanges by decide)
  obtain ⟨page, hinbox, hsequences⟩ := inbox_ok hmessages hcaller.current hstart.inbox
  have hidentity : (serve config runId (.agent scope) call.clock .whoami).run db =
      (.ok (.identity runId (some scope.agentId)), db) := by
    refine served_ok ?_
    rw [Tx.bind_eq_ok]
    exact ⟨_, db, whoami_ok hcaller, rfl⟩
  have hmessages : (serve config runId (.agent scope) call.clock
      (.inbox (start.getD (firstCursor runId scope.agentId)).inbox)).run db = (.ok (.inbox page), db) := by
    refine served_ok ?_
    rw [Tx.bind_eq_ok]
    exact ⟨page, db, hinbox, rfl⟩
  refine ⟨{
    cursor :=
      { start.getD (firstCursor runId scope.agentId) with
        progress := read.cursor
        inbox := acknowledgedPrefix page.messages
          (start.getD (firstCursor runId scope.agentId)).inbox }
    changes := read.changes
    deadlines := read.deadlines
    omittedDeadlines := read.omittedDeadlines
    messages := page.messages.filter fun message => !message.acknowledged
    hasMore := read.hasMore
    timedOut := read.timedOut }, next, ?_, ?_, hfits, ?_⟩
  · rw [poll, Tx.bind_eq_ok]
    refine ⟨(), db, Tx.require_eq_ok.mpr ⟨decide_eq_true hvalid.waitSeconds, rfl⟩, ?_⟩
    rw [Tx.bind_eq_ok]
    refine ⟨_, db, hidentity, ?_⟩
    rw [Tx.bind_eq_ok]
    refine ⟨(runId, scope.agentId), db, Tx.ofExcept_eq_ok.mpr ⟨rfl, rfl⟩, ?_⟩
    dsimp only
    rw [Tx.bind_eq_ok]
    refine ⟨(), db, Tx.require_eq_ok.mpr ⟨?_, rfl⟩, ?_⟩
    · rw [hstart.ofRun, hstart.ofAgent, beq_self_eq_true, beq_self_eq_true]
      rfl
    rw [Tx.bind_eq_ok]
    refine ⟨read, db, ?_, ?_⟩
    · rw [pollProgress, if_pos hvalid.includeProgress]
      exact hread
    rw [Tx.bind_eq_ok]
    refine ⟨_, db, hmessages, ?_⟩
    rw [Tx.bind_eq_ok]
    exact ⟨page, db, Tx.ofExcept_eq_ok.mpr ⟨rfl, rfl⟩, rfl⟩
  · have hshown : read.changes = shown := hchanges
    have hreading : Progress.cursorText runId (.agent scope) next = read.cursor.getD "" := by
      rw [hcursor]
      rfl
    rw [← hshown, hreading] at hcovers
    exact hcovers
  · have hresumes := hcovers.resumes hlog
    rw [← hcursor] at hresumes
    exact {
      ofRun := hstart.ofRun
      ofAgent := hstart.ofAgent
      progress := hresumes
      bounded := hcovers.bounded
      inbox := acknowledgedPrefix_le hstart.inbox hsequences }

/-- Repeated polls read the log in pages. -/
theorem polls_tiled (hlog : db.ProgressLog runId) (hmessages : MessagesRepresentable db)
    {scope : SessionScope} (hcaller : Progress.MayRead config db runId (.agent scope))
    {start : Option PollCursor} {cursor : Nat}
    (hstart : (start.getD (firstCursor runId scope.agentId)).At db runId scope cursor)
    {calls : List PollCall} (hvalid : ∀ call ∈ calls, call.Valid) :
    ∃ results last, (polls config runId (.agent scope) start calls).run db = (.ok results, db) ∧
      Progress.Tiles db runId (.agent scope) cursor (calls.map fun _ => maxChanges)
        (results.map reading) last := by
  suffices hpolls : ∃ results last,
      (polls config runId (.agent scope) start calls).run db = (.ok results, db) ∧
      List.Forall₂ (fun page limit => page.changes.length ≤ limit) (results.map reading)
        (calls.map fun _ => maxChanges) ∧
      Progress.Tiled db runId (.agent scope) cursor (results.map reading) last by
    obtain ⟨results, last, hresults, hlimited, htiled⟩ := hpolls
    exact ⟨results, last, hresults, htiled.tiles hlog hstart.bounded hlimited⟩
  induction calls generalizing start cursor with
  | nil => exact ⟨[], cursor, rfl, .nil, .nil cursor⟩
  | cons call calls ih =>
      obtain ⟨result, next, hresult, hcovers, hlength, hnext⟩ :=
        poll_covers hlog hmessages hcaller hstart (hvalid call List.mem_cons_self)
      have hresume : ((some result.cursor).getD (firstCursor runId scope.agentId)).At db runId scope
          next := hnext
      obtain ⟨results, last, hresults, hlimited, htiled⟩ := ih hresume
        fun other hother => hvalid other (List.mem_cons_of_mem _ hother)
      refine ⟨result :: results, last, ?_, .cons hlength hlimited, .cons hcovers htiled⟩
      rw [polls, Tx.bind_eq_ok]
      refine ⟨result, db, hresult, ?_⟩
      rw [Tx.bind_eq_ok]
      exact ⟨results, db, hresults, rfl⟩

end

end Mcp

/-! ## Every reader -/

/-- Progress pages tile the events of a run.  Whatever the limits and waits of the requests, pages
    that are read one after the other from a cursor of the reader show every change after the
    cursor once and in order, and they end at the watermark; so do the polls of an agent's
    bridge. -/
theorem progress_tiles_events {db : Db} {runId : RunId} (hlog : db.ProgressLog runId)
    (config : EffectiveConfig) :
    (∀ (caller : AuthenticatedCaller) (after : Option String) (cursor : Nat)
      (calls : List Progress.Call), Progress.MayRead config db runId caller →
      Progress.parseCursor after (Progress.cursorPrefix runId caller) = .ok cursor →
      cursor ≤ db.highWatermark runId → (∀ call ∈ calls, call.Valid) →
      ∃ read last, (Progress.pages config runId caller after calls).run db = (.ok read, db) ∧
        Progress.Tiles db runId caller cursor (calls.map (·.limit)) (read.map Progress.reading)
          last) ∧
    ∀ (scope : SessionScope) (start : Option Mcp.PollCursor) (cursor : Nat)
      (calls : List Mcp.PollCall), Progress.MayRead config db runId (.agent scope) →
      Mcp.MessagesRepresentable db →
      (start.getD (Mcp.firstCursor runId scope.agentId)).At db runId scope cursor →
      (∀ call ∈ calls, call.Valid) →
      ∃ results last,
        (Mcp.polls config runId (.agent scope) start calls).run db = (.ok results, db) ∧
        Progress.Tiles db runId (.agent scope) cursor (calls.map fun _ => Mcp.maxChanges)
          (results.map Mcp.reading) last := by
  constructor
  · intro caller after cursor calls hcaller hafter hcursor hvalid
    exact Progress.pages_tiled hlog hcaller hafter hcursor hvalid
  · intro scope start cursor calls hcaller hmessages hstart hvalid
    exact Mcp.polls_tiled hlog hmessages hcaller hstart hvalid

/-- The log of a run with one worker, as a reader relies on it. -/
theorem readingWorker_log :
    (storeMachine.run readingWorker).ProgressLog readingScope.runId where
  keyed := by
    rw [Table.Keyed]
    decide +kernel
  readable := by decide +kernel
  representable := by decide +kernel

/-- Nothing of it is behind a first reader. -/
theorem readingWorker_unread :
    (storeMachine.run readingWorker).unread readingScope.runId 0 =
      (storeMachine.run readingWorker).events := by
  have hsorted : (storeMachine.run readingWorker).eventsOf readingScope.runId =
      (storeMachine.run readingWorker).events := by
    rw [Db.eventsOf, List.filter_eq_self.mpr (by decide +kernel)]
    exact List.mergeSort_of_pairwise (by decide +kernel)
  rw [Db.unread, hsorted, Paging.later]
  exact List.filter_eq_self.mpr (by decide +kernel)

/-- Under the compiled configuration the operator reads a worker's log two changes at a time, and
    the worker's bridge polls it. -/
theorem progress_tiles_events_worker :
    ∃ config, resolve {} {} {} = .ok config ∧
      (∃ read last, (Progress.pages config readingScope.runId .operator none
          (List.replicate 11 ⟨2, 0, 0, []⟩)).run (storeMachine.run readingWorker) =
            (.ok read, storeMachine.run readingWorker) ∧
        Progress.Tiles (storeMachine.run readingWorker) readingScope.runId .operator 0
          (List.replicate 11 2) (read.map Progress.reading) last ∧
        ((read.map Progress.reading).flatMap (·.changes)).map (·.sequence) =
          [3, 4, 5, 7, 10, 11]) ∧
      ∃ results last, (Mcp.polls config readingScope.runId (.agent readingScope) none
          (List.replicate 11 ⟨none, none, fun _ => (0, [])⟩)).run
            (storeMachine.run readingWorker) = (.ok results, storeMachine.run readingWorker) ∧
        Progress.Tiles (storeMachine.run readingWorker) readingScope.runId (.agent readingScope) 0
          (List.replicate 11 100) (results.map Mcp.reading) last ∧
        ((results.map Mcp.reading).flatMap (·.changes)).map (·.sequence) =
          [3, 4, 5, 7, 10, 11] := by
  have hgrants : (resolve {} {} {}).toOption.any (fun config =>
      config.archetype.authorize "worker" ⟨"task", "read"⟩ == .allowed) = true := by
    decide +kernel
  obtain ⟨config, hconfig, hgrants⟩ := Except.exists_ok_of_any hgrants
  have hcaller : Progress.MayRead config (storeMachine.run readingWorker) readingScope.runId
      (.agent readingScope) := by
    have hfound : ((storeMachine.run readingWorker).agent readingScope.agentId).any (fun agent =>
        agent.runId == readingScope.runId && agent.role == "worker") = true := by
      decide +kernel
    obtain ⟨agent, hagent, hworker⟩ := (Option.any_eq_true _ _).mp hfound
    rw [Bool.and_eq_true, beq_iff_eq, beq_iff_eq] at hworker
    refine ⟨by decide +kernel, (requireCapability_eq_ok hagent hworker.1).mpr ?_⟩
    rw [hworker.2]
    exact beq_iff_eq.mp hgrants
  have hevents : ((storeMachine.run readingWorker).unread readingScope.runId 0).length = 11 := by
    rw [readingWorker_unread]
    decide +kernel
  have hchanges : ((storeMachine.run readingWorker).unreadChanges readingScope.runId 0).map
      (·.sequence) = [3, 4, 5, 7, 10, 11] := by
    rw [Db.unreadChanges, readingWorker_unread]
    decide +kernel
  refine ⟨config, hconfig, ?_, ?_⟩
  · obtain ⟨read, last, hrun, htiles⟩ :=
      (progress_tiles_events readingWorker_log config).1 .operator none 0
        (List.replicate 11 ⟨2, 0, 0, []⟩) ⟨rfl, rfl⟩ rfl (Nat.zero_le _)
        fun call hcall => by
          rw [List.eq_of_mem_replicate hcall]
          exact ⟨by decide, by decide⟩
    rw [List.map_replicate] at htiles
    refine ⟨read, last, hrun, htiles, ?_⟩
    rw [(htiles.drained (by rw [hevents, List.length_replicate])).2, hchanges]
  · obtain ⟨results, last, hrun, htiles⟩ :=
      (progress_tiles_events readingWorker_log config).2 readingScope none 0
        (List.replicate 11 ⟨none, none, fun _ => (0, [])⟩) hcaller
        (by unfold Mcp.MessagesRepresentable; decide +kernel)
        ⟨rfl, rfl, rfl, Nat.zero_le _, by decide⟩
        fun call hcall => by
          rw [List.eq_of_mem_replicate hcall]
          exact ⟨by decide, by decide⟩
    rw [List.map_replicate] at htiles
    refine ⟨results, last, hrun, htiles, ?_⟩
    rw [(htiles.drained (by rw [hevents, List.length_replicate])).2, hchanges]

end Coterie
