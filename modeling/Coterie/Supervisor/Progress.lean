/-
  Coterie.Supervisor.Progress

  Progress inspection (`supervisor/progress.rs`).  A request reads one page of a run's events from a
  cursor on, and may wait for a change: the supervisor then reads again until a page has something
  to show or the time is over.  A cursor names the run and the reader it was given to.

  The main result is that the pages of repeated requests tile the events of the run.
-/

import Coterie.Base.Text
import Coterie.State.Progress
import Coterie.Supervisor.Authority

namespace Coterie

/-- The refusal of an argument. -/
def invalidArgument (message : String) : RequestError :=
  .rpc .invalidArgument message

/-- One bounded page with a cursor scoped to its run and authenticated reader. -/
structure ProgressPage where
  runId : RunId
  changes : List ProgressChange
  nextCursor : String
  hasMore : Bool
  timedOut : Bool
  deadlines : List JobDeadline
  omittedDeadlines : Nat
deriving DecidableEq, Repr

namespace Progress

/-! ## Cursors -/

/-- What the cursors of a reader start with. -/
def cursorPrefix (runId : RunId) (caller : AuthenticatedCaller) : String :=
  "p1:" ++ runId.text ++ ":" ++ caller.agentId.elim "operator" Id.text ++ ":"

/-- The cursor of a reader at a sequence. -/
def cursorText (runId : RunId) (caller : AuthenticatedCaller) (sequence : Nat) : String :=
  cursorPrefix runId caller ++ sequence.repr

/-- The refusal of a cursor. -/
def invalidCursor : RequestError :=
  invalidArgument ("invalid progress cursor for this run and caller; resume with a cursor " ++
    "returned to this caller or omit --after")

/-- Read the digits of a cursor: at most 19, and a 64-bit integer. -/
def parseSequence (digits : String) : Option Nat :=
  if digits.toList.length ≤ 19 then
    (Text.decimal? digits).filter fun sequence => sequence ≤ i64Max.toNat
  else none

/-- Read a cursor; without one the log is read from its start. -/
def parseCursor (after : Option String) (start : String) : Except RequestError Nat :=
  match after with
  | none => .ok 0
  | some cursor =>
      match (Text.stripPrefix? start cursor).bind parseSequence with
      | some sequence => .ok sequence
      | none => .error invalidCursor

/-! ## Requests -/

/-- The bounds of a request. -/
def validateBounds (limit waitSeconds : Nat) : Except RequestError Unit := do
  Except.refuseIf (¬ (1 ≤ limit ∧ limit ≤ 100))
    (invalidArgument "progress limit must be between 1 and 100")
  Except.refuseIf (5 < waitSeconds)
    (invalidArgument "progress wait must be between 0 and 5 seconds")

/-- The deadlines of a page, the nearest first. -/
def sortDeadlines (deadlines : List JobDeadline) : List JobDeadline :=
  deadlines.mergeSort fun a b =>
    a.remainingSeconds < b.remainingSeconds ||
      (a.remainingSeconds == b.remainingSeconds && decide (a.sessionId.text ≤ b.sessionId.text))

/-- The most deadlines that a page lists. -/
def maximumDeadlines : Nat := 100

/-- The page that a scan becomes. -/
def page (runId : RunId) (caller : AuthenticatedCaller) (scan : ProgressScan)
    (deadlines : List JobDeadline) : ProgressPage where
  runId := runId
  changes := scan.changes
  nextCursor := cursorText runId caller scan.nextSequence
  hasMore := scan.nextSequence < scan.highWatermark
  timedOut := false
  deadlines := (sortDeadlines deadlines).take maximumDeadlines
  omittedDeadlines := deadlines.length - maximumDeadlines

/-- Read one page. -/
def poll (config : EffectiveConfig) (runId : RunId) (caller : AuthenticatedCaller)
    (after : Option String) (limit waitSeconds : Nat) (now : Int) : Request ProgressPage := do
  requireCurrentCaller runId caller
  requireCapability config runId caller ⟨"task", "read"⟩
  Tx.ofExcept (validateBounds limit waitSeconds)
  let after ← Tx.ofExcept (parseCursor after (cursorPrefix runId caller))
  let scanned ← Tx.read (·.progressAfter runId after limit)
  let scan ← Tx.ofExcept (scanned.mapError .state)
  let deadlines ← Tx.read (·.jobDeadlines config.supervision.jobTimeoutSeconds runId now)
  Tx.require (invalidArgument "progress cursor is beyond the durable event sequence") fun _ =>
    decide (after ≤ scan.highWatermark)
  pure (page runId caller scan deadlines)

/-- A page to answer with: it has something to show, more is left, or the reader does not wait. -/
def answers (page : ProgressPage) (waitSeconds : Nat) : Bool :=
  decide (page.changes ≠ []) || page.hasMore || waitSeconds == 0

/-- Read pages until there is one to answer with.  The readings of the clock are those of the page
    and of the pages read after it, as long as the time is not over. -/
def pollUntilShown (config : EffectiveConfig) (runId : RunId) (caller : AuthenticatedCaller)
    (limit waitSeconds : Nat) : Option String → Int → List Int → Request ProgressPage
  | after, now, [] => do
      let page ← poll config runId caller after limit 0 now
      pure (if answers page waitSeconds = true then page else { page with timedOut := true })
  | after, now, next :: laterReadings => do
      let page ← poll config runId caller after limit 0 now
      if answers page waitSeconds = true then pure page
      else
        pollUntilShown config runId caller limit waitSeconds (some page.nextCursor) next
          laterReadings

/-- What a request for progress asks for, and the readings of the clock while it is served. -/
structure Call where
  limit : Nat
  waitSeconds : Nat
  now : Int
  laterReadings : List Int

/-- Serve a request.  The store stands still while it is served: the supervisor remains free to
    apply other requests between two pages, which then see a longer log. -/
def wait (config : EffectiveConfig) (runId : RunId) (caller : AuthenticatedCaller)
    (after : Option String) (call : Call) : Request ProgressPage := do
  Tx.ofExcept (validateBounds call.limit call.waitSeconds)
  pollUntilShown config runId caller call.limit call.waitSeconds after call.now
    call.laterReadings

/-- Requests one after the other, each from the cursor that the one before it returned. -/
def pages (config : EffectiveConfig) (runId : RunId) (caller : AuthenticatedCaller) :
    Option String → List Call → Request (List ProgressPage)
  | _, [] => pure []
  | after, call :: calls => do
      let page ← wait config runId caller after call
      let rest ← pages config runId caller (some page.nextCursor) calls
      pure (page :: rest)

/-! ## What one page covers -/

/-- What a reader takes from a page of the log. -/
structure Reading where
  changes : List ProgressChange
  nextCursor : String
  hasMore : Bool
deriving DecidableEq, Repr

/-- What a reader takes from a page. -/
def reading (page : ProgressPage) : Reading where
  changes := page.changes
  nextCursor := page.nextCursor
  hasMore := page.hasMore

/-- The page leads a reader from `cursor` to `next`. -/
structure Covers (db : Db) (runId : RunId) (caller : AuthenticatedCaller) (cursor next : Nat)
    (page : Reading) : Prop where
  scanned : Paging.IsPage (·.sequence) EventRecord.change? (db.eventsOf runId) cursor
    page.changes next
  nextCursor : page.nextCursor = cursorText runId caller next
  /-- What is shown, followed by what is left to be shown. -/
  shown : page.changes ++ db.unreadChanges runId next = db.unreadChanges runId cursor
  forward : cursor < next ∨ db.unread runId cursor = []
  bounded : next ≤ db.highWatermark runId
  hasMore : page.hasMore = true ↔ db.unread runId next ≠ []

/-- The caller is current and may read the tasks of the run. -/
structure MayRead (config : EffectiveConfig) (db : Db) (runId : RunId)
    (caller : AuthenticatedCaller) : Prop where
  current : db.callerIsCurrent runId caller = true
  capable : (requireCapability config runId caller ⟨"task", "read"⟩).run db = (.ok (), db)

/-- A request within its bounds. -/
structure Call.Valid (call : Call) : Prop where
  limit : 1 ≤ call.limit ∧ call.limit ≤ 100
  waitSeconds : call.waitSeconds ≤ 5

section

variable {config : EffectiveConfig} {db : Db} {runId : RunId} {caller : AuthenticatedCaller}

/-- A reader's cursor is read back. -/
theorem parseCursor_cursorText {sequence : Nat} (h : sequence ≤ i64Max.toNat) :
    parseCursor (some (cursorText runId caller sequence)) (cursorPrefix runId caller) =
      .ok sequence := by
  have hlength : sequence.repr.toList.length ≤ 19 := by
    rw [Nat.toList_repr, Nat.length_toDigits_le_iff (by omega) (by omega)]
    have : i64Max.toNat < 10 ^ 19 := by decide
    omega
  have hsequence : parseSequence sequence.repr = some sequence := by
    rw [parseSequence, if_pos hlength, Text.decimal?_repr]
    simp [h]
  simp only [parseCursor, cursorText, Text.stripPrefix?_append, Option.bind_some, hsequence]

theorem validateBounds_ok {limit waitSeconds : Nat} (hlimit : 1 ≤ limit ∧ limit ≤ 100)
    (hwait : waitSeconds ≤ 5) : validateBounds limit waitSeconds = .ok () := by
  have hin : ¬ ¬ (1 ≤ limit ∧ limit ≤ 100) := fun h => h hlimit
  have hshort : ¬ 5 < waitSeconds := by omega
  rw [validateBounds, Except.bind_eq_ok]
  exact ⟨(), Except.refuseIf_eq_ok.mpr hin, Except.refuseIf_eq_ok.mpr hshort⟩

/-- A page of the log covers what it scanned. -/
theorem Covers.of_page {cursor next : Nat} {page : Reading} (hlog : db.ProgressLog runId)
    (hscanned : Paging.IsPage (·.sequence) EventRecord.change? (db.eventsOf runId) cursor
      page.changes next)
    (hcursor : cursor ≤ db.highWatermark runId)
    (hnext : page.nextCursor = cursorText runId caller next)
    (hmore : page.hasMore = decide (next < db.highWatermark runId)) :
    Covers db runId caller cursor next page where
  scanned := hscanned
  nextCursor := hnext
  shown := hscanned.conserves hlog.ordered
  forward := by
    by_cases hleft : db.unread runId cursor = []
    · exact .inr hleft
    · exact .inl (hscanned.lt hleft)
  bounded := hscanned.le_of_bound (fun _ h => Db.ProgressLog.le_highWatermark h) hcursor
  hasMore := by
    rw [hmore, decide_eq_true_eq, ← Nat.not_le, ne_eq, Db.ProgressLog.highWatermark_le_iff]

/-- The next request resumes where the page ended. -/
theorem Covers.resumes {cursor next : Nat} {page : Reading} (hlog : db.ProgressLog runId)
    (h : Covers db runId caller cursor next page) :
    parseCursor (some page.nextCursor) (cursorPrefix runId caller) = .ok next := by
  rw [h.nextCursor]
  exact parseCursor_cursorText (h.bounded.trans hlog.highWatermark_le)

/-- Two pages, taken as one. -/
theorem Covers.trans {cursor next last : Nat} {page page' : Reading} (hlog : db.ProgressLog runId)
    (hcursor : cursor ≤ db.highWatermark runId)
    (h : Covers db runId caller cursor next page) (h' : Covers db runId caller next last page') :
    Covers db runId caller cursor last
      { changes := page.changes ++ page'.changes
        nextCursor := page'.nextCursor
        hasMore := page'.hasMore } := by
  refine Covers.of_page hlog (h.scanned.trans hlog.ordered h'.scanned) hcursor h'.nextCursor ?_
  rw [Bool.eq_iff_iff, h'.hasMore, decide_eq_true_eq, ← Nat.not_le, ne_eq,
    Db.ProgressLog.highWatermark_le_iff]

/-- A request of an accepted reader, up to the check of its cursor against the log. -/
theorem poll_run (hcaller : MayRead config db runId caller)
    {after : Option String} {cursor : Nat}
    (hafter : parseCursor after (cursorPrefix runId caller) = .ok cursor) {limit waitSeconds : Nat}
    (hlimit : 1 ≤ limit ∧ limit ≤ 100) (hwait : waitSeconds ≤ 5) (now : Int)
    {scan : ProgressScan} (hscan : db.progressAfter runId cursor limit = .ok scan) :
    (poll config runId caller after limit waitSeconds now).run db =
      if cursor ≤ scan.highWatermark then
        (.ok (page runId caller scan
          (db.jobDeadlines config.supervision.jobTimeoutSeconds runId now)), db)
      else
        (.error (invalidArgument "progress cursor is beyond the durable event sequence"), db) := by
  have hcurrent : (requireCurrentCaller runId caller).run db = (.ok (), db) :=
    Tx.require_eq_ok.mpr ⟨hcaller.current, rfl⟩
  rw [poll, Tx.run_bind, hcurrent]
  dsimp only
  rw [Tx.run_bind, hcaller.capable]
  dsimp only
  rw [Tx.run_bind, validateBounds_ok hlimit hwait, Tx.run_ofExcept]
  dsimp only
  rw [Tx.run_bind, hafter, Tx.run_ofExcept]
  dsimp only
  rw [Tx.run_bind, Tx.run_read, hscan]
  dsimp only
  rw [Tx.run_bind, Except.mapError, Tx.run_ofExcept]
  dsimp only
  rw [Tx.run_bind, Tx.run_read]
  dsimp only
  rw [Tx.run_bind, Tx.run_require]
  by_cases hcursor : cursor ≤ scan.highWatermark
  · rw [if_pos hcursor, if_pos (decide_eq_true hcursor)]
    rfl
  · rw [if_neg hcursor, if_neg (by simpa using hcursor)]

/-- One page of a request. -/
theorem poll_covers (hlog : db.ProgressLog runId) (hcaller : MayRead config db runId caller)
    {after : Option String} {cursor : Nat}
    (hafter : parseCursor after (cursorPrefix runId caller) = .ok cursor)
    (hcursor : cursor ≤ db.highWatermark runId) {limit waitSeconds : Nat}
    (hlimit : 1 ≤ limit ∧ limit ≤ 100) (hwait : waitSeconds ≤ 5) (now : Int) :
    ∃ page next, (poll config runId caller after limit waitSeconds now).run db = (.ok page, db) ∧
      Covers db runId caller cursor next (reading page) ∧ page.changes.length ≤ limit ∧
      page.runId = runId := by
  obtain ⟨scan, hscan, hpage, hlength, hhigh⟩ := hlog.scan cursor hlimit.1
  have hrun := poll_run hcaller hafter hlimit hwait now hscan
  rw [if_pos (by rw [hhigh]; exact hcursor)] at hrun
  refine ⟨_, scan.nextSequence, hrun, Covers.of_page hlog hpage hcursor rfl ?_, hlength, rfl⟩
  rw [← hhigh]
  rfl

/-- A cursor beyond the log is refused. -/
theorem poll_beyond (hlog : db.ProgressLog runId) (hcaller : MayRead config db runId caller)
    {after : Option String} {cursor : Nat}
    (hafter : parseCursor after (cursorPrefix runId caller) = .ok cursor)
    (hcursor : db.highWatermark runId < cursor) {limit waitSeconds : Nat}
    (hlimit : 1 ≤ limit ∧ limit ≤ 100) (hwait : waitSeconds ≤ 5) (now : Int) :
    (poll config runId caller after limit waitSeconds now).run db =
      (.error (invalidArgument "progress cursor is beyond the durable event sequence"), db) := by
  obtain ⟨scan, hscan, -, -, hhigh⟩ := hlog.scan cursor hlimit.1
  rw [poll_run hcaller hafter hlimit hwait now hscan, if_neg (by omega)]

/-- The page of a request that waits. -/
theorem pollUntilShown_covers (hlog : db.ProgressLog runId)
    (hcaller : MayRead config db runId caller) {after : Option String} {cursor : Nat}
    (hafter : parseCursor after (cursorPrefix runId caller) = .ok cursor)
    (hcursor : cursor ≤ db.highWatermark runId) {limit : Nat}
    (hlimit : 1 ≤ limit ∧ limit ≤ 100) (waitSeconds : Nat) (now : Int)
    (laterReadings : List Int) :
    ∃ page next,
      (pollUntilShown config runId caller limit waitSeconds after now laterReadings).run db =
        (.ok page, db) ∧
      Covers db runId caller cursor next (reading page) ∧ page.changes.length ≤ limit ∧
      page.runId = runId := by
  induction laterReadings generalizing after cursor now with
  | nil =>
      obtain ⟨page, next, hpage, hcovers, hlength, hrun⟩ :=
        poll_covers hlog hcaller hafter hcursor hlimit (Nat.zero_le 5) now
      refine ⟨_, next, Tx.bind_eq_ok.mpr ⟨page, db, hpage, rfl⟩, ?_, ?_, ?_⟩
      · split <;> exact hcovers
      · split <;> exact hlength
      · split <;> exact hrun
  | cons later laterReadings ih =>
      obtain ⟨page, next, hpage, hcovers, hlength, hrun⟩ :=
        poll_covers hlog hcaller hafter hcursor hlimit (Nat.zero_le 5) now
      by_cases hdone : answers page waitSeconds = true
      · refine ⟨page, next, ?_, hcovers, hlength, hrun⟩
        rw [pollUntilShown, Tx.bind_eq_ok]
        exact ⟨page, db, hpage, by rw [if_pos hdone]; rfl⟩
      · -- nothing was shown: the next page starts where this one ended
        have hempty : page.changes = [] := by
          by_contra hne
          apply hdone
          simp [answers, hne]
        obtain ⟨page', next', hpage', hcovers', hlength', hrun'⟩ :=
          ih (hcovers.resumes hlog) hcovers.bounded later
        refine ⟨page', next', ?_, ?_, hlength', hrun'⟩
        · rw [pollUntilShown, Tx.bind_eq_ok]
          exact ⟨page, db, hpage, by rw [if_neg hdone]; exact hpage'⟩
        · have htogether := hcovers.trans hlog hcursor hcovers'
          rw [show (reading page).changes = [] from hempty] at htogether
          exact htogether

/-- The page of a request. -/
theorem wait_covers (hlog : db.ProgressLog runId) (hcaller : MayRead config db runId caller)
    {after : Option String} {cursor : Nat}
    (hafter : parseCursor after (cursorPrefix runId caller) = .ok cursor)
    (hcursor : cursor ≤ db.highWatermark runId) {call : Call} (hvalid : call.Valid) :
    ∃ page next, (wait config runId caller after call).run db = (.ok page, db) ∧
      Covers db runId caller cursor next (reading page) ∧ page.changes.length ≤ call.limit ∧
      page.runId = runId := by
  obtain ⟨page, next, hpage, hcovers, hlength, hrun⟩ :=
    pollUntilShown_covers hlog hcaller hafter hcursor hvalid.limit call.waitSeconds call.now
      call.laterReadings
  refine ⟨page, next, ?_, hcovers, hlength, hrun⟩
  rw [wait, Tx.bind_eq_ok]
  exact ⟨(), db,
    Tx.ofExcept_eq_ok.mpr ⟨validateBounds_ok hvalid.limit hvalid.waitSeconds, rfl⟩, hpage⟩

/-! ## Repeated requests -/

/-- Pages one after the other, each from where the one before it ended. -/
inductive Tiled (db : Db) (runId : RunId) (caller : AuthenticatedCaller) :
    Nat → List Reading → Nat → Prop where
  | nil (cursor : Nat) : Tiled db runId caller cursor [] cursor
  | cons {cursor next last : Nat} {page : Reading} {pages : List Reading}
      (covers : Covers db runId caller cursor next page)
      (rest : Tiled db runId caller next pages last) :
      Tiled db runId caller cursor (page :: pages) last

namespace Tiled

variable {cursor last : Nat} {read : List Reading}

/-- The pages are pages of the ordered log. -/
theorem isPages (h : Tiled db runId caller cursor read last) :
    ∃ pages, pages.map (·.1) = read.map (·.changes) ∧ pages.length = read.length ∧
      Paging.IsPages (·.sequence) EventRecord.change? (db.eventsOf runId) cursor pages last := by
  induction h with
  | nil cursor => exact ⟨[], rfl, rfl, .nil cursor⟩
  | @cons cursor next last page read covers _ ih =>
      obtain ⟨pages, hchanges, hlength, hpages⟩ := ih
      refine ⟨(page.changes, next) :: pages, ?_, ?_, .cons covers.scanned hpages⟩
      · rw [List.map_cons, List.map_cons, hchanges]
      · rw [List.length_cons, List.length_cons, hlength]

/-- What the pages show, followed by what is left to be shown, is what was to be shown. -/
theorem conserves (hlog : db.ProgressLog runId) (h : Tiled db runId caller cursor read last) :
    read.flatMap (·.changes) ++ db.unreadChanges runId last = db.unreadChanges runId cursor := by
  obtain ⟨pages, hchanges, -, hpages⟩ := h.isPages
  have hshown : read.flatMap (·.changes) = pages.flatMap (·.1) := by
    rw [List.flatMap_def, List.flatMap_def, hchanges]
  rw [hshown]
  exact hpages.conserves hlog.ordered

theorem bounded (h : Tiled db runId caller cursor read last)
    (hcursor : cursor ≤ db.highWatermark runId) : last ≤ db.highWatermark runId := by
  induction h with
  | nil => exact hcursor
  | cons covers _ ih => exact ih covers.bounded

/-- As many pages as there are unread events reach the watermark. -/
theorem drained (hlog : db.ProgressLog runId) (h : Tiled db runId caller cursor read last)
    (hcursor : cursor ≤ db.highWatermark runId)
    (henough : (db.unread runId cursor).length ≤ read.length) :
    last = db.highWatermark runId ∧
      read.flatMap (·.changes) = db.unreadChanges runId cursor := by
  obtain ⟨pages, -, hlength, hpages⟩ := h.isPages
  have hleft : db.unread runId last = [] :=
    hpages.drained hlog.ordered (by rw [hlength]; exact henough)
  have hconserved := h.conserves hlog
  rw [Db.unreadChanges, hleft, List.filterMap_nil, List.append_nil] at hconserved
  exact ⟨Nat.le_antisymm (h.bounded hcursor) (Db.ProgressLog.highWatermark_le_iff.mpr hleft),
    hconserved⟩

end Tiled

/-- Pages that a reader at `cursor` reads one after the other, up to `last`: one page for each of
    the limits. -/
structure Tiles (db : Db) (runId : RunId) (caller : AuthenticatedCaller) (cursor : Nat)
    (limits : List Nat) (read : List Reading) (last : Nat) : Prop where
  /-- No page shows more changes than its limit. -/
  limited : List.Forall₂ (fun page limit => page.changes.length ≤ limit) read limits
  tiled : Tiled db runId caller cursor read last
  /-- No change is lost, repeated or reordered. -/
  conserved : read.flatMap (·.changes) ++ db.unreadChanges runId last =
    db.unreadChanges runId cursor
  /-- The reading ends, at the watermark and with every change. -/
  drained : (db.unread runId cursor).length ≤ limits.length →
    last = db.highWatermark runId ∧ read.flatMap (·.changes) = db.unreadChanges runId cursor

theorem Tiled.tiles (hlog : db.ProgressLog runId) {cursor last : Nat} {limits : List Nat}
    {read : List Reading} (h : Tiled db runId caller cursor read last)
    (hcursor : cursor ≤ db.highWatermark runId)
    (hlimited : List.Forall₂ (fun page limit => page.changes.length ≤ limit) read limits) :
    Tiles db runId caller cursor limits read last where
  limited := hlimited
  tiled := h
  conserved := h.conserves hlog
  drained henough := h.drained hlog hcursor (by rw [hlimited.length_eq]; exact henough)

/-- Repeated requests read the log in pages. -/
theorem pages_tiled (hlog : db.ProgressLog runId) (hcaller : MayRead config db runId caller)
    {after : Option String} {cursor : Nat}
    (hafter : parseCursor after (cursorPrefix runId caller) = .ok cursor)
    (hcursor : cursor ≤ db.highWatermark runId) {calls : List Call}
    (hvalid : ∀ call ∈ calls, call.Valid) :
    ∃ read last, (pages config runId caller after calls).run db = (.ok read, db) ∧
      Tiles db runId caller cursor (calls.map (·.limit)) (read.map reading) last := by
  suffices hpages : ∃ read last,
      (pages config runId caller after calls).run db = (.ok read, db) ∧
      List.Forall₂ (fun page limit => page.changes.length ≤ limit) (read.map reading)
        (calls.map (·.limit)) ∧ Tiled db runId caller cursor (read.map reading) last by
    obtain ⟨read, last, hread, hlimited, htiled⟩ := hpages
    exact ⟨read, last, hread, htiled.tiles hlog hcursor hlimited⟩
  induction calls generalizing after cursor with
  | nil => exact ⟨[], cursor, rfl, .nil, .nil cursor⟩
  | cons call calls ih =>
      obtain ⟨page, next, hpage, hcovers, hlength, -⟩ :=
        wait_covers hlog hcaller hafter hcursor (hvalid call List.mem_cons_self)
      obtain ⟨read, last, hread, hlimited, htiled⟩ :=
        ih (hcovers.resumes hlog) hcovers.bounded
          fun other hother => hvalid other (List.mem_cons_of_mem _ hother)
      refine ⟨page :: read, last, ?_, .cons hlength hlimited, .cons hcovers htiled⟩
      rw [pages, Tx.bind_eq_ok]
      refine ⟨page, db, hpage, ?_⟩
      rw [Tx.bind_eq_ok]
      exact ⟨read, db, hread, rfl⟩

end

end Progress

/-! ## A run that is read -/

/-- The session of a worker. -/
def readingScope : SessionScope where
  runId := ⟨"cr-01ARZ3NDEKTSV4RRFFQ69G5FAV"⟩
  agentId := ⟨"cg-01ARZ3NDEKTSV4RRFFQ69G5FAV"⟩
  sessionId := ⟨"cs-01ARZ3NDEKTSV4RRFFQ69G5FAV"⟩
  generation := 0

/-- A run with one worker whose launch is recorded. -/
def readingWorker : List Command :=
  [.startRun readingScope.runId
      { id := ⟨"cp-01ARZ3NDEKTSV4RRFFQ69G5FAV"⟩, runId := readingScope.runId,
        projectAlias := "primary", originalPath := "/work", canonicalPath := "/work",
        identity := .null, isPrimary := true, attachedAt := 0 } 0,
   .createTask
      { operationId := ⟨"co-01ARZ3NDEKTSV4RRFFQ69G5FA0"⟩, runId := readingScope.runId,
        caller := none, now := 0 } none
      { taskId := ⟨"ct-01ARZ3NDEKTSV4RRFFQ69G5FAV"⟩, title := "title",
        description := "description", projectAlias := "primary",
        projectId := ⟨"cp-01ARZ3NDEKTSV4RRFFQ69G5FAV"⟩, group := none, dependencies := [] },
   .spawnAgent
      { operationId := ⟨"co-01ARZ3NDEKTSV4RRFFQ69G5FA1"⟩, runId := readingScope.runId,
        caller := none, now := 0 }
      { role := "worker", taskId := ⟨"ct-01ARZ3NDEKTSV4RRFFQ69G5FAV"⟩,
        agentId := readingScope.agentId, sessionId := readingScope.sessionId,
        assignmentId := ⟨"ca-01ARZ3NDEKTSV4RRFFQ69G5FAV"⟩, workspaceKind := .project,
        runStateDirectory := "/state", baseCommit := none },
   .persistLaunchIntent
      { scope := readingScope, role := "worker", provider := "codex", contract := .null,
        tokenVerifier := [], createdAt := 0 } true (some ⟨"ca-01ARZ3NDEKTSV4RRFFQ69G5FAV"⟩)]

end Coterie
