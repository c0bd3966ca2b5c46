/-
  Coterie.State.Progress

  Bounded projections of durable lifecycle events for progress inspection (`state/progress.rs`,
  `protocol/progress.rs`).  A query projects each event of one of eleven kinds to a small document,
  and the reader of the rows decodes the documents to `ProgressState`; events of other kinds, and
  controls in other phases than `interrupt`, are passed over.

  The query projects a text column or a text of the payload to its first bytes.  A payload value
  of another type would be projected to some text that is neither an identifier nor a name; it
  stands here as `null`, which the decoder refuses in the same way.
-/

import Coterie.Base.Paging
import Coterie.Config.Resolver
import Coterie.Model.Ids
import Coterie.State.Sessions
import Coterie.State.Supervision

namespace Coterie

/-! ## What progress readers see -/

/-- Only lifecycle data is projected; arbitrary event payloads never cross here.  `ObservedExit` and
    `ProgressControlReason` hold what `SessionExit` and `ControlReason` hold. -/
inductive ProgressState where
  | task (taskId : TaskId) (projectId : ProjectId) (status : TaskStatus)
  | assignment (assignmentId : AssignmentId) (taskId : TaskId) (agentId : AgentId)
      (state : AssignmentState)
  | assignmentSession (assignmentId : AssignmentId) (taskId : TaskId) (agentId : AgentId)
      (sessionId : SessionId)
  | agent (agentId : AgentId) (generation : Int) (state : LifecycleState)
  | session (sessionId : SessionId) (agentId : AgentId) (generation : Int) (state : LifecycleState)
      (exit : Option SessionExit)
  | sessionControl (sessionId : SessionId) (agentId : AgentId) (generation : Int)
      (reason : ControlReason)
  | jobDeadlineWarning (sessionId : SessionId) (agentId : AgentId) (generation : Int)
      (deadlineAt : Int)
deriving DecidableEq, Repr

/-- The durable order is retained even when intervening events are excluded. -/
structure ProgressChange where
  sequence : Nat
  state : ProgressState
deriving DecidableEq, Repr

/-- A background job and the time it has left. -/
structure JobDeadline where
  sessionId : SessionId
  agentId : AgentId
  generation : Int
  state : LifecycleState
  deadlineAt : Int
  remainingSeconds : Int
  warning : Bool
deriving DecidableEq, Repr

/-- What one scan of the event log returns. -/
structure ProgressScan where
  changes : List ProgressChange
  nextSequence : Nat
  highWatermark : Nat
deriving DecidableEq, Repr

/-! ## The projection of one event -/

/-- A text, cut to its first `width` bytes, or `null`. -/
def projectedText (width : Nat) : Option String → Except StoreError JsonValue
  | none => .ok .null
  | some text =>
      match Text.firstBytes? width text with
      | some shortened => .ok (.str shortened)
      | none => .error .unreadableText

/-- The columns and payload texts of each kind, with one byte beyond the longest valid value. -/
def idWidth : Nat := 30
def nameWidth : Nat := 12
def reasonWidth : Nat := 20

namespace EventRecord

/-- A field of the payload's data. -/
def datum (event : EventRecord) (key : String) : Option JsonValue :=
  event.payload.path? ["data", key]

/-- A text of the payload's data. -/
def dataText (event : EventRecord) (key : String) : Option String :=
  (event.datum key).bind JsonValue.asStr?

/-- An integer of the payload's data; `null` for anything else. -/
def dataInteger (event : EventRecord) (key : String) : JsonValue :=
  match event.datum key with
  | some (.num value) => if isI64 value then .num value else .null
  | _ => .null

/-- The exit of the payload's data: an object, or `null`. -/
def dataExit (event : EventRecord) : JsonValue :=
  match event.datum "exit" with
  | some (.obj fields) => .obj fields
  | _ => .null

/-- The version of the payload; `none` when it is no integer. -/
def schemaVersion (event : EventRecord) : Option Int :=
  (event.payload.get? "schema_version").bind JsonValue.asInt?

/-- The document of a task event. -/
def projectedTask (event : EventRecord) : Except StoreError JsonValue := do
  let taskId ← projectedText idWidth (some event.subject)
  let projectId ← projectedText idWidth (event.projectId.map Id.text)
  let status ← projectedText nameWidth (event.dataText "status")
  pure (.obj [("kind", .str "task"), ("project_id", projectId), ("status", status),
    ("task_id", taskId)])

/-- The document of an assignment event. -/
def projectedAssignment (event : EventRecord) : Except StoreError JsonValue := do
  let assignmentId ← projectedText idWidth (some event.subject)
  let taskId ← projectedText idWidth (event.taskId.map Id.text)
  let agentId ← projectedText idWidth (event.agentId.map Id.text)
  let state ← projectedText nameWidth (event.dataText "state")
  pure (.obj [("agent_id", agentId), ("assignment_id", assignmentId), ("kind", .str "assignment"),
    ("state", state), ("task_id", taskId)])

/-- The document of a session that took an assignment over. -/
def projectedAssignmentSession (event : EventRecord) : Except StoreError JsonValue := do
  let assignmentId ← projectedText idWidth (some event.subject)
  let taskId ← projectedText idWidth (event.taskId.map Id.text)
  let agentId ← projectedText idWidth (event.agentId.map Id.text)
  let sessionId ← projectedText idWidth (event.dataText "session_id")
  pure (.obj [("agent_id", agentId), ("assignment_id", assignmentId),
    ("kind", .str "assignment_session"), ("session_id", sessionId), ("task_id", taskId)])

/-- The document of an agent event. -/
def projectedAgent (event : EventRecord) : Except StoreError JsonValue := do
  let agentId ← projectedText idWidth (some event.subject)
  let state ← projectedText nameWidth (event.dataText "state")
  pure (.obj [("agent_id", agentId), ("generation", event.dataInteger "generation"),
    ("kind", .str "agent"), ("state", state)])

/-- The document of a session event. -/
def projectedSession (event : EventRecord) (exit : JsonValue) : Except StoreError JsonValue := do
  let sessionId ← projectedText idWidth (some event.subject)
  let agentId ← projectedText idWidth (event.agentId.map Id.text)
  let state ← projectedText nameWidth (event.dataText "state")
  pure (.obj [("agent_id", agentId), ("exit", exit),
    ("generation", event.dataInteger "generation"), ("kind", .str "session"),
    ("session_id", sessionId), ("state", state)])

/-- The document of a session control. -/
def projectedControl (event : EventRecord) : Except StoreError JsonValue := do
  let sessionId ← projectedText idWidth (some event.subject)
  let agentId ← projectedText idWidth (event.agentId.map Id.text)
  let reason ← projectedText reasonWidth (event.dataText "reason")
  pure (.obj [("agent_id", agentId), ("generation", event.dataInteger "generation"),
    ("kind", .str "session_control"), ("reason", reason), ("session_id", sessionId)])

/-- The document of a deadline warning. -/
def projectedDeadline (event : EventRecord) : Except StoreError JsonValue := do
  let sessionId ← projectedText idWidth (some event.subject)
  let agentId ← projectedText idWidth (event.agentId.map Id.text)
  pure (.obj [("agent_id", agentId), ("deadline_at", event.dataInteger "deadline_at"),
    ("generation", event.dataInteger "generation"), ("kind", .str "job_deadline_warning"),
    ("session_id", sessionId)])

/-- The document that the query projects an event to; `none` when it is not shown. -/
def projected (event : EventRecord) : Except StoreError (Option JsonValue) :=
  match event.eventType with
  | .taskCreated | .taskLifecycleChanged => event.projectedTask.map some
  | .assignmentCreated | .assignmentLifecycleChanged => event.projectedAssignment.map some
  | .assignmentSessionAssociated => event.projectedAssignmentSession.map some
  | .agentCreated | .agentLifecycleChanged => event.projectedAgent.map some
  | .sessionStarted => (event.projectedSession .null).map some
  | .sessionLifecycleChanged => (event.projectedSession event.dataExit).map some
  | .sessionControlChanged =>
      if event.dataText "phase" = some "interrupt" then event.projectedControl.map some
      else .ok none
  | .sessionDeadlineApproaching => event.projectedDeadline.map some
  | _ => .ok none

end EventRecord

/-! ## Decoding a document -/

/-- The status that a document names. -/
def TaskStatus.ofStr? : String → Option TaskStatus :=
  Text.named? TaskStatus.asStr [.opened, .inProgress, .submitted, .closed, .canceled]

def AssignmentState.ofStr? : String → Option AssignmentState :=
  Text.named? AssignmentState.asStr [.active, .draining, .completed, .released, .canceled]

def LifecycleState.ofStr? : String → Option LifecycleState :=
  Text.named? LifecycleState.asStr [.starting, .running, .exited, .lost, .unknown, .quarantined]

def ControlReason.ofStr? : String → Option ControlReason :=
  Text.named? ControlReason.asStr [.shutdown, .startupTimeout, .executionTimeout]

def ExitReason.ofStr? : String → Option ExitReason :=
  Text.named? ExitReason.asStr [.process, .interrupted, .terminated]

/-- An identifier field of a document. -/
def idField? {kind : IdKind} (value : JsonValue) (key : String) : Option (Id kind) :=
  (value.text? key).bind Id.ofText?

/-- A 64-bit integer field of a document. -/
def i64Field? (value : JsonValue) (key : String) : Option Int :=
  ((value.get? key).bind JsonValue.asInt?).filter fun value => isI64 value

/-- The greatest and the least value of a signed 32-bit integer. -/
def i32Max : Int := 2 ^ 31 - 1
def i32Min : Int := -2 ^ 31

/-- Decode an optional exit code. -/
def exitCode? : Option JsonValue → Option (Option Int)
  | none | some .null => some none
  | some (.num code) => if i32Min ≤ code ∧ code ≤ i32Max then some (some code) else none
  | some _ => none

/-- Decode an optional exit. -/
def observedExit? : Option JsonValue → Option (Option SessionExit)
  | none | some .null => some none
  | some value => do
      let code ← exitCode? (value.get? "code")
      let reason ← value.named? "reason" ExitReason.ofStr?
      pure (some { code, reason })

namespace ProgressState

/-- Decode a document. -/
def ofJson? (value : JsonValue) : Option ProgressState := do
  match ← value.text? "kind" with
  | "task" => pure (.task (← idField? value "task_id") (← idField? value "project_id")
      (← value.named? "status" TaskStatus.ofStr?))
  | "assignment" => pure (.assignment (← idField? value "assignment_id") (← idField? value "task_id")
      (← idField? value "agent_id") (← value.named? "state" AssignmentState.ofStr?))
  | "assignment_session" => pure (.assignmentSession (← idField? value "assignment_id")
      (← idField? value "task_id") (← idField? value "agent_id") (← idField? value "session_id"))
  | "agent" => pure (.agent (← idField? value "agent_id") (← i64Field? value "generation")
      (← value.named? "state" LifecycleState.ofStr?))
  | "session" => pure (.session (← idField? value "session_id") (← idField? value "agent_id")
      (← i64Field? value "generation") (← value.named? "state" LifecycleState.ofStr?)
      (← observedExit? (value.get? "exit")))
  | "session_control" => pure (.sessionControl (← idField? value "session_id") (← idField? value "agent_id")
      (← i64Field? value "generation") (← value.named? "reason" ControlReason.ofStr?))
  | "job_deadline_warning" => pure (.jobDeadlineWarning (← idField? value "session_id")
      (← idField? value "agent_id") (← i64Field? value "generation") (← i64Field? value "deadline_at"))
  | _ => none

end ProgressState

/-! ## Scanning the log -/

/-- The most rows that one query reads. -/
def maximumScannedRows : Nat := 256

namespace Db

/-- The events of a run, in the order of their sequences. -/
def eventsOf (db : Db) (runId : RunId) : List EventRecord :=
  (db.events.filter (·.runId == runId)).mergeSort fun a b => a.sequence ≤ b.sequence

/-- The sequence of the last event of a run. -/
def highWatermark (db : Db) (runId : RunId) : Nat :=
  ((db.events.filter (·.runId == runId)).map (·.sequence)).foldl max 0

end Db

/-- Go through the rows of the query: stop before the first change that does not fit.  An event
    that is not shown moves the cursor all the same. -/
def scanRows (limit : Nat) :
    List EventRecord → List ProgressChange → Nat → Except StoreError (List ProgressChange × Nat)
  | [], changes, nextSequence => .ok (changes, nextSequence)
  | row :: rest, changes, nextSequence =>
      match row.projected with
      | .error error => .error error
      | .ok none => scanRows limit rest changes row.sequence
      | .ok (some projected) =>
          if changes.length = limit then .ok (changes, nextSequence)
          else if row.schemaVersion ≠ some 1 then .error (.invalidProgressEvent row.sequence)
          else
            match ProgressState.ofJson? projected with
            | none => .error (.invalidProgressEvent row.sequence)
            | some state =>
                scanRows limit rest (changes ++ [{ sequence := row.sequence, state }]) row.sequence

/-- The changes after a cursor, at most `limit`. -/
def Db.progressAfter (db : Db) (runId : RunId) (after limit : Nat) :
    Except StoreError ProgressScan :=
  let highWatermark := db.highWatermark runId
  let rows := ((db.eventsOf runId).filter fun event =>
    after < event.sequence && decide (event.sequence ≤ highWatermark)).take maximumScannedRows
  (scanRows limit rows [] after).map fun scan =>
    { changes := scan.1, nextSequence := scan.2, highWatermark }

/-! ## What a scan returns -/

namespace EventRecord

/-- A reader of progress can decode what it is shown of the event. -/
def Readable (event : EventRecord) : Prop :=
  ∃ projected, event.projected = .ok projected ∧
    ∀ document, projected = some document →
      event.schemaVersion = some 1 ∧ (ProgressState.ofJson? document).isSome = true

instance (event : EventRecord) : Decidable event.Readable :=
  match h : event.projected with
  | .error _ => .isFalse fun ⟨_, hprojected, _⟩ => by rw [h] at hprojected; cases hprojected
  | .ok none => .isTrue ⟨none, h, nofun⟩
  | .ok (some document) =>
      decidable_of_iff
        (event.schemaVersion = some 1 ∧ (ProgressState.ofJson? document).isSome = true)
        ⟨fun hdecodes => ⟨some document, h, fun _ hsame => by cases hsame; exact hdecodes⟩,
          fun ⟨_, hprojected, hdecodes⟩ =>
            hdecodes document (by rw [h] at hprojected; cases hprojected; rfl)⟩

/-- What a reader of progress is shown of the event. -/
def change? (event : EventRecord) : Option ProgressChange :=
  match event.projected with
  | .ok (some document) =>
      (ProgressState.ofJson? document).map fun state => { sequence := event.sequence, state }
  | _ => none

end EventRecord

/-- The events of a run as its readers may rely on them: each has a sequence of its own, which is
    a 64-bit integer, and each can be decoded. -/
structure Db.ProgressLog (db : Db) (runId : RunId) : Prop where
  keyed : Table.Keyed (·.sequence) (db.events.filter (·.runId == runId))
  readable : ∀ event ∈ db.events, event.runId = runId → event.Readable
  representable : ∀ event ∈ db.events, event.runId = runId → event.sequence ≤ i64Max.toNat

/-- The events of a run that a reader at a cursor has not scanned. -/
def Db.unread (db : Db) (runId : RunId) (cursor : Nat) : List EventRecord :=
  Paging.later (·.sequence) (db.eventsOf runId) cursor

/-- The changes that a reader at a cursor is still to be shown. -/
def Db.unreadChanges (db : Db) (runId : RunId) (cursor : Nat) : List ProgressChange :=
  (db.unread runId cursor).filterMap EventRecord.change?

/-- A scan takes a first part of the rows: all of them, or as many as show `limit` changes. -/
theorem scanRows_ok {limit : Nat} {rows : List EventRecord}
    (hreadable : ∀ row ∈ rows, row.Readable) (changes : List ProgressChange)
    (nextSequence : Nat) (hroom : changes.length ≤ limit) :
    ∃ taken rest, rows = taken ++ rest ∧
      scanRows limit rows changes nextSequence =
        .ok (changes ++ taken.filterMap EventRecord.change?,
          Paging.cursorAfter (·.sequence) nextSequence taken) ∧
      (changes ++ taken.filterMap EventRecord.change?).length ≤ limit ∧
      (rest ≠ [] → (changes ++ taken.filterMap EventRecord.change?).length = limit) := by
  induction rows generalizing changes nextSequence with
  | nil => exact ⟨[], [], rfl, by simp [scanRows, Paging.cursorAfter], by simpa using hroom,
      fun h => absurd rfl h⟩
  | cons row rows ih =>
      obtain ⟨projected, hprojected, hdecodes⟩ := hreadable row List.mem_cons_self
      have hrest := fun other (h : other ∈ rows) => hreadable other (List.mem_cons_of_mem _ h)
      rw [scanRows, hprojected]
      cases projected with
      | none =>
          -- an event that is not shown
          have hchange : row.change? = none := by
            unfold EventRecord.change?
            rw [hprojected]
          obtain ⟨taken, rest, hsplit, hscan, hle, hfull⟩ := ih hrest changes row.sequence hroom
          refine ⟨row :: taken, rest, by rw [hsplit]; rfl, ?_, ?_, ?_⟩
          · rw [Paging.cursorAfter_cons, List.filterMap_cons_none hchange]
            exact hscan
          · rw [List.filterMap_cons_none hchange]
            exact hle
          · rw [List.filterMap_cons_none hchange]
            exact hfull
      | some document =>
          by_cases hfull : changes.length = limit
          · exact ⟨[], row :: rows, rfl, by simp [hfull, Paging.cursorAfter], by simpa using hroom,
              fun _ => by simpa using hfull⟩
          · obtain ⟨hversion, hdecoded⟩ := hdecodes document rfl
            obtain ⟨state, hstate⟩ := Option.isSome_iff_exists.mp hdecoded
            have hchange : row.change? = some { sequence := row.sequence, state } := by
              unfold EventRecord.change?
              rw [hprojected]
              simp only [hstate, Option.map_some]
            have hroom' :
                (changes ++ [({ sequence := row.sequence, state } : ProgressChange)]).length ≤
                  limit := by
              rw [List.length_append, List.length_singleton]
              omega
            obtain ⟨taken, rest, hsplit, hscan, hle, hfull'⟩ := ih hrest _ row.sequence hroom'
            have happend : changes ++ (row :: taken).filterMap EventRecord.change? =
                changes ++ [{ sequence := row.sequence, state }] ++
                  taken.filterMap EventRecord.change? := by
              rw [List.filterMap_cons_some hchange, List.append_assoc]
              rfl
            refine ⟨row :: taken, rest, by rw [hsplit]; rfl, ?_, ?_, ?_⟩
            · rw [Paging.cursorAfter_cons, happend, ← hscan]
              simp [hfull, hversion, hstate]
            · rw [happend]
              exact hle
            · rw [happend]
              exact hfull'

namespace Db.ProgressLog

variable {db : Db} {runId : RunId}

theorem ordered (h : db.ProgressLog runId) :
    Paging.Ordered (·.sequence) (db.eventsOf runId) :=
  Paging.ordered_mergeSort h.keyed

theorem mem_eventsOf {event : EventRecord} :
    event ∈ db.eventsOf runId ↔ event ∈ db.events ∧ event.runId = runId := by
  rw [Db.eventsOf, List.mem_mergeSort, List.mem_filter, beq_iff_eq]

/-- No event of the run stands beyond the watermark. -/
theorem le_highWatermark {event : EventRecord} (h : event ∈ db.eventsOf runId) :
    event.sequence ≤ db.highWatermark runId := by
  rw [Db.eventsOf, List.mem_mergeSort] at h
  exact Table.le_foldl_max (List.mem_map_of_mem h)

theorem highWatermark_le (h : db.ProgressLog runId) : db.highWatermark runId ≤ i64Max.toNat := by
  refine Table.foldl_max_le_iff.mpr ⟨by decide, ?_⟩
  intro sequence hsequence
  obtain ⟨event, hevent, rfl⟩ := List.mem_map.mp hsequence
  obtain ⟨hmem, hrun⟩ := List.mem_filter.mp hevent
  exact h.representable event hmem (by simpa using hrun)

/-- The watermark is where nothing is left to be read, and the first such cursor. -/
theorem highWatermark_le_iff {cursor : Nat} :
    db.highWatermark runId ≤ cursor ↔ db.unread runId cursor = [] := by
  rw [Db.unread, Paging.later_eq_nil, Db.highWatermark, Table.foldl_max_le_iff]
  constructor
  · rintro ⟨-, hall⟩ event hevent
    rw [Db.eventsOf, List.mem_mergeSort] at hevent
    exact hall _ (List.mem_map_of_mem hevent)
  · intro hall
    refine ⟨Nat.zero_le _, ?_⟩
    intro sequence hsequence
    obtain ⟨event, hevent, rfl⟩ := List.mem_map.mp hsequence
    exact hall event (List.mem_mergeSort.mpr hevent)

/-- A scan of a readable log reads one page of it, with at most `limit` changes. -/
theorem scan (h : db.ProgressLog runId) (after : Nat) {limit : Nat} (hlimit : 0 < limit) :
    ∃ scan, db.progressAfter runId after limit = .ok scan ∧
      Paging.IsPage (·.sequence) EventRecord.change? (db.eventsOf runId) after scan.changes
        scan.nextSequence ∧
      scan.changes.length ≤ limit ∧ scan.highWatermark = db.highWatermark runId := by
  -- every row is below the watermark, so the query selects the rows after the cursor
  have hselected : ((db.eventsOf runId).filter fun event =>
      after < event.sequence && decide (event.sequence ≤ db.highWatermark runId)) =
        Paging.later (·.sequence) (db.eventsOf runId) after := by
    apply List.filter_congr
    intro event hevent
    simp [le_highWatermark hevent]
  have hreadable : ∀ row ∈ (Paging.later (·.sequence) (db.eventsOf runId) after).take
      maximumScannedRows, row.Readable := by
    intro row hrow
    obtain ⟨hmem, -⟩ := Paging.mem_later.mp (List.mem_of_mem_take hrow)
    obtain ⟨hevent, hrun⟩ := mem_eventsOf.mp hmem
    exact h.readable row hevent hrun
  obtain ⟨taken, rest, hsplit, hscan, hle, hfull⟩ :=
    scanRows_ok hreadable [] after (Nat.zero_le limit)
  refine ⟨{
    changes := taken.filterMap EventRecord.change?
    nextSequence := Paging.cursorAfter (·.sequence) after taken
    highWatermark := db.highWatermark runId }, ?_, ?_, hle, rfl⟩
  · unfold Db.progressAfter
    simp only [hselected, hscan]
    rfl
  · refine ⟨taken, rest ++ (Paging.later (·.sequence) (db.eventsOf runId) after).drop
      maximumScannedRows, ?_, rfl, rfl, ?_⟩
    · rw [← List.append_assoc, ← hsplit, List.take_append_drop]
    · rintro rfl
      -- nothing was taken: the window was empty, so nothing was left
      have hrest : rest = [] := by
        by_contra hne
        have := hfull hne
        simp only [List.filterMap_nil, List.append_nil, List.length_nil] at this
        omega
      subst hrest
      have hempty : Paging.later (·.sequence) (db.eventsOf runId) after = [] := by
        rcases List.take_eq_nil_iff.mp hsplit with hzero | hnil
        · cases hzero
        · exact hnil
      rw [hempty]
      rfl

end Db.ProgressLog

/-! ## Deadlines -/

/-- The deadline of a session, when it is a current background job. -/
def Db.jobDeadline? (db : Db) (timeout nowSeconds : Int) (session : SessionRecord) :
    Option JobDeadline :=
  if session.processOwner ≠ .supervisor ∨ session.state.isTerminal = true ∨
      db.sessionScopeIsCurrent session.scope = false then none
  else
    let deadlineAt := saturate (session.createdAt + timeout)
    let remainingSeconds := max (saturate (deadlineAt - nowSeconds)) 0
    some {
      sessionId := session.id
      agentId := session.agentId
      generation := session.generation
      state := session.state
      deadlineAt
      remainingSeconds
      warning := remainingSeconds ≤ jobWarningWindow timeout }

/-- The background jobs of a run. -/
def Db.jobDeadlines (db : Db) (timeout : Int) (runId : RunId) (nowSeconds : Int) :
    List JobDeadline :=
  (db.sessionsOf runId).filterMap (db.jobDeadline? timeout nowSeconds)

end Coterie
