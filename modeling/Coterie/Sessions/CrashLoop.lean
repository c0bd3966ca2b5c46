/-
  Coterie.Sessions.CrashLoop

  The crash-loop quarantine of an agent.  `record_session_failure` records the failure of a session
  once, counts the failures of its agent inside the window that ends now, and writes the deadline
  of a quarantine on the row when there are too many.  `FailureLedger` says what the table of
  failures then is at any time: every row carries the verdict of the rows up to it.

  `crash_loop_window` is the law in every state that failures, reports of other generations and any
  other transactions lead to.
-/

import Coterie.Sessions.LaunchBound
import Coterie.Supervisor.Admission

namespace Coterie

/-! ## Failures and their verdicts -/

/-- The failures of an agent in a run at times in the interval that is open on the left and closed
    on the right. -/
def failuresIn (rows : List SessionFailure) (runId : RunId) (agentId : AgentId)
    (after upTo : Int) : Nat :=
  rows.countP fun row =>
    row.runId == runId && row.agentId == agentId && decide (after < row.failedAt) &&
      decide (row.failedAt ≤ upTo)

namespace SessionFailure

/-- The failures up to this one make a crash loop of its agent. -/
def crashLoop (policy : SupervisionPolicy) (before : List SessionFailure) (row : SessionFailure) :
    Prop :=
  policy.maxLaunchAttempts ≤ failuresIn (before ++ [row]) row.runId row.agentId
    (row.failedAt - policy.restartWindowSeconds) row.failedAt

instance (policy : SupervisionPolicy) (before : List SessionFailure) (row : SessionFailure) :
    Decidable (row.crashLoop policy before) :=
  inferInstanceAs (Decidable (_ ≤ _))

/-- The quarantine of a failure covers a time. -/
def covers (row : SessionFailure) (time : Int) : Prop :=
  ∃ untilTime, row.quarantineUntil = some untilTime ∧ time < untilTime

end SessionFailure

/-- Failures in the order in which they were recorded, each with its verdict. -/
structure FailureLedger (policy : SupervisionPolicy) (rows : List SessionFailure) : Prop where
  distinct : (rows.map (·.sessionId)).Nodup
  readings : ∀ row ∈ rows, ClockReading row.failedAt
  verdict : ∀ before row after, rows = before ++ row :: after →
    row.quarantineUntil = if row.crashLoop policy before then
      some (saturate (row.failedAt + policy.restartWindowSeconds)) else none

namespace FailureLedger

variable {policy : SupervisionPolicy} {rows : List SessionFailure}

theorem nil : FailureLedger policy [] where
  distinct := .nil
  readings _ hrow := by cases hrow
  verdict before row after hrows := by simp at hrows

/-- A failure of a session that had none. -/
theorem push {row : SessionFailure} (h : FailureLedger policy rows)
    (hnew : ∀ old ∈ rows, old.sessionId ≠ row.sessionId) (hreading : ClockReading row.failedAt)
    (hverdict : row.quarantineUntil = if row.crashLoop policy rows then
      some (saturate (row.failedAt + policy.restartWindowSeconds)) else none) :
    FailureLedger policy (rows ++ [row]) where
  distinct := by
    rw [List.map_append, List.nodup_append]
    refine ⟨h.distinct, List.nodup_singleton _, fun a ha b hb => ?_⟩
    obtain ⟨old, hold, rfl⟩ := List.mem_map.mp ha
    rw [List.map_singleton, List.mem_singleton] at hb
    rw [hb]
    exact hnew old hold
  readings r hr := by
    rcases List.mem_append.mp hr with hold | hlast
    · exact h.readings r hold
    · rw [List.mem_singleton.mp hlast]
      exact hreading
  verdict before r after hrows := by
    rcases List.eq_nil_or_concat after with rfl | ⟨rest, last, rfl⟩
    · obtain ⟨rfl, hlast⟩ := List.append_inj' hrows rfl
      rw [← (List.cons.inj hlast).1]
      exact hverdict
    · rw [← List.concat_cons, List.concat_eq_append, ← List.append_assoc] at hrows
      exact h.verdict before r rest (List.append_inj' hrows rfl).1

/-- A quarantine covers the times before its window is over. -/
theorem covers_iff (h : FailureLedger policy rows) {before after : List SessionFailure}
    {row : SessionFailure} (hrows : rows = before ++ row :: after) {time : Int}
    (htime : ClockReading time) :
    row.covers time ↔ row.crashLoop policy before ∧
      time < row.failedAt + policy.restartWindowSeconds := by
  have hbelow := htime.below
  have hnonneg := htime.nonneg
  have hmin : i64Min < 0 := by decide
  unfold SessionFailure.covers
  rw [h.verdict before row after hrows]
  by_cases hloop : row.crashLoop policy before
  · rw [if_pos hloop]
    unfold saturate
    constructor
    · rintro ⟨untilTime, huntil, hlt⟩
      cases huntil
      exact ⟨hloop, by omega⟩
    · rintro ⟨-, hlt⟩
      exact ⟨_, rfl, by omega⟩
  · rw [if_neg hloop]
    constructor
    · rintro ⟨untilTime, huntil, -⟩
      cases huntil
    · rintro ⟨hloop', -⟩
      exact absurd hloop' hloop

end FailureLedger

/-! ## One report -/

/-- The row that a first report writes. -/
def SessionScope.failure (scope : SessionScope) (failedAt : Int) (quarantineUntil : Option Int) :
    SessionFailure where
  sessionId := scope.sessionId
  runId := scope.runId
  agentId := scope.agentId
  failedAt := failedAt
  quarantineUntil := quarantineUntil

/-- The verdict of a first report. -/
def SessionScope.loops (scope : SessionScope) (now : Int) (policy : SupervisionPolicy) (db : Db) :
    Bool :=
  decide (policy.maxLaunchAttempts ≤
    ({ db with sessionFailures := db.sessionFailures ++ [scope.failure now none] }).recentFailures
      scope.runId scope.agentId now policy)

/-- A report about a superseded generation is ignored. -/
theorem recordSessionFailure_fenced {scope : SessionScope} {now : Int} {policy : SupervisionPolicy}
    {db : Db} (hstale : db.sessionScopeIsCurrent scope = false) :
    (recordSessionFailure scope now policy).run db = (.ok false, db) := by
  rw [recordSessionFailure, Tx.run_bind, Tx.run_read]
  dsimp only
  rw [if_pos (by simp [hstale])]
  rfl

/-- A report about a session whose failure is recorded answers whether its agent is quarantined. -/
theorem recordSessionFailure_replayed {scope : SessionScope} {now : Int}
    {policy : SupervisionPolicy} {db : Db} (hcurrent : db.sessionScopeIsCurrent scope = true)
    (hknown : db.sessionFailures.any (·.sessionId == scope.sessionId) = true) :
    (recordSessionFailure scope now policy).run db =
      (.ok (db.agentQuarantineUntil scope.runId scope.agentId now).isSome, db) := by
  rw [recordSessionFailure, Tx.run_bind, Tx.run_read]
  dsimp only
  rw [if_neg (by simp [hcurrent]), Tx.run_bind, Tx.run_read]
  dsimp only
  rw [if_pos hknown]
  rfl

/-- The agent and the run of a current session may carry events. -/
theorem supervisionEvent_current {scope : SessionScope} {db : Db}
    (hcurrent : db.sessionScopeIsCurrent scope = true) (rows : List SessionFailure)
    (kind : EventKind) (data : JsonValue) (nowMs : Int) :
    ∃ db', (supervisionEvent scope.runId kind scope.sessionId.text (some scope.agentId) none data
        nowMs).run { db with sessionFailures := rows } = (.ok (), db') ∧
      db'.sessionFailures = rows := by
  unfold Db.sessionScopeIsCurrent at hcurrent
  simp only [Bool.and_eq_true, List.any_eq_true] at hcurrent
  obtain ⟨⟨⟨-, agent, hagent, hagentScope⟩, run, hrun, hrunScope⟩, -⟩ := hcurrent
  refine ⟨_, Tx.bind_eq_ok.mpr ⟨(), _, Tx.require_eq_ok.mpr ⟨?_, rfl⟩, rfl⟩, rfl⟩
  unfold Db.eventReferencesHold
  simp only [Option.all_none, Option.all_some, Bool.and_true, Bool.and_eq_true, List.any_eq_true]
  exact ⟨⟨run, hrun, hrunScope.1⟩, agent, hagent, hagentScope.1.1, hagentScope.1.2⟩

/-- The first report about a session appends its row, with the deadline of the quarantine when the
    agent is in a crash loop. -/
theorem recordSessionFailure_first {scope : SessionScope} (now : Int)
    (policy : SupervisionPolicy) {db : Db} (hcurrent : db.sessionScopeIsCurrent scope = true)
    (hknown : db.sessionFailures.any (·.sessionId == scope.sessionId) = false) :
    ∃ db', (recordSessionFailure scope now policy).run db =
        (.ok (scope.loops now policy db), db') ∧
      db'.sessionFailures = db.sessionFailures ++ [scope.failure now
        (if scope.loops now policy db then some (saturate (now + policy.restartWindowSeconds))
          else none)] := by
  have hrest : Table.updateWhere (·.sessionId == scope.sessionId)
      (fun row => { row with
        quarantineUntil := some (saturate (now + policy.restartWindowSeconds)) })
      (db.sessionFailures ++ [scope.failure now none]) =
        db.sessionFailures ++
          [scope.failure now (some (saturate (now + policy.restartWindowSeconds)))] := by
    unfold Table.updateWhere
    rw [List.map_append, List.map_singleton]
    refine congrArg₂ (· ++ ·) ?_ ?_
    · conv_rhs => rw [← List.map_id db.sessionFailures]
      apply List.map_congr_left
      intro row hrow
      have hne := (List.any_eq_false.mp hknown) row hrow
      rw [if_neg hne]
      rfl
    · rw [if_pos]
      · rfl
      · exact beq_self_eq_true scope.sessionId
  rw [recordSessionFailure, Tx.run_bind, Tx.run_read]
  dsimp only
  rw [if_neg (by simp [hcurrent]), Tx.run_bind, Tx.run_read]
  dsimp only
  rw [if_neg (by simp [hknown]), Tx.run_bind, Tx.run_write]
  dsimp only
  rw [Tx.run_bind, Tx.run_read]
  dsimp only
  cases hloops : scope.loops now policy db with
  | true =>
      rw [if_pos]
      swap
      · exact of_decide_eq_true hloops
      obtain ⟨db', hrun, hrows⟩ := supervisionEvent_current hcurrent
        (Table.updateWhere (·.sessionId == scope.sessionId)
          (fun row => { row with
            quarantineUntil := some (saturate (now + policy.restartWindowSeconds)) })
          (db.sessionFailures ++ [scope.failure now none])) .sessionRestartLimited _ _
      refine ⟨db', Tx.bind_eq_ok.mpr ⟨(), _, rfl, Tx.bind_eq_ok.mpr ⟨(), _, hrun, rfl⟩⟩, ?_⟩
      rw [hrows, hrest]
      rfl
  | false =>
      rw [if_neg]
      swap
      · exact of_decide_eq_false hloops
      exact ⟨_, rfl, rfl⟩

/-! ## What every transaction keeps -/

/-- The ledger of failures, none of them after a time. -/
structure Db.FailuresUpTo (policy : SupervisionPolicy) (now : Int) (db : Db) : Prop where
  ledger : FailureLedger policy db.sessionFailures
  upTo : ∀ row ∈ db.sessionFailures, row.failedAt ≤ now

/-- At a time, the count of the recent failures is that of the window that ends then. -/
theorem recentFailures_eq {policy : SupervisionPolicy} {now : Int} {db : Db}
    (hreading : ClockReading now) (hwindow : 0 < policy.restartWindowSeconds)
    (hfits : policy.restartWindowSeconds ≤ i64Max / 1000)
    (hupTo : ∀ row ∈ db.sessionFailures, row.failedAt ≤ now) (runId : RunId) (agentId : AgentId) :
    db.recentFailures runId agentId now policy =
      failuresIn db.sessionFailures runId agentId (now - policy.restartWindowSeconds) now := by
  have hbelow := hreading.below
  have hnonneg := hreading.nonneg
  have hmin : i64Min ≤ -(i64Max / 1000) := by decide
  have hexact : saturate (now - policy.restartWindowSeconds) =
      now - policy.restartWindowSeconds := by
    unfold saturate
    omega
  unfold Db.recentFailures failuresIn
  rw [hexact]
  apply List.countP_congr
  intro row hrow
  have hle := hupTo row hrow
  rw [decide_eq_true hle, Bool.and_true]

/-- The verdict of a first report is that of the rows up to its own. -/
theorem loops_eq {policy : SupervisionPolicy} {now : Int} {db : Db} (scope : SessionScope)
    (hreading : ClockReading now) (hwindow : 0 < policy.restartWindowSeconds)
    (hfits : policy.restartWindowSeconds ≤ i64Max / 1000)
    (hupTo : ∀ row ∈ db.sessionFailures, row.failedAt ≤ now) (untilTime : Option Int) :
    scope.loops now policy db =
      decide ((scope.failure now untilTime).crashLoop policy db.sessionFailures) := by
  have hall : ∀ row ∈ db.sessionFailures ++ [scope.failure now none], row.failedAt ≤ now := by
    intro row hrow
    rcases List.mem_append.mp hrow with hold | hlast
    · exact hupTo row hold
    · rw [List.mem_singleton.mp hlast]
      exact Int.le_refl now
  have hcount :
      Db.recentFailures { db with sessionFailures := db.sessionFailures ++ [scope.failure now none] }
          scope.runId scope.agentId now policy =
        failuresIn (db.sessionFailures ++ [scope.failure now none]) scope.runId scope.agentId
          (now - policy.restartWindowSeconds) now :=
    recentFailures_eq hreading hwindow hfits hall scope.runId scope.agentId
  have hsame : failuresIn (db.sessionFailures ++ [scope.failure now none]) scope.runId
        scope.agentId (now - policy.restartWindowSeconds) now =
      failuresIn (db.sessionFailures ++ [scope.failure now untilTime]) scope.runId
        scope.agentId (now - policy.restartWindowSeconds) now := by
    unfold failuresIn
    rw [List.countP_append, List.countP_append]
    rfl
  unfold SessionScope.loops
  rw [hcount, hsame]
  rfl

/-- From failures up to a time to failures up to that time. -/
def FailuresKept (policy : SupervisionPolicy) (now : Int) (db db' : Db) : Prop :=
  db.FailuresUpTo policy now → db'.FailuresUpTo policy now

section Kept

variable {policy : SupervisionPolicy} {now : Int}

instance : Std.Refl (FailuresKept policy now) where
  refl _ h := h

instance : IsTrans Db (FailuresKept policy now) where
  trans _ _ _ hab hbc h := hbc (hab h)

theorem failuresKept_of_same {db db' : Db} (hsame : db'.sessionFailures = db.sessionFailures) :
    FailuresKept policy now db db' := by
  intro h
  constructor
  · rw [hsame]
    exact h.ledger
  · rw [hsame]
    exact h.upTo

/-- Whatever does not write the table keeps it. -/
theorem failuresKept_of_writes {α : Type} {x : Repo α} (tables : List TableName)
    (hno : .sessionFailures ∉ tables) (h : Tx.Keeps (Written tables) x) :
    Tx.Keeps (FailuresKept policy now) x :=
  h.mono fun _ _ hwritten => failuresKept_of_same (hwritten.writesOnly .sessionFailures hno)

variable (hreading : ClockReading now) (hwindow : 0 < policy.restartWindowSeconds)
  (hfits : policy.restartWindowSeconds ≤ i64Max / 1000)

include hreading hwindow hfits

/-- A report keeps the ledger. -/
theorem recordSessionFailure_failuresKept (scope : SessionScope) :
    Tx.Keeps (FailuresKept policy now) (recordSessionFailure scope now policy) := by
  intro db h
  cases hcurrent : db.sessionScopeIsCurrent scope with
  | false =>
      rw [recordSessionFailure_fenced hcurrent]
      exact h
  | true =>
      cases hknown : db.sessionFailures.any (·.sessionId == scope.sessionId) with
      | true =>
          rw [recordSessionFailure_replayed hcurrent hknown]
          exact h
      | false =>
          obtain ⟨db', hrun, hrows⟩ :=
            recordSessionFailure_first now policy hcurrent hknown
          rw [hrun]
          constructor
          · rw [hrows]
            refine h.ledger.push ?_ hreading ?_
            · intro old hold hid
              exact (List.any_eq_false.mp hknown) old hold (beq_iff_eq.mpr hid)
            · by_cases hloops : scope.loops now policy db = true
              · have hcrash := hloops
                rw [loops_eq scope hreading hwindow hfits h.upTo
                  (some (saturate (now + policy.restartWindowSeconds))), decide_eq_true_eq] at hcrash
                rw [if_pos hloops, if_pos hcrash]
                rfl
              · have hcrash := hloops
                rw [loops_eq scope hreading hwindow hfits h.upTo none, decide_eq_true_eq] at hcrash
                rw [if_neg hloops, if_neg hcrash]
                rfl
          · rw [hrows]
            intro row hrow
            rcases List.mem_append.mp hrow with hold | hlast
            · exact h.upTo row hold
            · rw [List.mem_singleton.mp hlast]
              exact Int.le_refl now

/-- An observation of the provider records a failure only by a report. -/
theorem recordObservation_failuresKept (scope : SessionScope) (observation : SessionObservation) :
    Tx.Keeps (FailuresKept policy now) (recordObservation scope observation now policy) := by
  refine .bind (.read _) fun found => ?_
  cases found with
  | none => exact .pure _
  | some session =>
      refine .bind (.ite (.bind (recordSessionFailure_failuresKept hreading hwindow hfits scope)
        fun _ => .pure _) (.pure _)) fun _ => .bind ?_ fun _ => ?_
      · exact failuresKept_of_writes [.sessions, .events] (by decide)
          (writes_recordReconciliationState _ _ _ _ _)
      · exact failuresKept_of_writes [.sessions, .agents, .sessionCredentials, .events] (by decide)
          (writes_recordLifecycle _ _ _ _ _ _)

/-- So does the end of the foreground process. -/
theorem observeForegroundEnded_failuresKept (runId : RunId) (scope : SessionScope)
    (ended : ForegroundEnd) :
    Tx.Keeps (FailuresKept policy now) (observeForegroundEnded runId scope ended now policy) := by
  refine .bind (.read _) fun _ => .bind (.okOr _ _) fun session => .ite (.pure _) (.bind ?_ fun _ =>
    .bind (.bind (.read _) fun _ => .ite
      (.bind (recordSessionFailure_failuresKept hreading hwindow hfits scope) fun _ => .pure _)
      (.pure _)) fun _ => .bind ?_ fun _ => ?_)
  · exact failuresKept_of_writes [.sessions, .events] (by decide)
      (writes_recordReconciliationState _ _ _ _ _)
  · exact failuresKept_of_writes [.sessions, .agents, .sessionCredentials, .events] (by decide)
      (writes_recordLifecycle _ _ _ _ _ _)
  · exact failuresKept_of_writes [.operations, .events] (by decide)
      (writes_recordForegroundOperation _ _ _ _)

end Kept

/-! ## Every sequence of reports -/

/-- A report of a failure: its clock reading, and the policy it is made with. -/
structure FailureCall where
  now : Int
  policy : SupervisionPolicy

/-- A call of `record_session_failure` on its own, or a transaction of the supervisor. -/
inductive FailureStep where
  | recordSessionFailure (scope : SessionScope) (now : Int) (policy : SupervisionPolicy)
  | command (command : Command)

namespace FailureStep

/-- The database after a step. -/
def exec : FailureStep → Db → Db
  | .recordSessionFailure scope now policy, db =>
      ((Tx.transaction (Coterie.recordSessionFailure scope now policy)).run db).2
  | .command transaction, db => transaction.exec db

/-- The call with which a step may report a failure. -/
def call : FailureStep → Option FailureCall
  | .recordSessionFailure _ now policy => some { now, policy }
  | .command (.recordObservation _ _ observedAt policy) => some { now := observedAt, policy }
  | .command (.observeForegroundEnded _ _ _ observedAt policy) =>
      some { now := observedAt, policy }
  | .command _ => none

/-- Failures are reported with the policy of the run, at clock readings that do not decrease. -/
def Timed (policy : SupervisionPolicy) (db : Db) (step : FailureStep) : Prop :=
  ∀ call ∈ step.call, call.policy = policy ∧ ClockReading call.now ∧
    ∀ row ∈ db.sessionFailures, row.failedAt ≤ call.now

instance (policy : SupervisionPolicy) (db : Db) (step : FailureStep) :
    Decidable (step.Timed policy db) :=
  inferInstanceAs (Decidable (∀ call ∈ step.call, _))

end FailureStep

/-- A run of reports and other transactions. -/
def failureMachine (db : Db) : Machine Db FailureStep where
  start := db
  step step db := step.exec db

theorem Command.exec_sessionFailures {command : Command}
    (h : .sessionFailures ∉ command.writes) (db : Db) :
    (command.exec db).sessionFailures = db.sessionFailures :=
  command.exec_writesOnly db .sessionFailures h

/-- A step keeps the ledger of failures. -/
theorem FailureStep.Timed.ledger {policy : SupervisionPolicy} {db : Db} {step : FailureStep}
    (hwindow : 0 < policy.restartWindowSeconds)
    (hfits : policy.restartWindowSeconds ≤ i64Max / 1000) (h : step.Timed policy db)
    (hledger : FailureLedger policy db.sessionFailures) :
    FailureLedger policy (step.exec db).sessionFailures := by
  cases step with
  | recordSessionFailure scope now policy' =>
      obtain ⟨rfl, hreading, hupTo⟩ := h _ rfl
      have hkeeps := (recordSessionFailure_failuresKept hreading hwindow hfits scope).transaction db
      exact (hkeeps ⟨hledger, hupTo⟩).ledger
  | command transaction =>
      cases transaction
      case recordObservation scope observation observedAt policy' =>
        obtain ⟨rfl, hreading, hupTo⟩ := h _ rfl
        have hkeeps :=
          (recordObservation_failuresKept hreading hwindow hfits scope observation).transaction db
        exact (hkeeps ⟨hledger, hupTo⟩).ledger
      case observeForegroundEnded runId scope ended observedAt policy' =>
        obtain ⟨rfl, hreading, hupTo⟩ := h _ rfl
        have hkeeps :=
          (observeForegroundEnded_failuresKept hreading hwindow hfits runId scope ended).transaction db
        exact (hkeeps ⟨hledger, hupTo⟩).ledger
      all_goals
        dsimp only [exec]
        rw [Command.exec_sessionFailures (by dsimp only [Command.writes]; decide)]
        exact hledger

/-- The law of the crash-loop quarantine in one state. -/
structure CrashLoopLaw (policy : SupervisionPolicy) (db : Db) : Prop where
  /-- A session fails once. -/
  distinct : (db.sessionFailures.map (·.sessionId)).Nodup
  /-- A failure quarantines its agent when the window up to it is full, until that is over. -/
  covers : ∀ before row after, db.sessionFailures = before ++ row :: after →
    ∀ time, ClockReading time →
      (row.covers time ↔
        policy.maxLaunchAttempts ≤ failuresIn (before ++ [row]) row.runId row.agentId
            (row.failedAt - policy.restartWindowSeconds) row.failedAt ∧
          time < row.failedAt + policy.restartWindowSeconds)
  /-- A new foreground launch is refused while a failure of the agent covers the time. -/
  refused : ∀ config runId role now agent,
    (db.agentsOf runId).find? (·.role == role) = some agent →
      ((∃ untilTime, db.foregroundQuarantine runId role now = some untilTime ∧
          (admitNewForeground config runId role now).run db =
            (.error (conflict s!"the foreground session is quarantined after repeated failures; retry after Unix timestamp {untilTime} and inspect its events"), db)) ↔
        ∃ row ∈ db.sessionFailures, row.runId = runId ∧ row.agentId = agent.id ∧ row.covers now)
  /-- A report about a superseded generation changes nothing. -/
  fenced : ∀ scope now, db.sessionScopeIsCurrent scope = false →
    (recordSessionFailure scope now policy).run db = (.ok false, db)
  /-- Nor does a second report about a session. -/
  replayed : ∀ scope now, db.sessionFailures.any (·.sessionId == scope.sessionId) = true →
    ∃ quarantined, (recordSessionFailure scope now policy).run db = (.ok quarantined, db)
  /-- The first report about a session records its failure and says whether the window is full. -/
  first : ∀ scope now, db.sessionScopeIsCurrent scope = true →
    db.sessionFailures.any (·.sessionId == scope.sessionId) = false →
      ClockReading now → (∀ row ∈ db.sessionFailures, row.failedAt ≤ now) →
        ∃ quarantined db' untilTime,
          (recordSessionFailure scope now policy).run db = (.ok quarantined, db') ∧
            db'.sessionFailures = db.sessionFailures ++ [scope.failure now untilTime] ∧
            (quarantined = true ↔ policy.maxLaunchAttempts ≤
              failuresIn db'.sessionFailures scope.runId scope.agentId
                (now - policy.restartWindowSeconds) now)

/-- An agent is quarantined while a recorded failure of it covers the time. -/
theorem agentQuarantineUntil_isSome {db : Db} {runId : RunId} {agentId : AgentId} {now : Int} :
    (∃ untilTime, db.agentQuarantineUntil runId agentId now = some untilTime) ↔
      ∃ row ∈ db.sessionFailures, row.runId = runId ∧ row.agentId = agentId ∧ row.covers now := by
  unfold Db.agentQuarantineUntil
  rw [← Option.isSome_iff_exists, List.isSome_max?_iff]
  constructor
  · intro hsome
    obtain ⟨untilTime, hmem⟩ := List.exists_mem_of_ne_nil _ hsome
    obtain ⟨row, hrow, hcover⟩ := List.mem_filterMap.mp hmem
    split at hcover
    · next hagent =>
        rw [Bool.and_eq_true, beq_iff_eq, beq_iff_eq] at hagent
        obtain ⟨huntil, hlt⟩ := Option.filter_eq_some_iff.mp hcover
        exact ⟨row, hrow, hagent.1, hagent.2, untilTime, huntil, of_decide_eq_true hlt⟩
    · cases hcover
  · rintro ⟨row, hrow, hrun, hagent, untilTime, huntil, hlt⟩
    refine List.ne_nil_of_mem (a := untilTime) (List.mem_filterMap.mpr ⟨row, hrow, ?_⟩)
    rw [if_pos (by simp [hrun, hagent]), huntil]
    exact Option.filter_eq_some_iff.mpr ⟨rfl, decide_eq_true hlt⟩

/-- For every admitted policy, from a state without failures, and after every sequence of failure
    reports, replayed and superseded ones included, and of other transactions, with clock readings
    that do not decrease: the crash-loop quarantine is a sliding window. -/
theorem crash_loop_window {input : SupervisionOverrides} {bounds : SupervisionBounds}
    (hpolicy : resolveSupervision compiledDefaults.supervision input = .ok bounds) {db : Db}
    (hnone : db.sessionFailures = []) {steps : List FailureStep}
    (hmeets : (failureMachine db).Meets
      (fun db step => step.Timed bounds.toSupervisionPolicy db) db steps) :
    CrashLoopLaw bounds.toSupervisionPolicy ((failureMachine db).run steps) := by
  obtain ⟨hwindow, hfits, -, -⟩ := resolveSupervision_restarts hpolicy
  have hledger : FailureLedger bounds.toSupervisionPolicy
      ((failureMachine db).run steps).sessionFailures := by
    refine Machine.invariant_runFrom
      (I := fun db => FailureLedger bounds.toSupervisionPolicy db.sessionFailures) ?_ ?_ hmeets
    · intro db step hledger htimed
      exact htimed.ledger hwindow hfits hledger
    · rw [hnone]
      exact .nil
  generalize (failureMachine db).run steps = db at hledger
  refine
    { distinct := hledger.distinct
      covers := fun before row after hrows time htime => hledger.covers_iff hrows htime
      refused := ?_
      fenced := fun scope now hstale => recordSessionFailure_fenced hstale
      replayed := ?_
      first := ?_ }
  · intro config runId role now agent hagent
    rw [← agentQuarantineUntil_isSome]
    have hquarantine : db.foregroundQuarantine runId role now =
        db.agentQuarantineUntil runId agent.id now := by
      unfold Db.foregroundQuarantine
      rw [hagent]
      rfl
    rw [← hquarantine]
    constructor
    · rintro ⟨untilTime, huntil, -⟩
      exact ⟨untilTime, huntil⟩
    · rintro ⟨untilTime, huntil⟩
      refine ⟨untilTime, huntil, ?_⟩
      rw [admitNewForeground, Tx.run_bind, Tx.run_read, huntil]
      rfl
  · intro scope now hknown
    cases hcurrent : db.sessionScopeIsCurrent scope with
    | false => exact ⟨false, recordSessionFailure_fenced hcurrent⟩
    | true => exact ⟨_, recordSessionFailure_replayed hcurrent hknown⟩
  · intro scope now hcurrent hknown hreading hupTo
    obtain ⟨db', hrun, hrows⟩ :=
      recordSessionFailure_first now bounds.toSupervisionPolicy hcurrent hknown
    refine ⟨_, db', _, hrun, hrows, ?_⟩
    have hloops := loops_eq scope hreading hwindow hfits hupTo
      (if scope.loops now bounds.toSupervisionPolicy db then
        some (saturate (now + bounds.restartWindowSeconds)) else none)
    rw [Bool.eq_iff_iff, decide_eq_true_eq] at hloops
    rw [hrows]
    exact hloops

/-- The session of each generation of a lead. -/
def relaunchedScope (generation : Nat) : SessionScope where
  runId := ⟨"run-1"⟩
  agentId := ⟨"agent-1"⟩
  sessionId := ⟨s!"session-{generation}"⟩
  generation := generation

/-- A launch of the lead whose process cannot be started, as it is reported two seconds later and
    again after three. -/
def failedLead (now : Int) (generation : Nat) : List FailureStep :=
  [.command (.launchForeground
      { operationId := ⟨s!"op-{generation}"⟩, runId := ⟨"run-1"⟩, caller := none, now }
      { role := "lead", provider := "codex", agentId := ⟨"agent-1"⟩,
        sessionId := (relaunchedScope generation).sessionId, tokenVerifier := [] }),
   .command (.observeForegroundEnded ⟨"run-1"⟩ (relaunchedScope generation) .launchFailed (now + 2)
      compiledDefaults.supervision.toSupervisionPolicy),
   .recordSessionFailure (relaunchedScope generation) (now + 3)
      compiledDefaults.supervision.toSupervisionPolicy]

/-- Four launches of a lead, the last one after the quarantine, and a late report about the
    first. -/
def relaunchedLead : List FailureStep :=
  [10, 20, 30, 100].zipIdx.flatMap (fun (now, generation) => failedLead now generation) ++
    [.recordSessionFailure (relaunchedScope 0) 104 compiledDefaults.supervision.toSupervisionPolicy]

/-- The third failure fills the window of 60 seconds. -/
theorem crash_loop_window_relaunched :
    CrashLoopLaw compiledDefaults.supervision.toSupervisionPolicy
        ((failureMachine (storeMachine.run (spawnedWorker.take 1))).run relaunchedLead) ∧
      ((failureMachine (storeMachine.run (spawnedWorker.take 1))).run
          relaunchedLead).sessionFailures.map (fun row => (row.failedAt, row.quarantineUntil)) =
        [(12, none), (22, none), (32, some 92), (102, none)] := by
  have hpolicy : resolveSupervision compiledDefaults.supervision {} =
      .ok compiledDefaults.supervision := rfl
  exact ⟨crash_loop_window hpolicy (by decide +kernel) (by decide +kernel), by decide +kernel⟩

end Coterie
