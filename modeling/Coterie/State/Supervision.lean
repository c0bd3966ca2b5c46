/-
  Coterie.State.Supervision

  Bounded supervision of sessions and runs (`state/supervision.rs`, `state/run_recovery.rs`):
  launch admission, crash-loop quarantine, session controls, the shutdown of a run and the
  reactivation of a stopped one.
-/

import Coterie.State.Workspaces
import Mathlib.Algebra.Group.Int.Defs

namespace Coterie

/-- The limits of a run's effective configuration that supervision reads. -/
structure SupervisionPolicy where
  restartWindowSeconds : Int
  maxLaunchAttempts : Int
  restartBackoffSeconds : Int
  startupTimeoutSeconds : Int
  jobTimeoutSeconds : Int
  interruptGraceMs : Int
  shutdownTimeoutMs : Int
deriving DecidableEq, Repr

/-- The greatest and the least value of a signed 64-bit integer. -/
def i64Max : Int := 2 ^ 63 - 1
def i64Min : Int := -2 ^ 63

/-- An integer of the database. -/
def isI64 (value : Int) : Bool :=
  decide (i64Min ≤ value) && decide (value ≤ i64Max)

/-- Bring a result back into the range of signed 64-bit integers. -/
def saturate (value : Int) : Int :=
  max i64Min (min i64Max value)

/-- An event of the supervisor itself. -/
def supervisionEvent (runId : RunId) (kind : EventKind) (subject : String)
    (agentId : Option AgentId) (operationId : Option OperationId) (data : JsonValue)
    (nowMs : Int) : Repo Unit :=
  appendEvent
    { runId, kind, actor := "supervisor", subject, agentId, operationId, data,
      createdAt := nowMs.tdiv 1000 }

/-! ## Launch admission -/

/-- Whether a session intent may be launched now. -/
inductive LaunchAdmission where
  | allowed
  | backoff (untilTime : Int)
  | quarantined
  | unknown
deriving DecidableEq, Repr

namespace Db

/-- The admitted launches of a session intent. -/
def launchAttempts (db : Db) (sessionId : SessionId) : Option SessionLaunchAttempts :=
  db.sessionLaunchAttempts.find? (·.sessionId == sessionId)

/-- Write the launch row of a session, replacing the columns of an existing one. -/
def putLaunchAttempts (db : Db) (row : SessionLaunchAttempts) : Db :=
  if db.sessionLaunchAttempts.any (·.sessionId == row.sessionId) then
    { db with
      sessionLaunchAttempts := Table.updateWhere (·.sessionId == row.sessionId)
        (fun old =>
          { old with
            windowStartedAt := row.windowStartedAt
            attempts := row.attempts
            nextAttemptAt := row.nextAttemptAt
            inFlight := true })
        db.sessionLaunchAttempts }
  else { db with sessionLaunchAttempts := db.sessionLaunchAttempts ++ [row] }

end Db

/-- What the recorded launches of an intent decide: a verdict, or the window and the number of
    attempts from which the next launch counts. -/
def launchWindow (previous : Option SessionLaunchAttempts) (now : Int)
    (policy : SupervisionPolicy) : Except LaunchAdmission (Int × Int) :=
  match previous with
  | none => .ok (now, 0)
  | some row =>
      if row.quarantined then .error .quarantined
      else if row.inFlight then .error .unknown
      else if now < row.nextAttemptAt then .error (.backoff row.nextAttemptAt)
      else if policy.restartWindowSeconds ≤ saturate (now - row.windowStartedAt) then .ok (now, 0)
      else if policy.maxLaunchAttempts ≤ row.attempts then .error .quarantined
      else .ok (row.windowStartedAt, row.attempts)

/-- Mark a launch of the intent as in flight, or say why it may not start. -/
def admitSessionLaunch (scope : SessionScope) (now : Int) (policy : SupervisionPolicy) :
    Repo LaunchAdmission := do
  if ¬ (← Tx.read (·.sessionScopeIsCurrent scope)) ∨
      (← Tx.read fun db => (db.runShutdown scope.runId).isSome) then
    pure .unknown
  else
    match launchWindow (← Tx.read (·.launchAttempts scope.sessionId)) now policy with
    | .error admission => pure admission
    | .ok (window, attempts) => do
        let delay :=
          saturate (policy.restartBackoffSeconds * 2 ^ (min attempts 20).toNat)
        Tx.write (·.putLaunchAttempts
          { sessionId := scope.sessionId
            runId := scope.runId
            agentId := scope.agentId
            generation := scope.generation
            windowStartedAt := window
            attempts := attempts + 1
            nextAttemptAt := saturate (now + delay)
            inFlight := true
            quarantined := false })
        pure .allowed

/-- Clear the in-flight mark after an error that proves that no process was started. -/
def failSessionLaunch (scope : SessionScope) (now : Int) (policy : SupervisionPolicy) :
    Repo Bool := do
  if ¬ (← Tx.read (·.sessionScopeIsCurrent scope)) then pure false
  else do
    Tx.write fun db =>
      { db with
        sessionLaunchAttempts := Table.updateWhere (·.sessionId == scope.sessionId)
          (fun row =>
            { row with
              inFlight := false, quarantined := policy.maxLaunchAttempts ≤ row.attempts })
          db.sessionLaunchAttempts }
    let row ← Tx.okOr (.database (.check "session_launch_attempts row"))
      (← Tx.read (·.launchAttempts scope.sessionId))
    Tx.when row.quarantined
      (supervisionEvent scope.runId .sessionRestartLimited scope.sessionId.text
        (some scope.agentId) none
        (.obj [("attempts", .num policy.maxLaunchAttempts), ("generation", .num scope.generation),
          ("reason", .str "launch_failures"),
          ("window_seconds", .num policy.restartWindowSeconds)])
        (saturate (now * 1000)))
    pure row.quarantined

/-- The last launch of the intent is known to have started nothing, and another is allowed. -/
def Db.sessionLaunchIsRetryable (db : Db) (scope : SessionScope) : Bool :=
  db.sessionScopeIsCurrent scope &&
    (db.launchAttempts scope.sessionId).any fun row => !row.inFlight && !row.quarantined

/-! ## Crash loops -/

/-- Until when recorded failures keep an agent from being replaced. -/
def Db.agentQuarantineUntil (db : Db) (runId : RunId) (agentId : AgentId) (now : Int) :
    Option Int :=
  (db.sessionFailures.filterMap fun row =>
      if row.runId == runId && row.agentId == agentId then
        row.quarantineUntil.filter fun untilTime => decide (now < untilTime)
      else none).max?

/-- The failures of an agent inside the window that ends now. -/
def Db.recentFailures (db : Db) (runId : RunId) (agentId : AgentId) (now : Int)
    (policy : SupervisionPolicy) : Nat :=
  db.sessionFailures.countP fun row =>
    row.runId == runId && row.agentId == agentId &&
      decide (saturate (now - policy.restartWindowSeconds) < row.failedAt)

/-- Record the failure of a session once, and report whether the agent is in a crash loop. -/
def recordSessionFailure (scope : SessionScope) (now : Int) (policy : SupervisionPolicy) :
    Repo Bool := do
  if ¬ (← Tx.read (·.sessionScopeIsCurrent scope)) then pure false
  else if ← Tx.read fun db => db.sessionFailures.any (·.sessionId == scope.sessionId) then
    Tx.read fun db => (db.agentQuarantineUntil scope.runId scope.agentId now).isSome
  else do
    Tx.write fun db =>
      { db with
        sessionFailures := db.sessionFailures ++
          [{ sessionId := scope.sessionId, runId := scope.runId, agentId := scope.agentId,
             failedAt := now, quarantineUntil := none }] }
    let failures ← Tx.read (·.recentFailures scope.runId scope.agentId now policy)
    if policy.maxLaunchAttempts ≤ failures then do
      let untilTime := saturate (now + policy.restartWindowSeconds)
      Tx.write fun db =>
        { db with
          sessionFailures := Table.updateWhere (·.sessionId == scope.sessionId)
            (fun row => { row with quarantineUntil := some untilTime }) db.sessionFailures }
      supervisionEvent scope.runId .sessionRestartLimited scope.sessionId.text (some scope.agentId)
        none
        (.obj [("failures", .num failures), ("generation", .num scope.generation),
          ("quarantine_until", .num untilTime), ("reason", .str "process_failures"),
          ("window_seconds", .num policy.restartWindowSeconds)])
        (saturate (now * 1000))
      pure true
    else pure false

/-- Stops retrying a spawn whose preflight never established a session. -/
def quarantineUnstartedAgent (runId : RunId) (agentId : AgentId) (operationId : OperationId)
    (now : Int) : Repo Unit := do
  match ← Tx.read (·.agent agentId) with
  | none => pure ()
  | some agent =>
      if agent.runId ≠ runId ∨ agent.state ≠ .starting ∨
          (← Tx.read fun db => (db.latestSessionForAgent runId agentId).isSome) then
        pure ()
      else do
        Tx.write fun db =>
          { db with
            agents := Table.updateWhere
              (fun row => row.id == agentId && row.runId == runId &&
                row.generation == agent.generation)
              (fun row => { row with state := .quarantined }) db.agents }
        supervisionEvent runId .agentLifecycleChanged agentId.text (some agentId)
          (some operationId)
          (.obj [("generation", .num agent.generation), ("previous_state", .str "starting"),
            ("reason", .str "preflight_failures"), ("state", .str "quarantined")])
          (saturate (now * 1000))

/-! ## Draining, controls and shutdown -/

/-- Give short jobs an early warning while capping long-job notice at five minutes. -/
def jobWarningWindow (timeoutSeconds : Int) : Int :=
  max 1 (min 300 (timeoutSeconds.tdiv 10))

/-- Announce once that the deadline of a background job is near. -/
def warnJobDeadline (scope : SessionScope) (deadlineAt nowMs : Int) : Repo Unit := do
  if ¬ (← Tx.read (·.sessionScopeIsCurrent scope)) ∨
      (← Tx.read fun db => db.events.any fun event =>
        event.runId == scope.runId && event.eventType == .sessionDeadlineApproaching &&
          event.subject == scope.sessionId.text &&
          event.payload.path? ["data", "generation"] == some (.num scope.generation)) then
    pure ()
  else
    supervisionEvent scope.runId .sessionDeadlineApproaching scope.sessionId.text
      (some scope.agentId) none
      (.obj [("deadline_at", .num deadlineAt), ("generation", .num scope.generation)]) nowMs

/-- Mark an active assignment as draining, keeping its task and workspace. -/
def drainAssignment (assignment : AssignmentRecord) (nowMs : Int) : Repo Unit := do
  if assignment.state = .draining then pure ()
  else do
    Tx.write fun db =>
      { db with
        assignments := Table.updateWhere
          (fun row => row.id == assignment.id && row.completedAt == none)
          (fun row => { row with state := .draining }) db.assignments }
    appendEvent
      { runId := assignment.runId
        kind := .assignmentLifecycleChanged
        actor := "supervisor"
        subject := assignment.id.text
        agentId := some assignment.agentId
        taskId := some assignment.taskId
        data := .obj [("generation", .num assignment.generation),
          ("previous_state", .str assignment.state.asStr), ("state", .str "draining")]
        createdAt := nowMs.tdiv 1000 }

/-- Drain the active assignment of an agent, when it has one. -/
def drainAgent (runId : RunId) (agentId : AgentId) (nowMs : Int) : Repo Unit := do
  match ← Tx.read (·.activeAssignmentForAgent runId agentId) with
  | none => pure ()
  | some assignment => drainAssignment assignment nowMs

/-- The controls of a run, by session. -/
def Db.sessionControlsOf (db : Db) (runId : RunId) : List SessionControl :=
  (db.sessionControls.filter (·.scope.runId == runId)).mergeSort fun a b =>
    a.scope.sessionId.text ≤ b.scope.sessionId.text

/-- Record a bounded escalation against a session, once. -/
def requestSessionControl (scope : SessionScope) (reason : ControlReason)
    (nowMs graceMs timeoutMs : Int) : Repo Unit := do
  let interruptUntilMs := saturate (nowMs + graceMs)
  let killAtMs := saturate (nowMs + timeoutMs.tdiv 2)
  let deadlineMs := saturate (nowMs + timeoutMs)
  if ¬ (← Tx.read (·.sessionScopeIsCurrent scope)) then pure ()
  -- `INSERT OR IGNORE` passes over a duplicate row and over one that violates the check.
  else if (← Tx.read fun db => db.sessionControls.any (·.scope.sessionId == scope.sessionId)) ∨
      ¬ (nowMs ≤ interruptUntilMs ∧ interruptUntilMs ≤ killAtMs ∧ killAtMs < deadlineMs) then
    pure ()
  else do
    Tx.write fun db =>
      { db with
        sessionControls := db.sessionControls ++
          [{ scope, reason, phase := .interrupt, delivered := false, requestedAtMs := nowMs,
             interruptUntilMs, killAtMs, deadlineMs }] }
    drainAgent scope.runId scope.agentId nowMs
    supervisionEvent scope.runId .sessionControlChanged scope.sessionId.text (some scope.agentId)
      none
      (.obj [("generation", .num scope.generation), ("phase", .str ControlPhase.interrupt.asStr),
        ("reason", .str reason.asStr)])
      nowMs

/-- Move a recorded control to another phase. -/
def setControlPhase (control : SessionControl) (phase : ControlPhase) (nowMs : Int) :
    Repo Unit := do
  if ¬ (← Tx.read (·.sessionScopeIsCurrent control.scope)) ∨ phase = control.phase then pure ()
  else do
    Tx.write fun db =>
      { db with
        sessionControls := Table.updateWhere
          (·.scope.sessionId == control.scope.sessionId)
          (fun row => { row with phase := phase, delivered := false }) db.sessionControls }
    supervisionEvent control.scope.runId .sessionControlChanged control.scope.sessionId.text
      (some control.scope.agentId) none
      (.obj [("generation", .num control.scope.generation), ("phase", .str phase.asStr),
        ("previous_phase", .str control.phase.asStr), ("reason", .str control.reason.asStr)])
      nowMs

/-- Record that the signal of the current phase was delivered. -/
def markControlDelivered (control : SessionControl) : Repo Unit := do
  if ← Tx.read (·.sessionScopeIsCurrent control.scope) then
    Tx.write fun db =>
      { db with
        sessionControls := Table.updateWhere
          (fun row => row.scope.sessionId == control.scope.sessionId && row.phase == control.phase)
          (fun row => { row with delivered := true }) db.sessionControls }
  else pure ()

/-- Write the row of a run's shutdown. -/
def insertRunShutdown (shutdown : RunShutdown) : Repo Unit := do
  constraint (.unique "run_shutdowns.run_id") fun db =>
    !db.runShutdowns.any (·.runId == shutdown.runId)
  constraint (.unique "run_shutdowns.operation_id") fun db =>
    !db.runShutdowns.any (·.operationId == shutdown.operationId)
  constraint (.check "run_shutdowns") fun _ =>
    shutdown.requestedAtMs ≤ shutdown.interruptUntilMs &&
      shutdown.interruptUntilMs < shutdown.deadlineMs
  constraint (.foreignKey "run_shutdowns.run_id, operation_id") fun db =>
    db.operations.any fun row => row.id == shutdown.operationId && row.runId == shutdown.runId
  Tx.write fun db => { db with runShutdowns := db.runShutdowns ++ [shutdown] }

/-- The pending operation of an orderly stop. -/
def runStopOperation (runId : RunId) (operationId : OperationId) (nowMs : Int) :
    OperationRecord where
  id := operationId
  runId := runId
  kind := "run.stop"
  actorAgentId := none
  status := .pending
  request := .obj []
  result := none
  attemptCount := 1
  reconciliationState := some .desired
  reconciliationAttemptCount := 0
  reconciliationError := none
  reconciledAt := none
  createdAt := nowMs.tdiv 1000
  updatedAt := nowMs.tdiv 1000

/-- Open the operation of a stop with its shutdown row, and drain the assignments of the run. -/
def openRunShutdown (runId : RunId) (operationId : OperationId)
    (nowMs graceMs timeoutMs : Int) : Repo Unit := do
  insertOperation (runStopOperation runId operationId nowMs)
  insertRunShutdown
    { runId, operationId, phase := .interrupting, requestedAtMs := nowMs,
      interruptUntilMs := saturate (nowMs + graceMs),
      deadlineMs := saturate (nowMs + timeoutMs) }
  supervisionEvent runId .runShutdownChanged runId.text none (some operationId)
    (.obj [("phase", .str ShutdownPhase.interrupting.asStr)]) nowMs
  Tx.each (fun agent => drainAgent runId agent.id nowMs) (← Tx.read (·.agentsOf runId))

/-- Record the intent to stop a run. -/
def beginRunShutdown (runId : RunId) (operationId : OperationId)
    (nowMs graceMs timeoutMs : Int) : Repo Unit := do
  match ← Tx.read (·.runShutdown runId) with
  | some shutdown =>
      if shutdown.operationId = operationId then pure ()
      else throw (.operationConflict operationId)
  | none => do
      Tx.require (.operationConflict operationId) fun db => (db.operation operationId).isNone
      Tx.require (.runNotActive runId) (·.runIsActive runId)
      openRunShutdown runId operationId nowMs graceMs timeoutMs

/-- Move the recorded shutdown to another phase. -/
def setShutdownPhase (runId : RunId) (phase : ShutdownPhase) (nowMs : Int) : Repo Unit := do
  match ← Tx.read (·.runShutdown runId) with
  | none => pure ()
  | some shutdown =>
      if shutdown.phase = phase ∨ shutdown.phase = .completed then pure ()
      else do
        Tx.write fun db =>
          { db with
            runShutdowns := Table.updateWhere (·.runId == runId)
              (fun row => { row with phase := phase }) db.runShutdowns }
        supervisionEvent runId .runShutdownChanged runId.text none (some shutdown.operationId)
          (.obj [("phase", .str phase.asStr), ("previous_phase", .str shutdown.phase.asStr)])
          nowMs

/-- The row of an operation whose shutdown completed. -/
def OperationRow.complete (row : OperationRow) (response : JsonValue) (updatedAt : Int) :
    OperationRow :=
  { row with status := .completed, result := some response, updatedAt := updatedAt }

/-- Complete a recorded shutdown and store the response of its operation. -/
def finishShutdown (shutdown : RunShutdown) (response : JsonValue) (nowMs : Int) :
    Repo Unit := do
  setShutdownPhase shutdown.runId .completed nowMs
  Tx.write (·.updateOperation shutdown.operationId (·.complete response (nowMs.tdiv 1000)))
  let _ ← recordOperationReconciliation shutdown.operationId .observed none (nowMs.tdiv 1000)

/-- Complete the shutdown of a run. -/
def completeShutdownOperation (runId : RunId) (response : JsonValue) (nowMs : Int) :
    Repo Unit := do
  match ← Tx.read (·.runShutdown runId) with
  | none => throw (.runNotActive runId)
  | some shutdown => finishShutdown shutdown response nowMs

end Coterie
