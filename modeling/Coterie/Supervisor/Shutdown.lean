/-
  Coterie.Supervisor.Shutdown

  Stopping a run and recovering it (`supervisor.rs`: `begin_shutdown`, `progress_shutdown_inner`,
  `persist_shutdown`; `supervisor/idle.rs`; `supervisor/run_recovery.rs`: `reactivate`), and the
  supervisor as a machine: requests, replays, polls and restarts in every order, each with a point
  at which the process may die.

  A poll of the shutdown starts here where it looks up the recorded stop.  What it does before, the
  reconciliation of unknown sessions and the controls of live ones, are commands of their own.
-/

import Coterie.Supervisor.Launch
import Coterie.Supervisor.Progress

namespace Coterie

/-! ## Beginning -/

namespace Db

/-- A recovery of the run names the operation as the stop that it undid. -/
def stopRecovered (db : Db) (runId : RunId) (operationId : OperationId) : Bool :=
  db.events.any fun event => event.runId == runId && event.eventType == .runRecovered &&
    event.payload.path? ["data", "recovery", "previous_stop_operation_id"] ==
      some (.str operationId.text)

/-- A historical stop remains replayable without stopping its continuation. -/
def recoveredShutdownResult (db : Db) (runId : RunId) (operationId : OperationId) :
    Except StoreError (Option JsonValue) :=
  if db.stopRecovered runId operationId = false then .ok none
  else
    match (db.operation operationId).filter fun operation =>
        operation.runId == runId && operation.kind == "run.stop" &&
          operation.status == .completed with
    | none => .error (.operationConflict operationId)
    | some operation =>
        match operation.result with
        | none => .error (.missingOperationResult operationId)
        | some result =>
            if result = shuttingDownResponse runId operationId then .ok (some result)
            else .error (.operationConflict operationId)

/-- The shutdown of the run is completed. -/
def shutdownCompleted (db : Db) (runId : RunId) : Bool :=
  (db.runShutdown runId).any (·.phase == .completed)

/-- The sessions of a run that are not terminal. -/
def liveSessions (db : Db) (runId : RunId) : List SessionRecord :=
  (db.sessionsOf runId).filter fun session => !session.state.isTerminal

end Db

/-- The transaction that records a stop. -/
def recordStop (config : EffectiveConfig) (runId : RunId) (operationId : OperationId)
    (nowMs : Int) : Repo Unit :=
  beginRunShutdown runId operationId nowMs config.policy.interruptGraceMs
    config.policy.shutdownTimeoutMs

/-- Execute a request to stop the run.  The response is given at once when the stop is already
    completed; otherwise the caller waits for the polls to complete it. -/
def requestStop (config : EffectiveConfig) (runId : RunId) (operationId : OperationId)
    (nowMs : Int) : Program (Option JsonValue) := do
  let recovered ← consult (·.recoveredShutdownResult runId operationId)
  match ← Tx.ofExcept (recovered.mapError fun error => refused (.state error)) with
  | some result => pure (some result)
  | none => do
      transact (recordStop config runId operationId nowMs)
      if ← consult (·.shutdownCompleted runId) then
        pure (some (shuttingDownResponse runId operationId))
      else pure none

/-- The transaction of a poll that finds the run idle for long enough. -/
def recordIdleStop (config : EffectiveConfig) (runId : RunId) (operationId : OperationId)
    (nowMs : Int) : Repo Unit :=
  stopIdleRun runId operationId nowMs config.policy.interruptGraceMs
    config.policy.shutdownTimeoutMs config.supervision.idleTimeoutSeconds

/-! ## Progress -/

/-- The order of the shutdown phases. -/
def ShutdownPhase.rank : ShutdownPhase → Nat
  | .interrupting => 0
  | .terminating => 1
  | .reconciling => 2
  | .timedOut => 3
  | .completed => 4

/-- The later of two phases. -/
def ShutdownPhase.max (phase other : ShutdownPhase) : ShutdownPhase :=
  if phase.rank ≤ other.rank then other else phase

theorem ShutdownPhase.rank_le_max (phase other : ShutdownPhase) :
    other.rank ≤ (phase.max other).rank := by
  unfold ShutdownPhase.max
  split
  · exact Nat.le_refl _
  · next h => omega

/-- The phase that the deadlines of a shutdown call for. -/
def RunShutdown.phaseAt (shutdown : RunShutdown) (nowMs : Int) : ShutdownPhase :=
  if shutdown.deadlineMs ≤ nowMs then .timedOut
  else if shutdown.interruptUntilMs ≤ nowMs then .terminating
  else .interrupting

/-- Inspect a workspace that outlives the run; one whose assignment is retired is passed over. -/
def inspectWorkspace (observe : WorkspaceRecord → ExternalResourceState) (reconciledAt : Int)
    (workspace : WorkspaceRecord) : Program Unit := do
  match (← Tx.read fun rt => ((workspaceRecords workspace.scope).run rt.db).1) with
  | .error (.state (.staleAssignment _)) => pure ()
  | .error error => throw (refused error)
  | .ok _ => transact (recordWorkspaceState workspace (observe workspace) reconciledAt)

/-- Inspects shutdown survivors without materializing missing workspaces. -/
def reconcileForShutdown (runId : RunId) (observe : WorkspaceRecord → ExternalResourceState)
    (reconciledAt : Int) : Program Unit := do
  let workspaces ← consult fun db => db.workspaces.filter (·.runId == runId)
  Tx.each (inspectWorkspace observe reconciledAt) workspaces

/-- The context of a stop that was never begun. -/
def stopContext (runId : RunId) (operationId : OperationId) (stoppedAt : Int) : RequestContext where
  operationId := operationId
  runId := runId
  caller := none
  now := stoppedAt

/-- Stop the run and complete its stop. -/
def completeStop (runId : RunId) (operationId : OperationId) (stoppedAt : Int) :
    Program JsonValue := do
  match ← consult (·.runShutdown runId) with
  | some shutdown =>
      if shutdown.operationId ≠ operationId then
        throw (refused (.state (.operationConflict operationId)))
      else if shutdown.phase = .completed then pure (shuttingDownResponse runId operationId)
      else do
        transact (persistShutdown runId operationId stoppedAt)
        pure (shuttingDownResponse runId operationId)
  | none => do
      let ctx := stopContext runId operationId stoppedAt
      transact (mutated (ctx.mutation "run.stop" (.obj [])) none (stopRunAtOnce ctx))
      pure (shuttingDownResponse runId operationId)

/-- What a poll of the shutdown reads outside the database: the clock, at its start and when the
    run stops, and the states of the worktrees. -/
structure ShutdownHost where
  nowMs : Int
  stoppedAt : Int
  observe : WorkspaceRecord → ExternalResourceState

/-- The refusal of a stop whose deadline is over. -/
def stopTimedOut (runId : RunId) : ProgramError :=
  refused (.rpc .unavailable
    s!"timed out waiting for agent processes before stopping run {runId.text}; launches remain blocked and recoverable work is retained")

/-- One poll of a recorded shutdown that is not completed. -/
def advanceShutdown (runId : RunId) (shutdown : RunShutdown) (host : ShutdownHost) :
    Program (Option JsonValue) := do
  let live ← consult (·.liveSessions runId)
  if live = [] then do
    transact (setShutdownPhase runId .reconciling host.nowMs)
    reconcileForShutdown runId host.observe (host.nowMs.tdiv 1000)
    let response ← completeStop runId shutdown.operationId host.stoppedAt
    pure (some response)
  else do
    let phase := (shutdown.phaseAt host.nowMs).max shutdown.phase
    transact (setShutdownPhase runId phase host.nowMs)
    if phase = .timedOut then throw (stopTimedOut runId) else pure none

/-- One poll of the shutdown; the response of a stop that it completed. -/
def progressShutdown (runId : RunId) (host : ShutdownHost) : Program (Option JsonValue) := do
  match ← consult (·.runShutdown runId) with
  | none => pure none
  | some shutdown =>
      if shutdown.phase = .completed then pure none else advanceShutdown runId shutdown host

/-! ## Recovering a stopped run -/

/-- A request to recover a stopped run, and what it reads outside the database: whether the exit of
    each session and each retained workspace could be verified, and the clock. -/
structure RecoveryCall where
  operationId : OperationId
  reason : String
  requestFingerprint : Option String
  exitVerified : SessionId → Bool
  retained : Except String Unit
  now : Int

namespace RecoveryCall

/-- The context of a recovery's mutation. -/
def ctx (call : RecoveryCall) (runId : RunId) : RequestContext where
  operationId := call.operationId
  runId := runId
  caller := none
  now := call.now

/-- The recorded request of a recovery. -/
def request (call : RecoveryCall) : JsonValue :=
  .obj [("reason", .str call.reason)]

/-- The mutation of a recovery. -/
def mutation (call : RecoveryCall) (runId : RunId) : Mutation :=
  (call.ctx runId).mutation "run.recover" call.request

end RecoveryCall

/-- The transaction of a recovery: the run becomes active again, or the recorded report is
    returned. -/
def recordRecovery (runId : RunId) (call : RecoveryCall) : Repo JsonValue := do
  let outcome ← mutationBody .json (call.mutation runId) call.requestFingerprint
    (recoverRun (call.mutation runId))
  pure (match outcome with
    | .applied result => result
    | .replayed result => result)

/-- The process of every recorded session is verified to be gone. -/
def requireExits (runId : RunId) (exitVerified : SessionId → Bool) : Program Unit := do
  let unverified ← consult fun db => (db.sessionsOf runId).find? fun session =>
    session.providerSessionId.isNone || !exitVerified session.id
  match unverified with
  | none => pure ()
  | some session =>
      throw (refused (conflict
        s!"cannot verify exited process ownership for {session.id.text}; preserve state and inspect `coterie doctor`"))

/-- Reactivate a stopped run, or return the report of a recorded recovery. -/
def requestRecovery (runId : RunId) (call : RecoveryCall) : Program JsonValue := do
  Tx.require (refused (invalidArgument "run recovery requires a nonempty --reason")) fun _ =>
    !isBlank call.reason
  match ← consult (·.operation call.operationId) with
  | some _ => transact (recordRecovery runId call)
  | none => do
      let _ ← Tx.ofExcept ((← consult (·.stoppedRunPreflight runId call.operationId)).mapError
        fun error => refused (.state error))
      requireExits runId call.exitVerified
      Tx.ofExcept (call.retained.mapError fun message => refused (.workspace message))
      transact (recordRecovery runId call)

/-! ## The machine -/

/-- What happens to the supervisor. -/
inductive SupervisorInput where
  /-- A request to spawn an agent. -/
  | spawn (call : SpawnCall) (host : SpawnHost)
  /-- A request to launch the foreground agent. -/
  | launchForeground (call : ForegroundCall)
  /-- The reconciliation of recorded operations, periodic or at a start. -/
  | reconcile (hosts : OperationId → SpawnHost) (reconciledAt : Int)
  /-- A request to stop the run. -/
  | stop (operationId : OperationId) (nowMs : Int)
  /-- A supervisor that is started to stop the run. -/
  | startStopping (operationId : OperationId) (nowMs : Int)
  /-- A poll that finds the run idle for long enough. -/
  | idle (operationId : OperationId) (nowMs : Int)
  /-- A poll of the shutdown. -/
  | progress (host : ShutdownHost)
  /-- A request to recover the stopped run. -/
  | recover (call : RecoveryCall)
  /-- Any other transaction. -/
  | other (command : Command)

/-- The transactions that the supervisor begins on their own.  The others belong to the requests
    and polls above, except that no request claims a task by itself and that the repositories are
    not called from outside; what the reconciler knows about a session is never that its launch is
    still desired. -/
def Command.alone : Command → Bool
  | .startRun .. | .attachProject .. | .completeProjectAttachment .. | .recordOperationState ..
  | .createTask .. | .transitionTask .. | .recoverTask .. | .submitRetained ..
  | .resubmitTask .. | .recordObservation .. | .requestControls .. | .setControlPhase ..
  | .markControlDelivered .. | .observeForegroundStarted .. | .observeForegroundEnded ..
  | .recordWorkspaceState .. | .recordResultCommit .. | .integrateWorkspace ..
  | .recordIntegration .. | .sendMessage .. | .acknowledgeMessages .. => true
  | .recordReconciliation _ state lifecycle _ => state != .desired && lifecycle != .starting
  | .claimTask .. | .spawnAgent .. | .recordSpawnFailure .. | .completeSpawn ..
  | .persistLaunchIntent .. | .admitSessionLaunch .. | .replaceDesiredSessionCredential ..
  | .recordFailedLaunch .. | .recordLaunchObservation .. | .launchForeground ..
  | .reclaimForegroundLaunch .. | .beginRunShutdown .. | .stopIdleRun ..
  | .setShutdownPhase .. | .persistShutdown .. | .stopRunAtOnce .. | .recoverRun ..
  | .recordSessionLaunchObservation .. | .recordSessionReconciliationState ..
  | .recordSessionLifecycle .. | .activateSessionCredential .. => false

/-- The program of an input. -/
def SupervisorInput.program (config : EffectiveConfig) (runId : RunId) :
    SupervisorInput → Program Unit
  | .spawn call host => requestSpawn config runId call host
  | .launchForeground call => requestForeground config runId call
  | .reconcile hosts reconciledAt => reconcileOperations config runId hosts reconciledAt
  | .stop operationId nowMs => do
      let _ ← requestStop config runId operationId nowMs
      pure ()
  | .startStopping operationId nowMs => transact (recordStop config runId operationId nowMs)
  | .idle operationId nowMs => transact (recordIdleStop config runId operationId nowMs)
  | .progress host => do
      let _ ← progressShutdown runId host
      pure ()
  | .recover call => do
      let _ ← requestRecovery runId call
      pure ()
  | .other command => if command.alone = true then transact command.body else pure ()

/-- An input, and the steps that the process takes before it dies. -/
structure SupervisorStep where
  input : SupervisorInput
  power : Nat

/-- The supervisor of a run under every order of inputs and every point of failure. -/
def supervisorMachine (config : EffectiveConfig) (runId : RunId) :
    Machine Runtime SupervisorStep where
  start := .empty
  step := fun step rt => (step.input.program config runId).exec step.power rt

end Coterie
