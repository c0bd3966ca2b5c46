/-
  Coterie.Supervisor.Launch

  Launching agents (`supervisor.rs`: `spawn_agent`, `attempt_spawn_operation`,
  `complete_spawn_operation`, `reconcile_operations`, `launch_foreground`; `supervisor/session.rs`:
  `ensure_existing_launch`, `start_and_record`, `persist_launch_intent`, `advance`).

  A spawn is recorded first and completed afterwards, by the request that recorded it, by a replay
  of that request or by the reconciler.  The answers of the worktree, of the provider and of the
  clock are arguments (`SpawnHost`).  While a supervisor is stopping it also refuses new launches
  before it executes a request, from its memory of the pending stop; the recorded stop, which
  `requireAccepting` reads, refuses them in any case.
-/

import Coterie.Supervisor.Admission
import Coterie.Supervisor.Runtime

namespace Coterie

/-- The limits of session supervision in a configuration. -/
def EffectiveConfig.policy (config : EffectiveConfig) : SupervisionPolicy :=
  config.supervision.toSupervisionPolicy

/-- The refusal of a request, as a program sees it. -/
def refused (error : RequestError) : ProgramError :=
  .request error

/-! ## The provider boundary -/

/-- What the worktree and the provider answer during one attempt to complete a spawn: the state in
    which the worktree was found or created, the name of the probed provider and whether it may run
    the launch, the recorded contract and token of a launch, the start of the process, the events
    that it reports, and the texts of errors. -/
structure SpawnHost where
  materialized : Except String ExternalResourceState
  probe : Except AgentSessionError String
  compatible : Except AgentSessionError Unit
  contract : JsonValue
  tokenVerifier : List UInt8
  job : JobHost
  events : List SessionObservation
  drained : Except AgentSessionError Unit
  failure : ProgramError → String

/-- Start the provider process of a launch and register its handle. -/
def startProvider (scope : SessionScope) (host : SpawnHost) :
    Program (Except AgentSessionError Unit) := do
  let launched := launchJob host.job scope
  act fun rt =>
    { rt with started := if launched.started then rt.started ++ [scope.sessionId] else rt.started }
  match launched.result with
  | .error error => pure (.error (.provider error))
  | .ok handle =>
      if handle.scope ≠ scope then pure (.error (.scopeMismatch scope handle.scope))
      else do
        Tx.write (·.register handle)
        pure (.ok ())

/-- Record the provider session of a registered handle. -/
def recordRegisteredLaunch (sessionId : SessionId) (observedAt : Int) : Program Unit := do
  let handle ← Tx.okOr (.session (.unknownSession sessionId)) (← Tx.read (·.handle sessionId))
  transact (recordLaunchObservation handle.scope handle.providerId observedAt)

/-- What a refused admission answers. -/
def LaunchAdmission.check (admission : LaunchAdmission) (sessionId : SessionId) :
    Except ProgramError Unit :=
  match admission with
  | .allowed => .ok ()
  | .backoff untilTime => .error (.session (.restartLimited sessionId (some untilTime)))
  | .quarantined => .error (.session (.restartLimited sessionId none))
  | .unknown => .error (.session (.unresolvedIntent sessionId .unknown))

/-- Record a start that was not observed: the intent may be launched again only when no process was
    started. -/
def recordUnobservedStart (launch : AgentLaunch) (attemptedAt : Int) (policy : SupervisionPolicy)
    (error : AgentSessionError) : Program Unit :=
  match error with
  | .scopeMismatch _ _ =>
      transact (recordReconciliationIn launch.scope .unknown .unknown launch.createdAt)
  | .provider failure =>
      if failure.provesNoProcessStarted = true then
        transact (recordFailedLaunch launch.scope attemptedAt policy)
      else transact (recordReconciliationIn launch.scope .unknown .unknown attemptedAt)
  | _ => transact (recordReconciliationIn launch.scope .unknown .unknown attemptedAt)

/-- Admit the launch of a recorded intent, start its process and record what was observed. -/
def startAndRecord (launch : AgentLaunch) (attemptedAt : Int) (policy : SupervisionPolicy)
    (host : SpawnHost) : Program Unit := do
  let admission ← transact (admitSessionLaunch launch.scope attemptedAt policy)
  Tx.ofExcept (admission.check launch.scope.sessionId)
  transact (replaceDesiredSessionCredential
    (launch.scope.credential host.tokenVerifier launch.createdAt))
  match ← startProvider launch.scope host with
  | .error error => do
      recordUnobservedStart launch attemptedAt policy error
      throw (.session error)
  | .ok _ => recordRegisteredLaunch launch.scope.sessionId launch.createdAt

/-- The probed provider may run the launch. -/
def probedProvider (host : SpawnHost) : Program String :=
  Tx.ofExcept (host.probe.mapError .session)

/-- Record a new intent and launch it. -/
def launchSession (launch : AgentLaunch) (assignmentId : AssignmentId)
    (policy : SupervisionPolicy) (host : SpawnHost) : Program Unit := do
  let provider ← probedProvider host
  Tx.ofExcept (host.compatible.mapError .session)
  let launch : AgentLaunch :=
    { launch with
      provider := provider, contract := host.contract, tokenVerifier := host.tokenVerifier }
  transact (persistLaunchIntent launch true (some assignmentId))
  startAndRecord launch launch.createdAt policy host

/-- Launch a recorded intent that is still desired. -/
def launchDesired (launch : AgentLaunch) (attemptedAt : Int) (policy : SupervisionPolicy)
    (host : SpawnHost) : Program Unit := do
  Tx.ofExcept (host.compatible.mapError .session)
  match ← Tx.read (·.handle launch.scope.sessionId) with
  | some _ => recordRegisteredLaunch launch.scope.sessionId launch.createdAt
  | none => startAndRecord launch attemptedAt policy host

/-- Completes or reuses one durable launch intent without duplicating it. -/
def ensureExistingLaunch (launch : AgentLaunch) (assignmentId : AssignmentId) (attemptedAt : Int)
    (policy : SupervisionPolicy) (host : SpawnHost) : Program Unit := do
  match ← consult (·.session launch.scope.sessionId) with
  | none => launchSession launch assignmentId policy host
  | some session => do
      let provider ← probedProvider host
      Tx.require (.session (.intentMismatch launch.scope.sessionId)) fun rt =>
        rt.db.sessionScopeIsCurrent launch.scope && session.scope == launch.scope &&
          session.provider == provider
      match session.reconciliationState with
      | .observed =>
          if session.state = .quarantined then
            throw (.session (.restartLimited session.id none))
          else pure ()
      | .desired => launchDesired launch attemptedAt policy host
      | .lost => throw (.session (.unresolvedIntent launch.scope.sessionId .lost))
      | .unknown => throw (.session (.unresolvedIntent launch.scope.sessionId .unknown))

/-- Record the events that the provider of a session reports. -/
def drainAvailableEvents (sessionId : SessionId) (observedAt : Int) (policy : SupervisionPolicy)
    (drained : Except AgentSessionError Unit) : List SessionObservation → Program Unit
  | [] => do
      let handle ← Tx.okOr (.session (.unknownSession sessionId))
        (← Tx.read (·.handle sessionId))
      if ← consult (·.sessionScopeIsCurrent handle.scope) then
        Tx.ofExcept (drained.mapError .session)
      else pure ()
  | observation :: rest => do
      let handle ← Tx.okOr (.session (.unknownSession sessionId))
        (← Tx.read (·.handle sessionId))
      if ← consult (·.sessionScopeIsCurrent handle.scope) then do
        transact (recordObservation handle.scope observation observedAt policy)
        drainAvailableEvents sessionId observedAt policy drained rest
      else pure ()

/-! ## Completing a spawn -/

/-- The intent that a spawn recorded. -/
structure SpawnIntent where
  agentId : AgentId
  sessionId : SessionId
  assignmentId : AssignmentId
  taskId : TaskId
deriving DecidableEq, Repr

/-- Read a recorded intent. -/
def SpawnIntent.ofJson? (json : JsonValue) : Option SpawnIntent := do
  let agentId ← json.text? "agent_id"
  let sessionId ← json.text? "session_id"
  let assignmentId ← json.text? "assignment_id"
  let taskId ← json.text? "task_id"
  return { agentId := ⟨agentId⟩, sessionId := ⟨sessionId⟩, assignmentId := ⟨assignmentId⟩,
           taskId := ⟨taskId⟩ }

/-- What completing a spawn starts from. -/
structure SpawnCompletion where
  operationId : OperationId
  role : String
  intent : SpawnIntent
  createdAt : Int
  reconciledAt : Int
deriving DecidableEq, Repr

namespace SpawnCompletion

/-- The recorded workspace belongs to the assignment of the intent. -/
def owns (completion : SpawnCompletion) (runId : RunId) (workspace : WorkspaceRecord)
    (db : Db) : Bool :=
  workspace.runId == runId &&
    (db.assignment completion.intent.assignmentId).any fun assignment =>
      assignment.runId == runId && assignment.agentId == completion.intent.agentId &&
        assignment.taskId == completion.intent.taskId && assignment.scope == workspace.scope &&
        assignment.sessionId.all (· == completion.intent.sessionId)

/-- The launch of the intent. -/
def launch (completion : SpawnCompletion) (runId : RunId) (workspace : WorkspaceRecord) :
    AgentLaunch where
  scope :=
    { runId := runId
      agentId := completion.intent.agentId
      sessionId := completion.intent.sessionId
      generation := workspace.generation }
  role := completion.role
  provider := ""
  contract := .null
  tokenVerifier := []
  createdAt := completion.createdAt

end SpawnCompletion

/-- Record what the worktree backend found or created for a recorded workspace. -/
def materialize (scope : AssignmentScope) (answer : Except String ExternalResourceState)
    (reconciledAt : Int) : Program ExternalResourceState := do
  let (workspace, _) ← query (workspaceRecords scope)
  match answer with
  | .error message => do
      transact (recordWorkspaceState workspace .unknown reconciledAt)
      throw (refused (.workspace message))
  | .ok state => do
      transact (recordWorkspaceState workspace state reconciledAt)
      pure state

/-- Materialize the workspace of a recorded spawn and launch its session. -/
def launchSpawn (config : EffectiveConfig) (runId : RunId) (completion : SpawnCompletion)
    (workspace : WorkspaceRecord) (host : SpawnHost) : Program Unit := do
  Tx.require (refused (.rpc .internal "the run has no primary project")) fun rt =>
    rt.db.projects.any fun project => project.runId == runId && project.isPrimary
  let state ← materialize workspace.scope host.materialized completion.reconciledAt
  Tx.require (refused (conflict
    s!"workspace `{completion.intent.assignmentId.text}` reconciliation state is `{state.asStr}`"))
    fun _ => state == .observed
  ensureExistingLaunch (completion.launch runId workspace) completion.intent.assignmentId
    completion.reconciledAt config.policy host
  drainAvailableEvents completion.intent.sessionId completion.reconciledAt config.policy
    host.drained host.events
  transact (discard (recordOperationReconciliation completion.operationId .observed none
    completion.reconciledAt))

/-- Complete a recorded spawn, unless it is on record as completed. -/
def completeSpawnOperation (config : EffectiveConfig) (runId : RunId)
    (completion : SpawnCompletion) (host : SpawnHost) : Program Unit := do
  let workspace ← Tx.okOr
    (refused (.rpc .internal "the assignment workspace intent is missing"))
    (← consult (·.workspace completion.intent.assignmentId))
  Tx.require (refused (conflict
    "the spawn intent belongs to another run or assignment generation")) fun rt =>
    completion.owns runId workspace rt.db
  -- A replay must not recreate a historical binding or poll a reaped process.
  if ← consult fun db => (db.operation completion.operationId).any fun operation =>
      operation.reconciliationState == some .observed then
    pure ()
  else launchSpawn config runId completion workspace host

/-- The launch was given up before it had a session. -/
def Db.preflightQuarantined (db : Db) (runId : RunId) (intent : SpawnIntent) : Bool :=
  (db.session intent.sessionId).isNone &&
    (db.agent intent.agentId).any fun agent =>
      agent.runId == runId && agent.state == .quarantined

/-- Try to complete a recorded spawn, and record a failure. -/
def attemptSpawnOperation (config : EffectiveConfig) (runId : RunId)
    (completion : SpawnCompletion) (host : SpawnHost) : Program Unit := do
  Tx.require (refused (conflict
    "the launch is quarantined after repeated preflight failures; inspect its events and preserved workspace"))
    fun rt => !rt.db.preflightQuarantined runId completion.intent
  Tx.tryCatch (completeSpawnOperation config runId completion host) fun failure => do
    transact (recordSpawnFailure runId completion.operationId completion.intent.agentId
      completion.intent.sessionId (host.failure failure) completion.reconciledAt config.policy)
    throw failure

/-! ## Requests -/

/-- The context of a spawn's mutation. -/
def SpawnCall.ctx (call : SpawnCall) (runId : RunId) : RequestContext where
  operationId := call.operationId
  runId := runId
  caller := call.caller.agentId
  now := call.now

/-- The transaction that records a spawn, or finds it recorded. -/
def recordSpawn (ctx : RequestContext) (spawn : SpawnRequest) : Repo JsonValue := do
  let outcome ← mutationBody .json (ctx.mutation "agent.spawn" spawn.request) none
    (Coterie.spawnAgent ctx spawn)
  pure (match outcome with
    | .applied result => result
    | .replayed result => result)

/-- Execute a request to spawn an agent. -/
def requestSpawn (config : EffectiveConfig) (runId : RunId) (call : SpawnCall)
    (host : SpawnHost) : Program Unit := do
  let spawn ← query (admitSpawn config runId call)
  let recorded ← transact (recordSpawn (call.ctx runId) spawn)
  let intent ← Tx.okOr (refused (.state (.encodeJson "agent.spawn")))
    (SpawnIntent.ofJson? recorded)
  attemptSpawnOperation config runId
    { operationId := call.operationId, role := call.role, intent, createdAt := call.now,
      reconciledAt := call.now } host

/-- The context of a foreground launch's mutation. -/
def ForegroundCall.ctx (call : ForegroundCall) (runId : RunId) : RequestContext where
  operationId := call.operationId
  runId := runId
  caller := none
  now := call.now

/-- Read a recorded foreground intent. -/
def LaunchIntent.ofJson? (json : JsonValue) : Option LaunchIntent := do
  let agentId ← json.text? "agent_id"
  let sessionId ← json.text? "session_id"
  let generation ← (json.get? "generation").bind JsonValue.asInt?
  let alreadyActive ← (json.get? "already_active").bind JsonValue.asBool?
  return { agentId := ⟨agentId⟩, sessionId := ⟨sessionId⟩, generation, alreadyActive }

/-- The scope of a recorded foreground intent. -/
def LaunchIntent.scope (intent : LaunchIntent) (runId : RunId) : SessionScope where
  runId := runId
  agentId := intent.agentId
  sessionId := intent.sessionId
  generation := intent.generation

/-- A recorded foreground launch may be claimed again only while it was not attempted. -/
def replayForeground (ctx : RequestContext) (tokenVerifier : List UInt8) (intent : LaunchIntent) :
    Program Unit := do
  let replayable ← transact (reclaimForegroundLaunch ctx (intent.scope ctx.runId) tokenVerifier)
  Tx.require (refused (conflict
    s!"foreground operation `{ctx.operationId.text}` has already attempted its provider launch"))
    fun _ => replayable

/-- Execute a request to launch the foreground agent. -/
def requestForeground (config : EffectiveConfig) (runId : RunId) (call : ForegroundCall) :
    Program Unit := do
  let launch ← query (admitForeground config runId call)
  let ctx := call.ctx runId
  let unreadable := refused (.state (.encodeJson "agent.launch_foreground"))
  match ← transact (mutationBody .json (ctx.mutation "agent.launch_foreground" launch.request)
      none (launchForeground ctx launch)) with
  | .applied recorded => do
      let intent ← Tx.okOr unreadable (LaunchIntent.ofJson? recorded)
      Tx.require (refused (conflict
        s!"foreground session `{intent.sessionId.text}` is already active"))
        fun _ => !intent.alreadyActive
  | .replayed recorded => do
      let intent ← Tx.okOr unreadable (LaunchIntent.ofJson? recorded)
      replayForeground ctx call.tokenVerifier intent
      Tx.require (refused (conflict
        s!"foreground session `{intent.sessionId.text}` is already active"))
        fun _ => !intent.alreadyActive

/-! ## Reconciliation -/

/-- The operations whose external effect is not known to be carried out, oldest first. -/
def Db.operationsRequiringReconciliation (db : Db) (runId : RunId) : List OperationRow :=
  (db.operations.filter fun row =>
    row.runId == runId &&
      (row.reconciliationState == some .desired ||
        row.reconciliationState == some .unknown &&
          (row.kind == "agent.spawn" || row.kind == "workspace.integrate" ||
            row.reconciledAt == none))).mergeSort fun a b =>
    a.createdAt < b.createdAt || (a.createdAt == b.createdAt && decide (a.id.text ≤ b.id.text))

/-- The run has begun to stop. -/
def Db.isStopping (db : Db) (runId : RunId) : Bool :=
  (db.runShutdown runId).isSome

/-- Record the state of an operation's external effect. -/
def reconcileAs (operation : OperationRow) (state : ExternalResourceState)
    (error : Option String) (reconciledAt : Int) : Program Unit :=
  transact (recordOperationState operation.id state error reconciledAt)

/-- The stored result of an operation is missing or unreadable. -/
def unreadableResult (operation : OperationRow) : String :=
  match operation.result with
  | none => s!"operation {operation.id.text} has no durable result"
  | some _ => s!"operation {operation.id.text} has an invalid durable result"

/-- The state of a foreground session's launch. -/
def foregroundState (session : Option SessionRecord) : ExternalResourceState :=
  match session with
  | none => .lost
  | some session =>
      if session.providerSessionId.isSome then .observed else session.reconciliationState

/-- Reconcile a recorded foreground launch. -/
def reconcileForegroundOperation (operation : OperationRow) (reconciledAt : Int) :
    Program Unit := do
  match operation.result.bind LaunchIntent.ofJson? with
  | none => reconcileAs operation .unknown (some (unreadableResult operation)) reconciledAt
  | some intent => do
      let state := foregroundState (← consult (·.session intent.sessionId))
      if operation.reconciliationState = some state ∧ operation.reconciledAt.isSome = true then
        pure ()
      else
        reconcileAs operation state
          (if state = .observed then none
            else some s!"foreground session {intent.sessionId.text} is {state.asStr}")
          reconciledAt

/-- Try again to complete a recorded spawn whose session is not launched. -/
def retrySpawn (config : EffectiveConfig) (runId : RunId) (operation : OperationRow)
    (intent : SpawnIntent) (host : SpawnHost) (reconciledAt : Int) : Program Unit :=
  match (operation.request.get? "role").bind JsonValue.asStr? with
  | none =>
      reconcileAs operation .unknown (some "spawn operation has no role") reconciledAt
  | some role =>
      match config.archetype.role role, config.roles[role]? with
      | none, _ =>
          reconcileAs operation .unknown (some s!"spawn role `{role}` is no longer configured")
            reconciledAt
      | some _, none =>
          reconcileAs operation .unknown (some s!"spawn role `{role}` has no permission profile")
            reconciledAt
      | some _, some _ =>
          Tx.tryCatch
            (attemptSpawnOperation config runId
              { operationId := operation.id, role, intent, createdAt := operation.createdAt,
                reconciledAt } host)
            fun _ => pure ()

/-- Reconcile a recorded spawn. -/
def reconcileSpawnOperation (config : EffectiveConfig) (runId : RunId) (operation : OperationRow)
    (host : SpawnHost) (reconciledAt : Int) : Program Unit := do
  match operation.result.bind SpawnIntent.ofJson? with
  | none => reconcileAs operation .unknown (some (unreadableResult operation)) reconciledAt
  | some intent =>
      match ← consult (·.session intent.sessionId) with
      | some session =>
          if session.providerSessionId.isSome = true then
            reconcileAs operation .observed none reconciledAt
          else if session.reconciliationState ≠ .desired then
            if operation.reconciliationState = some session.reconciliationState ∧
                operation.reconciledAt.isSome = true then
              pure ()
            else
              reconcileAs operation session.reconciliationState
                (some s!"provider session {intent.sessionId.text} is {session.reconciliationState.asStr}")
                reconciledAt
          else retrySpawn config runId operation intent host reconciledAt
      | none => do
          let workspace ← consult (·.workspace intent.assignmentId)
          if operation.reconciliationState = some .unknown ∧
              operation.reconciledAt.isSome = true ∧
              (workspace.any (·.state == .observed)) = false then
            pure ()
          else retrySpawn config runId operation intent host reconciledAt

/-- Reconcile one recorded operation.  The transactions of an integration are commands of their
    own. -/
def reconcileOperation (config : EffectiveConfig) (runId : RunId) (stopping : Bool)
    (hosts : OperationId → SpawnHost) (reconciledAt : Int) (operation : OperationRow) :
    Program Unit :=
  if stopping = true ∧ operation.kind = "agent.spawn" then pure ()
  else if operation.kind = "run.stop" ∨ operation.kind = "project.attach" ∨
      operation.kind = "workspace.integrate" then pure ()
  else if operation.kind = "agent.launch_foreground" then
    reconcileForegroundOperation operation reconciledAt
  else if operation.kind = "agent.spawn" then
    reconcileSpawnOperation config runId operation (hosts operation.id) reconciledAt
  else
    reconcileAs operation .unknown
      (some s!"operation kind `{operation.kind}` has no reconciler") reconciledAt

/-- Reconcile the recorded operations of the run; a stopping run launches nothing. -/
def reconcileOperations (config : EffectiveConfig) (runId : RunId)
    (hosts : OperationId → SpawnHost) (reconciledAt : Int) : Program Unit := do
  let operations ← consult (·.operationsRequiringReconciliation runId)
  let stopping ← consult (·.isStopping runId)
  Tx.each (reconcileOperation config runId stopping hosts reconciledAt) operations

end Coterie
