/-
  Coterie.Supervisor.Requests

  The transactions behind the requests of the supervisor (`supervisor.rs` and the modules beside
  it).  A mutating request is one mutation: its recorded identity and request, and the closure that
  is applied once.  Identifiers that a request allocates, clock readings and the texts that other
  subsystems compute are arguments; the response that is sent back is left out, what the closure
  stores is kept.
-/

import Coterie.State.Messages
import Coterie.Supervisor.Sessions
import Coterie.Supervisor.Workspaces

namespace Coterie

/-- What every mutating request carries: its operation, its caller (`none` is the operator) and
    the clock reading of its execution. -/
structure RequestContext where
  operationId : OperationId
  runId : RunId
  caller : Option AgentId
  now : Int
deriving DecidableEq, Repr

/-- The mutation of a request. -/
def RequestContext.mutation (ctx : RequestContext) (kind : String) (request : JsonValue) :
    Mutation where
  id := ctx.operationId
  runId := ctx.runId
  kind := kind
  actorAgentId := ctx.caller
  request := request
  createdAt := ctx.now

/-- An event of a request. -/
def RequestContext.event (ctx : RequestContext) (kind : EventKind) (subject : String)
    (data : JsonValue) : NewEvent where
  runId := ctx.runId
  kind := kind
  actor := mutationActor ctx.caller
  subject := subject
  operationId := some ctx.operationId
  data := data
  createdAt := ctx.now

/-! ## Runs and projects -/

/-- An event of the supervisor about its run. -/
def runEvent (runId : RunId) (kind : EventKind) (actor subject : String)
    (projectId : Option ProjectId) (data : JsonValue) (createdAt : Int) : NewEvent where
  runId := runId
  kind := kind
  actor := actor
  subject := subject
  projectId := projectId
  data := data
  createdAt := createdAt

/-- Create a run with its primary project. -/
def startRun (runId : RunId) (project : ProjectRecord) (now : Int) : Repo Unit := do
  insertRun { id := runId, status := .active, createdAt := now, stoppedAt := none }
  appendEvent (runEvent runId .runStarted "supervisor" runId.text none
    (.obj [("status", .str "active")]) now)
  insertProject project
  appendEvent (runEvent runId .projectAttached "supervisor" project.id.text (some project.id)
    (.obj [("alias", .str "primary"), ("is_primary", .bool true)]) now)

/-- The project of a request to attach one, as the operation stores it. -/
def ProjectRecord.toJson (project : ProjectRecord) : JsonValue :=
  .obj [("alias", .str project.projectAlias), ("attached_at", .num project.attachedAt),
    ("canonical_path", .str project.canonicalPath), ("id", .str project.id.text),
    ("identity", project.identity), ("is_primary", .bool project.isPrimary),
    ("original_path", .str project.originalPath), ("run_id", .str project.runId.text)]

/-- The closure of a request to attach a project: its side effects are still to come. -/
def attachProject (ctx : RequestContext) (project : ProjectRecord) : Repo JsonValue := do
  markOperationReconciliationDesired ctx.operationId
  pure project.toJson

/-- Write an attached project once its lease is held. -/
def completeProjectAttachment (ctx : RequestContext) (project : ProjectRecord) : Repo Unit := do
  Tx.when ((← Tx.read (·.project project.id)).isNone = true) (do
    insertProject project
    appendEvent
      { ctx.event .projectAttached project.id.text
          (.obj [("alias", .str project.projectAlias),
            ("canonical_path", .str project.canonicalPath), ("identity", project.identity),
            ("operator_authorized", .bool ctx.caller.isNone),
            ("original_path", .str project.originalPath)]) with
        projectId := some project.id
        agentId := ctx.caller
        createdAt := project.attachedAt })

/-! ## Reconciliation of operations -/

/-- Record the state of an operation's external effect, unless it is on record already. -/
def recordOperationState (operationId : OperationId) (state : ExternalResourceState)
    (error : Option String) (reconciledAt : Int) : Repo Unit := do
  let recorded ← Tx.read (·.operation operationId)
  Tx.when
    ((recorded.any fun operation => operation.reconciliationState == some state &&
      operation.reconciliationError == error && operation.reconciledAt != none) = false)
    (do
      let _ ← recordOperationReconciliation operationId state error reconciledAt
      pure ())

/-! ## Tasks -/

/-- A task that a request creates. -/
structure NewTask where
  taskId : TaskId
  title : String
  description : String
  projectAlias : String
  projectId : ProjectId
  group : Option String
  dependencies : List TaskId
deriving DecidableEq, Repr

/-- The dependencies as JSON documents store them. -/
def NewTask.dependenciesJson (task : NewTask) : JsonValue :=
  .arr (task.dependencies.map fun id => .str id.text)

/-- The recorded request for a new task. -/
def NewTask.request (task : NewTask) : JsonValue :=
  .obj [("dependencies", task.dependenciesJson), ("description", .str task.description),
    ("group", .ofOption .str task.group), ("project", .str task.projectAlias),
    ("title", .str task.title)]

/-- The row of a new task. -/
def NewTask.record (task : NewTask) (runId : RunId) (now : Int) : TaskRecord where
  id := task.taskId
  runId := runId
  projectId := task.projectId
  title := task.title
  description := task.description
  status := .opened
  result := none
  createdAt := now
  updatedAt := now

/-- The edge of a new task to one of its prerequisites. -/
def NewTask.edge (task : NewTask) (runId : RunId) (now : Int) (dependencyId : TaskId) :
    DependencyRecord where
  runId := runId
  taskId := task.taskId
  dependencyTaskId := dependencyId
  createdAt := now

/-- A requested prerequisite is a task of the run. -/
def requireDependency (runId : RunId) (id : TaskId) : Repo Unit :=
  Tx.require (.corruptTaskState id "a requested dependency is not in this run") fun db =>
    (db.task id).any (·.runId == runId)

/-- Write a task and its edges to existing tasks of the run. -/
def insertNewTask (task : NewTask) (runId : RunId) (now : Int) : Repo Unit := do
  Tx.each (requireDependency runId) task.dependencies
  insertTask (task.record runId now)
  Tx.each (fun id => insertDependency (task.edge runId now id)) task.dependencies

/-- The closure of a request to create a task. -/
def createTask (ctx : RequestContext) (task : NewTask) : Repo JsonValue := do
  insertNewTask task ctx.runId ctx.now
  appendEvent
    { ctx.event .taskCreated task.taskId.text
        (.obj [("dependencies", task.dependenciesJson), ("group", .ofOption .str task.group),
          ("status", .str TaskStatus.opened.asStr), ("title", .str task.title)]) with
      projectId := some task.projectId
      agentId := ctx.caller
      taskId := some task.taskId }
  pure (.str task.taskId.text)

/-- The stored name of a rejection. -/
def ClaimRejection.asStr : ClaimRejection → String
  | .taskNotFound => "task_not_found"
  | .taskNotOpen => "task_not_open"
  | .blocked => "blocked"
  | .alreadyClaimed => "already_claimed"
  | .agentNotFound => "agent_not_found"
  | .agentBusy => "agent_busy"

/-- The result of a claim as its operation stores it. -/
def ClaimTaskResult.toJson : ClaimTaskResult → JsonValue
  | .claimed claimId assignmentId =>
      .obj [("reason", .obj [("assignment_id", .str assignmentId.text),
        ("claim_id", .num claimId)]), ("status", .str "claimed")]
  | .rejected rejection => .obj [("reason", .str rejection.asStr), ("status", .str "rejected")]

/-- The mutation of a claim.  Retries may allocate fresh bookkeeping values before finding the
    durable result, so only caller intent belongs to request identity. -/
def ClaimTaskMutation.mutation (claim : ClaimTaskMutation) : Mutation where
  id := claim.operationId
  runId := claim.runId
  kind := "task.claim"
  actorAgentId := claim.actorAgentId
  request := .obj [("agent_id", .str claim.agentId.text), ("task_id", .str claim.taskId.text)]
  createdAt := claim.claimedAt

/-- The closure of a claim. -/
def claimTask (claim : ClaimTaskMutation) : Repo JsonValue := do
  let result ← compareAndSetClaim claim
  appendTaskClaimEvents claim result
  pure result.toJson

/-- A rejection of a transition as its operation stores it. -/
def TaskTransitionRejection.toJson : TaskTransitionRejection → JsonValue
  | .taskNotFound => .str "task_not_found"
  | .invalidStatus status => .obj [("invalid_status", .obj [("status", .str status.asStr)])]
  | .acceptanceNotMet => .str "acceptance_not_met"

/-- The result of a transition as its operation stores it. -/
def TaskTransitionResult.toJson : TaskTransitionResult → JsonValue
  | .transitioned previousStatus status =>
      .obj [("reason", .obj [("previous_status", .str previousStatus.asStr),
        ("status", .str status.asStr)]), ("status", .str "transitioned")]
  | .rejected rejection => .obj [("reason", rejection.toJson), ("status", .str "rejected")]

/-- The transition with its override stored in the task result.  A result that is no object has no
    place for it, which stops the request. -/
def TaskTransitionMutation.withEvidence (transition : TaskTransitionMutation) :
    Option TaskTransitionMutation :=
  match transition.operatorOverride with
  | none => some transition
  | some evidence =>
      ((transition.result.getD (.obj [])).setField? "operator_override" evidence.toJson).map
        fun result => { transition with result := some result }

/-- The mutation of a transition. -/
def TaskTransitionMutation.mutation (transition : TaskTransitionMutation) : Mutation where
  id := transition.operationId
  runId := transition.runId
  kind := "task." ++ transition.transition.asStr
  actorAgentId := transition.actorAgentId
  request := .obj [("result", .ofOption id transition.result),
    ("summary", .ofOption .str transition.summary), ("task_id", .str transition.taskId.text),
    ("transition", .str transition.transition.asStr)]
  createdAt := transition.transitionedAt

/-- Apply a transition once: the body of its mutation, after the override was stored. -/
def transitionTaskWithFingerprint (transition : TaskTransitionMutation)
    (requestFingerprint : Option String) : Repo (MutationOutcome JsonValue) := do
  let transition ← Tx.okOr (.panicked "cannot access key in a JSON value that is no object")
    transition.withEvidence
  mutationBody .json transition.mutation requestFingerprint (do
    let result ← transitionTaskBody transition
    pure result.toJson)

/-! ## Spawning -/

/-- The name that the debug format gives a rejection. -/
def ClaimRejection.debug : ClaimRejection → String
  | .taskNotFound => "TaskNotFound"
  | .taskNotOpen => "TaskNotOpen"
  | .blocked => "Blocked"
  | .alreadyClaimed => "AlreadyClaimed"
  | .agentNotFound => "AgentNotFound"
  | .agentBusy => "AgentBusy"

/-- The stored name of a workspace kind. -/
def WorkspaceKind.asStr : WorkspaceKind → String
  | .project => "project"
  | .readOnly => "read_only"
  | .worktree => "worktree"

/-- Where an assignment works. -/
def assignmentWorkspacePath (runStateDirectory : String) (kind : WorkspaceKind)
    (project : ProjectRecord) (assignmentId : AssignmentId) : String :=
  match kind with
  | .project | .readOnly => project.canonicalPath
  | .worktree =>
      runStateDirectory ++ "/workspaces/" ++ project.id.text ++ "/" ++ assignmentId.text

/-- What a spawn allocates and reads before its mutation. -/
structure SpawnRequest where
  role : String
  taskId : TaskId
  agentId : AgentId
  sessionId : SessionId
  assignmentId : AssignmentId
  workspaceKind : WorkspaceKind
  runStateDirectory : String
  baseCommit : Option String
deriving DecidableEq, Repr

/-- The recorded request for a spawn. -/
def SpawnRequest.request (spawn : SpawnRequest) : JsonValue :=
  .obj [("role", .str spawn.role), ("task_id", .str spawn.taskId.text)]

/-- The intent that a spawn stores. -/
def SpawnRequest.intent (spawn : SpawnRequest) : JsonValue :=
  .obj [("agent_id", .str spawn.agentId.text), ("assignment_id", .str spawn.assignmentId.text),
    ("session_id", .str spawn.sessionId.text), ("task_id", .str spawn.taskId.text)]

/-- The claim of a spawn. -/
def SpawnRequest.claim (spawn : SpawnRequest) (ctx : RequestContext) : ClaimTaskMutation where
  operationId := ctx.operationId
  runId := ctx.runId
  actorAgentId := ctx.caller
  taskId := spawn.taskId
  agentId := spawn.agentId
  assignmentId := spawn.assignmentId
  claimedAt := ctx.now

/-- The agent of a spawn. -/
def SpawnRequest.agent (spawn : SpawnRequest) (ctx : RequestContext) : AgentRecord where
  id := spawn.agentId
  runId := ctx.runId
  role := spawn.role
  generation := 0
  state := .starting
  createdAt := ctx.now

/-- The desired workspace of a spawn. -/
def SpawnRequest.workspace (spawn : SpawnRequest) (ctx : RequestContext) (task : TaskRecord)
    (project : ProjectRecord) : WorkspaceRecord where
  assignmentId := spawn.assignmentId
  generation := 0
  runId := ctx.runId
  projectId := task.projectId
  kind := spawn.workspaceKind
  path := assignmentWorkspacePath spawn.runStateDirectory spawn.workspaceKind project
    spawn.assignmentId
  state := .desired
  baseCommit := spawn.baseCommit
  resultCommit := none
  targetCommit := none
  createdAt := ctx.now
  reconciledAt := none

/-- An event of a spawn. -/
def SpawnRequest.event (spawn : SpawnRequest) (ctx : RequestContext) (kind : EventKind)
    (subject : String) (projectId : Option ProjectId) (data : JsonValue) : NewEvent :=
  { ctx.event kind subject data with
    projectId := projectId
    agentId := some spawn.agentId
    taskId := some spawn.taskId }

/-- Record the workspace of a claimed spawn. -/
def insertSpawnWorkspace (spawn : SpawnRequest) (ctx : RequestContext) : Repo Unit := do
  let task ← Tx.okOr (.corruptTaskState spawn.taskId "the claimed task disappeared")
    (← Tx.read (·.task spawn.taskId))
  let project ← Tx.okOr (.corruptTaskState spawn.taskId "the target project disappeared")
    (← Tx.read (·.project task.projectId))
  let workspace := spawn.workspace ctx task project
  insertWorkspace workspace
  appendEvent (spawn.event ctx .workspaceDesired spawn.assignmentId.text (some task.projectId)
    (.obj [("base_commit", .ofOption .str workspace.baseCommit),
      ("kind", .str workspace.kind.asStr), ("path", .str workspace.path),
      ("state", .str workspace.state.asStr)]))

/-- The closure of a spawn: a new agent, its claim, its workspace and the intent to launch it. -/
def spawnAgent (ctx : RequestContext) (spawn : SpawnRequest) : Repo JsonValue := do
  insertAgent (spawn.agent ctx)
  appendEvent (spawn.event ctx .agentCreated spawn.agentId.text none
    (.obj [("generation", .num 0), ("role", .str spawn.role),
      ("state", .str LifecycleState.starting.asStr)]))
  let result ← compareAndSetClaim (spawn.claim ctx)
  appendTaskClaimEvents (spawn.claim ctx) result
  match result with
  | .rejected reason =>
      throw (.corruptTaskState spawn.taskId
        ("ready task claim was unexpectedly rejected: " ++ reason.debug))
  | .claimed _ _ => do
      insertSpawnWorkspace spawn ctx
      markOperationReconciliationDesired ctx.operationId
      pure spawn.intent

/-- What a failed attempt to complete a spawn leaves to do. -/
def spawnReconciliationState (session : Option SessionRecord) : ExternalResourceState :=
  match session with
  | none => .desired
  | some session =>
      if session.providerSessionId.isSome then .observed else session.reconciliationState

/-- Record a failed attempt to complete a spawn; stop retrying one whose preflight never
    established a session. -/
def recordSpawnFailure (runId : RunId) (operationId : OperationId) (agentId : AgentId)
    (sessionId : SessionId) (message : String) (reconciledAt : Int)
    (policy : SupervisionPolicy) : Repo Unit := do
  let session ← Tx.read (·.session sessionId)
  let _ ← recordOperationReconciliation operationId (spawnReconciliationState session)
    (some message) reconciledAt
  let operation ← Tx.read (·.operation operationId)
  Tx.when (session = none ∧ (operation.any fun row =>
      decide (policy.maxLaunchAttempts ≤ row.reconciliationAttemptCount)) = true) (do
    quarantineUnstartedAgent runId agentId operationId reconciledAt
    let _ ← recordOperationReconciliation operationId .observed
      (some "launch quarantined after repeated preflight failures; no provider session was created")
      reconciledAt
    pure ())

/-! ## Integration -/

/-- The assignment may be integrated: it is completed, its task is submitted and its workspace is
    observed and not integrated. -/
def Db.integrationReady (db : Db) (runId : RunId) (assignmentId : AssignmentId) : Bool :=
  ((db.assignment assignmentId).filter (·.runId == runId)).any fun assignment =>
    assignment.state == .completed && assignment.completedAt != none &&
      ((db.task assignment.taskId).any (·.status == .submitted)) &&
      (db.workspace assignmentId).any fun workspace =>
        workspace.state == .observed && workspace.targetCommit == none

/-- The recorded request for an integration. -/
def integrationRequest (assignmentId : AssignmentId) (strategy : Option IntegrationStrategy) :
    JsonValue :=
  .obj (("assignment_id", .str assignmentId.text) ::
    strategy.elim [] fun strategy => [("strategy", .str strategy.asStr)])

/-- The closure of an integration: the durable plan. -/
def integrateWorkspace (ctx : RequestContext) (assignmentId : AssignmentId)
    (plan : IntegrationPlan) : Repo JsonValue := do
  let assignment ← Tx.okOr
    (.corruptAssignmentState assignmentId "the integration assignment disappeared")
    (← Tx.read (·.assignment assignmentId))
  appendEvent
    { ctx.event .workspaceIntegrationDesired assignmentId.text plan.toJson with
      projectId := some plan.projectId
      agentId := some assignment.agentId
      taskId := some assignment.taskId
      createdAt := plan.integratedAt }
  markOperationReconciliationDesired ctx.operationId
  pure plan.toJson

/-! ## Recovery, retained submission and resubmission -/

/-- The recorded request for a recovery. -/
def recoveryRequest (assignmentId : AssignmentId) (reason : String) (report : Option JsonValue)
    (acknowledgeLost : Bool) : JsonValue :=
  .obj ((if acknowledgeLost then [("acknowledge_lost", .bool true)] else []) ++
    [("assignment_id", .str assignmentId.text), ("reason", .str reason)] ++
    report.elim [] fun report => [("report", report)])

/-- The closure of a recovery. -/
def recoverTask (mutation : Mutation) (assignmentId : AssignmentId) (reason : String)
    (document brief : JsonValue) (acknowledgeLost : Bool) : Repo JsonValue := do
  let recovery ← recoverAssignment mutation assignmentId reason document brief acknowledgeLost
  pure recovery.toJson

/-- The recorded request for a retained submission. -/
def RetainedSubmission.request (submission : RetainedSubmission) : JsonValue :=
  .obj [("assignment_id", .str submission.assignmentId.text), ("reason", .str submission.reason),
    ("result_commit", .str submission.resultCommit), ("review", submission.review),
    ("summary", .str submission.summary)]

/-- The recorded request for a resubmission. -/
def Resubmission.request (submission : Resubmission) : JsonValue :=
  .obj [("assignment_id", .str submission.assignmentId.text),
    ("expected_result", .str submission.expectedResult), ("reason", .str submission.reason),
    ("result_commit", .str submission.resultCommit), ("summary", .str submission.summary)]

/-- The closure of a resubmission. -/
def resubmitTask (mutation : Mutation) (submission : Resubmission) : Repo JsonValue := do
  let (_, result) ← applyResubmission mutation submission
  pure result

/-! ## The foreground agent -/

/-- What a foreground launch allocates and reads before its mutation. -/
structure ForegroundLaunch where
  role : String
  provider : String
  agentId : AgentId
  sessionId : SessionId
  tokenVerifier : List UInt8
deriving DecidableEq, Repr

/-- The recorded request for a foreground launch. -/
def ForegroundLaunch.request (launch : ForegroundLaunch) : JsonValue :=
  .obj [("role", .str launch.role)]

/-- The scope of a foreground launch for an agent and generation. -/
def ForegroundLaunch.scope (launch : ForegroundLaunch) (runId : RunId) (agentId : AgentId)
    (generation : Int) : SessionScope where
  runId := runId
  agentId := agentId
  sessionId := launch.sessionId
  generation := generation

/-- The intent that a foreground launch stores. -/
structure LaunchIntent where
  agentId : AgentId
  sessionId : SessionId
  generation : Int
  alreadyActive : Bool
deriving DecidableEq, Repr

/-- The intent as its operation stores it. -/
def LaunchIntent.toJson (intent : LaunchIntent) : JsonValue :=
  .obj [("agent_id", .str intent.agentId.text), ("already_active", .bool intent.alreadyActive),
    ("generation", .num intent.generation), ("session_id", .str intent.sessionId.text)]

/-- Start the next generation of the foreground agent. -/
def replaceForegroundGeneration (ctx : RequestContext) (agent : AgentRecord) : Repo Int := do
  Tx.require (.corruptAgentState agent.id "the session generation is exhausted") fun _ =>
    decide (agent.generation < i64Max)
  let started ← startAgentGeneration ctx.runId agent.id agent.generation (agent.generation + 1)
  Tx.require (.corruptAgentState agent.id "the terminal generation could not be replaced")
    fun _ => started
  appendEvent
    { ctx.event .agentLifecycleChanged agent.id.text
        (.obj [("generation", .num (agent.generation + 1)),
          ("previous_generation", .num agent.generation),
          ("previous_state", .str agent.state.asStr),
          ("state", .str LifecycleState.starting.asStr)]) with
      agentId := some agent.id }
  pure (agent.generation + 1)

/-- Create the foreground agent. -/
def createForegroundAgent (ctx : RequestContext) (launch : ForegroundLaunch) : Repo Unit := do
  insertAgent ((launch.scope ctx.runId launch.agentId 0).newAgent launch.role ctx.now)
  appendEvent
    { ctx.event .agentCreated launch.agentId.text
        (.obj [("generation", .num 0), ("role", .str launch.role),
          ("state", .str LifecycleState.starting.asStr)]) with
      agentId := some launch.agentId }

/-- The event of a claimed foreground launch. -/
def launchClaimedEvent (ctx : RequestContext) (scope : SessionScope) : NewEvent :=
  { ctx.event .sessionReconciliationChanged scope.sessionId.text
      (.obj [("previous_state", .str ExternalResourceState.desired.asStr),
        ("reason", .str "launch_claimed"),
        ("state", .str ExternalResourceState.unknown.asStr)]) with
    agentId := some scope.agentId }

/-- Open the session of a foreground launch and claim its provider launch. -/
def claimForegroundLaunch (ctx : RequestContext) (launch : ForegroundLaunch)
    (scope : SessionScope) : Repo LaunchIntent := do
  openSession (scope.newSession launch.provider .foreground ctx.now)
    (scope.credential launch.tokenVerifier ctx.now)
  appendEvent
    { ctx.event .sessionStarted scope.sessionId.text
        (.obj [("generation", .num scope.generation), ("provider", .str launch.provider),
          ("state", .str LifecycleState.starting.asStr)]) with
      agentId := some scope.agentId }
  markOperationReconciliationDesired ctx.operationId
  let claim ← recordSessionReconciliationState scope .unknown ctx.now
  Tx.require
    (.corruptAgentState scope.agentId "the foreground launch intent could not be claimed")
    fun _ => claim == .applied
  appendEvent (launchClaimedEvent ctx scope)
  pure { agentId := scope.agentId, sessionId := scope.sessionId, generation := scope.generation
         alreadyActive := false }

/-- The intent of a launch that finds the agent alive. -/
def activeLaunchIntent (agent : AgentRecord) (latest : SessionRecord) : LaunchIntent where
  agentId := agent.id
  sessionId := latest.id
  generation := agent.generation
  alreadyActive := true

/-- The closure of a foreground launch: the next generation of the existing agent, or a new
    agent. -/
def launchForeground (ctx : RequestContext) (launch : ForegroundLaunch) : Repo JsonValue := do
  match (← Tx.read (·.agentsOf ctx.runId)).find? (·.role == launch.role) with
  | none => do
      createForegroundAgent ctx launch
      let intent ← claimForegroundLaunch ctx launch (launch.scope ctx.runId launch.agentId 0)
      pure intent.toJson
  | some agent => do
      let latest ← Tx.okOr (.corruptAgentState agent.id "the agent has no provider session")
        (← Tx.read (·.latestSessionForAgent ctx.runId agent.id))
      if ¬ agent.state.isTerminal then pure (activeLaunchIntent agent latest).toJson
      else do
        let generation ← replaceForegroundGeneration ctx agent
        let intent ← claimForegroundLaunch ctx launch
          (launch.scope ctx.runId agent.id generation)
        pure intent.toJson

/-- Claim the launch of a replayed foreground request, while it is still a desired intent. -/
def reclaimForegroundLaunch (ctx : RequestContext) (scope : SessionScope)
    (tokenVerifier : List UInt8) : Repo Bool := do
  let session ← Tx.read (·.session scope.sessionId)
  if (session.any fun row => row.reconciliationState == .desired && row.state == .starting) then do
    replaceDesiredSessionCredential (scope.credential tokenVerifier ctx.now)
    let _ ← recordSessionReconciliationState scope .unknown ctx.now
    appendEvent (launchClaimedEvent ctx scope)
    pure true
  else pure false

/-- The launch operation of a foreground session. -/
def Db.foregroundLaunchOperation (db : Db) (runId : RunId) (sessionId : SessionId) :
    Option OperationRow :=
  db.operations.find? fun row => row.runId == runId && row.kind == "agent.launch_foreground" &&
    row.result.bind (·.get? "session_id") == some (.str sessionId.text) &&
    row.result.bind (·.get? "already_active") == some (.bool false)

/-- The scope is the current one of a foreground session of the run. -/
def Db.foregroundScopeHolds (db : Db) (runId : RunId) (scope : SessionScope) : Bool :=
  scope.runId == runId && db.sessionScopeIsCurrent scope &&
    (db.session scope.sessionId).any fun session =>
      session.runId == scope.runId && session.agentId == scope.agentId &&
        session.generation == scope.generation && session.processOwner == .foreground

/-- Record a foreground session's lifecycle with the details that its owner reported. -/
def recordForegroundLifecycle (session : SessionRecord) (scope : SessionScope)
    (lifecycle : LifecycleState) (details : JsonValue) (observedAt : Int) : Repo Unit :=
  recordLifecycle scope session "foreground" lifecycle
    (.obj [("details", details), ("generation", .num scope.generation),
      ("previous_state", .str session.state.asStr), ("provider", .str session.provider),
      ("state", .str lifecycle.asStr)]) observedAt

/-- Record what a foreground report says about its launch operation. -/
def recordForegroundOperation (scope : SessionScope) (state : ExternalResourceState)
    (error : Option String) (observedAt : Int) : Repo Unit := do
  let operation ← Tx.okOr
    (.corruptAgentState scope.agentId
      s!"session {scope.sessionId.text} has no durable launch operation")
    (← Tx.read (·.foregroundLaunchOperation scope.runId scope.sessionId))
  let _ ← recordOperationReconciliation operation.id state error observedAt
  pure ()

/-- The foreground owner started its process. -/
def observeForegroundStarted (scope : SessionScope) (processId : Nat) (observedAt : Int) :
    Repo Unit := do
  let session ← Tx.okOr (.corruptAgentState scope.agentId "the foreground session disappeared")
    (← Tx.read (·.session scope.sessionId))
  let providerSessionId := "process:" ++ toString processId
  let outcome ← recordSessionLaunchObservation scope providerSessionId observedAt
  Tx.when (outcome = .applied)
    (appendEvent (launchObservedEvent scope "foreground" session.reconciliationState
      providerSessionId observedAt))
  recordForegroundLifecycle session scope .running
    (.obj [("process_id", .num processId)]) observedAt
  recordForegroundOperation scope .observed none observedAt

/-- How a foreground process ended, as its owner reports it. -/
inductive ForegroundEnd where
  | exited (code signal : Option Int)
  | launchFailed
  | observationLost
deriving DecidableEq, Repr

namespace ForegroundEnd

/-- The signals that end a process on request. -/
def sigInt : Int := 2
def sigTerm : Int := 15

/-- The reconciliation state that an end stands for. -/
def reconciliation : ForegroundEnd → ExternalResourceState
  | .exited _ _ => .observed
  | .launchFailed => .lost
  | .observationLost => .unknown

/-- The lifecycle that an end stands for. -/
def lifecycle : ForegroundEnd → LifecycleState
  | .exited _ _ => .exited
  | .launchFailed => .lost
  | .observationLost => .unknown

/-- The details that the event keeps. -/
def details : ForegroundEnd → JsonValue
  | .exited code signal => .obj [("code", .ofOption .num code), ("signal", .ofOption .num signal)]
  | .launchFailed => .obj [("reason", .str "launch_failed")]
  | .observationLost => .obj [("reason", .str "observation_failed")]

/-- The error that the operation keeps. -/
def error : ForegroundEnd → Option String
  | .exited _ _ => none
  | .launchFailed => some "foreground provider launch failed"
  | .observationLost => some "foreground provider observation was lost"

/-- The process failed and was not asked to stop. -/
def failed : ForegroundEnd → Bool
  | .exited code signal =>
      code != some 0 && signal != some sigInt && signal != some sigTerm
  | .launchFailed => true
  | .observationLost => false

/-- The end is an exit. -/
def isExit : ForegroundEnd → Bool
  | .exited _ _ => true
  | .launchFailed | .observationLost => false

end ForegroundEnd

/-- The session is being stopped, so that its failure says nothing about a crash loop. -/
def Db.stopping (db : Db) (runId : RunId) (scope : SessionScope) : Bool :=
  (db.runShutdown runId).isSome || (db.sessionControlsOf runId).any (·.scope == scope)

/-- The lifecycle to record for an ended foreground process. -/
def endedLifecycle (runId : RunId) (session : SessionRecord) (scope : SessionScope)
    (ended : ForegroundEnd) (observedAt : Int) (policy : SupervisionPolicy) :
    Repo LifecycleState := do
  let stopping ← Tx.read (·.stopping runId scope)
  if ended.failed = true ∧ stopping = false ∧ session.state.isTerminal = false then do
    let quarantined ← recordSessionFailure scope observedAt policy
    pure (if quarantined then .quarantined else ended.lifecycle)
  else pure ended.lifecycle

/-- The foreground owner reports the end of its process. -/
def observeForegroundEnded (runId : RunId) (scope : SessionScope) (ended : ForegroundEnd)
    (observedAt : Int) (policy : SupervisionPolicy) : Repo Unit := do
  let session ← Tx.okOr (.corruptAgentState scope.agentId "the foreground session disappeared")
    (← Tx.read (·.session scope.sessionId))
  if session.state.isTerminal = true ∧ ¬ (session.state = .lost ∧ ended.isExit = true) then
    pure ()
  else do
    recordReconciliationState scope session "foreground" ended.reconciliation observedAt
    let lifecycle ← endedLifecycle runId session scope ended observedAt policy
    recordForegroundLifecycle session scope lifecycle ended.details observedAt
    recordForegroundOperation scope ended.reconciliation ended.error observedAt

/-! ## Messages -/

/-- A message that a request sends. -/
structure NewMessage where
  messageId : MessageId
  recipientAgentId : AgentId
  message : String
deriving DecidableEq, Repr

/-- The recorded request for a message. -/
def NewMessage.request (sent : NewMessage) : JsonValue :=
  .obj [("message", .str sent.message), ("recipient_agent_id", .str sent.recipientAgentId.text)]

/-- The row of a message. -/
def NewMessage.record (sent : NewMessage) (ctx : RequestContext) (sequence : Nat) :
    MessageRecord where
  id := sent.messageId
  runId := ctx.runId
  senderAgentId := ctx.caller
  recipientAgentId := sent.recipientAgentId
  sequence := sequence
  body := sent.message
  createdAt := ctx.now
  acknowledgedAt := none

/-- The closure of a request to send a message. -/
def sendMessage (ctx : RequestContext) (sent : NewMessage) : Repo JsonValue := do
  let sequence ← Tx.read (·.nextMessageSequence ctx.runId sent.recipientAgentId)
  insertMessage (sent.record ctx sequence)
  appendEvent
    { ctx.event .messageSent sent.messageId.text
        (.obj [("recipient_agent_id", .str sent.recipientAgentId.text),
          ("sender_agent_id", .ofOption (fun id => .str id.text) ctx.caller),
          ("sequence", .num sequence)]) with
      agentId := some sent.recipientAgentId }
  pure (.obj [("message_id", .str sent.messageId.text), ("sequence", .num sequence)])

/-! ## The end of a run -/

/-- The response that a stop stores. -/
def shuttingDownResponse (runId : RunId) (operationId : OperationId) : JsonValue :=
  .obj [("operation_id", .str operationId.text), ("result", .str "shutting_down"),
    ("run_id", .str runId.text)]

/-- The event of a stop for want of activity. -/
def idleStopEvent (runId : RunId) (operationId : OperationId) (nowMs : Int)
    (idleTimeoutSeconds : Int) : NewEvent where
  runId := runId
  kind := .runShutdownChanged
  actor := "supervisor"
  subject := runId.text
  operationId := some operationId
  data := .obj [("idle_timeout_seconds", .num idleTimeoutSeconds),
    ("reason", .str "idle_timeout")]
  createdAt := nowMs.tdiv 1000

/-- Begin to stop a run that was idle for long enough. -/
def stopIdleRun (runId : RunId) (operationId : OperationId) (nowMs graceMs timeoutMs : Int)
    (idleTimeoutSeconds : Int) : Repo Unit := do
  beginRunShutdown runId operationId nowMs graceMs timeoutMs
  appendEvent (idleStopEvent runId operationId nowMs idleTimeoutSeconds)

/-- Stop the run and complete its recorded shutdown. -/
def persistShutdown (runId : RunId) (operationId : OperationId) (stoppedAt : Int) :
    Repo Unit := do
  stopRun runId stoppedAt
  supervisionEvent runId .runStopped runId.text none (some operationId)
    (.obj [("previous_status", .str "active"), ("status", .str "stopped")])
    (saturate (stoppedAt * 1000))
  completeShutdownOperation runId (shuttingDownResponse runId operationId)
    (saturate (stoppedAt * 1000))

/-- The closure of a stop without a recorded shutdown. -/
def stopRunAtOnce (ctx : RequestContext) : Repo JsonValue := do
  stopRun ctx.runId ctx.now
  appendEvent (ctx.event .runStopped ctx.runId.text
    (.obj [("previous_status", .str "active"), ("status", .str "stopped")]))
  pure (shuttingDownResponse ctx.runId ctx.operationId)

/-- The closure of a run recovery. -/
def recoverRun (mutation : Mutation) : Repo JsonValue := do
  let report ← reactivateRun mutation
  pure report.toJson

end Coterie
