/-
  Coterie.Supervisor.Sessions

  The transactions of the session supervisor (`supervisor/session.rs`): the durable intent of a
  launch, what is recorded after the provider answered, the observations of a provider and of the
  reconciler, and the controls that deadlines request.

  The answers of the provider and the readings of the clock are arguments.
-/

import Coterie.State.Recovery

namespace Coterie

/-! ## Launch intents -/

/-- Durable input for launching one agent.  `provider` is the name that the probe reported,
    `contract` the recorded launch contract and `tokenVerifier` the verifier of the new token. -/
structure AgentLaunch where
  scope : SessionScope
  role : String
  provider : String
  contract : JsonValue
  tokenVerifier : List UInt8
  createdAt : Int
deriving DecidableEq, Repr

/-- A new unrevoked credential of a session. -/
def SessionScope.credential (scope : SessionScope) (tokenVerifier : List UInt8)
    (createdAt : Int) : SessionCredentialRecord where
  sessionId := scope.sessionId
  runId := scope.runId
  agentId := scope.agentId
  generation := scope.generation
  tokenVerifier := tokenVerifier
  createdAt := createdAt
  revokedAt := none

/-- A new session whose launch is desired. -/
def SessionScope.newSession (scope : SessionScope) (provider : String)
    (processOwner : SessionProcessOwner) (createdAt : Int) : SessionRecord where
  id := scope.sessionId
  runId := scope.runId
  agentId := scope.agentId
  generation := scope.generation
  provider := provider
  providerSessionId := none
  reconciliationState := .desired
  state := .starting
  createdAt := createdAt
  endedAt := none
  reconciledAt := none
  processOwner := processOwner

/-- A new agent that is starting. -/
def SessionScope.newAgent (scope : SessionScope) (role : String) (createdAt : Int) :
    AgentRecord where
  id := scope.agentId
  runId := scope.runId
  role := role
  generation := scope.generation
  state := .starting
  createdAt := createdAt

/-- An event about a session or its agent. -/
def SessionScope.event (scope : SessionScope) (kind : EventKind) (actor subject : String)
    (data : JsonValue) (createdAt : Int) : NewEvent where
  runId := scope.runId
  kind := kind
  actor := actor
  subject := subject
  agentId := some scope.agentId
  data := data
  createdAt := createdAt

/-- Write a session and activate its credential. -/
def openSession (session : SessionRecord) (credential : SessionCredentialRecord) :
    Repo Unit := do
  insertSession session
  activateSessionCredential credential

/-- The existing agent is waiting for this launch. -/
def AgentLaunch.matches (launch : AgentLaunch) (agent : AgentRecord) : Bool :=
  agent.runId == launch.scope.runId && agent.generation == launch.scope.generation &&
    agent.state == .starting && agent.role == launch.role

/-- The error for an existing agent that does not match the launch. -/
def AgentLaunch.mismatch (launch : AgentLaunch) (assignmentId : Option AssignmentId) :
    StoreError :=
  match assignmentId with
  | none => .inconsistentSessionLifecycle launch.scope.sessionId launch.scope.agentId
  | some id => .corruptAssignmentState id "the claimed agent launch intent does not match"

/-- Check the agent that a spawn created, or create the agent of the launch. -/
def prepareLaunchAgent (launch : AgentLaunch) (agentExists : Bool)
    (assignmentId : Option AssignmentId) : Repo Unit := do
  if agentExists then
    Tx.require (launch.mismatch assignmentId) fun db =>
      (db.agent launch.scope.agentId).any launch.matches
  else do
    insertAgent (launch.scope.newAgent launch.role launch.createdAt)
    appendEvent (launch.scope.event .agentCreated "supervisor" launch.scope.agentId.text
      (.obj [("generation", .num launch.scope.generation), ("role", .str launch.role),
        ("state", .str LifecycleState.starting.asStr)])
      launch.createdAt)

/-- Bind the assignment of a spawn to the new session. -/
def associateLaunchAssignment (launch : AgentLaunch) (assignmentId : AssignmentId) :
    Repo Unit := do
  associateAssignmentSession assignmentId launch.scope.sessionId
  let assignment ← Tx.okOr
    (.corruptAssignmentState assignmentId
      "the assignment disappeared after session association")
    (← Tx.read (·.assignment assignmentId))
  let task ← Tx.okOr (.corruptAssignmentState assignmentId "the assignment task does not exist")
    (← Tx.read (·.task assignment.taskId))
  appendEvent
    { launch.scope.event .assignmentSessionAssociated "supervisor" assignmentId.text
        (.obj [("session_id", .str launch.scope.sessionId.text)]) launch.createdAt with
      projectId := some task.projectId
      taskId := some assignment.taskId }

/-- Persists the starting generation before crossing the provider boundary. -/
def persistLaunchIntent (launch : AgentLaunch) (agentExists : Bool)
    (assignmentId : Option AssignmentId) : Repo Unit := do
  prepareLaunchAgent launch agentExists assignmentId
  openSession (launch.scope.newSession launch.provider .supervisor launch.createdAt)
    (launch.scope.credential launch.tokenVerifier launch.createdAt)
  appendEvent (launch.scope.event .sessionStarted "supervisor" launch.scope.sessionId.text
    (.obj [("generation", .num launch.scope.generation), ("launch_contract", launch.contract),
      ("provider", .str launch.provider), ("state", .str LifecycleState.starting.asStr)])
    launch.createdAt)
  match assignmentId with
  | none => pure ()
  | some id => associateLaunchAssignment launch id

/-! ## What is recorded after a launch -/

/-- The event of a changed reconciliation state of a session. -/
def sessionReconciliationEvent (scope : SessionScope) (actor : String)
    (previous state : ExternalResourceState) (observedAt : Int) : NewEvent :=
  scope.event .sessionReconciliationChanged actor scope.sessionId.text
    (.obj [("previous_state", .str previous.asStr), ("state", .str state.asStr)]) observedAt

/-- The event of an observed provider session. -/
def launchObservedEvent (scope : SessionScope) (actor : String) (previous : ExternalResourceState)
    (providerSessionId : String) (observedAt : Int) : NewEvent :=
  scope.event .sessionReconciliationChanged actor scope.sessionId.text
    (.obj [("previous_state", .str previous.asStr),
      ("provider_session_id", .str providerSessionId),
      ("state", .str ExternalResourceState.observed.asStr)]) observedAt

/-- Record the provider session of a registered handle. -/
def recordLaunchObservation (scope : SessionScope) (providerSessionId : String)
    (observedAt : Int) : Repo Unit := do
  match ← Tx.read (·.session scope.sessionId) with
  | none => pure ()
  | some session => do
      let outcome ← recordSessionLaunchObservation scope providerSessionId observedAt
      Tx.when (outcome = .applied)
        (appendEvent (launchObservedEvent scope "reconciler" session.reconciliationState
          providerSessionId observedAt))

/-- Record a session's reconciliation state, with its event. -/
def recordReconciliationState (scope : SessionScope) (session : SessionRecord) (actor : String)
    (state : ExternalResourceState) (observedAt : Int) : Repo Unit := do
  let outcome ← recordSessionReconciliationState scope state observedAt
  Tx.when (outcome = .applied)
    (appendEvent (sessionReconciliationEvent scope actor session.reconciliationState state
      observedAt))

/-- The event of a changed agent state. -/
def agentLifecycleEvent (scope : SessionScope) (actor : String) (previous state : LifecycleState)
    (observedAt : Int) : NewEvent :=
  scope.event .agentLifecycleChanged actor scope.agentId.text
    (.obj [("generation", .num scope.generation), ("previous_state", .str previous.asStr),
      ("state", .str state.asStr)]) observedAt

/-- Record a session's lifecycle, with the events of the session and of its agent. -/
def recordLifecycle (scope : SessionScope) (session : SessionRecord) (actor : String)
    (lifecycle : LifecycleState) (data : JsonValue) (observedAt : Int) : Repo Unit := do
  let outcome ← recordSessionLifecycle scope lifecycle observedAt
  Tx.when (outcome = .applied) (do
    appendEvent (scope.event .sessionLifecycleChanged actor scope.sessionId.text data observedAt)
    appendEvent (agentLifecycleEvent scope actor session.state lifecycle observedAt))

/-! ## Observations of the reconciler -/

/-- The data of the reconciler's lifecycle event. -/
def reconciledData (scope : SessionScope) (session : SessionRecord) (lifecycle : LifecycleState) :
    JsonValue :=
  .obj [("generation", .num scope.generation), ("previous_state", .str session.state.asStr),
    ("provider", .str session.provider), ("state", .str lifecycle.asStr)]

/-- Record what the reconciler knows about a session. -/
def recordReconciliationIn (scope : SessionScope) (reconciliationState : ExternalResourceState)
    (lifecycle : LifecycleState) (reconciledAt : Int) : Repo Unit := do
  match ← Tx.read (·.session scope.sessionId) with
  | none => pure ()
  | some session => do
      recordReconciliationState scope session "reconciler" reconciliationState reconciledAt
      recordLifecycle scope session "reconciler" lifecycle
        (reconciledData scope session lifecycle) reconciledAt

/-- After an error that proves that no process was started: allow another launch, or quarantine
    the session when its launches are used up. -/
def recordFailedLaunch (scope : SessionScope) (attemptedAt : Int) (policy : SupervisionPolicy) :
    Repo Unit := do
  let quarantined ← failSessionLaunch scope attemptedAt policy
  Tx.when (quarantined = true)
    (recordReconciliationIn scope .observed .quarantined attemptedAt)

/-! ## Observations of the provider -/

/-- The reconciliation state that an observed lifecycle stands for. -/
def LifecycleState.reconciliationState : LifecycleState → ExternalResourceState
  | .lost => .lost
  | .unknown => .unknown
  | .starting | .running | .exited | .quarantined => .observed

/-- The data of the provider's lifecycle event. -/
def providerData (scope : SessionScope) (session : SessionRecord) (lifecycle : LifecycleState)
    (exit : Option SessionExit) : JsonValue :=
  .obj [("exit", .ofOption
      (fun exit => .obj [("code", .ofOption .num exit.code), ("reason", .str exit.reason.asStr)])
      exit),
    ("generation", .num scope.generation), ("previous_state", .str session.state.asStr),
    ("provider", .str session.provider), ("state", .str lifecycle.asStr)]

/-- The observation reports that the process failed by itself. -/
def SessionObservation.failed (observation : SessionObservation) : Bool :=
  observation.exit.any fun exit => exit.reason == .process && exit.code != some 0

/-- The lifecycle to record: an agent in a crash loop is quarantined. -/
def observedLifecycle (scope : SessionScope) (session : SessionRecord)
    (observation : SessionObservation) (observedAt : Int) (policy : SupervisionPolicy) :
    Repo LifecycleState := do
  if session.state.isTerminal = false ∧ observation.failed = true then do
    let quarantined ← recordSessionFailure scope observedAt policy
    pure (if quarantined then .quarantined else observation.lifecycle)
  else pure observation.lifecycle

/-- Record an observation of the provider on the session that its handle names. -/
def recordObservation (scope : SessionScope) (observation : SessionObservation)
    (observedAt : Int) (policy : SupervisionPolicy) : Repo Unit := do
  match ← Tx.read (·.session scope.sessionId) with
  | none => pure ()
  | some session => do
      let lifecycle ← observedLifecycle scope session observation observedAt policy
      recordReconciliationState scope session "provider" lifecycle.reconciliationState observedAt
      recordLifecycle scope session "provider" lifecycle
        (providerData scope session lifecycle observation.exit) observedAt

/-! ## Controls -/

/-- Why a live session is to be controlled now. -/
def controlReason (shutdown : Option RunShutdown) (session : SessionRecord) (elapsed : Int)
    (policy : SupervisionPolicy) : Option ControlReason :=
  if shutdown.isSome then some .shutdown
  else if (session.state = .starting ∨ session.providerSessionId = none) ∧
      policy.startupTimeoutSeconds ≤ elapsed then some .startupTimeout
  else if session.processOwner = .supervisor ∧ policy.jobTimeoutSeconds ≤ elapsed then
    some .executionTimeout
  else none

/-- The deadline of a running background job is near. -/
def deadlineApproaching (shutdown : Option RunShutdown) (session : SessionRecord) (elapsed : Int)
    (policy : SupervisionPolicy) : Bool :=
  shutdown.isNone && session.processOwner == .supervisor && session.state == .running &&
    decide (saturate (policy.jobTimeoutSeconds - jobWarningWindow policy.jobTimeoutSeconds) ≤
      elapsed) &&
    decide (elapsed < policy.jobTimeoutSeconds)

/-- Request the control that the deadlines of one session call for. -/
def requestControl (runId : RunId) (shutdown : Option RunShutdown) (nowMs : Int)
    (policy : SupervisionPolicy) (session : SessionRecord) : Repo Unit := do
  if session.state.isTerminal then pure ()
  else do
    let scope := { session.scope with runId := runId }
    let elapsed := saturate (nowMs.tdiv 1000 - session.createdAt)
    Tx.when (deadlineApproaching shutdown session elapsed policy = true)
      (warnJobDeadline scope (saturate (session.createdAt + policy.jobTimeoutSeconds)) nowMs)
    match controlReason shutdown session elapsed policy with
    | none => pure ()
    | some reason =>
        requestSessionControl scope reason
          (shutdown.elim nowMs (·.requestedAtMs))
          (shutdown.elim policy.interruptGraceMs fun s => s.interruptUntilMs - s.requestedAtMs)
          (shutdown.elim policy.shutdownTimeoutMs fun s => s.deadlineMs - s.requestedAtMs)

/-- Applies durable deadlines without treating silence as semantic idleness. -/
def requestControls (runId : RunId) (nowMs : Int) (policy : SupervisionPolicy) : Repo Unit := do
  let shutdown ← Tx.read (·.runShutdown runId)
  Tx.each (requestControl runId shutdown nowMs policy) (← Tx.read (·.sessionsOf runId))

end Coterie
