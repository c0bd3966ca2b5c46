/-
  Coterie.Supervisor.Frame

  Which tables the transactions of the supervisor write, from the frames of the repository
  functions that they call.
-/

import Coterie.State.Frame
import Coterie.Supervisor.Requests

namespace Coterie

variable {tables : List TableName}

/-! ## Sessions -/

theorem writes_openSession (session : SessionRecord) (credential : SessionCredentialRecord)
    [Listed .sessions tables] [Listed .sessionScopes tables]
    [Listed .sessionCredentials tables] :
    Tx.Keeps (Written tables) (openSession session credential) :=
  .bind (writes_insertSession _) fun _ =>
    writes_activateSessionCredential _

theorem writes_prepareLaunchAgent (launch : AgentLaunch) (agentExists : Bool)
    (assignmentId : Option AssignmentId) [Listed .agents tables] [Listed .agentScopes tables]
    [Listed .events tables] :
    Tx.Keeps (Written tables) (prepareLaunchAgent launch agentExists assignmentId) :=
  .ite (.require _ _)
    (.bind (writes_insertAgent _) fun _ => writes_appendEvent _ rfl)

theorem writes_associateLaunchAssignment (launch : AgentLaunch) (assignmentId : AssignmentId)
    [Listed .assignments tables]
    [Listed .events tables] :
    Tx.Keeps (Written tables) (associateLaunchAssignment launch assignmentId) :=
  .bind (writes_associateAssignmentSession _ _) fun _ => .bind (.read _) fun _ =>
    .bind (.okOr _ _) fun _ => .bind (.read _) fun _ => .bind (.okOr _ _) fun _ =>
      writes_appendEvent _ rfl

theorem writes_persistLaunchIntent (launch : AgentLaunch) (agentExists : Bool)
    (assignmentId : Option AssignmentId) [Listed .agents tables] [Listed .agentScopes tables]
    [Listed .sessions tables] [Listed .sessionScopes tables]
    [Listed .sessionCredentials tables]
    [Listed .assignments tables]
    [Listed .events tables] :
    Tx.Keeps (Written tables) (persistLaunchIntent launch agentExists assignmentId) := by
  refine .bind (writes_prepareLaunchAgent _ _ _) fun _ =>
    .bind (writes_openSession _ _) fun _ =>
      .bind (writes_appendEvent _ rfl) fun _ => ?_
  cases assignmentId with
  | none => exact .pure _
  | some id => exact writes_associateLaunchAssignment _ _

theorem writes_recordLaunchObservation (scope : SessionScope) (providerSessionId : String)
    (observedAt : Int) [Listed .sessions tables]
    [Listed .events tables] :
    Tx.Keeps (Written tables) (recordLaunchObservation scope providerSessionId observedAt) := by
  refine .bind (.read _) fun found => ?_
  cases found with
  | none => exact .pure _
  | some session =>
      exact .bind (writes_recordSessionLaunchObservation _ _ _) fun _ =>
        .when (writes_appendEvent _ rfl)

theorem writes_recordReconciliationState (scope : SessionScope) (session : SessionRecord)
    (actor : String) (state : ExternalResourceState) (observedAt : Int)
    [Listed .sessions tables] [Listed .events tables] :
    Tx.Keeps (Written tables)
      (recordReconciliationState scope session actor state observedAt) :=
  .bind (writes_recordSessionReconciliationState _ _ _) fun _ =>
    .when (writes_appendEvent _ rfl)

theorem writes_recordLifecycle (scope : SessionScope) (session : SessionRecord) (actor : String)
    (lifecycle : LifecycleState) (data : JsonValue) (observedAt : Int)
    [Listed .sessions tables] [Listed .agents tables] [Listed .sessionCredentials tables]
    [Listed .events tables] :
    Tx.Keeps (Written tables)
      (recordLifecycle scope session actor lifecycle data observedAt) :=
  .bind (writes_recordSessionLifecycle _ _ _) fun _ =>
    .when (.bind (writes_appendEvent _ rfl) fun _ => writes_appendEvent _ rfl)

theorem writes_recordReconciliationIn (scope : SessionScope)
    (reconciliationState : ExternalResourceState) (lifecycle : LifecycleState)
    (reconciledAt : Int)
    [Listed .sessions tables] [Listed .agents tables] [Listed .sessionCredentials tables]
    [Listed .events tables] :
    Tx.Keeps (Written tables)
      (recordReconciliationIn scope reconciliationState lifecycle reconciledAt) := by
  refine .bind (.read _) fun found => ?_
  cases found with
  | none => exact .pure _
  | some session =>
      exact .bind (writes_recordReconciliationState _ _ _ _ _)
        fun _ => writes_recordLifecycle _ _ _ _ _ _

theorem writes_recordFailedLaunch (scope : SessionScope) (attemptedAt : Int)
    (policy : SupervisionPolicy) [Listed .sessionLaunchAttempts tables]
    [Listed .sessions tables] [Listed .agents tables] [Listed .sessionCredentials tables]
    [Listed .events tables] :
    Tx.Keeps (Written tables) (recordFailedLaunch scope attemptedAt policy) :=
  .bind (writes_failSessionLaunch _ _ _) fun _ =>
    .when (writes_recordReconciliationIn _ _ _ _)

theorem writes_observedLifecycle (scope : SessionScope) (session : SessionRecord)
    (observation : SessionObservation) (observedAt : Int) (policy : SupervisionPolicy)
    [Listed .sessionFailures tables]
    [Listed .events tables] :
    Tx.Keeps (Written tables)
      (observedLifecycle scope session observation observedAt policy) :=
  .ite (.bind (writes_recordSessionFailure _ _ _) fun _ => .pure _) (.pure _)

theorem writes_recordObservation (scope : SessionScope) (observation : SessionObservation)
    (observedAt : Int) (policy : SupervisionPolicy)
    [Listed .sessionFailures tables]
    [Listed .sessions tables] [Listed .agents tables] [Listed .sessionCredentials tables]
    [Listed .events tables] :
    Tx.Keeps (Written tables) (recordObservation scope observation observedAt policy) := by
  refine .bind (.read _) fun found => ?_
  cases found with
  | none => exact .pure _
  | some session =>
      exact .bind (writes_observedLifecycle _ _ _ _ _) fun _ =>
        .bind (writes_recordReconciliationState _ _ _ _ _)
          fun _ => writes_recordLifecycle _ _ _ _ _ _

theorem writes_requestControl (runId : RunId) (shutdown : Option RunShutdown) (nowMs : Int)
    (policy : SupervisionPolicy) (session : SessionRecord)
    [Listed .sessionControls tables]
    [Listed .assignments tables]
    [Listed .events tables] [Listed .drains tables] :
    Tx.Keeps (Written tables) (requestControl runId shutdown nowMs policy session) := by
  refine .ite (.pure _) (.bind (.when (writes_warnJobDeadline _ _ _)) fun _ => ?_)
  split
  · exact .pure _
  · exact writes_requestSessionControl _ _ _ _ _

theorem writes_requestControls (runId : RunId) (nowMs : Int) (policy : SupervisionPolicy)
    [Listed .sessionControls tables]
    [Listed .assignments tables]
    [Listed .events tables] [Listed .drains tables] :
    Tx.Keeps (Written tables) (requestControls runId nowMs policy) :=
  .bind (.read _) fun _ => .bind (.read _) fun sessions =>
    .each (fun session => writes_requestControl _ _ _ _ session)
      sessions

/-! ## Workspaces -/

theorem writes_recordWorkspaceState (workspace : WorkspaceRecord) (state : ExternalResourceState)
    (reconciledAt : Int) [Listed .workspaces tables]
    [Listed .events tables] :
    Tx.Keeps (Written tables) (recordWorkspaceState workspace state reconciledAt) :=
  .bind (writes_recordWorkspaceReconciliationState _ _ _) fun _ =>
    .when (.bind (.read _) fun _ => .bind (.okOr _ _) fun _ => writes_appendEvent _ rfl)

theorem writes_recordIntegration (workspace : WorkspaceRecord) (plan : IntegrationPlan)
    (integration : IntegrationRecord) (operationId : OperationId) (actor : String)
    (reconciledAt : Int) [Listed .workspaces tables]
    [Listed .operations tables] [Listed .events tables] :
    Tx.Keeps (Written tables)
      (recordIntegration workspace plan integration operationId actor reconciledAt) :=
  .bind (writes_recordWorkspaceTargetCommit _ _) fun _ =>
    .bind (.when (.bind (.read _) fun _ => .bind (.okOr _ _) fun _ =>
      writes_appendEvent _ rfl)) fun _ =>
        .bind (writes_recordOperationReconciliation _ _ _ _) fun _ => .pure _

/-! ## Requests -/

theorem writes_startRun (runId : RunId) (project : ProjectRecord) (now : Int)
    [Listed .runs tables] [Listed .projects tables]
    [Listed .events tables] :
    Tx.Keeps (Written tables) (startRun runId project now) :=
  .bind (writes_insertRun _) fun _ => .bind (writes_appendEvent _ rfl) fun _ =>
    .bind (writes_insertProject _) fun _ => writes_appendEvent _ rfl

theorem writes_attachProject (ctx : RequestContext) (project : ProjectRecord)
    [Listed .operations tables] [Listed .events tables] :
    Tx.Keeps (Written tables) (attachProject ctx project) :=
  .bind (writes_markOperationReconciliationDesired _) fun _ => .pure _

theorem writes_completeProjectAttachment (ctx : RequestContext) (project : ProjectRecord)
    [Listed .projects tables] [Listed .events tables] :
    Tx.Keeps (Written tables) (completeProjectAttachment ctx project) :=
  .bind (.read _) fun _ => .when (.bind (writes_insertProject _) fun _ =>
    writes_appendEvent _ rfl)

theorem writes_recordOperationState (operationId : OperationId) (state : ExternalResourceState)
    (error : Option String) (reconciledAt : Int) [Listed .operations tables]
    [Listed .events tables] :
    Tx.Keeps (Written tables) (recordOperationState operationId state error reconciledAt) :=
  .bind (.read _) fun _ => .when
    (.bind (writes_recordOperationReconciliation _ _ _ _) fun _ => .pure _)

theorem writes_insertNewTask (task : NewTask) (runId : RunId) (now : Int)
    [Listed .tasks tables] [Listed .taskDependencies tables] :
    Tx.Keeps (Written tables) (insertNewTask task runId now) := by
  have hrequire : ∀ id, Tx.Keeps (Written tables) (requireDependency runId id) :=
    fun id => .require _ _
  have hinsert : ∀ id, Tx.Keeps (Written tables) (insertDependency (task.edge runId now id)) :=
    fun id => writes_insertDependency _
  exact .bind (.each hrequire _) fun _ => .bind (writes_insertTask _) fun _ =>
    .each hinsert _

theorem writes_createTask (ctx : RequestContext) (task : NewTask)
    [Listed .tasks tables] [Listed .taskDependencies tables]
    [Listed .events tables] :
    Tx.Keeps (Written tables) (createTask ctx task) :=
  .bind (writes_insertNewTask _ _ _) fun _ =>
    .bind (writes_appendEvent _ rfl) fun _ => .pure _

theorem writes_sendMessage (ctx : RequestContext) (sent : NewMessage)
    [Listed .messages tables] [Listed .events tables] :
    Tx.Keeps (Written tables) (sendMessage ctx sent) :=
  .bind (.read _) fun _ => .bind (writes_insertMessage _) fun _ =>
    .bind (writes_appendEvent _ rfl) fun _ => .pure _

theorem writes_claimTask (claim : ClaimTaskMutation) [Listed .tasks tables]
    [Listed .claims tables] [Listed .assignments tables] [Listed .assignmentScopes tables]
    [Listed .events tables] [Listed .continuations tables] :
    Tx.Keeps (Written tables) (claimTask claim) :=
  .bind (writes_compareAndSetClaim _) fun _ =>
    .bind (writes_appendTaskClaimEvents _ _) fun _ => .pure _

/-- A transition launches nothing. -/
theorem transition_launchesNone (transition : TaskTransitionMutation) :
    launchKinds.contains transition.mutation.kind = false := by
  have hkind : ∀ transition : TaskTransition,
      launchKinds.contains ("task." ++ transition.asStr) = false := by
    intro transition
    cases transition <;> decide
  exact hkind transition.transition

theorem writes_transitionTaskWithFingerprint (transition : TaskTransitionMutation)
    (requestFingerprint : Option String) [Listed .operations tables] [Listed .outcomes tables]
    [Listed .tasks tables] [Listed .claims tables]
    [Listed .assignments tables]
    [Listed .events tables] :
    Tx.Keeps (Written tables)
      (transitionTaskWithFingerprint transition requestFingerprint) :=
  .bind (.okOr _ _) fun transition => writes_mutationBody
    (.inl (transition_launchesNone transition))
    (.bind (writes_transitionTaskBody _) fun _ => .pure _)

theorem writes_insertSpawnWorkspace (spawn : SpawnRequest) (ctx : RequestContext)
    [Listed .workspaces tables] [Listed .events tables] :
    Tx.Keeps (Written tables) (insertSpawnWorkspace spawn ctx) :=
  .bind (.read _) fun _ => .bind (.okOr _ _) fun _ => .bind (.read _) fun _ =>
    .bind (.okOr _ _) fun _ => .bind (writes_insertWorkspace _) fun _ =>
      writes_appendEvent _ rfl

theorem writes_spawnAgent (ctx : RequestContext) (spawn : SpawnRequest)
    [Listed .operations tables] [Listed .agents tables] [Listed .agentScopes tables]
    [Listed .tasks tables] [Listed .claims tables]
    [Listed .assignments tables] [Listed .assignmentScopes tables]
    [Listed .workspaces tables]
    [Listed .events tables] [Listed .continuations tables] :
    Tx.Keeps (Written tables) (spawnAgent ctx spawn) := by
  refine .bind (writes_insertAgent _) fun _ => .bind (writes_appendEvent _ rfl)
    fun _ => .bind (writes_compareAndSetClaim _) fun result =>
      .bind (writes_appendTaskClaimEvents _ _) fun _ => ?_
  cases result with
  | rejected reason => exact .throw _
  | claimed claimId assignmentId =>
      exact .bind (writes_insertSpawnWorkspace _ _) fun _ =>
        .bind (writes_markOperationReconciliationDesired _) fun _ => .pure _

theorem writes_recordSpawnFailure (runId : RunId) (operationId : OperationId) (agentId : AgentId)
    (sessionId : SessionId) (message : String) (reconciledAt : Int) (policy : SupervisionPolicy)
    [Listed .operations tables] [Listed .agents tables]
    [Listed .events tables] :
    Tx.Keeps (Written tables)
      (recordSpawnFailure runId operationId agentId sessionId message reconciledAt policy) :=
  .bind (.read _) fun _ => .bind (writes_recordOperationReconciliation _ _ _ _)
    fun _ => .bind (.read _) fun _ => .when
      (.bind (writes_quarantineUnstartedAgent _ _ _ _) fun _ =>
        .bind (writes_recordOperationReconciliation _ _ _ _) fun _ => .pure _)

theorem writes_integrateWorkspace (ctx : RequestContext) (assignmentId : AssignmentId)
    (plan : IntegrationPlan) [Listed .operations tables]
    [Listed .events tables] :
    Tx.Keeps (Written tables) (integrateWorkspace ctx assignmentId plan) :=
  .bind (.read _) fun _ => .bind (.okOr _ _) fun _ => .bind (writes_appendEvent _ rfl)
    fun _ => .bind (writes_markOperationReconciliationDesired _) fun _ => .pure _

theorem writes_replaceForegroundGeneration (ctx : RequestContext) (agent : AgentRecord)
    [Listed .agents tables] [Listed .agentScopes tables] [Listed .events tables] :
    Tx.Keeps (Written tables) (replaceForegroundGeneration ctx agent) :=
  .bind (.require _ _) fun _ => .bind (writes_startAgentGeneration _ _ _ _) fun _ =>
    .bind (.require _ _) fun _ => .bind (writes_appendEvent _ rfl) fun _ => .pure _

theorem writes_createForegroundAgent (ctx : RequestContext) (launch : ForegroundLaunch)
    [Listed .agents tables] [Listed .agentScopes tables] [Listed .events tables] :
    Tx.Keeps (Written tables) (createForegroundAgent ctx launch) :=
  .bind (writes_insertAgent _) fun _ => writes_appendEvent _ rfl

theorem writes_claimForegroundLaunch (ctx : RequestContext) (launch : ForegroundLaunch)
    (scope : SessionScope) [Listed .operations tables]
    [Listed .sessions tables] [Listed .sessionScopes tables]
    [Listed .sessionCredentials tables]
    [Listed .events tables] :
    Tx.Keeps (Written tables) (claimForegroundLaunch ctx launch scope) :=
  .bind (writes_openSession _ _) fun _ =>
    .bind (writes_appendEvent _ rfl) fun _ =>
      .bind (writes_markOperationReconciliationDesired _) fun _ =>
        .bind (writes_recordSessionReconciliationState _ _ _) fun _ =>
          .bind (.require _ _) fun _ => .bind (writes_appendEvent _ rfl) fun _ => .pure _

theorem writes_launchForeground (ctx : RequestContext) (launch : ForegroundLaunch)
    [Listed .operations tables] [Listed .agents tables] [Listed .agentScopes tables]
    [Listed .sessions tables] [Listed .sessionScopes tables]
    [Listed .sessionCredentials tables]
    [Listed .events tables] :
    Tx.Keeps (Written tables) (launchForeground ctx launch) := by
  refine .bind (.read _) fun agents => ?_
  split
  · exact .bind (writes_createForegroundAgent _ _) fun _ =>
      .bind (writes_claimForegroundLaunch _ _ _)
        fun _ => .pure _
  · exact .bind (.read _) fun _ => .bind (.okOr _ _) fun _ => .ite (.pure _)
      (.bind (writes_replaceForegroundGeneration _ _) fun _ =>
        .bind (writes_claimForegroundLaunch _ _ _)
          fun _ => .pure _)

theorem writes_reclaimForegroundLaunch (ctx : RequestContext) (scope : SessionScope)
    (tokenVerifier : List UInt8) [Listed .sessions tables]
    [Listed .sessionCredentials tables]
    [Listed .events tables] :
    Tx.Keeps (Written tables) (reclaimForegroundLaunch ctx scope tokenVerifier) :=
  .bind (.read _) fun _ => .ite
    (.bind (writes_replaceDesiredSessionCredential _) fun _ =>
      .bind (writes_recordSessionReconciliationState _ _ _) fun _ =>
        .bind (writes_appendEvent _ rfl) fun _ => .pure _)
    (.pure _)

theorem writes_recordForegroundOperation (scope : SessionScope) (state : ExternalResourceState)
    (error : Option String) (observedAt : Int) [Listed .operations tables]
    [Listed .events tables] :
    Tx.Keeps (Written tables) (recordForegroundOperation scope state error observedAt) :=
  .bind (.read _) fun _ => .bind (.okOr _ _) fun _ =>
    .bind (writes_recordOperationReconciliation _ _ _ _) fun _ => .pure _

theorem writes_observeForegroundStarted (scope : SessionScope) (processId : Nat)
    (observedAt : Int) [Listed .operations tables]
    [Listed .sessions tables] [Listed .agents tables] [Listed .sessionCredentials tables]
    [Listed .events tables] :
    Tx.Keeps (Written tables) (observeForegroundStarted scope processId observedAt) :=
  .bind (.read _) fun _ => .bind (.okOr _ _) fun _ =>
    .bind (writes_recordSessionLaunchObservation _ _ _) fun _ =>
      .bind (.when (writes_appendEvent _ rfl)) fun _ =>
        .bind (writes_recordLifecycle _ _ _ _ _ _) fun _ =>
          writes_recordForegroundOperation _ _ _ _

theorem writes_endedLifecycle (runId : RunId) (session : SessionRecord) (scope : SessionScope)
    (ended : ForegroundEnd) (observedAt : Int) (policy : SupervisionPolicy)
    [Listed .sessionFailures tables]
    [Listed .events tables] :
    Tx.Keeps (Written tables) (endedLifecycle runId session scope ended observedAt policy) :=
  .bind (.read _) fun _ => .ite
    (.bind (writes_recordSessionFailure _ _ _) fun _ => .pure _) (.pure _)

theorem writes_observeForegroundEnded (runId : RunId) (scope : SessionScope)
    (ended : ForegroundEnd) (observedAt : Int) (policy : SupervisionPolicy)
    [Listed .operations tables]
    [Listed .sessionFailures tables]
    [Listed .sessions tables] [Listed .agents tables] [Listed .sessionCredentials tables]
    [Listed .events tables] :
    Tx.Keeps (Written tables) (observeForegroundEnded runId scope ended observedAt policy) :=
  .bind (.read _) fun _ => .bind (.okOr _ _) fun _ => .ite (.pure _)
    (.bind (writes_recordReconciliationState _ _ _ _ _) fun _ =>
      .bind (writes_endedLifecycle _ _ _ _ _ _) fun _ =>
        .bind (writes_recordLifecycle _ _ _ _ _ _) fun _ =>
          writes_recordForegroundOperation _ _ _ _)

theorem writes_stopIdleRun (runId : RunId) (operationId : OperationId)
    (nowMs graceMs timeoutMs idleTimeoutSeconds : Int) [Listed .operations tables]
    [Listed .runShutdowns tables] [Listed .assignments tables] [Listed .events tables] [Listed .drains tables] :
    Tx.Keeps (Written tables)
      (stopIdleRun runId operationId nowMs graceMs timeoutMs idleTimeoutSeconds) :=
  .bind (writes_beginRunShutdown _ _ _ _ _) fun _ => writes_appendEvent _ rfl

theorem writes_persistShutdown (runId : RunId) (operationId : OperationId) (stoppedAt : Int)
    [Listed .runs tables] [Listed .operations tables] [Listed .outcomes tables]
    [Listed .runShutdowns tables] [Listed .events tables] :
    Tx.Keeps (Written tables) (persistShutdown runId operationId stoppedAt) :=
  .bind (writes_stopRun _ _) fun _ => .bind (writes_supervisionEvent rfl) fun _ =>
    writes_completeShutdownOperation _ _ _

theorem writes_stopRunAtOnce (ctx : RequestContext) [Listed .runs tables]
    [Listed .events tables] :
    Tx.Keeps (Written tables) (stopRunAtOnce ctx) :=
  .bind (writes_stopRun _ _) fun _ => .bind (writes_appendEvent _ rfl) fun _ => .pure _

end Coterie
