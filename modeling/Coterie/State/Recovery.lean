/-
  Coterie.State.Recovery

  What can be done with work whose worker is gone, or with a submitted result (`state/recovery.rs`,
  `state/retained.rs`, `state/resubmit.rs`): retiring an interrupted assignment so that another one
  can continue it, submitting its reviewed commit, and replacing a submitted result.

  The first two share one preflight.  It is a function of the store that names the first missing
  piece of evidence.
-/

import Coterie.State.RunRecovery

namespace Coterie

/-! ## The preflight of interrupted assignments -/

/-- The assignment is active in every table that takes part in its ownership. -/
def Db.assignmentActive (db : Db) (runId : RunId) (assignment : AssignmentRecord)
    (task : TaskRecord) : Bool :=
  task.status == .inProgress && assignment.completedAt == none &&
    (assignment.state == .active || assignment.state == .draining) &&
    (db.activeAssignmentForTask runId task.id).map (·.id) == some assignment.id &&
    (db.claim assignment.claimId).any fun claim =>
      claim.runId == runId && claim.taskId == task.id && claim.agentId == assignment.agentId &&
        claim.releasedAt == none

/-- The session ended in the way that the chosen path needs: an observed exit, or a loss that the
    operator acknowledges. -/
def SessionRecord.terminalMatches (session : SessionRecord) (acknowledgeLost : Bool) : Bool :=
  if acknowledgeLost then session.state == .lost && session.reconciliationState == .lost
  else session.state == .exited && session.reconciliationState == .observed

/-- The inactivity of the current generation's process is verified. -/
def Db.inactivityVerified (db : Db) (scope : SessionScope) (session : SessionRecord)
    (acknowledgeLost : Bool) : Bool :=
  db.sessionScopeIsCurrent scope && session.terminalMatches acknowledgeLost &&
    session.endedAt != none && session.providerSessionId != none &&
    ((db.agent scope.agentId).any fun agent => agent.state == session.state) &&
    (db.sessionCredential session.id).any (·.revokedAt != none)

/-- A launch, control or integration intent of the assignment is unresolved. -/
def Db.intentPending (db : Db) (runId : RunId) (assignmentId : AssignmentId)
    (sessionId : SessionId) : Bool :=
  (db.sessionControls.any fun control =>
      control.scope.sessionId == sessionId && control.phase != .completed) ||
    (db.operations.any fun row => row.runId == runId && row.kind == "agent.spawn" &&
      row.result.bind (·.get? "assignment_id") == some (.str assignmentId.text) &&
      (row.status != .succeeded || row.reconciliationState != some .observed)) ||
    db.operations.any fun row => row.runId == runId && row.kind == "workspace.integrate" &&
      row.request.get? "assignment_id" == some (.str assignmentId.text)

/-- The provider's report of the session's exit is on record. -/
def Db.providerExitRecorded (db : Db) (runId : RunId) (session : SessionRecord) : Bool :=
  db.events.any fun event =>
    event.runId == runId && event.eventType == .sessionLifecycleChanged &&
      event.actor == "provider" && event.subject == session.id.text &&
      event.payload.path? ["data", "generation"] == some (.num session.generation) &&
      event.payload.path? ["data", "state"] == some (.str LifecycleState.exited.asStr) &&
      [ExitReason.process, .interrupted, .terminated].any fun reason =>
        event.payload.path? ["data", "exit", "reason"] == some (.str reason.asStr)

/-- The worktree is observed, not integrated, and its recorded result is at most the retained
    commit. -/
def WorkspaceRecord.retainable (workspace : WorkspaceRecord) (retainedCommit : Option String) :
    Bool :=
  workspace.kind == .worktree && workspace.state == .observed &&
    (workspace.resultCommit.all fun recorded => some recorded == retainedCommit) &&
    workspace.targetCommit == none

/-- The interrupted assignment and its workspace, or what keeps it from being released. -/
def Db.interruptedAssignmentPreflight (db : Db) (runId : RunId) (assignmentId : AssignmentId)
    (acknowledgeLost : Bool) (retainedCommit : Option String) :
    Except StoreError (AssignmentRecord × WorkspaceRecord) := do
  let reject (reason : String) : StoreError := .recoveryConflict assignmentId reason
  if ¬ db.runIsActive runId ∨ (db.runShutdown runId).isSome then
    .error (reject "the run is stopped or draining; task recovery requires an active run; inspect `coterie doctor`; after shutdown completes, ask the operator to use `coterie run list` and `coterie run recover <run-id> --reason TEXT`, then launch a fresh session before retrying `task recover`")
  else
    match (db.assignment assignmentId).filter (·.runId == runId) with
    | none => .error (reject "assignment not found in this run; inspect `coterie prime`")
    | some assignment =>
      match db.task assignment.taskId with
      | none => .error (reject "task missing; inspect `coterie doctor`")
      | some task =>
        if ¬ db.assignmentActive runId assignment task then
          .error (reject "the assignment is no longer active; inspect `coterie prime`; submitted work uses `coterie task resubmit`")
        else
          match assignment.sessionId.bind db.session with
          | none => .error (reject "no observed session exit; inspect `coterie doctor`")
          | some session =>
            if ¬ db.inactivityVerified
                { runId, agentId := assignment.agentId, sessionId := session.id,
                  generation := assignment.generation } session acknowledgeLost then
              .error (reject "process inactivity is not verified for the current generation; wait for an observed exit and inspect `coterie doctor` before retrying `coterie task recover`")
            else if db.intentPending runId assignmentId session.id then
              .error (reject "launch, control, or integration intent is unresolved; inspect `coterie doctor` and reconcile the original operation before `coterie task recover`")
            else if db.providerExitRecorded runId session = acknowledgeLost ∨
                session.processOwner ≠ .supervisor then
              .error (reject (if acknowledgeLost then
                "the lost session has an exit event or unverified process ownership; preserve the worktree and inspect `coterie doctor`"
              else
                "no verified provider process-exit record; preserve the worktree and inspect `coterie doctor`"))
            else
              match db.workspaceForScope assignment.scope with
              | none => .error (.staleAssignment assignmentId)
              | some workspace =>
                if ¬ workspace.retainable retainedCommit then
                  .error (reject "an observed, unsubmitted Git worktree is required; inspect `coterie doctor`; submitted work uses `coterie task resubmit`")
                else .ok (assignment, workspace)

/-- The preflight of `task recover`: no result commit may be recorded. -/
def Db.recoveryPreflight (db : Db) (runId : RunId) (assignmentId : AssignmentId)
    (acknowledgeLost : Bool) : Except StoreError (AssignmentRecord × WorkspaceRecord) :=
  db.interruptedAssignmentPreflight runId assignmentId acknowledgeLost none

/-! ## Recovery -/

/-- Preserved source context and the explicit link to a later assignment. -/
structure RecoverySummary where
  taskId : TaskId
  assignmentId : AssignmentId
  sessionId : SessionId
  projectId : ProjectId
  generation : Int
  workspacePath : String
  baseCommit : Option String
  reason : String
  missingExitAcknowledged : Bool
  handoff : JsonValue
deriving DecidableEq, Repr

/-- The summary as the event stores it; the continuation is linked by a later event. -/
def RecoverySummary.toJson (summary : RecoverySummary) : JsonValue :=
  .obj ([("assignment_id", .str summary.assignmentId.text),
    ("base_commit", .ofOption .str summary.baseCommit), ("continuation_assignment_id", .null),
    ("generation", .num summary.generation), ("handoff", summary.handoff)] ++
    (if summary.missingExitAcknowledged then [("missing_exit_acknowledged", .bool true)] else []) ++
    [("project_id", .str summary.projectId.text), ("reason", .str summary.reason),
      ("session_id", .str summary.sessionId.text), ("task_id", .str summary.taskId.text),
      ("workspace_path", .str summary.workspacePath),
      ("workspace_path_bytes",
        .arr (summary.workspacePath.toUTF8.toList.map fun byte => .num byte.toNat))])

/-- An event of a mutation on an assignment. -/
def Mutation.assignmentEvent (mutation : Mutation) (assignment : AssignmentRecord)
    (workspace : WorkspaceRecord) (kind : EventKind) (subject : String) (data : JsonValue) :
    NewEvent where
  runId := mutation.runId
  kind := kind
  actor := mutationActor mutation.actorAgentId
  subject := subject
  projectId := some workspace.projectId
  agentId := some assignment.agentId
  taskId := some assignment.taskId
  operationId := some mutation.id
  data := data
  createdAt := mutation.createdAt

/-- The transition that recovers or retains an interrupted assignment. -/
def Mutation.taskTransition (mutation : Mutation) (taskId : TaskId)
    (transition : TaskTransition) (result : Option JsonValue) (summary : Option String) :
    TaskTransitionMutation where
  operationId := mutation.id
  runId := mutation.runId
  actorAgentId := mutation.actorAgentId
  taskId := taskId
  transition := transition
  result := result
  operatorOverride := none
  summary := summary
  transitionedAt := mutation.createdAt

/-- Keep what was observed in the worktree of a recovered assignment. -/
def insertRecoveryHandoff (handoff : RecoveryHandoff) : Repo Unit := do
  constraint (.unique "recovery_handoffs.assignment_id") fun db =>
    !db.recoveryHandoffs.any (·.assignmentId == handoff.assignmentId)
  constraint (.unique "recovery_handoffs.operation_id") fun db =>
    !db.recoveryHandoffs.any (·.operationId == handoff.operationId)
  constraint (.foreignKey "recovery_handoffs.run_id, operation_id") fun db =>
    db.operations.any fun row => row.id == handoff.operationId && row.runId == handoff.runId
  Tx.write fun db => { db with recoveryHandoffs := db.recoveryHandoffs ++ [handoff] }

/-- The events of a recovery. -/
def recoveryEvents (mutation : Mutation) (assignment : AssignmentRecord)
    (workspace : WorkspaceRecord) (recovery : RecoverySummary) : List NewEvent :=
  [mutation.assignmentEvent assignment workspace .taskRecovered assignment.taskId.text
      recovery.toJson,
    mutation.assignmentEvent assignment workspace .taskLifecycleChanged assignment.taskId.text
      (.obj [("previous_status", .str "in_progress"), ("status", .str "open"),
        ("transition", .str "recover")]),
    mutation.assignmentEvent assignment workspace .assignmentLifecycleChanged assignment.id.text
      (.obj [("previous_state", .str assignment.state.asStr), ("state", .str "released")]),
    mutation.assignmentEvent assignment workspace .claimReleased (toString assignment.claimId)
      (.obj [("assignment_id", .str assignment.id.text), ("claim_id", .num assignment.claimId)])]

/-- Retire an interrupted assignment and reopen its task.  `document` is the recorded handoff and
    `brief` its short form. -/
def recoverAssignment (mutation : Mutation) (assignmentId : AssignmentId) (reason : String)
    (document brief : JsonValue) (acknowledgeLost : Bool) : Repo RecoverySummary := do
  let (assignment, workspace) ← Tx.ofExcept
    (← Tx.read (·.recoveryPreflight mutation.runId assignmentId acknowledgeLost))
  let sessionId ← Tx.okOr (.panicked "preflight requires a session") assignment.sessionId
  let recovery : RecoverySummary :=
    { taskId := assignment.taskId, assignmentId := assignmentId, sessionId := sessionId
      projectId := workspace.projectId, generation := assignment.generation
      workspacePath := workspace.path, baseCommit := workspace.baseCommit, reason := reason
      missingExitAcknowledged := acknowledgeLost, handoff := brief }
  insertRecoveryHandoff
    { assignmentId, runId := mutation.runId, operationId := mutation.id, document }
  let _ ← applyTaskTransition (mutation.taskTransition assignment.taskId .reopen none none)
  Tx.each appendEvent (recoveryEvents mutation assignment workspace recovery)
  pure recovery

/-! ## Retained submission -/

/-- Reviewed work of a worker that has exited. -/
structure RetainedSubmission where
  assignmentId : AssignmentId
  resultCommit : String
  summary : String
  reason : String
  review : JsonValue
deriving DecidableEq, Repr

/-- The task result of a retained submission. -/
def RetainedSubmission.result (submission : RetainedSubmission) (mutation : Mutation)
    (assignment : AssignmentRecord) (workspace : WorkspaceRecord) : JsonValue :=
  .obj [("base_commit", .ofOption .str workspace.baseCommit),
    ("result_commit", .str submission.resultCommit),
    ("retained_submission",
      .obj [("assignment_id", .str assignment.id.text),
        ("generation", .num assignment.generation), ("operation_id", .str mutation.id.text),
        ("reason", .str submission.reason), ("review", submission.review),
        ("session_id", .ofOption (fun id => .str id.text) assignment.sessionId),
        ("submitted_by", .ofOption (fun id => .str id.text) mutation.actorAgentId)]),
    ("status", .str "completed"), ("summary", .str submission.summary)]

/-- The events of a retained submission. -/
def retainedEvents (mutation : Mutation) (assignment : AssignmentRecord)
    (workspace : WorkspaceRecord) (result : JsonValue) : List NewEvent :=
  [mutation.assignmentEvent assignment workspace .taskLifecycleChanged assignment.taskId.text
      (.obj [("previous_status", .str "in_progress"), ("result", result),
        ("status", .str "submitted"), ("transition", .str "submit_retained")]),
    mutation.assignmentEvent assignment workspace .assignmentLifecycleChanged assignment.id.text
      (.obj [("previous_state", .str assignment.state.asStr), ("state", .str "completed")]),
    mutation.assignmentEvent assignment workspace .claimReleased (toString assignment.claimId)
      (.obj [("assignment_id", .str assignment.id.text), ("claim_id", .num assignment.claimId)])]

/-- Submit the reviewed commit of an interrupted assignment whose worker has exited. -/
def submitRetained (mutation : Mutation) (submission : RetainedSubmission) : Repo JsonValue := do
  let (assignment, workspace) ← Tx.ofExcept
    (← Tx.read (·.interruptedAssignmentPreflight mutation.runId submission.assignmentId false
      (some submission.resultCommit)))
  let result := submission.result mutation assignment workspace
  let _ ← recordWorkspaceResultCommit assignment.scope submission.resultCommit
  let _ ← applyTaskTransition
    (mutation.taskTransition assignment.taskId .submit (some result) (some submission.summary))
  Tx.each appendEvent (retainedEvents mutation assignment workspace result)
  pure result

/-! ## Resubmission -/

/-- Explicit commit compare-and-set and the human account of the correction. -/
structure Resubmission where
  assignmentId : AssignmentId
  expectedResult : String
  resultCommit : String
  summary : String
  reason : String
deriving DecidableEq, Repr

/-- An integration of the assignment was requested. -/
def Db.integrationRequested (db : Db) (runId : RunId) (assignmentId : AssignmentId) : Bool :=
  db.operations.any fun row => row.runId == runId && row.kind == "workspace.integrate" &&
    row.request.get? "assignment_id" == some (.str assignmentId.text)

/-- The submitted result that may be replaced, or what keeps it from being replaced. -/
def Db.resubmissionPreflight (db : Db) (runId : RunId) (submission : Resubmission) :
    Except StoreError (AssignmentRecord × TaskRecord × WorkspaceRecord) := do
  let reject (reason : String) : StoreError :=
    .resubmissionConflict submission.assignmentId reason
  match (db.assignment submission.assignmentId).filter (·.runId == runId) with
  | none => .error (reject "assignment not found in this run; inspect `coterie prime`")
  | some assignment =>
    match db.workspaceForScope assignment.scope with
    | none => .error (.staleAssignment assignment.id)
    | some workspace =>
      match db.task assignment.taskId with
      | none => .error (reject "task not found; inspect `coterie doctor`")
      | some task =>
        if assignment.state ≠ .completed ∨ assignment.completedAt = none ∨
            task.status ≠ .submitted ∨
            (db.latestAssignmentForTask runId task.id).map (·.id) ≠ some assignment.id then
          .error (reject "only the current submitted result can be superseded; inspect `coterie prime` or create a new task")
        else if workspace.kind ≠ .worktree ∨ workspace.state ≠ .observed then
          .error (reject "an observed Git worktree is required; inspect `coterie doctor`")
        else if workspace.targetCommit ≠ none then
          .error (reject "the result is already integrated; create a new task for further corrections")
        else if db.integrationRequested runId assignment.id then
          .error (reject "an integration intent already exists; inspect `coterie doctor` and retry `coterie workspace integrate` with its original operation ID")
        else if workspace.resultCommit ≠ some submission.expectedResult ∨
            (task.result.bind (·.get? "result_commit")).bind JsonValue.asStr? ≠
              some submission.expectedResult then
          .error (reject "the recorded result changed; inspect `coterie prime` and use `coterie task resubmit` with the current --expected-result and a new operation ID")
        else .ok (assignment, task, workspace)

/-- The event of a resubmission. -/
def resubmissionEvent (mutation : Mutation) (submission : Resubmission)
    (assignment : AssignmentRecord) (task : TaskRecord) (workspace : WorkspaceRecord)
    (previousResult result : JsonValue) : NewEvent where
  runId := mutation.runId
  kind := .taskResubmitted
  actor := mutationActor mutation.actorAgentId
  subject := task.id.text
  projectId := some task.projectId
  agentId := some assignment.agentId
  taskId := some task.id
  operationId := some mutation.id
  data := .obj [("assignment_id", .str assignment.id.text),
    ("base_commit", .ofOption .str workspace.baseCommit),
    ("generation", .num assignment.generation),
    ("previous_completed_at", .ofOption .num assignment.completedAt),
    ("previous_result", previousResult),
    ("previous_summary", .ofOption .str assignment.summary),
    ("previous_updated_at", .num task.updatedAt), ("reason", .str submission.reason),
    ("result", result), ("status", .str "submitted")]
  createdAt := mutation.createdAt

/-- Replace a submitted result. -/
def applyResubmission (mutation : Mutation) (submission : Resubmission) :
    Repo (JsonValue × JsonValue) := do
  let (assignment, task, workspace) ← Tx.ofExcept
    (← Tx.read (·.resubmissionPreflight mutation.runId submission))
  let previousResult := task.result.getD .null
  let result ← Tx.okOr (.panicked "cannot access key in a JSON value that is no object")
    ((previousResult.setField? "result_commit" (.str submission.resultCommit)).bind
      (·.setField? "summary" (.str submission.summary)))
  appendEvent (resubmissionEvent mutation submission assignment task workspace previousResult
    result)
  Tx.write (·.updateWorkspace assignment.id fun row =>
    { row with resultCommit := some submission.resultCommit })
  Tx.write fun db =>
    { db with
      assignments := Table.updateWhere (·.id == assignment.id)
        (fun row => { row with summary := some submission.summary }) db.assignments }
  Tx.write fun db =>
    { db with
      tasks := Table.updateWhere (·.id == task.id)
        (fun row => { row with result := some result, updatedAt := mutation.createdAt })
        db.tasks }
  pure (previousResult, result)

end Coterie
