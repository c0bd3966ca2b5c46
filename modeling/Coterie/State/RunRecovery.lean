/-
  Coterie.State.RunRecovery

  Same-run reactivation (`state/run_recovery.rs`): a stopped run becomes active again only from a
  completed stop in which every process exit and every credential revocation is on record.
-/

import Coterie.State.Supervision

namespace Coterie

/-- The exit of a session is on record, from the provider or from its foreground owner. -/
def Db.exitRecorded (db : Db) (session : SessionRecord) : Bool :=
  db.events.any fun event =>
    event.runId == session.runId && event.subject == session.id.text &&
      event.eventType == .sessionLifecycleChanged &&
      event.payload.path? ["data", "generation"] == some (.num session.generation) &&
      event.payload.path? ["data", "state"] == some (.str LifecycleState.exited.asStr) &&
      ((event.actor == "provider" &&
          [ExitReason.process, .interrupted, .terminated].any fun reason =>
            event.payload.path? ["data", "exit", "reason"] == some (.str reason.asStr)) ||
        (event.actor == "foreground" &&
          (((event.payload.path? ["data", "details", "code"]).bind JsonValue.asInt?).isSome ||
            ((event.payload.path? ["data", "details", "signal"]).bind JsonValue.asInt?).isSome)))

/-- A resource intent or an ownership of the run is unresolved. -/
def Db.uncertain (db : Db) (runId : RunId) (stopOperationId : OperationId) : Bool :=
  (db.operations.any fun row => row.runId == runId && row.id != stopOperationId &&
      (row.status == .pending || row.reconciliationState == some .desired ||
        row.reconciliationState == some .unknown)) ||
    (db.sessionControls.any fun control => control.scope.runId == runId &&
      !db.sessions.any fun session =>
        session.id == control.scope.sessionId && session.runId == control.scope.runId &&
          session.agentId == control.scope.agentId &&
          session.generation == control.scope.generation) ||
    (db.sessionControls.any fun control =>
      control.scope.runId == runId && control.phase != .completed &&
        !db.agents.any fun agent =>
          agent.id == control.scope.agentId && agent.runId == control.scope.runId &&
            agent.generation == control.scope.generation) ||
    (db.workspaces.any fun row =>
      row.runId == runId && (row.state == .desired || row.state == .unknown)) ||
    db.assignments.any fun row => row.runId == runId && row.completedAt == none &&
      !db.workspaces.any (·.assignmentId == row.id)

/-- A process exit and the revocation of its credential are on record for the session. -/
def Db.sessionSettled (db : Db) (session : SessionRecord) : Bool :=
  session.state == .exited && db.exitRecorded session && session.endedAt != none &&
    session.reconciliationState == .observed &&
    (db.sessionCredential session.id).any (·.revokedAt != none)

/-- The workspace still carries unfinished or submitted work: its assignment is not completed, or
    it is the latest one of a submitted task. -/
def Db.workspaceRetained (db : Db) (runId : RunId) (assignment : AssignmentRecord)
    (task : TaskRecord) : Bool :=
  assignment.completedAt == none ||
    task.status == .submitted &&
      (db.latestAssignmentForTask runId task.id).any (·.id == assignment.id)

/-- The rows around a retained workspace agree with each other. -/
def Db.retainedConsistent (db : Db) (runId : RunId) (workspace : WorkspaceRecord)
    (assignment : AssignmentRecord) (task : TaskRecord) : Bool :=
  assignment.runId == runId && assignment.generation == workspace.generation &&
    task.runId == runId && task.projectId == workspace.projectId &&
    ((db.agent assignment.agentId).any fun agent =>
      agent.runId == runId && agent.generation == assignment.generation) &&
    ((assignment.sessionId.bind db.session).any fun session =>
      session.runId == runId && session.agentId == assignment.agentId &&
        session.generation == assignment.generation) &&
    ((db.claim assignment.claimId).any fun claim =>
      claim.runId == runId && claim.agentId == assignment.agentId && claim.taskId == task.id &&
        (assignment.completedAt != none || claim.releasedAt == none)) &&
    workspace.state == .observed

/-- What a stopped run retains of one workspace. -/
def Db.retainedWorkspace (db : Db) (runId : RunId) (workspace : WorkspaceRecord) :
    Except StoreError (Option (WorkspaceRecord × ProjectRecord)) :=
  let reject (reason : String) : StoreError := .runRecoveryConflict runId reason
  match db.assignment workspace.assignmentId with
  | none => .error (reject "workspace assignment is missing")
  | some assignment =>
      match db.task assignment.taskId with
      | none => .error (reject "assignment task is missing")
      | some task =>
          if ¬ db.workspaceRetained runId assignment task then .ok none
          else if ¬ db.retainedConsistent runId workspace assignment task then
            .error (reject "assignment ownership is inconsistent; preserve the workspace and inspect `coterie doctor`")
          else
            match db.project workspace.projectId with
            | none => .error (reject "workspace project is missing")
            | some project =>
                if project.runId ≠ runId then
                  .error (reject "workspace project belongs to another run")
                else .ok (some (workspace, project))

/-- The run may be reactivated; the workspaces that it retains. -/
def Db.stoppedRunPreflight (db : Db) (runId : RunId) (operationId : OperationId) :
    Except StoreError (List (WorkspaceRecord × ProjectRecord)) := do
  let reject (reason : String) : StoreError := .runRecoveryConflict runId reason
  if ¬ (db.run runId).any fun run => run.status == .stopped && run.stoppedAt != none then
    .error (reject "the run is active or has no completed stop; reconnect with `coterie` for an active run, or finish `coterie stop` before stopped-run recovery")
  else
    match db.runShutdown runId with
    | none => .error (reject "completed shutdown evidence is missing")
    | some shutdown =>
        if shutdown.phase ≠ .completed ∨ ¬ (db.operation shutdown.operationId).any fun operation =>
            operation.runId == runId && operation.kind == "run.stop" &&
              operation.status == .completed && operation.reconciliationState == some .observed
        then
          .error (reject "shutdown is incomplete; preserve state and finish the original stop operation")
        else if db.uncertain runId operationId then
          .error (reject "resource intent or ownership remains unresolved; preserve state and inspect `coterie doctor`")
        else if ¬ (db.sessionsOf runId).all db.sessionSettled then
          .error (reject "process inactivity and credential revocation must be observed for every session; preserve state and inspect `coterie doctor`")
        else do
          let retained ← (db.workspaces.filter (·.runId == runId)).mapM (db.retainedWorkspace runId)
          pure (retained.filterMap id)

/-- The report of a reactivation. -/
structure RunRecoveryReport where
  runId : RunId
  operationId : OperationId
  previousStopOperationId : OperationId
  previousStoppedAt : Int
  recoveredAt : Int
deriving DecidableEq, Repr

/-- The text that tells the operator how to go on. -/
def RunRecoveryReport.nextStep : String :=
  "Launch `coterie` for a fresh session; inspect `prime` and use `task recover` before spawning unfinished task continuations."

/-- The report as the event stores it. -/
def RunRecoveryReport.toJson (report : RunRecoveryReport) : JsonValue :=
  .obj [("next_step", .str RunRecoveryReport.nextStep),
    ("operation_id", .str report.operationId.text),
    ("previous_stop_operation_id", .str report.previousStopOperationId.text),
    ("previous_stopped_at", .num report.previousStoppedAt),
    ("recovered_at", .num report.recoveredAt), ("run_id", .str report.runId.text)]

/-- The event of a reactivation. -/
def runRecoveredEvent (mutation : Mutation) (report : RunRecoveryReport)
    (shutdown : RunShutdown) : NewEvent where
  runId := mutation.runId
  kind := .runRecovered
  actor := "operator"
  subject := mutation.runId.text
  operationId := some mutation.id
  data := .obj [("previous_shutdown",
      .obj [("deadline_ms", .num shutdown.deadlineMs),
        ("interrupt_until_ms", .num shutdown.interruptUntilMs),
        ("operation_id", .str shutdown.operationId.text),
        ("phase", .str shutdown.phase.asStr), ("requested_at_ms", .num shutdown.requestedAtMs)]),
    ("reason", (mutation.request.get? "reason").getD .null), ("recovery", report.toJson)]
  createdAt := mutation.createdAt

/-- Make a stopped run active again and forget its completed shutdown. -/
def reactivateRun (mutation : Mutation) : Repo RunRecoveryReport := do
  let _ ← Tx.ofExcept (← Tx.read (·.stoppedRunPreflight mutation.runId mutation.id))
  let run ← Tx.okOr (.panicked "preflight verified the run") (← Tx.read (·.run mutation.runId))
  let shutdown ← Tx.okOr (.panicked "preflight verified shutdown")
    (← Tx.read (·.runShutdown mutation.runId))
  let stoppedAt ← Tx.okOr (.panicked "preflight verified stop time") run.stoppedAt
  let report : RunRecoveryReport :=
    { runId := mutation.runId, operationId := mutation.id,
      previousStopOperationId := shutdown.operationId, previousStoppedAt := stoppedAt,
      recoveredAt := mutation.createdAt }
  Tx.write fun db =>
    { db with
      runs := Table.updateWhere (·.id == mutation.runId)
        (fun row => { row with status := .active, stoppedAt := none }) db.runs }
  -- A synchronous exit can complete shutdown before the next control poll.
  Tx.each
    (fun control => Tx.when (control.phase ≠ .completed)
      (setControlPhase control .completed (saturate (mutation.createdAt * 1000))))
    (← Tx.read (·.sessionControlsOf mutation.runId))
  appendEvent (runRecoveredEvent mutation report shutdown)
  Tx.write fun db =>
    { db with runShutdowns := db.runShutdowns.filter (·.runId != mutation.runId) }
  pure report

end Coterie
