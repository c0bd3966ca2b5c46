/-
  Coterie.State.Workspaces

  Assignment workspaces (`state.rs`, `state/migrations/0014_workspace_bindings.sql`) and the
  association of an assignment with its session.  A workspace is read and written through the
  immutable scope of its assignment, which a new generation or a recovery retires.
-/

import Coterie.State.Tasks

namespace Coterie

/-! ## Path ownership -/

/-- The assignment may still write to its project directory: it is not finished, or the exit of
    one of its agent's sessions was not observed. -/
def Db.projectWriter (db : Db) (assignment : AssignmentRecord) : Bool :=
  assignment.completedAt == none ||
    !(assignment.state == .completed || assignment.state == .released ||
      assignment.state == .canceled) ||
    assignment.sessionId == none ||
    (!db.sessions.any fun session =>
      some session.id == assignment.sessionId && session.runId == assignment.runId &&
        session.agentId == assignment.agentId && session.generation == assignment.generation &&
        session.state == .exited && session.reconciliationState == .observed) ||
    db.sessions.any fun session =>
      session.runId == assignment.runId && session.agentId == assignment.agentId &&
        (session.state != .exited || session.reconciliationState != .observed)

/-- A recorded workspace keeps its path from a new workspace of the kind. -/
def Db.pathReservedBy (db : Db) (runId : RunId) (path : String) (kind : WorkspaceKind)
    (row : WorkspaceRecord) : Bool :=
  row.runId == runId && row.path == path &&
    db.assignments.any fun assignment =>
      assignment.id == row.assignmentId && assignment.runId == row.runId &&
        (row.kind == .worktree || kind == .worktree ||
          kind == .project && row.kind == .project && db.projectWriter assignment)

/-- Write a new workspace. -/
def insertWorkspace (workspace : WorkspaceRecord) : Repo Unit := do
  match ← Tx.read fun db =>
      db.workspaces.find? (db.pathReservedBy workspace.runId workspace.path workspace.kind) with
  | some row => throw (.workspacePathReserved row.assignmentId)
  | none => do
      constraint (.unique "workspaces.assignment_id") fun db =>
        !db.workspaces.any (·.assignmentId == workspace.assignmentId)
      constraint (.unique "isolated_workspace_paths") fun db =>
        workspace.kind != .worktree ||
          !db.workspaces.any fun row =>
            row.runId == workspace.runId && row.path == workspace.path && row.kind == .worktree
      constraint (.trigger "workspace ownership does not match its assignment") fun db =>
        db.assignments.any fun assignment =>
          assignment.id == workspace.assignmentId && assignment.runId == workspace.runId &&
            assignment.generation == workspace.generation &&
            db.tasks.any fun task =>
              task.id == assignment.taskId && task.runId == assignment.runId &&
                task.projectId == workspace.projectId
      constraint (.foreignKey "workspaces.run_id, project_id") fun db =>
        db.projects.any fun project =>
          project.id == workspace.projectId && project.runId == workspace.runId
      constraint (.check "workspaces.generation") fun _ => 0 ≤ workspace.generation
      Tx.write fun db => { db with workspaces := db.workspaces ++ [workspace] }

/-! ## Scoped access -/

namespace Db

/-- A recovery of the run retired this assignment. -/
def assignmentRecovered (db : Db) (runId : RunId) (assignmentId : AssignmentId) : Bool :=
  db.events.any fun event => event.runId == runId && event.eventType == .taskRecovered &&
    event.payload.path? ["data", "assignment_id"] == some (.str assignmentId.text)

/-- The scope names an assignment of its agent's current generation in an active run, and no
    recovery retired it. -/
def assignmentScopeIsCurrent (db : Db) (scope : AssignmentScope) : Bool :=
  (db.assignments.any fun assignment =>
      assignment.id == scope.assignmentId && assignment.runId == scope.runId &&
        assignment.generation == scope.generation &&
        (db.agents.any fun agent =>
          agent.id == assignment.agentId && agent.runId == assignment.runId &&
            agent.generation == scope.generation) &&
        assignment.sessionId.all fun sessionId =>
          db.sessions.any fun session =>
            session.id == sessionId && session.runId == assignment.runId &&
              session.agentId == assignment.agentId &&
              session.generation == assignment.generation) &&
    (db.runs.any fun run => run.id == scope.runId && run.status == .active) &&
    !db.assignmentRecovered scope.runId scope.assignmentId

/-- Loads a workspace only while its immutable ownership remains current. -/
def workspaceForScope (db : Db) (scope : AssignmentScope) : Option WorkspaceRecord :=
  if db.assignmentScopeIsCurrent scope then
    (db.workspace scope.assignmentId).filter (·.scope == scope)
  else none

/-- Change the workspace of one assignment. -/
def updateWorkspace (db : Db) (assignmentId : AssignmentId)
    (f : WorkspaceRecord → WorkspaceRecord) : Db :=
  { db with workspaces := Table.updateWhere (·.assignmentId == assignmentId) f db.workspaces }

end Db

/-- Record what is known about the worktree of an assignment. -/
def recordWorkspaceReconciliationState (scope : AssignmentScope) (state : ExternalResourceState)
    (reconciledAt : Int) : Repo ResourceTransitionOutcome := do
  match ← Tx.read (·.workspaceForScope scope) with
  | none => pure .stale
  | some workspace =>
      if workspace.state = state then pure .unchanged
      else do
        Tx.write (·.updateWorkspace scope.assignmentId fun row =>
          { row with state := state, reconciledAt := some reconciledAt })
        pure .applied

/-- Record the result commit of an assignment, once. -/
def recordWorkspaceResultCommit (scope : AssignmentScope) (resultCommit : String) :
    Repo ResourceTransitionOutcome := do
  match ← Tx.read (·.workspaceForScope scope) with
  | none => pure .stale
  | some workspace =>
      match workspace.resultCommit with
      | some recorded =>
          if recorded = resultCommit then pure .unchanged
          else throw (.workspaceResultConflict scope.assignmentId recorded resultCommit)
      | none => do
          Tx.write (·.updateWorkspace scope.assignmentId fun row =>
            { row with resultCommit := some resultCommit })
          pure .applied

/-- Record the target commit of an integrated assignment, once. -/
def recordWorkspaceTargetCommit (scope : AssignmentScope) (targetCommit : String) :
    Repo ResourceTransitionOutcome := do
  match ← Tx.read (·.workspaceForScope scope) with
  | none => pure .stale
  | some workspace =>
      match workspace.targetCommit with
      | some recorded =>
          if recorded = targetCommit then pure .unchanged
          else throw (.workspaceTargetConflict scope.assignmentId recorded targetCommit)
      | none => do
          Tx.write (·.updateWorkspace scope.assignmentId fun row =>
            { row with targetCommit := some targetCommit })
          pure .applied

/-- Bind an assignment to the live session of its agent's generation. -/
def associateAssignmentSession (assignmentId : AssignmentId) (sessionId : SessionId) :
    Repo Unit := do
  Tx.require
    (.corruptAssignmentState assignmentId
      s!"session `{sessionId.text}` does not own this generation") fun db =>
    match db.assignment assignmentId, db.session sessionId with
    | some assignment, some session =>
        assignment.runId == session.runId && assignment.agentId == session.agentId &&
          assignment.generation == session.generation && !session.state.isTerminal &&
          db.sessionScopeIsCurrent session.scope
    | _, _ => false
  Tx.require
    (.corruptAssignmentState assignmentId s!"cannot accept session `{sessionId.text}`") fun db =>
    db.assignments.any fun row =>
      row.id == assignmentId && row.sessionId == none && row.completedAt == none
  Tx.write fun db =>
    { db with
      assignments := Table.updateWhere
        (fun row => row.id == assignmentId && row.sessionId == none && row.completedAt == none)
        (fun row => { row with sessionId := some sessionId }) db.assignments }

end Coterie
