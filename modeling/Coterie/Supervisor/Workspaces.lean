/-
  Coterie.Supervisor.Workspaces

  The transactions of the workspace supervisor (`workspace.rs`): the observed state of a worktree,
  the result commit of an assignment and the record of a guarded integration.
-/

import Coterie.State.Recovery

namespace Coterie

/-! ## Integration plans -/

/-- How a contribution reaches its target branch. -/
inductive IntegrationStrategy where
  /-- Replay contribution commits on the target, fast-forwarding when possible. -/
  | rebase
  /-- Fast-forward when possible, otherwise create a two-parent merge commit. -/
  | merge
deriving DecidableEq, Repr

/-- The stored name of a strategy. -/
def IntegrationStrategy.asStr : IntegrationStrategy → String
  | .rebase => "rebase"
  | .merge => "merge"

/-- Immutable Git observations recorded before an integration side effect. -/
structure IntegrationPlan where
  runId : RunId
  generation : Int
  assignmentId : AssignmentId
  projectId : ProjectId
  targetReference : String
  targetCommit : String
  integratedAt : Int
  strategy : IntegrationStrategy
deriving DecidableEq, Repr

/-- The ownership of the workspace that a plan integrates. -/
def IntegrationPlan.scope (plan : IntegrationPlan) : AssignmentScope where
  runId := plan.runId
  assignmentId := plan.assignmentId
  generation := plan.generation

/-- The plan as the operation and its event store it. -/
def IntegrationPlan.toJson (plan : IntegrationPlan) : JsonValue :=
  .obj [("assignment_id", .str plan.assignmentId.text), ("generation", .num plan.generation),
    ("integrated_at", .num plan.integratedAt), ("project_id", .str plan.projectId.text),
    ("run_id", .str plan.runId.text), ("strategy", .str plan.strategy.asStr),
    ("target_commit", .str plan.targetCommit), ("target_reference", .str plan.targetReference)]

/-- Exact Git identities observed after applying an integration plan. -/
structure IntegrationRecord where
  strategy : IntegrationStrategy
  assignmentId : AssignmentId
  projectId : ProjectId
  targetReference : String
  baseCommit : String
  resultCommit : String
  targetCommitBefore : String
  targetCommit : String
deriving DecidableEq, Repr

/-- The record as its event stores it. -/
def IntegrationRecord.toJson (integration : IntegrationRecord) : JsonValue :=
  .obj [("assignment_id", .str integration.assignmentId.text),
    ("base_commit", .str integration.baseCommit),
    ("project_id", .str integration.projectId.text),
    ("result_commit", .str integration.resultCommit),
    ("strategy", .str integration.strategy.asStr),
    ("target_commit", .str integration.targetCommit),
    ("target_commit_before", .str integration.targetCommitBefore),
    ("target_reference", .str integration.targetReference)]

/-! ## Transactions -/

/-- An event about the workspace of an assignment. -/
def WorkspaceRecord.event (workspace : WorkspaceRecord) (assignment : AssignmentRecord)
    (kind : EventKind) (actor : String) (operationId : Option OperationId) (data : JsonValue)
    (createdAt : Int) : NewEvent where
  runId := workspace.runId
  kind := kind
  actor := actor
  subject := workspace.assignmentId.text
  projectId := some workspace.projectId
  agentId := some assignment.agentId
  taskId := some assignment.taskId
  operationId := operationId
  data := data
  createdAt := createdAt

/-- The event of a changed workspace state. -/
def workspaceStateEvent (workspace : WorkspaceRecord) (assignment : AssignmentRecord)
    (state : ExternalResourceState) (reconciledAt : Int) : NewEvent :=
  workspace.event assignment .workspaceReconciliationChanged "reconciler" none
    (.obj [("previous_state", .str workspace.state.asStr), ("state", .str state.asStr)])
    reconciledAt

/-- Record the observed state of a workspace. -/
def recordWorkspaceState (workspace : WorkspaceRecord) (state : ExternalResourceState)
    (reconciledAt : Int) : Repo Unit := do
  let outcome ← recordWorkspaceReconciliationState workspace.scope state reconciledAt
  Tx.when (outcome = .applied) (do
    let assignment ← Tx.okOr
      (.corruptAssignmentState workspace.assignmentId "the workspace assignment does not exist")
      (← Tx.read (·.assignment workspace.assignmentId))
    appendEvent (workspaceStateEvent workspace assignment state reconciledAt))

/-- Durably record the commit produced by an assignment. -/
def recordResultCommit (scope : AssignmentScope) (resultCommit : String) : Repo Unit := do
  let _ ← recordWorkspaceResultCommit scope resultCommit
  pure ()

/-- Record the target commit of an integration and the end of its operation. -/
def recordIntegration (workspace : WorkspaceRecord) (plan : IntegrationPlan)
    (integration : IntegrationRecord) (operationId : OperationId) (actor : String)
    (reconciledAt : Int) : Repo Unit := do
  let outcome ← recordWorkspaceTargetCommit plan.scope integration.targetCommit
  Tx.when (outcome = .applied) (do
    let assignment ← Tx.okOr
      (.corruptAssignmentState plan.assignmentId
        "the integrated workspace assignment does not exist")
      (← Tx.read (·.assignment plan.assignmentId))
    appendEvent (workspace.event assignment .workspaceIntegrated actor (some operationId)
      integration.toJson plan.integratedAt))
  let _ ← recordOperationReconciliation operationId .observed none reconciledAt
  pure ()

end Coterie
