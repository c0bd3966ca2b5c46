/-
  Coterie.State.Tasks

  Tasks, dependencies, claims and assignments (`state.rs`).  A claim moves an open task to
  `in_progress` with one update whose condition is the whole readiness check, and creates the claim
  and the assignment beside it; the other transitions release both again.
-/

import Coterie.State.Sessions

namespace Coterie

/-! ## Tasks and dependencies -/

/-- Write a new task. -/
def insertTask (task : TaskRecord) : Repo Unit := do
  constraint (.unique "tasks.id") fun db => !db.tasks.any (·.id == task.id)
  constraint (.foreignKey "tasks.run_id, project_id") fun db =>
    db.projects.any fun project => project.id == task.projectId && project.runId == task.runId
  Tx.write fun db => { db with tasks := db.tasks ++ [task] }

/-- Write a new edge to a prerequisite. -/
def insertDependency (dependency : DependencyRecord) : Repo Unit := do
  constraint (.unique "task_dependencies") fun db =>
    !db.taskDependencies.any fun edge =>
      edge.taskId == dependency.taskId && edge.dependencyTaskId == dependency.dependencyTaskId
  constraint (.check "task_id <> dependency_task_id") fun _ =>
    dependency.taskId != dependency.dependencyTaskId
  constraint (.foreignKey "task_dependencies.run_id, task_id") fun db =>
    db.tasks.any fun task => task.id == dependency.taskId && task.runId == dependency.runId
  constraint (.foreignKey "task_dependencies.run_id, dependency_task_id") fun db =>
    db.tasks.any fun task =>
      task.id == dependency.dependencyTaskId && task.runId == dependency.runId
  Tx.write fun db => { db with taskDependencies := db.taskDependencies ++ [dependency] }

/-! ## Claims and assignments -/

namespace Db

/-- The next value of the claims' integer primary key. -/
def nextClaimId (db : Db) : Int :=
  (db.claims.map (·.id)).foldl max 0 + 1

def claim (db : Db) (id : Int) : Option ClaimRecord :=
  db.claims.find? (·.id == id)

def activeClaimForTask (db : Db) (runId : RunId) (taskId : TaskId) : Option ClaimRecord :=
  db.claims.find? fun claim =>
    claim.runId == runId && claim.taskId == taskId && claim.releasedAt == none

def activeAssignmentForAgent (db : Db) (runId : RunId) (agentId : AgentId) :
    Option AssignmentRecord :=
  db.assignments.find? fun assignment =>
    assignment.runId == runId && assignment.agentId == agentId && assignment.completedAt == none

def activeAssignmentForTask (db : Db) (runId : RunId) (taskId : TaskId) :
    Option AssignmentRecord :=
  db.assignments.find? fun assignment =>
    assignment.runId == runId && assignment.taskId == taskId && assignment.completedAt == none

/-- The assignment of a task with the greatest recorded creation time; among equals the one
    inserted last. -/
def latestAssignmentForTask (db : Db) (runId : RunId) (taskId : TaskId) :
    Option AssignmentRecord :=
  Table.latestBy (·.createdAt)
    (db.assignments.filter fun assignment =>
      assignment.runId == runId && assignment.taskId == taskId)

/-- Some prerequisite of the task is not closed. -/
def blocked (db : Db) (runId : RunId) (taskId : TaskId) : Bool :=
  db.taskDependencies.any fun edge =>
    edge.taskId == taskId && edge.runId == runId &&
      db.tasks.any fun dependency =>
        dependency.id == edge.dependencyTaskId && dependency.runId == edge.runId &&
          dependency.status != .closed

/-- A claim of the task is not released. -/
def taskClaimed (db : Db) (runId : RunId) (taskId : TaskId) : Bool :=
  db.claims.any fun claim =>
    claim.taskId == taskId && claim.runId == runId && claim.releasedAt == none

/-- An assignment of the agent is not completed. -/
def agentBusy (db : Db) (runId : RunId) (agentId : AgentId) : Bool :=
  db.assignments.any fun assignment =>
    assignment.agentId == agentId && assignment.runId == runId && assignment.completedAt == none

/-- Change the rows of one task. -/
def updateTask (db : Db) (runId : RunId) (taskId : TaskId) (f : TaskRecord → TaskRecord) : Db :=
  { db with
    tasks := Table.updateWhere (fun task => task.id == taskId && task.runId == runId) f db.tasks }

end Db

/-- Write a new assignment. -/
def insertAssignment (assignment : AssignmentRecord) : Repo Unit := do
  Tx.require (.staleAssignment assignment.id) fun db =>
    (db.agent assignment.agentId).any fun agent =>
      agent.runId == assignment.runId && agent.generation == assignment.generation
  Tx.require (.staleAssignment assignment.id) fun db =>
    assignment.sessionId.all fun sessionId =>
      (db.session sessionId).any fun session =>
        session.runId == assignment.runId && session.agentId == assignment.agentId &&
          session.generation == assignment.generation
  constraint (.unique "assignments.id") fun db => !db.assignments.any (·.id == assignment.id)
  constraint (.unique "one_assignment_per_claim") fun db =>
    !db.assignments.any (·.claimId == assignment.claimId)
  constraint (.unique "one_active_assignment_per_agent") fun db =>
    assignment.completedAt != none ||
      !db.assignments.any fun row =>
        row.agentId == assignment.agentId && row.completedAt == none
  constraint (.foreignKey "assignments.run_id, task_id") fun db =>
    db.tasks.any fun task => task.id == assignment.taskId && task.runId == assignment.runId
  constraint (.foreignKey "assignments.run_id, claim_id") fun db =>
    db.claims.any fun claim => claim.id == assignment.claimId && claim.runId == assignment.runId
  constraint (.check "assignments.generation") fun _ => 0 ≤ assignment.generation
  Tx.write fun db => { db with assignments := db.assignments ++ [assignment] }

/-- The complete input to an atomic task-claim mutation. -/
structure ClaimTaskMutation where
  operationId : OperationId
  runId : RunId
  actorAgentId : Option AgentId
  taskId : TaskId
  agentId : AgentId
  assignmentId : AssignmentId
  claimedAt : Int
deriving DecidableEq, Repr

/-- Why a task claim did not satisfy its compare-and-set preconditions. -/
inductive ClaimRejection where
  | taskNotFound
  | taskNotOpen
  | blocked
  | alreadyClaimed
  | agentNotFound
  | agentBusy
deriving DecidableEq, Repr

/-- The durable result of trying to claim a task. -/
inductive ClaimTaskResult where
  | claimed (claimId : Int) (assignmentId : AssignmentId)
  | rejected (rejection : ClaimRejection)
deriving DecidableEq, Repr

/-- The first precondition that a claim misses. -/
def claimRejection (db : Db) (claim : ClaimTaskMutation) : ClaimRejection :=
  if db.taskClaimed claim.runId claim.taskId then .alreadyClaimed
  else
    match db.tasks.find? fun task => task.id == claim.taskId && task.runId == claim.runId with
    | none => .taskNotFound
    | some task =>
        if task.status ≠ .opened then .taskNotOpen
        else if db.blocked claim.runId claim.taskId then .blocked
        else if db.agentBusy claim.runId claim.agentId then .agentBusy
        else .taskNotOpen

/-- The condition of the claiming update: the candidate row is open, unclaimed and unblocked, and
    the agent is free. -/
def ClaimTaskMutation.selects (claim : ClaimTaskMutation) (db : Db) (candidate : TaskRecord) :
    Bool :=
  candidate.id == claim.taskId && candidate.runId == claim.runId && candidate.status == .opened &&
    !db.taskClaimed candidate.runId candidate.id &&
    !db.blocked candidate.runId candidate.id &&
    !db.agentBusy candidate.runId claim.agentId

/-- The claim row of a successful claim. -/
def ClaimTaskMutation.claimRecord (claim : ClaimTaskMutation) (id : Int) : ClaimRecord where
  id := id
  runId := claim.runId
  taskId := claim.taskId
  agentId := claim.agentId
  operationId := claim.operationId
  state := .active
  claimedAt := claim.claimedAt
  releasedAt := none

/-- The assignment row of a successful claim. -/
def ClaimTaskMutation.assignmentRecord (claim : ClaimTaskMutation) (claimId generation : Int) :
    AssignmentRecord where
  id := claim.assignmentId
  runId := claim.runId
  taskId := claim.taskId
  agentId := claim.agentId
  sessionId := none
  claimId := claimId
  generation := generation
  state := .active
  summary := none
  createdAt := claim.claimedAt
  completedAt := none

/-- Insert a claim row. -/
def insertClaim (claim : ClaimRecord) : Repo Unit := do
  constraint (.unique "claims.id") fun db => !db.claims.any (·.id == claim.id)
  constraint (.unique "one_active_claim_per_task") fun db =>
    claim.releasedAt != none ||
      !db.claims.any fun row => row.taskId == claim.taskId && row.releasedAt == none
  constraint (.unique "one_claim_per_operation") fun db =>
    !db.claims.any (·.operationId == claim.operationId)
  constraint (.foreignKey "claims.run_id, task_id") fun db =>
    db.tasks.any fun task => task.id == claim.taskId && task.runId == claim.runId
  constraint (.foreignKey "claims.run_id, agent_id") fun db =>
    db.agents.any fun agent => agent.id == claim.agentId && agent.runId == claim.runId
  constraint (.foreignKey "claims.run_id, operation_id") fun db =>
    db.operations.any fun operation =>
      operation.id == claim.operationId && operation.runId == claim.runId
  Tx.write fun db => { db with claims := db.claims ++ [claim] }

/-- Atomically claims a ready task and creates its active assignment. -/
def compareAndSetClaim (claim : ClaimTaskMutation) : Repo ClaimTaskResult := do
  match ← Tx.read fun db =>
      db.agents.find? fun agent => agent.id == claim.agentId && agent.runId == claim.runId with
  | none => pure (.rejected .agentNotFound)
  | some agent =>
      if ¬ (← Tx.read fun db => db.tasks.any (claim.selects db)) then
        Tx.read fun db => .rejected (claimRejection db claim)
      else do
        Tx.write fun db =>
          { db with
            tasks := Table.updateWhere (claim.selects db)
              (fun task => { task with status := .inProgress, updatedAt := claim.claimedAt })
              db.tasks }
        let claimId ← Tx.read (·.nextClaimId)
        insertClaim (claim.claimRecord claimId)
        insertAssignment (claim.assignmentRecord claimId agent.generation)
        pure (.claimed claimId claim.assignmentId)

/-! ## Recoveries as the events record them -/

/-- A recovered assignment, as its event names it. -/
structure RecoverySource where
  taskId : TaskId
  assignmentId : AssignmentId
  projectId : ProjectId
deriving DecidableEq, Repr

/-- Read the source of a recovery back from its event. -/
def EventRecord.recoverySource? (event : EventRecord) : Option RecoverySource := do
  let taskId ← (event.payload.path? ["data", "task_id"]).bind JsonValue.asStr?
  let assignmentId ← (event.payload.path? ["data", "assignment_id"]).bind JsonValue.asStr?
  let projectId ← (event.payload.path? ["data", "project_id"]).bind JsonValue.asStr?
  return { taskId := ⟨taskId⟩, assignmentId := ⟨assignmentId⟩, projectId := ⟨projectId⟩ }

/-- A later assignment continues the recovered one. -/
def Db.recoveryContinued (db : Db) (runId : RunId) (source : RecoverySource) : Bool :=
  db.events.any fun event => event.runId == runId && event.eventType == .assignmentContinued &&
    event.payload.path? ["data", "previous_assignment_id"] == some (.str source.assignmentId.text)

/-- The recoveries of a run, oldest first; `none` when an event cannot be read back. -/
def Db.taskRecoveries? (db : Db) (runId : RunId) : Option (List RecoverySource) :=
  (db.events.filter fun event =>
    event.runId == runId && event.eventType == .taskRecovered).mapM EventRecord.recoverySource?

/-- The latest recovery of a task that no assignment continues yet. -/
def pendingRecovery (runId : RunId) (taskId : TaskId) : Repo (Option RecoverySource) := do
  let recoveries ← Tx.okOr (.encodeJson "task.recovered") (← Tx.read (·.taskRecoveries? runId))
  Tx.read fun db =>
    recoveries.reverse.find? fun source =>
      source.taskId == taskId && !db.recoveryContinued runId source

/-- Link a new assignment to the recovered one that it continues. -/
def linkContinuation (claim : ClaimTaskMutation) : Repo Unit := do
  match ← pendingRecovery claim.runId claim.taskId with
  | none => pure ()
  | some source =>
      appendEvent
        { runId := claim.runId
          kind := .assignmentContinued
          actor := mutationActor claim.actorAgentId
          subject := claim.assignmentId.text
          projectId := some source.projectId
          agentId := some claim.agentId
          taskId := some claim.taskId
          operationId := some claim.operationId
          data := .obj [("previous_assignment_id", .str source.assignmentId.text)]
          createdAt := claim.claimedAt }

/-- An event of a task mutation. -/
def ClaimTaskMutation.event (claim : ClaimTaskMutation) (task : TaskRecord) (kind : EventKind)
    (subject : String) (data : JsonValue) : NewEvent where
  runId := claim.runId
  kind := kind
  actor := mutationActor claim.actorAgentId
  subject := subject
  projectId := some task.projectId
  agentId := some claim.agentId
  taskId := some claim.taskId
  operationId := some claim.operationId
  data := data
  createdAt := claim.claimedAt

/-- Emits the normalized state changes produced by a successful task claim. -/
def appendTaskClaimEvents (claim : ClaimTaskMutation) (result : ClaimTaskResult) : Repo Unit := do
  match result with
  | .rejected _ => pure ()
  | .claimed claimId assignmentId => do
      let task ← Tx.okOr (.corruptTaskState claim.taskId "the claimed task disappeared")
        (← Tx.read (·.task claim.taskId))
      appendEvent (claim.event task .taskLifecycleChanged claim.taskId.text
        (.obj [("previous_status", .str TaskStatus.opened.asStr),
          ("status", .str TaskStatus.inProgress.asStr), ("transition", .str "claim")]))
      appendEvent (claim.event task .taskClaimed claim.taskId.text
        (.obj [("assignment_id", .str assignmentId.text), ("claim_id", .num claimId)]))
      let agent ← Tx.read (·.agent claim.agentId)
      appendEvent (claim.event task .assignmentCreated assignmentId.text
        (.obj [("claim_id", .num claimId),
          ("generation", .ofOption (fun a => .num a.generation) agent),
          ("state", .str "active")]))
      linkContinuation claim

/-! ## The other transitions -/

/-- Operator acceptance evidence, distinct from a workspace integration record. -/
structure OperatorClosureOverride where
  assignmentId : AssignmentId
  projectId : ProjectId
  baseCommit : String
  resultCommit : String
  targetReference : String
  targetCommit : String
  reason : String
  validationSummary : String
deriving DecidableEq, Repr

/-- The evidence as the task result and the event store it. -/
def OperatorClosureOverride.toJson (evidence : OperatorClosureOverride) : JsonValue :=
  .obj [("assignment_id", .str evidence.assignmentId.text),
    ("base_commit", .str evidence.baseCommit), ("project_id", .str evidence.projectId.text),
    ("reason", .str evidence.reason), ("result_commit", .str evidence.resultCommit),
    ("target_commit", .str evidence.targetCommit),
    ("target_reference", .str evidence.targetReference),
    ("validation_summary", .str evidence.validationSummary)]

/-- The complete input to an idempotent task-lifecycle mutation. -/
structure TaskTransitionMutation where
  operationId : OperationId
  runId : RunId
  actorAgentId : Option AgentId
  taskId : TaskId
  transition : TaskTransition
  result : Option JsonValue
  operatorOverride : Option OperatorClosureOverride
  summary : Option String
  transitionedAt : Int
deriving DecidableEq, Repr

/-- Why a task-lifecycle mutation could not be applied. -/
inductive TaskTransitionRejection where
  | taskNotFound
  | invalidStatus (status : TaskStatus)
  | acceptanceNotMet
deriving DecidableEq, Repr

/-- The durable result of trying to change a task's lifecycle state. -/
inductive TaskTransitionResult where
  | transitioned (previousStatus status : TaskStatus)
  | rejected (rejection : TaskTransitionRejection)
deriving DecidableEq, Repr

/-- The white-space characters that trimming a text removes. -/
def isWhitespace (c : Char) : Bool :=
  (9 ≤ c.toNat && c.toNat ≤ 13) || (0x2000 ≤ c.toNat && c.toNat ≤ 0x200a) ||
    [0x20, 0x85, 0xa0, 0x1680, 0x2028, 0x2029, 0x202f, 0x205f, 0x3000].contains c.toNat

/-- Nothing but white space. -/
def isBlank (text : String) : Bool :=
  text.toList.all isWhitespace

/-- The recorded workspace is the unintegrated worktree that the evidence describes. -/
def OperatorClosureOverride.describes (evidence : OperatorClosureOverride) (runId : RunId)
    (task : TaskRecord) (workspace : WorkspaceRecord) : Bool :=
  workspace.runId == runId && workspace.projectId == task.projectId &&
    workspace.kind == .worktree && workspace.targetCommit == none &&
    workspace.baseCommit == some evidence.baseCommit &&
    workspace.resultCommit == some evidence.resultCommit

/-- An override is for the operator alone, and for the completed, unintegrated assignment that
    counts as the task's latest. -/
def TaskTransitionMutation.overrideValid (mutation : TaskTransitionMutation) (db : Db)
    (task : TaskRecord) (evidence : OperatorClosureOverride) : Bool :=
  mutation.actorAgentId == none && mutation.transition == .close && task.status == .submitted &&
    evidence.projectId == task.projectId && !isBlank evidence.reason &&
    !isBlank evidence.validationSummary &&
    ((db.latestAssignmentForTask mutation.runId task.id).any fun assignment =>
      assignment.id == evidence.assignmentId && assignment.state == .completed) &&
    (db.workspace evidence.assignmentId).any (evidence.describes mutation.runId task)

/-- The assignment that counts as the task's latest works in a worktree that is not integrated. -/
def Db.unintegrated (db : Db) (runId : RunId) (taskId : TaskId) : Bool :=
  (db.latestAssignmentForTask runId taskId).any fun assignment =>
    (db.workspace assignment.id).any fun workspace =>
      workspace.kind == .worktree && workspace.targetCommit == none

/-- The transition lacks the acceptance evidence that a closure needs. -/
def TaskTransitionMutation.acceptanceNotMet (mutation : TaskTransitionMutation) (db : Db)
    (task : TaskRecord) : Bool :=
  match mutation.operatorOverride with
  | some evidence => !mutation.overrideValid db task evidence
  | none => mutation.transition == .close && task.status == .submitted &&
      db.unintegrated mutation.runId mutation.taskId

/-- The state of an assignment after a transition of its task released it. -/
def TaskTransition.assignmentState : TaskTransition → Option AssignmentState
  | .reopen => some .released
  | .submit => some .completed
  | .cancel => some .canceled
  | .close => none

namespace Db

/-- The active assignments of a task. -/
def activeAssignmentsOf (db : Db) (runId : RunId) (taskId : TaskId) : List AssignmentRecord :=
  db.assignments.filter fun row =>
    row.taskId == taskId && row.runId == runId && row.completedAt == none

/-- The unreleased claims of a task. -/
def activeClaimsOf (db : Db) (runId : RunId) (taskId : TaskId) : List ClaimRecord :=
  db.claims.filter fun row =>
    row.taskId == taskId && row.runId == runId && row.releasedAt == none

/-- The tables after the ownership of a task was released. -/
def releaseOwnership (db : Db) (runId : RunId) (taskId : TaskId) (state : AssignmentState)
    (summary : Option String) (releasedAt : Int) : Db :=
  { db with
    assignments := Table.updateWhere
      (fun row => row.taskId == taskId && row.runId == runId && row.completedAt == none)
      (fun row =>
        { row with
          state := state, summary := summary.or row.summary, completedAt := some releasedAt })
      db.assignments
    claims := Table.updateWhere
      (fun row => row.taskId == taskId && row.runId == runId && row.releasedAt == none)
      (fun row => { row with state := .released, releasedAt := some releasedAt }) db.claims }

end Db

/-- Release the one active assignment and claim of a task that is in progress. -/
def releaseTaskOwnership (mutation : TaskTransitionMutation) : Repo Unit := do
  match mutation.transition.assignmentState with
  | none =>
      throw (.corruptTaskState mutation.taskId "an in-progress task cannot close directly")
  | some state => do
      let assignments ← Tx.read fun db =>
        (db.activeAssignmentsOf mutation.runId mutation.taskId).length
      let claims ← Tx.read fun db => (db.activeClaimsOf mutation.runId mutation.taskId).length
      Tx.write (·.releaseOwnership mutation.runId mutation.taskId state mutation.summary
        mutation.transitionedAt)
      Tx.when (assignments ≠ 1 ∨ claims ≠ 1)
        (throw (.corruptTaskState mutation.taskId
          s!"expected one active assignment and claim, found {assignments} and {claims}"))

/-- The result that a task keeps after a transition. -/
def TaskTransitionMutation.storedResult (mutation : TaskTransitionMutation)
    (recorded : Option JsonValue) : Option JsonValue :=
  match mutation.transition with
  | .reopen => none
  | .submit => mutation.result
  | .close => mutation.result.or recorded
  | .cancel => recorded

/-- Apply a lifecycle action to a task of the run. -/
def applyTaskTransition (mutation : TaskTransitionMutation) : Repo TaskTransitionResult := do
  match (← Tx.read (·.task mutation.taskId)).filter (·.runId == mutation.runId) with
  | none => pure (.rejected .taskNotFound)
  | some task =>
      match task.status.transition mutation.transition with
      | none => pure (.rejected (.invalidStatus task.status))
      | some status =>
          if ← Tx.read (mutation.acceptanceNotMet · task) then
            pure (.rejected .acceptanceNotMet)
          else do
            Tx.when (task.status = .inProgress) (releaseTaskOwnership mutation)
            Tx.write (·.updateTask mutation.runId mutation.taskId fun row =>
              { row with
                status := status
                result := mutation.storedResult task.result
                updatedAt := mutation.transitionedAt })
            pure (.transitioned task.status status)

/-- The event data of a transition, with the evidence of an override. -/
def TaskTransitionMutation.eventData (mutation : TaskTransitionMutation)
    (previousStatus status : TaskStatus) : JsonValue :=
  match mutation.operatorOverride with
  | none => .obj [("previous_status", .str previousStatus.asStr), ("status", .str status.asStr),
      ("transition", .str mutation.transition.asStr)]
  | some evidence => .obj [("operator_override", evidence.toJson),
      ("previous_status", .str previousStatus.asStr), ("status", .str status.asStr),
      ("transition", .str mutation.transition.asStr)]

/-- An event of a task transition. -/
def TaskTransitionMutation.event (mutation : TaskTransitionMutation) (task : TaskRecord)
    (kind : EventKind) (subject : String) (agentId : Option AgentId) (data : JsonValue) :
    NewEvent where
  runId := mutation.runId
  kind := kind
  actor := mutationActor mutation.actorAgentId
  subject := subject
  projectId := some task.projectId
  agentId := agentId
  taskId := some mutation.taskId
  operationId := some mutation.operationId
  data := data
  createdAt := mutation.transitionedAt

/-- The events of what a transition out of `in_progress` released. -/
def appendReleaseEvents (mutation : TaskTransitionMutation) (task : TaskRecord)
    (activeAssignment : Option AssignmentRecord) (activeClaim : Option ClaimRecord) :
    Repo Unit := do
  let assignment ← Tx.okOr
    (.corruptTaskState mutation.taskId "the transitioned task had no active assignment")
    activeAssignment
  let claim ← Tx.okOr
    (.corruptTaskState mutation.taskId "the transitioned task had no active claim") activeClaim
  let assignmentState ← Tx.okOr (.panicked "an in-progress task cannot close directly")
    mutation.transition.assignmentState
  appendEvent (mutation.event task .assignmentLifecycleChanged assignment.id.text
    (some assignment.agentId)
    (.obj [("previous_state", .str assignment.state.asStr),
      ("state", .str assignmentState.asStr)]))
  appendEvent (mutation.event task .claimReleased mutation.taskId.text (some claim.agentId)
    (.obj [("claim_id", .num claim.id)]))

/-- The closure of the transition mutation: the transition, and the events of what it released. -/
def transitionTaskBody (mutation : TaskTransitionMutation) : Repo TaskTransitionResult := do
  let activeClaim ← Tx.read (·.activeClaimForTask mutation.runId mutation.taskId)
  let activeAssignment ← Tx.read (·.activeAssignmentForTask mutation.runId mutation.taskId)
  let result ← applyTaskTransition mutation
  match result with
  | .rejected _ => pure result
  | .transitioned previousStatus status => do
      let task ← Tx.okOr (.corruptTaskState mutation.taskId "the transitioned task disappeared")
        (← Tx.read (·.task mutation.taskId))
      appendEvent (mutation.event task .taskLifecycleChanged mutation.taskId.text
        mutation.actorAgentId (mutation.eventData previousStatus status))
      Tx.when (previousStatus = .inProgress)
        (appendReleaseEvents mutation task activeAssignment activeClaim)
      pure result

end Coterie
