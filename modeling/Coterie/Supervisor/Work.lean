/-
  Coterie.Supervisor.Work

  The two requests about an agent's work that take more than one transaction (`supervisor.rs`:
  `finish_assignment`, `integrate_workspace`).  A request reads the run database, asks the worktree
  and commits transactions one after the other; what was committed stays when a later part of the
  request is refused.

  `workMachine` is the run database under these requests and all other commands.  A crash inside a
  request leaves the transactions before it, which are commands of their own.
-/

import Coterie.Supervisor.Machine

namespace Coterie

/-! ## Requests -/

/-- The kind of a refusal, as the caller sees it. -/
inductive RpcFailureCode where
  | unauthenticated
  | invalidArgument
  | permissionDenied
  | notFound
  | conflict
  | unavailable
  | internal
deriving DecidableEq, Repr

/-- Why a request was refused: by the supervisor, by a transaction, or by the worktree. -/
inductive RequestError where
  | rpc (code : RpcFailureCode) (message : String)
  | state (error : StoreError)
  | workspace (message : String)
deriving DecidableEq, Repr

/-- A request: its writes stay, also when it is refused. -/
abbrev Request (α : Type) : Type := Tx Db RequestError α

/-- One transaction of a request. -/
def committed {α : Type} (x : Repo α) : Request α :=
  ⟨fun db =>
    match (Tx.transaction x).run db with
    | (.ok a, db') => (.ok a, db')
    | (.error e, db') => (.error (.state e), db')⟩

/-- A transaction of a request commits, or leaves the database as it was. -/
theorem committed_cases {α : Type} (x : Repo α) (db : Db) :
    (∃ a db', x.run db = (.ok a, db') ∧ (committed x).run db = (.ok a, db')) ∨
      ∃ e, (committed x).run db = (.error (.state e), db) := by
  have hrun : (committed x).run db =
      match (Tx.transaction x).run db with
      | (.ok a, db') => (.ok a, db')
      | (.error e, db') => (.error (.state e), db') := rfl
  rcases Tx.transaction_cases x db with ⟨a, db', hx, ht⟩ | ⟨e, -, ht⟩
  · rw [ht] at hrun
    exact .inl ⟨a, db', hx, hrun⟩
  · rw [ht] at hrun
    exact .inr ⟨e, hrun⟩

theorem committed_ok {α : Type} {x : Repo α} {a : α} {db db' : Db}
    (h : (committed x).run db = (.ok a, db')) : x.run db = (.ok a, db') := by
  rcases committed_cases x db with ⟨_, _, hx, hc⟩ | ⟨_, hc⟩
  · rw [hc] at h
    rw [hx]
    simp only [Prod.mk.injEq, Except.ok.injEq] at h ⊢
    exact h
  · rw [hc] at h
    cases h

/-- What a successful transaction ensures, a request keeps. -/
theorem keeps_committed {α : Type} {R : Db → Db → Prop} [Std.Refl R] {x : Repo α}
    (h : Tx.Ensures R x) : Tx.Keeps R (committed x) := by
  intro db
  rcases committed_cases x db with ⟨a, db', hx, hc⟩ | ⟨e, hc⟩
  · rw [hc]
    exact h db a db' hx
  · rw [hc]
    exact Std.Refl.refl db

/-! ## Finishing an assignment -/

/-- The outcome that a worker reports. -/
inductive FinishStatus where
  | completed
  | failed
deriving DecidableEq, Repr

/-- The stored name of an outcome. -/
def FinishStatus.asStr : FinishStatus → String
  | .completed => "completed"
  | .failed => "failed"

/-- The transition that an outcome stands for. -/
def FinishStatus.transition : FinishStatus → TaskTransition
  | .completed => .submit
  | .failed => .reopen

/-- A worker's request to finish, and what it reads outside the database: the commit at which its
    worktree stands, and the clock. -/
structure FinishRequest where
  caller : SessionScope
  operationId : OperationId
  status : FinishStatus
  summary : String
  requestFingerprint : Option String
  head : Except String String
  now : Int

/-- The newest assignment of an agent to a task. -/
def Db.assignmentForAgentTask (db : Db) (runId : RunId) (agentId : AgentId) (taskId : TaskId) :
    Option AssignmentRecord :=
  Table.latestBy (·.createdAt)
    (db.assignments.filter fun assignment =>
      assignment.runId == runId && assignment.agentId == agentId && assignment.taskId == taskId)

namespace FinishRequest

/-- The operation was recorded before. -/
def replaying (finish : FinishRequest) (db : Db) : Bool :=
  (db.operation finish.operationId).isSome

/-- The assignment to finish: the caller's active one, or the one of a recorded operation. -/
def target (finish : FinishRequest) (db : Db) : Option AssignmentRecord :=
  match db.operation finish.operationId with
  | some existing =>
      ((existing.request.get? "task_id").bind JsonValue.asStr?).bind fun taskId =>
        db.assignmentForAgentTask finish.caller.runId finish.caller.agentId ⟨taskId⟩
  | none => db.activeAssignmentForAgent finish.caller.runId finish.caller.agentId

/-- The caller's session is current and owns the assignment. -/
def owns (finish : FinishRequest) (assignment : AssignmentRecord) (db : Db) : Bool :=
  assignment.runId == finish.caller.runId && assignment.agentId == finish.caller.agentId &&
    assignment.generation == finish.caller.generation &&
    assignment.sessionId == some finish.caller.sessionId && db.sessionScopeIsCurrent finish.caller

/-- The result of the assignment, with the commits that its workspace records. -/
def result (finish : FinishRequest) (workspace : Option WorkspaceRecord) : JsonValue :=
  .obj ((workspace.bind (·.baseCommit)).elim [] (fun commit => [("base_commit", .str commit)]) ++
    (workspace.bind (·.resultCommit)).elim [] (fun commit => [("result_commit", .str commit)]) ++
    [("status", .str finish.status.asStr), ("summary", .str finish.summary)])

/-- The result that the transition carries: a replayed operation repeats its recorded one. -/
def carriedResult (finish : FinishRequest) (assignment : AssignmentRecord) (db : Db) : JsonValue :=
  ((db.operation finish.operationId).bind (·.request.get? "result")).getD
    (finish.result (db.workspace assignment.id))

/-- The transition of the assignment's task. -/
def taskTransition (finish : FinishRequest) (assignment : AssignmentRecord) (db : Db) :
    TaskTransitionMutation where
  operationId := finish.operationId
  runId := finish.caller.runId
  actorAgentId := some finish.caller.agentId
  taskId := assignment.taskId
  transition := finish.status.transition
  result := some (finish.carriedResult assignment db)
  operatorOverride := none
  summary := some finish.summary
  transitionedAt := finish.now

end FinishRequest

/-- The project of a workspace that is still owned by its scope. -/
def workspaceRecords (scope : AssignmentScope) : Request (WorkspaceRecord × ProjectRecord) := do
  let workspace ← Tx.okOr (.state (.staleAssignment scope.assignmentId))
    (← Tx.read (·.workspaceForScope scope))
  let project ← Tx.okOr (.workspace "the workspace project is missing")
    (← Tx.read (·.project workspace.projectId))
  pure (workspace, project)

/-- Durably record the commit at which a worktree stands; the other kinds have none. -/
def observeResultCommit (head : Except String String) (scope : AssignmentScope) :
    Request Unit := do
  let (workspace, _) ← workspaceRecords scope
  match workspace.kind with
  | .project | .readOnly => pure ()
  | .worktree =>
      match head with
      | .error message => throw (.workspace message)
      | .ok commit => committed (recordResultCommit scope commit)

/-- Finish an assignment: record the result commit of completed work, then move the task. -/
def finishAssignment (finish : FinishRequest) : Request AssignmentId := do
  Tx.require (.rpc .invalidArgument "finish summary cannot be empty") fun _ =>
    !isBlank finish.summary
  let replaying ← Tx.read finish.replaying
  let assignment ← Tx.okOr (.rpc .conflict "the caller has no active assignment; for an incorrect submitted result, ask an operator or agent with `task:resubmit` to run `coterie task resubmit --assignment ID --expected-result OLD --result NEW --summary TEXT --reason TEXT`")
    (← Tx.read finish.target)
  Tx.require (.rpc .conflict "the assignment belongs to another session generation")
    (finish.owns assignment)
  Tx.when (finish.status = .completed ∧ replaying = false)
    (observeResultCommit finish.head assignment.scope)
  let transition ← Tx.read (finish.taskTransition assignment)
  committed (discard (transitionTaskWithFingerprint transition finish.requestFingerprint))
  pure assignment.id

/-! ## Integrating a workspace -/

/-- A request to integrate a workspace, and what it reads outside the database: the target branch
    and its tip, and the clock. -/
structure IntegrationRequest where
  ctx : RequestContext
  assignmentId : AssignmentId
  strategy : Option IntegrationStrategy
  target : Except String (String × String)

/-- The strategy of a request that names none. -/
def IntegrationStrategy.default : IntegrationStrategy := .rebase

/-- Captures a read-only, immutable plan for one guarded integration. -/
def prepareIntegration (request : IntegrationRequest) (scope : AssignmentScope) :
    Request IntegrationPlan := do
  let (workspace, project) ← workspaceRecords scope
  Tx.require (.workspace "only worktree workspaces can be integrated") fun _ =>
    workspace.kind == .worktree
  Tx.require (.workspace "the base commit is missing") fun _ => workspace.baseCommit.isSome
  Tx.require (.workspace "the result commit is missing") fun _ => workspace.resultCommit.isSome
  match request.target with
  | .error message => throw (.workspace message)
  | .ok (reference, commit) =>
      pure
        { runId := workspace.runId
          generation := workspace.generation
          assignmentId := workspace.assignmentId
          projectId := project.id
          targetReference := reference
          targetCommit := commit
          integratedAt := request.ctx.now
          strategy := request.strategy.getD .default }

/-- The plan for a new integration of submitted work. -/
def preparedIntegration (request : IntegrationRequest) : Request IntegrationPlan := do
  let id := request.assignmentId
  let assignment ← Tx.okOr (.rpc .notFound s!"assignment `{id.text}` does not exist")
    ((← Tx.read (·.assignment id)).filter (·.runId == request.ctx.runId))
  Tx.require (.rpc .conflict s!"assignment `{id.text}` has not completed successfully") fun _ =>
    assignment.state == .completed && assignment.completedAt != none
  let task ← Tx.okOr (.rpc .internal s!"assignment `{id.text}` has no task")
    (← Tx.read (·.task assignment.taskId))
  Tx.require (.rpc .conflict s!"task `{task.id.text}` is not awaiting integration") fun _ =>
    task.status == .submitted
  let workspace ← Tx.okOr (.rpc .internal s!"assignment `{id.text}` has no workspace")
    (← Tx.read (·.workspace id))
  Tx.require (.rpc .conflict
    s!"workspace `{id.text}` reconciliation state is `{workspace.state.asStr}`") fun _ =>
    workspace.state == .observed
  Tx.require (.rpc .conflict s!"workspace `{id.text}` is already integrated") fun _ =>
    workspace.targetCommit == none
  prepareIntegration request workspace.scope

/-- Record the intent to integrate a workspace: the plan of a new operation.  The recorded plan is
    executed afterwards, by this request or by the reconciler. -/
def desireIntegration (request : IntegrationRequest) : Request Unit := do
  let intent (plan : IntegrationPlan) : Repo Unit :=
    mutated (request.ctx.mutation "workspace.integrate"
      (integrationRequest request.assignmentId request.strategy)) none
      (integrateWorkspace request.ctx request.assignmentId plan)
  match ← Tx.read (·.operation request.ctx.operationId) with
  | some _ => pure ()
  | none => do
      let plan ← preparedIntegration request
      committed (intent plan)

/-! ## The machine -/

/-- What happens to the run database. -/
inductive WorkInput where
  /-- A worker finishes its assignment. -/
  | finish (request : FinishRequest)
  /-- A submitted task is closed. -/
  | close (transition : TaskTransitionMutation) (requestFingerprint : Option String)
  /-- The intent to integrate a workspace is recorded. -/
  | integrate (request : IntegrationRequest)
  /-- Any other transaction. -/
  | other (command : Command)

/-- The command is issued by the requests above only. -/
def Command.ofWork : Command → Bool
  | .transitionTask _ _ | .integrateWorkspace _ _ _ _ => true
  | _ => false

/-- The database after an input. -/
def WorkInput.exec (input : WorkInput) (db : Db) : Db :=
  match input with
  | .finish request => ((finishAssignment request).run db).2
  | .close transition requestFingerprint =>
      (Command.transitionTask { transition with transition := .close } requestFingerprint).exec db
  | .integrate request => ((desireIntegration request).run db).2
  | .other command => if command.ofWork = true then db else command.exec db

/-- The run database under every order of requests and commands. -/
def workMachine : Machine Db WorkInput where
  start := .empty
  step := WorkInput.exec

/-! ## Requests as sequences of commands -/

/-- A transaction of a request does what the command does. -/
theorem committed_exec (command : Command) (db : Db) :
    ((committed command.body).run db).2 = command.exec db := by
  unfold Command.exec committed
  dsimp only
  rcases (Tx.transaction command.body).run db with ⟨outcome, db'⟩
  cases outcome <;> rfl

theorem workspaceRecords_keeps (scope : AssignmentScope) :
    Tx.Keeps Eq (workspaceRecords scope) :=
  .bind (.read _) fun _ => .bind (.okOr _ _) fun _ => .bind (.read _) fun _ =>
    .bind (.okOr _ _) fun _ => .pure _

/-- Preparing an integration reads, and writes nothing. -/
theorem preparedIntegration_keeps (request : IntegrationRequest) :
    Tx.Keeps Eq (preparedIntegration request) := by
  refine .bind (.read _) fun _ => .bind (.okOr _ _) fun _ => .bind (.require _ _) fun _ =>
    .bind (.read _) fun _ => .bind (.okOr _ _) fun _ => .bind (.require _ _) fun _ =>
      .bind (.read _) fun _ => .bind (.okOr _ _) fun _ => .bind (.require _ _) fun _ =>
        .bind (.require _ _) fun _ => ?_
  refine .bind (workspaceRecords_keeps _) fun records => ?_
  obtain ⟨workspace, project⟩ := records
  refine .bind (.require _ _) fun _ => .bind (.require _ _) fun _ => .bind (.require _ _)
    fun _ => ?_
  cases request.target with
  | error message => exact .throw _
  | ok target => exact .pure _

section Requests

variable {R : Db → Db → Prop} [Std.Refl R] [IsTrans Db R]

theorem observeResultCommit_keeps (head : Except String String) (scope : AssignmentScope)
    (hresult : ∀ commit db, R db ((Command.recordResultCommit scope commit).exec db)) :
    Tx.Keeps R (observeResultCommit head scope) := by
  refine .bind ((workspaceRecords_keeps scope).mono ?_) fun records => ?_
  · rintro db _ rfl
    exact Std.Refl.refl db
  · obtain ⟨workspace, project⟩ := records
    dsimp only
    split
    · exact .pure _
    · exact .pure _
    · cases head with
      | error message => exact .throw _
      | ok commit =>
          intro db
          have h := hresult commit db
          rw [← committed_exec] at h
          exact h

/-- Finishing an assignment records a result commit and moves a task. -/
theorem finishAssignment_keeps (finish : FinishRequest)
    (hresult : ∀ scope commit db, R db ((Command.recordResultCommit scope commit).exec db))
    (htransition : ∀ transition requestFingerprint db,
      R db ((Command.transitionTask transition requestFingerprint).exec db)) :
    Tx.Keeps R (finishAssignment finish) := by
  have hobserve : ∀ scope, Tx.Keeps R (observeResultCommit finish.head scope) :=
    fun scope => observeResultCommit_keeps _ _ (hresult scope)
  refine .bind (.require _ _) fun _ => .bind (.read _) fun replaying => .bind (.read _) fun _ =>
    .bind (.okOr _ _) fun assignment => .bind (.require _ _) fun _ =>
      .bind (.when (hobserve _)) fun _ => .bind (.read _) fun transition => .bind ?_ fun _ => .pure _
  intro db
  have h := htransition transition finish.requestFingerprint db
  rw [← committed_exec] at h
  exact h

/-- Recording an integration intent is one command. -/
theorem desireIntegration_keeps (request : IntegrationRequest)
    (hintent : ∀ plan db, R db ((Command.integrateWorkspace request.ctx request.assignmentId
      request.strategy plan).exec db)) :
    Tx.Keeps R (desireIntegration request) := by
  refine .bind (.read _) fun found => ?_
  cases found with
  | some _ => exact .pure _
  | none =>
      refine .bind ((preparedIntegration_keeps request).mono ?_) fun plan db => ?_
      · rintro db _ rfl
        exact Std.Refl.refl db
      · have h := hintent plan db
        rw [← committed_exec] at h
        exact h

/-- What every command keeps, every input keeps. -/
theorem WorkInput.exec_rel (hcommand : ∀ (command : Command) (db : Db), R db (command.exec db))
    (input : WorkInput) (db : Db) : R db (input.exec db) := by
  cases input with
  | finish request =>
      exact finishAssignment_keeps request (fun _ _ db => hcommand _ db)
        (fun _ _ db => hcommand _ db) db
  | close transition requestFingerprint => exact hcommand _ db
  | integrate request => exact desireIntegration_keeps request (fun _ db => hcommand _ db) db
  | other command =>
      unfold WorkInput.exec
      dsimp only
      split
      · exact Std.Refl.refl db
      · exact hcommand command db

end Requests

end Coterie
