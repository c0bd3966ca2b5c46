/-
  Coterie.Tasks.Board

  The task board: the part of the run database that says which work exists, what it waits for and
  who holds it.  `Board.Step` is what may happen to a board: a task is created, claimed, released by
  its holder, moved without a holder or corrected; an assignment is bound to a session or drained.
  Each step carries the guard under which it happens.

  The board is the abstraction on which ownership and dependency gating are proved; that the store's
  commands take these steps and no others is `Coterie.Tasks.Refinement`.
-/

import Coterie.State.Tasks

namespace Coterie

/-- Tasks, their prerequisites, and the claims and assignments on them. -/
structure Board where
  tasks : List TaskRecord
  dependencies : List DependencyRecord
  claims : List ClaimRecord
  assignments : List AssignmentRecord

/-- The board of a run database. -/
def Db.board (db : Db) : Board where
  tasks := db.tasks
  dependencies := db.taskDependencies
  claims := db.claims
  assignments := db.assignments

/-- Who holds which task under which claim. -/
structure Owner where
  claimId : Int
  runId : RunId
  taskId : TaskId
  agentId : AgentId
deriving DecidableEq, Repr

/-- What a claim says about its task's holder. -/
def ClaimRecord.owner (claim : ClaimRecord) : Owner where
  claimId := claim.id
  runId := claim.runId
  taskId := claim.taskId
  agentId := claim.agentId

/-- What an assignment says about its task's holder. -/
def AssignmentRecord.owner (assignment : AssignmentRecord) : Owner where
  claimId := assignment.claimId
  runId := assignment.runId
  taskId := assignment.taskId
  agentId := assignment.agentId

/-- The claim is not released. -/
def ClaimRecord.isOpen (claim : ClaimRecord) : Bool :=
  claim.releasedAt == none

/-- The assignment is not completed. -/
def AssignmentRecord.isOpen (assignment : AssignmentRecord) : Bool :=
  assignment.completedAt == none

/-- A drained assignment keeps everything but its state. -/
inductive AssignmentRecord.Drained (assignment : AssignmentRecord) : AssignmentRecord → Prop where
  | same : Drained assignment assignment
  | draining (hopen : assignment.isOpen = true) :
      Drained assignment { assignment with state := .draining }

namespace Board

/-- The holders that the open claims name. -/
def claimOwners (b : Board) : List Owner :=
  (b.claims.filter (·.isOpen)).map (·.owner)

/-- The holders that the open assignments name. -/
def assignmentOwners (b : Board) : List Owner :=
  (b.assignments.filter (·.isOpen)).map (·.owner)

/-! ## What the steps do -/

/-- A new task with its prerequisites. -/
def create (b : Board) (task : TaskRecord) (edges : List DependencyRecord) : Board :=
  { b with tasks := b.tasks ++ [task], dependencies := b.dependencies ++ edges }

/-- Change the row of one task. -/
def updateTask (b : Board) (runId : RunId) (taskId : TaskId) (f : TaskRecord → TaskRecord) :
    Board :=
  { b with
    tasks := Table.updateWhere (fun task => task.id == taskId && task.runId == runId) f b.tasks }

/-- A claimed task, with its claim and assignment. -/
def claim (b : Board) (claim : ClaimRecord) (assignment : AssignmentRecord) : Board :=
  { b.updateTask claim.runId claim.taskId fun task =>
      { task with status := .inProgress, updatedAt := claim.claimedAt } with
    claims := b.claims ++ [claim]
    assignments := b.assignments ++ [assignment] }

/-- The claims and assignments of one task are released. -/
def release (b : Board) (runId : RunId) (taskId : TaskId) (state : AssignmentState)
    (summary : Option String) (releasedAt : Int) : Board :=
  { b with
    assignments := Table.updateWhere
      (fun row => row.taskId == taskId && row.runId == runId && row.completedAt == none)
      (fun row =>
        { row with
          state := state, summary := summary.or row.summary, completedAt := some releasedAt })
      b.assignments
    claims := Table.updateWhere
      (fun row => row.taskId == taskId && row.runId == runId && row.releasedAt == none)
      (fun row => { row with state := .released, releasedAt := some releasedAt }) b.claims }

/-- The row of a task after a transition. -/
def moved (status : TaskStatus) (result : Option JsonValue) (updatedAt : Int)
    (task : TaskRecord) : TaskRecord :=
  { task with status := status, result := result, updatedAt := updatedAt }

/-- A corrected result of a submitted task. -/
def revise (b : Board) (taskId : TaskId) (assignmentId : AssignmentId) (result : JsonValue)
    (summary : String) (updatedAt : Int) : Board :=
  { b with
    tasks := Table.updateWhere (·.id == taskId)
      (fun row => { row with result := some result, updatedAt := updatedAt }) b.tasks
    assignments := Table.updateWhere (·.id == assignmentId)
      (fun row => { row with summary := some summary }) b.assignments }

/-- An open assignment is bound to a session. -/
def bind (b : Board) (assignmentId : AssignmentId) (sessionId : SessionId) : Board :=
  { b with
    assignments := Table.updateWhere
      (fun row => row.id == assignmentId && row.sessionId == none && row.completedAt == none)
      (fun row => { row with sessionId := some sessionId }) b.assignments }

/-! ## Guards and steps -/

/-- Every prerequisite of the task is closed. -/
def Ready (b : Board) (runId : RunId) (taskId : TaskId) : Prop :=
  ∀ edge ∈ b.dependencies, edge.taskId = taskId → edge.runId = runId →
    ∀ task ∈ b.tasks, task.id = edge.dependencyTaskId → task.runId = edge.runId →
      task.status = .closed

/-- The task may be claimed: it is open and ready, nobody holds it and its claimant is free. -/
structure Claimable (b : Board) (claim : ClaimRecord) (assignment : AssignmentRecord) : Prop where
  task : ∃ task ∈ b.tasks, task.id = claim.taskId ∧ task.runId = claim.runId ∧
    task.status = .opened
  ready : b.Ready claim.runId claim.taskId
  unclaimed : ∀ row ∈ b.claims, row.isOpen = true → row.taskId ≠ claim.taskId
  idle : ∀ row ∈ b.assignments, row.isOpen = true → row.agentId ≠ claim.agentId
  claimNew : ∀ row ∈ b.claims, row.id ≠ claim.id
  assignmentNew : ∀ row ∈ b.assignments, row.id ≠ assignment.id
  claimOpen : claim.isOpen = true
  assignmentOpen : assignment.isOpen = true
  assignmentActive : assignment.state = .active
  assignmentUnbound : assignment.sessionId = none
  owner : assignment.owner = claim.owner

/-- What may happen to a board. -/
inductive Step (b : Board) : Board → Prop where
  | create (task : TaskRecord) (edges : List DependencyRecord)
      (hopened : task.status = .opened)
      (hnew : ∀ row ∈ b.tasks, row.id ≠ task.id)
      (hedges : ∀ edge ∈ edges, edge.taskId = task.id ∧ edge.runId = task.runId ∧
        ∃ row ∈ b.tasks, row.id = edge.dependencyTaskId ∧ row.runId = edge.runId) :
      Step b (b.create task edges)
  | claim (claim : ClaimRecord) (assignment : AssignmentRecord)
      (hclaimable : b.Claimable claim assignment) : Step b (b.claim claim assignment)
  | release (task : TaskRecord) (transition : TaskTransition) (status : TaskStatus)
      (state : AssignmentState) (summary : Option String) (result : Option JsonValue)
      (releasedAt : Int) (htask : task ∈ b.tasks) (hheld : task.status = .inProgress)
      (hstatus : task.status.transition transition = some status)
      (hstate : transition.assignmentState = some state) :
      Step b ((b.release task.runId task.id state summary releasedAt).updateTask task.runId
        task.id (moved status result releasedAt))
  | move (task : TaskRecord) (transition : TaskTransition) (status : TaskStatus)
      (result : Option JsonValue) (updatedAt : Int) (htask : task ∈ b.tasks)
      (hfree : task.status ≠ .inProgress)
      (hstatus : task.status.transition transition = some status) :
      Step b (b.updateTask task.runId task.id (moved status result updatedAt))
  | revise (task : TaskRecord) (assignmentId : AssignmentId) (result : JsonValue)
      (summary : String) (updatedAt : Int) (htask : task ∈ b.tasks)
      (hsubmitted : task.status = .submitted) :
      Step b (b.revise task.id assignmentId result summary updatedAt)
  | bind (assignmentId : AssignmentId) (sessionId : SessionId) :
      Step b (b.bind assignmentId sessionId)
  | drain (assignments : List AssignmentRecord)
      (hdrained : List.Forall₂ AssignmentRecord.Drained b.assignments assignments) :
      Step b { b with assignments := assignments }

/-- Nothing happened, or one step was taken. -/
def Moves (b b' : Board) : Prop :=
  b' = b ∨ Step b b'

end Board

end Coterie
