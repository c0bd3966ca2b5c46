/-
  Coterie.State.Schema

  The run database (`state/migrations/*.sql` and the records of `state.rs`): one list of rows per
  table, in insertion order, so that a row's position plays the part of its `rowid`.  Columns that
  no modelled function reads or writes are left out.  Times are the caller's clock readings in
  seconds; the supervision tables hold milliseconds, as their `_ms` columns do.

  A rejected statement is an error of the computation: `StoreError.database` names the violated
  constraint.
-/

import Coterie.Base.Json
import Coterie.Base.Tx
import Coterie.Model.Types

namespace Coterie

/-! ## Rows -/

/-- A durable run record. -/
structure RunRecord where
  id : RunId
  status : RunStatus
  createdAt : Int
  stoppedAt : Option Int
deriving DecidableEq, Repr

/-- A project attached to a run.  The file identity is kept as its stored JSON document. -/
structure ProjectRecord where
  id : ProjectId
  runId : RunId
  projectAlias : String
  originalPath : String
  canonicalPath : String
  identity : JsonValue
  isPrimary : Bool
  attachedAt : Int
deriving DecidableEq, Repr

/-- An instantiated configured role. -/
structure AgentRecord where
  id : AgentId
  runId : RunId
  role : String
  generation : Int
  state : LifecycleState
  createdAt : Int
deriving DecidableEq, Repr

/-- One provider execution associated with an agent. -/
structure SessionRecord where
  id : SessionId
  runId : RunId
  agentId : AgentId
  generation : Int
  provider : String
  providerSessionId : Option String
  reconciliationState : ExternalResourceState
  state : LifecycleState
  createdAt : Int
  endedAt : Option Int
  reconciledAt : Option Int
  processOwner : SessionProcessOwner
deriving DecidableEq, Repr

/-- The scope that a session's observations must name. -/
def SessionRecord.scope (session : SessionRecord) : SessionScope :=
  { runId := session.runId, agentId := session.agentId, sessionId := session.id,
    generation := session.generation }

/-- The durable, non-secret verifier for one provider session credential. -/
structure SessionCredentialRecord where
  sessionId : SessionId
  runId : RunId
  agentId : AgentId
  generation : Int
  tokenVerifier : List UInt8
  createdAt : Int
  revokedAt : Option Int
deriving DecidableEq, Repr

/-- A durable unit of work. -/
structure TaskRecord where
  id : TaskId
  runId : RunId
  projectId : ProjectId
  title : String
  description : String
  status : TaskStatus
  result : Option JsonValue
  createdAt : Int
  updatedAt : Int
deriving DecidableEq, Repr

/-- A directed edge from one task to a prerequisite task. -/
structure DependencyRecord where
  runId : RunId
  taskId : TaskId
  dependencyTaskId : TaskId
  createdAt : Int
deriving DecidableEq, Repr

/-- A caller-supplied identity and durable state for one mutation. -/
structure OperationRecord where
  id : OperationId
  runId : RunId
  kind : String
  actorAgentId : Option AgentId
  status : OperationStatus
  request : JsonValue
  result : Option JsonValue
  attemptCount : Int
  reconciliationState : Option ExternalResourceState
  reconciliationAttemptCount : Int
  reconciliationError : Option String
  reconciledAt : Option Int
  createdAt : Int
  updatedAt : Int
deriving DecidableEq, Repr

/-- A row of `operations`: the record and the column that only the mutation wrapper reads. -/
structure OperationRow extends OperationRecord where
  requestFingerprint : Option String
deriving DecidableEq, Repr

/-- A durable claim on a task. -/
structure ClaimRecord where
  id : Int
  runId : RunId
  taskId : TaskId
  agentId : AgentId
  operationId : OperationId
  state : AssignmentState
  claimedAt : Int
  releasedAt : Option Int
deriving DecidableEq, Repr

/-- Immutable ownership shared by an assignment and its workspace. -/
structure AssignmentScope where
  runId : RunId
  assignmentId : AssignmentId
  generation : Int
deriving DecidableEq, Repr

/-- The durable association between a task, agent, and eventual workspace. -/
structure AssignmentRecord where
  id : AssignmentId
  runId : RunId
  taskId : TaskId
  agentId : AgentId
  sessionId : Option SessionId
  claimId : Int
  generation : Int
  state : AssignmentState
  summary : Option String
  createdAt : Int
  completedAt : Option Int
deriving DecidableEq, Repr

/-- The immutable ownership of an assignment. -/
def AssignmentRecord.scope (assignment : AssignmentRecord) : AssignmentScope :=
  { runId := assignment.runId, assignmentId := assignment.id, generation := assignment.generation }

/-- Durable ownership and integration metadata for an assignment workspace. -/
structure WorkspaceRecord where
  assignmentId : AssignmentId
  generation : Int
  runId : RunId
  projectId : ProjectId
  kind : WorkspaceKind
  path : String
  state : ExternalResourceState
  baseCommit : Option String
  resultCommit : Option String
  targetCommit : Option String
  createdAt : Int
  reconciledAt : Option Int
deriving DecidableEq, Repr

/-- The immutable ownership of a workspace. -/
def WorkspaceRecord.scope (workspace : WorkspaceRecord) : AssignmentScope :=
  { runId := workspace.runId, assignmentId := workspace.assignmentId,
    generation := workspace.generation }

/-- The context and version-independent data for a new normalized event. -/
structure NewEvent where
  runId : RunId
  kind : EventKind
  actor : String
  subject : String
  projectId : Option ProjectId := none
  agentId : Option AgentId := none
  taskId : Option TaskId := none
  operationId : Option OperationId := none
  data : JsonValue
  createdAt : Int
deriving DecidableEq, Repr

/-- One immutable entry in a run's typed event stream. -/
structure EventRecord where
  runId : RunId
  sequence : Nat
  eventType : EventKind
  actor : String
  subject : String
  projectId : Option ProjectId
  agentId : Option AgentId
  taskId : Option TaskId
  operationId : Option OperationId
  payload : JsonValue
  createdAt : Int
deriving DecidableEq, Repr

/-- The recorded shutdown of a run. -/
structure RunShutdown where
  runId : RunId
  operationId : OperationId
  phase : ShutdownPhase
  requestedAtMs : Int
  interruptUntilMs : Int
  deadlineMs : Int
deriving DecidableEq, Repr

/-- A recorded escalation against one session. -/
structure SessionControl where
  scope : SessionScope
  reason : ControlReason
  phase : ControlPhase
  delivered : Bool
  requestedAtMs : Int
  interruptUntilMs : Int
  killAtMs : Int
  deadlineMs : Int
deriving DecidableEq, Repr

/-- The admitted launches of one session intent. -/
structure SessionLaunchAttempts where
  sessionId : SessionId
  runId : RunId
  agentId : AgentId
  generation : Int
  windowStartedAt : Int
  attempts : Int
  nextAttemptAt : Int
  inFlight : Bool
  quarantined : Bool
deriving DecidableEq, Repr

/-- A recorded failure of one session. -/
structure SessionFailure where
  sessionId : SessionId
  runId : RunId
  agentId : AgentId
  failedAt : Int
  quarantineUntil : Option Int
deriving DecidableEq, Repr

/-- What was observed in a worktree when its assignment was recovered. -/
structure RecoveryHandoff where
  assignmentId : AssignmentId
  runId : RunId
  operationId : OperationId
  document : JsonValue
deriving DecidableEq, Repr

/-- A message to an agent.  Sequences count per recipient. -/
structure MessageRecord where
  id : MessageId
  runId : RunId
  senderAgentId : Option AgentId
  recipientAgentId : AgentId
  sequence : Nat
  body : String
  createdAt : Int
  acknowledgedAt : Option Int
deriving DecidableEq, Repr

/-- Where a foreground session is notified, and up to where it was. -/
structure ForegroundNotification where
  sessionId : SessionId
  runId : RunId
  agentId : AgentId
  generation : Int
  threadId : Option String
  eventCursor : Nat
  messageCursor : Nat
deriving DecidableEq, Repr

/-- One notification of a foreground session. -/
structure NotificationDelivery where
  operationId : OperationId
  sessionId : SessionId
  eventCursor : Nat
  messageCursor : Nat
  state : DeliveryState
  receiptState : ReceiptState
  createdAt : Int
  observedAt : Option Int
  receivedAt : Option Int
deriving DecidableEq, Repr

/-! ## The database -/

/-- The run database. -/
structure Db where
  runs : List RunRecord
  projects : List ProjectRecord
  agents : List AgentRecord
  sessions : List SessionRecord
  sessionCredentials : List SessionCredentialRecord
  tasks : List TaskRecord
  taskDependencies : List DependencyRecord
  operations : List OperationRow
  claims : List ClaimRecord
  assignments : List AssignmentRecord
  workspaces : List WorkspaceRecord
  events : List EventRecord
  runShutdowns : List RunShutdown
  sessionControls : List SessionControl
  sessionLaunchAttempts : List SessionLaunchAttempts
  sessionFailures : List SessionFailure
  recoveryHandoffs : List RecoveryHandoff
  messages : List MessageRecord
  foregroundNotifications : List ForegroundNotification
  notificationDeliveries : List NotificationDelivery
deriving DecidableEq, Repr

/-- The database of a new run directory. -/
def Db.empty : Db where
  runs := []
  projects := []
  agents := []
  sessions := []
  sessionCredentials := []
  tasks := []
  taskDependencies := []
  operations := []
  claims := []
  assignments := []
  workspaces := []
  events := []
  runShutdowns := []
  sessionControls := []
  sessionLaunchAttempts := []
  sessionFailures := []
  recoveryHandoffs := []
  messages := []
  foregroundNotifications := []
  notificationDeliveries := []

/-! ## Errors -/

/-- Why the database rejects a statement. -/
inductive Constraint where
  | unique (index : String)
  | foreignKey (reference : String)
  | check (condition : String)
  | trigger (message : String)
deriving DecidableEq, Repr

/-- An error of the store. -/
inductive StoreError where
  | recoveryConflict (assignmentId : AssignmentId) (reason : String)
  | workspacePathReserved (assignmentId : AssignmentId)
  | database (constraint : Constraint)
  | encodeJson (message : String)
  | operationConflict (id : OperationId)
  | operationIncomplete (id : OperationId) (status : String)
  | missingOperationResult (id : OperationId)
  | corruptAgentState (id : AgentId) (reason : String)
  | corruptTaskState (id : TaskId) (reason : String)
  | corruptAssignmentState (id : AssignmentId) (reason : String)
  | staleAssignment (id : AssignmentId)
  | workspaceResultConflict (assignmentId : AssignmentId) (recorded observed : String)
  | workspaceTargetConflict (assignmentId : AssignmentId) (recorded observed : String)
  | resubmissionConflict (assignmentId : AssignmentId) (reason : String)
  | runNotActive (id : RunId)
  | runRecoveryConflict (id : RunId) (reason : String)
  | credentialAlreadyRevoked (sessionId : SessionId)
  | invalidSessionTransition (sessionId : SessionId) (current observed : LifecycleState)
  | inconsistentSessionLifecycle (sessionId : SessionId) (agentId : AgentId)
  | invalidProgressEvent (sequence : Nat)
  /-- The driver refuses a column whose bytes are no text. -/
  | unreadableText
  /-- A panic: it unwinds through the open transaction, which is then rolled back. -/
  | panicked (message : String)
deriving DecidableEq, Repr

/-- A computation of the repositories inside one transaction. -/
abbrev Repo (α : Type) : Type := Tx Db StoreError α

/-- Reject a statement unless a constraint of the schema holds. -/
def constraint (violated : Constraint) (holds : Db → Bool) : Repo Unit :=
  Tx.require (.database violated) holds

/-! ## Primary-key lookups -/

namespace Db

def run (db : Db) (id : RunId) : Option RunRecord :=
  db.runs.find? (·.id == id)

def project (db : Db) (id : ProjectId) : Option ProjectRecord :=
  db.projects.find? (·.id == id)

def agent (db : Db) (id : AgentId) : Option AgentRecord :=
  db.agents.find? (·.id == id)

def session (db : Db) (id : SessionId) : Option SessionRecord :=
  db.sessions.find? (·.id == id)

def sessionCredential (db : Db) (id : SessionId) : Option SessionCredentialRecord :=
  db.sessionCredentials.find? (·.sessionId == id)

def task (db : Db) (id : TaskId) : Option TaskRecord :=
  db.tasks.find? (·.id == id)

def operation (db : Db) (id : OperationId) : Option OperationRow :=
  db.operations.find? (·.id == id)

def assignment (db : Db) (id : AssignmentId) : Option AssignmentRecord :=
  db.assignments.find? (·.id == id)

def workspace (db : Db) (id : AssignmentId) : Option WorkspaceRecord :=
  db.workspaces.find? (·.assignmentId == id)

def runShutdown (db : Db) (id : RunId) : Option RunShutdown :=
  db.runShutdowns.find? (·.runId == id)

/-- The run is recorded as active. -/
def runIsActive (db : Db) (id : RunId) : Bool :=
  (db.run id).any (·.status == .active)

end Db

end Coterie
