/-
  Coterie.Model.Types

  The identifiers and enumerations of the run database (`id.rs`, `tasks.rs`, `providers.rs`,
  `state.rs`, `state/supervision.rs`).  An identifier is kept as the text that the database columns
  and the JSON documents hold; its type index keeps identifiers of different tables apart, as the
  source's one newtype per table does.
-/

import Mathlib.Logic.Basic

namespace Coterie

/-- The tables that have identifiers of their own. -/
inductive IdKind where
  | run
  | project
  | agent
  | session
  | task
  | assignment
  | message
  | operation
  | event
deriving DecidableEq, Repr

/-- A type-specific identifier, as the text `<prefix>-<ULID>`. -/
structure Id (kind : IdKind) where
  text : String
deriving DecidableEq, Repr

abbrev RunId := Id .run
abbrev ProjectId := Id .project
abbrev AgentId := Id .agent
abbrev SessionId := Id .session
abbrev TaskId := Id .task
abbrev AssignmentId := Id .assignment
abbrev MessageId := Id .message
abbrev OperationId := Id .operation

@[simp]
theorem Id.text_inj {kind : IdKind} {a b : Id kind} : a.text = b.text ↔ a = b := by
  constructor
  · intro h
    cases a
    cases b
    exact congrArg Id.mk h
  · intro h
    rw [h]

/-! ## Tasks -/

/-- A task's durable lifecycle state. -/
inductive TaskStatus where
  | opened
  | inProgress
  | submitted
  | closed
  | canceled
deriving DecidableEq, Repr

/-- The stored name of a status. -/
def TaskStatus.asStr : TaskStatus → String
  | .opened => "open"
  | .inProgress => "in_progress"
  | .submitted => "submitted"
  | .closed => "closed"
  | .canceled => "canceled"

/-- A lifecycle action other than the atomic task-claim transition. -/
inductive TaskTransition where
  | reopen
  | submit
  | close
  | cancel
deriving DecidableEq, Repr

/-- The stored name of a transition. -/
def TaskTransition.asStr : TaskTransition → String
  | .reopen => "reopen"
  | .submit => "submit"
  | .close => "close"
  | .cancel => "cancel"

/-- Reports whether the lifecycle permits a move to `next`. -/
def TaskStatus.canTransitionTo : TaskStatus → TaskStatus → Bool
  | .opened, .inProgress | .opened, .canceled => true
  | .inProgress, .opened | .inProgress, .submitted | .inProgress, .canceled => true
  | .submitted, .opened | .submitted, .closed | .submitted, .canceled => true
  | _, _ => false

/-- Applies a lifecycle action that does not create a claim. -/
def TaskStatus.transition : TaskStatus → TaskTransition → Option TaskStatus
  | .inProgress, .reopen | .submitted, .reopen => some .opened
  | .inProgress, .submit => some .submitted
  | .submitted, .close => some .closed
  | .opened, .cancel | .inProgress, .cancel | .submitted, .cancel => some .canceled
  | _, _ => none

/-- Every lifecycle action is a permitted move. -/
theorem TaskStatus.canTransitionTo_of_transition {status next : TaskStatus}
    {transition : TaskTransition} (h : status.transition transition = some next) :
    status.canTransitionTo next = true := by
  cases status <;> cases transition <;> simp_all [TaskStatus.transition] <;> subst h <;> rfl

/-- No lifecycle action leaves `closed`. -/
theorem TaskStatus.transition_closed (transition : TaskTransition) :
    TaskStatus.closed.transition transition = none := by
  cases transition <;> rfl

/-- No lifecycle action enters `in_progress`: only a claim does. -/
theorem TaskStatus.transition_ne_inProgress {status next : TaskStatus}
    {transition : TaskTransition} (h : status.transition transition = some next) :
    next ≠ .inProgress := by
  cases status <;> cases transition <;> simp_all [TaskStatus.transition] <;> subst h <;> decide

/-! ## Sessions and agents -/

/-- The process-level state of one provider session. -/
inductive LifecycleState where
  | starting
  | running
  | exited
  | lost
  | unknown
  | quarantined
deriving DecidableEq, Repr

namespace LifecycleState

/-- The stored name of a lifecycle state. -/
def asStr : LifecycleState → String
  | .starting => "starting"
  | .running => "running"
  | .exited => "exited"
  | .lost => "lost"
  | .unknown => "unknown"
  | .quarantined => "quarantined"

/-- No observation leaves a terminal state. -/
def isTerminal : LifecycleState → Bool
  | .exited | .lost | .quarantined => true
  | .starting | .running | .unknown => false

/-- Which observation may follow a recorded state. -/
def allows (current next : LifecycleState) : Bool :=
  current == next ||
    (match current with
      | .starting | .running | .unknown => true
      | _ => false) &&
    (match next with
      | .running | .exited | .lost | .unknown | .quarantined => true
      | .starting => false)

/-- A terminal state allows only itself. -/
theorem eq_of_allows_of_isTerminal {current next : LifecycleState}
    (hterm : current.isTerminal = true) (h : current.allows next = true) : next = current := by
  cases current <;> cases next <;> first | rfl | simp_all [isTerminal, allows]

/-- A state that is not terminal allows every observation but a return to `starting`. -/
theorem allows_of_not_isTerminal {current next : LifecycleState}
    (hterm : current.isTerminal = false) (hnext : next ≠ .starting) :
    current.allows next = true := by
  cases current <;> cases next <;> first | rfl | simp_all [isTerminal]

end LifecycleState

/-- The Coterie process responsible for controlling one provider execution. -/
inductive SessionProcessOwner where
  | supervisor
  | foreground
deriving DecidableEq, Repr

/-- Durable knowledge about an external side effect owned by Coterie. -/
inductive ExternalResourceState where
  | desired
  | observed
  | lost
  | unknown
deriving DecidableEq, Repr

/-- The stored name of a reconciliation state. -/
def ExternalResourceState.asStr : ExternalResourceState → String
  | .desired => "desired"
  | .observed => "observed"
  | .lost => "lost"
  | .unknown => "unknown"

/-- Immutable ownership shared by a session and its credential. -/
structure SessionScope where
  runId : RunId
  agentId : AgentId
  sessionId : SessionId
  generation : Int
deriving DecidableEq, Repr

/-- Why a provider session reached the known `exited` lifecycle state. -/
inductive ExitReason where
  | process
  | interrupted
  | terminated
deriving DecidableEq, Repr

/-- The stored name of an exit reason. -/
def ExitReason.asStr : ExitReason → String
  | .process => "process"
  | .interrupted => "interrupted"
  | .terminated => "terminated"

/-- A provider exit observation without interpreting it as task success. -/
structure SessionExit where
  code : Option Int
  reason : ExitReason
deriving DecidableEq, Repr

/-- Provider-reported semantic activity, independent of process liveness. -/
inductive ActivityState where
  | busy
  | idle
  | unknown
deriving DecidableEq, Repr

/-- The latest provider observation for a session. -/
structure SessionObservation where
  lifecycle : LifecycleState
  activity : ActivityState
  exit : Option SessionExit
deriving DecidableEq, Repr

namespace SessionObservation

/-- Before anything was observed. -/
def starting : SessionObservation :=
  { lifecycle := .starting, activity := .unknown, exit := none }

/-- An observed end of the process. -/
def processExit (code : Option Int) : SessionObservation :=
  { lifecycle := .exited, activity := .unknown, exit := some { code, reason := .process } }

/-- An observed end of the process with a known status. -/
def exited (code : Int) : SessionObservation :=
  processExit (some code)

end SessionObservation

/-! ## Assignments, claims, workspaces -/

/-- The recorded state of an assignment. -/
inductive AssignmentState where
  | active
  | draining
  | completed
  | released
  | canceled
deriving DecidableEq, Repr

/-- The stored name of an assignment state. -/
def AssignmentState.asStr : AssignmentState → String
  | .active => "active"
  | .draining => "draining"
  | .completed => "completed"
  | .released => "released"
  | .canceled => "canceled"

/-- Where an assignment works. -/
inductive WorkspaceKind where
  | project
  | readOnly
  | worktree
deriving DecidableEq, Repr

/-! ## Runs and supervision -/

/-- The recorded state of a run. -/
inductive RunStatus where
  | active
  | stopped
deriving DecidableEq, Repr

/-- The recorded state of an operation. -/
inductive OperationStatus where
  | pending
  | succeeded
  | completed
deriving DecidableEq, Repr

/-- The stored name of an operation state. -/
def OperationStatus.asStr : OperationStatus → String
  | .pending => "pending"
  | .succeeded => "succeeded"
  | .completed => "completed"

/-- How far the shutdown of a run has come. -/
inductive ShutdownPhase where
  | interrupting
  | terminating
  | reconciling
  | timedOut
  | completed
deriving DecidableEq, Repr

/-- The stored name of a shutdown phase. -/
def ShutdownPhase.asStr : ShutdownPhase → String
  | .interrupting => "interrupting"
  | .terminating => "terminating"
  | .reconciling => "reconciling"
  | .timedOut => "timed_out"
  | .completed => "completed"

/-- How far the control of one session has come. -/
inductive ControlPhase where
  | interrupt
  | terminate
  | kill
  | timedOut
  | completed
deriving DecidableEq, Repr

/-- The stored name of a control phase. -/
def ControlPhase.asStr : ControlPhase → String
  | .interrupt => "interrupt"
  | .terminate => "terminate"
  | .kill => "kill"
  | .timedOut => "timed_out"
  | .completed => "completed"

/-- Why a session is controlled. -/
inductive ControlReason where
  | shutdown
  | startupTimeout
  | executionTimeout
deriving DecidableEq, Repr

/-- The stored name of a control reason. -/
def ControlReason.asStr : ControlReason → String
  | .shutdown => "shutdown"
  | .startupTimeout => "startup_timeout"
  | .executionTimeout => "execution_timeout"

/-! ## Events -/

/-- How the provider's queue took a notification. -/
inductive QueueOutcome where
  | accepted
  | failed
  | unknown
deriving DecidableEq, Repr

/-- The stored name of a queue outcome. -/
def QueueOutcome.asStr : QueueOutcome → String
  | .accepted => "accepted"
  | .failed => "failed"
  | .unknown => "unknown"

/-- What is known about the delivery of a notification: nothing yet, or an outcome. -/
inductive DeliveryState where
  | attempting
  | observed (outcome : QueueOutcome)
deriving DecidableEq, Repr

/-- Whether the recipient of a notification has reported it. -/
inductive ReceiptState where
  | pending
  | received
  | legacy
deriving DecidableEq, Repr

/-- Whether a session is notified automatically. -/
inductive NotificationAvailability where
  | unavailable
  | pendingBinding
  | automatic
  | uncertain
deriving DecidableEq, Repr

/-- The stored name of an availability. -/
def NotificationAvailability.asStr : NotificationAvailability → String
  | .unavailable => "unavailable"
  | .pendingBinding => "pending_binding"
  | .automatic => "automatic"
  | .uncertain => "uncertain"

/-- The name of an availability. -/
def NotificationAvailability.ofStr? : String → Option NotificationAvailability
  | "unavailable" => some .unavailable
  | "pending_binding" => some .pendingBinding
  | "automatic" => some .automatic
  | "uncertain" => some .uncertain
  | _ => none

/-- A stable normalized event type stored in the run event stream. -/
inductive EventKind where
  | runStarted
  | runStopped
  | runRecovered
  | runShutdownChanged
  | sessionControlChanged
  | sessionDeadlineApproaching
  | sessionRestartLimited
  | projectAttached
  | agentCreated
  | agentLifecycleChanged
  | sessionStarted
  | sessionLifecycleChanged
  | sessionReconciliationChanged
  | operationReconciliationChanged
  | taskCreated
  | taskClaimed
  | taskLifecycleChanged
  | taskResubmitted
  | taskRecovered
  | assignmentContinued
  | assignmentCreated
  | assignmentSessionAssociated
  | assignmentLifecycleChanged
  | claimReleased
  | messageSent
  | messageAcknowledged
  | workspaceDesired
  | workspaceReconciliationChanged
  | workspaceIntegrationDesired
  | workspaceIntegrated
deriving DecidableEq, Repr

end Coterie
