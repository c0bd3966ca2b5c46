/-
  Coterie.Supervisor.Machine

  The run database as a state machine.  A command is one transaction of the supervisor, or of the
  repositories on their own, with everything that it does not read from the database as its
  arguments: identifiers, clock readings, observations of providers and worktrees.  The supervisor
  is the only writer and executes one transaction at a time, so a run of the system is a list of
  commands, and a crash between two transactions is the end of one list and the start of another.

  `Command.writes` lists the tables that a command may change.
-/

import Coterie.Base.Machine
import Coterie.Supervisor.Frame

namespace Coterie

/-- One transaction on the run database. -/
inductive Command where
  -- Runs and projects
  | startRun (runId : RunId) (project : ProjectRecord) (now : Int)
  | attachProject (ctx : RequestContext) (request : JsonValue) (project : ProjectRecord)
  | completeProjectAttachment (ctx : RequestContext) (project : ProjectRecord)
  | recordOperationState (operationId : OperationId) (state : ExternalResourceState)
      (error : Option String) (reconciledAt : Int)
  -- Tasks
  | createTask (ctx : RequestContext) (requestFingerprint : Option String) (task : NewTask)
  | claimTask (claim : ClaimTaskMutation)
  | transitionTask (transition : TaskTransitionMutation) (requestFingerprint : Option String)
  | recoverTask (ctx : RequestContext) (requestFingerprint : Option String)
      (assignmentId : AssignmentId) (reason : String) (report : Option JsonValue)
      (document brief : JsonValue) (acknowledgeLost : Bool)
  | submitRetained (ctx : RequestContext) (requestFingerprint : Option String)
      (submission : RetainedSubmission)
  | resubmitTask (ctx : RequestContext) (requestFingerprint : Option String)
      (submission : Resubmission)
  -- Spawning
  | spawnAgent (ctx : RequestContext) (spawn : SpawnRequest)
  | recordSpawnFailure (runId : RunId) (operationId : OperationId) (agentId : AgentId)
      (sessionId : SessionId) (message : String) (reconciledAt : Int) (policy : SupervisionPolicy)
  | completeSpawn (operationId : OperationId) (reconciledAt : Int)
  -- Background sessions
  | persistLaunchIntent (launch : AgentLaunch) (agentExists : Bool)
      (assignmentId : Option AssignmentId)
  | admitSessionLaunch (scope : SessionScope) (now : Int) (policy : SupervisionPolicy)
  | replaceDesiredSessionCredential (credential : SessionCredentialRecord)
  | recordFailedLaunch (scope : SessionScope) (attemptedAt : Int) (policy : SupervisionPolicy)
  | recordLaunchObservation (scope : SessionScope) (providerSessionId : String) (observedAt : Int)
  | recordReconciliation (scope : SessionScope) (reconciliationState : ExternalResourceState)
      (lifecycle : LifecycleState) (reconciledAt : Int)
  | recordObservation (scope : SessionScope) (observation : SessionObservation)
      (observedAt : Int) (policy : SupervisionPolicy)
  | requestControls (runId : RunId) (nowMs : Int) (policy : SupervisionPolicy)
  | setControlPhase (control : SessionControl) (phase : ControlPhase) (nowMs : Int)
  | markControlDelivered (control : SessionControl)
  -- The foreground session
  | launchForeground (ctx : RequestContext) (launch : ForegroundLaunch)
  | reclaimForegroundLaunch (ctx : RequestContext) (scope : SessionScope)
      (tokenVerifier : List UInt8)
  | observeForegroundStarted (scope : SessionScope) (processId : Nat) (observedAt : Int)
  | observeForegroundEnded (runId : RunId) (scope : SessionScope) (ended : ForegroundEnd)
      (observedAt : Int) (policy : SupervisionPolicy)
  -- Workspaces
  | recordWorkspaceState (workspace : WorkspaceRecord) (state : ExternalResourceState)
      (reconciledAt : Int)
  | recordResultCommit (scope : AssignmentScope) (resultCommit : String)
  | integrateWorkspace (ctx : RequestContext) (assignmentId : AssignmentId)
      (strategy : Option IntegrationStrategy) (plan : IntegrationPlan)
  | recordIntegration (workspace : WorkspaceRecord) (plan : IntegrationPlan)
      (integration : IntegrationRecord) (operationId : OperationId) (actor : String)
      (reconciledAt : Int)
  -- Messages
  | sendMessage (ctx : RequestContext) (requestFingerprint : Option String) (sent : NewMessage)
  | acknowledgeMessages (acknowledgement : AcknowledgeMessagesMutation)
  -- Stopping and recovering the run
  | beginRunShutdown (runId : RunId) (operationId : OperationId) (nowMs graceMs timeoutMs : Int)
  | stopIdleRun (runId : RunId) (operationId : OperationId) (nowMs graceMs timeoutMs : Int)
      (idleTimeoutSeconds : Int)
  | setShutdownPhase (runId : RunId) (phase : ShutdownPhase) (nowMs : Int)
  | persistShutdown (runId : RunId) (operationId : OperationId) (stoppedAt : Int)
  | stopRunAtOnce (ctx : RequestContext)
  | recoverRun (ctx : RequestContext) (requestFingerprint : Option String) (reason : String)
  -- Single repository calls, with any arguments
  | recordSessionLaunchObservation (scope : SessionScope) (providerSessionId : String)
      (observedAt : Int)
  | recordSessionReconciliationState (scope : SessionScope) (state : ExternalResourceState)
      (reconciledAt : Int)
  | recordSessionLifecycle (scope : SessionScope) (observed : LifecycleState) (observedAt : Int)
  | activateSessionCredential (credential : SessionCredentialRecord)

/-- The transaction of one mutation whose closure stores `apply`'s result. -/
def mutated (mutation : Mutation) (requestFingerprint : Option String) (apply : Repo JsonValue) :
    Repo Unit := do
  let _ ← mutationBody .json mutation requestFingerprint apply
  pure ()

/-- Forget the result of a transaction. -/
def discard {α : Type} (x : Repo α) : Repo Unit := do
  let _ ← x
  pure ()

namespace Command

/-- The mutation of a request to recover a task. -/
def recoverMutation (ctx : RequestContext) (assignmentId : AssignmentId) (reason : String)
    (report : Option JsonValue) (acknowledgeLost : Bool) : Mutation :=
  ctx.mutation "task.recover" (recoveryRequest assignmentId reason report acknowledgeLost)

/-- The transaction of a command. -/
def body : Command → Repo Unit
  | .startRun runId project now => Coterie.startRun runId project now
  | .attachProject ctx request project =>
      mutated (ctx.mutation "project.attach" request) none (Coterie.attachProject ctx project)
  | .completeProjectAttachment ctx project => Coterie.completeProjectAttachment ctx project
  | .recordOperationState operationId state error reconciledAt =>
      Coterie.recordOperationState operationId state error reconciledAt
  | .createTask ctx requestFingerprint task =>
      mutated (ctx.mutation "task.create" task.request) requestFingerprint
        (Coterie.createTask ctx task)
  | .claimTask claim => mutated claim.mutation none (Coterie.claimTask claim)
  | .transitionTask transition requestFingerprint =>
      discard (transitionTaskWithFingerprint transition requestFingerprint)
  | .recoverTask ctx requestFingerprint assignmentId reason report document brief
      acknowledgeLost =>
      mutated (recoverMutation ctx assignmentId reason report acknowledgeLost) requestFingerprint
        (Coterie.recoverTask (recoverMutation ctx assignmentId reason report acknowledgeLost)
          assignmentId reason document brief acknowledgeLost)
  | .submitRetained ctx requestFingerprint submission =>
      mutated (ctx.mutation "task.submit-retained" submission.request) requestFingerprint
        (Coterie.submitRetained (ctx.mutation "task.submit-retained" submission.request)
          submission)
  | .resubmitTask ctx requestFingerprint submission =>
      mutated (ctx.mutation "task.resubmit" submission.request) requestFingerprint
        (Coterie.resubmitTask (ctx.mutation "task.resubmit" submission.request) submission)
  | .spawnAgent ctx spawn =>
      mutated (ctx.mutation "agent.spawn" spawn.request) none (Coterie.spawnAgent ctx spawn)
  | .recordSpawnFailure runId operationId agentId sessionId message reconciledAt policy =>
      Coterie.recordSpawnFailure runId operationId agentId sessionId message reconciledAt policy
  | .completeSpawn operationId reconciledAt =>
      discard (recordOperationReconciliation operationId .observed none reconciledAt)
  | .persistLaunchIntent launch agentExists assignmentId =>
      Coterie.persistLaunchIntent launch agentExists assignmentId
  | .admitSessionLaunch scope now policy => discard (Coterie.admitSessionLaunch scope now policy)
  | .replaceDesiredSessionCredential credential =>
      Coterie.replaceDesiredSessionCredential credential
  | .recordFailedLaunch scope attemptedAt policy =>
      Coterie.recordFailedLaunch scope attemptedAt policy
  | .recordLaunchObservation scope providerSessionId observedAt =>
      Coterie.recordLaunchObservation scope providerSessionId observedAt
  | .recordReconciliation scope reconciliationState lifecycle reconciledAt =>
      recordReconciliationIn scope reconciliationState lifecycle reconciledAt
  | .recordObservation scope observation observedAt policy =>
      Coterie.recordObservation scope observation observedAt policy
  | .requestControls runId nowMs policy => Coterie.requestControls runId nowMs policy
  | .setControlPhase control phase nowMs => Coterie.setControlPhase control phase nowMs
  | .markControlDelivered control => Coterie.markControlDelivered control
  | .launchForeground ctx launch =>
      mutated (ctx.mutation "agent.launch_foreground" launch.request) none
        (Coterie.launchForeground ctx launch)
  | .reclaimForegroundLaunch ctx scope tokenVerifier =>
      discard (Coterie.reclaimForegroundLaunch ctx scope tokenVerifier)
  | .observeForegroundStarted scope processId observedAt =>
      Coterie.observeForegroundStarted scope processId observedAt
  | .observeForegroundEnded runId scope ended observedAt policy =>
      Coterie.observeForegroundEnded runId scope ended observedAt policy
  | .recordWorkspaceState workspace state reconciledAt =>
      Coterie.recordWorkspaceState workspace state reconciledAt
  | .recordResultCommit scope resultCommit => Coterie.recordResultCommit scope resultCommit
  | .integrateWorkspace ctx assignmentId strategy plan =>
      mutated (ctx.mutation "workspace.integrate" (integrationRequest assignmentId strategy)) none
        (Coterie.integrateWorkspace ctx assignmentId plan)
  | .recordIntegration workspace plan integration operationId actor reconciledAt =>
      Coterie.recordIntegration workspace plan integration operationId actor reconciledAt
  | .sendMessage ctx requestFingerprint sent =>
      mutated (ctx.mutation "message.send" sent.request) requestFingerprint
        (Coterie.sendMessage ctx sent)
  | .acknowledgeMessages acknowledgement =>
      mutated acknowledgement.mutation none (Coterie.acknowledgeMessages acknowledgement)
  | .beginRunShutdown runId operationId nowMs graceMs timeoutMs =>
      Coterie.beginRunShutdown runId operationId nowMs graceMs timeoutMs
  | .stopIdleRun runId operationId nowMs graceMs timeoutMs idleTimeoutSeconds =>
      Coterie.stopIdleRun runId operationId nowMs graceMs timeoutMs idleTimeoutSeconds
  | .setShutdownPhase runId phase nowMs => Coterie.setShutdownPhase runId phase nowMs
  | .persistShutdown runId operationId stoppedAt =>
      Coterie.persistShutdown runId operationId stoppedAt
  | .stopRunAtOnce ctx =>
      mutated (ctx.mutation "run.stop" (.obj [])) none (Coterie.stopRunAtOnce ctx)
  | .recoverRun ctx requestFingerprint reason =>
      mutated (ctx.mutation "run.recover" (.obj [("reason", .str reason)])) requestFingerprint
        (Coterie.recoverRun (ctx.mutation "run.recover" (.obj [("reason", .str reason)])))
  | .recordSessionLaunchObservation scope providerSessionId observedAt =>
      discard (Coterie.recordSessionLaunchObservation scope providerSessionId observedAt)
  | .recordSessionReconciliationState scope state reconciledAt =>
      discard (Coterie.recordSessionReconciliationState scope state reconciledAt)
  | .recordSessionLifecycle scope observed observedAt =>
      discard (Coterie.recordSessionLifecycle scope observed observedAt)
  | .activateSessionCredential credential => Coterie.activateSessionCredential credential

/-- The store after a command: its transaction is committed or leaves no trace. -/
def exec (command : Command) (db : Db) : Db :=
  ((Tx.transaction command.body).run db).2

/-- The tables that a command may change. -/
def writes : Command → List TableName
  | .startRun .. => [.runs, .projects, .events]
  | .attachProject .. => [.operations, .outcomes, .events]
  | .completeProjectAttachment .. => [.projects, .events]
  | .recordOperationState .. => [.operations, .events]
  | .createTask .. => [.operations, .outcomes, .tasks, .taskDependencies, .events]
  | .claimTask .. => [.operations, .outcomes, .tasks, .claims, .assignments, .assignmentScopes, .events, .continuations]
  | .transitionTask .. => [.operations, .outcomes, .tasks, .claims, .assignments, .events]
  | .recoverTask .. =>
      [.operations, .outcomes, .recoveryHandoffs, .tasks, .claims, .assignments, .events, .recoveries]
  | .submitRetained .. => [.operations, .outcomes, .workspaces, .tasks, .claims, .assignments, .events]
  | .resubmitTask .. => [.operations, .outcomes, .workspaces, .tasks, .assignments, .events]
  | .spawnAgent .. =>
      [.operations, .outcomes, .launches, .agents, .agentScopes, .tasks, .claims, .assignments, .assignmentScopes, .workspaces,
        .events, .continuations]
  | .recordSpawnFailure .. => [.operations, .agents, .events]
  | .completeSpawn .. => [.operations, .events]
  | .persistLaunchIntent .. =>
      [.agents, .agentScopes, .sessions, .sessionScopes, .sessionCredentials, .assignments, .events]
  | .admitSessionLaunch .. => [.sessionLaunchAttempts]
  | .replaceDesiredSessionCredential .. => [.sessionCredentials]
  | .recordFailedLaunch .. =>
      [.sessionLaunchAttempts, .sessions, .agents, .sessionCredentials, .events]
  | .recordLaunchObservation .. => [.sessions, .events]
  | .recordReconciliation .. => [.sessions, .agents, .sessionCredentials, .events]
  | .recordObservation .. => [.sessions, .agents, .sessionCredentials, .sessionFailures, .events]
  | .requestControls .. => [.sessionControls, .assignments, .events, .drains]
  | .setControlPhase .. => [.sessionControls, .events]
  | .markControlDelivered .. => [.sessionControls]
  | .launchForeground .. =>
      [.operations, .outcomes, .launches, .agents, .agentScopes, .sessions, .sessionScopes,
        .sessionCredentials, .events]
  | .reclaimForegroundLaunch .. => [.sessions, .sessionCredentials, .events]
  | .observeForegroundStarted .. =>
      [.operations, .sessions, .agents, .sessionCredentials, .events]
  | .observeForegroundEnded .. =>
      [.operations, .sessions, .agents, .sessionCredentials, .sessionFailures, .events]
  | .recordWorkspaceState .. => [.workspaces, .events]
  | .recordResultCommit .. => [.workspaces]
  | .integrateWorkspace .. => [.operations, .outcomes, .events]
  | .recordIntegration .. => [.workspaces, .operations, .events]
  | .sendMessage .. => [.operations, .outcomes, .messages, .events]
  | .acknowledgeMessages .. => [.operations, .outcomes, .messages, .events]
  | .beginRunShutdown .. => [.operations, .runShutdowns, .assignments, .events, .drains]
  | .stopIdleRun .. => [.operations, .runShutdowns, .assignments, .events, .drains]
  | .setShutdownPhase .. => [.runShutdowns, .events]
  | .persistShutdown .. => [.runs, .runShutdowns, .operations, .outcomes, .events]
  | .stopRunAtOnce .. => [.operations, .outcomes, .runs, .events]
  | .recoverRun .. => [.operations, .outcomes, .runs, .sessionControls, .runShutdowns, .events, .reactivations]
  | .recordSessionLaunchObservation .. => [.sessions]
  | .recordSessionReconciliationState .. => [.sessions]
  | .recordSessionLifecycle .. => [.sessions, .agents, .sessionCredentials]
  | .activateSessionCredential .. => [.sessionCredentials]

theorem writes_mutated {tables : List TableName} {mutation : Mutation}
    {requestFingerprint : Option String} {apply : Repo JsonValue}
    (hkind : launchKinds.contains mutation.kind = false ∨ .launches ∈ tables)
    (happly : Tx.Keeps (Written tables) apply) [Listed .operations tables] [Listed .outcomes tables] :
    Tx.Keeps (Written tables) (mutated mutation requestFingerprint apply) :=
  .bind (writes_mutationBody hkind happly) fun _ => .pure _

/-- The mutation of a request that launches nothing. -/
theorem writes_requested {tables : List TableName} {ctx : RequestContext} {kind : String}
    {request : JsonValue} {requestFingerprint : Option String} {apply : Repo JsonValue}
    (hkind : launchKinds.contains kind = false) (happly : Tx.Keeps (Written tables) apply)
    [Listed .operations tables] [Listed .outcomes tables] :
    Tx.Keeps (Written tables) (mutated (ctx.mutation kind request) requestFingerprint apply) :=
  writes_mutated (.inl hkind) happly

/-- Claiming a task and acknowledging messages launch nothing. -/
theorem claim_launchesNone : launchKinds.contains "task.claim" = false := by
  decide

theorem acknowledgement_launchesNone : launchKinds.contains "message.acknowledge" = false := by
  decide

theorem writes_discard {tables : List TableName} {α : Type} {x : Repo α}
    (h : Tx.Keeps (Written tables) x) : Tx.Keeps (Written tables) (discard x) :=
  .bind h fun _ => .pure _

/-- A command writes the tables that `writes` lists and no other. -/
theorem keeps_writes (command : Command) :
    Tx.Keeps (Written command.writes) command.body := by
  -- the list of tables has to be closed before membership in it can be decided
  cases command <;> dsimp only [writes, body]
  case startRun => exact writes_startRun _ _ _
  case attachProject => exact writes_requested (by decide) (writes_attachProject _ _)
  case completeProjectAttachment => exact writes_completeProjectAttachment _ _
  case recordOperationState => exact writes_recordOperationState _ _ _ _
  case createTask => exact writes_requested (by decide) (writes_createTask _ _)
  case claimTask => exact writes_mutated (.inl claim_launchesNone) (writes_claimTask _)
  case transitionTask => exact writes_discard (writes_transitionTaskWithFingerprint _ _)
  case recoverTask =>
      exact writes_requested (by decide) (.bind (writes_recoverAssignment _ _ _ _ _ _) fun _ => .pure _)
  case submitRetained => exact writes_requested (by decide) (writes_submitRetained _ _)
  case resubmitTask =>
    exact writes_requested (by decide) (.bind (writes_applyResubmission _ _) fun _ => .pure _)
  case spawnAgent => exact writes_mutated (.inr (by decide)) (writes_spawnAgent _ _)
  case recordSpawnFailure => exact writes_recordSpawnFailure _ _ _ _ _ _ _
  case completeSpawn => exact writes_discard (writes_recordOperationReconciliation _ _ _ _)
  case persistLaunchIntent => exact writes_persistLaunchIntent _ _ _
  case admitSessionLaunch => exact writes_discard (writes_admitSessionLaunch _ _ _)
  case replaceDesiredSessionCredential => exact writes_replaceDesiredSessionCredential _
  case recordFailedLaunch => exact writes_recordFailedLaunch _ _ _
  case recordLaunchObservation => exact writes_recordLaunchObservation _ _ _
  case recordReconciliation => exact writes_recordReconciliationIn _ _ _ _
  case recordObservation => exact writes_recordObservation _ _ _ _
  case requestControls => exact writes_requestControls _ _ _
  case setControlPhase => exact writes_setControlPhase _ _ _
  case markControlDelivered => exact writes_markControlDelivered _
  case launchForeground => exact writes_mutated (.inr (by decide)) (writes_launchForeground _ _)
  case reclaimForegroundLaunch => exact writes_discard (writes_reclaimForegroundLaunch _ _ _)
  case observeForegroundStarted => exact writes_observeForegroundStarted _ _ _
  case observeForegroundEnded => exact writes_observeForegroundEnded _ _ _ _ _
  case recordWorkspaceState => exact writes_recordWorkspaceState _ _ _
  case recordResultCommit =>
      exact .bind (writes_recordWorkspaceResultCommit _ _) fun _ => .pure _
  case integrateWorkspace => exact writes_requested (by decide) (writes_integrateWorkspace _ _ _)
  case recordIntegration => exact writes_recordIntegration _ _ _ _ _ _
  case sendMessage => exact writes_requested (by decide) (writes_sendMessage _ _)
  case acknowledgeMessages =>
    exact writes_mutated (.inl acknowledgement_launchesNone) (writes_acknowledgeMessages _)
  case beginRunShutdown => exact writes_beginRunShutdown _ _ _ _ _
  case stopIdleRun => exact writes_stopIdleRun _ _ _ _ _ _
  case setShutdownPhase => exact writes_setShutdownPhase _ _ _
  case persistShutdown => exact writes_persistShutdown _ _ _
  case stopRunAtOnce => exact writes_requested (by decide) (writes_stopRunAtOnce _)
  case recoverRun =>
    exact writes_requested (by decide) (.bind (writes_reactivateRun _) fun _ => .pure _)
  case recordSessionLaunchObservation =>
      exact writes_discard (writes_recordSessionLaunchObservation _ _ _)
  case recordSessionReconciliationState =>
      exact writes_discard (writes_recordSessionReconciliationState _ _ _)
  case recordSessionLifecycle => exact writes_discard (writes_recordSessionLifecycle _ _ _)
  case activateSessionCredential => exact writes_activateSessionCredential _

/-- A command leads to its database by writes to the tables that `writes` lists. -/
theorem exec_written (command : Command) (db : Db) :
    Written command.writes db (command.exec db) :=
  Tx.Keeps.transaction command.keeps_writes db

/-- A table that a command does not write is the same after it. -/
theorem exec_writesOnly (command : Command) (db : Db) :
    WritesOnly command.writes db (command.exec db) :=
  (command.exec_written db).writesOnly

/-- An invariant that the body of a command preserves survives the command. -/
theorem exec_preserves {I : Db → Prop} {command : Command}
    (h : Tx.Preserves I command.body) {db : Db} (hI : I db) : I (command.exec db) :=
  h.transaction hI

/-! ## Recorded operations -/

/-- A mutation whose closure settles no recorded operation settles its own at most. -/
theorem keeps_mutationBody_outcomes {α : Type} {codec : Codec α} {mutation : Mutation}
    {requestFingerprint : Option String} {apply : Repo α}
    (happly : Tx.Keeps Db.OutcomesKept apply) :
    Tx.Keeps Db.OutcomesKept (mutationBody codec mutation requestFingerprint apply) := by
  intro db id row hrow
  unfold mutationBody
  rw [Tx.run_bind, Tx.run_read]
  dsimp only
  cases hfound : db.operation mutation.id with
  | some existing =>
      rw [← keeps_replayOperation codec mutation requestFingerprint existing db]
      exact ⟨row, hrow, .refl row⟩
  | none =>
      -- the mutation settles an operation that was not recorded before
      have hne : mutation.id ≠ id := by
        rintro rfl
        rw [hfound] at hrow
        cases hrow
      let R : Db → Db → Prop := fun db db' => ∀ row, db.operation id = some row →
        ∃ row', db'.operation id = some row' ∧ row'.SameReplay row
      have hrefl : Std.Refl R := ⟨fun _ row hrow => ⟨row, hrow, .refl row⟩⟩
      have htrans : IsTrans Db R := ⟨fun _ _ _ hab hbc row hrow => by
        obtain ⟨row', hrow', hsame⟩ := hab row hrow
        obtain ⟨row'', hrow'', hsame'⟩ := hbc row' hrow'
        exact ⟨row'', hrow'', hsame'.trans hsame⟩⟩
      have hsettle : ∀ f : OperationRow → OperationRow, (∀ row, (f row).id = row.id) →
          Tx.Keeps R (Tx.write (·.updateOperation mutation.id f) : Repo Unit) := by
        intro f hf
        refine .write fun db row hrow => ⟨row, ?_, .refl row⟩
        have hid : row.id = id := by simpa using List.find?_some hrow
        rw [db.operation_updateOperation hf, hrow, Option.map_some, if_neg (by simp [hid, hne.symm])]
      have hinsert : Tx.Keeps R (insertOperation mutation.pendingOperation) :=
        .bind (.require _ _) fun _ => .bind (.require _ _) fun _ => .bind (.require _ _) fun _ =>
          .bind (.require _ _) fun _ => .write fun db row hrow =>
            ⟨row, Table.find?_append_of_some hrow, .refl row⟩
      have happly' : Tx.Keeps R apply := happly.mono fun _ _ h row hrow => h id row hrow
      have hfirst : Tx.Keeps R (applyMutation codec mutation requestFingerprint apply) :=
        .bind hinsert fun _ => .bind (hsettle _ fun _ => rfl) fun _ => .bind happly' fun _ =>
          .bind (.ofExcept _) fun _ => .bind (hsettle _ fun _ => rfl) fun _ => .pure _
      exact hfirst db row hrow

theorem keeps_mutated_outcomes {mutation : Mutation} {requestFingerprint : Option String}
    {apply : Repo JsonValue} (tables : List TableName) (hno : .outcomes ∉ tables)
    (happly : Tx.Keeps (Written tables) apply) :
    Tx.Keeps Db.OutcomesKept (mutated mutation requestFingerprint apply) :=
  .bind (keeps_mutationBody_outcomes
    (happly.mono fun _ _ h => h.writesOnly .outcomes hno)) fun _ => .pure _

/-- Only the transaction that completes a stop settles a recorded operation. -/
theorem keeps_outcomes (command : Command)
    (h : ∀ runId operationId stoppedAt, command ≠ .persistShutdown runId operationId stoppedAt) :
    Tx.Keeps Db.OutcomesKept command.body := by
  have hcalm : .outcomes ∉ command.writes → Tx.Keeps Db.OutcomesKept command.body :=
    fun hno => command.keeps_writes.mono fun _ _ hw => hw.writesOnly .outcomes hno
  cases command
  case attachProject =>
    exact keeps_mutated_outcomes [.operations, .events] (by decide) (writes_attachProject _ _)
  case createTask =>
    exact keeps_mutated_outcomes [.tasks, .taskDependencies, .events] (by decide)
      (writes_createTask _ _)
  case claimTask =>
    exact keeps_mutated_outcomes
      [.tasks, .claims, .assignments, .assignmentScopes, .events, .continuations] (by decide)
      (writes_claimTask _)
  case transitionTask transition requestFingerprint =>
    refine .bind (.bind (.okOr _ _) fun transition => keeps_mutationBody_outcomes ?_)
      fun _ => .pure _
    have hclosure : Tx.Keeps (Written [.tasks, .claims, .assignments, .events]) (do
        let result ← transitionTaskBody transition
        pure result.toJson) := .bind (writes_transitionTaskBody _) fun _ => .pure _
    exact hclosure.mono fun _ _ hw => hw.writesOnly .outcomes (by decide)
  case recoverTask =>
    exact keeps_mutated_outcomes
      [.recoveryHandoffs, .tasks, .claims, .assignments, .events, .recoveries] (by decide)
      (.bind (writes_recoverAssignment _ _ _ _ _ _) fun _ => .pure _)
  case submitRetained =>
    exact keeps_mutated_outcomes [.workspaces, .tasks, .claims, .assignments, .events]
      (by decide) (writes_submitRetained _ _)
  case resubmitTask =>
    exact keeps_mutated_outcomes [.workspaces, .tasks, .assignments, .events] (by decide)
      (.bind (writes_applyResubmission _ _) fun _ => .pure _)
  case spawnAgent =>
    exact keeps_mutated_outcomes
      [.operations, .agents, .agentScopes, .tasks, .claims, .assignments, .assignmentScopes,
        .workspaces, .events, .continuations] (by decide) (writes_spawnAgent _ _)
  case launchForeground =>
    exact keeps_mutated_outcomes
      [.operations, .agents, .agentScopes, .sessions, .sessionScopes, .sessionCredentials,
        .events] (by decide) (writes_launchForeground _ _)
  case integrateWorkspace =>
    exact keeps_mutated_outcomes [.operations, .events] (by decide)
      (writes_integrateWorkspace _ _ _)
  case sendMessage =>
    exact keeps_mutated_outcomes [.messages, .events] (by decide) (writes_sendMessage _ _)
  case acknowledgeMessages =>
    exact keeps_mutated_outcomes [.messages, .events] (by decide) (writes_acknowledgeMessages _)
  case stopRunAtOnce =>
    exact keeps_mutated_outcomes [.runs, .events] (by decide) (writes_stopRunAtOnce _)
  case recoverRun =>
    exact keeps_mutated_outcomes
      [.runs, .sessionControls, .runShutdowns, .events, .reactivations] (by decide)
      (.bind (writes_reactivateRun _) fun _ => .pure _)
  case persistShutdown runId operationId stoppedAt =>
    exact absurd rfl (h runId operationId stoppedAt)
  -- the other commands settle no operation at all
  all_goals exact hcalm (by dsimp only [writes]; decide)

/-- What a replay reads of a recorded operation stays, whatever command is executed but the
    completion of a stop. -/
theorem exec_outcomesKept {command : Command}
    (h : ∀ runId operationId stoppedAt, command ≠ .persistShutdown runId operationId stoppedAt)
    (db : Db) : db.OutcomesKept (command.exec db) :=
  Tx.Keeps.transaction (keeps_outcomes command h) db

end Command

/-- The run database under the commands of its supervisor. -/
def storeMachine : Machine Db Command where
  start := .empty
  step command db := command.exec db

end Coterie
