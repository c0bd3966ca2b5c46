/-
  Coterie.State.Frame

  What a repository function writes.  `Written tables` says that the database after it comes from
  the one before by writes to the listed tables: the log of events only grows, a recorded operation
  keeps its identity and its request, and a bound workspace keeps its binding.  Every repository
  function writes in this way, whatever its outcome.

  `WritesOnly tables` is the frame condition that follows: no other table changes.  An invariant
  about a few tables then survives every function whose frame leaves these tables alone.
-/

import Mathlib.Logic.Relation
import Coterie.State.ExactlyOnce
import Coterie.State.Messages
import Coterie.State.Recovery

namespace Coterie

/-- The tables of the run database, and parts of them: of the log, what records a recovered task, the
    assignment that continues it, a recovered run and a drained assignment; of the agents, the
    sessions and the assignments, their scopes; of the operations, the requests to launch an agent
    and what a replay reads. -/
inductive TableName where
  | runs
  | projects
  | agents
  | sessions
  | sessionCredentials
  | tasks
  | taskDependencies
  | operations
  | claims
  | assignments
  | workspaces
  | events
  | runShutdowns
  | sessionControls
  | sessionLaunchAttempts
  | sessionFailures
  | recoveryHandoffs
  | messages
  | foregroundNotifications
  | notificationDeliveries
  | recoveries
  | continuations
  | reactivations
  | drains
  | agentScopes
  | sessionScopes
  | assignmentScopes
  | launches
  | outcomes
deriving DecidableEq, Repr

/-- The part of the log that an event of this kind belongs to, from the state that its data
    names. -/
def EventKind.part (kind : EventKind) (state : Option JsonValue) : Option TableName :=
  match kind with
  | .taskRecovered => some .recoveries
  | .assignmentContinued => some .continuations
  | .runRecovered => some .reactivations
  | .assignmentLifecycleChanged =>
      if state = some (.str AssignmentState.draining.asStr) then some .drains else none
  | _ => none

/-- The part of the log that a new event belongs to. -/
def NewEvent.part (event : NewEvent) : Option TableName :=
  event.kind.part (event.data.get? "state")

/-- The part of the log that a recorded event belongs to. -/
def EventRecord.part (event : EventRecord) : Option TableName :=
  event.eventType.part (event.payload.path? ["data", "state"])

/-- A new event keeps its part of the log. -/
theorem Db.eventRecord_part (db : Db) (event : NewEvent) :
    (db.eventRecord event).part = event.part := by
  show event.kind.part (((some event.data).bind fun field => field.path? ["state"])) = event.part
  simp only [Option.bind_some, JsonValue.path?, NewEvent.part]
  cases event.data.get? "state" <;> rfl

/-- The events of one part of the log. -/
def Db.eventsIn (db : Db) (part : TableName) : List EventRecord :=
  db.events.filter (·.part == some part)

/-- A new event of another part leaves this one alone. -/
theorem Db.eventsIn_pushEvent {db : Db} {event : NewEvent} {part : TableName}
    (h : event.part ≠ some part) : (db.pushEvent event).eventsIn part = db.eventsIn part := by
  have hother : ((db.eventRecord event).part == some part) = false := by
    rw [db.eventRecord_part]
    simpa using h
  simp [Db.eventsIn, Db.pushEvent, hother]

/-- What an agent keeps for ever. -/
structure AgentIdentity where
  id : AgentId
  runId : RunId
  role : String
  createdAt : Int
deriving DecidableEq, Repr

def AgentRecord.identity (agent : AgentRecord) : AgentIdentity where
  id := agent.id
  runId := agent.runId
  role := agent.role
  createdAt := agent.createdAt

/-- What an agent keeps unless it is replaced. -/
def AgentRecord.scope (agent : AgentRecord) : AgentIdentity × Int :=
  (agent.identity, agent.generation)

/-- The agents of the database, in the order in which they were recorded. -/
def Db.identities (db : Db) : List AgentIdentity :=
  db.agents.map (·.identity)

/-- What an assignment keeps for ever. -/
def AssignmentRecord.identity (assignment : AssignmentRecord) :
    AssignmentScope × TaskId × AgentId × Int :=
  (assignment.scope, assignment.taskId, assignment.agentId, assignment.claimId)

/-- No assignment became a draining one. -/
def NoneDrained (before after : List AssignmentRecord) : Prop :=
  ∀ row ∈ after, row.state = .draining → ∃ old ∈ before, old.id = row.id ∧ old.state = .draining

theorem NoneDrained.trans {a b c : List AssignmentRecord} (hab : NoneDrained a b)
    (hbc : NoneDrained b c) : NoneDrained a c := by
  intro row hrow hdraining
  obtain ⟨middle, hmiddle, hid, hstate⟩ := hbc row hrow hdraining
  obtain ⟨old, hold, hid', hstate'⟩ := hab middle hmiddle hstate
  exact ⟨old, hold, hid'.trans hid, hstate'⟩

/-- An update that drains no row. -/
theorem NoneDrained.updateWhere (p : AssignmentRecord → Bool)
    {f : AssignmentRecord → AssignmentRecord} (hid : ∀ row, (f row).id = row.id)
    (hf : ∀ row, (f row).state = .draining → row.state = .draining)
    (rows : List AssignmentRecord) : NoneDrained rows (Table.updateWhere p f rows) := by
  intro row hrow hdraining
  obtain ⟨old, hold, rfl⟩ := Table.mem_updateWhere.mp hrow
  split at hdraining
  · next hp =>
      rw [if_pos hp]
      exact ⟨old, hold, (hid old).symm, hf old hdraining⟩
  · next hp =>
      rw [if_neg hp]
      exact ⟨old, hold, rfl, hdraining⟩

/-- The agent of the assignment is recorded. -/
def Db.Holds (db : Db) (assignment : AssignmentRecord) : Prop :=
  ∃ agent ∈ db.agents, agent.id = assignment.agentId ∧ agent.runId = assignment.runId

/-- The agents stay who they are; new ones come behind them. -/
def AgentsKept (before after : List AgentRecord) : Prop :=
  before.map (·.identity) <+: after.map (·.identity)

/-- The kinds of the operations that launch an agent. -/
def launchKinds : List String := ["agent.spawn", "agent.launch_foreground"]

/-- The recorded requests to launch an agent. -/
def Db.launchRequests (db : Db) : List (OperationId × RunId × String × Int) :=
  (db.operations.filter fun row => launchKinds.contains row.kind).map fun row =>
    (row.id, row.runId, row.kind, row.createdAt)

/-- Recorded operations stay, with the columns that a replay reads. -/
def Db.OutcomesKept (db db' : Db) : Prop :=
  ∀ id row, db.operation id = some row →
    ∃ row', db'.operation id = some row' ∧ row'.SameReplay row

instance : Std.Refl Db.OutcomesKept where
  refl _ _ row hrow := ⟨row, hrow, .refl row⟩

instance : IsTrans Db Db.OutcomesKept where
  trans := by
    intro a b c hab hbc id row hrow
    obtain ⟨row', hrow', hsame⟩ := hab id row hrow
    obtain ⟨row'', hrow'', hsame'⟩ := hbc id row' hrow'
    exact ⟨row'', hrow'', hsame'.trans hsame⟩

/-- Two databases have the same rows in a table, or agree in a part of it. -/
def Db.SameTable (db db' : Db) : TableName → Prop
  | .runs => db'.runs = db.runs
  | .projects => db'.projects = db.projects
  | .agents => db'.agents = db.agents
  | .sessions => db'.sessions = db.sessions
  | .sessionCredentials => db'.sessionCredentials = db.sessionCredentials
  | .tasks => db'.tasks = db.tasks
  | .taskDependencies => db'.taskDependencies = db.taskDependencies
  | .operations => db'.operations = db.operations
  | .claims => db'.claims = db.claims
  | .assignments => db'.assignments = db.assignments
  | .workspaces => db'.workspaces = db.workspaces
  | .events => db'.events = db.events
  | .runShutdowns => db'.runShutdowns = db.runShutdowns
  | .sessionControls => db'.sessionControls = db.sessionControls
  | .sessionLaunchAttempts => db'.sessionLaunchAttempts = db.sessionLaunchAttempts
  | .sessionFailures => db'.sessionFailures = db.sessionFailures
  | .recoveryHandoffs => db'.recoveryHandoffs = db.recoveryHandoffs
  | .messages => db'.messages = db.messages
  | .foregroundNotifications => db'.foregroundNotifications = db.foregroundNotifications
  | .notificationDeliveries => db'.notificationDeliveries = db.notificationDeliveries
  | .recoveries => db'.eventsIn .recoveries = db.eventsIn .recoveries
  | .continuations => db'.eventsIn .continuations = db.eventsIn .continuations
  | .reactivations => db'.eventsIn .reactivations = db.eventsIn .reactivations
  | .drains =>
      db'.eventsIn .drains = db.eventsIn .drains ∧ NoneDrained db.assignments db'.assignments
  | .agentScopes => db'.agents.map (·.scope) = db.agents.map (·.scope)
  | .sessionScopes => db'.sessions.map (·.scope) = db.sessions.map (·.scope)
  | .assignmentScopes => db'.assignments.map (·.identity) = db.assignments.map (·.identity)
  | .launches => db'.launchRequests = db.launchRequests
  | .outcomes => db.OutcomesKept db'

/-- The databases differ at most in the listed tables. -/
def WritesOnly (tables : List TableName) (db db' : Db) : Prop :=
  ∀ table, table ∉ tables → db.SameTable db' table

namespace WritesOnly

variable {tables own : List TableName} {db db' : Db}

/-- A table outside the frame is the same before and after. -/
theorem same (h : WritesOnly tables db db') (table : TableName)
    (hno : table ∉ tables) : db.SameTable db' table :=
  h table hno

theorem mono (h : WritesOnly own db db') (hsub : ∀ table ∈ own, table ∈ tables) :
    WritesOnly tables db db' := by
  intro table hno
  exact h table fun hown => hno (hsub table hown)

instance : Std.Refl (WritesOnly tables) where
  refl db := by
    intro table _
    cases table <;> first
      | rfl
      | exact Std.Refl.refl (r := Db.OutcomesKept) db
      | exact ⟨rfl, fun row hrow hdraining => ⟨row, hrow, rfl, hdraining⟩⟩

instance : IsTrans Db (WritesOnly tables) where
  trans a b c hab hbc := by
    intro table hno
    have h₁ := hab table hno
    have h₂ := hbc table hno
    cases table <;> first
      | exact Eq.trans h₂ h₁
      | exact IsTrans.trans (r := Db.OutcomesKept) _ _ _ h₁ h₂
      | exact ⟨h₂.1.trans h₁.1, h₁.2.trans h₂.2⟩

end WritesOnly

/-- The table is one of the listed ones, which instance search finds in the list. -/
class Listed (table : TableName) (tables : List TableName) : Prop where
  mem : table ∈ tables

instance (table : TableName) (rest : List TableName) : Listed table (table :: rest) where
  mem := List.mem_cons_self

instance {table : TableName} {rest : List TableName} [h : Listed table rest]
    (first : TableName) : Listed table (first :: rest) where
  mem := List.mem_cons_of_mem first h.mem

/-! ## Writes -/

/-- The row stands for the same request. -/
structure OperationRow.SameIdentity (row row' : OperationRow) : Prop where
  id : row'.id = row.id
  runId : row'.runId = row.runId
  kind : row'.kind = row.kind
  request : row'.request = row.request

/-- The row stands for the same request, made at the same time. -/
structure OperationRow.SameRequest (row row' : OperationRow) : Prop
    extends row.SameIdentity row' where
  createdAt : row'.createdAt = row.createdAt

/-- The row binds the same assignment to the same place. -/
structure WorkspaceRecord.SameBinding (row row' : WorkspaceRecord) : Prop where
  assignmentId : row'.assignmentId = row.assignmentId
  generation : row'.generation = row.generation
  runId : row'.runId = row.runId
  projectId : row'.projectId = row.projectId
  kind : row'.kind = row.kind
  path : row'.path = row.path
  baseCommit : row'.baseCommit = row.baseCommit

/-- The new row may be bound: its path is not reserved, and it binds an assignment of its run for
    the first time. -/
structure Db.Admits (db : Db) (workspace : WorkspaceRecord) : Prop where
  unreserved : ∀ row ∈ db.workspaces,
    db.pathReservedBy workspace.runId workspace.path workspace.kind row = false
  unbound : ∀ row ∈ db.workspaces, row.assignmentId ≠ workspace.assignmentId
  assigned : ∃ assignment ∈ db.assignments, assignment.id = workspace.assignmentId ∧
    assignment.runId = workspace.runId ∧ assignment.generation = workspace.generation

theorem Db.launchRequests_pushOperation {db : Db} {operation : OperationRecord}
    (h : launchKinds.contains operation.kind = false) :
    (db.pushOperation operation).launchRequests = db.launchRequests := by
  have hother : launchKinds.contains operation.row.kind = false := h
  unfold Db.launchRequests Db.pushOperation
  rw [List.filter_append, List.filter_singleton, hother]
  simp

theorem Db.launchRequests_updateOperation {db : Db} {id : OperationId}
    {f : OperationRow → OperationRow} (hf : ∀ row : OperationRow, row.SameRequest (f row)) :
    (db.updateOperation id f).launchRequests = db.launchRequests := by
  refine Table.map_filter_updateWhere (fun row _ => ?_) (fun row _ => ?_) db.operations
  · rw [(hf row).kind]
  · rw [(hf row).id, (hf row).runId, (hf row).kind, (hf row).createdAt]

theorem Db.outcomesKept_pushOperation (db : Db) (operation : OperationRecord) :
    db.OutcomesKept (db.pushOperation operation) :=
  fun _ row hrow => ⟨row, Table.find?_append_of_some hrow, .refl row⟩

theorem Db.outcomesKept_updateOperation {db : Db} {id : OperationId}
    {f : OperationRow → OperationRow} (hf : ∀ row, (f row).id = row.id)
    (hreplay : ∀ row, (f row).SameReplay row) : db.OutcomesKept (db.updateOperation id f) := by
  intro id' row hrow
  rw [db.operation_updateOperation hf, hrow]
  refine ⟨_, rfl, ?_⟩
  dsimp only
  split
  · exact hreplay row
  · exact .refl row

/-- One write to a listed table. -/
inductive Db.Write (tables : List TableName) (db : Db) : Db → Prop where
  | runs (rows : List RunRecord) (htable : .runs ∈ tables) :
      Write tables db { db with runs := rows }
  | projects (rows : List ProjectRecord) (htable : .projects ∈ tables) :
      Write tables db { db with projects := rows }
  | agents (rows : List AgentRecord) (htable : .agents ∈ tables)
      (hscopes : rows.map (·.scope) = db.agents.map (·.scope) ∨
        .agentScopes ∈ tables ∧ AgentsKept db.agents rows) :
      Write tables db { db with agents := rows }
  | sessions (rows : List SessionRecord) (htable : .sessions ∈ tables)
      (hscopes : rows.map (·.scope) = db.sessions.map (·.scope) ∨ .sessionScopes ∈ tables) :
      Write tables db { db with sessions := rows }
  | sessionCredentials (rows : List SessionCredentialRecord)
      (htable : .sessionCredentials ∈ tables) :
      Write tables db { db with sessionCredentials := rows }
  | tasks (rows : List TaskRecord) (htable : .tasks ∈ tables) :
      Write tables db { db with tasks := rows }
  | taskDependencies (rows : List DependencyRecord) (htable : .taskDependencies ∈ tables) :
      Write tables db { db with taskDependencies := rows }
  | claims (rows : List ClaimRecord) (htable : .claims ∈ tables) :
      Write tables db { db with claims := rows }
  | assignments (rows : List AssignmentRecord) (htable : .assignments ∈ tables)
      (hrows : rows.map (·.identity) = db.assignments.map (·.identity) ∨
        .assignmentScopes ∈ tables ∧ ∃ row, rows = db.assignments ++ [row] ∧ db.Holds row)
      (hdrains : NoneDrained db.assignments rows ∨ .drains ∈ tables) :
      Write tables db { db with assignments := rows }
  | runShutdowns (rows : List RunShutdown) (htable : .runShutdowns ∈ tables) :
      Write tables db { db with runShutdowns := rows }
  | sessionControls (rows : List SessionControl) (htable : .sessionControls ∈ tables) :
      Write tables db { db with sessionControls := rows }
  | sessionLaunchAttempts (rows : List SessionLaunchAttempts)
      (htable : .sessionLaunchAttempts ∈ tables) :
      Write tables db { db with sessionLaunchAttempts := rows }
  | sessionFailures (rows : List SessionFailure) (htable : .sessionFailures ∈ tables) :
      Write tables db { db with sessionFailures := rows }
  | recoveryHandoffs (rows : List RecoveryHandoff) (htable : .recoveryHandoffs ∈ tables) :
      Write tables db { db with recoveryHandoffs := rows }
  | messages (rows : List MessageRecord) (htable : .messages ∈ tables) :
      Write tables db { db with messages := rows }
  | foregroundNotifications (rows : List ForegroundNotification)
      (htable : .foregroundNotifications ∈ tables) :
      Write tables db { db with foregroundNotifications := rows }
  | notificationDeliveries (rows : List NotificationDelivery)
      (htable : .notificationDeliveries ∈ tables) :
      Write tables db { db with notificationDeliveries := rows }
  | event (event : NewEvent) (htable : .events ∈ tables)
      (hpart : ∀ part, event.part = some part → part ∈ tables)
      (hreferences : db.eventReferencesHold event = true) : Write tables db (db.pushEvent event)
  | operation (operation : OperationRecord) (htable : .operations ∈ tables)
      (hkind : launchKinds.contains operation.kind = false ∨ .launches ∈ tables)
      (hnew : ∀ row ∈ db.operations, row.id ≠ operation.id) :
      Write tables db (db.pushOperation operation)
  | updateOperation (id : OperationId) (f : OperationRow → OperationRow)
      (htable : .operations ∈ tables) (hf : ∀ row : OperationRow, row.SameRequest (f row))
      (hreplay : (∀ row : OperationRow, (f row).SameReplay row) ∨ .outcomes ∈ tables) :
      Write tables db (db.updateOperation id f)
  | workspace (workspace : WorkspaceRecord) (htable : .workspaces ∈ tables)
      (hadmits : db.Admits workspace) :
      Write tables db { db with workspaces := db.workspaces ++ [workspace] }
  | updateWorkspace (id : AssignmentId) (f : WorkspaceRecord → WorkspaceRecord)
      (htable : .workspaces ∈ tables) (hf : ∀ row : WorkspaceRecord, row.SameBinding (f row)) :
      Write tables db (db.updateWorkspace id f)

/-- The database after some writes to the listed tables. -/
def Written (tables : List TableName) : Db → Db → Prop :=
  Relation.ReflTransGen (Db.Write tables)

instance (tables : List TableName) : Std.Refl (Written tables) where
  refl _ := .refl

instance (tables : List TableName) : IsTrans Db (Written tables) where
  trans _ _ _ hab hbc := Relation.ReflTransGen.trans hab hbc

namespace Written

variable {tables own : List TableName} {db db' : Db}

theorem of_write (h : db.Write tables db') : Written tables db db' :=
  .single h

theorem trans {db'' : Db} (h : Written tables db db') (h' : Written tables db' db'') :
    Written tables db db'' :=
  Relation.ReflTransGen.trans h h'

/-- A relation that is reflexive and transitive holds along writes if every write satisfies it. -/
theorem rel {R : Db → Db → Prop} [Std.Refl R] [IsTrans Db R]
    (hwrite : ∀ s t, s.Write tables t → R s t) (h : Written tables db db') : R db db' := by
  induction h with
  | refl => exact Std.Refl.refl _
  | tail _ hlast ih => exact IsTrans.trans _ _ _ ih (hwrite _ _ hlast)

theorem mono (h : Written own db db') (hsub : ∀ table ∈ own, table ∈ tables) :
    Written tables db db' := by
  refine h.rel fun s t hwrite => of_write ?_
  cases hwrite with
  | event event htable hpart hreferences =>
      exact .event event (hsub _ htable) (fun part h => hsub _ (hpart part h)) hreferences
  | operation operation htable hkind hnew =>
      exact .operation operation (hsub _ htable) (hkind.imp_right (hsub _)) hnew
  | updateOperation id f htable hf hreplay =>
      exact .updateOperation id f (hsub _ htable) hf (hreplay.imp_right (hsub _))
  | workspace workspace htable hadmits => exact .workspace workspace (hsub _ htable) hadmits
  | updateWorkspace id f htable hf => exact .updateWorkspace id f (hsub _ htable) hf
  | runs rows htable => exact .runs rows (hsub _ htable)
  | projects rows htable => exact .projects rows (hsub _ htable)
  | agents rows htable hscopes =>
      exact .agents rows (hsub _ htable) (hscopes.imp_right fun h => ⟨hsub _ h.1, h.2⟩)
  | sessions rows htable hscopes =>
      exact .sessions rows (hsub _ htable) (hscopes.imp_right (hsub _))
  | sessionCredentials rows htable => exact .sessionCredentials rows (hsub _ htable)
  | tasks rows htable => exact .tasks rows (hsub _ htable)
  | taskDependencies rows htable => exact .taskDependencies rows (hsub _ htable)
  | claims rows htable => exact .claims rows (hsub _ htable)
  | assignments rows htable hrows hdrains =>
      exact .assignments rows (hsub _ htable) (hrows.imp_right fun h => ⟨hsub _ h.1, h.2⟩)
        (hdrains.imp_right (hsub _))
  | runShutdowns rows htable => exact .runShutdowns rows (hsub _ htable)
  | sessionControls rows htable => exact .sessionControls rows (hsub _ htable)
  | sessionLaunchAttempts rows htable => exact .sessionLaunchAttempts rows (hsub _ htable)
  | sessionFailures rows htable => exact .sessionFailures rows (hsub _ htable)
  | recoveryHandoffs rows htable => exact .recoveryHandoffs rows (hsub _ htable)
  | messages rows htable => exact .messages rows (hsub _ htable)
  | foregroundNotifications rows htable => exact .foregroundNotifications rows (hsub _ htable)
  | notificationDeliveries rows htable => exact .notificationDeliveries rows (hsub _ htable)

/-- No other table changes. -/
theorem writesOnly (h : Written tables db db') : WritesOnly tables db db' := by
  refine h.rel fun s t hwrite table hno => ?_
  have hsame : s.SameTable s table := (Std.Refl.refl (r := WritesOnly []) s) table nofun
  cases hwrite with
  | event event htable hpart hreferences =>
      have hother : event.part ≠ some table := fun h => hno (hpart table h)
      cases table with
      | events => exact absurd htable hno
      | recoveries => exact Db.eventsIn_pushEvent hother
      | continuations => exact Db.eventsIn_pushEvent hother
      | reactivations => exact Db.eventsIn_pushEvent hother
      | drains => exact ⟨Db.eventsIn_pushEvent hother, hsame.2⟩
      | _ => exact hsame
  | agents rows htable hscopes =>
      cases table with
      | agents => exact absurd htable hno
      | agentScopes => exact hscopes.resolve_right fun h => hno h.1
      | _ => exact hsame
  | sessions rows htable hscopes =>
      cases table with
      | sessions => exact absurd htable hno
      | sessionScopes => exact hscopes.resolve_right hno
      | _ => exact hsame
  | assignments rows htable hrows hdrains =>
      cases table with
      | assignments => exact absurd htable hno
      | assignmentScopes => exact hrows.resolve_right fun h => hno h.1
      | drains => exact ⟨rfl, hdrains.resolve_right hno⟩
      | _ => exact hsame
  | operation operation htable hkind =>
      cases table with
      | operations => exact absurd htable hno
      | launches => exact Db.launchRequests_pushOperation (hkind.resolve_right hno)
      | outcomes => exact s.outcomesKept_pushOperation operation
      | _ => exact hsame
  | updateOperation id f htable hf hreplay =>
      cases table with
      | operations => exact absurd htable hno
      | launches => exact Db.launchRequests_updateOperation hf
      | outcomes =>
          exact Db.outcomesKept_updateOperation (fun row => (hf row).id) (hreplay.resolve_right hno)
      | _ => exact hsame
  | _ => cases table <;> first | exact hsame | exact absurd ‹_ ∈ tables› hno

end Written

variable {tables : List TableName}

/-! ## Recorded requests -/

/-- Recorded operations stay, each for the same request. -/
def Db.RequestsKept (db db' : Db) : Prop :=
  ∀ row ∈ db.operations, ∃ row' ∈ db'.operations, row.SameIdentity row'

instance : Std.Refl Db.RequestsKept where
  refl _ row hrow := ⟨row, hrow, ⟨rfl, rfl, rfl, rfl⟩⟩

instance : IsTrans Db Db.RequestsKept where
  trans := by
    intro a b c hab hbc row hrow
    obtain ⟨row', hrow', h⟩ := hab row hrow
    obtain ⟨row'', hrow'', h'⟩ := hbc row' hrow'
    exact ⟨row'', hrow'', h'.id.trans h.id, h'.runId.trans h.runId, h'.kind.trans h.kind,
      h'.request.trans h.request⟩

/-- No write removes an operation or changes its request. -/
theorem Written.requestsKept {db db' : Db} (h : Written tables db db') : db.RequestsKept db' := by
  refine h.rel fun s t hwrite row hrow => ?_
  have hsame : row.SameIdentity row := ⟨rfl, rfl, rfl, rfl⟩
  cases hwrite with
  | operation operation =>
      have hmem : row ∈ (s.pushOperation operation).operations := List.mem_append_left _ hrow
      exact ⟨row, hmem, hsame⟩
  | updateOperation id f _ hf =>
      by_cases hid : (row.id == id) = true
      · have hmem : f row ∈ (s.updateOperation id f).operations :=
          Table.mem_updateWhere_of_pos hrow hid
        exact ⟨f row, hmem, (hf row).toSameIdentity⟩
      · have hmem : row ∈ (s.updateOperation id f).operations :=
          Table.mem_updateWhere_of_neg hrow (Bool.eq_false_iff.mpr hid)
        exact ⟨row, hmem, hsame⟩
  | _ => exact ⟨row, hrow, hsame⟩

/-! ## Events and operations -/

theorem writes_constraint (violated : Constraint) (holds : Db → Bool) :
    Tx.Keeps (Written tables) (constraint violated holds) :=
  .require _ _

theorem writes_appendEventIn (event : NewEvent)
    (hpart : ∀ part, event.part = some part → part ∈ tables) [Listed .events tables] :
    Tx.Keeps (Written tables) (appendEvent event) := by
  refine .require_bind fun db hreferences => ?_
  exact .of_write (.event event Listed.mem hpart hreferences)

/-- An event of no part of the log that is counted on its own. -/
theorem writes_appendEvent (event : NewEvent) (hplain : event.part = none)
    [Listed .events tables] : Tx.Keeps (Written tables) (appendEvent event) :=
  writes_appendEventIn event (by simp [hplain])

/-- An event of one part of the log. -/
theorem writes_appendEventOf (event : NewEvent) {part : TableName}
    (hpart : event.part = some part) [Listed .events tables] [h : Listed part tables] :
    Tx.Keeps (Written tables) (appendEvent event) :=
  writes_appendEventIn event (by
    rintro part' hpart'
    rw [hpart, Option.some.injEq] at hpart'
    exact hpart' ▸ h.mem)

/-- The log, with all its parts. -/
def logTables : List TableName := [.events, .recoveries, .continuations, .reactivations, .drains]

/-- Any event is a write to the log. -/
theorem writes_anyEvent (event : NewEvent) :
    Tx.Keeps (Written logTables) (appendEvent event) := by
  have : Listed .events logTables := inferInstanceAs (Listed .events (.events :: _))
  refine writes_appendEventIn event fun part hpart => ?_
  unfold NewEvent.part EventKind.part at hpart
  split at hpart
  · cases hpart; decide
  · cases hpart; decide
  · cases hpart; decide
  · split at hpart <;> cases hpart
    decide
  · cases hpart

theorem written_updateOperation (db : Db) (id : OperationId) {f : OperationRow → OperationRow}
    [Listed .operations tables] (hf : ∀ row : OperationRow, row.SameRequest (f row))
    (hreplay : (∀ row : OperationRow, (f row).SameReplay row) ∨ .outcomes ∈ tables) :
    Written tables db (db.updateOperation id f) :=
  .of_write (.updateOperation id f Listed.mem hf hreplay)

/-- What a replay reads of an operation changes. -/
theorem written_settleOperation (db : Db) (id : OperationId) {f : OperationRow → OperationRow}
    [Listed .operations tables] [Listed .outcomes tables]
    (hf : ∀ row : OperationRow, row.SameRequest (f row)) :
    Written tables db (db.updateOperation id f) :=
  written_updateOperation db id hf (.inr Listed.mem)

theorem writes_insertOperation (operation : OperationRecord)
    (hkind : launchKinds.contains operation.kind = false ∨ .launches ∈ tables) [Listed .operations tables] :
    Tx.Keeps (Written tables) (insertOperation operation) := by
  refine .require_bind fun db hnew => Tx.Keeps.require_bind_at fun _ =>
    Tx.Keeps.require_bind_at fun _ => Tx.Keeps.require_bind_at fun _ =>
      .of_write (.operation operation Listed.mem hkind ?_)
  intro row hrow heq
  have hany : (db.operations.any (·.id == operation.id)) = true :=
    List.any_eq_true.mpr ⟨row, hrow, by simpa using heq⟩
  simp [hany] at hnew

theorem writes_markOperationReconciliationDesired (id : OperationId)
    [Listed .operations tables] [Listed .events tables] :
    Tx.Keeps (Written tables) (markOperationReconciliationDesired id) := by
  refine .bind (.read _) fun found => ?_
  cases found with
  | none => exact .throw _
  | some operation =>
      dsimp only
      split
      · exact .bind (.write fun db => written_updateOperation db _ (fun _ => ⟨⟨rfl, rfl, rfl, rfl⟩, rfl⟩)
          (.inl fun _ => ⟨rfl, rfl, rfl, rfl, rfl, rfl, rfl⟩))
          fun _ => writes_appendEvent _ rfl
      · exact .pure _
      · exact .throw _

theorem writes_recordOperationReconciliation (id : OperationId) (state : ExternalResourceState)
    (error : Option String) (reconciledAt : Int)
    [Listed .operations tables] [Listed .events tables] :
    Tx.Keeps (Written tables) (recordOperationReconciliation id state error reconciledAt) := by
  refine .bind (.read _) fun found => ?_
  cases found with
  | none => exact .pure _
  | some operation =>
      exact .ite (.pure _) (.bind (.write fun db => written_updateOperation db _ (fun _ => ⟨⟨rfl, rfl, rfl, rfl⟩, rfl⟩)
          (.inl fun _ => ⟨rfl, rfl, rfl, rfl, rfl, rfl, rfl⟩))
        fun _ => .bind (.when (writes_appendEvent _ rfl)) fun _ => .pure _)

/-- A replay reads only. -/
theorem keeps_replayOperation {α : Type} (codec : Codec α) (mutation : Mutation)
    (requestFingerprint : Option String) (existing : OperationRow) :
    Tx.Keeps Eq (replayOperation codec mutation requestFingerprint existing) := by
  refine .ite (.throw _) (.ite (.throw _) ?_)
  split
  · exact .throw _
  · exact .bind (.ofExcept _) fun _ => .pure _

theorem writes_replayOperation {α : Type} {codec : Codec α} {mutation : Mutation}
    {requestFingerprint : Option String} {existing : OperationRow} :
    Tx.Keeps (Written tables)
      (replayOperation codec mutation requestFingerprint existing) := by
  intro db
  rw [← keeps_replayOperation codec mutation requestFingerprint existing db]
  exact Std.Refl.refl db

/-- A mutation writes what its closure writes, and the operation table. -/
theorem writes_mutationBody {α : Type} {codec : Codec α} {mutation : Mutation}
    {requestFingerprint : Option String} {apply : Repo α}
    (hkind : launchKinds.contains mutation.kind = false ∨ .launches ∈ tables)
    (happly : Tx.Keeps (Written tables) apply) [Listed .operations tables] [Listed .outcomes tables] :
    Tx.Keeps (Written tables) (mutationBody codec mutation requestFingerprint apply) := by
  refine .bind (.read _) fun found => ?_
  cases found with
  | some existing => exact writes_replayOperation
  | none =>
      exact .bind (writes_insertOperation _ hkind) fun _ =>
        .bind (.write fun db => written_settleOperation db _ fun _ => ⟨⟨rfl, rfl, rfl, rfl⟩, rfl⟩) fun _ =>
          .bind happly fun _ => .bind (.ofExcept _) fun _ =>
            .bind (.write fun db => written_settleOperation db _ fun _ => ⟨⟨rfl, rfl, rfl, rfl⟩, rfl⟩) fun _ => .pure _

/-- The row records the request of a mutation. -/
structure OperationRow.StandsFor (row : OperationRow) (mutation : Mutation) : Prop where
  id : row.id = mutation.id
  runId : row.runId = mutation.runId
  kind : row.kind = mutation.kind
  request : row.request = mutation.request

theorem OperationRow.SameIdentity.standsFor {row row' : OperationRow} {mutation : Mutation}
    (h : row.SameIdentity row') (hstands : row.StandsFor mutation) : row'.StandsFor mutation :=
  ⟨h.id.trans hstands.id, h.runId.trans hstands.runId, h.kind.trans hstands.kind,
    h.request.trans hstands.request⟩

theorem insertOperation_ok {operation : OperationRecord} {db db' : Db} {u : Unit}
    (h : (insertOperation operation).run db = (.ok u, db')) : db' = db.pushOperation operation := by
  simp only [insertOperation, constraint, Tx.bind_eq_ok, Tx.require_eq_ok, Tx.write_eq_ok] at h
  obtain ⟨_, _, ⟨-, rfl⟩, _, _, ⟨-, rfl⟩, _, _, ⟨-, rfl⟩, _, _, ⟨-, rfl⟩, rfl⟩ := h
  rfl

/-- A committed mutation replayed a recorded result, or recorded its request and ran its closure
    between writes to the operation table. -/
theorem mutationBody_ok {α : Type} {codec : Codec α} {mutation : Mutation}
    {requestFingerprint : Option String} {apply : Repo α} {outcome : MutationOutcome α}
    {db db' : Db}
    (h : (mutationBody codec mutation requestFingerprint apply).run db = (.ok outcome, db')) :
    ((db.operation mutation.id).isSome ∧ db' = db) ∨
      ∃ a db₁ db₂, Written [.operations, .launches, .outcomes] db db₁ ∧
        (∃ row ∈ db₁.operations, row.StandsFor mutation) ∧ apply.run db₁ = (.ok a, db₂) ∧
        Written [.operations, .outcomes] db₂ db' := by
  obtain ⟨found, _, h₁, h⟩ := Tx.bind_eq_ok.mp h
  obtain ⟨hfound, rfl⟩ := Tx.read_eq_ok.mp h₁
  cases found with
  | some existing =>
      have hreplay := keeps_replayOperation codec mutation requestFingerprint existing
      exact .inl ⟨by rw [hfound]; rfl, (hreplay.of_ok h).symm⟩
  | none =>
      obtain ⟨_, db₁, hinsert, h⟩ := Tx.bind_eq_ok.mp h
      obtain ⟨_, db₂, hfingerprint, h⟩ := Tx.bind_eq_ok.mp h
      obtain ⟨a, db₃, happly, h⟩ := Tx.bind_eq_ok.mp h
      obtain ⟨encoded, _, hencode, h⟩ := Tx.bind_eq_ok.mp h
      obtain ⟨-, rfl⟩ := Tx.ofExcept_eq_ok.mp hencode
      obtain ⟨_, db₄, hsucceed, h⟩ := Tx.bind_eq_ok.mp h
      obtain ⟨-, rfl⟩ := Tx.pure_eq_ok.mp h
      obtain rfl := Tx.write_eq_ok.mp hfingerprint
      obtain rfl := Tx.write_eq_ok.mp hsucceed
      have hopened : Written [.operations, .launches, .outcomes] db db₁ :=
        (writes_insertOperation _ (.inr Listed.mem)).of_ok hinsert
      have hlabeled : Written [.operations, .launches, .outcomes] db₁
          (db₁.updateOperation mutation.id (·.setFingerprint requestFingerprint)) :=
        written_settleOperation db₁ _ fun _ => ⟨⟨rfl, rfl, rfl, rfl⟩, rfl⟩
      have hrow : mutation.pendingOperation.row ∈ db₁.operations := by
        rw [insertOperation_ok hinsert]
        exact List.mem_append_right _ List.mem_cons_self
      obtain ⟨row, hmem, hsame⟩ := hlabeled.requestsKept _ hrow
      exact .inr ⟨a, _, db₃, hopened.trans hlabeled,
        ⟨row, hmem, hsame.standsFor ⟨rfl, rfl, rfl, rfl⟩⟩, happly, written_settleOperation db₃ _ fun _ => ⟨⟨rfl, rfl, rfl, rfl⟩, rfl⟩⟩

/-! ## Relations that do not see a frame -/

/-- Changes of the listed tables neither break the relation nor are needed for it. -/
structure Unseen (tables : List TableName) (R : Db → Db → Prop) : Prop where
  still : ∀ {s t}, WritesOnly tables s t → R s t
  before : ∀ {s t u}, WritesOnly tables s t → R t u → R s u
  after : ∀ {s t u}, R s t → WritesOnly tables t u → R s u

namespace Unseen

variable {R : Db → Db → Prop} {α β : Type} {x : Repo α} {f : α → Repo β}

/-- A call that writes only what the relation does not see ensures it. -/
theorem ensures (h : Unseen tables R) (hx : Tx.Keeps (Written tables) x) : Tx.Ensures R x :=
  .of_keeps hx fun _ _ hw => h.still hw.writesOnly

/-- Such a call may come first. -/
theorem bind (h : Unseen tables R) (hx : Tx.Keeps (Written tables) x)
    (hf : ∀ a, Tx.Ensures R (f a)) : Tx.Ensures R (x >>= f) :=
  .bind (.of_keeps hx fun _ _ hw => hw.writesOnly) hf fun _ _ _ hw hR => h.before hw hR

/-- Such calls may follow. -/
theorem bind_after (h : Unseen tables R) (hx : Tx.Ensures R x)
    (hf : ∀ a, Tx.Keeps (Written tables) (f a)) : Tx.Ensures R (x >>= f) :=
  .bind hx (fun a => .of_keeps (hf a) fun _ _ hw => hw.writesOnly) fun _ _ _ hR hw => h.after hR hw

/-- A mutation ensures what its closure ensures. -/
theorem mutationBody (h : Unseen tables R) {codec : Codec α} {mutation : Mutation}
    {requestFingerprint : Option String} (hx : Tx.Ensures R x)
    [Listed .operations tables] [Listed .launches tables] [Listed .outcomes tables] :
    Tx.Ensures R (mutationBody codec mutation requestFingerprint x) := by
  refine h.bind (.read _) fun found => ?_
  cases found with
  | some existing => exact h.ensures writes_replayOperation
  | none =>
      refine h.bind (writes_insertOperation _ (.inr Listed.mem)) fun _ => ?_
      refine h.bind (.write fun db => written_settleOperation db _ fun _ => ⟨⟨rfl, rfl, rfl, rfl⟩, rfl⟩) fun _ => ?_
      exact h.bind_after hx fun _ => .bind (.ofExcept _) fun _ =>
        .bind (.write fun db => written_settleOperation db _ fun _ => ⟨⟨rfl, rfl, rfl, rfl⟩, rfl⟩) fun _ => .pure _

end Unseen

/-! ## Runs, projects, agents and sessions -/

theorem writes_insertRun (run : RunRecord) [Listed .runs tables] :
    Tx.Keeps (Written tables) (insertRun run) := by
  refine .bind (writes_constraint _ _) fun _ => .write fun db => ?_
  exact .of_write (.runs _ Listed.mem)

theorem writes_stopRun (id : RunId) (stoppedAt : Int) [Listed .runs tables] :
    Tx.Keeps (Written tables) (stopRun id stoppedAt) := by
  refine .bind (.require _ _) fun _ => .write fun db => ?_
  exact .of_write (.runs _ Listed.mem)

theorem writes_insertProject (project : ProjectRecord)
    [Listed .projects tables] :
    Tx.Keeps (Written tables) (insertProject project) := by
  refine .bind (writes_constraint _ _) fun _ => .bind (writes_constraint _ _) fun _ =>
    .bind (writes_constraint _ _) fun _ => .bind (writes_constraint _ _) fun _ =>
      .bind (writes_constraint _ _) fun _ => .write fun db => ?_
  exact .of_write (.projects _ Listed.mem)

theorem AgentsKept.append (rows new : List AgentRecord) : AgentsKept rows (rows ++ new) := by
  unfold AgentsKept
  rw [List.map_append]
  exact List.prefix_append _ _

theorem AgentsKept.updateWhere (p : AgentRecord → Bool) {f : AgentRecord → AgentRecord}
    (hf : ∀ row, (f row).identity = row.identity) (rows : List AgentRecord) :
    AgentsKept rows (Table.updateWhere p f rows) := by
  have hsame : (Table.updateWhere p f rows).map (·.identity) = rows.map (·.identity) :=
    Table.map_updateWhere (fun row _ => hf row) rows
  exact ⟨[], (List.append_nil _).trans hsame.symm⟩

theorem writes_insertAgent (agent : AgentRecord) [Listed .agents tables]
    [Listed .agentScopes tables] :
    Tx.Keeps (Written tables) (insertAgent agent) := by
  refine .bind (writes_constraint _ _) fun _ => .bind (writes_constraint _ _) fun _ =>
    .bind (writes_constraint _ _) fun _ => .write fun db => ?_
  exact .of_write (.agents _ Listed.mem (.inr ⟨Listed.mem, .append _ _⟩))

theorem writes_startAgentGeneration (runId : RunId) (agentId : AgentId) (current next : Int)
    [Listed .agents tables] [Listed .agentScopes tables] :
    Tx.Keeps (Written tables) (startAgentGeneration runId agentId current next) := by
  refine .bind (.read _) fun found => ?_
  cases found with
  | none => exact .pure _
  | some agent =>
      refine .ite (.pure _) (.bind (.write fun db => ?_) fun _ => .pure _)
      refine .of_write (.agents _ Listed.mem (.inr ⟨Listed.mem, ?_⟩))
      apply AgentsKept.updateWhere
      intro _
      rfl

theorem writes_insertSession (session : SessionRecord)
    [Listed .sessions tables] [Listed .sessionScopes tables] :
    Tx.Keeps (Written tables) (insertSession session) := by
  refine .bind (writes_constraint _ _) fun _ => .bind (writes_constraint _ _) fun _ =>
    .bind (writes_constraint _ _) fun _ => .bind (writes_constraint _ _) fun _ =>
      .write fun db => ?_
  exact .of_write (.sessions _ Listed.mem (.inr Listed.mem))

theorem written_updateSession (db : Db) (scope : SessionScope)
    {f : SessionRecord → SessionRecord} [Listed .sessions tables]
    (hf : ∀ row, (f row).scope = row.scope) :
    Written tables db (db.updateSession scope f) :=
  .of_write (.sessions _ Listed.mem (.inl (Table.map_updateWhere (fun row _ => hf row) _)))

theorem writes_recordSessionLaunchObservation (scope : SessionScope) (providerSessionId : String)
    (observedAt : Int) [Listed .sessions tables] :
    Tx.Keeps (Written tables)
      (recordSessionLaunchObservation scope providerSessionId observedAt) := by
  refine .bind (.read _) fun found => ?_
  cases found with
  | none => exact .pure _
  | some session =>
      exact .bind (.read _) fun _ => .ite (.pure _) (.ite (.pure _)
        (.bind (.write fun db => written_updateSession db _ fun _ => rfl) fun _ => .pure _))

theorem writes_recordSessionReconciliationState (scope : SessionScope)
    (state : ExternalResourceState) (reconciledAt : Int)
    [Listed .sessions tables] :
    Tx.Keeps (Written tables) (recordSessionReconciliationState scope state reconciledAt) := by
  refine .bind (.read _) fun found => ?_
  cases found with
  | none => exact .pure _
  | some session =>
      exact .bind (.read _) fun _ => .ite (.pure _) (.ite (.pure _)
        (.bind (.write fun db => written_updateSession db _ fun _ => rfl) fun _ => .pure _))

/-- An update of the agents that replaces none of them. -/
theorem written_updateAgents (db : Db) (p : AgentRecord → Bool) {f : AgentRecord → AgentRecord}
    [Listed .agents tables] (hf : ∀ row, (f row).scope = row.scope) :
    Written tables db { db with agents := Table.updateWhere p f db.agents } :=
  .of_write (.agents _ Listed.mem (.inl (Table.map_updateWhere (fun row _ => hf row) db.agents)))

theorem written_applySessionLifecycle (db : Db) (scope : SessionScope) (observed : LifecycleState)
    (observedAt : Int)
    [Listed .sessions tables] [Listed .agents tables] [Listed .sessionCredentials tables] :
    Written tables db (db.applySessionLifecycle scope observed observedAt) := by
  have hagents : ∀ (db : Db) (p : AgentRecord → Bool), Written tables db
      { db with
        agents := Table.updateWhere p (fun agent => { agent with state := observed })
          db.agents } :=
    fun db p => written_updateAgents db p fun _ => rfl
  have hrows : Written tables db (db.updateSession scope fun row =>
      { row with
        state := observed
        endedAt := if observed.isTerminal then some observedAt else none }) :=
    written_updateSession db scope fun _ => rfl
  have hobserved := hrows.trans (hagents _ fun agent => agent.id == scope.agentId &&
    agent.runId == scope.runId && agent.generation == scope.generation)
  have hcredentials : ∀ (db : Db) rows, Written tables db { db with sessionCredentials := rows } :=
    fun _ rows => .of_write (.sessionCredentials rows Listed.mem)
  unfold Db.applySessionLifecycle
  extract_lets opened observed
  split
  · exact hobserved.trans (hcredentials _ _)
  · exact hobserved

theorem writes_recordSessionLifecycle (scope : SessionScope) (observed : LifecycleState)
    (observedAt : Int)
    [Listed .sessions tables] [Listed .agents tables] [Listed .sessionCredentials tables] :
    Tx.Keeps (Written tables) (recordSessionLifecycle scope observed observedAt) := by
  refine .bind (.read _) fun found => ?_
  cases found with
  | none => exact .pure _
  | some session =>
      refine .bind (.read _) fun _ => .ite (.pure _) (.bind (.read _) fun foundAgent => ?_)
      cases foundAgent with
      | none => exact .pure _
      | some agent =>
          refine .ite (.pure _) (.ite (.throw _) (.ite (.pure _) (.ite (.throw _)
            (.bind (writes_constraint _ _) fun _ => .bind (.write fun db => ?_) fun _ => .pure _))))
          exact written_applySessionLifecycle db _ _ _

theorem writes_activateSessionCredential (credential : SessionCredentialRecord)
    [Listed .sessionCredentials tables] :
    Tx.Keeps (Written tables) (activateSessionCredential credential) := by
  refine .bind (.require _ _) fun _ => .bind (.require _ _) fun _ =>
    .bind (writes_constraint _ _) fun _ => .bind (.write fun db => ?_) fun _ =>
      .bind (writes_constraint _ _) fun _ => .write fun db => ?_
  · exact .of_write (.sessionCredentials _ Listed.mem)
  · exact .of_write (.sessionCredentials _ Listed.mem)

theorem writes_replaceDesiredSessionCredential (credential : SessionCredentialRecord)
    [Listed .sessionCredentials tables] :
    Tx.Keeps (Written tables) (replaceDesiredSessionCredential credential) := by
  refine .bind (.require _ _) fun _ => .bind (.require _ _) fun _ =>
    .write fun db => ?_
  exact .of_write (.sessionCredentials _ Listed.mem)

/-! ## Tasks, claims and assignments -/

theorem writes_insertTask (task : TaskRecord) [Listed .tasks tables] :
    Tx.Keeps (Written tables) (insertTask task) := by
  refine .bind (writes_constraint _ _) fun _ => .bind (writes_constraint _ _) fun _ =>
    .write fun db => ?_
  exact .of_write (.tasks _ Listed.mem)

theorem writes_insertDependency (dependency : DependencyRecord)
    [Listed .taskDependencies tables] :
    Tx.Keeps (Written tables) (insertDependency dependency) := by
  refine .bind (writes_constraint _ _) fun _ => .bind (writes_constraint _ _) fun _ =>
    .bind (writes_constraint _ _) fun _ => .bind (writes_constraint _ _) fun _ =>
      .write fun db => ?_
  exact .of_write (.taskDependencies _ Listed.mem)

/-- A new assignment of a recorded agent, which is not draining. -/
theorem writes_insertAssignment (assignment : AssignmentRecord)
    (hactive : assignment.state ≠ .draining)
    [Listed .assignments tables] [Listed .assignmentScopes tables] :
    Tx.Keeps (Written tables) (insertAssignment assignment) := by
  refine .require_bind fun db hagent => Tx.Keeps.require_bind_at fun _ =>
    Tx.Keeps.require_bind_at fun _ => Tx.Keeps.require_bind_at fun _ =>
      Tx.Keeps.require_bind_at fun _ => Tx.Keeps.require_bind_at fun _ =>
        Tx.Keeps.require_bind_at fun _ => Tx.Keeps.require_bind_at fun _ =>
          .of_write (.assignments _ Listed.mem (.inr ⟨Listed.mem, assignment, rfl, ?_⟩) (.inl ?_))
  · obtain ⟨agent, hfound, hmatch⟩ := (Option.any_eq_true _ _).mp hagent
    simp only [Bool.and_eq_true, beq_iff_eq] at hmatch
    exact ⟨agent, List.mem_of_find?_eq_some hfound, by simpa using List.find?_some hfound,
      hmatch.1⟩
  · intro row hrow hdraining
    rcases List.mem_append.mp hrow with hold | hnew
    · exact ⟨row, hold, rfl, hdraining⟩
    · rw [List.mem_singleton.mp hnew] at hdraining
      exact absurd hdraining hactive

/-- An update of the assignments that drains none of them. -/
theorem written_updateAssignments (db : Db) (p : AssignmentRecord → Bool)
    {f : AssignmentRecord → AssignmentRecord} [Listed .assignments tables]
    (hf : ∀ row, (f row).identity = row.identity)
    (hdrains : ∀ row, (f row).state = .draining → row.state = .draining) :
    Written tables db { db with assignments := Table.updateWhere p f db.assignments } := by
  have hid : ∀ row, (f row).id = row.id := by
    intro row
    exact congrArg (fun identity => identity.1.assignmentId) (hf row)
  exact .of_write (.assignments _ Listed.mem
    (.inl (Table.map_updateWhere (fun row _ => hf row) db.assignments))
    (.inl (.updateWhere p hid hdrains _)))

theorem writes_insertClaim (claim : ClaimRecord) [Listed .claims tables] :
    Tx.Keeps (Written tables) (insertClaim claim) := by
  refine .bind (writes_constraint _ _) fun _ => .bind (writes_constraint _ _) fun _ =>
    .bind (writes_constraint _ _) fun _ => .bind (writes_constraint _ _) fun _ =>
      .bind (writes_constraint _ _) fun _ => .bind (writes_constraint _ _) fun _ =>
        .write fun db => ?_
  exact .of_write (.claims _ Listed.mem)

theorem writes_compareAndSetClaim (claim : ClaimTaskMutation)
    [Listed .tasks tables] [Listed .claims tables]
    [Listed .assignments tables] [Listed .assignmentScopes tables] :
    Tx.Keeps (Written tables) (compareAndSetClaim claim) := by
  refine .bind (.read _) fun found => ?_
  cases found with
  | none => exact .pure _
  | some agent =>
      refine .bind (.read _) fun _ => .ite (.read _) (.bind (.write fun db => ?_)
        fun _ => .bind (.read _) fun _ => .bind (writes_insertClaim _) fun _ =>
          .bind (writes_insertAssignment _ nofun) fun _ => .pure _)
      exact .of_write (.tasks _ Listed.mem)

theorem writes_linkContinuation (claim : ClaimTaskMutation)
    [Listed .events tables] [Listed .continuations tables] :
    Tx.Keeps (Written tables) (linkContinuation claim) := by
  refine .bind (.bind (.read _) fun _ => .bind (.okOr _ _) fun _ => .read _) fun found => ?_
  cases found with
  | none => exact .pure _
  | some source => exact writes_appendEventOf _ rfl

theorem writes_appendTaskClaimEvents (claim : ClaimTaskMutation) (result : ClaimTaskResult)
    [Listed .events tables] [Listed .continuations tables] :
    Tx.Keeps (Written tables) (appendTaskClaimEvents claim result) := by
  cases result with
  | rejected rejection => exact .pure _
  | claimed claimId assignmentId =>
      exact .bind (.read _) fun _ => .bind (.okOr _ _) fun _ =>
        .bind (writes_appendEvent _ rfl) fun _ =>
          .bind (writes_appendEvent _ rfl) fun _ => .bind (.read _) fun _ =>
            .bind (writes_appendEvent _ rfl) fun _ => writes_linkContinuation _

/-- What a transition releases is not left draining. -/
theorem written_releaseOwnership (db : Db) (runId : RunId) (taskId : TaskId)
    {state : AssignmentState} (hdone : state ≠ .draining) (summary : Option String)
    (releasedAt : Int) [Listed .claims tables] [Listed .assignments tables] :
    Written tables db (db.releaseOwnership runId taskId state summary releasedAt) := by
  have hassignments : Written tables db
      { db with
        assignments := Table.updateWhere
          (fun row => row.taskId == taskId && row.runId == runId && row.completedAt == none)
          (fun row =>
            { row with
              state := state, summary := summary.or row.summary, completedAt := some releasedAt })
          db.assignments } :=
    written_updateAssignments db _ (fun _ => rfl) fun _ hdraining => absurd hdraining hdone
  exact hassignments.trans (.of_write (.claims _ Listed.mem))

theorem writes_releaseTaskOwnership (mutation : TaskTransitionMutation)
    [Listed .claims tables]
    [Listed .assignments tables] :
    Tx.Keeps (Written tables) (releaseTaskOwnership mutation) := by
  unfold releaseTaskOwnership
  split
  · exact .throw _
  · next state hstate =>
      have hdone : state ≠ .draining := by
        cases htransition : mutation.transition <;>
          simp only [htransition, TaskTransition.assignmentState, reduceCtorEq, Option.some.injEq]
            at hstate <;> subst hstate <;> nofun
      exact .bind (.read _) fun _ => .bind (.read _) fun _ =>
        .bind (.write fun db => written_releaseOwnership db _ _ hdone _ _) fun _ =>
          .when (.throw _)

theorem written_updateTask (db : Db) (runId : RunId) (taskId : TaskId)
    (f : TaskRecord → TaskRecord) [Listed .tasks tables] :
    Written tables db (db.updateTask runId taskId f) := by
  exact .of_write (.tasks _ Listed.mem)

theorem writes_applyTaskTransition (mutation : TaskTransitionMutation)
    [Listed .tasks tables] [Listed .claims tables]
    [Listed .assignments tables] :
    Tx.Keeps (Written tables) (applyTaskTransition mutation) := by
  refine .bind (.read _) fun found => ?_
  split
  · exact .pure _
  · split
    · exact .pure _
    · exact .bind (.read _) fun _ => .ite (.pure _)
        (.bind (.when (writes_releaseTaskOwnership _)) fun _ =>
          .bind (.write fun db => written_updateTask db _ _ _) fun _ => .pure _)

theorem writes_appendReleaseEvents (mutation : TaskTransitionMutation) (task : TaskRecord)
    (activeAssignment : Option AssignmentRecord) (activeClaim : Option ClaimRecord)
    [Listed .events tables] :
    Tx.Keeps (Written tables)
      (appendReleaseEvents mutation task activeAssignment activeClaim) := by
  refine .bind (.okOr _ _) fun _ => .bind (.okOr _ _) fun _ => .okOr_bind fun state hstate =>
    .bind (writes_appendEvent _ ?_) fun _ => writes_appendEvent _ rfl
  -- A transition never leaves an assignment draining.
  cases htransition : mutation.transition <;>
    simp only [htransition, TaskTransition.assignmentState, reduceCtorEq, Option.some.injEq]
      at hstate <;> subst hstate <;> rfl

theorem writes_transitionTaskBody (mutation : TaskTransitionMutation)
    [Listed .tasks tables] [Listed .claims tables]
    [Listed .assignments tables]
    [Listed .events tables] :
    Tx.Keeps (Written tables) (transitionTaskBody mutation) := by
  refine .bind (.read _) fun _ => .bind (.read _) fun _ =>
    .bind (writes_applyTaskTransition _) fun result => ?_
  cases result with
  | rejected rejection => exact .pure _
  | transitioned previousStatus status =>
      exact .bind (.read _) fun _ => .bind (.okOr _ _) fun _ =>
        .bind (writes_appendEvent _ rfl) fun _ =>
          .bind (.when (writes_appendReleaseEvents _ _ _ _)) fun _ => .pure _

/-! ## Workspaces -/

theorem writes_insertWorkspace (workspace : WorkspaceRecord)
    [Listed .workspaces tables] :
    Tx.Keeps (Written tables) (insertWorkspace workspace) := by
  refine .read_bind fun db => ?_
  cases hfound : db.workspaces.find?
      (db.pathReservedBy workspace.runId workspace.path workspace.kind) with
  | some row => exact Std.Refl.refl db
  | none =>
      refine Tx.Keeps.require_bind_at fun hunbound => Tx.Keeps.require_bind_at fun _ =>
        Tx.Keeps.require_bind_at fun hassigned => Tx.Keeps.require_bind_at fun _ =>
          Tx.Keeps.require_bind_at fun _ => .of_write (.workspace workspace Listed.mem ?_)
      refine ⟨fun row hrow => ?_, fun row hrow heq => ?_, ?_⟩
      · exact Bool.eq_false_iff.mpr (List.find?_eq_none.mp hfound row hrow)
      · have hany : (db.workspaces.any (·.assignmentId == workspace.assignmentId)) = true :=
          List.any_eq_true.mpr ⟨row, hrow, by simpa using heq⟩
        simp [hany] at hunbound
      · obtain ⟨assignment, hmem, hids⟩ := List.any_eq_true.mp hassigned
        simp only [Bool.and_eq_true, beq_iff_eq] at hids
        exact ⟨assignment, hmem, hids.1.1.1, hids.1.1.2, hids.1.2⟩

theorem written_updateWorkspace (db : Db) (id : AssignmentId)
    {f : WorkspaceRecord → WorkspaceRecord} [Listed .workspaces tables]
    (hf : ∀ row : WorkspaceRecord, row.SameBinding (f row)) :
    Written tables db (db.updateWorkspace id f) :=
  .of_write (.updateWorkspace id f Listed.mem hf)

theorem writes_recordWorkspaceReconciliationState (scope : AssignmentScope)
    (state : ExternalResourceState) (reconciledAt : Int)
    [Listed .workspaces tables] :
    Tx.Keeps (Written tables) (recordWorkspaceReconciliationState scope state reconciledAt) := by
  refine .bind (.read _) fun found => ?_
  cases found with
  | none => exact .pure _
  | some workspace =>
      exact .ite (.pure _)
        (.bind (.write fun db => written_updateWorkspace db _ fun _ => ⟨rfl, rfl, rfl, rfl, rfl, rfl, rfl⟩) fun _ => .pure _)

theorem writes_recordWorkspaceResultCommit (scope : AssignmentScope) (resultCommit : String)
    [Listed .workspaces tables] :
    Tx.Keeps (Written tables) (recordWorkspaceResultCommit scope resultCommit) := by
  refine .bind (.read _) fun found => ?_
  cases found with
  | none => exact .pure _
  | some workspace =>
      dsimp only
      split
      · exact .ite (.pure _) (.throw _)
      · exact .bind (.write fun db => written_updateWorkspace db _ fun _ => ⟨rfl, rfl, rfl, rfl, rfl, rfl, rfl⟩)
          fun _ => .pure _

theorem writes_recordWorkspaceTargetCommit (scope : AssignmentScope) (targetCommit : String)
    [Listed .workspaces tables] :
    Tx.Keeps (Written tables) (recordWorkspaceTargetCommit scope targetCommit) := by
  refine .bind (.read _) fun found => ?_
  cases found with
  | none => exact .pure _
  | some workspace =>
      dsimp only
      split
      · exact .ite (.pure _) (.throw _)
      · exact .bind (.write fun db => written_updateWorkspace db _ fun _ => ⟨rfl, rfl, rfl, rfl, rfl, rfl, rfl⟩)
          fun _ => .pure _

theorem writes_associateAssignmentSession (assignmentId : AssignmentId) (sessionId : SessionId)
    [Listed .assignments tables] :
    Tx.Keeps (Written tables) (associateAssignmentSession assignmentId sessionId) := by
  refine .bind (.require _ _) fun _ => .bind (.require _ _) fun _ =>
    .write fun db => ?_
  exact written_updateAssignments db _ (fun _ => rfl) fun _ h => h

/-! ## Supervision -/

theorem writes_supervisionEvent {runId : RunId} {kind : EventKind} {subject : String}
    {agentId : Option AgentId} {operationId : Option OperationId} {data : JsonValue}
    {nowMs : Int} (hplain : kind.part (data.get? "state") = none) [Listed .events tables] :
    Tx.Keeps (Written tables)
      (supervisionEvent runId kind subject agentId operationId data nowMs) :=
  writes_appendEvent _ hplain

theorem writes_admitSessionLaunch (scope : SessionScope) (now : Int) (policy : SupervisionPolicy)
    [Listed .sessionLaunchAttempts tables] :
    Tx.Keeps (Written tables) (admitSessionLaunch scope now policy) := by
  refine .bind (.read _) fun _ => .bind (.read _) fun _ =>
    .ite (.pure _) (.bind (.read _) fun previous => ?_)
  split
  · exact .pure _
  · refine .bind (.write fun db => ?_) fun _ => .pure _
    unfold Db.putLaunchAttempts
    split <;> exact .of_write (.sessionLaunchAttempts _ Listed.mem)

theorem writes_failSessionLaunch (scope : SessionScope) (now : Int) (policy : SupervisionPolicy)
    [Listed .sessionLaunchAttempts tables]
    [Listed .events tables] :
    Tx.Keeps (Written tables) (failSessionLaunch scope now policy) := by
  refine .bind (.read _) fun _ => .ite (.pure _) (.bind (.write fun db => ?_) fun _ =>
    .bind (.read _) fun _ => .bind (.okOr _ _) fun _ =>
      .bind (.when (writes_supervisionEvent rfl)) fun _ => .pure _)
  exact .of_write (.sessionLaunchAttempts _ Listed.mem)

theorem writes_recordSessionFailure (scope : SessionScope) (now : Int)
    (policy : SupervisionPolicy) [Listed .sessionFailures tables]
    [Listed .events tables] :
    Tx.Keeps (Written tables) (recordSessionFailure scope now policy) := by
  refine .bind (.read _) fun _ => .ite (.pure _) (.bind (.read _) fun _ => .ite (.read _)
    (.bind (.write fun db => ?_) fun _ => .bind (.read _) fun _ => .ite
      (.bind (.write fun db => ?_) fun _ =>
        .bind (writes_supervisionEvent rfl) fun _ => .pure _) (.pure _)))
  · exact .of_write (.sessionFailures _ Listed.mem)
  · exact .of_write (.sessionFailures _ Listed.mem)

theorem writes_quarantineUnstartedAgent (runId : RunId) (agentId : AgentId)
    (operationId : OperationId) (now : Int) [Listed .agents tables]
    [Listed .events tables] :
    Tx.Keeps (Written tables) (quarantineUnstartedAgent runId agentId operationId now) := by
  refine .bind (.read _) fun found => ?_
  cases found with
  | none => exact .pure _
  | some agent =>
      refine .bind (.read _) fun _ => .ite (.pure _) (.bind (.write fun db => ?_)
        fun _ => writes_supervisionEvent rfl)
      exact written_updateAgents db _ fun _ => rfl

theorem writes_warnJobDeadline (scope : SessionScope) (deadlineAt nowMs : Int)
    [Listed .events tables] :
    Tx.Keeps (Written tables) (warnJobDeadline scope deadlineAt nowMs) :=
  .bind (.read _) fun _ => .bind (.read _) fun _ =>
    .ite (.pure _) (writes_supervisionEvent rfl)

theorem writes_drainAssignment (assignment : AssignmentRecord) (nowMs : Int)
    [Listed .assignments tables]
    [Listed .events tables] [Listed .drains tables] :
    Tx.Keeps (Written tables) (drainAssignment assignment nowMs) := by
  refine .ite (.pure _) (.bind (.write fun db => ?_) fun _ =>
    writes_appendEventOf _ rfl)
  refine .of_write (.assignments _ Listed.mem (.inl ?_) (.inr Listed.mem))
  apply Table.map_updateWhere
  intro _ _
  rfl

theorem writes_drainAgent (runId : RunId) (agentId : AgentId) (nowMs : Int)
    [Listed .assignments tables]
    [Listed .events tables] [Listed .drains tables] :
    Tx.Keeps (Written tables) (drainAgent runId agentId nowMs) := by
  refine .bind (.read _) fun found => ?_
  cases found with
  | none => exact .pure _
  | some assignment => exact writes_drainAssignment _ _

theorem writes_requestSessionControl (scope : SessionScope) (reason : ControlReason)
    (nowMs graceMs timeoutMs : Int) [Listed .sessionControls tables]
    [Listed .assignments tables]
    [Listed .events tables] [Listed .drains tables] :
    Tx.Keeps (Written tables)
      (requestSessionControl scope reason nowMs graceMs timeoutMs) := by
  refine .bind (.read _) fun _ => .ite (.pure _) (.bind (.read _) fun _ => .ite (.pure _)
    (.bind (.write fun db => ?_) fun _ =>
      .bind (writes_drainAgent _ _ _) fun _ =>
        writes_supervisionEvent rfl))
  exact .of_write (.sessionControls _ Listed.mem)

theorem writes_setControlPhase (control : SessionControl) (phase : ControlPhase) (nowMs : Int)
    [Listed .sessionControls tables]
    [Listed .events tables] :
    Tx.Keeps (Written tables) (setControlPhase control phase nowMs) := by
  refine .bind (.read _) fun _ => .ite (.pure _) (.bind (.write fun db => ?_) fun _ =>
    writes_supervisionEvent rfl)
  exact .of_write (.sessionControls _ Listed.mem)

theorem writes_markControlDelivered (control : SessionControl)
    [Listed .sessionControls tables] :
    Tx.Keeps (Written tables) (markControlDelivered control) := by
  refine .bind (.read _) fun _ => .ite (.write fun db => ?_) (.pure _)
  exact .of_write (.sessionControls _ Listed.mem)

theorem writes_insertRunShutdown (shutdown : RunShutdown)
    [Listed .runShutdowns tables] :
    Tx.Keeps (Written tables) (insertRunShutdown shutdown) := by
  refine .bind (writes_constraint _ _) fun _ => .bind (writes_constraint _ _) fun _ =>
    .bind (writes_constraint _ _) fun _ => .bind (writes_constraint _ _) fun _ =>
      .write fun db => ?_
  exact .of_write (.runShutdowns _ Listed.mem)

/-- A stop launches nothing. -/
theorem runStop_launchesNone : launchKinds.contains "run.stop" = false := by
  decide

theorem writes_openRunShutdown (runId : RunId) (operationId : OperationId)
    (nowMs graceMs timeoutMs : Int) [Listed .operations tables]
    [Listed .runShutdowns tables]
    [Listed .assignments tables]
    [Listed .events tables] [Listed .drains tables] :
    Tx.Keeps (Written tables) (openRunShutdown runId operationId nowMs graceMs timeoutMs) := by
  have hdrain : ∀ agent : AgentRecord,
      Tx.Keeps (Written tables) (drainAgent runId agent.id nowMs) :=
    fun agent => writes_drainAgent _ _ _
  refine .bind (writes_insertOperation _ (.inl runStop_launchesNone)) fun _ =>
    .bind (writes_insertRunShutdown _) fun _ =>
      .bind (writes_supervisionEvent rfl) fun _ => .bind (.read _) fun agents => ?_
  exact .each hdrain agents

theorem writes_beginRunShutdown (runId : RunId) (operationId : OperationId)
    (nowMs graceMs timeoutMs : Int) [Listed .operations tables]
    [Listed .runShutdowns tables]
    [Listed .assignments tables]
    [Listed .events tables] [Listed .drains tables] :
    Tx.Keeps (Written tables) (beginRunShutdown runId operationId nowMs graceMs timeoutMs) := by
  refine .bind (.read _) fun found => ?_
  cases found with
  | some shutdown => exact .ite (.pure _) (.throw _)
  | none =>
      exact .bind (.require _ _) fun _ => .bind (.require _ _) fun _ =>
        writes_openRunShutdown _ _ _ _ _

theorem writes_setShutdownPhase (runId : RunId) (phase : ShutdownPhase) (nowMs : Int)
    [Listed .runShutdowns tables]
    [Listed .events tables] :
    Tx.Keeps (Written tables) (setShutdownPhase runId phase nowMs) := by
  refine .bind (.read _) fun found => ?_
  cases found with
  | none => exact .pure _
  | some shutdown =>
      refine .ite (.pure _) (.bind (.write fun db => ?_) fun _ =>
        writes_supervisionEvent rfl)
      exact .of_write (.runShutdowns _ Listed.mem)

theorem writes_completeShutdownOperation (runId : RunId) (response : JsonValue) (nowMs : Int)
    [Listed .operations tables] [Listed .outcomes tables] [Listed .runShutdowns tables]
    [Listed .events tables] :
    Tx.Keeps (Written tables) (completeShutdownOperation runId response nowMs) := by
  refine .bind (.read _) fun found => ?_
  cases found with
  | none => exact .throw _
  | some shutdown =>
      exact .bind (writes_setShutdownPhase _ _ _) fun _ =>
        .bind (.write fun db => written_settleOperation db _ fun _ => ⟨⟨rfl, rfl, rfl, rfl⟩, rfl⟩) fun _ =>
          .bind (writes_recordOperationReconciliation _ _ _ _) fun _ => .pure _

theorem writes_reactivateRun (mutation : Mutation) [Listed .runs tables]
    [Listed .sessionControls tables]
    [Listed .runShutdowns tables]
    [Listed .events tables] [Listed .reactivations tables] :
    Tx.Keeps (Written tables) (reactivateRun mutation) := by
  have hphase : ∀ control : SessionControl, Tx.Keeps (Written tables)
      (Tx.when (control.phase ≠ .completed)
        (setControlPhase control .completed (saturate (mutation.createdAt * 1000)))) :=
    fun control => .when (writes_setControlPhase _ _ _)
  refine .bind (.read _) fun _ => .bind (.ofExcept _) fun _ => .bind (.read _) fun _ =>
    .bind (.okOr _ _) fun _ => .bind (.read _) fun _ => .bind (.okOr _ _) fun _ =>
      .bind (.okOr _ _) fun _ => .bind (.write fun db => ?_) fun _ =>
        .bind (.read _) fun controls => .bind (.each hphase controls) fun _ =>
          .bind (writes_appendEventOf _ rfl) fun _ =>
            .bind (.write fun db => ?_) fun _ => .pure _
  · exact .of_write (.runs _ Listed.mem)
  · exact .of_write (.runShutdowns _ Listed.mem)

/-! ## Messages -/

theorem writes_insertMessage (message : MessageRecord) [Listed .messages tables] :
    Tx.Keeps (Written tables) (insertMessage message) := by
  refine .bind (writes_constraint _ _) fun _ => .bind (writes_constraint _ _) fun _ =>
    .bind (writes_constraint _ _) fun _ => .bind (writes_constraint _ _) fun _ =>
      .bind (writes_constraint _ _) fun _ => .bind (writes_constraint _ _) fun _ =>
        .write fun db => ?_
  exact .of_write (.messages _ Listed.mem)

theorem writes_acknowledgeMessages (acknowledgement : AcknowledgeMessagesMutation)
    [Listed .messages tables] [Listed .events tables] :
    Tx.Keeps (Written tables) (acknowledgeMessages acknowledgement) := by
  have happly : Tx.Keeps (Written tables) (applyMessageAcknowledgement acknowledgement) := by
    refine .bind (.read _) fun _ => .ite (.pure _) ?_
    refine .bind (.read _) fun _ => .bind (.read _) fun _ => .bind (writes_constraint _ _) fun _ =>
      .bind (.write fun db => ?_) fun _ => .pure _
    exact .of_write (.messages _ Listed.mem)
  refine .bind happly fun result => .bind ?_ fun _ => .pure _
  cases result with
  | acknowledged => exact .when (writes_appendEvent _ rfl)
  | cursorNotFound => exact .pure _

/-! ## Recovery, retained submission, resubmission -/

theorem writes_insertRecoveryHandoff (handoff : RecoveryHandoff)
    [Listed .recoveryHandoffs tables] :
    Tx.Keeps (Written tables) (insertRecoveryHandoff handoff) := by
  refine .bind (writes_constraint _ _) fun _ => .bind (writes_constraint _ _) fun _ =>
    .bind (writes_constraint _ _) fun _ => .write fun db => ?_
  exact .of_write (.recoveryHandoffs _ Listed.mem)

theorem writes_recoveryEvents {mutation : Mutation} {assignment : AssignmentRecord}
    {workspace : WorkspaceRecord} {recovery : RecoverySummary}
    [Listed .events tables] [Listed .recoveries tables] :
    Tx.Keeps (Written tables)
      (Tx.each appendEvent (recoveryEvents mutation assignment workspace recovery)) :=
  .bind (writes_appendEventOf _ rfl) fun _ => .bind (writes_appendEvent _ rfl) fun _ =>
    .bind (writes_appendEvent _ rfl) fun _ => .bind (writes_appendEvent _ rfl) fun _ => .pure _

theorem writes_retainedEvents {mutation : Mutation} {assignment : AssignmentRecord}
    {workspace : WorkspaceRecord} {result : JsonValue} [Listed .events tables] :
    Tx.Keeps (Written tables)
      (Tx.each appendEvent (retainedEvents mutation assignment workspace result)) :=
  .bind (writes_appendEvent _ rfl) fun _ => .bind (writes_appendEvent _ rfl) fun _ =>
    .bind (writes_appendEvent _ rfl) fun _ => .pure _

theorem writes_recoverAssignment (mutation : Mutation) (assignmentId : AssignmentId)
    (reason : String) (document brief : JsonValue) (acknowledgeLost : Bool)
    [Listed .recoveryHandoffs tables] [Listed .tasks tables]
    [Listed .claims tables]
    [Listed .assignments tables]
    [Listed .events tables] [Listed .recoveries tables] :
    Tx.Keeps (Written tables)
      (recoverAssignment mutation assignmentId reason document brief acknowledgeLost) :=
  .bind (.read _) fun _ => .bind (.ofExcept _) fun _ => .bind (.okOr _ _) fun _ =>
    .bind (writes_insertRecoveryHandoff _) fun _ =>
      .bind (writes_applyTaskTransition _) fun _ =>
        .bind writes_recoveryEvents fun _ => .pure _

theorem writes_submitRetained (mutation : Mutation) (submission : RetainedSubmission)
    [Listed .workspaces tables] [Listed .tasks tables]
    [Listed .claims tables]
    [Listed .assignments tables]
    [Listed .events tables] :
    Tx.Keeps (Written tables) (submitRetained mutation submission) :=
  .bind (.read _) fun _ => .bind (.ofExcept _) fun _ =>
    .bind (writes_recordWorkspaceResultCommit _ _) fun _ =>
      .bind (writes_applyTaskTransition _) fun _ =>
        .bind writes_retainedEvents fun _ => .pure _

theorem writes_applyResubmission (mutation : Mutation) (submission : Resubmission)
    [Listed .workspaces tables] [Listed .tasks tables]
    [Listed .assignments tables]
    [Listed .events tables] :
    Tx.Keeps (Written tables) (applyResubmission mutation submission) := by
  refine .bind (.read _) fun _ => .bind (.ofExcept _) fun _ => .bind (.okOr _ _) fun _ =>
    .bind (writes_appendEvent _ rfl) fun _ =>
      .bind (.write fun db => written_updateWorkspace db _ fun _ => ⟨rfl, rfl, rfl, rfl, rfl, rfl, rfl⟩) fun _ =>
        .bind (.write fun db => ?_) fun _ =>
          .bind (.write fun db => ?_) fun _ => .pure _
  · exact written_updateAssignments db _ (fun _ => rfl) fun _ h => h
  · exact .of_write (.tasks _ Listed.mem)

end Coterie
