/-
  Coterie.Supervisor.Admission

  Admission of new agents (`supervisor/admission.rs`, `state/configuration.rs`: `recent_spawns`, and
  the checks of `spawn_agent` and `launch_foreground` in `supervisor.rs`).  The checks read the run
  database and write nothing; the limits are those of the configuration saved with the run.
-/

import Coterie.Config.Provenance
import Coterie.Protocol.Context
import Coterie.Supervisor.Authority
import Coterie.Tasks.Readiness

namespace Coterie

/-! ## Budgets -/

/-- When used capacity becomes free again. -/
inductive CapacityRelease where
  | agentTerminal
  | rollingMinute
  | never
deriving DecidableEq, Repr

/-- The origin of a limit as it is shown. -/
structure PolicySource where
  layer : ConfigLayer
  field : TextPreview
deriving DecidableEq, Repr

def policySource (config : EffectiveConfig) (field : String) : Option PolicySource :=
  (config.provenance[field]?).map fun source =>
    { layer := source.layer, field := TextPreview.new source.field }

/-- How much of a limit is used. -/
structure AdmissionBudget where
  used : Nat
  limit : Option Nat
  remaining : Option Nat
  exhausted : Bool
  releasedBy : CapacityRelease
  source : Option PolicySource
deriving DecidableEq, Repr

/-- The budget of a limit. -/
def admissionBudget (config : EffectiveConfig) (field : String) (used : Nat) (limit : Option Nat)
    (releasedBy : CapacityRelease) : AdmissionBudget where
  used := used
  limit := limit
  remaining := limit.map fun limit => limit - used
  exhausted := limit.any fun limit => decide (limit ≤ used)
  releasedBy := releasedBy
  source := policySource config field

/-- A budget that is not exhausted has room for one more. -/
theorem admissionBudget_room {config : EffectiveConfig} {field : String} {used limit : Nat}
    {releasedBy : CapacityRelease}
    (h : (admissionBudget config field used (some limit) releasedBy).exhausted = false) :
    used < limit := by
  simpa [admissionBudget] using h

namespace Db

/-- The agents of a run that are not terminal. -/
def activeAgents (db : Db) (runId : RunId) : Nat :=
  (db.agentsOf runId).countP fun agent => !agent.state.isTerminal

/-- The agents of a run with a role that are not terminal. -/
def activeInstances (db : Db) (runId : RunId) (role : String) : Nat :=
  (db.agentsOf runId).countP fun agent => agent.role == role && !agent.state.isTerminal

/-- The spawns of the last minute. -/
def recentSpawns (db : Db) (runId : RunId) (now : Int) : Nat :=
  db.operations.countP fun row => row.runId == runId && row.kind == "agent.spawn" &&
    decide (saturate (now - 60) < row.createdAt)

/-- The budget of a role's instances. -/
def roleBudget (db : Db) (config : EffectiveConfig) (runId : RunId) (role : String) :
    AdmissionBudget :=
  admissionBudget config s!"roles.{role}.max_instances" (db.activeInstances runId role)
    ((config.roles[role]?).bind (·.maxInstances)) .agentTerminal

end Db

/-- What a caller with spawn authority is told. -/
def admissionGuidance : String :=
  "Worker exit releases active concurrency and role slots, never lifetime admissions. Spawn rate slots expire after the rolling minute. Recovery itself admits no agent; each fresh continuation or review spawn consumes another lifetime and rate slot. Inspect prime.admission before recovery or review. If authority is missing, ask an authorized coordinator or the operator. An exhausted lifetime budget requires the operator to preserve work, stop the run, and start a new run with suitable trusted policy, carrying retained work through explicit review, integration, validation, and acceptance. Editing configuration cannot increase an active snapshot."

/-- The budgets of a run. -/
structure AdmissionView where
  observedAt : Int
  concurrentAgents : AdmissionBudget
  agentsPerRun : AdmissionBudget
  spawnsPerMinute : AdmissionBudget
  warning : Option String
  guidance : String
deriving DecidableEq, Repr

/-- The warning of a lifetime budget that is nearly used up. -/
def admissionWarning (agentsPerRun : AdmissionBudget) : Option String :=
  (agentsPerRun.remaining.filter fun remaining => remaining ≤ 2).map fun remaining =>
    s!"Only {remaining} lifetime admission(s) remain. Reserve budget for fresh recovery continuations and reviews; worker exit does not restore it. {admissionGuidance}"

/-- The budgets at a clock reading. -/
def Db.admissionCounters (db : Db) (config : EffectiveConfig) (runId : RunId) (now : Int) :
    AdmissionView :=
  let agentsPerRun := admissionBudget config "limits.max_agents_per_run"
    (db.agentsOf runId).length (some config.limits.maxAgentsPerRun) .never
  { observedAt := now
    concurrentAgents := admissionBudget config "limits.max_concurrent_agents"
      (db.activeAgents runId) (some config.limits.maxConcurrentAgents) .agentTerminal
    agentsPerRun := agentsPerRun
    spawnsPerMinute := admissionBudget config "limits.max_spawns_per_minute"
      (db.recentSpawns runId now) (some config.limits.maxSpawnsPerMinute) .rollingMinute
    warning := admissionWarning agentsPerRun
    guidance := admissionGuidance }

theorem policySource_isSome {config : EffectiveConfig} {field : String}
    (h : field ∈ config.provenance) : (policySource config field).isSome = true := by
  unfold policySource
  rw [Option.isSome_map, ← Std.TreeMap.mem_iff_isSome_getElem?]
  exact h

/-- Under a resolved configuration every budget tells where its limit comes from. -/
theorem Db.budgets_sourced {global : GlobalConfig} {project : ProjectConfig}
    {operator : OperatorOverrides} {config : EffectiveConfig}
    (h : resolve global project operator = .ok config) (db : Db) (runId : RunId) (now : Int) :
    (db.admissionCounters config runId now).concurrentAgents.source.isSome = true ∧
      (db.admissionCounters config runId now).agentsPerRun.source.isSome = true ∧
      (db.admissionCounters config runId now).spawnsPerMinute.source.isSome = true ∧
      ∀ role definition, config.archetype.role role = some definition →
        (db.roleBudget config runId role).source.isSome = true :=
  ⟨policySource_isSome (resolve_limit_recorded h (by simp)),
    policySource_isSome (resolve_limit_recorded h (by simp)),
    policySource_isSome (resolve_limit_recorded h (by simp)),
    fun _ _ hrole => policySource_isSome (resolve_role_recorded h hrole).2⟩

/-- What a refused caller may wait for. -/
def CapacityRelease.action : CapacityRelease → String
  | .agentTerminal =>
      "Wait for a recorded terminal agent state; unknown states still consume active slots."
  | .rollingMinute =>
      "Retry after explicit spawns leave the rolling 60-second window; worker exit does not release these slots."
  | .never => admissionGuidance

/-- The refusal of a request. -/
def conflict (message : String) : RequestError :=
  .rpc .conflict message

/-- The origin of a limit in a text; a configuration saved earlier may not tell it. -/
def AdmissionBudget.origin (budget : AdmissionBudget) : String :=
  match budget.source with
  | none => "unknown historical source"
  | some source => s!"{source.layer.asStr}:{source.field.text}"

/-- The refusal of an exhausted budget. -/
def exhausted (name : String) (budget : AdmissionBudget) : RequestError :=
  conflict (s!"admission limit `{name}` exhausted: used {budget.used}, ceiling " ++
    s!"{budget.limit.getD 0}, source {budget.origin}. {budget.releasedBy.action}")

/-- Refuse when a budget is exhausted. -/
def requireRoom (name : String) (budget : Db → AdmissionBudget) : Request Unit := do
  let observed ← Tx.read budget
  Tx.require (exhausted name observed) fun _ => !observed.exhausted

theorem requireRoom_ok {name : String} {budget : Db → AdmissionBudget} {u : Unit} {db db' : Db}
    (h : (requireRoom name budget).run db = (.ok u, db')) :
    (budget db).exhausted = false ∧ db' = db := by
  obtain ⟨_, _, h₁, h₂⟩ := Tx.bind_eq_ok.mp h
  obtain ⟨rfl, rfl⟩ := Tx.read_eq_ok.mp h₁
  obtain ⟨hroom, rfl⟩ := Tx.require_eq_ok.mp h₂
  exact ⟨by simpa using hroom, rfl⟩

/-! ## Background agents -/

/-- A request to spawn an agent, and what it reads outside the database: the identifiers that it
    allocates, the base commit of the project's worktree, and the clock at the checks and at the
    mutation. -/
structure SpawnCall where
  caller : AuthenticatedCaller
  operationId : OperationId
  role : String
  taskId : TaskId
  agentId : AgentId
  sessionId : SessionId
  assignmentId : AssignmentId
  runStateDirectory : String
  baseCommit : Except String (Option String)
  checkedAt : Int
  now : Int

/-- The workspace kind of a policy. -/
def WorkspacePolicy.kind : WorkspacePolicy → WorkspaceKind
  | .project => .project
  | .worktree => .worktree
  | .readOnly => .readOnly

/-- The role of a spawn: configured, enabled and a background job. -/
def spawnRole (config : EffectiveConfig) (role : String) :
    Except RequestError (RoleDefinition × EffectiveRole) :=
  match config.archetype.role role, config.roles[role]? with
  | none, _ => .error (.rpc .notFound s!"role `{role}` is not configured")
  | some _, none => .error (.state (.panicked "no entry found for key"))
  | some definition, some effective =>
      if effective.enabled = false then
        .error (conflict s!"role `{role}` is disabled by the run configuration")
      else if definition.mode ≠ .job then
        .error (conflict s!"role `{role}` is not a background job role")
      else .ok (definition, effective)

theorem spawnRole_ok {config : EffectiveConfig} {role : String} {definition : RoleDefinition}
    {effective : EffectiveRole} (h : spawnRole config role = .ok (definition, effective)) :
    config.archetype.role role = some definition ∧ config.roles[role]? = some effective ∧
      effective.enabled = true ∧ definition.mode = .job := by
  unfold spawnRole at h
  split at h
  · cases h
  · cases h
  · next definition' effective' hdefinition heffective =>
      split at h
      · cases h
      · next henabled =>
          split at h
          · cases h
          · next hmode =>
              cases h
              refine ⟨hdefinition, heffective, ?_, ?_⟩
              · simpa using henabled
              · simpa using hmode

/-- Recovered work is continued in a worktree only. -/
def requireFreshWorktree (runId : RunId) (taskId : TaskId) (kind : WorkspaceKind) :
    Request Unit :=
  if kind = .worktree then pure ()
  else do
    let pending ← committed (pendingRecovery runId taskId)
    Tx.require (conflict "recovered work requires a fresh worktree; use `coterie spawn` with a worktree role and inspect the preserved source with `coterie prime`")
      fun _ => pending.isNone

/-- The task of a spawn is ready, and its project is known. -/
def requireReadyTask (runId : RunId) (taskId : TaskId) : Request Unit := do
  let task ← Tx.okOr (.rpc .notFound s!"task `{taskId.text}` does not exist")
    ((← Tx.read (·.task taskId)).filter (·.runId == runId))
  Tx.require (.rpc .internal s!"the target project for task `{taskId.text}` is missing")
    fun db => (db.project task.projectId).isSome
  Tx.require (conflict s!"task `{taskId.text}` is not ready") fun db =>
    (db.taskReadiness taskId).any (·.isReady)

/-- Every budget that a spawn uses has room. -/
def requireSpawnCapacity (config : EffectiveConfig) (runId : RunId) (role : String)
    (checkedAt : Int) : Request Unit := do
  requireRoom "limits.max_spawns_per_minute" fun db =>
    (db.admissionCounters config runId checkedAt).spawnsPerMinute
  requireRoom s!"roles.{role}.max_instances" (·.roleBudget config runId role)
  requireRoom "limits.max_agents_per_run" fun db =>
    (db.admissionCounters config runId checkedAt).agentsPerRun
  requireRoom "limits.max_concurrent_agents" fun db =>
    (db.admissionCounters config runId checkedAt).concurrentAgents

/-- A request that starts an agent is refused while the run is stopping. -/
def requireAccepting (runId : RunId) : Request Unit :=
  Tx.require (conflict "the run is draining and no longer accepts launches") fun db =>
    (db.runShutdown runId).isNone

/-- The checks of a spawn that is not recorded yet, and the base commit of its workspace. -/
def admitNewSpawn (config : EffectiveConfig) (runId : RunId) (call : SpawnCall)
    (kind : WorkspaceKind) : Request (Option String) := do
  requireFreshWorktree runId call.taskId kind
  requireReadyTask runId call.taskId
  requireSpawnCapacity config runId call.role call.checkedAt
  Tx.ofExcept (call.baseCommit.mapError .workspace)

/-- The checks of a spawn request, and what its mutation will record.  A recorded operation is
    replayed without the checks of a new one. -/
def admitSpawn (config : EffectiveConfig) (runId : RunId) (call : SpawnCall) :
    Request SpawnRequest := do
  requireCurrentCaller runId call.caller
  requireAccepting runId
  requireCapability config runId call.caller { «namespace» := "spawn", action := call.role }
  let (definition, _) ← Tx.ofExcept (spawnRole config call.role)
  let kind := definition.workspace.kind
  let request (baseCommit : Option String) : SpawnRequest :=
    { role := call.role, taskId := call.taskId, agentId := call.agentId,
      sessionId := call.sessionId, assignmentId := call.assignmentId, workspaceKind := kind,
      runStateDirectory := call.runStateDirectory, baseCommit }
  match ← Tx.read (·.operation call.operationId) with
  | some _ => pure (request none)
  | none => do
      let baseCommit ← admitNewSpawn config runId call kind
      pure (request baseCommit)

/-! ## The foreground agent -/

/-- A request to launch the foreground agent, and what it reads outside the database. -/
structure ForegroundCall where
  caller : AuthenticatedCaller
  operationId : OperationId
  agentId : AgentId
  sessionId : SessionId
  tokenVerifier : List UInt8
  now : Int

/-- The designated foreground role is interactive. -/
def foregroundRole (config : EffectiveConfig) : Except RequestError RoleDefinition :=
  match config.archetype.role config.archetype.lead with
  | none => .error (.rpc .internal "the active archetype has no designated foreground role")
  | some definition =>
      if definition.mode ≠ .interactive then
        .error (.rpc .internal "the designated foreground role is not interactive")
      else .ok definition

/-- Until when the foreground agent may not be replaced. -/
def Db.foregroundQuarantine (db : Db) (runId : RunId) (role : String) (now : Int) : Option Int :=
  ((db.agentsOf runId).find? (·.role == role)).bind fun agent =>
    db.agentQuarantineUntil runId agent.id now

/-- Every budget that a new or a replaced foreground agent uses has room.  A replaced one is no
    new agent. -/
def requireForegroundCapacity (config : EffectiveConfig) (runId : RunId) (role : String)
    (now : Int) : Request Unit := do
  if (← Tx.read (·.agentsOf runId)).any (fun agent => agent.role == role && !agent.state.isTerminal)
  then pure ()
  else do
    Tx.when ((← Tx.read (·.agentsOf runId)).any (·.role == role) = false)
      (requireRoom "limits.max_agents_per_run" fun db =>
        (db.admissionCounters config runId now).agentsPerRun)
    requireRoom "limits.max_concurrent_agents" fun db =>
      (db.admissionCounters config runId now).concurrentAgents

/-- The checks of a foreground launch that is not recorded yet. -/
def admitNewForeground (config : EffectiveConfig) (runId : RunId) (role : String) (now : Int) :
    Request Unit := do
  match ← Tx.read (·.foregroundQuarantine runId role now) with
  | some untilTime =>
      throw (conflict s!"the foreground session is quarantined after repeated failures; retry after Unix timestamp {untilTime} and inspect its events")
  | none => requireForegroundCapacity config runId role now

/-- The checks of a foreground launch, and what its mutation will record. -/
def admitForeground (config : EffectiveConfig) (runId : RunId) (call : ForegroundCall) :
    Request ForegroundLaunch := do
  requireCurrentCaller runId call.caller
  requireAccepting runId
  requireOperator call.caller "only the operator can launch the foreground agent"
  let definition ← Tx.ofExcept (foregroundRole config)
  let launch : ForegroundLaunch :=
    { role := config.archetype.lead, provider := definition.provider, agentId := call.agentId,
      sessionId := call.sessionId, tokenVerifier := call.tokenVerifier }
  match ← Tx.read (·.operation call.operationId) with
  | some _ => pure launch
  | none => do
      admitNewForeground config runId launch.role call.now
      pure launch

end Coterie
