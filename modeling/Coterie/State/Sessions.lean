/-
  Coterie.State.Sessions

  Agents, sessions and session credentials (`state.rs`).  A session belongs to one generation of
  its agent; what a provider reports is applied only to the session and generation it names, and
  only while that generation is the agent's current one.
-/

import Coterie.State.Operations

namespace Coterie

/-! ## Runs, projects and agents -/

/-- Write a new run. -/
def insertRun (run : RunRecord) : Repo Unit := do
  constraint (.unique "runs.id") fun db => !db.runs.any (·.id == run.id)
  Tx.write fun db => { db with runs := db.runs ++ [run] }

/-- Marks an active run stopped during orderly supervisor shutdown. -/
def stopRun (id : RunId) (stoppedAt : Int) : Repo Unit := do
  Tx.require (.runNotActive id) fun db =>
    db.runs.any fun run => run.id == id && run.status == .active && run.stoppedAt == none
  Tx.write fun db =>
    { db with
      runs := Table.updateWhere
        (fun run => run.id == id && run.status == .active && run.stoppedAt == none)
        (fun run => { run with status := .stopped, stoppedAt := some stoppedAt }) db.runs }

/-- Write a new project. -/
def insertProject (project : ProjectRecord) : Repo Unit := do
  constraint (.unique "projects.id") fun db => !db.projects.any (·.id == project.id)
  constraint (.unique "projects.run_id, alias") fun db =>
    !db.projects.any fun row => row.runId == project.runId && row.projectAlias == project.projectAlias
  constraint (.unique "projects.run_id, canonical_path") fun db =>
    !db.projects.any fun row =>
      row.runId == project.runId && row.canonicalPath == project.canonicalPath
  constraint (.unique "one_primary_project_per_run") fun db =>
    !project.isPrimary || !db.projects.any fun row => row.runId == project.runId && row.isPrimary
  constraint (.foreignKey "projects.run_id") fun db => db.runs.any (·.id == project.runId)
  Tx.write fun db => { db with projects := db.projects ++ [project] }

/-- Write a new agent. -/
def insertAgent (agent : AgentRecord) : Repo Unit := do
  constraint (.unique "agents.id") fun db => !db.agents.any (·.id == agent.id)
  constraint (.foreignKey "agents.run_id") fun db => db.runs.any (·.id == agent.runId)
  constraint (.check "agents.generation") fun _ => 0 ≤ agent.generation
  Tx.write fun db => { db with agents := db.agents ++ [agent] }

/-- The agents of a run, oldest first. -/
def Db.agentsOf (db : Db) (runId : RunId) : List AgentRecord :=
  (db.agents.filter (·.runId == runId)).mergeSort fun a b => a.createdAt ≤ b.createdAt

/-- Starts a replacement session generation only after the previous one is terminal. -/
def startAgentGeneration (runId : RunId) (agentId : AgentId)
    (currentGeneration nextGeneration : Int) : Repo Bool := do
  match ← Tx.read (·.agent agentId) with
  | none => pure false
  | some agent =>
      if agent.runId ≠ runId ∨ agent.generation ≠ currentGeneration ∨ ¬ agent.state.isTerminal ∨
          nextGeneration ≤ currentGeneration then
        pure false
      else do
        Tx.write fun db =>
          { db with
            agents := Table.updateWhere
              (fun row => row.id == agentId && row.runId == runId &&
                row.generation == currentGeneration)
              (fun row => { row with generation := nextGeneration, state := .starting })
              db.agents }
        pure true

/-! ## Sessions -/

/-- Write a new session. -/
def insertSession (session : SessionRecord) : Repo Unit := do
  constraint (.unique "sessions.id") fun db => !db.sessions.any (·.id == session.id)
  constraint (.unique "sessions.agent_id, generation") fun db =>
    !db.sessions.any fun row =>
      row.agentId == session.agentId && row.generation == session.generation
  constraint (.foreignKey "sessions.run_id, agent_id") fun db =>
    db.agents.any fun agent => agent.id == session.agentId && agent.runId == session.runId
  constraint (.check "sessions.generation") fun _ => 0 ≤ session.generation
  Tx.write fun db => { db with sessions := db.sessions ++ [session] }

namespace Db

/-- The sessions of a run, oldest first. -/
def sessionsOf (db : Db) (runId : RunId) : List SessionRecord :=
  (db.sessions.filter (·.runId == runId)).mergeSort fun a b => a.createdAt ≤ b.createdAt

/-- The session of the greatest generation of an agent. -/
def latestSessionForAgent (db : Db) (runId : RunId) (agentId : AgentId) : Option SessionRecord :=
  Table.latestBy (·.generation)
    (db.sessions.filter fun session => session.runId == runId && session.agentId == agentId)

/-- A recovery of the run retired this session. -/
def sessionRecovered (db : Db) (runId : RunId) (sessionId : SessionId) : Bool :=
  db.events.any fun event => event.runId == runId && event.eventType == .taskRecovered &&
    event.payload.path? ["data", "session_id"] == some (.str sessionId.text)

/-- The scope names a session of its agent's current generation in an active run, and no recovery
    retired it. -/
def sessionScopeIsCurrent (db : Db) (scope : SessionScope) : Bool :=
  (db.sessions.any fun session =>
      session.id == scope.sessionId && session.runId == scope.runId &&
        session.agentId == scope.agentId && session.generation == scope.generation) &&
    (db.agents.any fun agent =>
      agent.id == scope.agentId && agent.runId == scope.runId &&
        agent.generation == scope.generation) &&
    (db.runs.any fun run => run.id == scope.runId && run.status == .active) &&
    !db.sessionRecovered scope.runId scope.sessionId

/-- Change the session that a scope names. -/
def updateSession (db : Db) (scope : SessionScope) (f : SessionRecord → SessionRecord) : Db :=
  { db with
    sessions := Table.updateWhere
      (fun session => session.id == scope.sessionId && session.runId == scope.runId &&
        session.agentId == scope.agentId && session.generation == scope.generation)
      f db.sessions }

end Db

/-- The result of applying a generation-fenced provider observation. -/
inductive SessionTransitionOutcome where
  | applied
  | unchanged
  | stale
deriving DecidableEq, Repr

/-- Records the provider identity observed after a launch side effect. -/
def recordSessionLaunchObservation (scope : SessionScope) (providerSessionId : String)
    (observedAt : Int) : Repo SessionTransitionOutcome := do
  match ← Tx.read (·.session scope.sessionId) with
  | none => pure .stale
  | some session =>
      if ¬ (← Tx.read (·.sessionScopeIsCurrent scope)) then pure .stale
      else if session.reconciliationState = .observed ∧
          session.providerSessionId = some providerSessionId then
        pure .unchanged
      else do
        Tx.write (·.updateSession scope fun row =>
          { row with
            providerSessionId := some providerSessionId
            reconciliationState := .observed
            reconciledAt := some observedAt })
        pure .applied

/-- Records conservative knowledge about a durable session intent. -/
def recordSessionReconciliationState (scope : SessionScope) (state : ExternalResourceState)
    (reconciledAt : Int) : Repo SessionTransitionOutcome := do
  match ← Tx.read (·.session scope.sessionId) with
  | none => pure .stale
  | some session =>
      if ¬ (← Tx.read (·.sessionScopeIsCurrent scope)) then pure .stale
      else if session.reconciliationState = state then pure .unchanged
      else do
        Tx.write (·.updateSession scope fun row =>
          { row with reconciliationState := state, reconciledAt := some reconciledAt })
        pure .applied

/-- The recorded state moves to the observed one: the transition table, and the loss of a
    foreground process that its owner later reports as an exit. -/
def SessionRecord.mayObserve (session : SessionRecord) (observed : LifecycleState) : Bool :=
  session.state.allows observed ||
    session.processOwner == .foreground && session.state == .lost && observed == .exited

/-- The tables after a permitted observation: the session, its agent and, at a terminal state, the
    credential of the session. -/
def Db.applySessionLifecycle (db : Db) (scope : SessionScope) (observed : LifecycleState)
    (observedAt : Int) : Db :=
  let db := db.updateSession scope fun row =>
    { row with
      state := observed, endedAt := if observed.isTerminal then some observedAt else none }
  let db :=
    { db with
      agents := Table.updateWhere
        (fun agent => agent.id == scope.agentId && agent.runId == scope.runId &&
          agent.generation == scope.generation)
        (fun agent => { agent with state := observed }) db.agents }
  if observed.isTerminal then
    { db with
      sessionCredentials := Table.updateWhere
        (fun row => row.sessionId == scope.sessionId && row.revokedAt == none)
        (fun row => { row with revokedAt := some observedAt }) db.sessionCredentials }
  else db

/-- Applies an observation only to the session and agent generation it owns. -/
def recordSessionLifecycle (scope : SessionScope) (observed : LifecycleState)
    (observedAt : Int) : Repo SessionTransitionOutcome := do
  match ← Tx.read (·.session scope.sessionId) with
  | none => pure .stale
  | some session =>
      if ¬ (← Tx.read (·.sessionScopeIsCurrent scope)) then pure .stale
      else
        match ← Tx.read (·.agent scope.agentId) with
        | none => pure .stale
        | some agent =>
            if agent.runId ≠ scope.runId ∨ agent.generation ≠ scope.generation then pure .stale
            else if agent.state ≠ session.state then
              throw (.inconsistentSessionLifecycle session.id agent.id)
            else if session.state = observed then pure .unchanged
            else if ¬ session.mayObserve observed then
              throw (.invalidSessionTransition session.id session.state observed)
            else do
              -- A revocation before its credential's creation violates the column's check.
              constraint (.check "session_credentials.revoked_at") fun db =>
                !observed.isTerminal || db.sessionCredentials.all fun row =>
                  row.sessionId != scope.sessionId || row.revokedAt != none ||
                    row.createdAt ≤ observedAt
              Tx.write (·.applySessionLifecycle scope observed observedAt)
              pure .applied

/-! ## Session credentials -/

/-- Replaces an agent's active credential with the verifier for a new session. -/
def activateSessionCredential (credential : SessionCredentialRecord) : Repo Unit := do
  Tx.require (.credentialAlreadyRevoked credential.sessionId) fun _ =>
    credential.revokedAt == none
  Tx.require (.inconsistentSessionLifecycle credential.sessionId credential.agentId)
    (·.sessionScopeIsCurrent
      { runId := credential.runId, agentId := credential.agentId,
        sessionId := credential.sessionId, generation := credential.generation })
  constraint (.check "session_credentials.revoked_at") fun db =>
    db.sessionCredentials.all fun row =>
      !(row.runId == credential.runId && row.agentId == credential.agentId &&
        row.revokedAt == none) || row.createdAt ≤ credential.createdAt
  Tx.write fun db =>
    { db with
      sessionCredentials := Table.updateWhere
        (fun row => row.runId == credential.runId && row.agentId == credential.agentId &&
          row.revokedAt == none)
        (fun row => { row with revokedAt := some credential.createdAt }) db.sessionCredentials }
  constraint (.unique "session_credentials.session_id") fun db =>
    !db.sessionCredentials.any (·.sessionId == credential.sessionId)
  Tx.write fun db => { db with sessionCredentials := db.sessionCredentials ++ [credential] }

/-- The row whose verifier a rotation replaces. -/
def SessionCredentialRecord.isDesiredIn (credential : SessionCredentialRecord) (db : Db)
    (row : SessionCredentialRecord) : Bool :=
  row.sessionId == credential.sessionId && row.runId == credential.runId &&
    row.agentId == credential.agentId && row.generation == credential.generation &&
    row.revokedAt == none &&
    db.sessions.any fun session =>
      session.id == row.sessionId && session.reconciliationState == .desired

/-- Rotates a verifier only while its launch remains a known desired intent. -/
def replaceDesiredSessionCredential (credential : SessionCredentialRecord) : Repo Unit := do
  Tx.require (.credentialAlreadyRevoked credential.sessionId) fun _ =>
    credential.revokedAt == none
  Tx.require (.inconsistentSessionLifecycle credential.sessionId credential.agentId) fun db =>
    db.sessionCredentials.any (credential.isDesiredIn db)
  Tx.write fun db =>
    { db with
      sessionCredentials := Table.updateWhere (credential.isDesiredIn db)
        (fun row =>
          { row with
            tokenVerifier := credential.tokenVerifier, createdAt := credential.createdAt })
        db.sessionCredentials }

/-- Resolves only the unrevoked credential for the agent's current live generation. -/
def Db.activeSessionCredential (db : Db) (runId : RunId) (agentId : AgentId)
    (sessionId : SessionId) : Option SessionCredentialRecord :=
  db.sessionCredentials.find? fun credential =>
    credential.runId == runId && credential.agentId == agentId &&
      credential.sessionId == sessionId && credential.revokedAt == none &&
      (db.sessions.any fun session =>
        session.runId == credential.runId && session.agentId == credential.agentId &&
          session.id == credential.sessionId && session.generation == credential.generation &&
          session.endedAt == none) &&
      (db.agents.any fun agent =>
        agent.runId == credential.runId && agent.id == credential.agentId &&
          agent.generation == credential.generation) &&
      db.runs.any fun run => run.id == credential.runId && run.status == .active

end Coterie
