/-
  Coterie.Supervisor.Limits

  The admission limits of a run's configuration hold over every run of the supervisor, wherever its
  programs are cut off.

  The checks of a request read the limits before its transaction, and they are skipped for a request
  that was recorded already.  What carries the result is how an agent comes alive: a spawn records
  one, a foreground launch records or revives the one of the lead role, and no observation revives
  any (`Db.Settles`).  A launch that finds the foreground agent alive is not checked against the
  limits; it revives nobody because the run has one agent of the lead role at most.

  An agent that has ended stays so in every step but one (`keepsEnded_step`): a foreground launch
  that was not recorded before revives the agent of the lead role.
-/

import Coterie.Supervisor.Hiring
import Coterie.Sessions.Fencing

namespace Coterie

/-! ## Agents that settle -/

/-- An agent stays who it is, and does not come alive. -/
structure AgentRecord.Settles (agent agent' : AgentRecord) : Prop where
  identity : agent'.identity = agent.identity
  ended : agent.state.isTerminal = true → agent'.state.isTerminal = true

instance : Std.Refl AgentRecord.Settles where
  refl _ := ⟨rfl, fun hended => hended⟩

instance : IsTrans AgentRecord AgentRecord.Settles where
  trans _ _ _ hab hbc :=
    ⟨hbc.identity.trans hab.identity, fun hended => hbc.ended (hab.ended hended)⟩

/-- The roster moves on, and none of its agents comes alive. -/
structure Db.Settles (db db' : Db) : Prop where
  moves : db.RosterMoves db'
  agents : db.roster.Fenced → List.Forall₂ AgentRecord.Settles db.agents db'.agents

instance : Std.Refl Db.Settles where
  refl db := ⟨Std.Refl.refl db, fun _ => List.forall₂_refl db.agents⟩

instance : IsTrans Db Db.Settles where
  trans a b c hab hbc := by
    refine ⟨IsTrans.trans _ _ _ hab.moves hbc.moves, fun hfenced => ?_⟩
    exact Table.forall₂_trans (hab.agents hfenced)
      (hbc.agents (hfenced.leads (hab.moves hfenced)))

/-- A move of the roster that leaves the agents alone. -/
theorem settles_of_agents {db db' : Db} (hmoves : db.RosterMoves db')
    (hagents : db'.agents = db.agents) : db.Settles db' := by
  refine ⟨hmoves, fun _ => ?_⟩
  rw [hagents]
  exact List.forall₂_refl db.agents

/-- A function that moves the roster and does not write the agents. -/
theorem settles_of_moves {α : Type} {x : Repo α} (tables : List TableName)
    (hno : .agents ∉ tables) (hmoves : Tx.Ensures Db.RosterMoves x)
    (hwrites : Tx.Keeps (Written tables) x) : Tx.Ensures Db.Settles x :=
  fun _ _ _ hrun => settles_of_agents (hmoves _ _ _ hrun)
    ((hwrites.of_ok hrun).writesOnly .agents hno)

/-- A function whose frame avoids the roster. -/
theorem settles_calm {α : Type} {x : Repo α} (tables : List TableName)
    (hno : ∀ table ∈ rosterTables, table ∉ tables) (h : Tx.Keeps (Written tables) x) :
    Tx.Ensures Db.Settles x :=
  settles_of_moves tables (hno _ (by decide)) (calm tables hno h) h

/-! ## Observations -/

/-- An observation of a session whose agent has ended leaves the agent ended. -/
theorem Observed.settles {db : Db} {scope : SessionScope} {observed : LifecycleState}
    (h : Observed db scope observed) (hfenced : db.roster.Fenced) (observedAt : Int) :
    List.Forall₂ AgentRecord.Settles db.agents
      (db.roster.observe scope observed observedAt).agents := by
  obtain ⟨⟨session, hsession, rfl⟩, -⟩ := sessionScopeIsCurrent_eq_true h.current
  obtain ⟨found, hfound, -, hpermitted⟩ := h.permitted
  have hfoundId : found.id = session.scope.sessionId := by simpa using List.find?_some hfound
  obtain rfl : found = session :=
    hfenced.sessions.eq_of_key_eq (List.mem_of_find?_eq_some hfound) hsession hfoundId
  obtain ⟨owner, howner, hid, hrun, hinStep⟩ := hfenced.employed found hsession
  -- the rows that the observation selects are the one of the session's agent
  have hrows : ∀ agent ∈ db.agents, AgentRecord.Settles agent
      (if (agent.id == found.scope.agentId && agent.runId == found.scope.runId &&
        agent.generation == found.scope.generation) = true
        then { agent with state := observed } else agent) := by
    intro agent hagent
    split
    · next hselected =>
        simp only [SessionRecord.scope, Bool.and_eq_true, beq_iff_eq] at hselected
        obtain rfl : agent = owner :=
          hfenced.agents.eq_of_key_eq hagent howner (hselected.1.1.trans hid.symm)
        refine ⟨rfl, fun hended => ?_⟩
        rcases hinStep with ⟨-, hstate⟩ | ⟨hearlier, -⟩
        · rw [hstate] at hended
          rcases Roster.endsAs_of_mayObserve hended hpermitted with rfl | ⟨-, -, rfl⟩
          · exact hended
          · rfl
        · exact absurd hselected.2 (Int.ne_of_gt hearlier)
    · exact Std.Refl.refl agent
  show List.Forall₂ AgentRecord.Settles db.agents (db.agents.map _)
  rw [List.forall₂_map_right_iff]
  exact List.forall₂_same.mpr hrows

theorem recordSessionLifecycle_settles (scope : SessionScope) (observed : LifecycleState)
    (observedAt : Int) :
    Tx.Ensures Db.Settles (recordSessionLifecycle scope observed observedAt) := by
  intro db outcome db' h
  refine ⟨recordSessionLifecycle_moves _ _ _ _ _ _ h, fun hfenced => ?_⟩
  rcases recordSessionLifecycle_ok h with ⟨-, rfl⟩ | ⟨-, hobserved, rfl⟩
  · exact List.forall₂_refl db'.agents
  · have hagents : (db.applySessionLifecycle scope observed observedAt).agents =
        (db.roster.observe scope observed observedAt).agents :=
      congrArg Roster.agents (roster_applySessionLifecycle db scope observed observedAt)
    rw [hagents]
    exact hobserved.settles hfenced observedAt

theorem appendEvent_settles (event : NewEvent) : Tx.Ensures Db.Settles (appendEvent event) :=
  settles_calm logTables (by decide) (writes_anyEvent event)

theorem recordReconciliationState_settles (scope : SessionScope) (session : SessionRecord)
    (actor : String) (state : ExternalResourceState) (observedAt : Int) :
    Tx.Ensures Db.Settles
      (recordReconciliationState scope session actor state observedAt) :=
  .seq (settles_of_moves [.sessions] (by decide) (recordSessionReconciliationState_moves _ _ _)
    (writes_recordSessionReconciliationState _ _ _)) fun _ => .when (appendEvent_settles _)

theorem recordLifecycle_settles (scope : SessionScope) (session : SessionRecord) (actor : String)
    (lifecycle : LifecycleState) (data : JsonValue) (observedAt : Int) :
    Tx.Ensures Db.Settles (recordLifecycle scope session actor lifecycle data observedAt) :=
  .seq (recordSessionLifecycle_settles _ _ _) fun _ =>
    .when (.seq (appendEvent_settles _) fun _ => appendEvent_settles _)

theorem recordReconciliationIn_settles (scope : SessionScope)
    (reconciliationState : ExternalResourceState) (lifecycle : LifecycleState)
    (reconciledAt : Int) :
    Tx.Ensures Db.Settles
      (recordReconciliationIn scope reconciliationState lifecycle reconciledAt) := by
  refine .seq (.read _) fun found => ?_
  cases found with
  | none => exact .pure _
  | some session =>
      exact .seq (recordReconciliationState_settles _ _ _ _ _) fun _ =>
        recordLifecycle_settles _ _ _ _ _ _

theorem recordObservation_settles (scope : SessionScope) (observation : SessionObservation)
    (observedAt : Int) (policy : SupervisionPolicy) :
    Tx.Ensures Db.Settles (recordObservation scope observation observedAt policy) := by
  refine .seq (.read _) fun found => ?_
  cases found with
  | none => exact .pure _
  | some session =>
      exact .seq (settles_calm [.sessionFailures, .events] (by decide)
        (writes_observedLifecycle _ _ _ _ _)) fun _ =>
          .seq (recordReconciliationState_settles _ _ _ _ _) fun _ =>
            recordLifecycle_settles _ _ _ _ _ _

theorem observeForegroundStarted_settles (scope : SessionScope) (processId : Nat)
    (observedAt : Int) :
    Tx.Ensures Db.Settles (observeForegroundStarted scope processId observedAt) := by
  refine .seq (.read _) fun _ => .seq (.okOr _ _) fun session => ?_
  refine .seq (settles_of_moves [.sessions] (by decide)
    (recordSessionLaunchObservation_moves _ _ _) (writes_recordSessionLaunchObservation _ _ _))
    fun _ => ?_
  refine .seq (.when (appendEvent_settles _)) fun _ => ?_
  exact .seq (recordLifecycle_settles _ _ _ _ _ _) fun _ =>
    settles_calm [.operations, .events] (by decide) (writes_recordForegroundOperation _ _ _ _)

theorem observeForegroundEnded_settles (runId : RunId) (scope : SessionScope)
    (ended : ForegroundEnd) (observedAt : Int) (policy : SupervisionPolicy) :
    Tx.Ensures Db.Settles (observeForegroundEnded runId scope ended observedAt policy) := by
  refine .seq (.read _) fun _ => .seq (.okOr _ _) fun session => .ite (.pure _) ?_
  refine .seq (recordReconciliationState_settles _ _ _ _ _) fun _ => ?_
  refine .seq (settles_calm [.sessionFailures, .events] (by decide)
    (writes_endedLifecycle _ _ _ _ _ _)) fun _ => ?_
  exact .seq (recordLifecycle_settles _ _ _ _ _ _) fun _ =>
    settles_calm [.operations, .events] (by decide) (writes_recordForegroundOperation _ _ _ _)

/-- A starting agent that is set aside has ended. -/
theorem quarantineUnstartedAgent_settles (runId : RunId) (agentId : AgentId)
    (operationId : OperationId) (now : Int) :
    Tx.Ensures Db.Settles (quarantineUnstartedAgent runId agentId operationId now) := by
  intro db u db' h
  refine ⟨quarantineUnstartedAgent_moves _ _ _ _ _ _ _ h, fun _ => ?_⟩
  let R : Db → Db → Prop := fun db db' => List.Forall₂ AgentRecord.Settles db.agents db'.agents
  have hrefl : Std.Refl R := ⟨fun db => List.forall₂_refl db.agents⟩
  have htrans : IsTrans Db R := ⟨fun _ _ _ hab hbc => Table.forall₂_trans hab hbc⟩
  have hkeeps : Tx.Keeps R (quarantineUnstartedAgent runId agentId operationId now) := by
    refine .bind (.read _) fun found => ?_
    cases found with
    | none => exact .pure _
    | some agent =>
        refine .bind (.read _) fun _ => .ite (.pure _) (.bind (.write fun db => ?_) fun _ => ?_)
        · exact Table.forall₂_updateWhere (fun _ _ => ⟨rfl, fun _ => rfl⟩) db.agents
        · refine Tx.Keeps.mono (writes_supervisionEvent rfl)
            fun db db' (hw : Written [.events] db db') => ?_
          have hagents : db'.agents = db.agents := hw.writesOnly .agents (by decide)
          show List.Forall₂ AgentRecord.Settles db.agents db'.agents
          rw [hagents]
          exact List.forall₂_refl db.agents
  exact hkeeps.of_ok h

/-! ## Transactions that hire nobody -/

namespace Command

theorem body_settles {command : Command} (h : command.hires = false) :
    Tx.Ensures Db.Settles command.body := by
  have hcalm : .agents ∉ command.writes → Tx.Ensures Db.Settles command.body := fun hno =>
    settles_of_moves command.writes hno command.body_rosterMoves command.keeps_writes
  cases command
  case spawnAgent => cases h
  case launchForeground => cases h
  case recordSpawnFailure runId operationId agentId sessionId message reconciledAt policy =>
    have hreconcile : ∀ state error, Tx.Ensures Db.Settles
        (recordOperationReconciliation operationId state error reconciledAt) := fun _ _ =>
      settles_calm [.operations, .events] (by decide) (writes_recordOperationReconciliation _ _ _ _)
    exact .seq (.read _) fun _ => .seq (hreconcile _ _) fun _ => .seq (.read _) fun _ =>
      .when (.seq (quarantineUnstartedAgent_settles _ _ _ _) fun _ =>
        .seq (hreconcile _ _) fun _ => .pure _)
  case persistLaunchIntent launch agentExists assignmentId =>
    have hexists : agentExists = true := by simpa [hires] using h
    subst hexists
    refine settles_of_moves
      [.sessions, .sessionScopes, .sessionCredentials, .assignments, .events] (by decide)
      (persistLaunchIntent_rosterMoves _ _ _) (.bind (.require _ _) fun _ =>
        .bind (writes_openSession _ _) fun _ => .bind (writes_appendEvent _ rfl) fun _ => ?_)
    cases assignmentId with
    | none => exact .pure _
    | some id => exact writes_associateLaunchAssignment _ _
  case recordFailedLaunch =>
    exact .seq (settles_calm [.sessionLaunchAttempts, .events] (by decide)
      (writes_failSessionLaunch _ _ _)) fun _ => .when (recordReconciliationIn_settles _ _ _ _)
  case recordReconciliation => exact recordReconciliationIn_settles _ _ _ _
  case recordObservation => exact recordObservation_settles _ _ _ _
  case observeForegroundStarted => exact observeForegroundStarted_settles _ _ _
  case observeForegroundEnded => exact observeForegroundEnded_settles _ _ _ _ _
  case recordSessionLifecycle =>
    exact .seq (recordSessionLifecycle_settles _ _ _) fun _ => .pure _
  -- the other commands do not write the agents
  all_goals exact hcalm (by dsimp only [writes]; decide)

theorem exec_settles {command : Command} (h : command.hires = false) (db : Db) :
    db.Settles (command.exec db) := by
  unfold exec
  rcases Tx.transaction_cases command.body db with ⟨u, db', hrun, hok⟩ | ⟨e, -, herror⟩
  · rw [hok]
    exact body_settles h db u db' hrun
  · rw [herror]
    exact Std.Refl.refl db

end Command

/-! ## Limits -/

/-- The agents of a run are within the limits of its configuration: all of them, those that are
    not terminal, those of one job role that are not terminal; and a role is one that may be hired,
    the lead role by one agent only. -/
structure WithinLimits (config : EffectiveConfig) (runId : RunId) (agents : List AgentRecord) :
    Prop where
  lifetime : agents.countP (·.runId == runId) ≤ config.limits.maxAgentsPerRun
  concurrent : agents.countP (fun agent => agent.runId == runId && !agent.state.isTerminal) ≤
    config.limits.maxConcurrentAgents
  instances : ∀ role definition, config.archetype.role role = some definition →
    definition.mode = .job → ∀ limit, (config.roles[role]?).bind (·.maxInstances) = some limit →
      agents.countP (fun agent => agent.runId == runId &&
        (agent.role == role && !agent.state.isTerminal)) ≤ limit
  employed : ∀ agent ∈ agents, agent.runId = runId →
    (∃ definition effective, spawnRole config agent.role = .ok (definition, effective)) ∨
      agent.role = config.archetype.lead ∧ ∃ definition, foregroundRole config = .ok definition
  lead : (∃ definition, foregroundRole config = .ok definition) →
    agents.countP (fun agent => agent.runId == runId && agent.role == config.archetype.lead) ≤ 1

/-- The lead role is no role of a background agent. -/
theorem lead_not_spawned {config : EffectiveConfig} {definition lead : RoleDefinition}
    {effective : EffectiveRole}
    (hspawn : spawnRole config config.archetype.lead = .ok (definition, effective)) :
    foregroundRole config ≠ .ok lead := by
  intro hlead
  obtain ⟨hdefinition, -, -, hjob⟩ := spawnRole_ok hspawn
  obtain ⟨hdefinition', hinteractive⟩ := foregroundRole_ok hlead
  rw [hdefinition] at hdefinition'
  cases hdefinition'
  rw [hjob] at hinteractive
  cases hinteractive

section Limits

variable {config : EffectiveConfig} {runId : RunId} {agents agents' : List AgentRecord}

theorem withinLimits_nil (config : EffectiveConfig) (runId : RunId) :
    WithinLimits config runId [] where
  lifetime := Nat.zero_le _
  concurrent := Nat.zero_le _
  instances := fun _ _ _ _ _ _ => Nat.zero_le _
  employed := nofun
  lead := fun _ => Nat.zero_le _

theorem AgentRecord.identity_columns {agent agent' : AgentRecord}
    (h : agent'.identity = agent.identity) :
    agent'.runId = agent.runId ∧ agent'.role = agent.role :=
  ⟨congrArg AgentIdentity.runId h, congrArg AgentIdentity.role h⟩

theorem AgentRecord.Settles.alive {agent agent' : AgentRecord} (h : agent.Settles agent')
    (halive : (!agent'.state.isTerminal) = true) : (!agent.state.isTerminal) = true := by
  cases hended : agent.state.isTerminal with
  | false => rfl
  | true => rw [h.ended hended] at halive; exact halive

/-- Agents who stay who they are stay within the limits while those that are not terminal are. -/
theorem WithinLimits.stay (h : WithinLimits config runId agents)
    (hstay : List.Forall₂ (fun agent agent' => agent'.identity = agent.identity) agents agents')
    (hconcurrent : agents'.countP (fun agent => agent.runId == runId && !agent.state.isTerminal) ≤
      config.limits.maxConcurrentAgents)
    (hinstances : ∀ role definition, config.archetype.role role = some definition →
      definition.mode = .job →
        agents'.countP (fun agent => agent.runId == runId &&
          (agent.role == role && !agent.state.isTerminal)) ≤
        agents.countP (fun agent => agent.runId == runId &&
          (agent.role == role && !agent.state.isTerminal))) :
    WithinLimits config runId agents' where
  lifetime := by
    refine (Table.countP_le_of_forall₂ (fun a b hab hcount => ?_) hstay).trans h.lifetime
    rwa [(AgentRecord.identity_columns hab).1] at hcount
  concurrent := hconcurrent
  instances := by
    intro role definition hdefinition hjob limit hlimit
    exact (hinstances role definition hdefinition hjob).trans
      (h.instances role definition hdefinition hjob limit hlimit)
  employed := by
    intro agent' hagent' hrun
    obtain ⟨agent, hagent, hab⟩ := Table.exists_mem_of_forall₂ hstay hagent'
    rw [(AgentRecord.identity_columns hab).2]
    exact h.employed agent hagent ((AgentRecord.identity_columns hab).1.symm.trans hrun)
  lead := by
    intro hlead
    refine (Table.countP_le_of_forall₂ (fun a b hab hcount => ?_) hstay).trans (h.lead hlead)
    rwa [(AgentRecord.identity_columns hab).1, (AgentRecord.identity_columns hab).2] at hcount

/-- Agents that settle stay within the limits. -/
theorem WithinLimits.settles (h : WithinLimits config runId agents)
    (hsettles : List.Forall₂ AgentRecord.Settles agents agents') :
    WithinLimits config runId agents' := by
  refine h.stay (hsettles.imp fun _ _ hab => hab.identity) ?_ ?_
  · refine (Table.countP_le_of_forall₂ (fun a b hab hcount => ?_) hsettles).trans h.concurrent
    rw [(AgentRecord.identity_columns hab.identity).1, Bool.and_eq_true] at hcount
    exact Bool.and_eq_true _ _ ▸ ⟨hcount.1, hab.alive hcount.2⟩
  · intro role _ _ _
    refine Table.countP_le_of_forall₂ (fun a b hab hcount => ?_) hsettles
    obtain ⟨hrun, hrole⟩ := AgentRecord.identity_columns hab.identity
    simp only [hrun, hrole, Bool.and_eq_true] at hcount ⊢
    exact ⟨hcount.1, hcount.2.1, hab.alive hcount.2.2⟩

/-- One more agent, for whom there is room. -/
theorem WithinLimits.hire (h : WithinLimits config runId agents) {agent : AgentRecord}
    (hlifetime : agents.countP (·.runId == runId) < config.limits.maxAgentsPerRun)
    (hconcurrent : agents.countP (fun agent => agent.runId == runId && !agent.state.isTerminal) <
      config.limits.maxConcurrentAgents)
    (hinstances : ∀ definition, config.archetype.role agent.role = some definition →
      definition.mode = .job →
        ∀ limit, (config.roles[agent.role]?).bind (·.maxInstances) = some limit →
          agents.countP (fun row => row.runId == runId &&
            (row.role == agent.role && !row.state.isTerminal)) < limit)
    (hemployed :
      (∃ definition effective, spawnRole config agent.role = .ok (definition, effective)) ∨
        agent.role = config.archetype.lead ∧ ∃ definition, foregroundRole config = .ok definition)
    (hlead : agent.role = config.archetype.lead →
      (∃ definition, foregroundRole config = .ok definition) →
        agents.countP (fun agent => agent.runId == runId &&
          agent.role == config.archetype.lead) = 0) :
    WithinLimits config runId (agents ++ [agent]) := by
  have hone : ∀ p : AgentRecord → Bool, (agents ++ [agent]).countP p ≤ agents.countP p + 1 := by
    intro p
    rw [List.countP_append]
    exact Nat.add_le_add_left (List.countP_le_length (p := p) (l := [agent])) _
  have hnone : ∀ p : AgentRecord → Bool, p agent = false →
      (agents ++ [agent]).countP p = agents.countP p := by
    intro p hp
    rw [List.countP_append, List.countP_singleton, hp]
    rfl
  refine ⟨(hone _).trans hlifetime, (hone _).trans hconcurrent, ?_, ?_, ?_⟩
  · intro role definition hdefinition hjob limit hlimit
    by_cases hrole : agent.role = role
    · subst hrole
      exact (hone _).trans (hinstances definition hdefinition hjob limit hlimit)
    · rw [hnone _ (by simp [hrole])]
      exact h.instances role definition hdefinition hjob limit hlimit
  · intro row hrow hrun
    rcases List.mem_append.mp hrow with hold | hnew
    · exact h.employed row hold hrun
    · rw [List.mem_singleton.mp hnew]
      exact hemployed
  · intro hforeground
    by_cases hrole : agent.role = config.archetype.lead
    · exact (hone _).trans (Nat.succ_le_succ (Nat.le_of_eq (hlead hrole hforeground)))
    · rw [hnone _ (by simp [hrole])]
      exact h.lead hforeground

/-- The agent of the lead role may come alive when there is room for one more. -/
theorem WithinLimits.revive (h : WithinLimits config runId agents) {lead : RoleDefinition}
    (hlead : foregroundRole config = .ok lead) (hkeyed : Table.Keyed (·.id) agents)
    {agent : AgentRecord} (hagent : agent ∈ agents) (hrole : agent.role = config.archetype.lead)
    {p : AgentRecord → Bool} {f : AgentRecord → AgentRecord}
    (hselects : ∀ row, p row = true → row.id = agent.id)
    (hf : ∀ row, (f row).identity = row.identity)
    (hconcurrent : agents.countP (fun agent => agent.runId == runId && !agent.state.isTerminal) <
      config.limits.maxConcurrentAgents) :
    WithinLimits config runId (Table.updateWhere p f agents) := by
  have hsame : ∀ row ∈ agents, p row = true → row = agent := fun row hrow hp =>
    hkeyed.eq_of_key_eq hrow hagent (hselects row hp)
  have hone : agents.countP p ≤ 1 := by
    rw [List.countP_eq_length_filter]
    refine hkeyed.length_filter_le_one fun a ha b hb hpa hpb => ?_
    rw [hsame a ha hpa, hsame b hb hpb]
  have hrefl : Std.Refl fun a b : AgentRecord => b.identity = a.identity := ⟨fun _ => rfl⟩
  refine h.stay (Table.forall₂_updateWhere (fun row _ => hf row) agents) ?_ ?_
  · exact (Table.countP_updateWhere_le p _ f agents).trans (by omega)
  · intro role definition hdefinition hjob
    -- the lead role is no job role, so that the count leaves the revived agent out
    have hother : config.archetype.lead ≠ role := by
      rintro rfl
      obtain ⟨hdefinition', hinteractive⟩ := foregroundRole_ok hlead
      rw [hdefinition] at hdefinition'
      cases hdefinition'
      rw [hjob] at hinteractive
      cases hinteractive
    rw [Table.updateWhere, List.countP_map]
    refine List.countP_mono_left fun row hrow hcount => ?_
    rw [Function.comp_apply] at hcount
    split at hcount
    · next hp =>
        have hrow' : (f row).role = config.archetype.lead := by
          rw [(AgentRecord.identity_columns (hf row)).2, hsame row hrow hp, hrole]
        simp [hrow', hother] at hcount
    · exact hcount

end Limits

/-! ## What is counted -/

theorem Db.countP_agentsOf (db : Db) (runId : RunId) (p : AgentRecord → Bool) :
    (db.agentsOf runId).countP p = db.agents.countP fun agent => agent.runId == runId && p agent := by
  unfold Db.agentsOf
  rw [(List.mergeSort_perm _ _).countP_eq, List.countP_filter]
  exact List.countP_congr fun agent _ => by rw [Bool.and_comm]

theorem Db.length_agentsOf (db : Db) (runId : RunId) :
    (db.agentsOf runId).length = db.agents.countP (·.runId == runId) := by
  unfold Db.agentsOf
  rw [(List.mergeSort_perm _ _).length_eq, List.countP_eq_length_filter]

theorem Db.mem_agentsOf {db : Db} {runId : RunId} {agent : AgentRecord} :
    agent ∈ db.agentsOf runId ↔ agent ∈ db.agents ∧ agent.runId = runId := by
  unfold Db.agentsOf
  rw [List.mem_mergeSort, List.mem_filter, beq_iff_eq]

/-! ## Transactions that hire -/

theorem spawnAgent_agents {ctx : RequestContext} {spawn : SpawnRequest} {json : JsonValue}
    {db db' : Db} (h : (spawnAgent ctx spawn).run db = (.ok json, db')) :
    db'.agents = db.agents ++ [spawn.agent ctx] := by
  obtain ⟨_, db₁, h₁, h₂⟩ := Tx.bind_eq_ok.mp h
  obtain ⟨-, rfl⟩ := insertAgent_ok h₁
  have hrest : Written [.operations, .tasks, .claims, .assignments, .assignmentScopes, .workspaces,
      .events, .continuations] { db with agents := db.agents ++ [spawn.agent ctx] } db' := by
    refine Tx.Keeps.of_ok (.bind (writes_appendEvent _ rfl) fun _ =>
      .bind (writes_compareAndSetClaim _) fun result =>
        .bind (writes_appendTaskClaimEvents _ _) fun _ => ?_) h₂
    cases result with
    | rejected reason => exact .throw _
    | claimed claimId assignmentId =>
        exact .bind (writes_insertSpawnWorkspace _ _) fun _ =>
          .bind (writes_markOperationReconciliationDesired _) fun _ => .pure _
  exact hrest.writesOnly .agents (by decide)

/-- A foreground launch finds the agent alive, records the agent, or revives it. -/
inductive ForegroundAgents (ctx : RequestContext) (role : String) (db : Db) :
    List AgentRecord → Prop where
  | same : ForegroundAgents ctx role db db.agents
  | hired (agent : AgentRecord) (hrun : agent.runId = ctx.runId) (hrole : agent.role = role)
      (hnone : ∀ row ∈ db.agentsOf ctx.runId, row.role ≠ role) :
      ForegroundAgents ctx role db (db.agents ++ [agent])
  | revived (agent : AgentRecord) (generation : Int) (hagent : agent ∈ db.agentsOf ctx.runId)
      (hrole : agent.role = role) (hended : agent.state.isTerminal = true) :
      ForegroundAgents ctx role db (Table.updateWhere
        (fun row => row.id == agent.id && row.runId == ctx.runId &&
          row.generation == agent.generation)
        (fun row => { row with generation := generation, state := .starting }) db.agents)

theorem claimForegroundLaunch_agents {ctx : RequestContext} {launch : ForegroundLaunch}
    {scope : SessionScope} {intent : LaunchIntent} {db db' : Db}
    (h : (claimForegroundLaunch ctx launch scope).run db = (.ok intent, db')) :
    db'.agents = db.agents := by
  have hwritten : Written [.operations, .sessions, .sessionScopes, .sessionCredentials, .events]
      db db' := (writes_claimForegroundLaunch ctx launch scope).of_ok h
  exact hwritten.writesOnly .agents (by decide)

theorem launchForeground_agents {ctx : RequestContext} {launch : ForegroundLaunch}
    {json : JsonValue} {db db' : Db}
    (h : (launchForeground ctx launch).run db = (.ok json, db')) :
    ForegroundAgents ctx launch.role db db'.agents := by
  obtain ⟨agents, _, h₁, h⟩ := Tx.bind_eq_ok.mp h
  obtain ⟨rfl, rfl⟩ := Tx.read_eq_ok.mp h₁
  cases hfound : (db.agentsOf ctx.runId).find? (·.role == launch.role) with
  | none =>
      rw [hfound] at h
      obtain ⟨_, db₁, h₂, h⟩ := Tx.bind_eq_ok.mp h
      obtain ⟨intent, db₂, h₃, h⟩ := Tx.bind_eq_ok.mp h
      obtain ⟨-, rfl⟩ := Tx.pure_eq_ok.mp h
      obtain ⟨_, _, h₄, h₅⟩ := Tx.bind_eq_ok.mp h₂
      obtain ⟨-, rfl⟩ := insertAgent_ok h₄
      obtain ⟨-, rfl⟩ := appendEvent_ok h₅
      rw [claimForegroundLaunch_agents h₃]
      refine .hired _ rfl rfl fun row hrow => ?_
      simpa using List.find?_eq_none.mp hfound row hrow
  | some agent =>
      rw [hfound] at h
      have hagent := List.mem_of_find?_eq_some hfound
      have hrole : agent.role = launch.role := by simpa using List.find?_some hfound
      obtain ⟨latest?, _, h₂, h⟩ := Tx.bind_eq_ok.mp h
      obtain ⟨-, rfl⟩ := Tx.read_eq_ok.mp h₂
      obtain ⟨latest, _, h₃, h⟩ := Tx.bind_eq_ok.mp h
      obtain ⟨-, rfl⟩ := Tx.okOr_eq_ok.mp h₃
      split at h
      · obtain ⟨-, rfl⟩ := Tx.pure_eq_ok.mp h
        exact .same
      · next hended =>
          obtain ⟨generation, db₁, h₄, h⟩ := Tx.bind_eq_ok.mp h
          obtain ⟨intent, db₂, h₅, h⟩ := Tx.bind_eq_ok.mp h
          obtain ⟨-, rfl⟩ := Tx.pure_eq_ok.mp h
          rw [claimForegroundLaunch_agents h₅]
          obtain ⟨_, _, h₆, h₇⟩ := Tx.bind_eq_ok.mp h₄
          obtain ⟨-, rfl⟩ := Tx.require_eq_ok.mp h₆
          obtain ⟨started, db₃, h₈, h₉⟩ := Tx.bind_eq_ok.mp h₇
          obtain ⟨_, _, h₁₀, h₁₁⟩ := Tx.bind_eq_ok.mp h₉
          obtain ⟨hstarted, rfl⟩ := Tx.require_eq_ok.mp h₁₀
          obtain ⟨_, _, -, -, -, -, -, rfl⟩ := startAgentGeneration_ok h₈ hstarted
          obtain ⟨_, _, h₁₂, h₁₃⟩ := Tx.bind_eq_ok.mp h₁₁
          obtain ⟨-, rfl⟩ := appendEvent_ok h₁₂
          obtain ⟨-, rfl⟩ := Tx.pure_eq_ok.mp h₁₃
          exact .revived agent _ hagent hrole (by simpa using hended)

/-! ## Every run -/

section Runs

variable {config : EffectiveConfig} {runId : RunId}

/-- A spawn that was admitted keeps the limits. -/
theorem SpawnAdmitted.withinLimits {call : SpawnCall} {spawn : SpawnRequest} {db : Db}
    (hadmitted : SpawnAdmitted config runId call.operationId call.checkedAt spawn db)
    (h : WithinLimits config runId db.agents) :
    WithinLimits config runId
      ((Command.spawnAgent (call.ctx runId) spawn).exec db).agents := by
  have hcases := Command.exec_mutated_cases
    (show (Command.spawnAgent (call.ctx runId) spawn).body = _ from rfl) db
  rcases hcases with hsame | ⟨hnew, json, before, after, h₁, -, h₂, h₃⟩
  · rw [hsame]
    exact h
  · have hbefore : before.agents = db.agents := h₁.writesOnly .agents (by decide)
    have hafter := h₃.writesOnly .agents (by decide)
    have hroom : SpawnRoom config runId spawn.role call.checkedAt db := by
      refine hadmitted.room.resolve_left fun hrecorded => ?_
      have hnone : db.operation call.operationId = none := hnew
      rw [hnone] at hrecorded
      cases hrecorded
    have hlifetime := admissionBudget_room hroom.lifetime
    have hconcurrent := admissionBudget_room hroom.concurrent
    rw [Db.length_agentsOf] at hlifetime
    rw [Db.activeAgents, Db.countP_agentsOf] at hconcurrent
    rw [hafter.trans (spawnAgent_agents h₂), hbefore]
    refine h.hire hlifetime hconcurrent ?_ (.inl hadmitted.role) ?_
    · intro _ _ _ limit hlimit
      have hinstances := hroom.instances
      have hbound : (config.roles[spawn.role]?).bind (·.maxInstances) = some limit := hlimit
      rw [Db.roleBudget, hbound] at hinstances
      have hless := admissionBudget_room hinstances
      rwa [Db.activeInstances, Db.countP_agentsOf] at hless
    · intro hlead hforeground
      obtain ⟨definition, effective, hspawn⟩ := hadmitted.role
      obtain ⟨lead, hlead'⟩ := hforeground
      have hrole : spawn.role = config.archetype.lead := hlead
      rw [hrole] at hspawn
      exact absurd hlead' (lead_not_spawned hspawn)

/-- A foreground launch that was admitted keeps the limits. -/
theorem ForegroundAdmitted.withinLimits {call : ForegroundCall} {launch : ForegroundLaunch}
    {db : Db} (hadmitted : ForegroundAdmitted config runId call.operationId launch db)
    (hkeyed : Table.Keyed (·.id) db.agents) (h : WithinLimits config runId db.agents) :
    WithinLimits config runId
      ((Command.launchForeground (call.ctx runId) launch).exec db).agents := by
  have hcases := Command.exec_mutated_cases
    (show (Command.launchForeground (call.ctx runId) launch).body = _ from rfl) db
  rcases hcases with hsame | ⟨hnew, json, before, after, h₁, -, h₂, h₃⟩
  · rw [hsame]
    exact h
  · have hbefore : before.agents = db.agents := h₁.writesOnly .agents (by decide)
    have hafter := h₃.writesOnly .agents (by decide)
    have hagents : before.agentsOf runId = db.agentsOf runId := by
      unfold Db.agentsOf
      rw [hbefore]
    have hroom : ForegroundRoom config runId launch.role db := by
      refine hadmitted.room.resolve_left fun hrecorded => ?_
      have hnone : db.operation call.operationId = none := hnew
      rw [hnone] at hrecorded
      cases hrecorded
    obtain ⟨lead, hlead⟩ := hadmitted.lead
    have hchange := launchForeground_agents h₂
    rw [← show ((Command.launchForeground (call.ctx runId) launch).exec db).agents = after.agents
      from hafter] at hchange
    generalize hnext : ((Command.launchForeground (call.ctx runId) launch).exec db).agents = agents
      at hchange ⊢
    cases hchange with
    | same =>
        rw [hbefore]
        exact h
    | hired agent hrun hrole hnone =>
        rw [show before.agentsOf (call.ctx runId).runId = db.agentsOf runId from hagents] at hnone
        have hnobody : (db.agentsOf runId).any (·.role == launch.role) = false := by
          rw [List.any_eq_false]
          exact fun row hrow => by simpa using hnone row hrow
        cases hroom with
        | alive agent hagent hrole _ => exact absurd hrole (hnone agent hagent)
        | capacity now hlifetime hconcurrent =>
            have hlife := admissionBudget_room (hlifetime hnobody)
            have hconc := admissionBudget_room hconcurrent
            rw [Db.length_agentsOf] at hlife
            rw [Db.activeAgents, Db.countP_agentsOf] at hconc
            rw [hbefore]
            refine h.hire hlife hconc ?_ (.inr ⟨hrole.trans hadmitted.role, lead, hlead⟩) ?_
            · -- the lead role is no job role
              intro definition hdefinition hjob
              obtain ⟨hdefinition', hinteractive⟩ := foregroundRole_ok hlead
              rw [hrole, hadmitted.role, hdefinition'] at hdefinition
              cases hdefinition
              rw [hjob] at hinteractive
              cases hinteractive
            · intro _ _
              rw [List.countP_eq_zero]
              intro row hrow hcount
              simp only [Bool.and_eq_true, beq_iff_eq] at hcount
              exact hnone row (Db.mem_agentsOf.mpr ⟨hrow, hcount.1⟩)
                (hcount.2.trans hadmitted.role.symm)
    | revived agent generation hagent hrole hended =>
        rw [show before.agentsOf (call.ctx runId).runId = db.agentsOf runId from hagents] at hagent
        rw [hbefore]
        obtain ⟨hmem, hrun⟩ := Db.mem_agentsOf.mp hagent
        cases hroom with
        | alive other hother hrole' halive =>
            -- two agents of the lead role
            obtain ⟨hmem', hrun'⟩ := Db.mem_agentsOf.mp hother
            have hsame : agent = other := Table.eq_of_countP_le_one (h.lead ⟨lead, hlead⟩)
              hmem (by simp [hrun, hrole, hadmitted.role]) hmem'
              (by simp [hrun', hrole', hadmitted.role])
            rw [hsame, halive] at hended
            cases hended
        | capacity now hlifetime hconcurrent =>
            have hconc := admissionBudget_room hconcurrent
            rw [Db.activeAgents, Db.countP_agentsOf] at hconc
            refine h.revive hlead hkeyed hmem (hrole.trans hadmitted.role) ?_ (fun _ => rfl) hconc
            intro row hselected
            simp only [Bool.and_eq_true, beq_iff_eq] at hselected
            exact hselected.1.1

/-- The roster is fenced, and the agents of the run are within its limits. -/
structure Runtime.WithinLimits (rt : Runtime) (config : EffectiveConfig) (runId : RunId) :
    Prop where
  fenced : rt.db.roster.Fenced
  agents : Coterie.WithinLimits config runId rt.db.agents

theorem Acts.withinLimits {rt rt' : Runtime} (h : Acts config runId rt rt')
    (hwithin : rt.WithinLimits config runId) : rt'.WithinLimits config runId := by
  cases h with
  | start sessionId haccepting hstartable => exact ⟨hwithin.fenced, hwithin.agents⟩
  | remember handles power => exact ⟨hwithin.fenced, hwithin.agents⟩
  | commit command hissues =>
      refine ⟨hwithin.fenced.leads (command.exec_rosterMoves rt.db hwithin.fenced), ?_⟩
      have hcalm : command.hires = false →
          Coterie.WithinLimits config runId (command.exec rt.db).agents := fun hno =>
        hwithin.agents.settles ((Command.exec_settles hno rt.db).agents hwithin.fenced)
      cases hissues with
      | spawnAgent call spawn hadmitted => exact hadmitted.withinLimits hwithin.agents
      | launchForeground call launch hadmitted =>
          exact hadmitted.withinLimits hwithin.fenced.agents hwithin.agents
      | alone command halone =>
          exact hcalm (by cases command <;> first | rfl | cases halone)
      | launch command hlaunches =>
          refine hcalm ?_
          cases command
          case persistLaunchIntent launch agentExists assignmentId =>
            simp only [Command.launches, Bool.and_eq_true] at hlaunches
            rw [hlaunches.1]
            rfl
          all_goals first | rfl | cases hlaunches
      | _ => exact hcalm rfl

/-! ## Agents that have ended -/

/-- The roster moves on, and no agent of some roles that has ended comes alive. -/
structure Db.KeepsEnded (roles : String → Prop) (db db' : Db) : Prop where
  moves : db.RosterMoves db'
  ended : db.roster.Fenced → ∀ agent ∈ db.agents, roles agent.role →
    agent.state.isTerminal = true →
      ∃ agent' ∈ db'.agents, agent'.identity = agent.identity ∧ agent'.state.isTerminal = true

instance (roles : String → Prop) : Std.Refl (Db.KeepsEnded roles) where
  refl db := ⟨Std.Refl.refl db, fun _ agent hagent _ hended => ⟨agent, hagent, rfl, hended⟩⟩

instance (roles : String → Prop) : IsTrans Db (Db.KeepsEnded roles) where
  trans a b c hab hbc := by
    refine ⟨IsTrans.trans _ _ _ hab.moves hbc.moves, ?_⟩
    intro hfenced agent hagent hrole hended
    obtain ⟨between, hbetween, hidentity, hended⟩ := hab.ended hfenced agent hagent hrole hended
    have hsame : between.role = agent.role := congrArg AgentIdentity.role hidentity
    obtain ⟨agent', hagent', hidentity', hended⟩ :=
      hbc.ended (hfenced.leads (hab.moves hfenced)) between hbetween (hsame ▸ hrole) hended
    exact ⟨agent', hagent', hidentity'.trans hidentity, hended⟩

theorem Db.Settles.keepsEnded {db db' : Db} (h : db.Settles db') (roles : String → Prop) :
    db.KeepsEnded roles db' := by
  refine ⟨h.moves, fun hfenced agent hagent _ hended => ?_⟩
  obtain ⟨agent', hagent', hsettles⟩ := Table.exists_mem_forall₂ (h.agents hfenced) hagent
  exact ⟨agent', hagent', hsettles.identity, hsettles.ended hended⟩

theorem calm_keepsEnded (roles : String → Prop) : Calm (Db.KeepsEnded roles) :=
  fun _ db hcalm => (Command.exec_settles hcalm db).keepsEnded roles

/-- A spawn records an agent and leaves the others alone. -/
theorem spawnAgent_keepsEnded (ctx : RequestContext) (spawn : SpawnRequest)
    (roles : String → Prop) (db : Db) :
    db.KeepsEnded roles ((Command.spawnAgent ctx spawn).exec db) := by
  refine ⟨(Command.spawnAgent ctx spawn).exec_rosterMoves db, ?_⟩
  intro _ agent hagent _ hended
  refine ⟨agent, ?_, rfl, hended⟩
  have hcases := Command.exec_mutated_cases
    (show (Command.spawnAgent ctx spawn).body = _ from rfl) db
  rcases hcases with hsame | ⟨-, json, before, after, h₁, -, h₂, h₃⟩
  · rwa [hsame]
  · have hbefore : before.agents = db.agents := h₁.writesOnly .agents (by decide)
    rw [h₃.writesOnly .agents (by decide), spawnAgent_agents h₂, hbefore]
    exact List.mem_append_left _ hagent

/-- A foreground launch revives nobody when it is recorded already, and at most the agent of its
    role otherwise. -/
theorem launchForeground_keepsEnded {ctx : RequestContext} {launch : ForegroundLaunch}
    {roles : String → Prop} {db : Db}
    (hspared : db.operation ctx.operationId = none → ¬ roles launch.role) :
    db.KeepsEnded roles ((Command.launchForeground ctx launch).exec db) := by
  refine ⟨(Command.launchForeground ctx launch).exec_rosterMoves db, ?_⟩
  intro hfenced agent hagent hrole hended
  refine ⟨agent, ?_, rfl, hended⟩
  have hcases := Command.exec_mutated_cases
    (show (Command.launchForeground ctx launch).body = _ from rfl) db
  rcases hcases with hsame | ⟨hnew, json, before, after, h₁, -, h₂, h₃⟩
  · rwa [hsame]
  · have hbefore : before.agents = db.agents := h₁.writesOnly .agents (by decide)
    have hother : agent.role ≠ launch.role := fun heq => hspared hnew (heq ▸ hrole)
    have hchange := launchForeground_agents h₂
    rw [h₃.writesOnly .agents (by decide)]
    rw [← hbefore] at hagent
    generalize after.agents = agents at hchange ⊢
    cases hchange with
    | same => exact hagent
    | hired => exact List.mem_append_left _ hagent
    | revived revived generation hrevived hrole' _ =>
        -- the update selects the revived agent by its ID, which no other agent has
        refine Table.mem_updateWhere_of_neg hagent (Bool.eq_false_iff.mpr fun hselected => ?_)
        simp only [Bool.and_eq_true, beq_iff_eq] at hselected
        have hkeyed : Table.Keyed (·.id) before.agents := hbefore ▸ hfenced.agents
        have hsame : agent = revived := hkeyed.eq_of_key_eq hagent
          (Db.mem_agentsOf.mp hrevived).1 hselected.1.1
        exact hother (hsame ▸ hrole')

/-- An agent that has ended stays so, unless the step launches the foreground agent anew. -/
theorem keepsEnded_step (step : SupervisorStep) (rt : Runtime) :
    rt.db.KeepsEnded
      (fun role => ∀ call, step.input = .launchForeground call →
        rt.db.operation call.operationId = none → role ≠ config.archetype.lead)
      ((supervisorMachine config runId).step step rt).db := by
  refine keeps_step (calm_keepsEnded _) step rt ?_ ?_
  · intro call host spawn _ _
    exact spawnAgent_keepsEnded _ _ _ _
  · intro call launch hinput hchecked
    refine launchForeground_keepsEnded fun hnew hspared => ?_
    exact hspared call hinput hnew (admitForeground_request (Prod.ext hchecked rfl)).1

/-! ## The limits -/

/-- In every run of the supervisor, cut off anywhere and continued after restarts, with any
    effective configuration, the agents of the run are within its limits: all of them, those that
    are not terminal, those of one job role that are not terminal.  An agent has the lead role or an
    enabled role of background agents.  One that has ended comes alive in no step but a foreground
    launch that was not recorded before, and then only as the agent of the lead role. -/
theorem admission_limits_hold (config : EffectiveConfig) (runId : RunId)
    (steps : List SupervisorStep) :
    (((supervisorMachine config runId).run steps).db.agentsOf runId).length ≤
        config.limits.maxAgentsPerRun ∧
      ((supervisorMachine config runId).run steps).db.activeAgents runId ≤
        config.limits.maxConcurrentAgents ∧
      (∀ role definition, config.archetype.role role = some definition → definition.mode = .job →
        ∀ limit, (config.roles[role]?).bind (·.maxInstances) = some limit →
          ((supervisorMachine config runId).run steps).db.activeInstances runId role ≤ limit) ∧
      (∀ agent ∈ ((supervisorMachine config runId).run steps).db.agentsOf runId,
        (∃ definition effective, spawnRole config agent.role = .ok (definition, effective)) ∨
          agent.role = config.archetype.lead ∧
            ∃ definition, foregroundRole config = .ok definition) ∧
      ∀ step, ∀ agent ∈ ((supervisorMachine config runId).run steps).db.agents,
        agent.state.isTerminal = true →
          (∃ agent' ∈ ((supervisorMachine config runId).run (steps ++ [step])).db.agents,
            agent'.identity = agent.identity ∧ agent'.state.isTerminal = true) ∨
          agent.role = config.archetype.lead ∧ ∃ call, step.input = .launchForeground call ∧
            ((supervisorMachine config runId).run steps).db.operation call.operationId = none := by
  obtain ⟨hfenced, hwithin⟩ := (acting_run config runId steps).invariant
    (I := fun rt => rt.WithinLimits config runId) (fun _ _ hacts => hacts.withinLimits)
    ⟨Roster.fenced_empty, withinLimits_nil config runId⟩
  have hkeeps := fun step => @keepsEnded_step config runId step
    ((supervisorMachine config runId).run steps)
  simp only [Machine.run_append, Machine.runFrom_cons, Machine.runFrom_nil]
  generalize (supervisorMachine config runId).run steps = rt at *
  generalize rt.db = db at hwithin hfenced hkeeps ⊢
  refine ⟨?_, ?_, ?_, ?_, ?_⟩
  · rw [Db.length_agentsOf]
    exact hwithin.lifetime
  · rw [Db.activeAgents, Db.countP_agentsOf]
    exact hwithin.concurrent
  · intro role definition hdefinition hjob limit hlimit
    rw [Db.activeInstances, Db.countP_agentsOf]
    exact hwithin.instances role definition hdefinition hjob limit hlimit
  · intro agent hagent
    obtain ⟨hmem, hrun⟩ := Db.mem_agentsOf.mp hagent
    exact hwithin.employed agent hmem hrun
  · intro step agent hagent hended
    by_cases hnew : agent.role = config.archetype.lead ∧ ∃ call,
        step.input = .launchForeground call ∧ db.operation call.operationId = none
    · exact .inr hnew
    · refine .inl ((hkeeps step).ended hfenced agent hagent ?_ hended)
      exact fun call hinput hnone hlead => hnew ⟨hlead, call, hinput, hnone⟩

end Runs

end Coterie
