/-
  Coterie.Supervisor.Hiring

  Who is hired in a run.  A request hires at most the agent that it names: a spawn one of the role
  it asks for, a foreground launch one of the lead role.  A request that is refused or recorded
  already hires nobody, nor does a launch whose role has an agent (`SupervisorInput.hire?`).  The
  transaction that records the request writes the agent; every other transaction of the supervisor
  keeps the agents who they are.

  `keeps_program` is the rule for the programs: a relation that survives the transactions that hire
  nobody, and the one that may, survives every program, cut off at any point.
-/

import Coterie.Supervisor.Supervised

namespace Coterie

/-! ## Hiring -/

/-- The agent that a request asks for. -/
structure Hire where
  agentId : AgentId
  role : String
  now : Int
deriving DecidableEq, Repr

/-- The identity of the agent once it is recorded. -/
def Hire.identity (hire : Hire) (runId : RunId) : AgentIdentity where
  id := hire.agentId
  runId := runId
  role := hire.role
  createdAt := hire.now

/-- The agents are the same, or the new one was recorded behind them. -/
def Db.Hires (runId : RunId) (hire : Option Hire) (db db' : Db) : Prop :=
  db'.identities = db.identities ∨
    ∃ asked ∈ hire, (∀ agent ∈ db.identities, agent.id ≠ asked.agentId) ∧
      db'.identities = db.identities ++ [asked.identity runId]

section Hires

variable {runId : RunId} {hire : Option Hire}

instance : Std.Refl (Db.Hires runId hire) where
  refl _ := .inl rfl

/-- An agent that is recorded is not recorded once more. -/
instance : IsTrans Db (Db.Hires runId hire) where
  trans := by
    rintro a b c (hab | ⟨asked, hasked, hnew, hab⟩) (hbc | ⟨asked', hasked', hnew', hbc⟩)
    · exact .inl (hbc.trans hab)
    · refine .inr ⟨asked', hasked', ?_, ?_⟩
      · rwa [← hab]
      · rw [hbc, hab]
    · exact .inr ⟨asked, hasked, hnew, hbc.trans hab⟩
    · obtain rfl : asked = asked' := Option.some.inj (hasked.symm.trans hasked')
      refine absurd rfl (hnew' (asked.identity runId) ?_)
      rw [hab]
      exact List.mem_append_right _ List.mem_cons_self

end Hires

/-- The identities are part of the scopes. -/
theorem Db.identities_of_scopes {db db' : Db}
    (h : db'.agents.map (·.scope) = db.agents.map (·.scope)) : db'.identities = db.identities := by
  have hfirst := congrArg (List.map Prod.fst) h
  rw [List.map_map, List.map_map] at hfirst
  exact hfirst

/-- Transactions outside of the agents' scopes hire nobody. -/
theorem hires_of_written {runId : RunId} {hire : Option Hire} {tables : List TableName}
    (hno : .agentScopes ∉ tables) {db db' : Db} (h : Written tables db db') :
    Db.Hires runId hire db db' :=
  .inl (Db.identities_of_scopes (h.writesOnly .agentScopes hno))

namespace Command

/-- The transactions that may record an agent. -/
def hires : Command → Bool
  | .spawnAgent .. | .launchForeground .. => true
  | .persistLaunchIntent _ agentExists _ => !agentExists
  | _ => false

/-- A transaction that hires nobody keeps the agents who they are. -/
theorem exec_identities {command : Command} (h : command.hires = false) (db : Db) :
    (command.exec db).identities = db.identities := by
  have hcalm : .agentScopes ∉ command.writes →
      (command.exec db).identities = db.identities := fun hno =>
    Db.identities_of_scopes (command.exec_writesOnly db .agentScopes hno)
  cases command
  case spawnAgent => cases h
  case launchForeground => cases h
  case persistLaunchIntent launch agentExists assignmentId =>
    have hexists : agentExists = true := by simpa [hires] using h
    subst hexists
    have hbody : Tx.Keeps (Written [.sessions, .sessionScopes, .sessionCredentials, .assignments,
        .events]) (Coterie.persistLaunchIntent launch true assignmentId) := by
      refine .bind (.require _ _) fun _ => .bind (writes_openSession _ _) fun _ =>
        .bind (writes_appendEvent _ rfl) fun _ => ?_
      cases assignmentId with
      | none => exact .pure _
      | some id => exact writes_associateLaunchAssignment _ _
    have hwritten := Tx.Keeps.transaction hbody db
    exact Db.identities_of_scopes (hwritten.writesOnly .agentScopes (by decide))
  all_goals exact hcalm (by dsimp only [writes]; decide)

/-- A mutation is replayed and leaves the database alone, or records its request, runs its closure
    and records the result. -/
theorem exec_mutated_eq {mutation : Mutation} {requestFingerprint : Option String}
    {apply : Repo JsonValue} {command : Command}
    (hbody : command.body = mutated mutation requestFingerprint apply) (db : Db) :
    command.exec db = db ∨ db.operation mutation.id = none ∧
      ∃ json before after, Written [.operations, .launches, .outcomes] db before ∧
        before = (db.pushOperation mutation.pendingOperation).updateOperation mutation.id
          (·.setFingerprint requestFingerprint) ∧
        apply.run before = (.ok json, after) ∧
        command.exec db =
          after.updateOperation mutation.id (·.succeed json mutation.createdAt) := by
  unfold exec
  rw [hbody]
  rcases Tx.transaction_cases (mutated mutation requestFingerprint apply) db with
    ⟨u, db', hrun, hok⟩ | ⟨e, -, herror⟩
  · rw [hok]
    obtain ⟨outcome, db₁, hmutation, hrest⟩ := Tx.bind_eq_ok.mp hrun
    obtain ⟨-, rfl⟩ := Tx.pure_eq_ok.mp hrest
    obtain ⟨found, _, hfound, hmutation⟩ := Tx.bind_eq_ok.mp hmutation
    obtain ⟨hrecorded, rfl⟩ := Tx.read_eq_ok.mp hfound
    cases found with
    | some existing =>
        have hreplay := keeps_replayOperation .json mutation requestFingerprint existing
        exact .inl (hreplay.of_ok hmutation).symm
    | none =>
        obtain ⟨_, db₂, hinsert, hmutation⟩ := Tx.bind_eq_ok.mp hmutation
        obtain ⟨_, db₃, hfingerprint, hmutation⟩ := Tx.bind_eq_ok.mp hmutation
        obtain ⟨json, db₄, happly, hmutation⟩ := Tx.bind_eq_ok.mp hmutation
        obtain ⟨encoded, _, hencode, hmutation⟩ := Tx.bind_eq_ok.mp hmutation
        obtain ⟨hjson, rfl⟩ := Tx.ofExcept_eq_ok.mp hencode
        obtain rfl : json = encoded := Except.ok.inj hjson
        obtain ⟨_, db₅, hsucceed, hmutation⟩ := Tx.bind_eq_ok.mp hmutation
        obtain ⟨-, rfl⟩ := Tx.pure_eq_ok.mp hmutation
        obtain rfl := Tx.write_eq_ok.mp hfingerprint
        obtain rfl := Tx.write_eq_ok.mp hsucceed
        have hopened : Written [.operations, .launches, .outcomes] db db₂ :=
          (writes_insertOperation _ (.inr Listed.mem)).of_ok hinsert
        have hlabel : ∀ row : OperationRow,
            row.SameRequest (row.setFingerprint requestFingerprint) :=
          fun _ => ⟨⟨rfl, rfl, rfl, rfl⟩, rfl⟩
        have hlabeled : Written [.operations, .launches, .outcomes] db₂
            (db₂.updateOperation mutation.id (·.setFingerprint requestFingerprint)) :=
          written_settleOperation db₂ _ hlabel
        refine .inr ⟨hrecorded, json, _, db₄, hopened.trans hlabeled, ?_, happly, rfl⟩
        rw [insertOperation_ok hinsert]
  · rw [herror]
    exact .inl rfl

/-- A mutation between two writes to the operation table. -/
theorem exec_mutated_cases {mutation : Mutation} {requestFingerprint : Option String}
    {apply : Repo JsonValue} {command : Command}
    (hbody : command.body = mutated mutation requestFingerprint apply) (db : Db) :
    command.exec db = db ∨ db.operation mutation.id = none ∧
      ∃ json before after, Written [.operations, .launches, .outcomes] db before ∧
        before.launchRequests = (db.pushOperation mutation.pendingOperation).launchRequests ∧
        apply.run before = (.ok json, after) ∧
        Written [.operations, .outcomes] after (command.exec db) := by
  rcases exec_mutated_eq hbody db with
    hsame | ⟨hnone, json, before, after, hwritten, hbefore, happly, hexec⟩
  · exact .inl hsame
  · refine .inr ⟨hnone, json, before, after, hwritten, ?_, happly, ?_⟩
    · rw [hbefore]
      exact Db.launchRequests_updateOperation fun _ => ⟨⟨rfl, rfl, rfl, rfl⟩, rfl⟩
    · rw [hexec]
      exact written_settleOperation after _ fun _ => ⟨⟨rfl, rfl, rfl, rfl⟩, rfl⟩

/-- A mutation whose closure may hire an agent, when the operation is not recorded yet. -/
theorem exec_mutated_hires {runId : RunId} {hire : Option Hire} {mutation : Mutation}
    {requestFingerprint : Option String} {apply : Repo JsonValue} {command : Command}
    (hbody : command.body = mutated mutation requestFingerprint apply) {db : Db}
    (happly : db.operation mutation.id = none → ∀ json before after,
      before.agents = db.agents → apply.run before = (.ok json, after) →
        Db.Hires runId hire before after) :
    Db.Hires runId hire db (command.exec db) := by
  rcases exec_mutated_cases hbody db with
    hsame | ⟨hnew, json, before, after, hbefore, -, hrun, hafter⟩
  · rw [hsame]
    exact Std.Refl.refl _
  · have h₁ : Db.Hires runId hire db before := hires_of_written (by decide) hbefore
    have h₂ : Db.Hires runId hire before after :=
      happly hnew json before after (hbefore.writesOnly .agents (by decide)) hrun
    have h₃ : Db.Hires runId hire after (command.exec db) := hires_of_written (by decide) hafter
    exact IsTrans.trans _ _ _ (IsTrans.trans _ _ _ h₁ h₂) h₃

end Command

theorem insertAgent_hires {runId : RunId} {asked : Hire} {agent : AgentRecord}
    (hagent : agent.identity = asked.identity runId) :
    Tx.Ensures (Db.Hires runId (some asked)) (insertAgent agent) := by
  intro db u db' h
  obtain ⟨hnew, rfl⟩ := insertAgent_ok h
  refine .inr ⟨asked, rfl, ?_, ?_⟩
  · intro row hrow
    obtain ⟨recorded, hrecorded, rfl⟩ := List.mem_map.mp hrow
    have hid : agent.id = asked.agentId := congrArg AgentIdentity.id hagent
    rw [← hid]
    exact hnew recorded hrecorded
  · unfold Db.identities
    rw [List.map_append, List.map_singleton, hagent]

theorem hires_of_writes {runId : RunId} {hire : Option Hire} {α : Type} {x : Repo α}
    (tables : List TableName) (hno : .agentScopes ∉ tables) (h : Tx.Keeps (Written tables) x) :
    Tx.Ensures (Db.Hires runId hire) x :=
  fun _ _ _ hrun => hires_of_written hno (h.of_ok hrun)

/-- A spawn that is not recorded yet hires the agent that it asks for. -/
theorem spawnAgent_hires (ctx : RequestContext) (spawn : SpawnRequest) (db : Db) :
    Db.Hires ctx.runId
      ((some ⟨spawn.agentId, spawn.role, ctx.now⟩).filter fun _ =>
        (db.operation ctx.operationId).isNone) db
      ((Command.spawnAgent ctx spawn).exec db) := by
  refine Command.exec_mutated_hires rfl fun hnew json before after _ hrun => ?_
  rw [show db.operation ctx.operationId = none from hnew]
  refine (Tx.Ensures.seq (insertAgent_hires rfl) fun _ => ?_) _ _ _ hrun
  refine hires_of_writes [.operations, .tasks, .claims, .assignments, .assignmentScopes,
    .workspaces, .events, .continuations] (by decide) ?_
  refine .bind (writes_appendEvent _ rfl) fun _ => .bind (writes_compareAndSetClaim _)
    fun result => .bind (writes_appendTaskClaimEvents _ _) fun _ => ?_
  cases result with
  | rejected reason => exact .throw _
  | claimed claimId assignmentId =>
      exact .bind (writes_insertSpawnWorkspace _ _) fun _ =>
        .bind (writes_markOperationReconciliationDesired _) fun _ => .pure _

/-- A replaced agent stays who it is. -/
theorem startAgentGeneration_hires {hire : Option Hire} (runId run : RunId) (agentId : AgentId)
    (current next : Int) :
    Tx.Ensures (Db.Hires runId hire) (startAgentGeneration run agentId current next) := by
  have hkeeps : Tx.Keeps (Db.Hires runId hire)
      (startAgentGeneration run agentId current next) := by
    refine .bind (.read _) fun found => ?_
    cases found with
    | none => exact .pure _
    | some agent =>
        refine .ite (.pure _) (.bind (.write fun db => .inl ?_) fun _ => .pure _)
        unfold Db.identities
        rw [Table.map_updateWhere]
        exact fun _ _ => rfl
  exact .of_keeps hkeeps fun _ _ h => h

/-- A foreground launch that is not recorded yet hires an agent when the role has none. -/
theorem launchForeground_hires (ctx : RequestContext) (launch : ForegroundLaunch) (db : Db) :
    Db.Hires ctx.runId
      ((some ⟨launch.agentId, launch.role, ctx.now⟩).filter fun _ =>
        (db.operation ctx.operationId).isNone &&
          ((db.agentsOf ctx.runId).find? (·.role == launch.role)).isNone) db
      ((Command.launchForeground ctx launch).exec db) := by
  refine Command.exec_mutated_hires rfl fun hnew json before after hagents hrun => ?_
  have hclaim : ∀ hire scope, Tx.Ensures (Db.Hires ctx.runId hire)
      (claimForegroundLaunch ctx launch scope) := fun hire scope =>
    hires_of_writes [.operations, .sessions, .sessionScopes, .sessionCredentials, .events]
      (by decide) (writes_claimForegroundLaunch _ _ _)
  have hread : before.agentsOf ctx.runId = db.agentsOf ctx.runId := by
    rw [Db.agentsOf, hagents]
    rfl
  obtain ⟨agents, _, hfound, hrun⟩ := Tx.bind_eq_ok.mp hrun
  obtain ⟨rfl, rfl⟩ := Tx.read_eq_ok.mp hfound
  rw [show db.operation ctx.operationId = none from hnew, ← hread]
  cases hrole : (before.agentsOf ctx.runId).find? (·.role == launch.role) with
  | none =>
      -- the role has no agent yet, and the launch inserts one
      rw [hrole] at hrun
      refine (Tx.Ensures.seq (.seq (insertAgent_hires rfl) fun _ => hires_of_writes [.events]
        (by decide) (writes_appendEvent _ rfl)) fun _ => .seq (hclaim _ _) fun _ => .pure _)
          _ _ _ hrun
  | some agent =>
      -- the agent of the role starts another generation
      rw [hrole] at hrun
      refine (Tx.Ensures.seq (.read _) fun _ => .seq (.okOr _ _) fun _ => .ite (.pure _) ?_)
        _ _ _ hrun
      refine .seq (.seq (.require _ _) fun _ => .seq (startAgentGeneration_hires _ _ _ _ _) fun _ =>
        .seq (.require _ _) fun _ => .seq ?_ fun _ => .pure _) fun _ =>
          .seq (hclaim _ _) fun _ => .pure _
      exact hires_of_writes [.events] (by decide) (writes_appendEvent _ rfl)

/-! ## Programs -/

section Programs

variable {config : EffectiveConfig} {runId : RunId} {α : Type} {R : Db → Db → Prop} [Std.Refl R]
  [IsTrans Db R]

/-- The relation survives every transaction that hires nobody. -/
def Calm (R : Db → Db → Prop) : Prop :=
  ∀ (command : Command) (db : Db), command.hires = false → R db (command.exec db)

omit [IsTrans Db R] in
/-- A transaction leaves what its command leaves, or nothing. -/
theorem keeps_transact {x : Repo α} {command : Command} (hcommits : Commits x command)
    (h : ∀ db, R db (command.exec db)) : Tx.Keeps (onDb R) (transact x) := by
  intro rt
  obtain ⟨db, power, hrun, rfl | rfl⟩ := transact_runtime hcommits rt
  · rw [hrun]
    exact Std.Refl.refl rt.db
  · rw [hrun]
    exact h rt.db

omit [IsTrans Db R] in
theorem keeps_calm (hR : Calm R) (command : Command) {x : Repo α} (hcommits : Commits x command)
    (hcalm : command.hires = false) : Tx.Keeps (onDb R) (transact x) :=
  keeps_transact hcommits fun db => hR command db hcalm

/-- What stands outside of the database may change. -/
theorem keeps_startProvider (scope : SessionScope) (host : SpawnHost) :
    Tx.Keeps (onDb R) (startProvider scope host) := by
  refine .bind (onDb_act fun _ => rfl) fun _ => ?_
  cases (launchJob host.job scope).result with
  | error error => exact .pure _
  | ok handle =>
      exact .ite (.pure _) (.bind (.write fun rt => Std.Refl.refl rt.db) fun _ => .pure _)

omit [IsTrans Db R] in
theorem keeps_recordUnobservedStart (hR : Calm R) (launch : AgentLaunch) (attemptedAt : Int)
    (policy : SupervisionPolicy) (error : AgentSessionError) :
    Tx.Keeps (onDb R) (recordUnobservedStart launch attemptedAt policy error) := by
  have hrecord : ∀ state lifecycle time, Tx.Keeps (onDb R)
      (transact (recordReconciliationIn launch.scope state lifecycle time)) := fun _ _ _ =>
    keeps_calm hR (.recordReconciliation _ _ _ _) (fun _ => rfl) rfl
  cases error with
  | scopeMismatch => exact hrecord _ _ _
  | provider failure =>
      exact .ite (keeps_calm hR (.recordFailedLaunch _ _ _) (fun _ => rfl) rfl) (hrecord _ _ _)
  | _ => exact hrecord _ _ _

theorem keeps_startAndRecord (hR : Calm R) (launch : AgentLaunch) (attemptedAt : Int)
    (policy : SupervisionPolicy) (host : SpawnHost) :
    Tx.Keeps (onDb R) (startAndRecord launch attemptedAt policy host) := by
  refine .bind (keeps_calm hR (.admitSessionLaunch _ _ _) (commits_of_discard rfl) rfl) fun _ =>
    .bind (.ofExcept _) fun _ =>
      .bind (keeps_calm hR (.replaceDesiredSessionCredential _) (fun _ => rfl) rfl) fun _ =>
        .bind (keeps_startProvider _ _) fun started => ?_
  cases started with
  | error error => exact .bind (keeps_recordUnobservedStart hR _ _ _ _) fun _ => .throw _
  | ok _ =>
      exact keeps_recordRegisteredLaunch _ _ fun _ _ =>
        keeps_calm hR (.recordLaunchObservation _ _ _) (fun _ => rfl) rfl

theorem keeps_ensureExistingLaunch (hR : Calm R) (launch : AgentLaunch)
    (assignmentId : AssignmentId) (attemptedAt : Int) (policy : SupervisionPolicy)
    (host : SpawnHost) :
    Tx.Keeps (onDb R) (ensureExistingLaunch launch assignmentId attemptedAt policy host) := by
  refine .bind (onDb_consult _) fun found => ?_
  cases found with
  | none =>
      exact .bind (.ofExcept _) fun _ => .bind (.ofExcept _) fun _ =>
        .bind (keeps_calm hR (.persistLaunchIntent _ true (some assignmentId)) (fun _ => rfl) rfl)
          fun _ => keeps_startAndRecord hR _ _ _ _
  | some session =>
      refine .bind (.ofExcept _) fun provider => .bind (.require _ _) fun _ => ?_
      split
      · exact .ite (.throw _) (.pure _)
      · refine .bind (.ofExcept _) fun _ => .bind (.read _) fun handle => ?_
        cases handle with
        | some handle =>
            exact keeps_recordRegisteredLaunch _ _ fun _ _ =>
              keeps_calm hR (.recordLaunchObservation _ _ _) (fun _ => rfl) rfl
        | none => exact keeps_startAndRecord hR _ _ _ _
      · exact .throw _
      · exact .throw _

theorem keeps_drainAvailableEvents (hR : Calm R) (sessionId : SessionId) (observedAt : Int)
    (policy : SupervisionPolicy) (drained : Except AgentSessionError Unit)
    (events : List SessionObservation) :
    Tx.Keeps (onDb R) (drainAvailableEvents sessionId observedAt policy drained events) := by
  induction events with
  | nil =>
      exact .bind (.read _) fun _ => .bind (.okOr _ _) fun _ => .bind (onDb_consult _) fun _ =>
        .ite (.ofExcept _) (.pure _)
  | cons observation rest ih =>
      refine .bind (.read _) fun _ => .bind (.okOr _ _) fun handle => .bind (onDb_consult _)
        fun _ => .ite (.bind ?_ fun _ => ih) (.pure _)
      exact keeps_calm hR (.recordObservation _ _ _ _) (fun _ => rfl) rfl

theorem keeps_materialize (hR : Calm R) (scope : AssignmentScope)
    (answer : Except String ExternalResourceState) (reconciledAt : Int) :
    Tx.Keeps (onDb R) (materialize scope answer reconciledAt) := by
  refine .bind (onDb_query _) fun ⟨workspace, _⟩ => ?_
  have hrecord : ∀ state, Tx.Keeps (onDb R)
      (transact (recordWorkspaceState workspace state reconciledAt)) := fun _ =>
    keeps_calm hR (.recordWorkspaceState _ _ _) (fun _ => rfl) rfl
  cases answer with
  | error message => exact .bind (hrecord _) fun _ => .throw _
  | ok state => exact .bind (hrecord _) fun _ => .pure _

/-- Completing a recorded spawn hires nobody. -/
theorem keeps_attemptSpawnOperation (hR : Calm R) (completion : SpawnCompletion)
    (host : SpawnHost) :
    Tx.Keeps (onDb R) (attemptSpawnOperation config runId completion host) := by
  refine .bind (.require _ _) fun _ => .tryCatch ?_ fun failure => ?_
  · refine .bind (onDb_consult _) fun _ => .bind (.okOr _ _) fun workspace =>
      .bind (.require _ _) fun _ => .bind (onDb_consult _) fun _ => .ite (.pure _) ?_
    exact .bind (.require _ _) fun _ => .bind (keeps_materialize hR _ _ _) fun _ =>
      .bind (.require _ _) fun _ => .bind (keeps_ensureExistingLaunch hR _ _ _ _ _) fun _ =>
        .bind (keeps_drainAvailableEvents hR _ _ _ _ _) fun _ =>
          keeps_calm hR (.completeSpawn _ _) (fun _ => rfl) rfl
  · exact .bind (keeps_calm hR (.recordSpawnFailure _ _ _ _ _ _ _) (fun _ => rfl) rfl)
      fun _ => .throw _

omit [IsTrans Db R] in
theorem keeps_reconcileAs (hR : Calm R) (operation : OperationRow) (state : ExternalResourceState)
    (error : Option String) (reconciledAt : Int) :
    Tx.Keeps (onDb R) (reconcileAs operation state error reconciledAt) :=
  keeps_calm hR (.recordOperationState _ _ _ _) (fun _ => rfl) rfl

theorem keeps_retrySpawn (hR : Calm R) (operation : OperationRow) (intent : SpawnIntent)
    (host : SpawnHost) (reconciledAt : Int) :
    Tx.Keeps (onDb R) (retrySpawn config runId operation intent host reconciledAt) := by
  unfold retrySpawn
  split
  · exact keeps_reconcileAs hR _ _ _ _
  · split
    · exact keeps_reconcileAs hR _ _ _ _
    · exact keeps_reconcileAs hR _ _ _ _
    · exact .tryCatch (keeps_attemptSpawnOperation hR _ _) fun _ => .pure _

theorem keeps_reconcileSpawnOperation (hR : Calm R) (operation : OperationRow) (host : SpawnHost)
    (reconciledAt : Int) :
    Tx.Keeps (onDb R) (reconcileSpawnOperation config runId operation host reconciledAt) := by
  unfold reconcileSpawnOperation
  split
  · exact keeps_reconcileAs hR _ _ _ _
  · refine .bind (onDb_consult _) fun found => ?_
    cases found with
    | none =>
        exact .bind (onDb_consult _) fun _ => .ite (.pure _) (keeps_retrySpawn hR _ _ _ _)
    | some session =>
        refine .ite (keeps_reconcileAs hR _ _ _ _) (.ite (.ite (.pure _) ?_) ?_)
        · exact keeps_reconcileAs hR _ _ _ _
        · exact keeps_retrySpawn hR _ _ _ _

theorem keeps_reconcileOperations (hR : Calm R) (hosts : OperationId → SpawnHost)
    (reconciledAt : Int) :
    Tx.Keeps (onDb R) (reconcileOperations config runId hosts reconciledAt) := by
  refine .bind (onDb_consult _) fun operations => .bind (onDb_consult _) fun stopping =>
    Tx.Keeps.each (fun operation => ?_) operations
  refine .ite (.pure _) (.ite (.pure _) (.ite ?_ (.ite ?_ ?_)))
  · exact keeps_reconcileForegroundOperation _ _ fun _ _ => keeps_reconcileAs hR _ _ _ _
  · exact keeps_reconcileSpawnOperation hR _ _ _
  · exact keeps_reconcileAs hR _ _ _ _

theorem keeps_requestStop (hR : Calm R) (operationId : OperationId) (nowMs : Int) :
    Tx.Keeps (onDb R) (requestStop config runId operationId nowMs) := by
  refine .bind (onDb_consult _) fun recovered => .bind (.ofExcept _) fun result => ?_
  cases result with
  | some response => exact .pure _
  | none =>
      exact .bind (keeps_calm hR (.beginRunShutdown _ _ _ _ _) (fun _ => rfl) rfl) fun _ =>
        .bind (onDb_consult _) fun _ => .ite (.pure _) (.pure _)

theorem keeps_completeStop (hR : Calm R) (operationId : OperationId) (stoppedAt : Int) :
    Tx.Keeps (onDb R) (completeStop runId operationId stoppedAt) := by
  refine .bind (onDb_consult _) fun found => ?_
  cases found with
  | some shutdown =>
      exact .ite (.throw _) (.ite (.pure _)
        (.bind (keeps_calm hR (.persistShutdown _ _ _) (fun _ => rfl) rfl) fun _ => .pure _))
  | none =>
      exact .bind (keeps_calm hR (.stopRunAtOnce _) (fun _ => rfl) rfl) fun _ => .pure _

theorem keeps_inspectWorkspace (hR : Calm R) (observe : WorkspaceRecord → ExternalResourceState)
    (reconciledAt : Int) (workspace : WorkspaceRecord) :
    Tx.Keeps (onDb R) (inspectWorkspace observe reconciledAt workspace) := by
  refine .bind (.read _) fun found => ?_
  split
  · exact .pure _
  · exact .throw _
  · exact keeps_calm hR (.recordWorkspaceState _ _ _) (fun _ => rfl) rfl

theorem keeps_progressShutdown (hR : Calm R) (host : ShutdownHost) :
    Tx.Keeps (onDb R) (progressShutdown runId host) := by
  have hphase : ∀ phase, Tx.Keeps (onDb R) (transact (setShutdownPhase runId phase host.nowMs)) :=
    fun _ => keeps_calm hR (.setShutdownPhase _ _ _) (fun _ => rfl) rfl
  refine .bind (onDb_consult _) fun found => ?_
  cases found with
  | none => exact .pure _
  | some shutdown =>
      refine .ite (.pure _) (.bind (onDb_consult _) fun live => .ite ?_ ?_)
      · refine .bind (hphase _) fun _ => .bind (.bind (onDb_consult _) fun workspaces => ?_)
          fun _ => .bind (keeps_completeStop hR _ _) fun _ => .pure _
        exact Tx.Keeps.each (keeps_inspectWorkspace hR _ _) workspaces
      · exact .bind (hphase _) fun _ => .ite (.throw _) (.pure _)

theorem keeps_requestRecovery (hR : Calm R) (call : RecoveryCall) :
    Tx.Keeps (onDb R) (requestRecovery runId call) := by
  have hcommits : Commits (recordRecovery runId call)
      (.recoverRun (call.ctx runId) call.requestFingerprint call.reason) :=
    commits_of_mutated rfl
  have hrecord : Tx.Keeps (onDb R) (transact (recordRecovery runId call)) :=
    keeps_calm hR _ hcommits rfl
  refine .bind (.require _ _) fun _ => .bind (onDb_consult _) fun found => ?_
  cases found with
  | some operation => exact hrecord
  | none =>
      refine .bind (onDb_consult _) fun preflight => .bind (.ofExcept _) fun _ => ?_
      refine .bind (.bind (onDb_consult _) fun unverified => ?_) fun _ => .bind (.ofExcept _)
        fun _ => hrecord
      cases unverified with
      | none => exact .pure _
      | some session => exact .throw _

/-- A spawn request: the transaction that records it begins on the database that was checked. -/
theorem keeps_requestSpawn (hR : Calm R) (call : SpawnCall) (host : SpawnHost) {rt : Runtime}
    (hrecord : ∀ spawn, ((admitSpawn config runId call).run rt.db).1 = .ok spawn →
      R rt.db ((Command.spawnAgent (call.ctx runId) spawn).exec rt.db)) :
    onDb R rt ((requestSpawn config runId call host).run rt).2 := by
  refine Tx.Keeps.bind_at (Std.Refl.refl rt) fun spawn rt' hquery => ?_
  obtain ⟨hchecked, rfl⟩ := query_ok hquery
  have hcommits : Commits (recordSpawn (call.ctx runId) spawn)
      (.spawnAgent (call.ctx runId) spawn) := commits_of_mutated rfl
  refine Tx.Keeps.bind_at ?_ fun _ rt'' _ => Tx.Keeps.bind (.okOr _ _) (fun _ =>
    keeps_attemptSpawnOperation hR _ _) rt''
  obtain ⟨db, power, hrun, rfl | rfl⟩ := transact_runtime hcommits rt'
  · rw [hrun]
    exact Std.Refl.refl rt'.db
  · rw [hrun]
    exact hrecord spawn hchecked

/-- A foreground launch likewise. -/
theorem keeps_requestForeground (hR : Calm R) (call : ForegroundCall) {rt : Runtime}
    (hrecord : ∀ launch, ((admitForeground config runId call).run rt.db).1 = .ok launch →
      R rt.db ((Command.launchForeground (call.ctx runId) launch).exec rt.db)) :
    onDb R rt ((requestForeground config runId call).run rt).2 := by
  refine Tx.Keeps.bind_at (Std.Refl.refl rt) fun launch rt' hquery => ?_
  obtain ⟨hchecked, rfl⟩ := query_ok hquery
  have hcommits : Commits
      (mutationBody .json ((call.ctx runId).mutation "agent.launch_foreground" launch.request)
        none (launchForeground (call.ctx runId) launch))
      (.launchForeground (call.ctx runId) launch) := commits_of_discard rfl
  have hreclaim : ∀ intent : LaunchIntent, Commits
      (reclaimForegroundLaunch (call.ctx runId) (intent.scope runId) call.tokenVerifier)
      (.reclaimForegroundLaunch (call.ctx runId) (intent.scope runId) call.tokenVerifier) :=
    fun _ => commits_of_discard rfl
  refine Tx.Keeps.bind_at ?_ fun outcome rt'' _ => ?_
  · obtain ⟨db, power, hrun, rfl | rfl⟩ := transact_runtime hcommits rt'
    · rw [hrun]
      exact Std.Refl.refl rt'.db
    · rw [hrun]
      exact hrecord launch hchecked
  · cases outcome with
    | applied recorded => exact Tx.Keeps.bind (.okOr _ _) (fun _ => .require _ _) rt''
    | replayed recorded =>
        exact Tx.Keeps.bind (.okOr _ _) (fun intent =>
          .bind (.bind (keeps_calm hR _ (hreclaim intent) rfl) fun _ =>
            .require _ _) fun _ => .require _ _) rt''

/-- The relation survives every program when it survives the transactions that hire, on the
    databases on which their requests were checked. -/
theorem keeps_program (hR : Calm R) (input : SupervisorInput) {rt : Runtime}
    (hspawn : ∀ call host spawn, input = .spawn call host →
      ((admitSpawn config runId call).run rt.db).1 = .ok spawn →
        R rt.db ((Command.spawnAgent (call.ctx runId) spawn).exec rt.db))
    (hforeground : ∀ call launch, input = .launchForeground call →
      ((admitForeground config runId call).run rt.db).1 = .ok launch →
        R rt.db ((Command.launchForeground (call.ctx runId) launch).exec rt.db)) :
    onDb R rt ((input.program config runId).run rt).2 := by
  cases input with
  | spawn call host => exact keeps_requestSpawn hR call host fun spawn => hspawn call host spawn rfl
  | launchForeground call =>
      exact keeps_requestForeground hR call fun launch => hforeground call launch rfl
  | reconcile hosts reconciledAt => exact keeps_reconcileOperations hR hosts reconciledAt rt
  | stop operationId nowMs => exact Tx.Keeps.bind (keeps_requestStop hR _ _) (fun _ => .pure _) rt
  | startStopping operationId nowMs =>
      exact keeps_calm hR (.beginRunShutdown _ _ _ _ _) (fun _ => rfl) rfl rt
  | idle operationId nowMs =>
      exact keeps_calm hR (.stopIdleRun _ _ _ _ _ _) (fun _ => rfl) rfl rt
  | progress host => exact Tx.Keeps.bind (keeps_progressShutdown hR host) (fun _ => .pure _) rt
  | recover call => exact Tx.Keeps.bind (keeps_requestRecovery hR call) (fun _ => .pure _) rt
  | other command =>
      show onDb R rt
        ((if command.alone = true then transact command.body else pure () : Program Unit).run rt).2
      split
      · next halone =>
          have hhires : command.hires = false := by
            cases command <;> first | rfl | cases halone
          exact keeps_calm hR command (commits_body command) hhires rt
      · exact Std.Refl.refl rt.db

/-- What a spawn request asks for is what its mutation records. -/
theorem admitSpawn_request {call : SpawnCall} {spawn : SpawnRequest} {db db' : Db}
    (h : (admitSpawn config runId call).run db = (.ok spawn, db')) :
    spawn.role = call.role ∧ spawn.agentId = call.agentId := by
  obtain ⟨_, _, _, h₁⟩ := Tx.bind_eq_ok.mp h
  obtain ⟨_, _, _, h₂⟩ := Tx.bind_eq_ok.mp h₁
  obtain ⟨_, _, _, h₃⟩ := Tx.bind_eq_ok.mp h₂
  obtain ⟨⟨definition, effective⟩, _, _, h₄⟩ := Tx.bind_eq_ok.mp h₃
  obtain ⟨found, _, _, h₅⟩ := Tx.bind_eq_ok.mp h₄
  cases found with
  | some row =>
      obtain ⟨rfl, -⟩ := Tx.pure_eq_ok.mp h₅
      exact ⟨rfl, rfl⟩
  | none =>
      obtain ⟨_, _, _, h₆⟩ := Tx.bind_eq_ok.mp h₅
      obtain ⟨rfl, -⟩ := Tx.pure_eq_ok.mp h₆
      exact ⟨rfl, rfl⟩

theorem admitForeground_request {call : ForegroundCall} {launch : ForegroundLaunch} {db db' : Db}
    (h : (admitForeground config runId call).run db = (.ok launch, db')) :
    launch.role = config.archetype.lead ∧ launch.agentId = call.agentId := by
  obtain ⟨_, _, _, h₁⟩ := Tx.bind_eq_ok.mp h
  obtain ⟨_, _, _, h₂⟩ := Tx.bind_eq_ok.mp h₁
  obtain ⟨_, _, _, h₃⟩ := Tx.bind_eq_ok.mp h₂
  obtain ⟨definition, _, _, h₄⟩ := Tx.bind_eq_ok.mp h₃
  obtain ⟨found, _, _, h₅⟩ := Tx.bind_eq_ok.mp h₄
  cases found with
  | some row =>
      obtain ⟨rfl, -⟩ := Tx.pure_eq_ok.mp h₅
      exact ⟨rfl, rfl⟩
  | none =>
      obtain ⟨_, _, _, h₆⟩ := Tx.bind_eq_ok.mp h₅
      obtain ⟨rfl, -⟩ := Tx.pure_eq_ok.mp h₆
      exact ⟨rfl, rfl⟩

end Programs

/-- The agent that an input hires: the one that it asks for, unless its checks refuse it, its
    operation is recorded, or the role of a foreground launch has an agent. -/
def SupervisorInput.hire? (config : EffectiveConfig) (runId : RunId) (db : Db) :
    SupervisorInput → Option Hire
  | .spawn call _ =>
      (some { agentId := call.agentId, role := call.role, now := call.now }).filter fun _ =>
        ((admitSpawn config runId call).run db).1.isOk && (db.operation call.operationId).isNone
  | .launchForeground call =>
      (some { agentId := call.agentId, role := config.archetype.lead, now := call.now }).filter
        fun _ =>
          ((admitForeground config runId call).run db).1.isOk &&
            ((db.operation call.operationId).isNone &&
              ((db.agentsOf runId).find? (·.role == config.archetype.lead)).isNone)
  | _ => none

theorem calm_hires (runId : RunId) (hire : Option Hire) : Calm (Db.Hires runId hire) :=
  fun _ db hcalm => .inl (Command.exec_identities hcalm db)

section Machine

variable {config : EffectiveConfig} {runId : RunId}

/-- The rule for a step of the machine, wherever its program is cut off. -/
theorem keeps_step {R : Db → Db → Prop} [Std.Refl R] [IsTrans Db R] (hR : Calm R)
    (step : SupervisorStep) (rt : Runtime)
    (hspawn : ∀ call host spawn, step.input = .spawn call host →
      ((admitSpawn config runId call).run rt.db).1 = .ok spawn →
        R rt.db ((Command.spawnAgent (call.ctx runId) spawn).exec rt.db))
    (hforeground : ∀ call launch, step.input = .launchForeground call →
      ((admitForeground config runId call).run rt.db).1 = .ok launch →
        R rt.db ((Command.launchForeground (call.ctx runId) launch).exec rt.db)) :
    R rt.db ((supervisorMachine config runId).step step rt).db := by
  let charged : Runtime := { rt with power := step.power }
  have hrun : onDb R charged ((step.input.program config runId).run charged).2 :=
    keeps_program hR step.input hspawn hforeground
  show R rt.db ((step.input.program config runId).exec step.power rt).db
  unfold Program.exec
  dsimp only
  split <;> exact hrun

/-- A step of the supervisor hires at most the agent of its input, wherever its program is cut
    off. -/
theorem hires_step (step : SupervisorStep) (rt : Runtime) :
    Db.Hires runId (step.input.hire? config runId rt.db) rt.db
      ((supervisorMachine config runId).step step rt).db := by
  refine keeps_step (calm_hires runId _) step rt ?_ ?_
  · intro call host spawn hinput hchecked
    obtain ⟨hrole, hagentId⟩ := admitSpawn_request (Prod.ext hchecked rfl)
    have hhires := spawnAgent_hires (call.ctx runId) spawn rt.db
    rw [hrole, hagentId] at hhires
    rw [hinput, SupervisorInput.hire?, hchecked, Except.isOk, Except.toBool, Bool.true_and]
    exact hhires
  · intro call launch hinput hchecked
    obtain ⟨hrole, hagentId⟩ := admitForeground_request (Prod.ext hchecked rfl)
    have hhires := launchForeground_hires (call.ctx runId) launch rt.db
    rw [hrole, hagentId] at hhires
    rw [hinput, SupervisorInput.hire?, hchecked, Except.isOk, Except.toBool, Bool.true_and]
    exact hhires

end Machine

end Coterie
