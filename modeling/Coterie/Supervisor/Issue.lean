/-
  Coterie.Supervisor.Issue

  Which transactions the supervisor of a run begins, and on which databases.  The programs of
  `Coterie.Supervisor.Launch` and `Coterie.Supervisor.Shutdown` check before they commit; `Issues`
  says what a transaction may rely on once these checks are passed: that the run is not stopping,
  that a new agent has room, that a run stops only after its sessions.

  A step of the supervisor is such a transaction, the start of a provider process, or a change of what
  the process remembers (`Acts`).  `SupervisorInput.supervised`
  (`Coterie.Supervisor.Supervised`) is the connection: every run of every
  program, cut off at any point, is a sequence of such steps.  What holds over all runs is then a
  matter of one step.
-/

import Coterie.Supervisor.Shutdown

namespace Coterie

/-! ## What the checks establish -/

/-- The budgets of a new background agent have room. -/
structure SpawnRoom (config : EffectiveConfig) (runId : RunId) (role : String) (checkedAt : Int)
    (db : Db) : Prop where
  rate : (db.admissionCounters config runId checkedAt).spawnsPerMinute.exhausted = false
  instances : (db.roleBudget config runId role).exhausted = false
  lifetime : (db.admissionCounters config runId checkedAt).agentsPerRun.exhausted = false
  concurrent : (db.admissionCounters config runId checkedAt).concurrentAgents.exhausted = false

/-- The checks of a spawn are passed. -/
structure SpawnAdmitted (config : EffectiveConfig) (runId : RunId) (operationId : OperationId)
    (checkedAt : Int) (spawn : SpawnRequest) (db : Db) : Prop where
  accepting : db.runShutdown runId = none
  role : ∃ definition effective, spawnRole config spawn.role = .ok (definition, effective)
  room : (db.operation operationId).isSome = true ∨
    SpawnRoom config runId spawn.role checkedAt db

/-- The budgets of a new or a replaced foreground agent have room. -/
inductive ForegroundRoom (config : EffectiveConfig) (runId : RunId) (role : String) (db : Db) :
    Prop where
  /-- The agent is alive, and the launch finds it so. -/
  | alive (agent : AgentRecord) (hagent : agent ∈ db.agentsOf runId) (hrole : agent.role = role)
      (halive : agent.state.isTerminal = false)
  | capacity (now : Int)
      (lifetime : (db.agentsOf runId).any (·.role == role) = false →
        (db.admissionCounters config runId now).agentsPerRun.exhausted = false)
      (concurrent :
        (db.admissionCounters config runId now).concurrentAgents.exhausted = false)

/-- The checks of a foreground launch are passed. -/
structure ForegroundAdmitted (config : EffectiveConfig) (runId : RunId)
    (operationId : OperationId) (launch : ForegroundLaunch) (db : Db) : Prop where
  accepting : db.runShutdown runId = none
  lead : ∃ definition, foregroundRole config = .ok definition
  role : launch.role = config.archetype.lead
  room : (db.operation operationId).isSome = true ∨
    ForegroundRoom config runId launch.role db

/-- Every session of the run is terminal, and its recorded stop is not completed. -/
structure Winding (runId : RunId) (operationId : OperationId) (db : Db) : Prop where
  shutdown : ∃ shutdown, db.runShutdown runId = some shutdown ∧
    shutdown.operationId = operationId ∧ shutdown.phase ≠ .completed
  settled : db.liveSessions runId = []

/-- A poll moves a recorded stop forward. -/
def MovesForward (runId : RunId) (phase : ShutdownPhase) (db : Db) : Prop :=
  phase ≠ .completed ∧ ∀ shutdown, db.runShutdown runId = some shutdown →
    ShutdownPhase.reconciling.rank ≤ phase.rank ∨ shutdown.phase.rank ≤ phase.rank

/-- The transactions that launch a recorded agent, but for the record of a launch that started
    nothing. -/
def Command.launches : Command → Bool
  | .persistLaunchIntent _ agentExists assignmentId => agentExists && assignmentId.isSome
  | .recordSpawnFailure .. | .completeSpawn .. | .admitSessionLaunch ..
  | .replaceDesiredSessionCredential .. | .recordLaunchObservation ..
  | .reclaimForegroundLaunch .. => true
  | _ => false

/-- The supervisor of a run begins the transaction. -/
inductive Issues (config : EffectiveConfig) (runId : RunId) (rt : Runtime) : Command → Prop where
  | alone (command : Command) (halone : command.alone = true) : Issues config runId rt command
  | launch (command : Command) (hlaunches : command.launches = true)
      (haccepting : rt.db.runShutdown runId = none) : Issues config runId rt command
  | recordFailedLaunch (scope : SessionScope) (attemptedAt : Int) (policy : SupervisionPolicy)
      (haccepting : rt.db.runShutdown runId = none) (hidle : scope.sessionId ∉ rt.started) :
      Issues config runId rt (.recordFailedLaunch scope attemptedAt policy)
  | spawnAgent (call : SpawnCall) (spawn : SpawnRequest)
      (hadmitted : SpawnAdmitted config runId call.operationId call.checkedAt spawn rt.db) :
      Issues config runId rt (.spawnAgent (call.ctx runId) spawn)
  | launchForeground (call : ForegroundCall) (launch : ForegroundLaunch)
      (hadmitted : ForegroundAdmitted config runId call.operationId launch rt.db) :
      Issues config runId rt (.launchForeground (call.ctx runId) launch)
  | beginRunShutdown (operationId : OperationId) (nowMs : Int) :
      Issues config runId rt (.beginRunShutdown runId operationId nowMs
        config.policy.interruptGraceMs config.policy.shutdownTimeoutMs)
  | stopIdleRun (operationId : OperationId) (nowMs : Int) :
      Issues config runId rt (.stopIdleRun runId operationId nowMs
        config.policy.interruptGraceMs config.policy.shutdownTimeoutMs
        config.supervision.idleTimeoutSeconds)
  | setShutdownPhase (phase : ShutdownPhase) (nowMs : Int)
      (hforward : MovesForward runId phase rt.db) :
      Issues config runId rt (.setShutdownPhase runId phase nowMs)
  | persistShutdown (operationId : OperationId) (stoppedAt : Int)
      (hwinding : Winding runId operationId rt.db) :
      Issues config runId rt (.persistShutdown runId operationId stoppedAt)
  | recoverRun (call : RecoveryCall) :
      Issues config runId rt (.recoverRun (call.ctx runId) call.requestFingerprint call.reason)

/-- The intent of a session is admitted and desired, and no process was started for it. -/
structure Runtime.Startable (rt : Runtime) (sessionId : SessionId) : Prop where
  desired : ∃ session ∈ rt.db.sessions, session.id = sessionId ∧
    session.reconciliationState = .desired
  marked : (rt.db.launchAttempts sessionId).any (·.inFlight) = true
  idle : sessionId ∉ rt.started

/-- One step of the supervisor of a run. -/
inductive Acts (config : EffectiveConfig) (runId : RunId) (rt : Runtime) : Runtime → Prop where
  | commit (command : Command) (hissues : Issues config runId rt command) :
      Acts config runId rt { rt with db := command.exec rt.db }
  | start (sessionId : SessionId) (haccepting : rt.db.runShutdown runId = none)
      (hstartable : rt.Startable sessionId) :
      Acts config runId rt { rt with started := rt.started ++ [sessionId] }
  | remember (handles : List ProviderSessionHandle) (power : Nat) :
      Acts config runId rt { rt with handles, power }

/-- The supervisor after some steps. -/
def Acting (config : EffectiveConfig) (runId : RunId) : Runtime → Runtime → Prop :=
  Relation.ReflTransGen (Acts config runId)

instance (config : EffectiveConfig) (runId : RunId) : Std.Refl (Acting config runId) where
  refl _ := .refl

instance (config : EffectiveConfig) (runId : RunId) : IsTrans Runtime (Acting config runId) where
  trans _ _ _ hab hbc := Relation.ReflTransGen.trans hab hbc

namespace Acting

variable {config : EffectiveConfig} {runId : RunId}

/-- What survives every step survives all of them. -/
theorem invariant {I : Runtime → Prop} (hstep : ∀ rt rt', Acts config runId rt rt' → I rt → I rt')
    {rt rt' : Runtime} (h : Acting config runId rt rt') (hI : I rt) : I rt' := by
  induction h with
  | refl => exact hI
  | tail _ hlast ih => exact hstep _ _ hlast ih

/-- A reflexive and transitive relation around every step of an invariant relates the ends. -/
theorem relation {I : Runtime → Prop} {R : Runtime → Runtime → Prop} [Std.Refl R]
    [IsTrans Runtime R] (hinv : ∀ rt rt', Acts config runId rt rt' → I rt → I rt')
    (hstep : ∀ rt rt', Acts config runId rt rt' → I rt → R rt rt') {rt rt' : Runtime}
    (h : Acting config runId rt rt') (hI : I rt) : R rt rt' := by
  induction h with
  | refl => exact Std.Refl.refl _
  | tail hbefore hlast ih =>
      exact IsTrans.trans _ _ _ ih (hstep _ _ hlast (invariant hinv hbefore hI))

end Acting

/-! ## Checks -/

theorem foregroundRole_ok {config : EffectiveConfig} {definition : RoleDefinition}
    (h : foregroundRole config = .ok definition) :
    config.archetype.role config.archetype.lead = some definition ∧
      definition.mode = .interactive := by
  unfold foregroundRole at h
  split at h
  · cases h
  · next definition' hdefinition =>
      split at h
      · cases h
      · next hmode =>
          cases h
          exact ⟨hdefinition, by simpa using hmode⟩

theorem requireAccepting_ok {runId : RunId} {u : Unit} {db db' : Db}
    (h : (requireAccepting runId).run db = (.ok u, db')) :
    db.runShutdown runId = none ∧ db' = db := by
  obtain ⟨haccepting, rfl⟩ := Tx.require_eq_ok.mp h
  exact ⟨by simpa using haccepting, rfl⟩

theorem still_requireCapability (config : EffectiveConfig) (runId : RunId)
    (caller : AuthenticatedCaller) (capability : Capability) :
    Tx.Keeps Eq (requireCapability config runId caller capability) := by
  unfold requireCapability
  split
  · exact .pure _
  · exact .bind (.bind (.read _) fun _ => .okOr _ _) fun _ => .require _ _

theorem requireSpawnCapacity_ok {config : EffectiveConfig} {runId : RunId} {role : String}
    {checkedAt : Int} {u : Unit} {db db' : Db}
    (h : (requireSpawnCapacity config runId role checkedAt).run db = (.ok u, db')) :
    SpawnRoom config runId role checkedAt db := by
  obtain ⟨_, _, h₁, hrest⟩ := Tx.bind_eq_ok.mp h
  obtain ⟨hrate, rfl⟩ := requireRoom_ok h₁
  obtain ⟨_, _, h₂, hrest'⟩ := Tx.bind_eq_ok.mp hrest
  obtain ⟨hinstances, rfl⟩ := requireRoom_ok h₂
  obtain ⟨_, _, h₃, h₄⟩ := Tx.bind_eq_ok.mp hrest'
  obtain ⟨hlifetime, rfl⟩ := requireRoom_ok h₃
  obtain ⟨hconcurrent, -⟩ := requireRoom_ok h₄
  exact ⟨hrate, hinstances, hlifetime, hconcurrent⟩

theorem still_committed_pendingRecovery (runId : RunId) (taskId : TaskId) :
    Tx.Keeps Eq (committed (pendingRecovery runId taskId)) := by
  refine keeps_committed (.of_keeps ?_ fun _ _ h => h)
  exact .bind (.read _) fun _ => .bind (.okOr _ _) fun _ => .read _

theorem still_requireFreshWorktree (runId : RunId) (taskId : TaskId) (kind : WorkspaceKind) :
    Tx.Keeps Eq (requireFreshWorktree runId taskId kind) :=
  .ite (.pure _) (.bind (still_committed_pendingRecovery _ _) fun _ => .require _ _)

theorem still_requireReadyTask (runId : RunId) (taskId : TaskId) :
    Tx.Keeps Eq (requireReadyTask runId taskId) :=
  .bind (.read _) fun _ => .bind (.okOr _ _) fun _ => .bind (.require _ _) fun _ => .require _ _

/-- What the checks of a spawn request establish; they leave the database as it is. -/
theorem admitSpawn_ok {config : EffectiveConfig} {runId : RunId} {call : SpawnCall}
    {spawn : SpawnRequest} {db db' : Db}
    (h : (admitSpawn config runId call).run db = (.ok spawn, db')) :
    SpawnAdmitted config runId call.operationId call.checkedAt spawn db := by
  obtain ⟨_, _, h₁, r₁⟩ := Tx.bind_eq_ok.mp h
  obtain ⟨-, rfl⟩ := Tx.require_eq_ok.mp h₁
  obtain ⟨_, _, h₂, r₂⟩ := Tx.bind_eq_ok.mp r₁
  obtain ⟨haccepting, rfl⟩ := requireAccepting_ok h₂
  obtain ⟨_, _, h₃, r₃⟩ := Tx.bind_eq_ok.mp r₂
  obtain rfl := (still_requireCapability _ _ _ _).of_ok h₃
  obtain ⟨⟨definition, effective⟩, _, h₄, r₄⟩ := Tx.bind_eq_ok.mp r₃
  obtain ⟨hrole, rfl⟩ := Tx.ofExcept_eq_ok.mp h₄
  obtain ⟨found, _, h₅, r₅⟩ := Tx.bind_eq_ok.mp r₄
  obtain ⟨hfound, rfl⟩ := Tx.read_eq_ok.mp h₅
  cases found with
  | some row =>
      obtain ⟨rfl, -⟩ := Tx.pure_eq_ok.mp r₅
      exact ⟨haccepting, ⟨definition, effective, hrole⟩, .inl (by rw [hfound]; rfl)⟩
  | none =>
      obtain ⟨baseCommit, _, h₆, r₆⟩ := Tx.bind_eq_ok.mp r₅
      obtain ⟨rfl, -⟩ := Tx.pure_eq_ok.mp r₆
      obtain ⟨_, _, h₇, r₇⟩ := Tx.bind_eq_ok.mp h₆
      obtain rfl := (still_requireFreshWorktree _ _ _).of_ok h₇
      obtain ⟨_, _, h₈, r₈⟩ := Tx.bind_eq_ok.mp r₇
      obtain rfl := (still_requireReadyTask _ _).of_ok h₈
      obtain ⟨_, _, h₉, -⟩ := Tx.bind_eq_ok.mp r₈
      exact ⟨haccepting, ⟨definition, effective, hrole⟩, .inr (requireSpawnCapacity_ok h₉)⟩

theorem still_requireRoom (name : String) (budget : Db → AdmissionBudget) :
    Tx.Keeps Eq (requireRoom name budget) :=
  .bind (.read _) fun _ => .require _ _

theorem requireForegroundCapacity_ok {config : EffectiveConfig} {runId : RunId} {role : String}
    {now : Int} {u : Unit} {db db' : Db}
    (h : (requireForegroundCapacity config runId role now).run db = (.ok u, db')) :
    ForegroundRoom config runId role db := by
  obtain ⟨agents, _, h₁, r₁⟩ := Tx.bind_eq_ok.mp h
  obtain ⟨rfl, rfl⟩ := Tx.read_eq_ok.mp h₁
  split at r₁
  · next halive =>
      obtain ⟨agent, hagent, hmatch⟩ := List.any_eq_true.mp halive
      simp only [Bool.and_eq_true, beq_iff_eq, Bool.not_eq_true'] at hmatch
      exact .alive agent hagent hmatch.1 hmatch.2
  · obtain ⟨agents, _, h₂, r₂⟩ := Tx.bind_eq_ok.mp r₁
    obtain ⟨rfl, rfl⟩ := Tx.read_eq_ok.mp h₂
    obtain ⟨_, _, h₃, h₄⟩ := Tx.bind_eq_ok.mp r₂
    rcases Tx.when_eq_ok.mp h₃ with ⟨-, hroom⟩ | ⟨hpresent, rfl⟩
    · obtain ⟨hlifetime, rfl⟩ := requireRoom_ok hroom
      exact .capacity now (fun _ => hlifetime) (requireRoom_ok h₄).1
    · exact .capacity now (fun habsent => absurd habsent hpresent) (requireRoom_ok h₄).1

/-- What the checks of a foreground launch establish; they leave the database as it is. -/
theorem admitForeground_ok {config : EffectiveConfig} {runId : RunId} {call : ForegroundCall}
    {launch : ForegroundLaunch} {db db' : Db}
    (h : (admitForeground config runId call).run db = (.ok launch, db')) :
    ForegroundAdmitted config runId call.operationId launch db := by
  obtain ⟨_, _, h₁, r₁⟩ := Tx.bind_eq_ok.mp h
  obtain ⟨-, rfl⟩ := Tx.require_eq_ok.mp h₁
  obtain ⟨_, _, h₂, r₂⟩ := Tx.bind_eq_ok.mp r₁
  obtain ⟨haccepting, rfl⟩ := requireAccepting_ok h₂
  obtain ⟨_, _, h₃, r₃⟩ := Tx.bind_eq_ok.mp r₂
  obtain ⟨-, rfl⟩ := Tx.require_eq_ok.mp h₃
  obtain ⟨definition, _, h₄, r₄⟩ := Tx.bind_eq_ok.mp r₃
  obtain ⟨hrole, rfl⟩ := Tx.ofExcept_eq_ok.mp h₄
  obtain ⟨found, _, h₅, r₅⟩ := Tx.bind_eq_ok.mp r₄
  obtain ⟨hfound, rfl⟩ := Tx.read_eq_ok.mp h₅
  cases found with
  | some row =>
      obtain ⟨rfl, -⟩ := Tx.pure_eq_ok.mp r₅
      exact ⟨haccepting, ⟨definition, hrole⟩, rfl, .inl (by rw [hfound]; rfl)⟩
  | none =>
      obtain ⟨_, _, h₆, r₆⟩ := Tx.bind_eq_ok.mp r₅
      obtain ⟨rfl, -⟩ := Tx.pure_eq_ok.mp r₆
      obtain ⟨quarantine, _, h₇, r₇⟩ := Tx.bind_eq_ok.mp h₆
      obtain ⟨-, rfl⟩ := Tx.read_eq_ok.mp h₇
      cases quarantine with
      | some untilTime => cases r₇
      | none =>
          exact ⟨haccepting, ⟨definition, hrole⟩, rfl,
            .inr (requireForegroundCapacity_ok r₇)⟩


/-! ## The mark of a launch in flight -/

/-- Every session for which a process was started is marked as being launched. -/
def Runtime.Marked (rt : Runtime) : Prop :=
  ∀ id ∈ rt.started, (rt.db.launchAttempts id).any (·.inFlight) = true

theorem launchAttempts_putLaunchAttempts (db : Db) (row : SessionLaunchAttempts)
    (hrow : row.inFlight = true) (id : SessionId) :
    ((db.putLaunchAttempts row).launchAttempts id).any (·.inFlight) =
      (decide (id = row.sessionId) || (db.launchAttempts id).any (·.inFlight)) := by
  unfold Db.putLaunchAttempts
  split
  · next hany =>
      unfold Db.launchAttempts
      dsimp only
      rw [Table.find?_updateWhere]
      rotate_left
      · intro _ _
        rfl
      by_cases hid : id = row.sessionId
      · subst hid
        obtain ⟨old, hold, hmatch⟩ := List.any_eq_true.mp hany
        have hsome : (db.sessionLaunchAttempts.find? (·.sessionId == row.sessionId)).isSome = true :=
          List.find?_isSome.mpr ⟨old, hold, hmatch⟩
        obtain ⟨found, hfound⟩ := Option.isSome_iff_exists.mp hsome
        have hkey := List.find?_some hfound
        rw [hfound]
        simp only [Option.map_some, Option.any_some, decide_true, Bool.true_or]
        rw [if_pos hkey]
      · rw [decide_eq_false hid, Bool.false_or]
        cases hfound : db.sessionLaunchAttempts.find? (·.sessionId == id) with
        | none => rfl
        | some found =>
            have hkey : found.sessionId = id := by simpa using List.find?_some hfound
            rw [Option.map_some, if_neg (by simp [hkey, hid])]
  · next hany =>
      unfold Db.launchAttempts
      rw [List.find?_append]
      by_cases hid : id = row.sessionId
      · subst hid
        have hnone : db.sessionLaunchAttempts.find? (·.sessionId == row.sessionId) = none := by
          rw [List.find?_eq_none]
          intro old hold hmatch
          exact hany (List.any_eq_true.mpr ⟨old, hold, hmatch⟩)
        rw [hnone]
        simp [hrow]
      · rw [decide_eq_false hid, Bool.false_or]
        have hne : (row.sessionId == id) = false := by simpa using Ne.symm hid
        cases db.sessionLaunchAttempts.find? (·.sessionId == id) with
        | none => simp [hne]
        | some found => simp

/-- An admission leaves the database as it is, or marks a launch of an intent that was not
    marked. -/
theorem admitSessionLaunch_ok {scope : SessionScope} {now : Int} {policy : SupervisionPolicy}
    {admission : LaunchAdmission} {db db' : Db}
    (h : (admitSessionLaunch scope now policy).run db = (.ok admission, db')) :
    (admission ≠ .allowed ∧ db' = db) ∨
      (admission = .allowed ∧ (db.launchAttempts scope.sessionId).any (·.inFlight) = false ∧
        ∃ row : SessionLaunchAttempts, row.sessionId = scope.sessionId ∧ row.inFlight = true ∧
          db' = db.putLaunchAttempts row) := by
  obtain ⟨current, _, h₁, r₁⟩ := Tx.bind_eq_ok.mp h
  obtain ⟨-, rfl⟩ := Tx.read_eq_ok.mp h₁
  obtain ⟨stopping, _, h₂, r₂⟩ := Tx.bind_eq_ok.mp r₁
  obtain ⟨-, rfl⟩ := Tx.read_eq_ok.mp h₂
  split at r₂
  · obtain ⟨rfl, rfl⟩ := Tx.pure_eq_ok.mp r₂
    exact .inl ⟨by simp, rfl⟩
  · obtain ⟨previous, _, h₃, r₃⟩ := Tx.bind_eq_ok.mp r₂
    obtain ⟨rfl, rfl⟩ := Tx.read_eq_ok.mp h₃
    split at r₃
    · next admission' hwindow =>
        obtain ⟨rfl, rfl⟩ := Tx.pure_eq_ok.mp r₃
        refine .inl ⟨?_, rfl⟩
        rintro rfl
        -- no verdict of the window is a permission
        unfold launchWindow at hwindow
        split at hwindow
        · cases hwindow
        · repeat' split at hwindow
          all_goals cases hwindow
    · next window attempts hwindow =>
        obtain ⟨_, _, h₄, r₄⟩ := Tx.bind_eq_ok.mp r₃
        obtain rfl := Tx.write_eq_ok.mp h₄
        obtain ⟨rfl, rfl⟩ := Tx.pure_eq_ok.mp r₄
        refine .inr ⟨rfl, ?_, _, rfl, rfl, rfl⟩
        unfold launchWindow at hwindow
        split at hwindow
        · next hnone => rw [hnone]; rfl
        · next row hrow =>
            rw [hrow]
            cases hmark : row.inFlight with
            | false => simpa using hmark
            | true =>
                rw [hmark] at hwindow
                split at hwindow <;> cases hwindow

/-- Only the launch row of the failed session changes. -/
theorem failSessionLaunch_launchAttempts (scope : SessionScope) (now : Int)
    (policy : SupervisionPolicy) {id : SessionId} (hne : id ≠ scope.sessionId) :
    Tx.Keeps (fun db db' => db'.launchAttempts id = db.launchAttempts id)
      (failSessionLaunch scope now policy) := by
  let R : Db → Db → Prop := fun db db' => db'.launchAttempts id = db.launchAttempts id
  have hrefl : Std.Refl R := ⟨fun _ => rfl⟩
  have htrans : IsTrans Db R := ⟨fun _ _ _ hab hbc => hbc.trans hab⟩
  have hevent : ∀ {runId kind subject agentId operationId data nowMs},
      Tx.Keeps R (supervisionEvent runId kind subject agentId operationId data nowMs) :=
    .bind (.require _ _) fun _ => .write fun _ => rfl
  refine .bind (.read _) fun current => .ite (.pure _) (.bind (.write fun db => ?_) fun _ => ?_)
  · show Db.launchAttempts _ id = db.launchAttempts id
    unfold Db.launchAttempts
    dsimp only
    rw [Table.find?_updateWhere]
    · cases hfound : db.sessionLaunchAttempts.find? (·.sessionId == id) with
      | none => rfl
      | some found =>
          have hkey : found.sessionId = id := by simpa using List.find?_some hfound
          rw [Option.map_some, if_neg (by simp [hkey, hne])]
    · intro _ _
      rfl
  · exact .bind (.read _) fun _ => .bind (.okOr _ _) fun _ => .bind (.when hevent) fun _ => .pure _

/-- A recorded failure touches the mark of no other session. -/
theorem recordFailedLaunch_launchAttempts (scope : SessionScope) (attemptedAt : Int)
    (policy : SupervisionPolicy) {id : SessionId} (hne : id ≠ scope.sessionId) (db : Db) :
    ((Command.recordFailedLaunch scope attemptedAt policy).exec db).launchAttempts id =
      db.launchAttempts id := by
  let R : Db → Db → Prop := fun db db' => db'.launchAttempts id = db.launchAttempts id
  have hrefl : Std.Refl R := ⟨fun _ => rfl⟩
  have htrans : IsTrans Db R := ⟨fun _ _ _ hab hbc => hbc.trans hab⟩
  have hreconcile : Tx.Keeps R (recordReconciliationIn scope .observed .quarantined attemptedAt) := by
    have hwrites : Tx.Keeps (Written [.sessions, .agents, .sessionCredentials, .events])
        (recordReconciliationIn scope .observed .quarantined attemptedAt) :=
      writes_recordReconciliationIn _ _ _ _
    refine hwrites.mono fun db db' h => ?_
    show db'.launchAttempts id = db.launchAttempts id
    unfold Db.launchAttempts
    rw [h.writesOnly .sessionLaunchAttempts (by decide)]
  have hbody : Tx.Keeps R (Command.recordFailedLaunch scope attemptedAt policy).body :=
    .bind (failSessionLaunch_launchAttempts scope attemptedAt policy hne) fun _ =>
      .when hreconcile
  exact Tx.Keeps.transaction hbody db


namespace Command

theorem exec_launchAttempts {command : Command} (h : .sessionLaunchAttempts ∉ command.writes)
    (db : Db) (id : SessionId) :
    (command.exec db).launchAttempts id = db.launchAttempts id := by
  unfold Db.launchAttempts
  rw [command.exec_writesOnly db .sessionLaunchAttempts h]

/-- An admission clears no mark. -/
theorem exec_admitSessionLaunch_marked (scope : SessionScope) (now : Int)
    (policy : SupervisionPolicy) {db : Db} {id : SessionId}
    (hmarked : (db.launchAttempts id).any (·.inFlight) = true) :
    (((Command.admitSessionLaunch scope now policy).exec db).launchAttempts id).any
      (·.inFlight) = true := by
  unfold exec
  rcases Tx.transaction_cases (Command.admitSessionLaunch scope now policy).body db with
    ⟨u, db', hrun, hok⟩ | ⟨e, -, herror⟩
  · rw [hok]
    obtain ⟨admission, _, h₁, h₂⟩ := Tx.bind_eq_ok.mp hrun
    obtain ⟨-, rfl⟩ := Tx.pure_eq_ok.mp h₂
    rcases admitSessionLaunch_ok h₁ with ⟨-, rfl⟩ | ⟨-, -, row, -, hflight, rfl⟩
    · exact hmarked
    · rw [launchAttempts_putLaunchAttempts db row hflight, hmarked, Bool.or_true]
  · rw [herror]
    exact hmarked

/-- The transactions that the supervisor begins on their own admit no launch. -/
theorem launchAttempts_of_alone {command : Command} (h : command.alone = true) :
    .sessionLaunchAttempts ∉ command.writes := by
  cases command <;> first | (dsimp only [writes]; decide) | cases h

end Command

/-- A transaction of the supervisor clears no mark of a session that it started a process for. -/
theorem Issues.marked {config : EffectiveConfig} {runId : RunId} {rt : Runtime}
    {command : Command} (h : Issues config runId rt command) {id : SessionId}
    (hstarted : id ∈ rt.started) (hmarked : (rt.db.launchAttempts id).any (·.inFlight) = true) :
    ((command.exec rt.db).launchAttempts id).any (·.inFlight) = true := by
  have hsame : .sessionLaunchAttempts ∉ command.writes →
      ((command.exec rt.db).launchAttempts id).any (·.inFlight) = true := by
    intro hwrites
    rw [command.exec_launchAttempts hwrites]
    exact hmarked
  cases h with
  | alone _ halone => exact hsame (Command.launchAttempts_of_alone halone)
  | launch _ hlaunches =>
      cases command
      case admitSessionLaunch => exact Command.exec_admitSessionLaunch_marked _ _ _ hmarked
      all_goals first | exact hsame (by dsimp only [Command.writes]; decide) | cases hlaunches
  | recordFailedLaunch scope attemptedAt policy _ hidle =>
      have hne : id ≠ scope.sessionId := by
        rintro rfl
        exact hidle hstarted
      rw [recordFailedLaunch_launchAttempts scope attemptedAt policy hne]
      exact hmarked
  | _ => exact hsame (by dsimp only [Command.writes]; decide)

theorem Acts.marked {config : EffectiveConfig} {runId : RunId} {rt rt' : Runtime}
    (h : Acts config runId rt rt') (hmarked : rt.Marked) : rt'.Marked := by
  cases h with
  | commit command hissues =>
      intro id hid
      exact hissues.marked hid (hmarked id hid)
  | start sessionId _ hstartable =>
      intro id hid
      rcases List.mem_append.mp hid with hold | hnew
      · exact hmarked id hold
      · rw [List.mem_singleton.mp hnew]
        exact hstartable.marked
  | remember handles power => exact hmarked

theorem Acting.marked {config : EffectiveConfig} {runId : RunId} {rt rt' : Runtime}
    (h : Acting config runId rt rt') (hmarked : rt.Marked) : rt'.Marked :=
  h.invariant (fun _ _ hacts => hacts.marked) hmarked

end Coterie
