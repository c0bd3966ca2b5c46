/-
  Coterie.Supervisor.SpawnRate

  The spawn rate of a run over every run of the supervisor: no minute holds more spawns than its
  configuration allows, and a request that is replayed or refused uses up nothing.

  A spawn counts the recorded spawns of the minute that ends at its check, and is recorded later,
  under a later clock reading.  The count is therefore about another minute than the one that the
  spawn falls into; that it bounds every minute is a fact about lists of times (`Spaced`).
-/

import Coterie.Supervisor.Limits
import Coterie.Supervisor.Names

namespace Coterie

/-! ## Spaced times -/

/-- No interval of `length` holds more than `limit` of the times. -/
def Spaced (length : Int) (limit : Nat) (times : List Int) : Prop :=
  ∀ last, times.countP (fun time => decide (last - length < time) && decide (time ≤ last)) ≤ limit

theorem spaced_nil (length : Int) (limit : Nat) : Spaced length limit [] :=
  fun _ => Nat.zero_le limit

/-- One more time keeps the others spaced, when fewer than `limit` of them are later than `length`
    before some earlier moment. -/
theorem Spaced.append {length : Int} {limit : Nat} {times : List Int}
    (h : Spaced length limit times) {checked time : Int} (hle : checked ≤ time)
    (hroom : times.countP (fun earlier => decide (checked - length < earlier)) < limit) :
    Spaced length limit (times ++ [time]) := by
  intro last
  rw [List.countP_append, List.countP_singleton]
  by_cases hin : (decide (last - length < time) && decide (time ≤ last)) = true
  · -- the interval of the new time starts after the one that was counted
    rw [if_pos hin]
    rw [Bool.and_eq_true, decide_eq_true_iff, decide_eq_true_iff] at hin
    have hfewer : times.countP
        (fun time => decide (last - length < time) && decide (time ≤ last)) ≤
        times.countP (fun earlier => decide (checked - length < earlier)) := by
      refine List.countP_mono_left fun earlier _ hcount => ?_
      rw [Bool.and_eq_true, decide_eq_true_iff] at hcount
      rw [decide_eq_true_iff]
      omega
    omega
  · rw [if_neg hin]
    exact h last

/-! ## Recorded spawns -/

namespace Db

/-- When the spawns of a run were recorded. -/
def spawnTimes (db : Db) (runId : RunId) : List Int :=
  (db.launchRequests.filter fun request => request.2.1 == runId &&
    request.2.2.1 == "agent.spawn").map fun request => request.2.2.2

theorem countP_spawnTimes (db : Db) (runId : RunId) (p : Int → Bool) :
    (db.spawnTimes runId).countP p = db.operations.countP fun row =>
      row.runId == runId && row.kind == "agent.spawn" && p row.createdAt := by
  unfold spawnTimes launchRequests
  rw [List.countP_map, List.countP_filter, List.countP_map, List.countP_filter]
  refine List.countP_congr fun row _ => ?_
  by_cases hkind : row.kind = "agent.spawn"
  · simp [hkind, launchKinds, and_comm]
  · simp [hkind]

/-- The budget of the spawn rate counts the spawns of the minute before its clock reading. -/
theorem countP_spawnTimes_lt {db : Db} {config : EffectiveConfig} {runId : RunId} {now : Int}
    (hnow : 0 ≤ now)
    (hroom : (db.admissionCounters config runId now).spawnsPerMinute.exhausted = false) :
    (db.spawnTimes runId).countP (fun time => decide (now - 60 < time)) <
      config.limits.maxSpawnsPerMinute := by
  have hless := admissionBudget_room hroom
  unfold recentSpawns at hless
  rw [countP_spawnTimes]
  refine Nat.lt_of_le_of_lt (List.countP_mono_left fun row _ hcount => ?_) hless
  simp only [Bool.and_eq_true, decide_eq_true_iff] at hcount ⊢
  refine ⟨hcount.1, lt_of_le_of_lt ?_ hcount.2⟩
  unfold saturate i64Max i64Min
  omega

theorem spawnTimes_of_launches {db db' : Db} (h : db'.launchRequests = db.launchRequests)
    (runId : RunId) : db'.spawnTimes runId = db.spawnTimes runId := by
  unfold spawnTimes
  rw [h]

theorem spawnTimes_pushOperation (db : Db) (operation : OperationRecord) (runId : RunId) :
    (db.pushOperation operation).spawnTimes runId = db.spawnTimes runId ++
      if operation.runId = runId ∧ operation.kind = "agent.spawn" then [operation.createdAt]
      else [] := by
  unfold spawnTimes launchRequests pushOperation
  rw [List.filter_append, List.map_append, List.filter_append, List.map_append]
  congr 1
  by_cases hkind : operation.kind = "agent.spawn"
  · by_cases hrun : operation.runId = runId
    · simp [OperationRecord.row, hkind, hrun, launchKinds]
    · simp [OperationRecord.row, hkind, hrun, launchKinds]
  · rw [if_neg fun h => hkind h.2, List.filter_singleton]
    cases launchKinds.contains operation.row.kind with
    | false => rfl
    | true => simp [OperationRecord.row, hkind]

end Db

namespace Command

/-- A new request of a mutation is the one that it records. -/
theorem exec_mutated_launches {mutation : Mutation} {requestFingerprint : Option String}
    {apply : Repo JsonValue} {command : Command}
    (hbody : command.body = mutated mutation requestFingerprint apply) (tables : List TableName)
    (hno : .launches ∉ tables) (happly : Tx.Keeps (Written tables) apply) (db : Db) :
    command.exec db = db ∨ db.operation mutation.id = none ∧
      (command.exec db).launchRequests =
        (db.pushOperation mutation.pendingOperation).launchRequests := by
  rcases exec_mutated_cases hbody db with
    hsame | ⟨hnew, json, before, after, -, hrecorded, hrun, hsettled⟩
  · exact .inl hsame
  · refine .inr ⟨hnew, ?_⟩
    have hafter : after.launchRequests = before.launchRequests :=
      (happly.of_ok hrun).writesOnly .launches hno
    have hexec : (command.exec db).launchRequests = after.launchRequests :=
      hsettled.writesOnly .launches (by decide)
    rw [hexec, hafter, hrecorded]

/-- A spawn is replayed, or recorded at its clock reading. -/
theorem exec_spawnAgent_spawnTimes (ctx : RequestContext) (spawn : SpawnRequest) (db : Db) :
    (Command.spawnAgent ctx spawn).exec db = db ∨ db.operation ctx.operationId = none ∧
      ((Command.spawnAgent ctx spawn).exec db).spawnTimes ctx.runId =
        db.spawnTimes ctx.runId ++ [ctx.now] := by
  have hcases := exec_mutated_launches
    (show (Command.spawnAgent ctx spawn).body = _ from rfl)
    [.operations, .agents, .agentScopes, .tasks, .claims, .assignments, .assignmentScopes,
      .workspaces, .events, .continuations] (by decide) (writes_spawnAgent _ _) db
  refine hcases.imp_right fun ⟨hnew, hlaunches⟩ => ⟨hnew, ?_⟩
  rw [Db.spawnTimes_of_launches hlaunches, Db.spawnTimes_pushOperation]
  exact congrArg _ (if_pos ⟨rfl, rfl⟩)

/-- A foreground launch is no spawn. -/
theorem exec_launchForeground_spawnTimes (ctx : RequestContext) (launch : ForegroundLaunch)
    (db : Db) (runId : RunId) :
    ((Command.launchForeground ctx launch).exec db).spawnTimes runId = db.spawnTimes runId := by
  have hcases := exec_mutated_launches
    (show (Command.launchForeground ctx launch).body = _ from rfl)
    [.operations, .agents, .agentScopes, .sessions, .sessionScopes, .sessionCredentials, .events]
    (by decide) (writes_launchForeground _ _) db
  rcases hcases with hsame | ⟨-, hlaunches⟩
  · rw [hsame]
  · rw [Db.spawnTimes_of_launches hlaunches, Db.spawnTimes_pushOperation, if_neg, List.append_nil]
    exact fun h => absurd h.2 (show "agent.launch_foreground" ≠ "agent.spawn" by decide)

/-- The transactions that hire nobody spawn nobody. -/
theorem exec_calm_spawnTimes {command : Command} (h : command.hires = false) (db : Db)
    (runId : RunId) : (command.exec db).spawnTimes runId = db.spawnTimes runId := by
  refine Db.spawnTimes_of_launches (command.exec_writesOnly db .launches ?_) runId
  cases command <;> first | (dsimp only [writes]; decide) | cases h

end Command

/-! ## Every run -/

/-- The clock readings of a spawn request: one at its checks, and not an earlier one at its
    mutation. -/
def SupervisorInput.Timed : SupervisorInput → Prop
  | .spawn call _ => 0 ≤ call.checkedAt ∧ call.checkedAt ≤ call.now
  | _ => True

/-- The recorded spawns stay spaced. -/
def Db.StaysSpaced (config : EffectiveConfig) (runId : RunId) (db db' : Db) : Prop :=
  Spaced 60 config.limits.maxSpawnsPerMinute (db.spawnTimes runId) →
    Spaced 60 config.limits.maxSpawnsPerMinute (db'.spawnTimes runId)

instance {config : EffectiveConfig} {runId : RunId} : Std.Refl (Db.StaysSpaced config runId) where
  refl _ h := h

instance {config : EffectiveConfig} {runId : RunId} : IsTrans Db (Db.StaysSpaced config runId) where
  trans _ _ _ hab hbc h := hbc (hab h)

/-- Nobody is hired, and no spawn is recorded. -/
def Db.UsesNothing (runId : RunId) (db db' : Db) : Prop :=
  db'.identities = db.identities ∧ db'.spawnTimes runId = db.spawnTimes runId

instance {runId : RunId} : Std.Refl (Db.UsesNothing runId) where
  refl _ := ⟨rfl, rfl⟩

instance {runId : RunId} : IsTrans Db (Db.UsesNothing runId) where
  trans _ _ _ hab hbc := ⟨hbc.1.trans hab.1, hbc.2.trans hab.2⟩

section Runs

variable {config : EffectiveConfig} {runId : RunId}

theorem staysSpaced_of_eq {db db' : Db} (h : db'.spawnTimes runId = db.spawnTimes runId) :
    db.StaysSpaced config runId db' := by
  intro hspaced
  rw [h]
  exact hspaced

theorem calm_staysSpaced : Calm (Db.StaysSpaced config runId) :=
  fun _ db hcalm => staysSpaced_of_eq (Command.exec_calm_spawnTimes hcalm db runId)

/-- A spawn that was admitted a moment ago keeps the spawns spaced. -/
theorem SpawnAdmitted.staysSpaced {call : SpawnCall} {spawn : SpawnRequest} {db : Db}
    (hadmitted : SpawnAdmitted config runId call.operationId call.checkedAt spawn db)
    (hchecked : 0 ≤ call.checkedAt) (hle : call.checkedAt ≤ call.now) :
    db.StaysSpaced config runId ((Command.spawnAgent (call.ctx runId) spawn).exec db) := by
  intro hspaced
  rcases Command.exec_spawnAgent_spawnTimes (call.ctx runId) spawn db with hsame | ⟨hnew, htimes⟩
  · rw [hsame]
    exact hspaced
  · have hroom : SpawnRoom config runId spawn.role call.checkedAt db := by
      refine hadmitted.room.resolve_left fun hrecorded => ?_
      have hnone : db.operation call.operationId = none := hnew
      rw [hnone] at hrecorded
      cases hrecorded
    have hspawned : ((Command.spawnAgent (call.ctx runId) spawn).exec db).spawnTimes runId =
        db.spawnTimes runId ++ [call.now] := htimes
    rw [hspawned]
    exact hspaced.append hle (Db.countP_spawnTimes_lt hchecked hroom.rate)

theorem staysSpaced_step {step : SupervisorStep} (htimed : step.input.Timed) (rt : Runtime) :
    rt.db.StaysSpaced config runId ((supervisorMachine config runId).step step rt).db := by
  refine keeps_step calm_staysSpaced step rt ?_ ?_
  · intro call host spawn hinput hchecked
    rw [hinput] at htimed
    exact (admitSpawn_ok (Prod.ext hchecked rfl)).staysSpaced htimed.1 htimed.2
  · intro call launch hinput hchecked
    exact staysSpaced_of_eq (Command.exec_launchForeground_spawnTimes _ _ _ _)

/-- A request that was recorded or is refused uses nothing. -/
theorem usesNothing_step {call : SpawnCall} {host : SpawnHost} {power : Nat} {rt : Runtime}
    (h : (rt.db.operation call.operationId).isSome = true ∨
      ∃ error, ((admitSpawn config runId call).run rt.db).1 = .error error) :
    rt.db.UsesNothing runId
      ((supervisorMachine config runId).step { input := .spawn call host, power } rt).db := by
  have hcalm : Calm (Db.UsesNothing runId) := fun command db hcalm =>
    ⟨Command.exec_identities hcalm db, Command.exec_calm_spawnTimes hcalm db runId⟩
  refine keeps_step hcalm _ rt ?_ nofun
  rintro call' host' spawn hinput hchecked
  cases hinput
  rcases h with hrecorded | ⟨error, herror⟩
  · rcases Command.exec_spawnAgent_spawnTimes (call.ctx runId) spawn rt.db with hsame | ⟨hnew, -⟩
    · rw [hsame]
      exact Std.Refl.refl rt.db
    · have hnone : rt.db.operation call.operationId = none := hnew
      rw [hnone] at hrecorded
      cases hrecorded
  · rw [herror] at hchecked
    cases hchecked

/-- In every run of the supervisor whose clock does not step back within a spawn request, cut off
    anywhere and continued after restarts, no minute holds more recorded spawns than the
    configuration allows; and a further spawn request that was recorded already, or that its checks
    refuse, hires nobody and is not counted. -/
theorem spawn_rate_holds (config : EffectiveConfig) (runId : RunId) (steps : List SupervisorStep)
    (htimed : ∀ step ∈ steps, step.input.Timed) :
    (∀ last : Int, ((supervisorMachine config runId).run steps).db.operations.countP (fun row =>
        row.runId == runId && row.kind == "agent.spawn" &&
          (decide (last - 60 < row.createdAt) && decide (row.createdAt ≤ last))) ≤
      config.limits.maxSpawnsPerMinute) ∧
    ∀ call host power,
      (((supervisorMachine config runId).run steps).db.operation call.operationId).isSome = true ∨
        (∃ error, ((admitSpawn config runId call).run
          ((supervisorMachine config runId).run steps).db).1 = .error error) →
      ((supervisorMachine config runId).run steps).db.UsesNothing runId
        ((supervisorMachine config runId).run (steps ++ [{ input := .spawn call host, power }])).db := by
  refine ⟨fun last => ?_, fun call host power h => ?_⟩
  · have hspaced : Spaced 60 config.limits.maxSpawnsPerMinute
        (((supervisorMachine config runId).run steps).db.spawnTimes runId) := by
      refine Machine.invariant_runFrom (m := supervisorMachine config runId)
        (I := fun rt => Spaced 60 config.limits.maxSpawnsPerMinute (rt.db.spawnTimes runId))
        (fun rt step hspaced hstep => staysSpaced_step hstep rt hspaced) (spaced_nil _ _)
        (Machine.meets_of_mem _ steps htimed)
    have hcount := hspaced last
    rwa [Db.countP_spawnTimes] at hcount
  · rw [Machine.run_append]
    exact usesNothing_step h

end Runs

/-- Two spawns at readings that step back between them. -/
theorem spawn_rate_spawned : ∃ config, resolve {} {} {} = .ok config ∧
    ∀ last : Int, ((supervisorMachine config namedRun).run
        (preparedRun ++ [spawnWorkerAt "1" 10, spawnWorkerAt "2" 5])).db.operations.countP
      (fun row => row.runId == namedRun && row.kind == "agent.spawn" &&
        (decide (last - 60 < row.createdAt) && decide (row.createdAt ≤ last))) ≤
      config.limits.maxSpawnsPerMinute := by
  obtain ⟨config, hresolve⟩ : ∃ config, resolve {} {} {} = .ok config :=
    Except.exists_ok_of_any (p := fun _ => true) (by decide +kernel) |>.imp fun _ h => h.1
  refine ⟨config, hresolve, (spawn_rate_holds config namedRun _ ?_).1⟩
  simp [preparedRun, createTaskStep, spawnWorkerAt, SupervisorInput.Timed]

end Coterie
