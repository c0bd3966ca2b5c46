/-
  Coterie.Tasks.Readiness

  Whether a task may be claimed is decided in three places (`state.rs`): `task_readiness` collects
  the facts about one task, `ready_tasks` lists the ready tasks of a run with one query, and
  `compare_and_set_claim` repeats the query's condition in its update.  The three agree in every
  reachable store, and a rejected claim names a reason that holds.

  The per-task reader looks at claims and edges of any run; that these belong to the run of their
  task is the foreign key of their tables, an invariant of the board.
-/

import Coterie.Sessions.Refinement
import Coterie.Tasks.Dependencies

namespace Coterie

/-! ## The facts about one task -/

/-- The current facts from which a task's readiness is derived. -/
structure TaskReadiness where
  status : TaskStatus
  unresolvedDependencies : List TaskId
  hasActiveClaim : Bool
deriving DecidableEq, Repr

/-- Reports whether the task can be claimed now. -/
def TaskReadiness.isReady (readiness : TaskReadiness) : Bool :=
  readiness.status == .opened && readiness.unresolvedDependencies.isEmpty &&
    !readiness.hasActiveClaim

namespace Db

/-- The prerequisites of a task that are not closed, by identifier. -/
def unresolvedDependencies (db : Db) (id : TaskId) : List TaskId :=
  (db.taskDependencies.flatMap fun edge =>
    (db.tasks.filter fun dependency =>
      edge.taskId == id && dependency.id == edge.dependencyTaskId &&
        dependency.runId == edge.runId && dependency.status != .closed).map
      fun _ => edge.dependencyTaskId).mergeSort fun a b => a.text ≤ b.text

/-- Reads the current facts that determine whether a task is ready. -/
def taskReadiness (db : Db) (id : TaskId) : Option TaskReadiness :=
  (db.task id).map fun task =>
    { status := task.status
      unresolvedDependencies := db.unresolvedDependencies id
      hasActiveClaim := db.claims.any fun claim => claim.taskId == id && claim.releasedAt == none }

/-- The order of `ready_tasks`: by creation, then by identifier. -/
def createdBefore (a b : TaskRecord) : Bool :=
  decide (a.createdAt < b.createdAt) || (a.createdAt == b.createdAt && decide (a.id.text ≤ b.id.text))

/-- Lists ready tasks in stable creation order. -/
def readyTasks (db : Db) (runId : RunId) : List TaskRecord :=
  (db.tasks.filter fun candidate =>
    candidate.runId == runId && candidate.status == .opened &&
      !db.taskClaimed candidate.runId candidate.id &&
      !db.blocked candidate.runId candidate.id).mergeSort createdBefore

end Db

/-! ## Order -/

theorem createdBefore_trans (a b c : TaskRecord) (hab : Db.createdBefore a b = true)
    (hbc : Db.createdBefore b c = true) : Db.createdBefore a c = true := by
  simp only [Db.createdBefore, Bool.or_eq_true, Bool.and_eq_true, decide_eq_true_eq,
    beq_iff_eq] at hab hbc ⊢
  rcases hab with hab | ⟨hab, hid⟩
  · left
    rcases hbc with hbc | ⟨hbc, -⟩ <;> omega
  · rcases hbc with hbc | ⟨hbc, hid'⟩
    · left
      omega
    · right
      exact ⟨hab.trans hbc, String.le_trans hid hid'⟩

theorem createdBefore_total (a b : TaskRecord) :
    (Db.createdBefore a b || Db.createdBefore b a) = true := by
  simp only [Db.createdBefore, Bool.or_eq_true, Bool.and_eq_true, decide_eq_true_eq, beq_iff_eq]
  rcases Int.lt_trichotomy a.createdAt b.createdAt with h | h | h
  · exact .inl (.inl h)
  · rcases String.le_total a.id.text b.id.text with hid | hid
    · exact .inl (.inr ⟨h, hid⟩)
    · exact .inr (.inr ⟨h.symm, hid⟩)
  · exact .inr (.inl h)

/-! ## The reader and the query -/

/-- Claims and edges belong to the run of their task, and tasks are known by their identifiers. -/
structure Board.Referred (b : Board) : Prop where
  tasks : Table.Keyed (·.id) b.tasks
  claimTask : ∀ claim ∈ b.claims, ∃ task ∈ b.tasks,
    task.id = claim.taskId ∧ task.runId = claim.runId
  edgeTask : ∀ edge ∈ b.dependencies, ∃ task ∈ b.tasks,
    task.id = edge.taskId ∧ task.runId = edge.runId

theorem Board.Referred.run {b : Board} (h : b.Referred) {task other : TaskRecord}
    (htask : task ∈ b.tasks) (hother : other ∈ b.tasks) (hid : other.id = task.id) :
    other.runId = task.runId := by
  rw [h.tasks.eq_of_key_eq hother htask hid]

/-- The reader and the query ask the same about claims. -/
theorem activeClaim_eq_taskClaimed {db : Db} (h : db.board.Referred) {task : TaskRecord}
    (htask : task ∈ db.tasks) :
    (db.claims.any fun claim => claim.taskId == task.id && claim.releasedAt == none) =
      db.taskClaimed task.runId task.id := by
  rw [Db.taskClaimed, Bool.eq_iff_iff, List.any_eq_true, List.any_eq_true]
  constructor
  · rintro ⟨claim, hclaim, hopen⟩
    rw [Bool.and_eq_true, beq_iff_eq] at hopen
    obtain ⟨row, hrow, hid, hrun⟩ := h.claimTask claim hclaim
    have hsame : claim.runId = task.runId := by
      rw [← hrun]
      exact h.run htask hrow (hid.trans hopen.1)
    exact ⟨claim, hclaim, by rw [hopen.1, hopen.2, hsame]; simp⟩
  · rintro ⟨claim, hclaim, hopen⟩
    rw [Bool.and_eq_true, Bool.and_eq_true] at hopen
    exact ⟨claim, hclaim, by rw [hopen.1.1, hopen.2]; rfl⟩

/-- The reader and the query ask the same about prerequisites. -/
theorem unresolvedDependencies_isEmpty {db : Db} (h : db.board.Referred) {task : TaskRecord}
    (htask : task ∈ db.tasks) :
    (db.unresolvedDependencies task.id).isEmpty = !db.blocked task.runId task.id := by
  have hperm := List.mergeSort_perm
    (db.taskDependencies.flatMap fun edge =>
      (db.tasks.filter fun dependency =>
        edge.taskId == task.id && dependency.id == edge.dependencyTaskId &&
          dependency.runId == edge.runId && dependency.status != .closed).map
        fun _ => edge.dependencyTaskId) fun a b => a.text ≤ b.text
  rw [Bool.eq_iff_iff, List.isEmpty_iff, Bool.not_eq_true', Db.unresolvedDependencies,
    ← List.length_eq_zero_iff, hperm.length_eq, List.length_eq_zero_iff, List.flatMap_eq_nil_iff]
  constructor
  · intro hnone
    rw [Bool.eq_false_iff]
    intro hblocked
    obtain ⟨edge, hedge, hmatch⟩ := List.any_eq_true.mp hblocked
    rw [Bool.and_eq_true, Bool.and_eq_true] at hmatch
    obtain ⟨⟨htaskId, -⟩, hdependency⟩ := hmatch
    obtain ⟨dependency, hmem, hopen⟩ := List.any_eq_true.mp hdependency
    have hempty := hnone edge hedge
    rw [List.map_eq_nil_iff, List.filter_eq_nil_iff] at hempty
    refine hempty dependency hmem ?_
    rw [Bool.and_eq_true, Bool.and_eq_true] at hopen
    rw [htaskId, hopen.1.1, hopen.1.2, hopen.2]
    rfl
  · intro hfree edge hedge
    rw [List.map_eq_nil_iff, List.filter_eq_nil_iff]
    intro dependency hmem hmatch
    rw [Bool.and_eq_true, Bool.and_eq_true, Bool.and_eq_true] at hmatch
    obtain ⟨⟨⟨htaskId, hid⟩, hrun⟩, hopen⟩ := hmatch
    obtain ⟨row, hrow, hrowId, hrowRun⟩ := h.edgeTask edge hedge
    have hsame : edge.runId = task.runId := by
      rw [← hrowRun]
      exact h.run htask hrow (hrowId.trans (beq_iff_eq.mp htaskId))
    have hblocked : db.blocked task.runId task.id = true := by
      refine List.any_eq_true.mpr ⟨edge, hedge, ?_⟩
      rw [Bool.and_eq_true, Bool.and_eq_true]
      refine ⟨⟨htaskId, beq_iff_eq.mpr hsame⟩, ?_⟩
      exact List.any_eq_true.mpr ⟨dependency, hmem, by rw [hid, hrun, hopen]; rfl⟩
    rw [hfree] at hblocked
    cases hblocked

/-- The facts about a task say that it is ready exactly when the query would list it. -/
theorem taskReadiness_isReady {db : Db} (h : db.board.Referred) {task : TaskRecord}
    (htask : task ∈ db.tasks) :
    (∃ readiness, db.taskReadiness task.id = some readiness ∧ readiness.isReady = true) ↔
      task.status = .opened ∧ db.taskClaimed task.runId task.id = false ∧
        db.blocked task.runId task.id = false := by
  have hfound : db.task task.id = some task := h.tasks.find?_eq_some htask
  have hvalue : db.taskReadiness task.id = some
      { status := task.status
        unresolvedDependencies := db.unresolvedDependencies task.id
        hasActiveClaim := db.claims.any fun claim =>
          claim.taskId == task.id && claim.releasedAt == none } := by
    rw [Db.taskReadiness, hfound]
    rfl
  rw [hvalue]
  simp only [Option.some.injEq, exists_eq_left', TaskReadiness.isReady,
    activeClaim_eq_taskClaimed h htask, unresolvedDependencies_isEmpty h htask,
    Bool.and_eq_true, beq_iff_eq, Bool.not_eq_true']
  constructor
  · rintro ⟨⟨hopened, hfree⟩, hunclaimed⟩
    exact ⟨hopened, hunclaimed, hfree⟩
  · rintro ⟨hopened, hunclaimed, hfree⟩
    exact ⟨⟨hopened, hfree⟩, hunclaimed⟩

/-- The list holds the tasks of the run that are ready by their own facts. -/
theorem mem_readyTasks {db : Db} (h : db.board.Referred) {runId : RunId} {task : TaskRecord} :
    task ∈ db.readyTasks runId ↔ task ∈ db.tasks ∧ task.runId = runId ∧
      ∃ readiness, db.taskReadiness task.id = some readiness ∧ readiness.isReady = true := by
  rw [Db.readyTasks, List.mem_mergeSort, List.mem_filter]
  simp only [Bool.and_eq_true, beq_iff_eq, Bool.not_eq_true']
  constructor
  · rintro ⟨hmem, ⟨⟨hrun, hopened⟩, hunclaimed⟩, hfree⟩
    exact ⟨hmem, hrun, (taskReadiness_isReady h hmem).mpr ⟨hopened, hunclaimed, hfree⟩⟩
  · rintro ⟨hmem, hrun, hready⟩
    obtain ⟨hopened, hunclaimed, hfree⟩ := (taskReadiness_isReady h hmem).mp hready
    exact ⟨hmem, ⟨⟨hrun, hopened⟩, hunclaimed⟩, hfree⟩

theorem readyTasks_ordered (db : Db) (runId : RunId) :
    (db.readyTasks runId).Pairwise fun a b => Db.createdBefore a b = true :=
  List.pairwise_mergeSort createdBefore_trans createdBefore_total _

/-! ## Reasons -/

/-- What a rejection says about the store. -/
def ClaimRejection.Holds (rejection : ClaimRejection) (db : Db) (claim : ClaimTaskMutation) :
    Prop :=
  match rejection with
  | .taskNotFound => ∀ task ∈ db.tasks, task.id = claim.taskId → task.runId ≠ claim.runId
  | .taskNotOpen => ∃ task ∈ db.tasks, task.id = claim.taskId ∧ task.runId = claim.runId ∧
      task.status ≠ .opened
  | .blocked => ∃ edge ∈ db.taskDependencies, edge.taskId = claim.taskId ∧
      edge.runId = claim.runId ∧ ∃ dependency ∈ db.tasks, dependency.id = edge.dependencyTaskId ∧
        dependency.runId = edge.runId ∧ dependency.status ≠ .closed
  | .alreadyClaimed => ∃ row ∈ db.claims, row.taskId = claim.taskId ∧ row.runId = claim.runId ∧
      row.releasedAt = none
  | .agentNotFound => ∀ agent ∈ db.agents, agent.id = claim.agentId → agent.runId ≠ claim.runId
  | .agentBusy => ∃ row ∈ db.assignments, row.agentId = claim.agentId ∧
      row.runId = claim.runId ∧ row.completedAt = none

/-- When the update selects no row, the reason found afterwards is true: its last branch is never
    reached. -/
theorem claimRejection_holds {db : Db} {claim : ClaimTaskMutation}
    (hnone : db.tasks.any (claim.selects db) = false) : (claimRejection db claim).Holds db claim := by
  rw [claimRejection]
  by_cases hclaimed : db.taskClaimed claim.runId claim.taskId = true
  · rw [if_pos hclaimed]
    obtain ⟨row, hrow, hmatch⟩ := List.any_eq_true.mp hclaimed
    simp only [Bool.and_eq_true, beq_iff_eq] at hmatch
    exact ⟨row, hrow, hmatch.1.1, hmatch.1.2, hmatch.2⟩
  · rw [if_neg hclaimed]
    cases hfind : db.tasks.find? fun task => task.id == claim.taskId && task.runId == claim.runId with
    | none =>
        intro task htask hid hrun
        have := List.find?_eq_none.mp hfind task htask
        simp [hid, hrun] at this
    | some task =>
        have htask : task ∈ db.tasks := List.mem_of_find?_eq_some hfind
        have hmatch := List.find?_some hfind
        simp only [Bool.and_eq_true, beq_iff_eq] at hmatch
        dsimp only
        by_cases hopened : task.status = .opened
        · rw [if_neg (by rw [not_not]; exact hopened)]
          by_cases hblocked : db.blocked claim.runId claim.taskId = true
          · rw [if_pos hblocked]
            obtain ⟨edge, hedge, hmatch⟩ := List.any_eq_true.mp hblocked
            rw [Bool.and_eq_true, Bool.and_eq_true, beq_iff_eq, beq_iff_eq] at hmatch
            obtain ⟨⟨htaskId, hrun⟩, hdependency⟩ := hmatch
            obtain ⟨dependency, hmem, hopen⟩ := List.any_eq_true.mp hdependency
            simp only [Bool.and_eq_true, beq_iff_eq, bne_iff_ne] at hopen
            exact ⟨edge, hedge, htaskId, hrun, dependency, hmem, hopen.1.1, hopen.1.2, hopen.2⟩
          · rw [if_neg hblocked]
            by_cases hbusy : db.agentBusy claim.runId claim.agentId = true
            · rw [if_pos hbusy]
              obtain ⟨row, hrow, hmatch⟩ := List.any_eq_true.mp hbusy
              simp only [Bool.and_eq_true, beq_iff_eq] at hmatch
              exact ⟨row, hrow, hmatch.1.1, hmatch.1.2, hmatch.2⟩
            · -- the task that was found would have been selected
              have hselected : claim.selects db task = true := by
                rw [Bool.not_eq_true] at hclaimed hblocked hbusy
                rw [ClaimTaskMutation.selects, hmatch.1, hmatch.2, hopened, hclaimed, hblocked,
                  hbusy]
                simp
              have hsome := List.any_eq_true.mpr ⟨task, htask, hselected⟩
              rw [hnone] at hsome
              cases hsome
        · rw [if_pos hopened]
          exact ⟨task, htask, hmatch.1, hmatch.2, hopened⟩

/-! ## Claiming a ready task -/

/-- Every assignment, also a finished one, has its claim. -/
def Board.AssignmentsClaimed (b : Board) : Prop :=
  ∀ assignment ∈ b.assignments, ∃ claim ∈ b.claims, claim.id = assignment.claimId

theorem Board.AssignmentsClaimed.step {b b' : Board} (h : b.AssignmentsClaimed)
    (hstep : b.Step b') : b'.AssignmentsClaimed := by
  cases hstep with
  | create | move => exact h
  | claim claim assignment hclaimable =>
      intro row hrow
      rcases List.mem_append.mp hrow with hold | hnew
      · obtain ⟨old, hmem, hid⟩ := h row hold
        exact ⟨old, List.mem_append_left _ hmem, hid⟩
      · rw [List.mem_singleton.mp hnew]
        exact ⟨claim, List.mem_append_right _ (List.mem_singleton_self _),
          (congrArg Owner.claimId hclaimable.owner).symm⟩
  | release =>
      intro row hrow
      obtain ⟨old, hold, rfl⟩ := Table.mem_updateWhere.mp hrow
      obtain ⟨claim, hclaim, hid⟩ := h old hold
      refine ⟨_, Table.mem_updateWhere.mpr ⟨claim, hclaim, rfl⟩, ?_⟩
      split <;> split <;> exact hid
  | revise | bind =>
      intro row hrow
      obtain ⟨old, hold, rfl⟩ := Table.mem_updateWhere.mp hrow
      obtain ⟨claim, hclaim, hid⟩ := h old hold
      refine ⟨claim, hclaim, ?_⟩
      split <;> exact hid
  | drain assignments hdrained =>
      intro row hrow
      obtain ⟨old, hold, hrowDrained⟩ := Table.exists_mem_of_forall₂ hdrained hrow
      obtain ⟨claim, hclaim, hid⟩ := h old hold
      cases hrowDrained with
      | same => exact ⟨claim, hclaim, hid⟩
      | draining => exact ⟨claim, hclaim, hid⟩

theorem assignmentsClaimed_run (commands : List Command) :
    (storeMachine.run commands).board.AssignmentsClaimed := by
  have hboth : (storeMachine.run commands).board.Owned ∧
      (storeMachine.run commands).board.AssignmentsClaimed := by
    refine Machine.invariant_run (m := storeMachine)
      (I := fun db : Db => db.board.Owned ∧ db.board.AssignmentsClaimed)
      ⟨Board.owned_empty, fun _ h => absurd h List.not_mem_nil⟩ ?_ commands
    rintro db command ⟨howned, hclaimed⟩
    rcases command.exec_moves howned with heq | hstep
    · rw [show storeMachine.step command db = command.exec db from rfl, heq]
      exact ⟨howned, hclaimed⟩
    · exact ⟨howned.step hstep, hclaimed.step hstep⟩
  exact hboth.2

theorem referred_run (commands : List Command) : (storeMachine.run commands).board.Referred := by
  obtain ⟨howned, hgated⟩ := boardSound_run commands
  exact ⟨howned.tasks, howned.claimedTask, hgated.edgeTask⟩

/-- What the callers of `compareAndSetClaim` provide: an operation of the run that made no claim
    yet, and a new assignment identifier. -/
structure ClaimTaskMutation.Fresh (claim : ClaimTaskMutation) (db : Db) : Prop where
  operation : ∃ row ∈ db.operations, row.id = claim.operationId ∧ row.runId = claim.runId
  unclaimed : ∀ row ∈ db.claims, row.operationId ≠ claim.operationId
  assignment : ∀ row ∈ db.assignments, row.id ≠ claim.assignmentId

/-- The agent exists and holds nothing. -/
structure ClaimTaskMutation.IdleAgent (claim : ClaimTaskMutation) (db : Db) (agent : AgentRecord) :
    Prop where
  mem : agent ∈ db.agents
  id : agent.id = claim.agentId
  runId : agent.runId = claim.runId
  generation : 0 ≤ agent.generation
  idle : ∀ row ∈ db.assignments, row.agentId = agent.id → row.completedAt ≠ none

/-- An idle agent claims the task that the update selects: no constraint stands in the way. -/
theorem compareAndSetClaim_claims {db : Db} {claim : ClaimTaskMutation} {agent : AgentRecord}
    {task : TaskRecord} (hreferred : db.board.Referred) (hclaimed : db.board.AssignmentsClaimed)
    (hagents : Table.Keyed (·.id) db.agents) (hfresh : claim.Fresh db)
    (hidle : claim.IdleAgent db agent) (htask : task ∈ db.tasks)
    (hselects : claim.selects db task = true) :
    Tx.Succeeds (fun result _ => ∃ claimId, result = .claimed claimId claim.assignmentId)
      (compareAndSetClaim claim) db := by
  obtain ⟨hid, hrun, hopened, hunclaimed, -, -⟩ := selects_eq_true hselects
  have hfound : (db.agents.find? fun row => row.id == claim.agentId && row.runId == claim.runId) =
      some agent := by
    cases hfind : db.agents.find? fun row =>
        row.id == claim.agentId && row.runId == claim.runId with
    | none =>
        have := List.find?_eq_none.mp hfind agent hidle.mem
        simp [hidle.id, hidle.runId] at this
    | some row =>
        have hrow := List.find?_some hfind
        simp only [Bool.and_eq_true, beq_iff_eq] at hrow
        rw [hagents.eq_of_key_eq (List.mem_of_find?_eq_some hfind) hidle.mem
          (hrow.1.trans hidle.id.symm)]
  have hagentFound : db.agent claim.agentId = some agent := by
    rw [← hidle.id]
    exact hagents.find?_eq_some hidle.mem
  refine .read_bind ?_
  rw [hfound]
  refine .read_bind ?_
  rw [if_neg (by rw [not_not]; exact List.any_eq_true.mpr ⟨task, htask, hselects⟩)]
  refine .bind (Q := fun _ db' => db' = _) (.write rfl) ?_
  rintro _ _ rfl
  refine .read_bind ?_
  -- the claim
  have hnew : ∀ row ∈ db.claims, row.id < db.nextClaimId := by
    intro row hrow
    have hle : row.id ≤ (db.claims.map (·.id)).foldl max 0 :=
      Table.le_foldl_max (List.mem_map_of_mem hrow)
    rw [Db.nextClaimId]
    omega
  have htask' : (Table.updateWhere (claim.selects db)
      (fun task => { task with status := .inProgress, updatedAt := claim.claimedAt })
      db.tasks).any (fun row => row.id == claim.taskId && row.runId == claim.runId) = true := by
    refine List.any_eq_true.mpr ⟨_, Table.mem_updateWhere.mpr ⟨task, htask, rfl⟩, ?_⟩
    rw [if_pos hselects]
    simp [hid, hrun]
  have hclaim : Tx.Succeeds (fun _ db' => db' = { db with
        tasks := Table.updateWhere (claim.selects db)
          (fun task => { task with status := .inProgress, updatedAt := claim.claimedAt }) db.tasks
        claims := db.claims ++ [claim.claimRecord db.nextClaimId] })
      (insertClaim (claim.claimRecord db.nextClaimId)) { db with
        tasks := Table.updateWhere (claim.selects db)
          (fun task => { task with status := .inProgress, updatedAt := claim.claimedAt })
          db.tasks } := by
    refine .require_bind ?_ (.require_bind ?_ (.require_bind ?_ (.require_bind htask'
      (.require_bind ?_ (.require_bind ?_ (.write rfl))))))
    · rw [Bool.not_eq_true', List.any_eq_false]
      intro row hrow
      have := hnew row hrow
      simp only [ClaimTaskMutation.claimRecord, beq_iff_eq]
      omega
    · -- an open claim of the task would be one of its run, which the update excludes
      rw [Bool.or_eq_true, Bool.not_eq_true', List.any_eq_false]
      right
      intro row hrow hopen
      rw [Bool.and_eq_true, beq_iff_eq] at hopen
      obtain ⟨owner, howner, hownerId, hownerRun⟩ := hreferred.claimTask row hrow
      have hrowRun : row.runId = claim.runId := by
        rw [← hownerRun, ← hrun]
        exact hreferred.run htask howner (hownerId.trans (hopen.1.trans hid.symm))
      have hheld : db.taskClaimed claim.runId claim.taskId = true :=
        List.any_eq_true.mpr ⟨row, hrow, by
          rw [hrowRun, hopen.2, show row.taskId = claim.taskId from hopen.1]; simp⟩
      rw [hunclaimed] at hheld
      cases hheld
    · rw [Bool.not_eq_true', List.any_eq_false]
      intro row hrow
      rw [beq_iff_eq]
      exact hfresh.unclaimed row hrow
    · refine List.any_eq_true.mpr ⟨agent, hidle.mem, ?_⟩
      rw [Bool.and_eq_true, beq_iff_eq, beq_iff_eq]
      exact ⟨hidle.id, hidle.runId⟩
    · obtain ⟨row, hrow, hrowId, hrowRun⟩ := hfresh.operation
      refine List.any_eq_true.mpr ⟨row, hrow, ?_⟩
      rw [Bool.and_eq_true, beq_iff_eq, beq_iff_eq]
      exact ⟨hrowId, hrowRun⟩
  refine .bind hclaim ?_
  rintro _ _ rfl
  -- the assignment
  have hassignment : Tx.Succeeds (fun _ _ => True)
      (insertAssignment (claim.assignmentRecord db.nextClaimId agent.generation)) { db with
        tasks := Table.updateWhere (claim.selects db)
          (fun task => { task with status := .inProgress, updatedAt := claim.claimedAt }) db.tasks
        claims := db.claims ++ [claim.claimRecord db.nextClaimId] } := by
    refine .require_bind ?_ (.require_bind rfl (.require_bind ?_ (.require_bind ?_
      (.require_bind ?_ (.require_bind htask' (.require_bind ?_ (.require_bind ?_
        (.write trivial))))))))
    · show (db.agent claim.agentId).any _ = true
      rw [hagentFound, Option.any_some, Bool.and_eq_true, beq_iff_eq, beq_iff_eq]
      exact ⟨hidle.runId, rfl⟩
    · rw [Bool.not_eq_true', List.any_eq_false]
      intro row hrow
      rw [beq_iff_eq]
      exact hfresh.assignment row hrow
    · rw [Bool.not_eq_true', List.any_eq_false]
      intro row hrow
      rw [beq_iff_eq]
      obtain ⟨recorded, hrecorded, hclaimId⟩ := hclaimed row hrow
      have := hnew recorded hrecorded
      show row.claimId ≠ db.nextClaimId
      omega
    · rw [Bool.or_eq_true, Bool.not_eq_true', List.any_eq_false]
      right
      intro row hrow hopen
      rw [Bool.and_eq_true, beq_iff_eq, beq_iff_eq] at hopen
      exact hidle.idle row hrow (hopen.1.trans hidle.id.symm) hopen.2
    · refine List.any_eq_true.mpr ⟨_, List.mem_append_right _ (List.mem_singleton_self _), ?_⟩
      simp [ClaimTaskMutation.claimRecord, ClaimTaskMutation.assignmentRecord]
    · exact decide_eq_true hidle.generation
  exact .bind hassignment fun _ _ _ => .pure ⟨_, rfl⟩

/-- A claim that succeeds found the task open, unclaimed and with all prerequisites closed. -/
theorem selected_of_claimed {db db' : Db} {claim : ClaimTaskMutation} {claimId : Int}
    {assignmentId : AssignmentId}
    (h : (compareAndSetClaim claim).run db = (.ok (.claimed claimId assignmentId), db')) :
    ∃ task ∈ db.tasks, claim.selects db task = true := by
  rcases compareAndSetClaim_ok h with ⟨_, hrejected, -⟩ | ⟨_, task, htask, hselects, -⟩
  · cases hrejected
  · exact ⟨task, htask, hselects⟩

/-- A rejection names what stands in the way. -/
theorem rejection_holds {db db' : Db} {claim : ClaimTaskMutation} {rejection : ClaimRejection}
    (h : (compareAndSetClaim claim).run db = (.ok (.rejected rejection), db')) :
    rejection.Holds db claim := by
  obtain ⟨agent?, _, h₁, h⟩ := Tx.bind_eq_ok.mp h
  obtain ⟨hagent, rfl⟩ := Tx.read_eq_ok.mp h₁
  cases agent? with
  | none =>
      obtain ⟨hrejection, -⟩ := Tx.pure_eq_ok.mp h
      cases hrejection
      intro agent hmem hid hrun
      have := List.find?_eq_none.mp hagent agent hmem
      simp [hid, hrun] at this
  | some agent =>
      obtain ⟨selected, _, h₂, h⟩ := Tx.bind_eq_ok.mp h
      obtain ⟨rfl, rfl⟩ := Tx.read_eq_ok.mp h₂
      split at h
      · next hnone =>
          obtain ⟨hrejection, -⟩ := Tx.read_eq_ok.mp h
          cases hrejection
          exact claimRejection_holds (Bool.eq_false_iff.mpr hnone)
      · obtain ⟨_, _, -, h⟩ := Tx.bind_eq_ok.mp h
        obtain ⟨_, _, -, h⟩ := Tx.bind_eq_ok.mp h
        obtain ⟨_, _, -, h⟩ := Tx.bind_eq_ok.mp h
        obtain ⟨_, _, -, h⟩ := Tx.bind_eq_ok.mp h
        obtain ⟨hclaimed, -⟩ := Tx.pure_eq_ok.mp h
        cases hclaimed

/-- In every reachable store the three readers agree.  An idle agent's claim succeeds exactly when
    the facts about the task say that it is ready and the list of its run holds it; the list holds
    exactly the ready tasks, by creation and identifier; and a rejected claim names a reason that
    holds and changes nothing. -/
theorem readiness_paths_agree (commands : List Command) :
    (∀ (claim : ClaimTaskMutation) (agent : AgentRecord),
      claim.Fresh (storeMachine.run commands) →
      claim.IdleAgent (storeMachine.run commands) agent →
      ((∃ claimId db', (compareAndSetClaim claim).run (storeMachine.run commands) =
          (.ok (.claimed claimId claim.assignmentId), db')) ↔
        (∃ readiness, (storeMachine.run commands).taskReadiness claim.taskId = some readiness ∧
          readiness.isReady = true) ∧
        ∃ task ∈ (storeMachine.run commands).readyTasks claim.runId, task.id = claim.taskId)) ∧
    (∀ (runId : RunId) (task : TaskRecord),
      task ∈ (storeMachine.run commands).readyTasks runId ↔
        task ∈ (storeMachine.run commands).tasks ∧ task.runId = runId ∧
          ∃ readiness, (storeMachine.run commands).taskReadiness task.id = some readiness ∧
            readiness.isReady = true) ∧
    (∀ runId : RunId, ((storeMachine.run commands).readyTasks runId).Pairwise fun a b =>
      Db.createdBefore a b = true) ∧
    ∀ (claim : ClaimTaskMutation) (rejection : ClaimRejection) (db' : Db),
      (compareAndSetClaim claim).run (storeMachine.run commands) =
          (.ok (.rejected rejection), db') →
        rejection.Holds (storeMachine.run commands) claim ∧ db' = storeMachine.run commands := by
  have hreferred := referred_run commands
  refine ⟨?_, fun runId task => mem_readyTasks hreferred, readyTasks_ordered _, ?_⟩
  · intro claim agent hfresh hidle
    constructor
    · rintro ⟨claimId, db', hrun⟩
      obtain ⟨task, htask, hselects⟩ := selected_of_claimed hrun
      obtain ⟨hid, htaskRun, hopened, hunclaimed, hfree, -⟩ := selects_eq_true hselects
      rw [← hid, ← htaskRun] at hunclaimed hfree
      have hready := (taskReadiness_isReady hreferred htask).mpr ⟨hopened, hunclaimed, hfree⟩
      refine ⟨hid ▸ hready, task, ?_, hid⟩
      exact (mem_readyTasks hreferred).mpr ⟨htask, htaskRun, hready⟩
    · rintro ⟨-, task, hlisted, hid⟩
      obtain ⟨htask, htaskRun, hready⟩ := (mem_readyTasks hreferred).mp hlisted
      obtain ⟨hopened, hunclaimed, hfree⟩ := (taskReadiness_isReady hreferred htask).mp hready
      have hfreeAgent : (storeMachine.run commands).agentBusy task.runId claim.agentId = false := by
        rw [Db.agentBusy, List.any_eq_false]
        intro row hrow hbusy
        simp only [Bool.and_eq_true, beq_iff_eq] at hbusy
        exact hidle.idle row hrow (hbusy.1.1.trans hidle.id.symm) hbusy.2
      have hselects : claim.selects (storeMachine.run commands) task = true := by
        rw [ClaimTaskMutation.selects, hid, htaskRun, hopened, ← hid, ← htaskRun, hunclaimed,
          hfree, hfreeAgent]
        simp
      obtain ⟨_, db', hrun, claimId, rfl⟩ := compareAndSetClaim_claims hreferred
        (assignmentsClaimed_run commands) (fenced_run commands).agents hfresh hidle htask hselects
      exact ⟨claimId, db', hrun⟩
  · intro claim rejection db' hrun
    refine ⟨rejection_holds hrun, ?_⟩
    rcases compareAndSetClaim_ok hrun with ⟨_, -, hsame⟩ | ⟨_, _, -, -, hclaimed, -⟩
    · exact hsame
    · cases hclaimed

end Coterie
