/-
  Coterie.Tasks.Refinement

  The commands of the run database move its task board by the steps of `Board.Step`, at most one
  each, and a command that fails moves it not at all.

  Every repository function that touches the board has a lemma that says what a successful call did
  and what it checked before (`<function>_ok`); the refinement is assembled from these and from the
  frame conditions of all other functions.
-/

import Coterie.Supervisor.Machine
import Coterie.Tasks.Ownership

namespace Coterie

/-! ## Functions that leave the board alone -/

/-- The tables of the board. -/
def boardTables : List TableName :=
  [.tasks, .taskDependencies, .claims, .assignments]

/-- The boards before and after are the same. -/
def Db.SameBoard (db db' : Db) : Prop :=
  db'.board = db.board

theorem WritesOnly.sameBoard {tables : List TableName} {db db' : Db}
    (h : WritesOnly tables db db') (hno : ∀ table ∈ boardTables, table ∉ tables) :
    db.SameBoard db' := by
  have htasks : db'.tasks = db.tasks := h .tasks (hno _ (by decide))
  have hedges : db'.taskDependencies = db.taskDependencies :=
    h .taskDependencies (hno _ (by decide))
  have hclaims : db'.claims = db.claims := h .claims (hno _ (by decide))
  have hassignments : db'.assignments = db.assignments := h .assignments (hno _ (by decide))
  unfold Db.SameBoard Db.board
  rw [htasks, hedges, hclaims, hassignments]

/-- A function whose frame avoids the board. -/
theorem still {α : Type} {x : Repo α} (tables : List TableName)
    (hno : ∀ table ∈ boardTables, table ∉ tables)
    (h : Tx.Keeps (Written tables) x) :
    Tx.Ensures Db.SameBoard x :=
  .of_keeps h fun _ _ hw => hw.writesOnly.sameBoard hno

/-! ## At most one step -/

/-- From a board with sound ownership, at most one step leads to the board after. -/
def Db.BoardMoves (db db' : Db) : Prop :=
  db.board.Owned → db.board.Moves db'.board

section Compose

variable {α β : Type} {x : Repo α} {f : α → Repo β}

theorem moves_of_still (h : Tx.Ensures Db.SameBoard x) : Tx.Ensures Db.BoardMoves x :=
  fun db a db' hx _ => .inl (h db a db' hx)

theorem moves_bind_still (hx : Tx.Ensures Db.BoardMoves x)
    (hf : ∀ a, Tx.Ensures Db.SameBoard (f a)) : Tx.Ensures Db.BoardMoves (x >>= f) := by
  refine .bind hx hf ?_
  intro s t u hst htu howned
  unfold Db.SameBoard at htu
  rw [htu]
  exact hst howned

theorem still_bind_moves (hx : Tx.Ensures Db.SameBoard x)
    (hf : ∀ a, Tx.Ensures Db.BoardMoves (f a)) : Tx.Ensures Db.BoardMoves (x >>= f) := by
  refine .bind hx hf ?_
  intro s t u hst htu howned
  unfold Db.SameBoard at hst
  unfold Db.BoardMoves at htu
  rw [← hst] at howned ⊢
  exact htu howned

end Compose

/-! ## Creating tasks -/

theorem insertTask_ok {task : TaskRecord} {db db' : Db} {u : Unit}
    (h : (insertTask task).run db = (.ok u, db')) :
    (∀ row ∈ db.tasks, row.id ≠ task.id) ∧ db' = { db with tasks := db.tasks ++ [task] } := by
  simp only [insertTask, constraint, Tx.bind_eq_ok, Tx.require_eq_ok, Tx.write_eq_ok] at h
  obtain ⟨_, _, ⟨hid, rfl⟩, _, _, ⟨-, rfl⟩, rfl⟩ := h
  refine ⟨?_, rfl⟩
  intro row hrow heq
  have hany : db.tasks.any (·.id == task.id) = true :=
    List.any_eq_true.mpr ⟨row, hrow, by simpa using heq⟩
  rw [hany] at hid
  cases hid

theorem insertDependency_ok {edge : DependencyRecord} {db db' : Db} {u : Unit}
    (h : (insertDependency edge).run db = (.ok u, db')) :
    edge.taskId ≠ edge.dependencyTaskId ∧
      (∃ row ∈ db.tasks, row.id = edge.dependencyTaskId ∧ row.runId = edge.runId) ∧
      db' = { db with taskDependencies := db.taskDependencies ++ [edge] } := by
  simp only [insertDependency, constraint, Tx.bind_eq_ok, Tx.require_eq_ok, Tx.write_eq_ok] at h
  obtain ⟨_, _, ⟨-, rfl⟩, _, _, ⟨hself, rfl⟩, _, _, ⟨-, rfl⟩, _, _, ⟨hdep, rfl⟩, rfl⟩ := h
  obtain ⟨row, hrow, hids⟩ := List.any_eq_true.mp hdep
  exact ⟨by simpa using hself, ⟨row, hrow, by simpa using hids⟩, rfl⟩

/-- The edges of a new task are written in order, each to a task of the run. -/
theorem insertDependencies_ok {task : NewTask} {runId : RunId} {now : Int} :
    ∀ {ids : List TaskId} {db db' : Db} {u : Unit},
      (Tx.each (fun id => insertDependency (task.edge runId now id)) ids).run db =
        (.ok u, db') →
      (∀ id ∈ ids, task.taskId ≠ id ∧ ∃ row ∈ db.tasks, row.id = id ∧ row.runId = runId) ∧
        db' = { db with
          taskDependencies := db.taskDependencies ++ ids.map (task.edge runId now) }
  | [], db, db', u, h => by
      rw [Tx.each_nil] at h
      obtain ⟨-, rfl⟩ := Tx.pure_eq_ok.mp h
      exact ⟨by simp, by simp⟩
  | id :: ids, db, db', u, h => by
      rw [Tx.each_cons] at h
      obtain ⟨_, db₁, h₁, h₂⟩ := Tx.bind_eq_ok.mp h
      obtain ⟨hself, hdep, rfl⟩ := insertDependency_ok h₁
      obtain ⟨hrest, rfl⟩ := insertDependencies_ok h₂
      constructor
      · intro other hother
        rcases List.mem_cons.mp hother with rfl | hmem
        · exact ⟨hself, hdep⟩
        · exact hrest other hmem
      · simp only [List.map_cons, List.append_assoc, List.singleton_append]

theorem requireDependencies_ok {runId : RunId} :
    ∀ {ids : List TaskId} {db db' : Db} {u : Unit},
      (Tx.each (requireDependency runId) ids).run db = (.ok u, db') → db' = db
  | [], db, db', u, h => by
      rw [Tx.each_nil] at h
      exact (Tx.pure_eq_ok.mp h).2.symm
  | id :: ids, db, db', u, h => by
      rw [Tx.each_cons] at h
      obtain ⟨_, db₁, h₁, h₂⟩ := Tx.bind_eq_ok.mp h
      obtain ⟨-, rfl⟩ := Tx.require_eq_ok.mp h₁
      exact requireDependencies_ok h₂

/-- A task is created together with its edges, which lead to older tasks of its run. -/
theorem insertNewTask_step {task : NewTask} {runId : RunId} {now : Int} {db db' : Db} {u : Unit}
    (h : (insertNewTask task runId now).run db = (.ok u, db')) :
    db.board.Step db'.board := by
  obtain ⟨_, db₁, h₁, h₂⟩ := Tx.bind_eq_ok.mp h
  obtain ⟨_, db₂, h₃, h₄⟩ := Tx.bind_eq_ok.mp h₂
  rw [requireDependencies_ok h₁] at h₃
  obtain ⟨hnew, rfl⟩ := insertTask_ok h₃
  obtain ⟨hdeps, rfl⟩ := insertDependencies_ok h₄
  refine .create (task.record runId now) (task.dependencies.map (task.edge runId now)) rfl hnew ?_
  intro edge hedge
  obtain ⟨id, hid, rfl⟩ := List.mem_map.mp hedge
  obtain ⟨hself, row, hrow, hids⟩ := hdeps id hid
  refine ⟨rfl, rfl, ?_⟩
  -- the task itself is no prerequisite of its own, so the row was there before
  rcases List.mem_append.mp hrow with hold | hrow
  · exact ⟨row, hold, hids⟩
  · rw [List.mem_singleton.mp hrow] at hids
    exact absurd hids.1 hself

/-! ## Claiming -/

theorem insertClaim_ok {claim : ClaimRecord} {db db' : Db} {u : Unit}
    (h : (insertClaim claim).run db = (.ok u, db')) :
    (∀ row ∈ db.claims, row.id ≠ claim.id) ∧
      (claim.releasedAt = none →
        ∀ row ∈ db.claims, row.isOpen = true → row.taskId ≠ claim.taskId) ∧
      db' = { db with claims := db.claims ++ [claim] } := by
  simp only [insertClaim, constraint, Tx.bind_eq_ok, Tx.require_eq_ok, Tx.write_eq_ok] at h
  obtain ⟨_, _, ⟨hid, rfl⟩, _, _, ⟨htask, rfl⟩, _, _, ⟨-, rfl⟩, _, _, ⟨-, rfl⟩, _, _, ⟨-, rfl⟩,
    _, _, ⟨-, rfl⟩, rfl⟩ := h
  refine ⟨by simpa using hid, ?_, rfl⟩
  intro hopenNew row hrow hopen heq
  rw [hopenNew] at htask
  have hnone : ∀ row ∈ db.claims, row.taskId = claim.taskId → ¬ row.releasedAt = none := by
    simpa using htask
  exact hnone row hrow heq (by simpa [ClaimRecord.isOpen] using hopen)

theorem insertAssignment_ok {assignment : AssignmentRecord} {db db' : Db} {u : Unit}
    (h : (insertAssignment assignment).run db = (.ok u, db')) :
    (∀ row ∈ db.assignments, row.id ≠ assignment.id) ∧
      (assignment.completedAt = none →
        ∀ row ∈ db.assignments, row.isOpen = true → row.agentId ≠ assignment.agentId) ∧
      db' = { db with assignments := db.assignments ++ [assignment] } := by
  simp only [insertAssignment, constraint, Tx.bind_eq_ok, Tx.require_eq_ok, Tx.write_eq_ok] at h
  obtain ⟨_, _, ⟨-, rfl⟩, _, _, ⟨-, rfl⟩, _, _, ⟨hid, rfl⟩, _, _, ⟨-, rfl⟩, _, _, ⟨hagent, rfl⟩,
    _, _, ⟨-, rfl⟩, _, _, ⟨-, rfl⟩, _, _, ⟨-, rfl⟩, rfl⟩ := h
  refine ⟨by simpa using hid, ?_, rfl⟩
  intro hopenNew row hrow hopen heq
  rw [hopenNew] at hagent
  have hnone : ∀ row ∈ db.assignments, row.agentId = assignment.agentId →
      ¬ row.completedAt = none := by
    simpa using hagent
  exact hnone row hrow heq (by simpa [AssignmentRecord.isOpen] using hopen)

/-- What the claiming update found: an open, ready and unclaimed task. -/
theorem selects_eq_true {claim : ClaimTaskMutation} {db : Db} {task : TaskRecord}
    (h : claim.selects db task = true) :
    task.id = claim.taskId ∧ task.runId = claim.runId ∧ task.status = .opened ∧
      db.taskClaimed claim.runId claim.taskId = false ∧
      db.blocked claim.runId claim.taskId = false ∧
      db.agentBusy claim.runId claim.agentId = false := by
  simp only [ClaimTaskMutation.selects, Bool.and_eq_true, beq_iff_eq, Bool.not_eq_true'] at h
  obtain ⟨⟨⟨⟨⟨hid, hrun⟩, hopened⟩, hclaimed⟩, hblocked⟩, hbusy⟩ := h
  rw [hid, hrun] at hclaimed hblocked
  rw [hrun] at hbusy
  exact ⟨hid, hrun, hopened, hclaimed, hblocked, hbusy⟩

/-- A task that is not blocked is ready. -/
theorem ready_of_not_blocked {db : Db} {runId : RunId} {taskId : TaskId}
    (h : db.blocked runId taskId = false) : db.board.Ready runId taskId := by
  intro edge hedge htask hrun row hrow hid hrowRun
  by_contra hstatus
  have hblocked : db.blocked runId taskId = true := by
    refine List.any_eq_true.mpr ⟨edge, hedge, ?_⟩
    rw [Bool.and_eq_true, Bool.and_eq_true]
    refine ⟨⟨by simpa using htask, by simpa using hrun⟩, ?_⟩
    exact List.any_eq_true.mpr ⟨row, hrow, by simp [hid, hrowRun, hstatus]⟩
  rw [h] at hblocked
  cases hblocked

/-- A claim is rejected and changes nothing, or finds an open, ready and unclaimed task and an idle
    agent. -/
theorem compareAndSetClaim_ok {claim : ClaimTaskMutation} {db db' : Db} {result : ClaimTaskResult}
    (h : (compareAndSetClaim claim).run db = (.ok result, db')) :
    (∃ rejection, result = .rejected rejection ∧ db' = db) ∨
      ∃ generation, ∃ task ∈ db.tasks, claim.selects db task = true ∧
        result = .claimed db.nextClaimId claim.assignmentId ∧
        db.board.Claimable (claim.claimRecord db.nextClaimId)
          (claim.assignmentRecord db.nextClaimId generation) ∧
        db' = { db with
          tasks := Table.updateWhere (claim.selects db)
            (fun task => { task with status := .inProgress, updatedAt := claim.claimedAt })
            db.tasks
          claims := db.claims ++ [claim.claimRecord db.nextClaimId]
          assignments := db.assignments ++
            [claim.assignmentRecord db.nextClaimId generation] } := by
  obtain ⟨agent?, _, h₁, h⟩ := Tx.bind_eq_ok.mp h
  obtain ⟨hagent, rfl⟩ := Tx.read_eq_ok.mp h₁
  cases agent? with
  | none =>
      obtain ⟨rfl, rfl⟩ := Tx.pure_eq_ok.mp h
      exact .inl ⟨_, rfl, rfl⟩
  | some agent =>
      obtain ⟨selected, _, h₂, h⟩ := Tx.bind_eq_ok.mp h
      obtain ⟨rfl, rfl⟩ := Tx.read_eq_ok.mp h₂
      split at h
      · obtain ⟨rfl, rfl⟩ := Tx.read_eq_ok.mp h
        exact .inl ⟨_, rfl, rfl⟩
      · next hselected =>
          right
          obtain ⟨task, htask, hselects⟩ := List.any_eq_true.mp (by simpa using hselected)
          obtain ⟨hid, hrun, hopened, -, hblocked, -⟩ := selects_eq_true hselects
          obtain ⟨_, db₁, h₃, h⟩ := Tx.bind_eq_ok.mp h
          obtain rfl := Tx.write_eq_ok.mp h₃
          obtain ⟨claimId, _, h₄, h⟩ := Tx.bind_eq_ok.mp h
          obtain ⟨rfl, rfl⟩ := Tx.read_eq_ok.mp h₄
          obtain ⟨_, db₂, h₅, h⟩ := Tx.bind_eq_ok.mp h
          obtain ⟨hclaimNew, hunclaimed, rfl⟩ := insertClaim_ok h₅
          obtain ⟨_, db₃, h₆, h⟩ := Tx.bind_eq_ok.mp h
          obtain ⟨hassignmentNew, hidle, rfl⟩ := insertAssignment_ok h₆
          obtain ⟨rfl, rfl⟩ := Tx.pure_eq_ok.mp h
          refine ⟨agent.generation, task, htask, hselects, rfl, ?_, rfl⟩
          exact {
            task := ⟨task, htask, hid, hrun, hopened⟩
            ready := ready_of_not_blocked hblocked
            unclaimed := hunclaimed rfl
            idle := hidle rfl
            claimNew := hclaimNew
            assignmentNew := hassignmentNew
            claimOpen := rfl
            assignmentOpen := rfl
            assignmentActive := rfl
            assignmentUnbound := rfl
            owner := rfl }

/-- With one row per task, the claiming update selects the claimed row and no other. -/
theorem selects_iff {claim : ClaimTaskMutation} {db : Db} (htasks : Table.Keyed (·.id) db.tasks)
    {task : TaskRecord} (htask : task ∈ db.tasks) (hselects : claim.selects db task = true)
    {row : TaskRecord} (hrow : row ∈ db.tasks) :
    claim.selects db row = (row.id == claim.taskId && row.runId == claim.runId) := by
  by_cases hids : (row.id == claim.taskId && row.runId == claim.runId) = true
  · have hid : row.id = task.id := by
      rw [(selects_eq_true hselects).1]
      exact (by simpa using hids : row.id = claim.taskId ∧ row.runId = claim.runId).1
    rw [htasks.eq_of_key_eq hrow htask hid, hselects, ← htasks.eq_of_key_eq hrow htask hid, hids]
  · rw [Bool.eq_false_iff.mpr hids]
    rw [Bool.eq_false_iff]
    intro hrowSelects
    obtain ⟨hid, hrun, -⟩ := selects_eq_true hrowSelects
    exact hids (by simp [hid, hrun])

theorem compareAndSetClaim_moves (claim : ClaimTaskMutation) :
    Tx.Ensures Db.BoardMoves (compareAndSetClaim claim) := by
  intro db result db' h howned
  rcases compareAndSetClaim_ok h with ⟨_, -, rfl⟩ | ⟨generation, task, htask, hselects, -, hclaim, rfl⟩
  · exact .inl rfl
  · right
    have hboard := Board.Step.claim _ _ hclaim
    have htasks := Table.updateWhere_congr
      (fun task : TaskRecord =>
        { task with status := .inProgress, updatedAt := claim.claimedAt })
      (fun row hrow => selects_iff howned.tasks htask hselects hrow)
    unfold Board.claim Board.updateTask at hboard
    unfold Db.board
    rw [htasks]
    exact hboard

theorem claimTask_moves (claim : ClaimTaskMutation) :
    Tx.Ensures Db.BoardMoves (claimTask claim) :=
  moves_bind_still (compareAndSetClaim_moves claim) fun result =>
    still [.events, .continuations] (by decide)
      (.bind (writes_appendTaskClaimEvents claim result) fun _ => .pure _)

/-! ## Transitions -/

/-- The release of a task in progress. -/
theorem releaseTaskOwnership_ok {mutation : TaskTransitionMutation} {db db' : Db} {u : Unit}
    (h : (releaseTaskOwnership mutation).run db = (.ok u, db')) :
    ∃ state, mutation.transition.assignmentState = some state ∧
      (db.activeAssignmentsOf mutation.runId mutation.taskId).length = 1 ∧
      (db.activeClaimsOf mutation.runId mutation.taskId).length = 1 ∧
      db' = db.releaseOwnership mutation.runId mutation.taskId state mutation.summary
        mutation.transitionedAt := by
  unfold releaseTaskOwnership at h
  cases hstate : mutation.transition.assignmentState with
  | none =>
      rw [hstate] at h
      exact absurd h Tx.throw_eq_ok
  | some state =>
      rw [hstate] at h
      obtain ⟨assignments, _, h₁, h⟩ := Tx.bind_eq_ok.mp h
      obtain ⟨rfl, rfl⟩ := Tx.read_eq_ok.mp h₁
      obtain ⟨claims, _, h₂, h⟩ := Tx.bind_eq_ok.mp h
      obtain ⟨rfl, rfl⟩ := Tx.read_eq_ok.mp h₂
      obtain ⟨_, db₁, h₃, h⟩ := Tx.bind_eq_ok.mp h
      obtain rfl := Tx.write_eq_ok.mp h₃
      rcases Tx.when_eq_ok.mp h with ⟨-, hthrow⟩ | ⟨hcounts, rfl⟩
      · exact absurd hthrow Tx.throw_eq_ok
      · rw [not_or, not_not, not_not] at hcounts
        exact ⟨state, rfl, hcounts.1, hcounts.2, rfl⟩

/-- What a transition that was applied found and did. -/
structure Transitioned (mutation : TaskTransitionMutation) (db db' : Db) (task : TaskRecord)
    (status : TaskStatus) : Prop where
  found : db.task mutation.taskId = some task
  inRun : task.runId = mutation.runId
  permitted : task.status.transition mutation.transition = some status
  accepted : mutation.acceptanceNotMet db task = false
  effect : (task.status ≠ .inProgress ∧
      db' = db.updateTask mutation.runId mutation.taskId
        (Board.moved status (mutation.storedResult task.result) mutation.transitionedAt)) ∨
    (task.status = .inProgress ∧ ∃ state, mutation.transition.assignmentState = some state ∧
      db' = (db.releaseOwnership mutation.runId mutation.taskId state mutation.summary
        mutation.transitionedAt).updateTask mutation.runId mutation.taskId
          (Board.moved status (mutation.storedResult task.result) mutation.transitionedAt))

/-- A transition is rejected and changes nothing, or applied. -/
theorem applyTaskTransition_ok {mutation : TaskTransitionMutation} {db db' : Db}
    {result : TaskTransitionResult}
    (h : (applyTaskTransition mutation).run db = (.ok result, db')) :
    (∃ rejection, result = .rejected rejection ∧ db' = db) ∨
      ∃ task status, result = .transitioned task.status status ∧
        Transitioned mutation db db' task status := by
  obtain ⟨task?, _, h₁, h⟩ := Tx.bind_eq_ok.mp h
  obtain ⟨rfl, rfl⟩ := Tx.read_eq_ok.mp h₁
  cases hfound : (db.task mutation.taskId).filter (·.runId == mutation.runId) with
  | none =>
      rw [hfound] at h
      obtain ⟨rfl, rfl⟩ := Tx.pure_eq_ok.mp h
      exact .inl ⟨_, rfl, rfl⟩
  | some task =>
      rw [hfound] at h
      obtain ⟨htask, hrun⟩ := Option.filter_eq_some_iff.mp hfound
      dsimp only at h
      cases hstatus : task.status.transition mutation.transition with
      | none =>
          rw [hstatus] at h
          obtain ⟨rfl, rfl⟩ := Tx.pure_eq_ok.mp h
          exact .inl ⟨_, rfl, rfl⟩
      | some status =>
          rw [hstatus] at h
          obtain ⟨notMet, _, h₂, h⟩ := Tx.bind_eq_ok.mp h
          obtain ⟨rfl, rfl⟩ := Tx.read_eq_ok.mp h₂
          split at h
          · obtain ⟨rfl, rfl⟩ := Tx.pure_eq_ok.mp h
            exact .inl ⟨_, rfl, rfl⟩
          · next haccepted =>
              right
              obtain ⟨_, db₁, h₃, h⟩ := Tx.bind_eq_ok.mp h
              obtain ⟨_, db₂, h₄, h⟩ := Tx.bind_eq_ok.mp h
              obtain rfl := Tx.write_eq_ok.mp h₄
              obtain ⟨rfl, rfl⟩ := Tx.pure_eq_ok.mp h
              refine ⟨task, status, rfl, htask, by simpa using hrun, hstatus,
                by simpa using haccepted, ?_⟩
              rcases Tx.when_eq_ok.mp h₃ with ⟨hheld, hrelease⟩ | ⟨hfree, rfl⟩
              · obtain ⟨state, hstate, -, -, rfl⟩ := releaseTaskOwnership_ok hrelease
                exact .inr ⟨hheld, state, hstate, rfl⟩
              · exact .inl ⟨hfree, rfl⟩

/-- An applied transition is a step of the board. -/
theorem Transitioned.step {mutation : TaskTransitionMutation} {db db' : Db} {task : TaskRecord}
    {status : TaskStatus} (h : Transitioned mutation db db' task status) :
    db.board.Step db'.board := by
  have hmem : task ∈ db.board.tasks := List.mem_of_find?_eq_some h.found
  have hid : task.id = mutation.taskId := by simpa using List.find?_some h.found
  rcases h.effect with ⟨hfree, rfl⟩ | ⟨hheld, state, hstate, rfl⟩
  · have hstep := Board.Step.move task mutation.transition status
      (mutation.storedResult task.result) mutation.transitionedAt hmem hfree h.permitted
    rw [hid, h.inRun] at hstep
    exact hstep
  · have hstep := Board.Step.release task mutation.transition status state mutation.summary
      (mutation.storedResult task.result) mutation.transitionedAt hmem hheld h.permitted hstate
    rw [hid, h.inRun] at hstep
    exact hstep

theorem applyTaskTransition_moves (mutation : TaskTransitionMutation) :
    Tx.Ensures Db.BoardMoves (applyTaskTransition mutation) := by
  intro db result db' h _
  rcases applyTaskTransition_ok h with ⟨_, -, rfl⟩ | ⟨task, status, -, htransitioned⟩
  · exact .inl rfl
  · exact .inr htransitioned.step

theorem transitionTaskBody_moves (mutation : TaskTransitionMutation) :
    Tx.Ensures Db.BoardMoves (transitionTaskBody mutation) := by
  refine still_bind_moves (still [] (by decide) (.read _)) fun activeClaim => ?_
  refine still_bind_moves (still [] (by decide) (.read _)) fun activeAssignment => ?_
  refine moves_bind_still (applyTaskTransition_moves mutation) fun result => ?_
  cases result with
  | rejected => exact still [] (by decide) (.pure _)
  | transitioned previousStatus status =>
      exact still [.events] (by decide) (.bind (.read _) fun _ => .bind (.okOr _ _) fun _ =>
        .bind (writes_appendEvent _ rfl) fun _ =>
          .bind (.when (writes_appendReleaseEvents _ _ _ _)) fun _ => .pure _)

theorem recoverAssignment_moves (mutation : Mutation) (assignmentId : AssignmentId)
    (reason : String) (document brief : JsonValue) (acknowledgeLost : Bool) :
    Tx.Ensures Db.BoardMoves
      (recoverAssignment mutation assignmentId reason document brief acknowledgeLost) := by
  refine still_bind_moves (still [] (by decide) (.read _)) fun preflight => ?_
  refine still_bind_moves (still [] (by decide) (.ofExcept _)) fun found => ?_
  refine still_bind_moves (still [] (by decide) (.okOr _ _)) fun sessionId => ?_
  refine still_bind_moves (still [.recoveryHandoffs] (by decide) (writes_insertRecoveryHandoff _)) fun _ => ?_
  refine moves_bind_still (applyTaskTransition_moves _) fun _ => ?_
  exact still [.events, .recoveries] (by decide)
    (.bind writes_recoveryEvents fun _ => .pure _)

theorem submitRetained_moves (mutation : Mutation) (submission : RetainedSubmission) :
    Tx.Ensures Db.BoardMoves (submitRetained mutation submission) := by
  refine still_bind_moves (still [] (by decide) (.read _)) fun preflight => ?_
  refine still_bind_moves (still [] (by decide) (.ofExcept _)) fun found => ?_
  refine still_bind_moves (still [.workspaces] (by decide) (writes_recordWorkspaceResultCommit _ _)) fun _ => ?_
  refine moves_bind_still (applyTaskTransition_moves _) fun _ => ?_
  exact still [.events] (by decide) (.bind writes_retainedEvents fun _ => .pure _)

/-! ## Corrections, sessions and draining -/

/-- What the preflight of an interrupted assignment finds: an unfinished assignment whose worker
    has ended in the demanded way, and its worktree. -/
structure Db.Interrupted (db : Db) (runId : RunId) (assignmentId : AssignmentId)
    (acknowledgeLost : Bool) (retainedCommit : Option String) (assignment : AssignmentRecord)
    (workspace : WorkspaceRecord) : Prop where
  active : db.runIsActive runId = true ∧ db.runShutdown runId = none
  hassignment : db.assignment assignmentId = some assignment
  inRun : assignment.runId = runId
  held : ∃ task, db.task assignment.taskId = some task ∧
    db.assignmentActive runId assignment task = true
  ended : ∃ session, assignment.sessionId.bind db.session = some session ∧
    db.inactivityVerified
      { runId, agentId := assignment.agentId, sessionId := session.id,
        generation := assignment.generation } session acknowledgeLost = true ∧
    db.intentPending runId assignmentId session.id = false ∧
    db.providerExitRecorded runId session = !acknowledgeLost ∧
    session.processOwner = .supervisor
  hworkspace : db.workspaceForScope assignment.scope = some workspace
  retainable : workspace.retainable retainedCommit = true

theorem interruptedAssignmentPreflight_ok {db : Db} {runId : RunId} {assignmentId : AssignmentId}
    {acknowledgeLost : Bool} {retainedCommit : Option String} {assignment : AssignmentRecord}
    {workspace : WorkspaceRecord}
    (h : db.interruptedAssignmentPreflight runId assignmentId acknowledgeLost retainedCommit =
      .ok (assignment, workspace)) :
    db.Interrupted runId assignmentId acknowledgeLost retainedCommit assignment workspace := by
  unfold Db.interruptedAssignmentPreflight at h
  dsimp only at h
  split at h
  · cases h
  next hactive =>
  split at h
  · cases h
  next found hassignment =>
  split at h
  · cases h
  next task htask =>
  split at h
  · cases h
  next hheld =>
  split at h
  · cases h
  next session hsession =>
  split at h
  · cases h
  next hinactive =>
  split at h
  · cases h
  next hpending =>
  split at h
  · cases h
  next hexit =>
  split at h
  · cases h
  next foundWorkspace hworkspace =>
  split at h
  · cases h
  next hretainable =>
  -- every check passed, and the rows are the ones that were found
  cases h
  obtain ⟨hfound, hrun⟩ := Option.filter_eq_some_iff.mp hassignment
  simp only [not_or, not_not] at hactive hheld hinactive hexit hretainable
  exact {
    active := ⟨hactive.1, by simpa using hactive.2⟩
    hassignment := hfound
    inRun := by simpa using hrun
    held := ⟨task, htask, hheld⟩
    ended := ⟨session, hsession, hinactive, by simpa using hpending, by
      cases acknowledgeLost <;> simpa using hexit.1, hexit.2⟩
    hworkspace := hworkspace
    retainable := hretainable }

/-- What a resubmission finds: the submitted result of a worktree that it names, without an
    integration or the intent of one. -/
structure Db.Resubmittable (db : Db) (runId : RunId) (submission : Resubmission)
    (assignment : AssignmentRecord) (task : TaskRecord) (workspace : WorkspaceRecord) : Prop where
  hassignment : db.assignment submission.assignmentId = some assignment
  inRun : assignment.runId = runId
  hworkspace : db.workspaceForScope assignment.scope = some workspace
  htask : db.task assignment.taskId = some task
  completed : assignment.state = .completed
  submitted : task.status = .submitted
  worktree : workspace.kind = .worktree
  unintegrated : workspace.targetCommit = none
  noIntent : db.integrationRequested runId assignment.id = false
  expected : workspace.resultCommit = some submission.expectedResult

theorem resubmissionPreflight_ok {db : Db} {runId : RunId} {submission : Resubmission}
    {assignment : AssignmentRecord} {task : TaskRecord} {workspace : WorkspaceRecord}
    (h : db.resubmissionPreflight runId submission = .ok (assignment, task, workspace)) :
    db.Resubmittable runId submission assignment task workspace := by
  unfold Db.resubmissionPreflight at h
  dsimp only at h
  split at h
  · cases h
  next found hassignment =>
  split at h
  · cases h
  next foundWorkspace hworkspace =>
  split at h
  · cases h
  next foundTask htask =>
  split at h
  · cases h
  next hcurrent =>
  split at h
  · cases h
  next hobserved =>
  split at h
  · cases h
  next hunintegrated =>
  split at h
  · cases h
  next hintent =>
  split at h
  · cases h
  next hresult =>
  -- every check passed, and the rows are the ones that were found
  cases h
  obtain ⟨hfound, hrun⟩ := Option.filter_eq_some_iff.mp hassignment
  simp only [not_or, not_not] at hcurrent hobserved hunintegrated hresult
  exact {
    hassignment := hfound
    inRun := by simpa using hrun
    hworkspace := hworkspace
    htask := htask
    completed := hcurrent.1
    submitted := hcurrent.2.2.1
    worktree := hobserved.1
    unintegrated := hunintegrated
    noIntent := by simpa using hintent
    expected := hresult.1 }

/-- A resubmission found a submitted result and replaced it in its three rows. -/
theorem applyResubmission_ok {mutation : Mutation} {submission : Resubmission} {db db' : Db}
    {result : JsonValue × JsonValue}
    (h : (applyResubmission mutation submission).run db = (.ok result, db')) :
    ∃ assignment task workspace revised event,
      db.Resubmittable mutation.runId submission assignment task workspace ∧
      ((task.result.getD .null).setField? "result_commit" (.str submission.resultCommit)).bind
        (·.setField? "summary" (.str submission.summary)) = some revised ∧
      db' = { db.pushEvent event with
        workspaces := Table.updateWhere (·.assignmentId == assignment.id)
          (fun row => { row with resultCommit := some submission.resultCommit }) db.workspaces
        assignments := Table.updateWhere (·.id == assignment.id)
          (fun row => { row with summary := some submission.summary }) db.assignments
        tasks := Table.updateWhere (·.id == task.id)
          (fun row => { row with result := some revised, updatedAt := mutation.createdAt })
          db.tasks } := by
  obtain ⟨preflight, _, h₁, h₂⟩ := Tx.bind_eq_ok.mp h
  obtain ⟨rfl, rfl⟩ := Tx.read_eq_ok.mp h₁
  obtain ⟨⟨assignment, task, workspace⟩, _, h₃, h₄⟩ := Tx.bind_eq_ok.mp h₂
  obtain ⟨hpreflight, rfl⟩ := Tx.ofExcept_eq_ok.mp h₃
  obtain ⟨revised, _, h₅, h₆⟩ := Tx.bind_eq_ok.mp h₄
  obtain ⟨hrevised, rfl⟩ := Tx.okOr_eq_ok.mp h₅
  obtain ⟨_, db₁, h₇, h₈⟩ := Tx.bind_eq_ok.mp h₆
  obtain ⟨-, rfl⟩ := appendEvent_ok h₇
  simp only [Tx.bind_eq_ok, Tx.write_eq_ok, Tx.pure_eq_ok] at h₈
  obtain ⟨_, _, rfl, _, _, rfl, _, _, rfl, -, rfl⟩ := h₈
  exact ⟨assignment, task, workspace, revised, _, resubmissionPreflight_ok hpreflight, hrevised,
    rfl⟩

theorem applyResubmission_moves (mutation : Mutation) (submission : Resubmission) :
    Tx.Ensures Db.BoardMoves (applyResubmission mutation submission) := by
  intro db result db' h _
  obtain ⟨assignment, task, workspace, revised, event, hfound, -, rfl⟩ := applyResubmission_ok h
  have hmem : task ∈ db.board.tasks := List.mem_of_find?_eq_some hfound.htask
  exact .inr (.revise task assignment.id revised submission.summary mutation.createdAt hmem
    hfound.submitted)

theorem associateAssignmentSession_moves (assignmentId : AssignmentId) (sessionId : SessionId) :
    Tx.Ensures Db.BoardMoves (associateAssignmentSession assignmentId sessionId) := by
  intro db u db' h _
  obtain ⟨_, _, h₁, h₂⟩ := Tx.bind_eq_ok.mp h
  obtain ⟨-, rfl⟩ := Tx.require_eq_ok.mp h₁
  obtain ⟨_, _, h₃, h₄⟩ := Tx.bind_eq_ok.mp h₂
  obtain ⟨-, rfl⟩ := Tx.require_eq_ok.mp h₃
  obtain rfl := Tx.write_eq_ok.mp h₄
  exact .inr (.bind assignmentId sessionId)

/-- The board after is the board before with some assignments drained. -/
def Db.DrainsTo (db db' : Db) : Prop :=
  ∃ assignments, List.Forall₂ AssignmentRecord.Drained db.assignments assignments ∧
    db'.board = { db.board with assignments := assignments }

instance : Std.Refl AssignmentRecord.Drained where
  refl _ := .same

instance : IsTrans AssignmentRecord AssignmentRecord.Drained where
  trans := by
    intro a b c hab hbc
    cases hab with
    | same => exact hbc
    | draining hopen =>
        cases hbc with
        | same => exact .draining hopen
        | draining _ => exact .draining hopen

instance : Std.Refl Db.DrainsTo where
  refl db := ⟨db.assignments, List.forall₂_refl _, rfl⟩

instance : IsTrans Db Db.DrainsTo where
  trans := by
    rintro a b c ⟨rows, hrows, hb⟩ ⟨rows', hrows', hc⟩
    have hassignments : b.assignments = rows := congrArg Board.assignments hb
    rw [hassignments] at hrows'
    exact ⟨rows', Table.forall₂_trans hrows hrows', by rw [hc, hb]⟩

theorem drains_of_writes {α : Type} {x : Repo α} (tables : List TableName)
    (hno : ∀ table ∈ boardTables, table ∉ tables)
    (h : Tx.Keeps (Written tables) x) : Tx.Keeps Db.DrainsTo x :=
  h.mono fun db _ hw => ⟨db.assignments, List.forall₂_refl _, hw.writesOnly.sameBoard hno⟩

theorem drains_moves {α : Type} {x : Repo α} (h : Tx.Keeps Db.DrainsTo x) :
    Tx.Ensures Db.BoardMoves x := by
  refine .of_keeps h ?_
  rintro db db' ⟨assignments, hdrained, hboard⟩ _
  unfold Board.Moves
  rw [hboard]
  exact .inr (.drain assignments hdrained)

theorem drainAssignment_drains (assignment : AssignmentRecord) (nowMs : Int) :
    Tx.Keeps Db.DrainsTo (drainAssignment assignment nowMs) := by
  refine .ite (.pure _) (.bind (.write fun db => ⟨_, ?_, rfl⟩) fun _ =>
    drains_of_writes [.events, .drains] (by decide) (writes_appendEventOf _ rfl))
  apply Table.forall₂_updateWhere
  intro row hrow
  have hopen : row.isOpen = true := (Bool.and_eq_true _ _ ▸ hrow).2
  exact .draining hopen

theorem drainAgent_drains (runId : RunId) (agentId : AgentId) (nowMs : Int) :
    Tx.Keeps Db.DrainsTo (drainAgent runId agentId nowMs) := by
  refine .bind (.read _) fun found => ?_
  cases found with
  | none => exact .pure _
  | some assignment => exact drainAssignment_drains assignment nowMs

theorem requestControl_drains (runId : RunId) (shutdown : Option RunShutdown) (nowMs : Int)
    (policy : SupervisionPolicy) (session : SessionRecord) :
    Tx.Keeps Db.DrainsTo (requestControl runId shutdown nowMs policy session) := by
  have hrequest : ∀ scope reason nowMs graceMs timeoutMs,
      Tx.Keeps Db.DrainsTo (requestSessionControl scope reason nowMs graceMs timeoutMs) := by
    intro scope reason nowMs graceMs timeoutMs
    refine .bind (.read _) fun _ => .ite (.pure _) (.bind (.read _) fun _ => .ite (.pure _) ?_)
    refine .bind (drains_of_writes [.sessionControls] (by decide) (.write fun db => ?_)) fun _ => ?_
    · exact .of_write (.sessionControls _ List.mem_cons_self)
    · exact .bind (drainAgent_drains _ _ _) fun _ =>
        drains_of_writes [.events] (by decide) (writes_supervisionEvent rfl)
  refine .ite (.pure _) (.bind (.when ?_) fun _ => ?_)
  · exact drains_of_writes [.events] (by decide) (writes_warnJobDeadline _ _ _)
  · split
    · exact .pure _
    · exact hrequest _ _ _ _ _

theorem requestControls_drains (runId : RunId) (nowMs : Int) (policy : SupervisionPolicy) :
    Tx.Keeps Db.DrainsTo (requestControls runId nowMs policy) :=
  .bind (.read _) fun shutdown => .bind (.read _) fun _ =>
    .each (requestControl_drains runId shutdown nowMs policy) _

theorem openRunShutdown_drains (runId : RunId) (operationId : OperationId)
    (nowMs graceMs timeoutMs : Int) :
    Tx.Keeps Db.DrainsTo (openRunShutdown runId operationId nowMs graceMs timeoutMs) := by
  have hagents : ∀ agent : AgentRecord,
      Tx.Keeps Db.DrainsTo (drainAgent runId agent.id nowMs) :=
    fun agent => drainAgent_drains runId agent.id nowMs
  refine .bind (drains_of_writes [.operations, .launches] (by decide)
        (writes_insertOperation _ (.inr Listed.mem))) fun _ => ?_
  refine .bind (drains_of_writes [.runShutdowns] (by decide) (writes_insertRunShutdown _)) fun _ => ?_
  refine .bind (drains_of_writes [.events] (by decide) (writes_supervisionEvent rfl)) fun _ => ?_
  exact .bind (.read _) fun agents => .each hagents agents

theorem beginRunShutdown_drains (runId : RunId) (operationId : OperationId)
    (nowMs graceMs timeoutMs : Int) :
    Tx.Keeps Db.DrainsTo (beginRunShutdown runId operationId nowMs graceMs timeoutMs) := by
  refine .bind (.read _) fun found => ?_
  cases found with
  | some shutdown => exact .ite (.pure _) (.throw _)
  | none =>
      exact .bind (.require _ _) fun _ => .bind (.require _ _) fun _ =>
        openRunShutdown_drains _ _ _ _ _

theorem stopIdleRun_drains (runId : RunId) (operationId : OperationId)
    (nowMs graceMs timeoutMs idleTimeoutSeconds : Int) :
    Tx.Keeps Db.DrainsTo
      (stopIdleRun runId operationId nowMs graceMs timeoutMs idleTimeoutSeconds) :=
  .bind (beginRunShutdown_drains _ _ _ _ _) fun _ =>
    drains_of_writes [.events] (by decide) (writes_appendEvent _ rfl)

/-! ## Commands -/

theorem spawnAgent_moves (ctx : RequestContext) (spawn : SpawnRequest) :
    Tx.Ensures Db.BoardMoves (spawnAgent ctx spawn) := by
  refine still_bind_moves (still [.agents, .agentScopes] (by decide) (writes_insertAgent _)) fun _ => ?_
  refine still_bind_moves (still [.events] (by decide) (writes_appendEvent _ rfl)) fun _ => ?_
  refine moves_bind_still (compareAndSetClaim_moves _) fun result => ?_
  refine still [.workspaces, .operations, .events, .continuations] (by decide)
    (.bind (writes_appendTaskClaimEvents _ _) ?_)
  intro _
  cases result with
  | rejected => exact .throw _
  | claimed =>
      exact .bind (writes_insertSpawnWorkspace _ _) fun _ =>
        .bind (writes_markOperationReconciliationDesired _) fun _ => .pure _

theorem persistLaunchIntent_moves (launch : AgentLaunch) (agentExists : Bool)
    (assignmentId : Option AssignmentId) :
    Tx.Ensures Db.BoardMoves (persistLaunchIntent launch agentExists assignmentId) := by
  refine still_bind_moves (still [.agents, .agentScopes, .events] (by decide)
    (writes_prepareLaunchAgent _ _ _)) fun _ => ?_
  refine still_bind_moves (still [.sessions, .sessionScopes, .sessionCredentials] (by decide)
    (writes_openSession _ _))
    fun _ => ?_
  refine still_bind_moves (still [.events] (by decide) (writes_appendEvent _ rfl)) fun _ => ?_
  cases assignmentId with
  | none => exact moves_of_still (still [] (by decide) (.pure _))
  | some id =>
      refine moves_bind_still (associateAssignmentSession_moves _ _) fun _ => ?_
      exact still [.events] (by decide) (.bind (.read _) fun _ => .bind (.okOr _ _) fun _ =>
        .bind (.read _) fun _ => .bind (.okOr _ _) fun _ => writes_appendEvent _ rfl)

/-- A mutation moves the board as its closure does. -/
theorem mutationBody_moves {α : Type} {codec : Codec α} {mutation : Mutation}
    {requestFingerprint : Option String} {apply : Repo α}
    (happly : Tx.Ensures Db.BoardMoves apply) :
    Tx.Ensures Db.BoardMoves (mutationBody codec mutation requestFingerprint apply) := by
  refine still_bind_moves (still [] (by decide) (.read _)) fun found => ?_
  cases found with
  | some existing =>
      exact moves_of_still (still [] (by decide) (writes_replayOperation))
  | none =>
      refine still_bind_moves (still [.operations, .launches] (by decide)
        (writes_insertOperation _ (.inr Listed.mem))) fun _ => ?_
      refine still_bind_moves
        (still [.operations, .outcomes] (by decide) (.write fun db => written_settleOperation db _
          fun _ => ⟨⟨rfl, rfl, rfl, rfl⟩, rfl⟩)) fun _ => ?_
      refine moves_bind_still happly fun result => ?_
      exact still [.operations, .outcomes] (by decide) (.bind (.ofExcept _) fun _ =>
        .bind (.write fun db => written_settleOperation db _
          fun _ => ⟨⟨rfl, rfl, rfl, rfl⟩, rfl⟩) fun _ => .pure _)

namespace Command

theorem mutated_moves {mutation : Mutation} {requestFingerprint : Option String}
    {apply : Repo JsonValue} (happly : Tx.Ensures Db.BoardMoves apply) :
    Tx.Ensures Db.BoardMoves (mutated mutation requestFingerprint apply) :=
  moves_bind_still (mutationBody_moves happly) fun _ => still [] (by decide) (.pure _)

/-- A command moves the board by at most one step. -/
theorem body_moves (command : Command) : Tx.Ensures Db.BoardMoves command.body := by
  cases command
  case createTask ctx requestFingerprint task =>
    refine mutated_moves (moves_bind_still ?_ fun _ =>
      still [.events] (by decide) (.bind (writes_appendEvent _ rfl) fun _ => .pure _))
    intro db u db' h _
    exact .inr (insertNewTask_step h)
  case claimTask claim => exact mutated_moves (claimTask_moves claim)
  case transitionTask transition requestFingerprint =>
    refine moves_bind_still ?_ fun _ => still [] (by decide) (.pure _)
    refine still_bind_moves (still [] (by decide) (.okOr _ _)) fun transition => mutationBody_moves ?_
    exact moves_bind_still (transitionTaskBody_moves transition) fun _ => still [] (by decide) (.pure _)
  case recoverTask =>
    exact mutated_moves (moves_bind_still (recoverAssignment_moves _ _ _ _ _ _) fun _ =>
      still [] (by decide) (.pure _))
  case submitRetained => exact mutated_moves (submitRetained_moves _ _)
  case resubmitTask =>
    exact mutated_moves (moves_bind_still (applyResubmission_moves _ _) fun _ =>
      still [] (by decide) (.pure _))
  case spawnAgent => exact mutated_moves (spawnAgent_moves _ _)
  case persistLaunchIntent => exact persistLaunchIntent_moves _ _ _
  case requestControls => exact drains_moves (requestControls_drains _ _ _)
  case beginRunShutdown => exact drains_moves (beginRunShutdown_drains _ _ _ _ _)
  case stopIdleRun => exact drains_moves (stopIdleRun_drains _ _ _ _ _ _)
  -- the other commands do not write the board
  all_goals
    exact moves_of_still (still _ (by dsimp only [Command.writes]; decide) (keeps_writes _))

/-- A command that commits moves the board by at most one step, and one that fails not at all. -/
theorem exec_moves (command : Command) {db : Db} (howned : db.board.Owned) :
    db.board.Moves (command.exec db).board := by
  unfold exec
  rcases Tx.transaction_cases command.body db with ⟨u, db', hrun, hok⟩ | ⟨e, -, herror⟩
  · rw [hok]
    exact command.body_moves db u db' hrun howned
  · rw [herror]
    exact .inl rfl

end Command

/-- Ownership is sound in every reachable database. -/
theorem owned_run (commands : List Command) : (storeMachine.run commands).board.Owned := by
  refine Machine.invariant_run (m := storeMachine) (I := fun db : Db => db.board.Owned)
    Board.owned_empty ?_ commands
  intro db command howned
  rcases command.exec_moves howned with heq | hstep
  · show (command.exec db).board.Owned
    rw [heq]
    exact howned
  · exact howned.step hstep

end Coterie
