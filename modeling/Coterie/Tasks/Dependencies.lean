/-
  Coterie.Tasks.Dependencies

  Dependency gating over whole runs.  Edges are written with their task and lead to older tasks, so
  that they never form a cycle and never change for a task that exists; `closed` is left by no step;
  and a claim finds every prerequisite closed.  Together: whatever was ever claimed had all its
  prerequisites closed then, and has them closed now.
-/

import Coterie.Tasks.Holders

namespace Coterie

-- ============================================================================
-- Ranked relations
-- ============================================================================

section Rank

variable {α : Type} {r : α → α → Prop} {rank : α → Nat}

/-- A relation that leads to smaller ranks does so along its chains. -/
theorem rank_lt_of_transGen (hr : ∀ a b, r a b → rank b < rank a) {a b : α}
    (h : Relation.TransGen r a b) : rank b < rank a := by
  induction h with
  | single hab => exact hr _ _ hab
  | tail _ hbc ih => exact Nat.lt_trans (hr _ _ hbc) ih

/-- Such a relation has no cycle. -/
theorem acyclic_of_rank (hr : ∀ a b, r a b → rank b < rank a) (a : α) :
    ¬ Relation.TransGen r a a :=
  fun h => Nat.lt_irrefl _ (rank_lt_of_transGen hr h)

end Rank

namespace Board

variable {b b' : Board}

/-- `dependency` is a prerequisite of `task`. -/
def Prerequisite (b : Board) (task dependency : TaskId) : Prop :=
  ∃ edge ∈ b.dependencies, edge.taskId = task ∧ edge.dependencyTaskId = dependency

/-- The task is on the board and closed. -/
def Closed (b : Board) (id : TaskId) : Prop :=
  ∃ row ∈ b.tasks, row.id = id ∧ row.status = .closed

instance (b : Board) (id : TaskId) : Decidable (b.Closed id) :=
  inferInstanceAs (Decidable (∃ row ∈ b.tasks, _))

/-- All prerequisites of a task are closed. -/
def PrerequisitesClosed (b : Board) (task : TaskId) : Prop :=
  ∀ dependency, b.Prerequisite task dependency → b.Closed dependency

/-- The position at which a task was created. -/
def position (b : Board) (id : TaskId) : Nat :=
  (b.tasks.map (·.id)).idxOf id

/-- The gating invariant of a board. -/
structure Gated (b : Board) : Prop where
  edgeTask : ∀ edge ∈ b.dependencies,
    ∃ row ∈ b.tasks, row.id = edge.taskId ∧ row.runId = edge.runId
  edgeDependency : ∀ edge ∈ b.dependencies,
    ∃ row ∈ b.tasks, row.id = edge.dependencyTaskId ∧ row.runId = edge.runId
  older : ∀ edge ∈ b.dependencies, b.position edge.dependencyTaskId < b.position edge.taskId
  started : ∀ claim ∈ b.claims, b.PrerequisitesClosed claim.taskId

/-- What later boards keep of earlier ones: the tasks, their edges and their closure. -/
structure Extends (b b' : Board) : Prop where
  tasks : ∀ row ∈ b.tasks, ∃ row' ∈ b'.tasks, row'.id = row.id ∧ row'.runId = row.runId
  closed : ∀ id, b.Closed id → b'.Closed id
  edges : ∀ row ∈ b.tasks, ∀ dependency,
    b'.Prerequisite row.id dependency ↔ b.Prerequisite row.id dependency

instance : Std.Refl Extends where
  refl _ :=
    { tasks := fun row hrow => ⟨row, hrow, rfl, rfl⟩
      closed := fun _ h => h
      edges := fun _ _ _ => Iff.rfl }

instance : IsTrans Board Extends where
  trans a b c hab hbc :=
    { tasks := by
        intro row hrow
        obtain ⟨row', hrow', hid, hrun⟩ := hab.tasks row hrow
        obtain ⟨row'', hrow'', hid', hrun'⟩ := hbc.tasks row' hrow'
        exact ⟨row'', hrow'', hid'.trans hid, hrun'.trans hrun⟩
      closed := fun id h => hbc.closed id (hab.closed id h)
      edges := by
        intro row hrow dependency
        obtain ⟨row', hrow', hid, -⟩ := hab.tasks row hrow
        rw [← hab.edges row hrow dependency, ← hid]
        exact hbc.edges row' hrow' dependency }

/-- Closed prerequisites stay closed. -/
theorem PrerequisitesClosed.extends {row : TaskRecord} (hext : b.Extends b') (hrow : row ∈ b.tasks)
    (h : b.PrerequisitesClosed row.id) : b'.PrerequisitesClosed row.id := by
  intro dependency hdependency
  exact hext.closed dependency (h dependency ((hext.edges row hrow dependency).mp hdependency))

-- ============================================================================
-- What a step does to tasks, edges and claims
-- ============================================================================

/-- An update of one task that is not closed extends the board. -/
theorem extends_updateTask (howned : b.Owned) {task : TaskRecord} (htask : task ∈ b.tasks)
    (hopen : task.status ≠ .closed) {f : TaskRecord → TaskRecord} (hid : ∀ row, (f row).id = row.id)
    (hrun : ∀ row, (f row).runId = row.runId) : b.Extends (b.updateTask task.runId task.id f) where
  tasks := by
    intro row hrow
    refine Table.exists_mem_updateWhere ?_ ⟨row, hrow, rfl, rfl⟩
    intro old _ hids
    rw [hid, hrun]
    exact hids
  closed := by
    rintro id ⟨row, hrow, rfl, hclosed⟩
    refine ⟨row, Table.mem_updateWhere_of_neg hrow ?_, rfl, hclosed⟩
    -- the updated row is another one, since it was not closed
    rw [Bool.eq_false_iff]
    intro hsame
    have hids : row.id = task.id ∧ row.runId = task.runId := by simpa using hsame
    rw [howned.tasks.eq_of_key_eq hrow htask hids.1] at hclosed
    exact hopen hclosed
  edges := fun _ _ _ => Iff.rfl

/-- A board with the same tasks and edges. -/
theorem extends_of_same (htasks : b'.tasks = b.tasks) (hedges : b'.dependencies = b.dependencies) :
    b.Extends b' where
  tasks := by
    rw [htasks]
    exact fun row hrow => ⟨row, hrow, rfl, rfl⟩
  closed := by
    intro id h
    unfold Closed
    rw [htasks]
    exact h
  edges := by
    intro row _ dependency
    unfold Prerequisite
    rw [hedges]

/-- A new task extends the board: its edges are its own. -/
theorem extends_create {task : TaskRecord} {edges : List DependencyRecord}
    (hnew : ∀ row ∈ b.tasks, row.id ≠ task.id) (hedges : ∀ edge ∈ edges, edge.taskId = task.id) :
    b.Extends (b.create task edges) where
  tasks := fun row hrow => ⟨row, List.mem_append_left _ hrow, rfl, rfl⟩
  closed := by
    rintro id ⟨row, hrow, hid, hclosed⟩
    exact ⟨row, List.mem_append_left _ hrow, hid, hclosed⟩
  edges := by
    intro row hrow dependency
    constructor
    · rintro ⟨edge, hedge, htask, hdependency⟩
      rcases List.mem_append.mp hedge with hold | hadded
      · exact ⟨edge, hold, htask, hdependency⟩
      · exact absurd (htask.symm.trans (hedges edge hadded)) (hnew row hrow)
    · rintro ⟨edge, hedge, hids⟩
      exact ⟨edge, List.mem_append_left _ hedge, hids⟩

/-- A correction changes neither identity nor status of a task. -/
theorem extends_revise (taskId : TaskId) (assignmentId : AssignmentId) (result : JsonValue)
    (summary : String) (updatedAt : Int) :
    b.Extends (b.revise taskId assignmentId result summary updatedAt) where
  tasks := by
    intro row hrow
    exact Table.exists_mem_updateWhere (fun _ _ hids => hids) ⟨row, hrow, rfl, rfl⟩
  closed := by
    intro id h
    exact Table.exists_mem_updateWhere (fun _ _ hclosed => hclosed) h
  edges := fun _ _ _ => Iff.rfl

/-- Tasks in progress, and tasks that a transition leaves, are not closed. -/
theorem not_closed_of_transition {task : TaskRecord} {transition : TaskTransition}
    {status : TaskStatus} (h : task.status.transition transition = some status) :
    task.status ≠ .closed := by
  intro hclosed
  rw [hclosed, TaskStatus.transition_closed] at h
  cases h

/-- Every step extends the board. -/
theorem Step.extends (howned : b.Owned) (hstep : b.Step b') : b.Extends b' := by
  cases hstep with
  | create task edges _ hnew hedges =>
      exact extends_create hnew fun edge hedge => (hedges edge hedge).1
  | claim claim assignment hclaimable =>
      obtain ⟨task, htask, hid, hrun, hopened⟩ := hclaimable.task
      have hopen : task.status ≠ .closed := by
        rw [hopened]
        decide
      have hupdate := extends_updateTask howned htask hopen
        (f := fun row => { row with status := .inProgress, updatedAt := claim.claimedAt })
        (fun _ => rfl) (fun _ => rfl)
      rw [hid, hrun] at hupdate
      exact IsTrans.trans _ _ _ hupdate (extends_of_same rfl rfl)
  | release task transition status state summary result releasedAt htask _ hstatus _ =>
      have hupdate := extends_updateTask howned htask (not_closed_of_transition hstatus)
        (f := moved status result releasedAt) (fun _ => rfl) (fun _ => rfl)
      exact IsTrans.trans _ _ _ hupdate (extends_of_same rfl rfl)
  | move task transition status result updatedAt htask _ hstatus =>
      exact extends_updateTask howned htask (not_closed_of_transition hstatus)
        (fun _ => rfl) (fun _ => rfl)
  | revise task assignmentId result summary updatedAt => exact extends_revise _ _ _ _ _
  | bind => exact extends_of_same rfl rfl
  | drain => exact extends_of_same rfl rfl

/-- A step other than the creation of a task keeps the edges and the order of the tasks. -/
theorem Step.order (hstep : b.Step b') :
    (∃ task edges, b' = b.create task edges ∧ (∀ row ∈ b.tasks, row.id ≠ task.id) ∧
      ∀ edge ∈ edges, edge.taskId = task.id ∧ edge.runId = task.runId ∧
        ∃ row ∈ b.tasks, row.id = edge.dependencyTaskId ∧ row.runId = edge.runId) ∨
      (b'.dependencies = b.dependencies ∧ b'.tasks.map (·.id) = b.tasks.map (·.id)) := by
  cases hstep with
  | create task edges _ hnew hedges => exact .inl ⟨task, edges, rfl, hnew, hedges⟩
  | claim =>
      refine .inr ⟨rfl, Table.map_updateWhere ?_ _⟩
      intro row _
      rfl
  | release =>
      refine .inr ⟨rfl, Table.map_updateWhere ?_ _⟩
      intro row _
      rfl
  | move =>
      refine .inr ⟨rfl, Table.map_updateWhere ?_ _⟩
      intro row _
      rfl
  | revise =>
      refine .inr ⟨rfl, Table.map_updateWhere ?_ _⟩
      intro row _
      rfl
  | bind => exact .inr ⟨rfl, rfl⟩
  | drain => exact .inr ⟨rfl, rfl⟩

/-- A claim after a step was there before, or was made by the step on a ready task. -/
theorem Step.claims (hstep : b.Step b') {claim : ClaimRecord} (hclaim : claim ∈ b'.claims) :
    (∃ old ∈ b.claims, old.id = claim.id ∧ old.taskId = claim.taskId) ∨
      (∃ task ∈ b.tasks, task.id = claim.taskId ∧ task.runId = claim.runId) ∧
        b.Ready claim.runId claim.taskId := by
  cases hstep with
  | claim made assignment hclaimable =>
      rcases List.mem_append.mp hclaim with hold | hmade
      · exact .inl ⟨claim, hold, rfl, rfl⟩
      · rw [List.mem_singleton.mp hmade]
        obtain ⟨task, htask, hid, hrun, -⟩ := hclaimable.task
        exact .inr ⟨⟨task, htask, hid, hrun⟩, hclaimable.ready⟩
  | release =>
      -- the rows of the released task are rewritten in place
      obtain ⟨old, hold, rfl⟩ := Table.mem_updateWhere.mp hclaim
      refine .inl ⟨old, hold, ?_⟩
      split <;> exact ⟨rfl, rfl⟩
  | create => exact .inl ⟨claim, hclaim, rfl, rfl⟩
  | move => exact .inl ⟨claim, hclaim, rfl, rfl⟩
  | revise => exact .inl ⟨claim, hclaim, rfl, rfl⟩
  | bind => exact .inl ⟨claim, hclaim, rfl, rfl⟩
  | drain => exact .inl ⟨claim, hclaim, rfl, rfl⟩

-- ============================================================================
-- The gating invariant
-- ============================================================================

theorem gated_empty : Gated ⟨[], [], [], []⟩ where
  edgeTask := by simp
  edgeDependency := by simp
  older := by simp
  started := by simp

/-- The gate of a claim compares runs as well; with edges inside one run this makes no
    difference. -/
theorem Gated.prerequisitesClosed_of_ready (hgated : b.Gated) (howned : b.Owned)
    {task : TaskRecord} (htask : task ∈ b.tasks) (hready : b.Ready task.runId task.id) :
    b.PrerequisitesClosed task.id := by
  rintro _ ⟨edge, hedge, hedgeTask, rfl⟩
  obtain ⟨owner, howner, hownerId, hownerRun⟩ := hgated.edgeTask edge hedge
  have hsame : owner = task := howned.tasks.eq_of_key_eq howner htask (hownerId.trans hedgeTask)
  have hedgeRun : edge.runId = task.runId := by rw [← hownerRun, hsame]
  obtain ⟨row, hrow, hrowId, hrowRun⟩ := hgated.edgeDependency edge hedge
  exact ⟨row, hrow, hrowId, hready edge hedge hedgeTask hedgeRun row hrow hrowId hrowRun⟩

/-- Positions of tasks that exist are stable under appending one. -/
theorem position_create {task : TaskRecord} {edges : List DependencyRecord} {row : TaskRecord}
    (hrow : row ∈ b.tasks) : (b.create task edges).position row.id = b.position row.id := by
  unfold position Board.create
  rw [List.map_append, List.idxOf_append_of_mem (List.mem_map_of_mem hrow)]

/-- A new task stands behind all others. -/
theorem position_lt_create {task : TaskRecord} {edges : List DependencyRecord} {row : TaskRecord}
    (hnew : ∀ old ∈ b.tasks, old.id ≠ task.id) (hrow : row ∈ b.tasks) :
    (b.create task edges).position row.id < (b.create task edges).position task.id := by
  have hnot : task.id ∉ b.tasks.map (·.id) := by
    intro hmem
    obtain ⟨old, hold, hid⟩ := List.mem_map.mp hmem
    exact hnew old hold hid
  rw [position_create hrow]
  unfold position Board.create
  rw [List.map_append, List.idxOf_append_of_notMem hnot]
  have hlt : (b.tasks.map (·.id)).idxOf row.id < (b.tasks.map (·.id)).length :=
    List.idxOf_lt_length_iff.mpr (List.mem_map_of_mem hrow)
  omega

theorem Gated.create (h : b.Gated) {task : TaskRecord} {edges : List DependencyRecord}
    (howned : b.Owned) (hnew : ∀ row ∈ b.tasks, row.id ≠ task.id)
    (hedges : ∀ edge ∈ edges, edge.taskId = task.id ∧ edge.runId = task.runId ∧
      ∃ row ∈ b.tasks, row.id = edge.dependencyTaskId ∧ row.runId = edge.runId) :
    (b.create task edges).Gated where
  edgeTask := by
    intro edge hedge
    rcases List.mem_append.mp hedge with hold | hadded
    · obtain ⟨row, hrow, hids⟩ := h.edgeTask edge hold
      exact ⟨row, List.mem_append_left _ hrow, hids⟩
    · obtain ⟨hid, hrun, -⟩ := hedges edge hadded
      exact ⟨task, List.mem_append_right _ (List.mem_singleton_self _), hid.symm, hrun.symm⟩
  edgeDependency := by
    intro edge hedge
    rcases List.mem_append.mp hedge with hold | hadded
    · obtain ⟨row, hrow, hids⟩ := h.edgeDependency edge hold
      exact ⟨row, List.mem_append_left _ hrow, hids⟩
    · obtain ⟨-, -, row, hrow, hids⟩ := hedges edge hadded
      exact ⟨row, List.mem_append_left _ hrow, hids⟩
  older := by
    intro edge hedge
    rcases List.mem_append.mp hedge with hold | hadded
    · obtain ⟨row, hrow, hid, -⟩ := h.edgeTask edge hold
      obtain ⟨dep, hdep, hdepId, -⟩ := h.edgeDependency edge hold
      rw [← hid, ← hdepId, position_create hrow, position_create hdep, hid, hdepId]
      exact h.older edge hold
    · obtain ⟨hid, -, dep, hdep, hdepId, -⟩ := hedges edge hadded
      rw [hid, ← hdepId]
      exact position_lt_create hnew hdep
  started := by
    intro claim hclaim
    obtain ⟨row, hrow, hid, -⟩ := howned.claimedTask claim hclaim
    have hext := extends_create (b := b) hnew fun edge hedge => (hedges edge hedge).1
    rw [← hid]
    exact PrerequisitesClosed.extends hext hrow (hid ▸ h.started claim hclaim)

/-- Every step keeps the gating invariant. -/
theorem Gated.step (h : b.Gated) (howned : b.Owned) (hstep : b.Step b') : b'.Gated := by
  rcases hstep.order with ⟨task, edges, rfl, hnew, hedges⟩ | ⟨hsame, hids⟩
  · exact h.create howned hnew hedges
  have hext := hstep.extends howned
  constructor
  case edgeTask =>
    intro edge hedge
    rw [hsame] at hedge
    obtain ⟨row, hrow, hid, hrun⟩ := h.edgeTask edge hedge
    obtain ⟨row', hrow', hid', hrun'⟩ := hext.tasks row hrow
    exact ⟨row', hrow', hid'.trans hid, hrun'.trans hrun⟩
  case edgeDependency =>
    intro edge hedge
    rw [hsame] at hedge
    obtain ⟨row, hrow, hid, hrun⟩ := h.edgeDependency edge hedge
    obtain ⟨row', hrow', hid', hrun'⟩ := hext.tasks row hrow
    exact ⟨row', hrow', hid'.trans hid, hrun'.trans hrun⟩
  case older =>
    intro edge hedge
    rw [hsame] at hedge
    unfold position
    rw [hids]
    exact h.older edge hedge
  case started =>
    intro claim hclaim
    rcases hstep.claims hclaim with ⟨old, hold, -, htask⟩ | ⟨⟨task, htask, hid, hrun⟩, hready⟩
    · obtain ⟨row, hrow, hid, -⟩ := howned.claimedTask old hold
      rw [← htask, ← hid]
      exact PrerequisitesClosed.extends hext hrow (hid ▸ h.started old hold)
    · rw [← hid, ← hrun] at hready
      rw [← hid]
      exact PrerequisitesClosed.extends hext htask
        (h.prerequisitesClosed_of_ready howned htask hready)

/-- Edges lead to older tasks, so that no chain of them returns. -/
theorem Gated.acyclic (h : b.Gated) (task : TaskId) :
    ¬ Relation.TransGen b.Prerequisite task task := by
  have hrank : ∀ a c, b.Prerequisite a c → b.position c < b.position a := by
    rintro _ _ ⟨edge, hedge, rfl, rfl⟩
    exact h.older edge hedge
  exact acyclic_of_rank hrank task

end Board

-- ============================================================================
-- Every run
-- ============================================================================

/-- Ownership and gating of the board of a store. -/
def Db.BoardSound (db : Db) : Prop :=
  db.board.Owned ∧ db.board.Gated

theorem boardSound_step {db : Db} (command : Command) (h : db.BoardSound) :
    (command.exec db).BoardSound := by
  unfold Db.BoardSound
  rcases command.exec_moves h.1 with heq | hstep
  · rw [heq]
    exact h
  · exact ⟨h.1.step hstep, h.2.step h.1 hstep⟩

theorem boardSound_run (commands : List Command) : (storeMachine.run commands).BoardSound :=
  Machine.invariant_run (m := storeMachine) (I := Db.BoardSound)
    ⟨Board.owned_empty, Board.gated_empty⟩ (fun _ command h => boardSound_step command h) commands

/-- The board after extends the board before. -/
def Db.BoardExtends (db db' : Db) : Prop :=
  db.board.Extends db'.board

instance : Std.Refl Db.BoardExtends where
  refl db := by
    unfold Db.BoardExtends
    exact Std.Refl.refl db.board

instance : IsTrans Db Db.BoardExtends where
  trans a b c hab hbc := by
    unfold Db.BoardExtends at *
    exact IsTrans.trans a.board b.board c.board hab hbc

theorem boardExtends_step {db : Db} (command : Command) (h : db.BoardSound) :
    db.BoardExtends (command.exec db) := by
  unfold Db.BoardExtends
  rcases command.exec_moves h.1 with heq | hstep
  · rw [heq]
    exact Std.Refl.refl _
  · exact hstep.extends h.1

/-- Later boards of a run extend earlier ones. -/
theorem extends_run (before after : List Command) :
    (storeMachine.run before).BoardExtends (storeMachine.run (before ++ after)) := by
  rw [Machine.run_append]
  exact Machine.relation_runFrom (I := Db.BoardSound) (fun _ command h => boardSound_step command h)
    (fun _ command h => boardExtends_step command h) (boardSound_run before) after

/-- A claim that a command makes finds the prerequisites of its task closed. -/
theorem prerequisitesClosed_of_claim {db : Db} (h : db.BoardSound) {command : Command}
    {claim : ClaimRecord} (hclaim : claim ∈ (command.exec db).claims)
    (hmade : ∀ old ∈ db.claims, old.id ≠ claim.id) :
    db.board.PrerequisitesClosed claim.taskId := by
  rcases command.exec_moves h.1 with heq | hstep
  · have hold : claim ∈ db.claims := by
      have hsame : (command.exec db).claims = db.claims := congrArg Board.claims heq
      rw [← hsame]
      exact hclaim
    exact absurd rfl (hmade claim hold)
  · rcases hstep.claims hclaim with ⟨old, hold, hid, -⟩ | ⟨⟨task, htask, hid, hrun⟩, hready⟩
    · exact absurd hid (hmade old hold)
    · rw [← hid, ← hrun] at hready
      rw [← hid]
      exact h.2.prerequisitesClosed_of_ready h.1 htask hready

/-- In every reachable store the prerequisites form no cycle, and those of every task that was ever
    claimed are closed.  Along every run a claim finds the prerequisites of its task closed, a closed
    task stays closed, and no task that exists gains or loses a prerequisite. -/
theorem dependency_gating (commands : List Command) :
    (∀ task, ¬ Relation.TransGen (storeMachine.run commands).board.Prerequisite task task) ∧
    (∀ claim ∈ (storeMachine.run commands).claims,
      (storeMachine.run commands).board.PrerequisitesClosed claim.taskId) ∧
    (∀ (command : Command), ∀ claim ∈ (storeMachine.run (commands ++ [command])).claims,
      (∀ old ∈ (storeMachine.run commands).claims, old.id ≠ claim.id) →
        (storeMachine.run commands).board.PrerequisitesClosed claim.taskId) ∧
    (∀ later id, (storeMachine.run commands).board.Closed id →
      (storeMachine.run (commands ++ later)).board.Closed id) ∧
    ∀ later, ∀ task ∈ (storeMachine.run commands).tasks, ∀ dependency,
      (storeMachine.run (commands ++ later)).board.Prerequisite task.id dependency ↔
        (storeMachine.run commands).board.Prerequisite task.id dependency := by
  have hsound := boardSound_run commands
  refine ⟨hsound.2.acyclic, hsound.2.started, ?_, ?_, ?_⟩
  · intro command claim hclaim hmade
    rw [Machine.run_append] at hclaim
    exact prerequisitesClosed_of_claim hsound hclaim hmade
  · intro later id hclosed
    exact (extends_run commands later).closed id hclosed
  · intro later task htask dependency
    exact (extends_run commands later).edges task htask dependency

end Coterie
