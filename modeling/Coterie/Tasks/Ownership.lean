/-
  Coterie.Tasks.Ownership

  Who holds which task.  Claims and assignments are written by different statements, with conditions
  of their own; the invariant says that the open claims and the open assignments name the same
  holders in the same order, that no task and no agent appears twice among them, and that exactly the
  tasks in progress have a holder.
-/

import Coterie.Tasks.Board

namespace Coterie

/-- The holder is the given task's. -/
def Owner.holds (owner : Owner) (runId : RunId) (taskId : TaskId) : Bool :=
  owner.taskId == taskId && owner.runId == runId

namespace Board

/-- The ownership invariant of a board. -/
structure Owned (b : Board) : Prop where
  tasks : Table.Keyed (·.id) b.tasks
  claims : Table.Keyed (·.id) b.claims
  assignments : Table.Keyed (·.id) b.assignments
  owners : b.assignmentOwners = b.claimOwners
  oneTask : Table.Keyed (·.taskId) b.claimOwners
  oneAgent : Table.Keyed (·.agentId) b.claimOwners
  inProgress : ∀ task ∈ b.tasks, task.status = .inProgress ↔
    ∃ owner ∈ b.claimOwners, owner.taskId = task.id ∧ owner.runId = task.runId
  active : ∀ assignment ∈ b.assignments, assignment.isOpen = true →
    assignment.state = .active ∨ assignment.state = .draining
  claimedTask : ∀ claim ∈ b.claims, ∃ task ∈ b.tasks,
    task.id = claim.taskId ∧ task.runId = claim.runId

variable {b : Board}

-- ============================================================================
-- The holders after each step
-- ============================================================================

theorem mem_claimOwners {owner : Owner} :
    owner ∈ b.claimOwners ↔ ∃ claim ∈ b.claims, claim.isOpen = true ∧ claim.owner = owner := by
  simp [claimOwners, and_assoc]

theorem mem_assignmentOwners {owner : Owner} :
    owner ∈ b.assignmentOwners ↔
      ∃ assignment ∈ b.assignments, assignment.isOpen = true ∧ assignment.owner = owner := by
  simp [assignmentOwners, and_assoc]

theorem claimOwners_claim (claim : ClaimRecord) (assignment : AssignmentRecord)
    (hopen : claim.isOpen = true) :
    (b.claim claim assignment).claimOwners = b.claimOwners ++ [claim.owner] := by
  unfold claimOwners Board.claim
  rw [List.filter_append, List.filter_singleton, hopen, List.map_append]
  rfl

theorem assignmentOwners_claim (claim : ClaimRecord) (assignment : AssignmentRecord)
    (hopen : assignment.isOpen = true) :
    (b.claim claim assignment).assignmentOwners = b.assignmentOwners ++ [assignment.owner] := by
  unfold assignmentOwners Board.claim
  rw [List.filter_append, List.filter_singleton, hopen, List.map_append]
  rfl

theorem claimOwners_release (runId : RunId) (taskId : TaskId) (state : AssignmentState)
    (summary : Option String) (releasedAt : Int) :
    (b.release runId taskId state summary releasedAt).claimOwners =
      b.claimOwners.filter fun owner => !owner.holds runId taskId := by
  apply Table.map_filter_close
  · intro row hrow
    rfl
  · intro row hopen
    unfold ClaimRecord.isOpen at hopen
    rw [hopen, Bool.and_true]
    rfl

theorem assignmentOwners_release (runId : RunId) (taskId : TaskId) (state : AssignmentState)
    (summary : Option String) (releasedAt : Int) :
    (b.release runId taskId state summary releasedAt).assignmentOwners =
      b.assignmentOwners.filter fun owner => !owner.holds runId taskId := by
  apply Table.map_filter_close
  · intro row hrow
    rfl
  · intro row hopen
    unfold AssignmentRecord.isOpen at hopen
    rw [hopen, Bool.and_true]
    rfl

theorem assignmentOwners_revise (taskId : TaskId) (assignmentId : AssignmentId)
    (result : JsonValue) (summary : String) (updatedAt : Int) :
    (b.revise taskId assignmentId result summary updatedAt).assignmentOwners =
      b.assignmentOwners := by
  apply Table.map_filter_updateWhere
  · intro row _
    rfl
  · intro row _
    rfl

theorem assignmentOwners_bind (assignmentId : AssignmentId) (sessionId : SessionId) :
    (b.bind assignmentId sessionId).assignmentOwners = b.assignmentOwners := by
  apply Table.map_filter_updateWhere
  · intro row _
    rfl
  · intro row _
    rfl

@[simp]
theorem claimOwners_updateTask (runId : RunId) (taskId : TaskId) (f : TaskRecord → TaskRecord) :
    (b.updateTask runId taskId f).claimOwners = b.claimOwners := rfl

@[simp]
theorem assignmentOwners_updateTask (runId : RunId) (taskId : TaskId)
    (f : TaskRecord → TaskRecord) :
    (b.updateTask runId taskId f).assignmentOwners = b.assignmentOwners := rfl

/-- Draining changes no identity. -/
theorem ids_drained {assignments assignments' : List AssignmentRecord}
    (h : List.Forall₂ AssignmentRecord.Drained assignments assignments') :
    assignments'.map (·.id) = assignments.map (·.id) := by
  apply Table.map_eq_of_forall₂ _ h
  intro row row' hrow
  cases hrow <;> rfl

/-- Draining changes no holder. -/
theorem owners_drained {assignments assignments' : List AssignmentRecord}
    (h : List.Forall₂ AssignmentRecord.Drained assignments assignments') :
    (assignments'.filter (·.isOpen)).map (·.owner) =
      (assignments.filter (·.isOpen)).map (·.owner) := by
  induction h with
  | nil => rfl
  | @cons row row' rest rest' hrow _ ih =>
      have hopen : row'.isOpen = row.isOpen := by cases hrow <;> rfl
      have howner : row'.owner = row.owner := by cases hrow <;> rfl
      rw [List.filter_cons, List.filter_cons, hopen]
      split
      · rw [List.map_cons, List.map_cons, howner, ih]
      · exact ih

-- ============================================================================
-- The invariant survives each step
-- ============================================================================

theorem owned_empty : Owned ⟨[], [], [], []⟩ where
  tasks := List.nodup_nil
  claims := List.nodup_nil
  assignments := List.nodup_nil
  owners := rfl
  oneTask := List.nodup_nil
  oneAgent := List.nodup_nil
  inProgress := by simp
  active := by simp
  claimedTask := by simp

/-- The task that a holder names is on the board. -/
theorem Owned.task_of_owner (h : b.Owned) {owner : Owner} (howner : owner ∈ b.claimOwners) :
    ∃ task ∈ b.tasks, task.id = owner.taskId ∧ task.runId = owner.runId := by
  obtain ⟨claim, hclaim, -, rfl⟩ := mem_claimOwners.mp howner
  exact h.claimedTask claim hclaim

/-- A new task has no holder, since every holder's task exists. -/
theorem Owned.create (h : b.Owned) {task : TaskRecord} {edges : List DependencyRecord}
    (hopened : task.status = .opened) (hnew : ∀ row ∈ b.tasks, row.id ≠ task.id) :
    (b.create task edges).Owned where
  tasks := Table.keyed_append h.tasks hnew
  claims := h.claims
  assignments := h.assignments
  owners := h.owners
  oneTask := h.oneTask
  oneAgent := h.oneAgent
  inProgress := by
    intro row hrow
    rcases List.mem_append.mp hrow with hold | hrow
    · exact h.inProgress row hold
    · rw [List.mem_singleton.mp hrow, hopened]
      constructor
      · intro hstatus
        cases hstatus
      · rintro ⟨owner, howner, htask, -⟩
        obtain ⟨old, hold, hid, -⟩ := h.task_of_owner howner
        exact absurd (hid.trans htask) (hnew old hold)
  active := h.active
  claimedTask := by
    intro claim hclaim
    obtain ⟨row, hrow, hids⟩ := h.claimedTask claim hclaim
    exact ⟨row, List.mem_append_left _ hrow, hids⟩

/-- A claim adds one holder, for a task and an agent that had none. -/
theorem Owned.claim (h : b.Owned) {claim : ClaimRecord} {assignment : AssignmentRecord}
    (hclaimable : b.Claimable claim assignment) : (b.claim claim assignment).Owned where
  tasks := Table.keyed_updateWhere (fun _ _ => rfl) h.tasks
  claims := Table.keyed_append h.claims hclaimable.claimNew
  assignments := Table.keyed_append h.assignments hclaimable.assignmentNew
  owners := by
    rw [claimOwners_claim _ _ hclaimable.claimOpen,
      assignmentOwners_claim _ _ hclaimable.assignmentOpen, h.owners, hclaimable.owner]
  oneTask := by
    rw [claimOwners_claim _ _ hclaimable.claimOpen]
    apply Table.keyed_append h.oneTask
    intro owner howner
    obtain ⟨row, hrow, hopen, rfl⟩ := mem_claimOwners.mp howner
    exact hclaimable.unclaimed row hrow hopen
  oneAgent := by
    rw [claimOwners_claim _ _ hclaimable.claimOpen]
    apply Table.keyed_append h.oneAgent
    intro owner howner
    -- the open assignments name the same agents as the open claims
    rw [← h.owners] at howner
    obtain ⟨row, hrow, hopen, rfl⟩ := mem_assignmentOwners.mp howner
    exact hclaimable.idle row hrow hopen
  inProgress := by
    intro task htask
    rw [claimOwners_claim _ _ hclaimable.claimOpen]
    obtain ⟨row, hrow, rfl⟩ := Table.mem_updateWhere.mp htask
    have hold := h.inProgress row hrow
    split
    · next hp =>
        have hids : row.id = claim.taskId ∧ row.runId = claim.runId := by simpa using hp
        constructor
        · intro _
          exact ⟨claim.owner, by simp, hids.1.symm, hids.2.symm⟩
        · intro _
          rfl
    · next hp =>
        rw [hold]
        constructor
        · rintro ⟨owner, howner, hids⟩
          exact ⟨owner, List.mem_append_left _ howner, hids⟩
        · rintro ⟨owner, howner, hids⟩
          rcases List.mem_append.mp howner with hmem | hmem
          · exact ⟨owner, hmem, hids⟩
          · rw [List.mem_singleton.mp hmem] at hids
            exact absurd (show (row.id == claim.taskId && row.runId == claim.runId) = true by
              simp [← hids.1, ← hids.2, ClaimRecord.owner]) hp
  active := by
    intro row hrow hopen
    rcases List.mem_append.mp hrow with hmem | hmem
    · exact h.active row hmem hopen
    · rw [List.mem_singleton.mp hmem]
      exact .inl hclaimable.assignmentActive
  claimedTask := by
    intro row hrow
    refine Table.exists_mem_updateWhere ?_ ?_
    · intro task _ hids
      exact hids
    rcases List.mem_append.mp hrow with hmem | hmem
    · exact h.claimedTask row hmem
    · rw [List.mem_singleton.mp hmem]
      obtain ⟨task, htask, hid, hrun, -⟩ := hclaimable.task
      exact ⟨task, htask, hid, hrun⟩

/-- A transition of a task that nobody holds leaves the holders alone. -/
theorem Owned.move (h : b.Owned) {task : TaskRecord} {status : TaskStatus}
    {result : Option JsonValue} {updatedAt : Int} (htask : task ∈ b.tasks)
    (hfree : task.status ≠ .inProgress) (hstatus : status ≠ .inProgress) :
    (b.updateTask task.runId task.id (moved status result updatedAt)).Owned where
  tasks := Table.keyed_updateWhere (fun _ _ => rfl) h.tasks
  claims := h.claims
  assignments := h.assignments
  owners := h.owners
  oneTask := h.oneTask
  oneAgent := h.oneAgent
  inProgress := by
    intro row' hrow'
    obtain ⟨row, hrow, rfl⟩ := Table.mem_updateWhere.mp hrow'
    split
    · next hp =>
        have hids : row.id = task.id ∧ row.runId = task.runId := by simpa using hp
        have heq : row = task := h.tasks.eq_of_key_eq hrow htask hids.1
        subst heq
        constructor
        · intro hmoved
          exact absurd hmoved hstatus
        · intro howner
          exact absurd ((h.inProgress row hrow).mpr howner) hfree
    · exact h.inProgress row hrow
  active := h.active
  claimedTask := by
    intro row hrow
    exact Table.exists_mem_updateWhere (fun _ _ hids => hids) (h.claimedTask row hrow)

/-- Releasing a task takes its holder off the board. -/
theorem Owned.release (h : b.Owned) {task : TaskRecord} {status : TaskStatus}
    {state : AssignmentState} {summary : Option String} {result : Option JsonValue}
    {releasedAt : Int} (hstatus : status ≠ .inProgress) :
    ((b.release task.runId task.id state summary releasedAt).updateTask task.runId task.id
      (moved status result releasedAt)).Owned where
  tasks := Table.keyed_updateWhere (fun _ _ => rfl) h.tasks
  claims := Table.keyed_updateWhere (fun _ _ => rfl) h.claims
  assignments := Table.keyed_updateWhere (fun _ _ => rfl) h.assignments
  owners := by
    rw [assignmentOwners_updateTask, claimOwners_updateTask, assignmentOwners_release,
      claimOwners_release, h.owners]
  oneTask := by
    rw [claimOwners_updateTask, claimOwners_release]
    exact h.oneTask.filter _
  oneAgent := by
    rw [claimOwners_updateTask, claimOwners_release]
    exact h.oneAgent.filter _
  inProgress := by
    intro row' hrow'
    rw [claimOwners_updateTask, claimOwners_release]
    obtain ⟨row, hrow, rfl⟩ := Table.mem_updateWhere.mp hrow'
    split
    · next hp =>
        -- the released task: its new status is another, and its holder was filtered out
        have hids : row.id = task.id ∧ row.runId = task.runId := by simpa using hp
        constructor
        · intro hmoved
          exact absurd hmoved hstatus
        · rintro ⟨owner, howner, htaskId, hrunId⟩
          have hnot := (List.mem_filter.mp howner).2
          have hholds : owner.holds task.runId task.id = true := by
            simp only [moved] at htaskId hrunId
            simp [Owner.holds, htaskId, hrunId, hids]
          rw [hholds] at hnot
          cases hnot
    · next hp =>
        rw [h.inProgress row hrow]
        constructor
        · rintro ⟨owner, howner, htaskId, hrunId⟩
          refine ⟨owner, List.mem_filter.mpr ⟨howner, ?_⟩, htaskId, hrunId⟩
          rw [Owner.holds, htaskId, hrunId, Bool.eq_false_iff.mpr hp]
          rfl
        · rintro ⟨owner, howner, hids⟩
          exact ⟨owner, (List.mem_filter.mp howner).1, hids⟩
  active := by
    intro row' hrow' hopen
    obtain ⟨row, hrow, rfl⟩ := Table.mem_updateWhere.mp hrow'
    split at hopen
    · cases hopen
    · next hp =>
        rw [if_neg hp]
        exact h.active row hrow hopen
  claimedTask := by
    intro row' hrow'
    refine Table.exists_mem_updateWhere ?_ ?_
    · intro task _ hids
      exact hids
    obtain ⟨row, hrow, rfl⟩ := Table.mem_updateWhere.mp hrow'
    have hold := h.claimedTask row hrow
    split <;> exact hold

theorem Owned.revise (h : b.Owned) {taskId : TaskId} {assignmentId : AssignmentId}
    {result : JsonValue} {summary : String} {updatedAt : Int} :
    (b.revise taskId assignmentId result summary updatedAt).Owned where
  tasks := Table.keyed_updateWhere (fun _ _ => rfl) h.tasks
  claims := h.claims
  assignments := Table.keyed_updateWhere (fun _ _ => rfl) h.assignments
  owners := by
    rw [assignmentOwners_revise, h.owners]
    rfl
  oneTask := h.oneTask
  oneAgent := h.oneAgent
  inProgress := by
    intro row' hrow'
    obtain ⟨row, hrow, rfl⟩ := Table.mem_updateWhere.mp hrow'
    have hold := h.inProgress row hrow
    split <;> exact hold
  active := by
    intro row' hrow' hopen
    obtain ⟨row, hrow, rfl⟩ := Table.mem_updateWhere.mp hrow'
    have hold := h.active row hrow
    split at hopen <;> rename_i hp
    · rw [if_pos hp]
      exact hold hopen
    · rw [if_neg hp]
      exact hold hopen
  claimedTask := by
    intro claim hclaim
    exact Table.exists_mem_updateWhere (fun _ _ hids => hids) (h.claimedTask claim hclaim)

theorem Owned.bind (h : b.Owned) {assignmentId : AssignmentId} {sessionId : SessionId} :
    (b.bind assignmentId sessionId).Owned where
  tasks := h.tasks
  claims := h.claims
  assignments := Table.keyed_updateWhere (fun _ _ => rfl) h.assignments
  owners := by
    rw [assignmentOwners_bind, h.owners]
    rfl
  oneTask := h.oneTask
  oneAgent := h.oneAgent
  inProgress := h.inProgress
  active := by
    intro row' hrow' hopen
    obtain ⟨row, hrow, rfl⟩ := Table.mem_updateWhere.mp hrow'
    have hold := h.active row hrow
    split at hopen <;> rename_i hp
    · rw [if_pos hp]
      exact hold hopen
    · rw [if_neg hp]
      exact hold hopen
  claimedTask := h.claimedTask

theorem Owned.drain (h : b.Owned) {assignments : List AssignmentRecord}
    (hdrained : List.Forall₂ AssignmentRecord.Drained b.assignments assignments) :
    Owned { b with assignments := assignments } where
  tasks := h.tasks
  claims := h.claims
  assignments := by
    rw [Table.Keyed, ids_drained hdrained]
    exact h.assignments
  owners := (owners_drained hdrained).trans h.owners
  oneTask := h.oneTask
  oneAgent := h.oneAgent
  inProgress := h.inProgress
  active := by
    intro row' hrow' hopen
    obtain ⟨row, hrow, hd⟩ := Table.exists_mem_of_forall₂ hdrained hrow'
    cases hd with
    | same => exact h.active row' hrow hopen
    | draining => exact .inr rfl
  claimedTask := h.claimedTask

/-- Every step keeps the ownership invariant. -/
theorem Owned.step {b' : Board} (h : b.Owned) (hstep : b.Step b') : b'.Owned := by
  cases hstep with
  | create task edges hopened hnew => exact h.create hopened hnew
  | claim claim assignment hclaimable => exact h.claim hclaimable
  | release task transition status state summary result releasedAt _ _ hstatus _ =>
      exact h.release (TaskStatus.transition_ne_inProgress hstatus)
  | move task transition status result updatedAt htask hfree hstatus =>
      exact h.move htask hfree (TaskStatus.transition_ne_inProgress hstatus)
  | revise => exact h.revise
  | bind => exact h.bind
  | drain assignments hdrained => exact h.drain hdrained

end Board

end Coterie
