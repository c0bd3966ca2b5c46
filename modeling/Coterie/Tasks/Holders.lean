/-
  Coterie.Tasks.Holders

  Exclusive holders in every reachable store: the tasks in progress are held under one open claim and
  one open assignment of the same agent, all other tasks are not held, and no agent holds two tasks.
  The transitions that release a task rely on it: the errors with which they would report broken
  ownership do not occur.
-/

import Coterie.Tasks.Refinement

namespace Coterie

namespace Board

variable {b : Board}

/-- Holders of one task hold the same task. -/
theorem taskId_of_holds {runId : RunId} {taskId : TaskId} (a c : Owner)
    (ha : a.holds runId taskId = true) (hc : c.holds runId taskId = true) :
    a.taskId = c.taskId := by
  simp only [Owner.holds, Bool.and_eq_true, beq_iff_eq] at ha hc
  rw [ha.1, hc.1]

/-- A task in progress has one holder. -/
theorem Owned.one_holder (h : b.Owned) {task : TaskRecord} (htask : task ∈ b.tasks)
    (hheld : task.status = .inProgress) :
    ∃ owner, b.claimOwners.filter (·.holds task.runId task.id) = [owner] := by
  obtain ⟨owner, howner, hid, hrun⟩ := (h.inProgress task htask).mp hheld
  exact ⟨owner, h.oneTask.filter_eq_singleton (fun a _ c _ => taskId_of_holds a c) howner
    (by simp [Owner.holds, hid, hrun])⟩

/-- A task in another status has none. -/
theorem Owned.no_holder (h : b.Owned) {task : TaskRecord} (htask : task ∈ b.tasks)
    (hfree : task.status ≠ .inProgress) :
    b.claimOwners.filter (·.holds task.runId task.id) = [] := by
  rw [List.filter_eq_nil_iff]
  intro owner howner hholds
  simp only [Owner.holds, Bool.and_eq_true, beq_iff_eq] at hholds
  exact hfree ((h.inProgress task htask).mpr ⟨owner, howner, hholds⟩)

end Board

/-! ## The open rows of a task and of an agent -/

variable {db : Db}

/-- The open claims of a task name the holders of the task. -/
theorem owners_activeClaimsOf (db : Db) (runId : RunId) (taskId : TaskId) :
    (db.activeClaimsOf runId taskId).map (·.owner) =
      db.board.claimOwners.filter (·.holds runId taskId) := by
  unfold Board.claimOwners Db.activeClaimsOf
  rw [List.filter_map, List.filter_filter]
  congr 1

/-- The open assignments of a task name the holders of the task, too. -/
theorem owners_activeAssignmentsOf (db : Db) (runId : RunId) (taskId : TaskId) :
    (db.activeAssignmentsOf runId taskId).map (·.owner) =
      db.board.assignmentOwners.filter (·.holds runId taskId) := by
  unfold Board.assignmentOwners Db.activeAssignmentsOf
  rw [List.filter_map, List.filter_filter]
  congr 1

/-- A task in progress has one open claim and one open assignment, of one agent. -/
theorem held_of_owned (h : db.board.Owned) {task : TaskRecord} (htask : task ∈ db.tasks)
    (hheld : task.status = .inProgress) :
    ∃ claim assignment, db.activeClaimsOf task.runId task.id = [claim] ∧
      db.activeAssignmentsOf task.runId task.id = [assignment] ∧
      assignment.owner = claim.owner := by
  obtain ⟨owner, howner⟩ := h.one_holder htask hheld
  have hclaims := owners_activeClaimsOf db task.runId task.id
  have hassignments := owners_activeAssignmentsOf db task.runId task.id
  rw [h.owners] at hassignments
  rw [howner, List.map_eq_singleton_iff] at hclaims hassignments
  obtain ⟨claim, hclaim, rfl⟩ := hclaims
  obtain ⟨assignment, hassignment, heq⟩ := hassignments
  exact ⟨claim, assignment, hclaim, hassignment, heq⟩

theorem free_of_owned (h : db.board.Owned) {task : TaskRecord} (htask : task ∈ db.tasks)
    (hfree : task.status ≠ .inProgress) :
    db.activeClaimsOf task.runId task.id = [] ∧
      db.activeAssignmentsOf task.runId task.id = [] := by
  have hnone := h.no_holder htask hfree
  have hclaims := owners_activeClaimsOf db task.runId task.id
  have hassignments := owners_activeAssignmentsOf db task.runId task.id
  rw [h.owners] at hassignments
  rw [hnone, List.map_eq_nil_iff] at hclaims hassignments
  exact ⟨hclaims, hassignments⟩

/-- The open claims of an agent. -/
def Db.activeClaimsOfAgent (db : Db) (runId : RunId) (agentId : AgentId) : List ClaimRecord :=
  db.claims.filter fun row =>
    row.agentId == agentId && row.runId == runId && row.releasedAt == none

/-- The open assignments of an agent. -/
def Db.activeAssignmentsOfAgent (db : Db) (runId : RunId) (agentId : AgentId) :
    List AssignmentRecord :=
  db.assignments.filter fun row =>
    row.agentId == agentId && row.runId == runId && row.completedAt == none

theorem length_holdersOfAgent (h : db.board.Owned) (runId : RunId) (agentId : AgentId) :
    (db.board.claimOwners.filter fun owner =>
      owner.agentId == agentId && owner.runId == runId).length ≤ 1 := by
  apply h.oneAgent.length_filter_le_one
  intro a _ c _ ha hc
  simp only [Bool.and_eq_true, beq_iff_eq] at ha hc
  rw [ha.1, hc.1]

/-- No agent holds two tasks. -/
theorem agent_of_owned (h : db.board.Owned) (runId : RunId) (agentId : AgentId) :
    (db.activeClaimsOfAgent runId agentId).length ≤ 1 ∧
      (db.activeAssignmentsOfAgent runId agentId).length ≤ 1 := by
  have hholders := length_holdersOfAgent h runId agentId
  constructor
  · have howners : (db.activeClaimsOfAgent runId agentId).map (·.owner) =
        db.board.claimOwners.filter fun owner =>
          owner.agentId == agentId && owner.runId == runId := by
      unfold Board.claimOwners Db.activeClaimsOfAgent
      rw [List.filter_map, List.filter_filter]
      congr 1
    rw [← howners, List.length_map] at hholders
    exact hholders
  · have howners : (db.activeAssignmentsOfAgent runId agentId).map (·.owner) =
        db.board.assignmentOwners.filter fun owner =>
          owner.agentId == agentId && owner.runId == runId := by
      unfold Board.assignmentOwners Db.activeAssignmentsOfAgent
      rw [List.filter_map, List.filter_filter]
      congr 1
    rw [← h.owners, ← howners, List.length_map] at hholders
    exact hholders

/-! ## Errors about broken ownership -/

/-- The errors with which a transition reports that the ownership of its task is broken: the open
    rows are missing or not exactly one of each, or a task in progress is closed. -/
def StoreError.OwnershipBroken : StoreError → Prop
  | .corruptTaskState _ reason =>
      reason = "the transitioned task had no active assignment" ∨
        reason = "the transitioned task had no active claim" ∨
        reason = "an in-progress task cannot close directly" ∨
        ∃ counts, reason = "expected one active assignment and claim, found " ++ counts
  | .panicked message => message = "an in-progress task cannot close directly"
  | _ => False

/-- A task that is missing after its transition is another error. -/
theorem disappeared_not_broken (id : TaskId) :
    ¬ (StoreError.corruptTaskState id "the transitioned task disappeared").OwnershipBroken := by
  rintro (h | h | h | ⟨counts, h⟩)
  · exact absurd h (by decide)
  · exact absurd h (by decide)
  · exact absurd h (by decide)
  · have hfirst := congrArg (fun text => text.toList.head?) h
    simp at hfirst

/-- The release of a held task succeeds. -/
theorem releaseTaskOwnership_run (h : db.board.Owned) {mutation : TaskTransitionMutation}
    {task : TaskRecord} (htask : task ∈ db.tasks) (hid : task.id = mutation.taskId)
    (hrun : task.runId = mutation.runId) (hheld : task.status = .inProgress)
    {state : AssignmentState} (hstate : mutation.transition.assignmentState = some state) :
    (releaseTaskOwnership mutation).run db =
      (.ok (), db.releaseOwnership mutation.runId mutation.taskId state mutation.summary
        mutation.transitionedAt) := by
  obtain ⟨claim, assignment, hclaims, hassignments, -⟩ := held_of_owned h htask hheld
  rw [hid, hrun] at hclaims hassignments
  unfold releaseTaskOwnership
  rw [hstate]
  dsimp only
  rw [Tx.run_bind, Tx.run_read]
  dsimp only
  rw [Tx.run_bind, Tx.run_read]
  dsimp only
  rw [Tx.run_bind, Tx.run_write]
  dsimp only
  rw [hclaims, hassignments]
  rfl

/-- A task in progress is left by a transition that releases its assignment. -/
theorem TaskStatus.assignmentState_of_inProgress {status : TaskStatus}
    {transition : TaskTransition} (h : TaskStatus.inProgress.transition transition = some status) :
    ∃ state, transition.assignmentState = some state := by
  cases transition with
  | reopen => exact ⟨_, rfl⟩
  | submit => exact ⟨_, rfl⟩
  | cancel => exact ⟨_, rfl⟩
  | close => cases h

/-- Applying a transition never fails. -/
theorem applyTaskTransition_avoids (bad : StoreError → Prop) (mutation : TaskTransitionMutation) :
    Tx.Avoids (fun db : Db => db.board.Owned) bad (applyTaskTransition mutation) := by
  refine .bind (J := fun task? db => db.board.Owned ∧ db.task mutation.taskId = task?)
    (.read _) ?_ fun task? => ?_
  · intro db task? db' howned hrun
    obtain ⟨rfl, rfl⟩ := Tx.read_eq_ok.mp hrun
    exact ⟨howned, rfl⟩
  · cases hfound : task?.filter (·.runId == mutation.runId) with
    | none => exact .pure _
    | some task =>
        dsimp only
        cases hstatus : task.status.transition mutation.transition with
        | none => exact .pure _
        | some status =>
            dsimp only
            refine .bind (J := fun _ db => db.board.Owned ∧ db.task mutation.taskId = task?)
              (.read _) ?_ fun notMet => .ite (.pure _) ?_
            · intro db _ db' hdb hrun
              obtain ⟨-, rfl⟩ := Tx.read_eq_ok.mp hrun
              exact hdb
            · refine .seq ?_ fun _ => .seq (.write _) fun _ => .pure _
              -- the release finds exactly the rows that it expects
              intro db e db' hdb hrun
              obtain ⟨howned, rfl⟩ := hdb
              obtain ⟨htask, hrunId⟩ := Option.filter_eq_some_iff.mp hfound
              unfold Tx.when at hrun
              split at hrun
              · next hheld =>
                  rw [hheld] at hstatus
                  obtain ⟨state, hstate⟩ := TaskStatus.assignmentState_of_inProgress hstatus
                  rw [releaseTaskOwnership_run howned (List.mem_of_find?_eq_some htask)
                    (by simpa using List.find?_some htask) (by simpa using hrunId) hheld
                    hstate] at hrun
                  cases hrun
              · cases hrun

theorem appendEvent_avoids {I : Db → Prop} (event : NewEvent) :
    Tx.Avoids I StoreError.OwnershipBroken (appendEvent event) :=
  .seq (.require id _) fun _ => .write _

theorem insertOperation_avoids {I : Db → Prop} (operation : OperationRecord) :
    Tx.Avoids I StoreError.OwnershipBroken (insertOperation operation) :=
  .seq (.require id _) fun _ => .seq (.require id _) fun _ => .seq (.require id _) fun _ =>
    .seq (.require id _) fun _ => .write _

/-- What leaves the board alone leaves its ownership sound. -/
theorem owned_of_still {α : Type} {x : Repo α} (h : Tx.Ensures Db.SameBoard x) :
    Tx.Preserves (fun db : Db => db.board.Owned) x := by
  intro db a db' howned hrun
  have hsame : db'.board = db.board := h db a db' hrun
  show db'.board.Owned
  rw [hsame]
  exact howned

/-- A mutation reports broken ownership only if its closure does. -/
theorem mutationBody_avoids {mutation : Mutation} {requestFingerprint : Option String}
    {apply : Repo JsonValue}
    (happly : Tx.Avoids (fun db : Db => db.board.Owned) StoreError.OwnershipBroken apply) :
    Tx.Avoids (fun db : Db => db.board.Owned) StoreError.OwnershipBroken
      (mutationBody .json mutation requestFingerprint apply) := by
  have hencode : ∀ json e, Codec.json.encode json = .error e → ¬ e.OwnershipBroken := by
    intro json e he
    cases he
  refine .read_bind fun db howned => ?_
  cases db.operation mutation.id with
  | some existing =>
      refine .ite (.throw id) (.ite (.throw id) ?_)
      split
      · exact .throw id
      · exact .seq (.ofExcept (hencode _)) fun _ => .pure _
  | none =>
      refine .bind_keep (insertOperation_avoids _)
        (owned_of_still (still [.operations, .launches] (by decide)
        (writes_insertOperation _ (.inr Listed.mem)))) fun _ => ?_
      refine .bind_keep (.write _) (owned_of_still
        (still [.operations, .outcomes] (by decide) (.write fun db => written_settleOperation db _
          fun _ => ⟨⟨rfl, rfl, rfl, rfl⟩, rfl⟩))) fun _ => ?_
      exact .seq happly fun _ => .seq (.ofExcept (hencode _)) fun _ =>
        .seq (.write _) fun _ => .pure _

/-- The rows that a release is to report are the ones read before it. -/
theorem appendReleaseEvents_avoids {I : Db → Prop} {mutation : TaskTransitionMutation}
    {task : TaskRecord} {assignment : AssignmentRecord} {claim : ClaimRecord}
    {state : AssignmentState} (hstate : mutation.transition.assignmentState = some state) :
    Tx.Avoids I StoreError.OwnershipBroken
      (appendReleaseEvents mutation task (some assignment) (some claim)) := by
  refine .seq (.pure _) fun _ => .seq (.pure _) fun _ => .seq ?_ fun _ => ?_
  · rw [hstate]
    exact .pure _
  · exact .seq (appendEvent_avoids _) fun _ => appendEvent_avoids _

/-- The lookups of the open rows find them when there is exactly one of each. -/
theorem activeClaimForTask_of_held {runId : RunId} {taskId : TaskId} {claim : ClaimRecord}
    (h : db.activeClaimsOf runId taskId = [claim]) :
    db.activeClaimForTask runId taskId = some claim := by
  have hcond : (fun row : ClaimRecord =>
        row.runId == runId && row.taskId == taskId && row.releasedAt == none) =
      fun row => row.taskId == taskId && row.runId == runId && row.releasedAt == none := by
    funext row
    rw [Bool.and_comm (row.runId == runId)]
  unfold Db.activeClaimForTask
  rw [hcond, ← List.head?_filter]
  exact congrArg List.head? h

theorem activeAssignmentForTask_of_held {runId : RunId} {taskId : TaskId}
    {assignment : AssignmentRecord} (h : db.activeAssignmentsOf runId taskId = [assignment]) :
    db.activeAssignmentForTask runId taskId = some assignment := by
  have hcond : (fun row : AssignmentRecord =>
        row.runId == runId && row.taskId == taskId && row.completedAt == none) =
      fun row => row.taskId == taskId && row.runId == runId && row.completedAt == none := by
    funext row
    rw [Bool.and_comm (row.runId == runId)]
  unfold Db.activeAssignmentForTask
  rw [hcond, ← List.head?_filter]
  exact congrArg List.head? h

/-- What `transitionTaskBody` knows between its reads and its events: a transition out of
    `in_progress` has found the open rows. -/
def ReleaseKnown (mutation : TaskTransitionMutation) (claim? : Option ClaimRecord)
    (assignment? : Option AssignmentRecord) (previousStatus : TaskStatus) : Prop :=
  previousStatus = .inProgress →
    (∃ claim, claim? = some claim) ∧ (∃ assignment, assignment? = some assignment) ∧
      ∃ state, mutation.transition.assignmentState = some state

theorem releaseKnown_of_transitioned {mutation : TaskTransitionMutation} {db db' : Db}
    {task : TaskRecord} {status : TaskStatus} (h : db.board.Owned)
    (htransitioned : Transitioned mutation db db' task status) :
    ReleaseKnown mutation (db.activeClaimForTask mutation.runId mutation.taskId)
      (db.activeAssignmentForTask mutation.runId mutation.taskId) task.status := by
  intro hheld
  have hmem : task ∈ db.tasks := List.mem_of_find?_eq_some htransitioned.found
  have hid : task.id = mutation.taskId := by simpa using List.find?_some htransitioned.found
  obtain ⟨claim, assignment, hclaim, hassignment, -⟩ := held_of_owned h hmem hheld
  rw [hid, htransitioned.inRun] at hclaim hassignment
  have hpermitted := htransitioned.permitted
  rw [hheld] at hpermitted
  exact ⟨⟨claim, activeClaimForTask_of_held hclaim⟩,
    ⟨assignment, activeAssignmentForTask_of_held hassignment⟩,
    TaskStatus.assignmentState_of_inProgress hpermitted⟩

theorem transitionTaskBody_avoids (mutation : TaskTransitionMutation) :
    Tx.Avoids (fun db : Db => db.board.Owned) StoreError.OwnershipBroken
      (transitionTaskBody mutation) := by
  refine .bind
    (J := fun claim? db => db.board.Owned ∧
      db.activeClaimForTask mutation.runId mutation.taskId = claim?)
    (.read _) ?_ fun claim? => ?_
  · intro db claim? db' howned hrun
    obtain ⟨rfl, rfl⟩ := Tx.read_eq_ok.mp hrun
    exact ⟨howned, rfl⟩
  refine .bind
    (J := fun assignment? db => db.board.Owned ∧
      db.activeClaimForTask mutation.runId mutation.taskId = claim? ∧
        db.activeAssignmentForTask mutation.runId mutation.taskId = assignment?)
    (.read _) ?_ fun assignment? => ?_
  · intro db assignment? db' hdb hrun
    obtain ⟨rfl, rfl⟩ := Tx.read_eq_ok.mp hrun
    exact ⟨hdb.1, hdb.2, rfl⟩
  refine .bind
    (J := fun result _ => ∀ previousStatus status, result = .transitioned previousStatus status →
      ReleaseKnown mutation claim? assignment? previousStatus)
    ?_ ?_ fun result => ?_
  · intro db e db' hdb hrun
    exact applyTaskTransition_avoids _ mutation db e db' hdb.1 hrun
  · rintro db result db' ⟨howned, rfl, rfl⟩ hrun previousStatus status rfl
    rcases applyTaskTransition_ok hrun with ⟨_, hrejected, -⟩ | ⟨task, next, hresult, htransitioned⟩
    · cases hrejected
    · cases hresult
      exact releaseKnown_of_transitioned howned htransitioned
  · cases result with
    | rejected => exact .pure _
    | transitioned previousStatus status =>
        refine .of_pre fun db hresult => ?_
        have hknown := hresult previousStatus status rfl
        refine .seq (.read _) fun row => .seq (.okOr ?_ _) fun task => ?_
        · exact disappeared_not_broken _
        refine .seq (appendEvent_avoids _) fun _ => .seq ?_ fun _ => .pure _
        unfold Tx.when
        split
        · next hheld =>
            obtain ⟨⟨claim, rfl⟩, ⟨assignment, rfl⟩, state, hstate⟩ := hknown hheld
            exact appendReleaseEvents_avoids hstate
        · exact .pure _

theorem transitionTask_avoids (transition : TaskTransitionMutation)
    (requestFingerprint : Option String) :
    Tx.Avoids (fun db : Db => db.board.Owned) StoreError.OwnershipBroken
      (transitionTaskWithFingerprint transition requestFingerprint) := by
  refine .bind_keep (.okOr ?_ _) (owned_of_still (still [] (by decide) (.okOr _ _))) fun transition => ?_
  · unfold StoreError.OwnershipBroken
    decide
  · exact mutationBody_avoids (.seq (transitionTaskBody_avoids transition) fun _ => .pure _)

/-- The preflight of interrupted assignments rejects with errors of its own. -/
theorem preflight_avoids {I : Db → Prop} (db : Db) (runId : RunId) (assignmentId : AssignmentId)
    (acknowledgeLost : Bool) (retainedCommit : Option String) :
    Tx.Avoids I StoreError.OwnershipBroken
      (Tx.ofExcept (db.interruptedAssignmentPreflight runId assignmentId acknowledgeLost
        retainedCommit)) := by
  refine .ofExcept fun e h => ?_
  unfold Db.interruptedAssignmentPreflight at h
  dsimp only at h
  repeat' split at h
  -- the last case returned a pair
  all_goals first | (cases h; exact id) | cases h

theorem recoverTask_avoids (mutation : Mutation) (assignmentId : AssignmentId) (reason : String)
    (document brief : JsonValue) (acknowledgeLost : Bool) :
    Tx.Avoids (fun db : Db => db.board.Owned) StoreError.OwnershipBroken
      (recoverTask mutation assignmentId reason document brief acknowledgeLost) := by
  refine .seq ?_ fun _ => .pure _
  refine .read_bind fun db _ => .bind_keep (preflight_avoids db _ _ _ _)
    (owned_of_still (still [] (by decide) (.ofExcept _))) fun found => ?_
  refine .bind_keep (.okOr ?_ _) (owned_of_still (still [] (by decide) (.okOr _ _))) fun sessionId => ?_
  · unfold StoreError.OwnershipBroken
    decide
  refine .bind_keep ?_ (owned_of_still (still [.recoveryHandoffs] (by decide)
    (writes_insertRecoveryHandoff _))) fun _ => ?_
  · exact .seq (.require id _) fun _ => .seq (.require id _) fun _ => .seq (.require id _) fun _ =>
      .write _
  · exact .seq (applyTaskTransition_avoids _ _) fun _ =>
      .seq (.each (fun event => appendEvent_avoids event) _) fun _ => .pure _

theorem recordWorkspaceResultCommit_avoids {I : Db → Prop} (scope : AssignmentScope)
    (resultCommit : String) :
    Tx.Avoids I StoreError.OwnershipBroken (recordWorkspaceResultCommit scope resultCommit) := by
  refine .seq (.read _) fun found => ?_
  cases found with
  | none => exact .pure _
  | some workspace =>
      dsimp only
      split
      · exact .ite (.pure _) (.throw id)
      · exact .seq (.write _) fun _ => .pure _

theorem submitRetained_avoids (mutation : Mutation) (submission : RetainedSubmission) :
    Tx.Avoids (fun db : Db => db.board.Owned) StoreError.OwnershipBroken
      (submitRetained mutation submission) := by
  refine .read_bind fun db _ => .bind_keep (preflight_avoids db _ _ _ _)
    (owned_of_still (still [] (by decide) (.ofExcept _))) fun found => ?_
  refine .bind_keep (recordWorkspaceResultCommit_avoids _ _) (owned_of_still
    (still [.workspaces] (by decide) (writes_recordWorkspaceResultCommit _ _))) fun _ => ?_
  exact .seq (applyTaskTransition_avoids _ _) fun _ =>
    .seq (.each (fun event => appendEvent_avoids event) _) fun _ => .pure _

/-! ## Every reachable store -/

/-- The commands that take a task out of the hands of its holder. -/
def Command.releases : Command → Bool
  | .transitionTask .. | .recoverTask .. | .submitRetained .. => true
  | _ => false

theorem Command.releases_avoids {command : Command} (h : command.releases = true) :
    Tx.Avoids (fun db : Db => db.board.Owned) StoreError.OwnershipBroken command.body := by
  cases command
  case transitionTask transition requestFingerprint =>
    exact .seq (transitionTask_avoids transition requestFingerprint) fun _ => .pure _
  case recoverTask =>
    exact .seq (mutationBody_avoids (recoverTask_avoids _ _ _ _ _ _)) fun _ => .pure _
  case submitRetained =>
    exact .seq (mutationBody_avoids (submitRetained_avoids _ _)) fun _ => .pure _
  all_goals cases h

/-- In every reachable store a task is in progress exactly when it has one open claim and one open
    assignment, both of one agent; a task in any other status has neither; no agent has two of
    either; and no transition, recovery or retained submission reports broken ownership. -/
theorem task_ownership (commands : List Command) :
    (∀ task ∈ (storeMachine.run commands).tasks,
      task.status = .inProgress ↔
        ∃ claim assignment,
          (storeMachine.run commands).activeClaimsOf task.runId task.id = [claim] ∧
            (storeMachine.run commands).activeAssignmentsOf task.runId task.id = [assignment] ∧
              assignment.agentId = claim.agentId) ∧
    (∀ task ∈ (storeMachine.run commands).tasks, task.status ≠ .inProgress →
      (storeMachine.run commands).activeClaimsOf task.runId task.id = [] ∧
        (storeMachine.run commands).activeAssignmentsOf task.runId task.id = []) ∧
    (∀ runId agentId,
      ((storeMachine.run commands).activeClaimsOfAgent runId agentId).length ≤ 1 ∧
        ((storeMachine.run commands).activeAssignmentsOfAgent runId agentId).length ≤ 1) ∧
    ∀ (command : Command) (error : StoreError) (db : Db), command.releases = true →
      command.body.run (storeMachine.run commands) = (.error error, db) →
        ¬ error.OwnershipBroken := by
  have howned := owned_run commands
  refine ⟨?_, ?_, agent_of_owned howned, ?_⟩
  · intro task htask
    constructor
    · intro hheld
      obtain ⟨claim, assignment, hclaim, hassignment, howner⟩ := held_of_owned howned htask hheld
      exact ⟨claim, assignment, hclaim, hassignment, congrArg Owner.agentId howner⟩
    · rintro ⟨claim, _, hclaim, -⟩
      by_contra hfree
      rw [(free_of_owned howned htask hfree).1] at hclaim
      cases hclaim
  · intro task htask hfree
    exact free_of_owned howned htask hfree
  · intro command error db hreleases hrun
    exact Command.releases_avoids hreleases _ error db howned hrun

end Coterie
