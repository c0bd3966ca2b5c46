/-
  Coterie.Workspaces.Submission

  The copy of a result commit in the result of its task.  A task that stands submitted was
  submitted by one completed assignment, and its result names the commit that the assignment's
  worktree records, whichever way it was submitted or corrected.
-/

import Coterie.Tasks.Closure
import Coterie.Workspaces.Commits

namespace Coterie

-- ============================================================================
-- Finished work
-- ============================================================================

/-- The task is submitted, or closed after it was. -/
def TaskRecord.Finished (task : TaskRecord) : Prop :=
  task.status = .submitted ∨ task.status = .closed

/-- The finished tasks and the completed assignments are the same rows. -/
structure Db.WorkKept (db db' : Db) : Prop where
  tasks : ∀ task : TaskRecord, task.Finished → (task ∈ db'.tasks ↔ task ∈ db.tasks)
  assignments : ∀ row : AssignmentRecord, row.isOpen = false →
    (row ∈ db'.assignments ↔ row ∈ db.assignments)

instance : Std.Refl Db.WorkKept where
  refl _ := ⟨fun _ _ => Iff.rfl, fun _ _ => Iff.rfl⟩

instance : IsTrans Db Db.WorkKept where
  trans _ _ _ hab hbc :=
    ⟨fun task h => (hbc.tasks task h).trans (hab.tasks task h),
      fun row h => (hbc.assignments row h).trans (hab.assignments row h)⟩

/-- The tables of finished work. -/
def workTables : List TableName :=
  [.tasks, .assignments]

theorem Written.workKept {tables : List TableName} {db db' : Db} (h : Written tables db db')
    (hno : ∀ table ∈ workTables, table ∉ tables) : db.WorkKept db' := by
  have htasks : db'.tasks = db.tasks := h.writesOnly .tasks (hno _ (by decide))
  have hassignments : db'.assignments = db.assignments :=
    h.writesOnly .assignments (hno _ (by decide))
  constructor
  · intro task _
    rw [htasks]
  · intro row _
    rw [hassignments]

/-- A function whose frame avoids tasks and assignments. -/
theorem workKept_of_writes {α : Type} {x : Repo α} (tables : List TableName)
    (hno : ∀ table ∈ workTables, table ∉ tables)
    (h : Tx.Keeps (Written tables) x) : Tx.Ensures Db.WorkKept x :=
  .of_keeps h fun _ _ hw => hw.workKept hno

/-! ## Functions that finish no work -/

theorem insertNewTask_workKept (task : NewTask) (runId : RunId) (now : Int) :
    Tx.Ensures Db.WorkKept (insertNewTask task runId now) := by
  have hrequire : ∀ id, Tx.Keeps (Written [.taskDependencies]) (requireDependency runId id) :=
    fun id => .require _ _
  have hinsert : ∀ id, Tx.Keeps (Written [.taskDependencies])
      (insertDependency (task.edge runId now id)) := fun id => writes_insertDependency _
  refine .seq (workKept_of_writes [.taskDependencies] (by decide) (.each hrequire _)) fun _ => ?_
  refine .seq ?_ fun _ => workKept_of_writes [.taskDependencies] (by decide) (.each hinsert _)
  intro db u db' h
  obtain ⟨-, rfl⟩ := insertTask_ok h
  refine ⟨fun row hfinished => ?_, fun _ _ => Iff.rfl⟩
  show row ∈ db.tasks ++ [task.record runId now] ↔ row ∈ db.tasks
  rw [List.mem_append, List.mem_singleton]
  constructor
  · rintro (hold | rfl)
    · exact hold
    · -- the new task is open
      rcases hfinished with h | h <;> cases h
  · exact .inl

theorem compareAndSetClaim_workKept (claim : ClaimTaskMutation) :
    Tx.Ensures Db.WorkKept (compareAndSetClaim claim) := by
  intro db result db' h
  rcases compareAndSetClaim_ok h with ⟨_, -, rfl⟩ | ⟨generation, task, -, -, -, -, rfl⟩
  · exact Std.Refl.refl db'
  · constructor
    · intro row hfinished
      refine Table.mem_updateWhere_iff ?_ ?_ hfinished
      · -- only an open task is claimed
        intro old _ hselects hold
        have hopened := (selects_eq_true hselects).2.2.1
        rcases hold with h | h <;> rw [hopened] at h <;> cases h
      · intro old _ _ hold
        rcases hold with h | h <;> cases h
    · intro row hclosed
      show row ∈ db.assignments ++ [claim.assignmentRecord db.nextClaimId generation] ↔
        row ∈ db.assignments
      rw [List.mem_append, List.mem_singleton]
      constructor
      · rintro (hold | rfl)
        · exact hold
        · cases hclosed
      · exact .inl

theorem associateAssignmentSession_workKept (assignmentId : AssignmentId) (sessionId : SessionId) :
    Tx.Ensures Db.WorkKept (associateAssignmentSession assignmentId sessionId) := by
  intro db u db' h
  simp only [associateAssignmentSession, Tx.bind_eq_ok, Tx.require_eq_ok, Tx.write_eq_ok] at h
  obtain ⟨_, _, ⟨-, rfl⟩, _, _, ⟨-, rfl⟩, rfl⟩ := h
  refine ⟨fun _ _ => Iff.rfl, fun row hclosed => ?_⟩
  have hopen : ∀ old : AssignmentRecord, (old.id == assignmentId && old.sessionId == none &&
      old.completedAt == none) = true → old.isOpen = true :=
    fun old h => (Bool.and_eq_true _ _ ▸ h).2
  refine Table.mem_updateWhere_iff (P := fun row => row.isOpen = false) ?_ ?_ hclosed
  · intro old _ hp hold
    rw [hopen old hp] at hold
    cases hold
  · intro old _ hp hold
    have : old.isOpen = false := hold
    rw [hopen old hp] at this
    cases this

theorem Db.DrainsTo.workKept {db db' : Db} (h : db.DrainsTo db') : db.WorkKept db' := by
  obtain ⟨assignments, hdrained, hboard⟩ := h
  have htasks : db'.tasks = db.tasks := congrArg Board.tasks hboard
  have hassignments : db'.assignments = assignments := congrArg Board.assignments hboard
  constructor
  · intro task _
    rw [htasks]
  · intro row hclosed
    rw [hassignments]
    constructor
    · intro hmem
      obtain ⟨old, hold, hrow⟩ := Table.exists_mem_of_forall₂ hdrained hmem
      cases hrow with
      | same => exact hold
      | draining hopen =>
          rw [show ({ old with state := .draining } : AssignmentRecord).isOpen = old.isOpen from
            rfl, hopen] at hclosed
          cases hclosed
    · intro hmem
      obtain ⟨row', hrow', hdrain⟩ := Table.exists_mem_forall₂ hdrained hmem
      cases hdrain with
      | same => exact hrow'
      | draining hopen =>
          rw [hopen] at hclosed
          cases hclosed

/-! ## Commands that finish no work -/

namespace Command

/-- The command finishes work, or corrects what was finished. -/
def finishes : Command → Bool
  | .transitionTask _ _ | .recoverTask _ _ _ _ _ _ _ _ | .submitRetained _ _ _
  | .resubmitTask _ _ _ => true
  | _ => false

theorem mutated_workKept {mutation : Mutation} {requestFingerprint : Option String}
    {apply : Repo JsonValue} (happly : Tx.Ensures Db.WorkKept apply) :
    Tx.Ensures Db.WorkKept (mutated mutation requestFingerprint apply) := by
  intro db u db' h
  obtain ⟨outcome, db₃, hbody, hpure⟩ := Tx.bind_eq_ok.mp h
  obtain ⟨-, rfl⟩ := Tx.pure_eq_ok.mp hpure
  rcases mutationBody_ok hbody with ⟨-, hsame⟩ | ⟨a, db₁, db₂, hbefore, -, hrun, hafter⟩
  · rw [hsame]
    exact Std.Refl.refl db
  · have hclosure := happly db₁ a db₂ hrun
    exact IsTrans.trans _ _ _ (hbefore.workKept (by decide))
      (IsTrans.trans _ _ _ hclosure (hafter.workKept (by decide)))

theorem body_workKept (command : Command) (hopen : command.finishes = false) :
    Tx.Ensures Db.WorkKept command.body := by
  cases command
  case transitionTask => cases hopen
  case recoverTask => cases hopen
  case submitRetained => cases hopen
  case resubmitTask => cases hopen
  case createTask ctx requestFingerprint task =>
    refine mutated_workKept (.seq (insertNewTask_workKept _ _ _) fun _ => ?_)
    exact workKept_of_writes [.events] (by decide) (.bind (writes_appendEvent _ rfl) fun _ => .pure _)
  case claimTask claim =>
    refine mutated_workKept (.seq (compareAndSetClaim_workKept claim) fun _ => ?_)
    exact workKept_of_writes [.events, .continuations] (by decide)
      (.bind (writes_appendTaskClaimEvents _ _) fun _ => .pure _)
  case spawnAgent ctx spawn =>
    refine mutated_workKept ?_
    refine .seq (workKept_of_writes [.agents, .agentScopes] (by decide) (writes_insertAgent _)) fun _ => ?_
    refine .seq (workKept_of_writes [.events] (by decide) (writes_appendEvent _ rfl)) fun _ => ?_
    refine .seq (compareAndSetClaim_workKept _) fun result => ?_
    refine workKept_of_writes [.workspaces, .operations, .events, .continuations] (by decide)
      (.bind (writes_appendTaskClaimEvents _ _) fun _ => ?_)
    cases result with
    | rejected => exact .throw _
    | claimed =>
        exact .bind (writes_insertSpawnWorkspace _ _) fun _ =>
          .bind (writes_markOperationReconciliationDesired _) fun _ => .pure _
  case persistLaunchIntent launch agentExists assignmentId =>
    refine .seq (workKept_of_writes [.agents, .agentScopes, .events] (by decide)
      (writes_prepareLaunchAgent _ _ _))
      fun _ => ?_
    refine .seq (workKept_of_writes [.sessions, .sessionScopes, .sessionCredentials] (by decide)
      (writes_openSession _ _))
      fun _ => ?_
    refine .seq (workKept_of_writes [.events] (by decide) (writes_appendEvent _ rfl)) fun _ => ?_
    cases assignmentId with
    | none => exact .pure _
    | some id =>
        refine .seq (associateAssignmentSession_workKept _ _) fun _ => ?_
        exact workKept_of_writes [.events] (by decide) (.bind (.read _) fun _ => .bind (.okOr _ _) fun _ =>
          .bind (.read _) fun _ => .bind (.okOr _ _) fun _ => writes_appendEvent _ rfl)
  case requestControls => exact .of_keeps (requestControls_drains _ _ _) fun _ _ h => h.workKept
  case beginRunShutdown =>
    exact .of_keeps (beginRunShutdown_drains _ _ _ _ _) fun _ _ h => h.workKept
  case stopIdleRun =>
    exact .of_keeps (stopIdleRun_drains _ _ _ _ _ _) fun _ _ h => h.workKept
  -- the other commands write neither tasks nor assignments
  all_goals exact workKept_of_writes _ (by dsimp only [Command.writes]; decide) (keeps_writes _)

theorem exec_workKept {command : Command} (hopen : command.finishes = false) (db : Db) :
    db.WorkKept (command.exec db) := by
  unfold exec
  rcases Tx.transaction_cases command.body db with ⟨u, db', hrun, hok⟩ | ⟨e, -, herror⟩
  · rw [hok]
    exact command.body_workKept hopen db u db' hrun
  · rw [herror]
    exact Std.Refl.refl db

end Command

-- ============================================================================
-- Submitted results
-- ============================================================================

/-- The assignment has a workspace, and a result of worktree work names the commit that the
    workspace records. -/
def Db.ResultRecorded (db : Db) (id : AssignmentId) (result : Option JsonValue) : Prop :=
  ∃ row, db.workspace id = some row ∧ (row.kind = .worktree →
    ∃ commit, row.resultCommit = some commit ∧
      result.bind (·.get? "result_commit") = some (.str commit))

theorem Db.ResultRecorded.kept {db db' : Db} {id : AssignmentId} {result : Option JsonValue}
    (h : db.ResultRecorded id result) (hkept : db.CommitsKept db') :
    db'.ResultRecorded id result := by
  obtain ⟨row, hrow, hresult⟩ := h
  obtain ⟨row', hrow', hevolves⟩ := hkept id row hrow
  refine ⟨row', hrow', fun hworktree => ?_⟩
  rw [hevolves.kind] at hworktree
  obtain ⟨commit, hcommit, hnamed⟩ := hresult hworktree
  exact ⟨commit, hevolves.resultCommit commit hcommit, hnamed⟩

/-- Completed assignments and submitted tasks belong together, one to one, and the result of a
    submitted task is the recorded one. -/
structure Db.WorkSound (db : Db) : Prop where
  owned : db.board.Owned
  completed : ∀ a ∈ db.assignments, a.state = .completed → ∃ task ∈ db.tasks,
    task.id = a.taskId ∧ (task.status = .closed ∨
      task.status = .submitted ∧ db.ResultRecorded a.id task.result)
  once : ∀ a ∈ db.assignments, ∀ c ∈ db.assignments, a.state = .completed →
    c.state = .completed → a.taskId = c.taskId → a = c
  submitted : ∀ task ∈ db.tasks, task.status = .submitted → ∃ a ∈ db.assignments,
    a.taskId = task.id ∧ a.state = .completed

theorem Db.workSound_empty : Db.empty.WorkSound where
  owned := Board.owned_empty
  completed := by simp [Db.empty]
  once := by simp [Db.empty]
  submitted := by simp [Db.empty]

namespace Db.WorkSound

variable {db db' : Db}

/-- A completed assignment is not open. -/
theorem closed_of_completed (h : db.board.Owned) {a : AssignmentRecord}
    (ha : a ∈ db.assignments) (hcompleted : a.state = .completed) : a.isOpen = false := by
  rw [Bool.eq_false_iff]
  intro hopen
  rcases h.active a ha hopen with hstate | hstate <;> rw [hcompleted] at hstate <;> cases hstate

/-- The invariant survives what finishes no work. -/
theorem kept (h : db.WorkSound) (howned : db'.board.Owned) (hwork : db.WorkKept db')
    (hcommits : db.CommitsKept db') : db'.WorkSound := by
  have hassignment : ∀ a ∈ db'.assignments, a.state = .completed → a ∈ db.assignments :=
    fun a ha hcompleted => (hwork.assignments a (closed_of_completed howned ha hcompleted)).mp ha
  refine ⟨howned, ?_, ?_, ?_⟩
  · intro a ha hcompleted
    obtain ⟨task, htask, hid, hstatus⟩ := h.completed a (hassignment a ha hcompleted) hcompleted
    rcases hstatus with hclosed | ⟨hsubmitted, hresult⟩
    · exact ⟨task, (hwork.tasks task (.inr hclosed)).mpr htask, hid, .inl hclosed⟩
    · exact ⟨task, (hwork.tasks task (.inl hsubmitted)).mpr htask, hid,
        .inr ⟨hsubmitted, hresult.kept hcommits⟩⟩
  · intro a ha c hc hcompleted hcompleted' htask
    exact h.once a (hassignment a ha hcompleted) c (hassignment c hc hcompleted') hcompleted
      hcompleted' htask
  · intro task htask hsubmitted
    obtain ⟨a, ha, hid, hcompleted⟩ :=
      h.submitted task ((hwork.tasks task (.inl hsubmitted)).mp htask) hsubmitted
    have hclosed := closed_of_completed h.owned ha hcompleted
    exact ⟨a, (hwork.assignments a hclosed).mpr ha, hid, hcompleted⟩

end Db.WorkSound

/-! ## Transitions -/

namespace Transitioned

variable {mutation : TaskTransitionMutation} {db db' : Db} {task : TaskRecord}
  {status : TaskStatus}

theorem mem (h : Transitioned mutation db db' task status) : task ∈ db.tasks :=
  List.mem_of_find?_eq_some h.found

theorem taskId (h : Transitioned mutation db db' task status) : task.id = mutation.taskId := by
  simpa using List.find?_some h.found

/-- The task's row after the transition. -/
theorem moved_mem (h : Transitioned mutation db db' task status) :
    Board.moved status (mutation.storedResult task.result) mutation.transitionedAt task ∈
      db'.tasks := by
  rw [h.tasks]
  exact Table.mem_updateWhere_of_pos h.mem (by simp [h.taskId, h.inRun])

/-- The rows of other tasks stay. -/
theorem other_mem (h : Transitioned mutation db db' task status) {row : TaskRecord}
    (hrow : row ∈ db.tasks) (hne : row.id ≠ mutation.taskId) : row ∈ db'.tasks := by
  rw [h.tasks]
  exact Table.mem_updateWhere_of_neg hrow (by simp [hne])

/-- Every row after the transition is the task's or was there before. -/
theorem mem_cases (h : Transitioned mutation db db' task status) (howned : db.board.Owned)
    {row : TaskRecord} (hrow : row ∈ db'.tasks) :
    row = Board.moved status (mutation.storedResult task.result) mutation.transitionedAt task ∨
      (row ∈ db.tasks ∧ row.id ≠ mutation.taskId) := by
  rw [h.tasks] at hrow
  obtain ⟨old, hold, hupdated⟩ := Table.mem_updateWhere.mp hrow
  by_cases hid : old.id = mutation.taskId
  · have hsame : old = task :=
      howned.tasks.eq_of_key_eq hold h.mem (hid.trans h.taskId.symm)
    subst hsame
    rw [if_pos (by simp [hid, h.inRun])] at hupdated
    exact .inl hupdated.symm
  · rw [if_neg (by simp [hid])] at hupdated
    subst hupdated
    exact .inr ⟨hold, hid⟩

theorem workspace (h : Transitioned mutation db db' task status) :
    db'.workspace = db.workspace := by
  rcases h.effect with ⟨-, rfl⟩ | ⟨-, _, -, rfl⟩ <;> rfl

/-- A transition out of a status without a holder leaves the assignments alone. -/
theorem assignments_of_free (h : Transitioned mutation db db' task status)
    (hfree : task.status ≠ .inProgress) : db'.assignments = db.assignments := by
  rcases h.effect with ⟨-, rfl⟩ | ⟨hheld, -⟩
  · rfl
  · exact absurd hheld hfree

/-- A transition out of `in_progress` closes the open assignments of its task. -/
theorem assignments_of_held (h : Transitioned mutation db db' task status)
    (hheld : task.status = .inProgress) :
    ∃ state, mutation.transition.assignmentState = some state ∧
      db'.assignments = Table.updateWhere
        (fun row => row.taskId == mutation.taskId && row.runId == mutation.runId &&
          row.completedAt == none)
        (fun row =>
          { row with
            state := state
            summary := mutation.summary.or row.summary
            completedAt := some mutation.transitionedAt }) db.assignments := by
  rcases h.effect with ⟨hfree, -⟩ | ⟨-, state, hstate, rfl⟩
  · exact absurd hheld hfree
  · exact ⟨state, hstate, rfl⟩

end Transitioned

namespace Db.WorkSound

variable {mutation : TaskTransitionMutation} {db db' : Db} {task : TaskRecord}
  {status : TaskStatus}

/-- Closing a submitted task keeps the invariant. -/
theorem close (h : db.WorkSound) (ht : Transitioned mutation db db' task status)
    (hsubmitted : task.status = .submitted) (hclose : mutation.transition = .close) :
    db'.WorkSound := by
  have hfree : task.status ≠ .inProgress := by
    rw [hsubmitted]
    decide
  have hassignments := ht.assignments_of_free hfree
  have hclosed : status = .closed := by
    have hpermitted := ht.permitted
    rw [hsubmitted, hclose] at hpermitted
    exact (Option.some.inj hpermitted).symm
  refine ⟨h.owned.step ht.step, ?_, ?_, ?_⟩
  · intro a ha hcompleted
    rw [hassignments] at ha
    obtain ⟨found, hfound, hid, hstatus⟩ := h.completed a ha hcompleted
    by_cases htask : found.id = mutation.taskId
    · -- the task itself: its row is closed now
      refine ⟨_, ht.moved_mem, ?_, .inl hclosed⟩
      rw [← hid, htask]
      exact ht.taskId
    · refine ⟨found, ht.other_mem hfound htask, hid, ?_⟩
      unfold Db.ResultRecorded at hstatus ⊢
      rw [ht.workspace]
      exact hstatus
  · rw [hassignments]
    exact h.once
  · intro row hrow hrowSubmitted
    rw [hassignments]
    rcases ht.mem_cases h.owned hrow with rfl | ⟨hold, -⟩
    · rw [show (Board.moved status _ _ task).status = status from rfl, hclosed] at hrowSubmitted
      cases hrowSubmitted
    · exact h.submitted row hold hrowSubmitted

/-- The tasks of completed assignments are not in progress. -/
theorem task_ne (h : db.WorkSound) (ht : Transitioned mutation db db' task status)
    (hheld : task.status = .inProgress) {a : AssignmentRecord} (ha : a ∈ db.assignments)
    (hcompleted : a.state = .completed) : a.taskId ≠ mutation.taskId := by
  intro htask
  obtain ⟨found, hfound, hid, hstatus⟩ := h.completed a ha hcompleted
  have hsame : found = task :=
    h.owned.tasks.eq_of_key_eq hfound ht.mem (by rw [hid, htask, ht.taskId])
  rw [hsame, hheld] at hstatus
  rcases hstatus with hclosed | ⟨hsubmitted, -⟩
  · cases hclosed
  · cases hsubmitted

/-- Releasing a task keeps the invariant, when a submission names the recorded result of the
    assignment that it completes. -/
theorem release (h : db.WorkSound) (ht : Transitioned mutation db db' task status)
    (hheld : task.status = .inProgress)
    (hsubmit : mutation.transition = .submit →
      ∀ a ∈ db.activeAssignmentsOf mutation.runId mutation.taskId,
        db.ResultRecorded a.id mutation.result) : db'.WorkSound := by
  obtain ⟨state, hstate, hassignments⟩ := ht.assignments_of_held hheld
  obtain ⟨_, active, -, hactive, -⟩ := held_of_owned h.owned ht.mem hheld
  rw [ht.inRun, ht.taskId] at hactive
  -- every assignment after is the one that was open, or was there before and stays
  have hcases : ∀ a ∈ db'.assignments, a.state = .completed →
      (a ∈ db.assignments ∧ a.taskId ≠ mutation.taskId) ∨
        (mutation.transition = .submit ∧ a.id = active.id ∧ a.taskId = mutation.taskId ∧
          a = { active with
            state := state
            summary := mutation.summary.or active.summary
            completedAt := some mutation.transitionedAt }) := by
    intro a ha hcompleted
    rw [hassignments] at ha
    obtain ⟨old, hold, hupdated⟩ := Table.mem_updateWhere.mp ha
    split at hupdated
    · next hselected =>
        have hopen : old ∈ db.activeAssignmentsOf mutation.runId mutation.taskId :=
          List.mem_filter.mpr ⟨hold, hselected⟩
        rw [hactive, List.mem_singleton] at hopen
        subst hopen
        subst hupdated
        have hcompletedState : state = .completed := hcompleted
        rw [hcompletedState] at hstate
        refine .inr ⟨?_, rfl, ?_, rfl⟩
        · cases htransition : mutation.transition <;> rw [htransition] at hstate <;> cases hstate
        · simp only [Bool.and_eq_true, beq_iff_eq] at hselected
          exact hselected.1.1
    · subst hupdated
      exact .inl ⟨hold, h.task_ne ht hheld hold hcompleted⟩
  refine ⟨h.owned.step ht.step, ?_, ?_, ?_⟩
  · intro a ha hcompleted
    rcases hcases a ha hcompleted with ⟨hold, hne⟩ | ⟨htransition, hid, htask, -⟩
    · obtain ⟨found, hfound, hfoundId, hstatus⟩ := h.completed a hold hcompleted
      refine ⟨found, ht.other_mem hfound (by rw [hfoundId]; exact hne), hfoundId, ?_⟩
      unfold Db.ResultRecorded at hstatus ⊢
      rw [ht.workspace]
      exact hstatus
    · have hsubmitted : status = .submitted := by
        have hpermitted := ht.permitted
        rw [hheld, htransition] at hpermitted
        exact (Option.some.inj hpermitted).symm
      have hresult : mutation.storedResult task.result = mutation.result := by
        unfold TaskTransitionMutation.storedResult
        rw [htransition]
      refine ⟨_, ht.moved_mem, ?_, .inr ⟨hsubmitted, ?_⟩⟩
      · rw [htask]
        exact ht.taskId
      · have hrecorded := hsubmit htransition active (by rw [hactive]; exact List.mem_cons_self)
        rw [show (Board.moved status (mutation.storedResult task.result)
          mutation.transitionedAt task).result = mutation.storedResult task.result from rfl,
          hresult, hid]
        unfold Db.ResultRecorded at hrecorded ⊢
        rw [ht.workspace]
        exact hrecorded
  · intro a ha c hc hcompleted hcompleted' htask
    rcases hcases a ha hcompleted with ⟨hold, hne⟩ | ⟨-, -, haTask, haRow⟩
    · rcases hcases c hc hcompleted' with ⟨hold', -⟩ | ⟨-, -, hcTask, -⟩
      · exact h.once a hold c hold' hcompleted hcompleted' htask
      · exact absurd (htask.trans hcTask) hne
    · rcases hcases c hc hcompleted' with ⟨-, hne⟩ | ⟨-, -, -, hcRow⟩
      · exact absurd (htask.symm.trans haTask) hne
      · rw [haRow, hcRow]
  · intro row hrow hrowSubmitted
    rcases ht.mem_cases h.owned hrow with rfl | ⟨hold, hne⟩
    · -- the task was submitted now, by the assignment that was open
      have hsubmitted : status = .submitted := hrowSubmitted
      have hpermitted := ht.permitted
      rw [hheld, hsubmitted] at hpermitted
      have hcompletedState : state = .completed := by
        cases htransition : mutation.transition <;> rw [htransition] at hpermitted hstate <;>
          cases hpermitted
        exact (Option.some.inj hstate).symm
      have hmem : active ∈ db.activeAssignmentsOf mutation.runId mutation.taskId := by
        rw [hactive]
        exact List.mem_cons_self
      obtain ⟨hactiveMem, hselected⟩ := List.mem_filter.mp hmem
      refine ⟨_, by rw [hassignments]; exact Table.mem_updateWhere_of_pos hactiveMem hselected,
        ?_, hcompletedState⟩
      simp only [Bool.and_eq_true, beq_iff_eq] at hselected
      rw [show (Board.moved status _ _ task).id = task.id from rfl, ht.taskId]
      exact hselected.1.1
    · obtain ⟨a, ha, haTask, hcompleted⟩ := h.submitted row hold hrowSubmitted
      refine ⟨a, ?_, haTask, hcompleted⟩
      rw [hassignments]
      refine Table.mem_updateWhere_of_neg ha ?_
      rw [Bool.eq_false_iff]
      intro hselected
      simp only [Bool.and_eq_true, beq_iff_eq] at hselected
      exact hne (haTask.symm.trans hselected.1.1)

end Db.WorkSound

/-! ## Open assignments -/

/-- The task of an open assignment is in progress, and the assignment is its only open one. -/
theorem held_of_open {db : Db} (h : db.board.Owned) {assignment : AssignmentRecord}
    (hmem : assignment ∈ db.assignments) (hopen : assignment.isOpen = true) :
    (∃ task ∈ db.tasks, task.id = assignment.taskId ∧ task.status = .inProgress) ∧
      db.activeAssignmentsOf assignment.runId assignment.taskId = [assignment] := by
  have howner : assignment.owner ∈ db.board.claimOwners := by
    rw [← h.owners]
    exact Board.mem_assignmentOwners.mpr ⟨assignment, hmem, hopen, rfl⟩
  obtain ⟨task, htask, hid, hrun⟩ := h.task_of_owner howner
  have hheld : task.status = .inProgress :=
    (h.inProgress task htask).mpr ⟨assignment.owner, howner, hid.symm, hrun.symm⟩
  refine ⟨⟨task, htask, hid, hheld⟩, ?_⟩
  obtain ⟨_, active, -, hactive, -⟩ := held_of_owned h htask hheld
  rw [hid, hrun] at hactive
  have hselected : assignment ∈ db.activeAssignmentsOf assignment.runId assignment.taskId :=
    List.mem_filter.mpr ⟨hmem, by simpa [AssignmentRecord.isOpen] using hopen⟩
  rw [show assignment.owner.runId = assignment.runId from rfl,
    show assignment.owner.taskId = assignment.taskId from rfl] at hactive
  rw [hactive, List.mem_singleton] at hselected
  rw [hactive, hselected]

/-! ## Mutations -/

/-- What leaves the board and the workspaces alone leaves finished work alone. -/
theorem Db.WorkSound.written {tables : List TableName} {db db' : Db} (h : db.WorkSound)
    (hw : Written tables db db')
    (hno : ∀ table ∈ .workspaces :: boardTables, table ∉ tables) :
    db'.WorkSound := by
  have hboard : db'.board = db.board :=
    hw.writesOnly.sameBoard fun table htable => hno table (List.mem_cons_of_mem _ htable)
  have hworkspace : db'.workspace = db.workspace :=
    workspace_of_writes hw (hno _ List.mem_cons_self)
  refine h.kept (by rw [hboard]; exact h.owned) (hw.workKept ?_) ?_
  · intro table htable
    refine hno table (List.mem_cons_of_mem _ ?_)
    revert htable
    unfold workTables boardTables
    simp only [List.mem_cons, List.not_mem_nil, or_false]
    rintro (rfl | rfl) <;> simp
  · intro id row hrow
    rw [hworkspace]
    exact ⟨row, hrow, .refl row⟩

/-- An applied transition is followed by its events. -/
theorem transitionTaskBody_ok {mutation : TaskTransitionMutation} {db db' : Db}
    {result : TaskTransitionResult}
    (h : (transitionTaskBody mutation).run db = (.ok result, db')) :
    db' = db ∨ ∃ task status db₁, Transitioned mutation db db₁ task status ∧
      Written [.events] db₁ db' := by
  obtain ⟨activeClaim, _, h₁, hrest⟩ := Tx.bind_eq_ok.mp h
  obtain ⟨-, rfl⟩ := Tx.read_eq_ok.mp h₁
  obtain ⟨activeAssignment, _, h₂, hrest⟩ := Tx.bind_eq_ok.mp hrest
  obtain ⟨-, rfl⟩ := Tx.read_eq_ok.mp h₂
  obtain ⟨applied, db₁, happly, hevents⟩ := Tx.bind_eq_ok.mp hrest
  rcases applyTaskTransition_ok happly with ⟨rejection, rfl, rfl⟩ | ⟨task, status, rfl, ht⟩
  · obtain ⟨-, rfl⟩ := Tx.pure_eq_ok.mp hevents
    exact .inl rfl
  · refine .inr ⟨task, status, db₁, ht, ?_⟩
    obtain ⟨found, _, h₃, hevents⟩ := Tx.bind_eq_ok.mp hevents
    obtain ⟨-, rfl⟩ := Tx.read_eq_ok.mp h₃
    obtain ⟨_, _, h₄, hevents⟩ := Tx.bind_eq_ok.mp hevents
    obtain ⟨-, rfl⟩ := Tx.okOr_eq_ok.mp h₄
    obtain ⟨_, db₂, h₅, hevents⟩ := Tx.bind_eq_ok.mp hevents
    obtain ⟨_, db₃, h₆, hevents⟩ := Tx.bind_eq_ok.mp hevents
    obtain ⟨-, rfl⟩ := Tx.pure_eq_ok.mp hevents
    have hmoved : Written [.events] _ db₂ := (writes_appendEvent _ rfl).of_ok h₅
    have hreleased : Written [.events] db₂ db₃ :=
      (Tx.Keeps.when (writes_appendReleaseEvents _ _ _ _)).of_ok h₆
    exact hmoved.trans hreleased

/-- What a transition needs for its result to be the recorded one: a task that nobody holds is only
    closed, and a submission names the recorded result of the open assignment. -/
structure TaskTransitionMutation.Sound (mutation : TaskTransitionMutation) (db : Db) : Prop where
  closes : ∀ task ∈ db.tasks, task.id = mutation.taskId → task.status ≠ .inProgress →
    mutation.transition = .close
  submits : mutation.transition = .submit →
    ∀ a ∈ db.activeAssignmentsOf mutation.runId mutation.taskId,
      db.ResultRecorded a.id mutation.result

theorem TaskTransitionMutation.Sound.written {mutation : TaskTransitionMutation} {db db' : Db}
    (h : mutation.Sound db) (hw : Written [.operations, .launches, .outcomes] db db') : mutation.Sound db' := by
  have htasks : db'.tasks = db.tasks := hw.writesOnly.same .tasks (by decide)
  have hassignments : db'.assignments = db.assignments := hw.writesOnly.same .assignments (by decide)
  constructor
  · rw [htasks]
    exact h.closes
  · unfold Db.activeAssignmentsOf Db.ResultRecorded
    rw [hassignments, workspace_of_writes hw (by decide)]
    exact h.submits

namespace Db.WorkSound

variable {db db' : Db}

theorem transitioned {mutation : TaskTransitionMutation} {task : TaskRecord} {status : TaskStatus}
    (h : db.WorkSound) (ht : Transitioned mutation db db' task status)
    (hsound : mutation.Sound db) : db'.WorkSound := by
  by_cases hheld : task.status = .inProgress
  · exact h.release ht hheld hsound.submits
  · have hclose := hsound.closes task ht.mem ht.taskId hheld
    have hpermitted := ht.permitted
    rw [hclose] at hpermitted
    have hsubmitted : task.status = .submitted := by
      cases hstatus : task.status <;> rw [hstatus] at hpermitted <;> cases hpermitted
    exact h.close ht hsubmitted hclose

/-- A mutation preserves the invariant when its closure does from the store in which its request
    is recorded. -/
theorem mutationBody {mutation : Mutation} {requestFingerprint : Option String}
    {apply : Repo JsonValue} {outcome : MutationOutcome JsonValue} (h : db.WorkSound)
    (happly : db.operation mutation.id = none →
      ∀ a db₁ db₂, Written [.operations, .launches, .outcomes] db db₁ →
      db₁.WorkSound → apply.run db₁ = (.ok a, db₂) → db₂.WorkSound)
    (hrun : (mutationBody .json mutation requestFingerprint apply).run db = (.ok outcome, db')) :
    db'.WorkSound := by
  by_cases hnew : db.operation mutation.id = none
  · rcases mutationBody_ok hrun with ⟨hsome, -⟩ | ⟨a, db₁, db₂, hbefore, -, hclosure, hafter⟩
    · rw [hnew] at hsome
      cases hsome
    · exact (happly hnew a db₁ db₂ hbefore (h.written hbefore (by decide)) hclosure).written hafter
        (by decide)
  · obtain ⟨found, _, hread, hreplay⟩ := Tx.bind_eq_ok.mp hrun
    obtain ⟨rfl, rfl⟩ := Tx.read_eq_ok.mp hread
    cases hfound : db.operation mutation.id with
    | none => exact absurd hfound hnew
    | some existing =>
        rw [hfound] at hreplay
        have hwritten : Written [] db db' := writes_replayOperation.of_ok hreplay
        exact h.written hwritten (by decide)

/-- A transition request. -/
theorem transitionTask {transition : TaskTransitionMutation} {requestFingerprint : Option String}
    {u : Unit} (h : db.WorkSound)
    (hsound : db.operation transition.operationId = none →
      ∀ stored, transition.withEvidence = some stored → stored.Sound db)
    (hrun : (Command.transitionTask transition requestFingerprint).body.run db = (.ok u, db')) :
    db'.WorkSound := by
  obtain ⟨outcome, db₁, htransition, hpure⟩ := Tx.bind_eq_ok.mp hrun
  obtain ⟨-, rfl⟩ := Tx.pure_eq_ok.mp hpure
  obtain ⟨stored, _, hevidence, hbody⟩ := Tx.bind_eq_ok.mp htransition
  obtain ⟨hstored, rfl⟩ := Tx.okOr_eq_ok.mp hevidence
  have hoperationId : stored.mutation.id = transition.operationId := by
    obtain ⟨result, rfl⟩ := TaskTransitionMutation.withEvidence_eq hstored
    rfl
  refine h.mutationBody ?_ hbody
  intro hnew a db₁ db₂ hbefore hopened hclosure
  rw [hoperationId] at hnew
  have hready : stored.Sound db₁ := (hsound hnew stored hstored).written hbefore
  obtain ⟨result, _, happlied, hclosure⟩ := Tx.bind_eq_ok.mp hclosure
  obtain ⟨-, rfl⟩ := Tx.pure_eq_ok.mp hclosure
  rcases transitionTaskBody_ok happlied with rfl | ⟨task, status, db₃, ht, hevents⟩
  · exact hopened
  · exact (hopened.transitioned ht hready).written hevents (by decide)

/-! ## Recovery, retained submission, resubmission -/

/-- The assignment that the preflight found is open. -/
theorem open_of_interrupted {runId : RunId} {assignmentId : AssignmentId} {acknowledgeLost : Bool}
    {retainedCommit : Option String} {assignment : AssignmentRecord} {workspace : WorkspaceRecord}
    (h : db.Interrupted runId assignmentId acknowledgeLost retainedCommit assignment workspace) :
    assignment ∈ db.assignments ∧ assignment.isOpen = true := by
  obtain ⟨task, -, hactive⟩ := h.held
  simp only [Db.assignmentActive, Bool.and_eq_true] at hactive
  exact ⟨List.mem_of_find?_eq_some h.hassignment, hactive.1.1.1.2⟩

theorem recoverAssignment {mutation : Mutation} {assignmentId : AssignmentId} {reason : String}
    {document brief : JsonValue} {acknowledgeLost : Bool} {recovery : RecoverySummary}
    (h : db.WorkSound)
    (hrun : (recoverAssignment mutation assignmentId reason document brief acknowledgeLost).run db =
      (.ok recovery, db')) : db'.WorkSound := by
  obtain ⟨preflight, _, h₁, hrest⟩ := Tx.bind_eq_ok.mp hrun
  obtain ⟨rfl, rfl⟩ := Tx.read_eq_ok.mp h₁
  obtain ⟨⟨assignment, workspace⟩, _, h₂, hrest⟩ := Tx.bind_eq_ok.mp hrest
  obtain ⟨hpreflight, rfl⟩ := Tx.ofExcept_eq_ok.mp h₂
  obtain ⟨hmem, hopen⟩ := open_of_interrupted (interruptedAssignmentPreflight_ok hpreflight)
  obtain ⟨sessionId, _, h₃, hrest⟩ := Tx.bind_eq_ok.mp hrest
  obtain ⟨-, rfl⟩ := Tx.okOr_eq_ok.mp h₃
  obtain ⟨_, db₁, h₄, hrest⟩ := Tx.bind_eq_ok.mp hrest
  obtain ⟨result, db₂, h₅, hrest⟩ := Tx.bind_eq_ok.mp hrest
  obtain ⟨_, db₃, h₆, hrest⟩ := Tx.bind_eq_ok.mp hrest
  obtain ⟨-, rfl⟩ := Tx.pure_eq_ok.mp hrest
  have hhandoff : Written [.recoveryHandoffs] db db₁ := (writes_insertRecoveryHandoff _).of_ok h₄
  have hevents : Written [.events, .recoveries] db₂ db₃ := writes_recoveryEvents.of_ok h₆
  have hopened : db₁.WorkSound := h.written hhandoff (by decide)
  rcases applyTaskTransition_ok h₅ with ⟨_, -, rfl⟩ | ⟨task, status, -, ht⟩
  · exact hopened.written hevents (by decide)
  · refine (hopened.transitioned ht ⟨?_, ?_⟩).written hevents (by decide)
    · -- the task is held, so that nothing is said about a free one
      intro found hfound hid hfree
      have hassignments : db₁.assignments = db.assignments := hhandoff.writesOnly.same .assignments (by decide)
      obtain ⟨⟨held, hheldMem, hheldId, hheld⟩, -⟩ :=
        held_of_open hopened.owned (by rw [hassignments]; exact hmem) hopen
      have hsame := hopened.owned.tasks.eq_of_key_eq hfound hheldMem (hid.trans hheldId.symm)
      rw [hsame] at hfree
      exact absurd hheld hfree
    · intro hsubmit
      cases hsubmit

theorem submitRetained {mutation : Mutation} {submission : RetainedSubmission}
    {response : JsonValue} (h : db.WorkSound)
    (hrun : (submitRetained mutation submission).run db = (.ok response, db')) :
    db'.WorkSound := by
  obtain ⟨preflight, _, h₁, hrest⟩ := Tx.bind_eq_ok.mp hrun
  obtain ⟨rfl, rfl⟩ := Tx.read_eq_ok.mp h₁
  obtain ⟨⟨assignment, workspace⟩, _, h₂, hrest⟩ := Tx.bind_eq_ok.mp hrest
  obtain ⟨hpreflight, rfl⟩ := Tx.ofExcept_eq_ok.mp h₂
  have hfound := interruptedAssignmentPreflight_ok hpreflight
  obtain ⟨hmem, hopen⟩ := open_of_interrupted hfound
  obtain ⟨outcome, db₁, h₃, hrest⟩ := Tx.bind_eq_ok.mp hrest
  obtain ⟨result, db₂, h₄, hrest⟩ := Tx.bind_eq_ok.mp hrest
  obtain ⟨_, db₃, h₅, hrest⟩ := Tx.bind_eq_ok.mp hrest
  obtain ⟨-, rfl⟩ := Tx.pure_eq_ok.mp hrest
  have hwritten : Written [.workspaces] db db₁ :=
    (writes_recordWorkspaceResultCommit _ _).of_ok h₃
  have hevents : Written [.events] db₂ db₃ := writes_retainedEvents.of_ok h₅
  have hboard : db₁.board = db.board := hwritten.writesOnly.sameBoard (by decide)
  have hopened : db₁.WorkSound :=
    h.kept (by rw [hboard]; exact h.owned) (hwritten.workKept (by decide))
      ((recordWorkspaceResultCommit_commitsKept _ _).of_ok h₃)
  have hmem₁ : assignment ∈ db₁.assignments := by
    rw [show db₁.assignments = db.assignments from hwritten.writesOnly.same .assignments (by decide)]
    exact hmem
  obtain ⟨⟨held, hheldMem, hheldId, hheld⟩, hactive⟩ := held_of_open hopened.owned hmem₁ hopen
  rcases applyTaskTransition_ok h₄ with ⟨_, -, rfl⟩ | ⟨task, status, -, ht⟩
  · exact hopened.written hevents (by decide)
  · refine (hopened.transitioned ht ⟨?_, ?_⟩).written hevents (by decide)
    · intro found hfoundMem hid hfree
      have hsame := hopened.owned.tasks.eq_of_key_eq hfoundMem hheldMem (hid.trans hheldId.symm)
      rw [hsame] at hfree
      exact absurd hheld hfree
    · -- the submitted result names the commit that was recorded just before
      intro _ a ha
      rw [show (mutation.taskTransition _ _ _ _).runId = assignment.runId from hfound.inRun.symm,
        show (mutation.taskTransition assignment.taskId _ _ _).taskId = assignment.taskId from rfl,
        hactive, List.mem_singleton] at ha
      obtain ⟨row, hrow, hcommit⟩ := recordWorkspaceResultCommit_ok hfound.hworkspace h₃
      rw [ha]
      refine ⟨row, hrow, fun _ => ⟨submission.resultCommit, hcommit, ?_⟩⟩
      simp [Mutation.taskTransition, RetainedSubmission.result, JsonValue.get?, List.lookup_cons]

/-- A corrected result names the commit that replaces the recorded one. -/
theorem corrected_result {submission : Resubmission} {previous revised : JsonValue}
    (h : (previous.setField? "result_commit" (.str submission.resultCommit)).bind
      (·.setField? "summary" (.str submission.summary)) = some revised) :
    revised.get? "result_commit" = some (.str submission.resultCommit) := by
  obtain ⟨renamed, hcommit, hsummary⟩ := Option.bind_eq_some_iff.mp h
  rw [JsonValue.get?_setField?_of_ne (by decide) hsummary]
  exact JsonValue.get?_setField? hcommit

theorem applyResubmission {mutation : Mutation} {submission : Resubmission}
    {result : JsonValue × JsonValue} (h : db.WorkSound)
    (hrun : (applyResubmission mutation submission).run db = (.ok result, db')) :
    db'.WorkSound := by
  have howned : db'.board.Owned := by
    rcases applyResubmission_moves mutation submission db result db' hrun h.owned with heq | hstep
    · rw [heq]
      exact h.owned
    · exact h.owned.step hstep
  obtain ⟨assignment, task, workspace, revised, event, hfound, hrevised, rfl⟩ :=
    applyResubmission_ok hrun
  have hrecorded : db.workspace assignment.id = some workspace :=
    (workspaceForScope_eq_some hfound.hworkspace).1
  have hmem : assignment ∈ db.assignments := List.mem_of_find?_eq_some hfound.hassignment
  have htaskId : task.id = assignment.taskId := by simpa using List.find?_some hfound.htask
  -- the other assignments keep their workspaces, the corrected one has the new result
  have hworkspace : ∀ id, Db.workspace { db.pushEvent event with
      workspaces := Table.updateWhere (·.assignmentId == assignment.id)
        (fun row => { row with resultCommit := some submission.resultCommit }) db.workspaces
      assignments := Table.updateWhere (·.id == assignment.id)
        (fun row => { row with summary := some submission.summary }) db.assignments
      tasks := Table.updateWhere (·.id == task.id)
        (fun row => { row with result := some revised, updatedAt := mutation.createdAt })
        db.tasks } id = (db.workspace id).map fun row =>
          if row.assignmentId == assignment.id
          then { row with resultCommit := some submission.resultCommit } else row :=
    workspace_updateWorkspace db assignment.id (fun _ => rfl)
  -- an assignment after is one from before with perhaps another summary
  have hassignments : ∀ a ∈ Table.updateWhere (·.id == assignment.id)
      (fun row => { row with summary := some submission.summary }) db.assignments,
      a.state = .completed → ∃ old ∈ db.assignments, old.id = a.id ∧ old.taskId = a.taskId ∧
        old.state = .completed ∧
        (if old.id == assignment.id then { old with summary := some submission.summary } else old) =
          a := by
    intro a ha hcompleted
    obtain ⟨old, hold, hupdated⟩ := Table.mem_updateWhere.mp ha
    refine ⟨old, hold, ?_, ?_, ?_, hupdated⟩
    all_goals
      split at hupdated
      · subst hupdated
        first | rfl | exact hcompleted
      · subst hupdated
        first | rfl | exact hcompleted
  refine ⟨howned, ?_, ?_, ?_⟩
  · intro a ha hcompleted
    obtain ⟨old, hold, hid, holdTask, holdCompleted, -⟩ := hassignments a ha hcompleted
    obtain ⟨found, hfoundMem, hfoundId, hstatus⟩ := h.completed old hold holdCompleted
    rw [holdTask] at hfoundId
    by_cases hsame : found.id = task.id
    · -- the corrected task: its one completed assignment is the corrected one
      have holdAssignment : old = assignment := by
        apply h.once old hold assignment hmem holdCompleted hfound.completed
        rw [holdTask, ← hfoundId, hsame, htaskId]
      have hfoundTask : found = task :=
        h.owned.tasks.eq_of_key_eq hfoundMem (List.mem_of_find?_eq_some hfound.htask) hsame
      refine ⟨_, Table.mem_updateWhere_of_pos hfoundMem (by simp [hsame]), hfoundId, .inr ⟨?_, ?_⟩⟩
      · rw [hfoundTask]
        exact hfound.submitted
      · refine ⟨{ workspace with resultCommit := some submission.resultCommit }, ?_, fun _ =>
          ⟨submission.resultCommit, rfl, corrected_result hrevised⟩⟩
        rw [hworkspace, ← hid, holdAssignment, hrecorded, Option.map_some,
          if_pos (by simpa using assignmentId_of_workspace hrecorded)]
    · refine ⟨found, Table.mem_updateWhere_of_neg hfoundMem (by simp [hsame]), hfoundId, ?_⟩
      refine hstatus.imp_right fun ⟨hsubmitted, row, hrow, hresult⟩ => ⟨hsubmitted, row, ?_, hresult⟩
      rw [hworkspace, ← hid, hrow, Option.map_some, if_neg]
      rw [assignmentId_of_workspace hrow]
      intro hids
      have holdAssignment := h.owned.assignments.eq_of_key_eq hold hmem (by simpa using hids)
      rw [← holdTask, holdAssignment, ← htaskId] at hfoundId
      exact hsame hfoundId
  · intro a ha c hc hcompleted hcompleted' htask
    obtain ⟨old, hold, hid, holdTask, holdCompleted, hupdated⟩ := hassignments a ha hcompleted
    obtain ⟨old', hold', hid', holdTask', holdCompleted', hupdated'⟩ :=
      hassignments c hc hcompleted'
    have hsame := h.once old hold old' hold' holdCompleted holdCompleted'
      (by rw [holdTask, holdTask', htask])
    rw [← hupdated, ← hupdated', hsame]
  · intro row hrow hsubmitted
    obtain ⟨old, hold, hupdated⟩ := Table.mem_updateWhere.mp hrow
    have hkept : old.id = row.id ∧ old.status = row.status := by
      split at hupdated <;> subst hupdated <;> exact ⟨rfl, rfl⟩
    obtain ⟨a, ha, haTask, hcompleted⟩ :=
      h.submitted old hold (by rw [hkept.2]; exact hsubmitted)
    rw [hkept.1] at haTask
    by_cases hid : (a.id == assignment.id) = true
    · exact ⟨_, Table.mem_updateWhere_of_pos ha hid, haTask, hcompleted⟩
    · exact ⟨a, Table.mem_updateWhere_of_neg ha (Bool.eq_false_iff.mpr hid), haTask, hcompleted⟩

end Db.WorkSound

-- ============================================================================
-- Inputs and runs
-- ============================================================================

/-- The invariant carries over. -/
def Db.WorkSoundKept (db db' : Db) : Prop :=
  db.WorkSound → db'.WorkSound

instance : Std.Refl Db.WorkSoundKept where
  refl _ h := h

instance : IsTrans Db Db.WorkSoundKept where
  trans _ _ _ hab hbc h := hbc (hab h)

namespace Command

theorem exec_preservesWork {command : Command} {db : Db} (h : db.WorkSound)
    (hrun : ∀ u db', command.body.run db = (.ok u, db') → db'.WorkSound) :
    (command.exec db).WorkSound := by
  unfold exec
  rcases Tx.transaction_cases command.body db with ⟨u, db', hok, ht⟩ | ⟨e, -, ht⟩
  · rw [ht]
    exact hrun u db' hok
  · rw [ht]
    exact h

/-- Every command but a plain transition keeps finished work sound. -/
theorem exec_workSound {command : Command} {db : Db} (h : db.WorkSound)
    (hother : ∀ transition requestFingerprint,
      command ≠ .transitionTask transition requestFingerprint) :
    (command.exec db).WorkSound := by
  by_cases hopen : command.finishes = false
  · refine h.kept (command.exec_ownedKept db h.owned) (exec_workKept hopen db) ?_
    refine exec_commitsKept (fun _ _ _ heq => ?_) db
    rw [heq] at hopen
    cases hopen
  · refine exec_preservesWork h fun u db' hrun => ?_
    cases command
    case transitionTask => exact absurd rfl (hother _ _)
    case recoverTask =>
      obtain ⟨outcome, _, hbody, hpure⟩ := Tx.bind_eq_ok.mp hrun
      obtain ⟨-, rfl⟩ := Tx.pure_eq_ok.mp hpure
      refine h.mutationBody (fun _ a db₁ db₂ _ hopened hclosure => ?_) hbody
      obtain ⟨recovery, _, hrecover, hpure⟩ := Tx.bind_eq_ok.mp hclosure
      obtain ⟨-, rfl⟩ := Tx.pure_eq_ok.mp hpure
      exact hopened.recoverAssignment hrecover
    case submitRetained =>
      obtain ⟨outcome, _, hbody, hpure⟩ := Tx.bind_eq_ok.mp hrun
      obtain ⟨-, rfl⟩ := Tx.pure_eq_ok.mp hpure
      exact h.mutationBody (fun _ a db₁ db₂ _ hopened hclosure => hopened.submitRetained hclosure)
        hbody
    case resubmitTask =>
      obtain ⟨outcome, _, hbody, hpure⟩ := Tx.bind_eq_ok.mp hrun
      obtain ⟨-, rfl⟩ := Tx.pure_eq_ok.mp hpure
      refine h.mutationBody (fun _ a db₁ db₂ _ hopened hclosure => ?_) hbody
      obtain ⟨result, _, hresubmit, hpure⟩ := Tx.bind_eq_ok.mp hclosure
      obtain ⟨-, rfl⟩ := Tx.pure_eq_ok.mp hpure
      exact hopened.applyResubmission hresubmit
    all_goals exact absurd rfl hopen

end Command

/-! ## Finishing an assignment -/

/-- What an observed result commit leaves: completed worktree work has one. -/
theorem observeResultCommit_ok {head : Except String String} {scope : AssignmentScope} {u : Unit}
    {db db' : Db} (hrun : (observeResultCommit head scope).run db = (.ok u, db')) :
    ∃ row, db'.workspace scope.assignmentId = some row ∧
      (row.kind = .worktree → ∃ commit, row.resultCommit = some commit) := by
  obtain ⟨⟨workspace, project⟩, db₁, hrecords, hrest⟩ := Tx.bind_eq_ok.mp hrun
  obtain ⟨hworkspace, rfl⟩ := workspaceRecords_ok hrecords
  obtain ⟨hrecorded, -, -⟩ := workspaceForScope_eq_some hworkspace
  dsimp only at hrest
  cases hkind : workspace.kind with
  | project =>
      rw [hkind] at hrest
      obtain ⟨-, rfl⟩ := Tx.pure_eq_ok.mp hrest
      exact ⟨workspace, hrecorded, fun h => by rw [hkind] at h; cases h⟩
  | readOnly =>
      rw [hkind] at hrest
      obtain ⟨-, rfl⟩ := Tx.pure_eq_ok.mp hrest
      exact ⟨workspace, hrecorded, fun h => by rw [hkind] at h; cases h⟩
  | worktree =>
      rw [hkind] at hrest
      dsimp only at hrest
      cases head with
      | error message => exact absurd hrest Tx.throw_eq_ok
      | ok commit =>
          obtain ⟨outcome, _, hcommit, hpure⟩ := Tx.bind_eq_ok.mp (committed_ok hrest)
          obtain ⟨-, rfl⟩ := Tx.pure_eq_ok.mp hpure
          obtain ⟨row, hrow, hresult⟩ :=
            recordWorkspaceResultCommit_ok hworkspace hcommit
          exact ⟨row, hrow, fun _ => ⟨commit, hresult⟩⟩

/-- The result of an assignment names the recorded commit. -/
theorem FinishRequest.result_get? (finish : FinishRequest) {row : WorkspaceRecord}
    {commit : String} (h : row.resultCommit = some commit) :
    (finish.result (some row)).get? "result_commit" = some (.str commit) := by
  unfold FinishRequest.result
  rw [Option.bind_some, Option.bind_some, h]
  cases row.baseCommit <;> simp [JsonValue.get?, List.lookup_cons]

theorem observeResultCommit_written (head : Except String String) (scope : AssignmentScope) :
    Tx.Keeps (Written [.workspaces]) (observeResultCommit head scope) :=
  observeResultCommit_keeps head scope fun commit db =>
    (Command.recordResultCommit scope commit).exec_written db

/-- A new operation finishes the caller's active assignment. -/
theorem FinishRequest.target_open {finish : FinishRequest} {db : Db} {assignment : AssignmentRecord}
    (hnew : db.operation finish.operationId = none) (h : finish.target db = some assignment) :
    assignment ∈ db.assignments ∧ assignment.isOpen = true := by
  unfold FinishRequest.target at h
  rw [hnew] at h
  have hfound := List.find?_some h
  simp only [Bool.and_eq_true] at hfound
  exact ⟨List.mem_of_find?_eq_some h, hfound.2⟩

/-- The transition of a finished assignment carries the recorded result. -/
theorem FinishRequest.taskTransition_sound {finish : FinishRequest} {assignment : AssignmentRecord}
    {db : Db} (h : db.WorkSound) (hnew : db.operation finish.operationId = none)
    (hmem : assignment ∈ db.assignments) (hopen : assignment.isOpen = true)
    (hrun : assignment.runId = finish.caller.runId)
    (hobserved : finish.status = .completed → ∃ row, db.workspace assignment.id = some row ∧
      (row.kind = .worktree → ∃ commit, row.resultCommit = some commit)) :
    (finish.taskTransition assignment db).Sound db := by
  obtain ⟨⟨held, hheldMem, hheldId, hheld⟩, hactive⟩ := held_of_open h.owned hmem hopen
  constructor
  · intro found hfound hid hfree
    have hsame := h.owned.tasks.eq_of_key_eq hfound hheldMem (hid.trans hheldId.symm)
    rw [hsame] at hfree
    exact absurd hheld hfree
  · intro hsubmit a ha
    rw [show (finish.taskTransition assignment db).runId = assignment.runId from hrun.symm,
      show (finish.taskTransition assignment db).taskId = assignment.taskId from rfl, hactive,
      List.mem_singleton] at ha
    have hcompleted : finish.status = .completed := by
      cases hstatus : finish.status with
      | completed => rfl
      | failed =>
          unfold FinishRequest.taskTransition at hsubmit
          rw [hstatus] at hsubmit
          cases hsubmit
    obtain ⟨row, hrow, hcommit⟩ := hobserved hcompleted
    rw [ha]
    refine ⟨row, hrow, fun hworktree => ?_⟩
    obtain ⟨commit, hcommit⟩ := hcommit hworktree
    refine ⟨commit, hcommit, ?_⟩
    have hresult : (finish.taskTransition assignment db).result =
        some (finish.result (some row)) := by
      unfold FinishRequest.taskTransition FinishRequest.carriedResult
      dsimp only
      rw [hnew, hrow]
      rfl
    rw [hresult, Option.bind_some]
    exact finish.result_get? hcommit

/-- Finishing an assignment keeps finished work sound, also when it is refused halfway. -/
theorem finishAssignment_workSound (finish : FinishRequest) :
    Tx.Keeps Db.WorkSoundKept (finishAssignment finish) := by
  have hresult : ∀ scope commit db,
      Db.WorkSoundKept db ((Command.recordResultCommit scope commit).exec db) :=
    fun _ _ _ h => Command.exec_workSound h fun _ _ heq => by cases heq
  intro db
  refine Tx.Keeps.bind_at (Tx.Keeps.require _ _ db) fun _ _ hblank => ?_
  obtain ⟨-, rfl⟩ := Tx.require_eq_ok.mp hblank
  refine Tx.Keeps.bind_at (Tx.Keeps.read _ db) fun replaying _ hreplaying => ?_
  obtain ⟨rfl, rfl⟩ := Tx.read_eq_ok.mp hreplaying
  refine Tx.Keeps.bind_at (Tx.Keeps.read _ db) fun target _ htarget => ?_
  obtain ⟨rfl, rfl⟩ := Tx.read_eq_ok.mp htarget
  refine Tx.Keeps.bind_at (Tx.Keeps.okOr _ _ db) fun assignment _ hfound => ?_
  obtain ⟨hassignment, rfl⟩ := Tx.okOr_eq_ok.mp hfound
  refine Tx.Keeps.bind_at (Tx.Keeps.require _ _ db) fun _ _ hchecked => ?_
  obtain ⟨howns, rfl⟩ := Tx.require_eq_ok.mp hchecked
  refine Tx.Keeps.bind_at (Tx.Keeps.when (observeResultCommit_keeps _ _ (hresult _)) db)
    fun _ db₁ hobserved => ?_
  have hwritten : Written [.workspaces] db db₁ :=
    (Tx.Keeps.when (observeResultCommit_written _ _)).of_ok hobserved
  refine Tx.Keeps.bind_at (Tx.Keeps.read _ db₁) fun transition _ htransition => ?_
  obtain ⟨rfl, rfl⟩ := Tx.read_eq_ok.mp htransition
  refine Tx.Keeps.bind_at ?_ fun _ _ _ => Std.Refl.refl _
  have hexec := committed_exec
    (.transitionTask (finish.taskTransition assignment db₁) finish.requestFingerprint) db₁
  intro hsound
  refine (congrArg Db.WorkSound hexec).mpr (Command.exec_preservesWork hsound fun u db' hrun => ?_)
  refine hsound.transitionTask (fun hnew stored hstored => ?_) hrun
  obtain rfl : finish.taskTransition assignment db₁ = stored := Option.some.inj hstored
  -- the operation is new, so that the assignment is the caller's active one
  have hnewBefore : db.operation finish.operationId = none := by
    have hoperations : db₁.operations = db.operations := hwritten.writesOnly.same .operations (by decide)
    unfold Db.operation at hnew ⊢
    rw [← hoperations]
    exact hnew
  obtain ⟨hmem, hopen⟩ := finish.target_open hnewBefore hassignment
  have hassignments : db₁.assignments = db.assignments := hwritten.writesOnly.same .assignments (by decide)
  refine finish.taskTransition_sound hsound hnew (by rw [hassignments]; exact hmem) hopen ?_ ?_
  · unfold FinishRequest.owns at howns
    simp only [Bool.and_eq_true, beq_iff_eq] at howns
    exact howns.1.1.1.1
  · intro hcompleted
    rcases Tx.when_eq_ok.mp hobserved with ⟨-, hrun⟩ | ⟨hskipped, -⟩
    · exact observeResultCommit_ok hrun
    · refine absurd ⟨hcompleted, ?_⟩ hskipped
      unfold FinishRequest.replaying
      rw [hnewBefore]
      rfl

/-! ## Runs -/

/-- Every input keeps finished work sound. -/
theorem WorkInput.exec_workSound (input : WorkInput) (db : Db) :
    db.WorkSoundKept (input.exec db) := by
  cases input with
  | finish request => exact finishAssignment_workSound request db
  | close transition requestFingerprint =>
      intro h
      refine Command.exec_preservesWork h fun u db' hrun => h.transitionTask ?_ hrun
      intro _ stored hstored
      obtain ⟨result, rfl⟩ := TaskTransitionMutation.withEvidence_eq hstored
      exact ⟨fun _ _ _ _ => rfl, fun hsubmit => by cases hsubmit⟩
  | integrate request =>
      exact desireIntegration_keeps request
        (fun _ _ h => Command.exec_workSound h fun _ _ heq => by cases heq) db
  | other command =>
      intro h
      unfold WorkInput.exec
      dsimp only
      split
      · exact h
      · next hother =>
          refine Command.exec_workSound h fun transition requestFingerprint heq => ?_
          rw [heq] at hother
          exact hother rfl

theorem workSound_run (inputs : List WorkInput) : (workMachine.run inputs).WorkSound :=
  Machine.invariant_run Db.workSound_empty (fun db input h => input.exec_workSound db h) inputs

/-- Commits are written once under every order of requests and commands.  A target commit never
    changes; a result commit changes only by a resubmission that named the recorded one, while
    nothing is integrated and no integration is intended.  A submitted task has one completed
    assignment, and a worktree's result commit is the one in the task result.  The result for which
    an integration plan was prepared is the recorded one at every later time. -/
theorem commits_write_once (inputs : List WorkInput) :
    (∀ input id row, (workMachine.run inputs).workspace id = some row →
      ∃ row', (workMachine.run (inputs ++ [input])).workspace id = some row' ∧
        (∀ commit, row.targetCommit = some commit → row'.targetCommit = some commit) ∧
        ∀ commit, row.resultCommit = some commit → row'.resultCommit = some commit ∨
          ∃ ctx requestFingerprint submission,
            input = .other (.resubmitTask ctx requestFingerprint submission) ∧
              submission.assignmentId = id ∧ submission.expectedResult = commit ∧
              row.targetCommit = none ∧
              (workMachine.run inputs).integrationRequested row.runId id = false) ∧
    (∀ task ∈ (workMachine.run inputs).tasks, task.status = .submitted →
      ∃ assignment ∈ (workMachine.run inputs).assignments,
        (assignment.taskId = task.id ∧ assignment.state = .completed) ∧
        (∀ other ∈ (workMachine.run inputs).assignments, other.taskId = task.id →
          other.state = .completed → other = assignment) ∧
        (workMachine.run inputs).ResultRecorded assignment.id task.result) ∧
    ∀ request db', (workMachine.run inputs).operation request.ctx.operationId = none →
      (desireIntegration request).run (workMachine.run inputs) = (.ok (), db') →
      ∃ plan row commit, request.Prepares (workMachine.run inputs) plan row commit ∧
        ∀ later, ∃ row',
          (workMachine.run (inputs ++ .integrate request :: later)).workspace
              request.assignmentId = some row' ∧
            row'.resultCommit = some commit := by
  have hsound := workSound_run inputs
  refine ⟨?_, ?_, ?_⟩
  · intro input id row hrow
    rw [Machine.run_append, Machine.runFrom_cons, Machine.runFrom_nil]
    rcases input.exec_commits (workMachine.run inputs) with
      hkept | ⟨ctx, requestFingerprint, submission, hinput, hrevised⟩
    · obtain ⟨row', hrow', hevolves⟩ := hkept id row hrow
      exact ⟨row', hrow', hevolves.targetCommit, fun commit h =>
        .inl (hevolves.resultCommit commit h)⟩
    · obtain ⟨row', hrow', hevolves | hreplaces⟩ := hrevised id row hrow
      · exact ⟨row', hrow', hevolves.targetCommit, fun commit h =>
          .inl (hevolves.resultCommit commit h)⟩
      · have hid := assignmentId_of_workspace hrow
        refine ⟨row', hrow', ?_, fun commit hcommit => .inr ⟨ctx, requestFingerprint, submission,
          hinput, ?_, ?_, hreplaces.unintegrated, ?_⟩⟩
        · intro commit hcommit
          rw [hreplaces.unintegrated] at hcommit
          cases hcommit
        · rw [← hreplaces.assignment, hid]
        · exact Option.some.inj (hreplaces.expected.symm.trans hcommit)
        · rw [← hid]
          exact hreplaces.noIntent
  · intro task htask hsubmitted
    obtain ⟨a, ha, hid, hcompleted⟩ := hsound.submitted task htask hsubmitted
    obtain ⟨found, hfound, hfoundId, hstatus⟩ := hsound.completed a ha hcompleted
    have hsame : found = task :=
      hsound.owned.tasks.eq_of_key_eq hfound htask (hfoundId.trans hid)
    subst hsame
    refine ⟨a, ha, ⟨hid, hcompleted⟩, fun other hother hotherTask hotherCompleted => ?_, ?_⟩
    · exact hsound.once other hother a ha hotherCompleted hcompleted (hotherTask.trans hid.symm)
    · rcases hstatus with hclosed | ⟨-, hresult⟩
      · rw [hclosed] at hsubmitted
        cases hsubmitted
      · exact hresult
  · intro request db' hnew hrun
    obtain ⟨plan, row, commit, hprepares, hfrozen⟩ :=
      desireIntegration_freezes hsound.owned hnew hrun
    refine ⟨plan, row, commit, hprepares, fun later => ?_⟩
    rw [Machine.run_append, Machine.runFrom_cons]
    have hstart : (workMachine.step (.integrate request) (workMachine.run inputs)).Frozen
        request.ctx.runId request.assignmentId commit := by
      show (((desireIntegration request).run (workMachine.run inputs)).2).Frozen _ _ _
      rw [hrun]
      exact hfrozen
    have hlater := Machine.invariant_from (m := workMachine)
      (I := Db.Frozen request.ctx.runId request.assignmentId commit)
      (fun db input h => h.step input) hstart later
    obtain ⟨row', hrow', -, hcommit⟩ := hlater.recorded
    exact ⟨row', hrow', hcommit⟩

end Coterie
