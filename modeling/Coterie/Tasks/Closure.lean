/-
  Coterie.Tasks.Closure

  The evidence behind a closed task.  A closure looks at the assignment that the store takes for the
  task's latest.  While creation times follow the order of creation this is the newest one, and its
  work is integrated, or described by an operator's override, when its task closes.
-/

import Coterie.Tasks.CreationOrder

namespace Coterie

-- ============================================================================
-- What closes a task
-- ============================================================================

/-- The transition closes this task with the acceptance evidence that the store demands. -/
structure ClosesWith (transition : TaskTransitionMutation) (db : Db) (task : TaskRecord) :
    Prop where
  found : task ∈ db.tasks
  taskId : task.id = transition.taskId
  inRun : task.runId = transition.runId
  close : transition.transition = .close
  submitted : task.status = .submitted
  accepted : transition.acceptanceNotMet db task = false

/-- A task that is closed after was closed before, or the transition closed it. -/
def Db.ClosesOnly (transition : TaskTransitionMutation) (db db' : Db) : Prop :=
  ∀ id, db'.board.Closed id →
    db.board.Closed id ∨ ∃ task, task.id = id ∧ ClosesWith transition db task

/-- No task is closed after that was not closed before. -/
def Db.ClosesNone (db db' : Db) : Prop :=
  ∀ id, db'.board.Closed id → db.board.Closed id

instance : Std.Refl Db.ClosesNone where
  refl _ _ h := h

instance : IsTrans Db Db.ClosesNone where
  trans _ _ _ hab hbc id h := hab id (hbc id h)

/-- The tables that closures and their evidence are read from. -/
def evidenceTables : List TableName :=
  [.tasks, .assignments, .workspaces]

theorem closesOnly_unseen (transition : TaskTransitionMutation) (tables : List TableName)
    (hno : ∀ table ∈ evidenceTables, table ∉ tables) :
    Unseen tables (Db.ClosesOnly transition) where
  still := by
    intro s t hw id hclosed
    have htasks : t.tasks = s.tasks := hw .tasks (hno _ (by decide))
    unfold Board.Closed Db.board at hclosed
    rw [htasks] at hclosed
    exact .inl hclosed
  before := by
    intro s t u hw h id hclosed
    have htasks : t.tasks = s.tasks := hw .tasks (hno _ (by decide))
    have hassignments : t.assignments = s.assignments := hw .assignments (hno _ (by decide))
    have hworkspaces : t.workspaces = s.workspaces := hw .workspaces (hno _ (by decide))
    have hlatest : t.latestAssignmentForTask = s.latestAssignmentForTask := by
      funext runId taskId
      unfold Db.latestAssignmentForTask
      rw [hassignments]
    have hworkspace : t.workspace = s.workspace := by
      funext assignmentId
      unfold Db.workspace
      rw [hworkspaces]
    rcases h id hclosed with hold | ⟨task, hid, hcloses⟩
    · unfold Board.Closed Db.board at hold
      rw [htasks] at hold
      exact .inl hold
    · refine .inr ⟨task, hid, { hcloses with found := htasks ▸ hcloses.found, accepted := ?_ }⟩
      have haccepted := hcloses.accepted
      unfold TaskTransitionMutation.acceptanceNotMet TaskTransitionMutation.overrideValid
        Db.unintegrated at haccepted ⊢
      rw [← hlatest, ← hworkspace]
      exact haccepted
  after := by
    intro s t u h hw id hclosed
    have htasks : u.tasks = t.tasks := hw .tasks (hno _ (by decide))
    unfold Board.Closed Db.board at hclosed
    rw [htasks] at hclosed
    exact h id hclosed

/-- An update of tasks that leaves none of the rewritten rows closed closes none. -/
theorem closed_of_updateWhere {rows : List TaskRecord} {p : TaskRecord → Bool}
    {f : TaskRecord → TaskRecord}
    (hf : ∀ row ∈ rows, p row = true → (f row).status ≠ .closed) {row : TaskRecord}
    (hrow : row ∈ Table.updateWhere p f rows) (hclosed : row.status = .closed) : row ∈ rows := by
  obtain ⟨old, hold, hupdated⟩ := Table.mem_updateWhere.mp hrow
  by_cases hp : p old = true
  · rw [if_pos hp] at hupdated
    subst hupdated
    exact absurd hclosed (hf old hold hp)
  · rw [if_neg hp] at hupdated
    subst hupdated
    exact hold

/-- Only the transition named after it leads to `closed`. -/
theorem TaskStatus.transition_eq_closed {status : TaskStatus} {transition : TaskTransition}
    (h : status.transition transition = some .closed) :
    status = .submitted ∧ transition = .close := by
  cases status <;> cases transition <;> first | exact ⟨rfl, rfl⟩ | cases h

/-- The tasks after an applied transition: rows other than the transition's keep their status. -/
theorem Transitioned.tasks {mutation : TaskTransitionMutation} {db db' : Db} {task : TaskRecord}
    {status : TaskStatus} (h : Transitioned mutation db db' task status) :
    db'.tasks = Table.updateWhere
      (fun row => row.id == mutation.taskId && row.runId == mutation.runId)
      (Board.moved status (mutation.storedResult task.result) mutation.transitionedAt)
      db.tasks := by
  rcases h.effect with ⟨-, rfl⟩ | ⟨-, _, -, rfl⟩ <;> rfl

/-- Storing the evidence changes the result of a transition and nothing else. -/
theorem TaskTransitionMutation.withEvidence_eq {transition stored : TaskTransitionMutation}
    (h : transition.withEvidence = some stored) :
    ∃ result, stored = { transition with result := result } := by
  unfold TaskTransitionMutation.withEvidence at h
  split at h
  · cases h
    exact ⟨transition.result, rfl⟩
  · obtain ⟨result, -, rfl⟩ := Option.map_eq_some_iff.mp h
    exact ⟨some result, rfl⟩

theorem applyTaskTransition_closesOnly (mutation : TaskTransitionMutation) :
    Tx.Ensures (Db.ClosesOnly mutation) (applyTaskTransition mutation) := by
  intro db result db' h id hclosed
  rcases applyTaskTransition_ok h with ⟨_, -, rfl⟩ | ⟨task, status, -, htransitioned⟩
  · exact .inl hclosed
  obtain ⟨row, hrow, rfl, hrowClosed⟩ := hclosed
  have hfound : task ∈ db.tasks := List.mem_of_find?_eq_some htransitioned.found
  have htaskId : task.id = mutation.taskId := by simpa using List.find?_some htransitioned.found
  by_cases hstatus : status = .closed
  · subst hstatus
    obtain ⟨hsubmitted, hclose⟩ := TaskStatus.transition_eq_closed htransitioned.permitted
    have hrow' : row ∈ db'.tasks := hrow
    rw [htransitioned.tasks] at hrow'
    obtain ⟨old, hold, hupdated⟩ := Table.mem_updateWhere.mp hrow'
    split at hupdated
    · next hselected =>
        have hids : old.id = mutation.taskId ∧ old.runId = mutation.runId := by
          simpa using hselected
        refine .inr ⟨task, ?_, hfound, htaskId, htransitioned.inRun, hclose, hsubmitted,
          htransitioned.accepted⟩
        rw [← hupdated, htaskId]
        exact hids.1.symm
    · subst hupdated
      exact .inl ⟨old, hold, rfl, hrowClosed⟩
  · left
    have hrow' : row ∈ db'.tasks := hrow
    rw [htransitioned.tasks] at hrow'
    exact ⟨row, closed_of_updateWhere (fun _ _ _ => hstatus) hrow' hrowClosed, rfl, hrowClosed⟩

/-- A transition other than `close` closes nothing. -/
theorem applyTaskTransition_closesNone {mutation : TaskTransitionMutation}
    (hopen : mutation.transition ≠ .close) :
    Tx.Ensures Db.ClosesNone (applyTaskTransition mutation) := by
  intro db result db' h id hclosed
  rcases applyTaskTransition_closesOnly mutation db result db' h id hclosed with
    hold | ⟨_, -, hcloses⟩
  · exact hold
  · exact absurd hcloses.close hopen

theorem transitionTaskBody_closesOnly (mutation : TaskTransitionMutation) :
    Tx.Ensures (Db.ClosesOnly mutation) (transitionTaskBody mutation) := by
  have hevents := closesOnly_unseen mutation [.events] (by decide)
  refine hevents.bind (.read _) fun _ => hevents.bind (.read _) fun _ => ?_
  refine hevents.bind_after (applyTaskTransition_closesOnly mutation) fun result => ?_
  cases result with
  | rejected => exact .pure _
  | transitioned previousStatus status =>
      exact .bind (.read _) fun _ => .bind (.okOr _ _) fun _ =>
        .bind (writes_appendEvent _ rfl) fun _ =>
          .bind (.when (writes_appendReleaseEvents _ _ _ _)) fun _ => .pure _

/-! ## The other commands close no task -/

theorem closesNone_unseen (tables : List TableName) (hno : .tasks ∉ tables) :
    Unseen tables Db.ClosesNone := by
  have hstill : ∀ {s t : Db}, WritesOnly tables s t → s.ClosesNone t := by
    intro s t hw id hclosed
    have htasks : t.tasks = s.tasks := hw .tasks hno
    unfold Board.Closed Db.board at hclosed
    rw [htasks] at hclosed
    exact hclosed
  exact {
    still := hstill
    before := fun hw h => IsTrans.trans _ _ _ (hstill hw) h
    after := fun h hw => IsTrans.trans _ _ _ h (hstill hw) }

theorem insertNewTask_closesNone (task : NewTask) (runId : RunId) (now : Int) :
    Tx.Ensures Db.ClosesNone (insertNewTask task runId now) := by
  have hedges := closesNone_unseen [.taskDependencies] (by decide)
  have hrequire : ∀ id, Tx.Keeps (Written [.taskDependencies]) (requireDependency runId id) :=
    fun id => .require _ _
  have hinsert : ∀ id, Tx.Keeps (Written [.taskDependencies])
      (insertDependency (task.edge runId now id)) := fun id => writes_insertDependency _
  refine hedges.bind (.each hrequire _) fun _ => hedges.bind_after ?_ fun _ => .each hinsert _
  intro db u db' h id hclosed
  obtain ⟨-, rfl⟩ := insertTask_ok h
  obtain ⟨row, hrow, hid, hstatus⟩ := hclosed
  rcases List.mem_append.mp hrow with hold | hnew
  · exact ⟨row, hold, hid, hstatus⟩
  · -- the new task is open
    rw [List.mem_singleton.mp hnew] at hstatus
    cases hstatus

theorem compareAndSetClaim_closesNone (claim : ClaimTaskMutation) :
    Tx.Ensures Db.ClosesNone (compareAndSetClaim claim) := by
  intro db result db' h id hclosed
  rcases compareAndSetClaim_ok h with ⟨_, -, rfl⟩ | ⟨generation, task, -, -, -, -, rfl⟩
  · exact hclosed
  · obtain ⟨row, hrow, hid, hstatus⟩ := hclosed
    exact ⟨row, closed_of_updateWhere (fun _ _ _ hne => by cases hne) hrow hstatus, hid, hstatus⟩

theorem recoverAssignment_closesNone (mutation : Mutation) (assignmentId : AssignmentId)
    (reason : String) (document brief : JsonValue) (acknowledgeLost : Bool) :
    Tx.Ensures Db.ClosesNone
      (recoverAssignment mutation assignmentId reason document brief acknowledgeLost) := by
  have hrest := closesNone_unseen [.recoveryHandoffs, .events, .recoveries] (by decide)
  refine hrest.bind (.read _) fun _ => hrest.bind (.ofExcept _) fun _ =>
    hrest.bind (.okOr _ _) fun _ => hrest.bind (writes_insertRecoveryHandoff _) fun _ => ?_
  refine hrest.bind_after (applyTaskTransition_closesNone ?_) fun _ =>
    .bind writes_recoveryEvents fun _ => .pure _
  exact fun hclose => by cases hclose

theorem submitRetained_closesNone (mutation : Mutation) (submission : RetainedSubmission) :
    Tx.Ensures Db.ClosesNone (submitRetained mutation submission) := by
  have hrest := closesNone_unseen [.workspaces, .events] (by decide)
  refine hrest.bind (.read _) fun _ => hrest.bind (.ofExcept _) fun _ =>
    hrest.bind (writes_recordWorkspaceResultCommit _ _) fun _ => ?_
  refine hrest.bind_after (applyTaskTransition_closesNone ?_) fun _ =>
    .bind writes_retainedEvents fun _ => .pure _
  exact fun hclose => by cases hclose

theorem applyResubmission_closesNone (mutation : Mutation) (submission : Resubmission) :
    Tx.Ensures Db.ClosesNone (applyResubmission mutation submission) := by
  have hrest := closesNone_unseen [.assignments, .workspaces, .events] (by decide)
  refine hrest.bind (.read _) fun _ => hrest.bind (.ofExcept _) fun _ =>
    hrest.bind (.okOr _ _) fun _ => hrest.bind (writes_appendEvent _ rfl) fun _ => ?_
  refine hrest.bind (.write fun db => written_updateWorkspace db _
    fun _ => ⟨rfl, rfl, rfl, rfl, rfl, rfl, rfl⟩) fun _ => ?_
  refine hrest.bind (.write fun db => ?_) fun _ => ?_
  · exact written_updateAssignments db _ (fun _ => rfl) fun _ h => h
  · refine hrest.bind_after ?_ fun _ => .pure _
    intro db u db' h id hclosed
    obtain rfl := Tx.write_eq_ok.mp h
    -- the corrected row keeps its identity and its status
    obtain ⟨row, hrow, hid, hstatus⟩ := hclosed
    obtain ⟨old, hold, rfl⟩ := Table.mem_updateWhere.mp hrow
    refine ⟨old, hold, ?_⟩
    split at hid <;> split at hstatus <;> exact ⟨hid, hstatus⟩

namespace Command

theorem mutated_closesNone {mutation : Mutation} {requestFingerprint : Option String}
    {apply : Repo JsonValue} (happly : Tx.Ensures Db.ClosesNone apply) :
    Tx.Ensures Db.ClosesNone (mutated mutation requestFingerprint apply) := by
  have hops := closesNone_unseen [.operations, .launches, .outcomes] (by decide)
  exact hops.bind_after (hops.mutationBody happly) fun _ => .pure _

/-- What a command closes, it closes by its transition. -/
theorem body_closes (command : Command) :
    Tx.Ensures Db.ClosesNone command.body ∨
      ∃ transition requestFingerprint, command = .transitionTask transition requestFingerprint ∧
        Tx.Ensures (Db.ClosesOnly transition) command.body := by
  have hevents := closesNone_unseen [.events, .continuations] (by decide)
  cases command
  case createTask ctx requestFingerprint task =>
    exact .inl (mutated_closesNone (hevents.bind_after (insertNewTask_closesNone _ _ _) fun _ =>
      .bind (writes_appendEvent _ rfl) fun _ => .pure _))
  case claimTask claim =>
    exact .inl (mutated_closesNone (hevents.bind_after (compareAndSetClaim_closesNone _) fun _ =>
      .bind (writes_appendTaskClaimEvents _ _) fun _ => .pure _))
  case recoverTask =>
    exact .inl (mutated_closesNone (hevents.bind_after (recoverAssignment_closesNone _ _ _ _ _ _)
      fun _ => .pure _))
  case submitRetained => exact .inl (mutated_closesNone (submitRetained_closesNone _ _))
  case resubmitTask =>
    exact .inl (mutated_closesNone (hevents.bind_after (applyResubmission_closesNone _ _)
      fun _ => .pure _))
  case spawnAgent ctx spawn =>
    have hrest := closesNone_unseen
      [.agents, .agentScopes, .workspaces, .operations, .events, .continuations]
      (by decide)
    refine .inl (mutated_closesNone ?_)
    refine hrest.bind (writes_insertAgent _) fun _ => hrest.bind (writes_appendEvent _ rfl) fun _ => ?_
    refine hrest.bind_after (compareAndSetClaim_closesNone _) fun result =>
      .bind (writes_appendTaskClaimEvents _ _) fun _ => ?_
    cases result with
    | rejected => exact .throw _
    | claimed =>
        exact .bind (writes_insertSpawnWorkspace _ _) fun _ =>
          .bind (writes_markOperationReconciliationDesired _) fun _ => .pure _
  case transitionTask transition requestFingerprint =>
    refine .inr ⟨transition, requestFingerprint, rfl, ?_⟩
    have hops := closesOnly_unseen transition [.operations, .launches, .outcomes] (by decide)
    refine hops.bind_after ?_ fun _ => .pure _
    intro db outcome db' h
    obtain ⟨stored, _, h₁, h⟩ := Tx.bind_eq_ok.mp h
    obtain ⟨hstored, rfl⟩ := Tx.okOr_eq_ok.mp h₁
    -- the stored transition differs from the requested one in its result only
    obtain ⟨result, rfl⟩ := TaskTransitionMutation.withEvidence_eq hstored
    refine hops.mutationBody (hops.bind_after ?_ fun _ => .pure _) db outcome db' h
    intro db₁ _ db₂ hbody id hclosed
    rcases transitionTaskBody_closesOnly _ db₁ _ db₂ hbody id hclosed with
      hold | ⟨task, hid, hcloses⟩
    · exact .inl hold
    · exact .inr ⟨task, hid, hcloses.found, hcloses.taskId, hcloses.inRun, hcloses.close,
        hcloses.submitted, hcloses.accepted⟩
  all_goals
    exact .inl ((closesNone_unseen _ (by dsimp only [Command.writes]; decide)).ensures
      (keeps_writes _))

end Command

-- ============================================================================
-- Every run
-- ============================================================================

/-- The operator accepts the recorded, completed and unintegrated work of an assignment. -/
structure OperatorAccepts (transition : TaskTransitionMutation)
    (evidence : OperatorClosureOverride) (assignment : AssignmentRecord)
    (workspace : WorkspaceRecord) : Prop where
  operator : transition.actorAgentId = none
  carried : transition.operatorOverride = some evidence
  assignmentId : evidence.assignmentId = assignment.id
  projectId : evidence.projectId = workspace.projectId
  baseCommit : workspace.baseCommit = some evidence.baseCommit
  resultCommit : workspace.resultCommit = some evidence.resultCommit
  completed : assignment.state = .completed
  unintegrated : workspace.targetCommit = none

/-- What a valid override found. -/
theorem overrideValid_eq_true {mutation : TaskTransitionMutation} {db : Db} {task : TaskRecord}
    {evidence : OperatorClosureOverride} (h : mutation.overrideValid db task evidence = true) :
    mutation.actorAgentId = none ∧ evidence.projectId = task.projectId ∧
      (∃ assignment, db.latestAssignmentForTask mutation.runId task.id = some assignment ∧
        assignment.id = evidence.assignmentId ∧ assignment.state = .completed) ∧
      ∃ workspace, db.workspace evidence.assignmentId = some workspace ∧
        evidence.describes mutation.runId task workspace = true := by
  simp only [TaskTransitionMutation.overrideValid, Bool.and_eq_true, Option.any_eq_true,
    beq_iff_eq] at h
  obtain ⟨⟨⟨⟨⟨⟨⟨hoperator, -⟩, -⟩, hproject⟩, -⟩, -⟩, hassignment⟩, hworkspace⟩ := h
  exact ⟨hoperator, hproject, hassignment, hworkspace⟩

/-- A closure of work in a worktree looks at the assignment that counts as the latest, and finds it
    integrated or accepted by the operator. -/
theorem ClosesWith.evidence {transition : TaskTransitionMutation} {db : Db} {task : TaskRecord}
    (h : ClosesWith transition db task) {assignment : AssignmentRecord}
    {workspace : WorkspaceRecord}
    (hlatest : db.latestAssignmentForTask task.runId task.id = some assignment)
    (hworkspace : db.workspace assignment.id = some workspace)
    (hworktree : workspace.kind = .worktree) :
    workspace.targetCommit ≠ none ∨
      ∃ evidence, OperatorAccepts transition evidence assignment workspace := by
  have haccepted := h.accepted
  rw [h.inRun] at hlatest
  unfold TaskTransitionMutation.acceptanceNotMet at haccepted
  cases hoverride : transition.operatorOverride with
  | none =>
      left
      intro htarget
      rw [hoverride] at haccepted
      rw [h.taskId] at hlatest
      simp [h.close, h.submitted, Db.unintegrated, hlatest, hworkspace, hworktree, htarget]
        at haccepted
  | some evidence =>
      right
      rw [hoverride, Bool.not_eq_false'] at haccepted
      obtain ⟨hoperator, hproject, ⟨latest, hfound, hid, hcompleted⟩, recorded, hrecorded,
        hdescribes⟩ := overrideValid_eq_true haccepted
      rw [hlatest, Option.some.injEq] at hfound
      subst hfound
      rw [← hid, hworkspace, Option.some.injEq] at hrecorded
      subst hrecorded
      simp only [OperatorClosureOverride.describes, Bool.and_eq_true, beq_iff_eq] at hdescribes
      obtain ⟨⟨⟨⟨⟨-, hworkspaceProject⟩, -⟩, htarget⟩, hbase⟩, hresult⟩ := hdescribes
      exact ⟨evidence, {
        operator := hoperator
        carried := hoverride
        assignmentId := hid.symm
        projectId := hproject.trans hworkspaceProject.symm
        baseCommit := hbase
        resultCommit := hresult
        completed := hcompleted
        unintegrated := htarget }⟩

/-- An agent's transition that carries an override is rejected. -/
theorem applyTaskTransition_agentOverride {mutation : TaskTransitionMutation}
    (hagent : mutation.actorAgentId ≠ none) (hoverride : mutation.operatorOverride ≠ none) :
    Tx.Ensures Db.SameBoard (applyTaskTransition mutation) := by
  intro db result db' h
  rcases applyTaskTransition_ok h with ⟨_, -, rfl⟩ | ⟨task, status, -, htransitioned⟩
  · rfl
  · have haccepted := htransitioned.accepted
    unfold TaskTransitionMutation.acceptanceNotMet at haccepted
    cases hevidence : mutation.operatorOverride with
    | none => exact absurd hevidence hoverride
    | some evidence =>
        rw [hevidence, Bool.not_eq_false'] at haccepted
        exact absurd (overrideValid_eq_true haccepted).1 hagent

theorem sameBoard_unseen (tables : List TableName)
    (hno : ∀ table ∈ boardTables, table ∉ tables) :
    Unseen tables Db.SameBoard where
  still hw := hw.sameBoard hno
  before hw h := Eq.trans h (hw.sameBoard hno)
  after h hw := Eq.trans (hw.sameBoard hno) h

namespace Command

/-- No agent changes the board by a transition that carries an override. -/
theorem agentOverride_sameBoard {transition : TaskTransitionMutation}
    {requestFingerprint : Option String} (hagent : transition.actorAgentId ≠ none)
    (hoverride : transition.operatorOverride ≠ none) :
    Tx.Ensures Db.SameBoard (transitionTask transition requestFingerprint).body := by
  have hrest := sameBoard_unseen [.operations, .launches, .outcomes, .events] (by decide)
  refine hrest.bind_after ?_ fun _ => .pure _
  intro db outcome db' h
  obtain ⟨stored, _, h₁, h⟩ := Tx.bind_eq_ok.mp h
  obtain ⟨hstored, rfl⟩ := Tx.okOr_eq_ok.mp h₁
  obtain ⟨result, rfl⟩ := TaskTransitionMutation.withEvidence_eq hstored
  refine hrest.mutationBody (hrest.bind_after (hrest.bind (.read _) fun _ => hrest.bind (.read _)
    fun _ => ?_) fun _ => .pure _) db outcome db' h
  refine hrest.bind_after (applyTaskTransition_agentOverride hagent hoverride) fun result => ?_
  cases result with
  | rejected => exact .pure _
  | transitioned previousStatus status =>
      exact .bind (.read _) fun _ => .bind (.okOr _ _) fun _ =>
        .bind (writes_appendEvent _ rfl) fun _ =>
          .bind (.when (writes_appendReleaseEvents _ _ _ _)) fun _ => .pure _

/-- What a committed command closes was submitted, and closed by its transition. -/
theorem exec_closes (command : Command) {db : Db} {id : TaskId}
    (hclosed : (command.exec db).board.Closed id) (hopen : ¬ db.board.Closed id) :
    ∃ transition requestFingerprint task,
      command = .transitionTask transition requestFingerprint ∧ task.id = id ∧
        ClosesWith transition db task := by
  unfold exec at hclosed
  rcases Tx.transaction_cases command.body db with ⟨u, db', hrun, hok⟩ | ⟨e, -, herror⟩
  · rw [hok] at hclosed
    rcases command.body_closes with hnone | ⟨transition, requestFingerprint, rfl, honly⟩
    · exact absurd (hnone db u db' hrun id hclosed) hopen
    · rcases honly db u db' hrun id hclosed with hold | ⟨task, hid, hcloses⟩
      · exact absurd hold hopen
      · exact ⟨transition, requestFingerprint, task, rfl, hid, hcloses⟩
  · rw [herror] at hclosed
    exact absurd hclosed hopen

end Command

/-- A task that the command closes was submitted and is closed by a transition; when its newest
    assignment works in a worktree, that worktree is integrated, or the operator accepts exactly its
    recorded work. -/
def ClosesWithEvidence (db db' : Db) (command : Command) : Prop :=
  ∀ id, db'.board.Closed id → ¬ db.board.Closed id →
    ∃ transition requestFingerprint, command = .transitionTask transition requestFingerprint ∧
      ∃ task ∈ db.tasks, task.id = id ∧ task.status = .submitted ∧
        ∀ assignment workspace, db.newestAssignment task.runId task.id = some assignment →
          db.workspace assignment.id = some workspace → workspace.kind = .worktree →
            workspace.targetCommit ≠ none ∨
              ∃ evidence, OperatorAccepts transition evidence assignment workspace

/-- Along every run in which the clock does not step back between two claims of one task, a task
    becomes closed only with evidence about its newest assignment.  In every run, an agent's
    transition that carries an override changes no task, and no transition changes a workspace. -/
theorem closure_evidence (commands : List Command) (command : Command) :
    (storeMachine.Meets Command.ClaimedInOrder .empty commands →
      ClosesWithEvidence (storeMachine.run commands) (storeMachine.run (commands ++ [command]))
        command) ∧
    ∀ transition requestFingerprint, command = .transitionTask transition requestFingerprint →
      (transition.actorAgentId ≠ none → transition.operatorOverride ≠ none →
        (storeMachine.run (commands ++ [command])).tasks = (storeMachine.run commands).tasks) ∧
      (storeMachine.run (commands ++ [command])).workspaces =
        (storeMachine.run commands).workspaces := by
  have hexec : storeMachine.run (commands ++ [command]) =
      command.exec (storeMachine.run commands) := by
    rw [Machine.run_append]
    rfl
  rw [hexec]
  constructor
  · intro hclock id hclosed hopen
    have hsorted := createdInOrder_run hclock
    obtain ⟨transition, requestFingerprint, task, rfl, hid, hcloses⟩ :=
      command.exec_closes hclosed hopen
    refine ⟨transition, requestFingerprint, rfl, task, hcloses.found, hid, hcloses.submitted, ?_⟩
    intro assignment workspace hnewest hworkspace hworktree
    rw [← hsorted.latestAssignment] at hnewest
    exact hcloses.evidence hnewest hworkspace hworktree
  · rintro transition requestFingerprint rfl
    constructor
    · intro hagent hoverride
      unfold Command.exec
      rcases Tx.transaction_cases (Command.transitionTask transition requestFingerprint).body
        (storeMachine.run commands) with ⟨u, db', hrun, hok⟩ | ⟨e, -, herror⟩
      · rw [hok]
        exact congrArg Board.tasks
          (Command.agentOverride_sameBoard hagent hoverride _ u db' hrun)
      · rw [herror]
    · exact (Command.transitionTask transition requestFingerprint).exec_writesOnly _ .workspaces
        (by dsimp only [Command.writes]; decide)

/-! ## A clock that steps back -/

/-- A request of the operator. -/
def operatorRequest (operationId : String) (now : Int) : RequestContext where
  operationId := ⟨operationId⟩
  runId := ⟨"run-1"⟩
  caller := none
  now := now

/-- The operator's transition of the only task. -/
def operatorTransition (operationId : String) (transition : TaskTransition) (now : Int) :
    TaskTransitionMutation where
  operationId := ⟨operationId⟩
  runId := ⟨"run-1"⟩
  actorAgentId := none
  taskId := ⟨"task-1"⟩
  transition := transition
  result := none
  operatorOverride := none
  summary := none
  transitionedAt := now

/-- The spawn of one worker for the only task. -/
def workerSpawn (worker : String) (workspaceKind : WorkspaceKind) : SpawnRequest where
  role := "worker"
  taskId := ⟨"task-1"⟩
  agentId := ⟨"agent-" ++ worker⟩
  sessionId := ⟨"session-" ++ worker⟩
  assignmentId := ⟨"assignment-" ++ worker⟩
  workspaceKind := workspaceKind
  runStateDirectory := "/state"
  baseCommit := some "base"

/-- A task that one worker gave up in the project directory at 110, and that a second worker, whose
    claim was made when the clock read `secondClaimAt`, submitted from a worktree. -/
def continuedWork (secondClaimAt : Int) : List Command :=
  [.startRun ⟨"run-1"⟩
      { id := ⟨"project-1"⟩, runId := ⟨"run-1"⟩, projectAlias := "primary",
        originalPath := "/work", canonicalPath := "/work", identity := .null, isPrimary := true,
        attachedAt := 1 } 1,
   .createTask (operatorRequest "op-1" 2) none
      { taskId := ⟨"task-1"⟩, title := "title", description := "description",
        projectAlias := "primary", projectId := ⟨"project-1"⟩, group := none,
        dependencies := [] },
   .spawnAgent (operatorRequest "op-2" 100) (workerSpawn "1" .project),
   .transitionTask (operatorTransition "op-3" .reopen 110) none,
   .spawnAgent (operatorRequest "op-4" secondClaimAt) (workerSpawn "2" .worktree),
   .recordResultCommit
      { runId := ⟨"run-1"⟩, assignmentId := ⟨"assignment-2"⟩, generation := 0 } "result",
   .transitionTask (operatorTransition "op-5" .submit 130) none]

/-- A closure of the submitted task without an override. -/
def plainClosure : TaskTransitionMutation :=
  operatorTransition "op-6" .close 140

/-- Every task's newest assignment works in a worktree that is not integrated. -/
def Db.newestUnintegrated (db : Db) : Bool :=
  db.tasks.all fun task =>
    (db.newestAssignment task.runId task.id).any fun assignment =>
      (db.workspace assignment.id).any fun workspace =>
        workspace.kind == .worktree && workspace.targetCommit == none

/-- Without an override, such work is closed against the evidence. -/
theorem not_closesWithEvidence {db db' : Db} (hworktrees : db.newestUnintegrated = true)
    {id : TaskId} (hclosed : db'.board.Closed id) (hopen : ¬ db.board.Closed id) :
    ¬ ClosesWithEvidence db db' (.transitionTask plainClosure none) := by
  intro h
  obtain ⟨transition, _, hcommand, task, htask, -, -, hevidence⟩ := h id hclosed hopen
  have htransition : plainClosure = transition := by
    injection hcommand
  obtain ⟨assignment, hnewest, hassignment⟩ :=
    (Option.any_eq_true _ _).mp (List.all_eq_true.mp hworktrees task htask)
  obtain ⟨workspace, hworkspace, hkind⟩ := (Option.any_eq_true _ _).mp hassignment
  rw [Bool.and_eq_true, beq_iff_eq, beq_iff_eq] at hkind
  rcases hevidence assignment workspace hnewest hworkspace hkind.1 with
    hintegrated | ⟨evidence, haccepts⟩
  · exact hintegrated hkind.2
  · have hcarried := haccepts.carried
    rw [← htransition] at hcarried
    cases hcarried

/-- With the clock running forward, the second worker's unintegrated worktree keeps the task from
    being closed. -/
theorem closure_evidence_in_order :
    ¬ (storeMachine.run (continuedWork 120 ++ [.transitionTask plainClosure none])).board.Closed
      ⟨"task-1"⟩ := by
  intro hclosed
  exact not_closesWithEvidence (by decide +kernel) hclosed (by decide +kernel)
    ((closure_evidence (continuedWork 120) (.transitionTask plainClosure none)).1
      (by decide +kernel))

/-- When the clock has stepped back behind the first claim, the first worker's assignment counts as
    the latest, and the task is closed over the second worker's unintegrated worktree. -/
theorem closure_evidence_clock_step :
    ¬ ClosesWithEvidence (storeMachine.run (continuedWork 50))
      (storeMachine.run (continuedWork 50 ++ [.transitionTask plainClosure none]))
      (.transitionTask plainClosure none) :=
  @not_closesWithEvidence _ _ (by decide +kernel) ⟨"task-1"⟩ (by decide +kernel)
    (by decide +kernel)

end Coterie
