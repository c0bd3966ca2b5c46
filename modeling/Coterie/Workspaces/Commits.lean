/-
  Coterie.Workspaces.Commits

  The two commits that a workspace records.  Both are written once; only a resubmission replaces a
  recorded result, and it names the result that it replaces.  An integration intent is never
  forgotten, so that the result for which a plan was prepared stays the recorded one.
-/

import Coterie.Supervisor.Work
import Coterie.Tasks.Refinement

namespace Coterie

-- ============================================================================
-- What a workspace keeps
-- ============================================================================

/-- The workspace keeps its owner, its kind and what is recorded of its commits. -/
structure WorkspaceRecord.Evolves (row row' : WorkspaceRecord) : Prop where
  scope : row'.scope = row.scope
  kind : row'.kind = row.kind
  resultCommit : ∀ commit, row.resultCommit = some commit → row'.resultCommit = some commit
  targetCommit : ∀ commit, row.targetCommit = some commit → row'.targetCommit = some commit

theorem WorkspaceRecord.Evolves.refl (row : WorkspaceRecord) : row.Evolves row :=
  ⟨rfl, rfl, fun _ h => h, fun _ h => h⟩

theorem WorkspaceRecord.Evolves.trans {a b c : WorkspaceRecord} (hab : a.Evolves b)
    (hbc : b.Evolves c) : a.Evolves c where
  scope := hbc.scope.trans hab.scope
  kind := hbc.kind.trans hab.kind
  resultCommit commit h := hbc.resultCommit commit (hab.resultCommit commit h)
  targetCommit commit h := hbc.targetCommit commit (hab.targetCommit commit h)

/-- Every recorded workspace evolves. -/
def Db.CommitsKept (db db' : Db) : Prop :=
  ∀ id row, db.workspace id = some row → ∃ row', db'.workspace id = some row' ∧ row.Evolves row'

instance : Std.Refl Db.CommitsKept where
  refl _ _ row h := ⟨row, h, .refl row⟩

instance : IsTrans Db Db.CommitsKept where
  trans := by
    intro a b c hab hbc id row h
    obtain ⟨row', h', hevolves⟩ := hab id row h
    obtain ⟨row'', h'', hevolves'⟩ := hbc id row' h'
    exact ⟨row'', h'', hevolves.trans hevolves'⟩

theorem workspace_of_writes {tables : List TableName} {db db' : Db} (h : Written tables db db')
    (hno : .workspaces ∉ tables) : db'.workspace = db.workspace := by
  have hworkspaces : db'.workspaces = db.workspaces := h.writesOnly .workspaces hno
  funext id
  unfold Db.workspace
  rw [hworkspaces]

/-- A function whose frame avoids the workspaces. -/
theorem commitsKept_of_writes {α : Type} {x : Repo α} (tables : List TableName)
    (hno : .workspaces ∉ tables) (h : Tx.Keeps (Written tables) x) :
    Tx.Keeps Db.CommitsKept x := by
  refine h.mono fun db db' hw id row hrow => ?_
  rw [workspace_of_writes hw hno]
  exact ⟨row, hrow, .refl row⟩

/-- A workspace that its scope names is the recorded one. -/
theorem workspaceForScope_eq_some {db : Db} {scope : AssignmentScope} {row : WorkspaceRecord}
    (h : db.workspaceForScope scope = some row) :
    db.workspace scope.assignmentId = some row ∧ row.scope = scope ∧
      db.assignmentScopeIsCurrent scope = true := by
  unfold Db.workspaceForScope at h
  split at h
  · next hcurrent =>
      obtain ⟨hfound, hscope⟩ := Option.filter_eq_some_iff.mp h
      exact ⟨hfound, by simpa using hscope, hcurrent⟩
  · cases h

theorem assignmentId_of_workspace {db : Db} {id : AssignmentId} {row : WorkspaceRecord}
    (h : db.workspace id = some row) : row.assignmentId = id := by
  simpa using List.find?_some h

/-- The workspaces after an update of one of them. -/
theorem workspace_updateWorkspace (db : Db) (id : AssignmentId)
    {f : WorkspaceRecord → WorkspaceRecord} (hf : ∀ row, (f row).assignmentId = row.assignmentId)
    (other : AssignmentId) :
    (db.updateWorkspace id f).workspace other =
      (db.workspace other).map fun row => if row.assignmentId == id then f row else row := by
  unfold Db.workspace Db.updateWorkspace
  apply Table.find?_updateWhere
  intro row _
  rw [hf]

theorem commitsKept_updateWorkspace {db : Db} {id : AssignmentId}
    {f : WorkspaceRecord → WorkspaceRecord} (hf : ∀ row, (f row).assignmentId = row.assignmentId)
    (hevolves : ∀ row, db.workspace id = some row → row.Evolves (f row)) :
    db.CommitsKept (db.updateWorkspace id f) := by
  intro other row hrow
  rw [workspace_updateWorkspace db id hf, hrow, Option.map_some]
  refine ⟨_, rfl, ?_⟩
  by_cases hid : (row.assignmentId == id) = true
  · rw [if_pos hid]
    have hother : other = id := by
      rw [← assignmentId_of_workspace hrow]
      simpa using hid
    rw [hother] at hrow
    exact hevolves row hrow
  · rw [if_neg hid]
    exact .refl row

/-! ## Repository functions -/

theorem insertWorkspace_commitsKept (workspace : WorkspaceRecord) :
    Tx.Keeps Db.CommitsKept (insertWorkspace workspace) := by
  refine .bind (.read _) fun found => ?_
  cases found with
  | some row => exact .throw _
  | none =>
      refine .bind (.require _ _) fun _ => .bind (.require _ _) fun _ => .bind (.require _ _)
        fun _ => .bind (.require _ _) fun _ => .bind (.require _ _) fun _ => .write fun db => ?_
      intro id row hrow
      exact ⟨row, Table.find?_append_of_some hrow, .refl row⟩

theorem recordWorkspaceReconciliationState_commitsKept (scope : AssignmentScope)
    (state : ExternalResourceState) (reconciledAt : Int) :
    Tx.Keeps Db.CommitsKept (recordWorkspaceReconciliationState scope state reconciledAt) := by
  refine .bind (.read _) fun found => ?_
  cases found with
  | none => exact .pure _
  | some workspace =>
      refine .ite (.pure _) (.bind (.write fun db => ?_) fun _ => .pure _)
      apply commitsKept_updateWorkspace
      · intro row
        rfl
      · intro row _
        exact ⟨rfl, rfl, fun _ h => h, fun _ h => h⟩

theorem recordWorkspaceResultCommit_commitsKept (scope : AssignmentScope)
    (resultCommit : String) :
    Tx.Keeps Db.CommitsKept (recordWorkspaceResultCommit scope resultCommit) := by
  refine Tx.Keeps.read_bind fun db => ?_
  cases hfound : db.workspaceForScope scope with
  | none => exact Std.Refl.refl db
  | some workspace =>
      dsimp only
      cases hrecorded : workspace.resultCommit with
      | some recorded =>
          dsimp only
          split <;> exact Std.Refl.refl db
      | none =>
          apply commitsKept_updateWorkspace
          · intro row
            rfl
          · -- the row had no result, so that none is lost
            intro row hrow
            rw [(workspaceForScope_eq_some hfound).1] at hrow
            cases hrow
            exact ⟨rfl, rfl, fun _ h => absurd h (by simp [hrecorded]), fun _ h => h⟩

/-- What a recorded result commit leaves. -/
theorem recordWorkspaceResultCommit_ok {db db' : Db} {scope : AssignmentScope}
    {resultCommit : String} {outcome : ResourceTransitionOutcome} {workspace : WorkspaceRecord}
    (hworkspace : db.workspaceForScope scope = some workspace)
    (hrun : (recordWorkspaceResultCommit scope resultCommit).run db = (.ok outcome, db')) :
    ∃ row, db'.workspace scope.assignmentId = some row ∧ row.resultCommit = some resultCommit := by
  obtain ⟨hrecorded, -, -⟩ := workspaceForScope_eq_some hworkspace
  obtain ⟨found, _, hread, hrest⟩ := Tx.bind_eq_ok.mp hrun
  obtain ⟨rfl, rfl⟩ := Tx.read_eq_ok.mp hread
  rw [hworkspace] at hrest
  dsimp only at hrest
  cases hcommit : workspace.resultCommit with
  | some recorded =>
      rw [hcommit] at hrest
      dsimp only at hrest
      split at hrest
      · next hsame =>
          obtain ⟨-, rfl⟩ := Tx.pure_eq_ok.mp hrest
          exact ⟨workspace, hrecorded, by rw [hcommit, hsame]⟩
      · exact absurd hrest Tx.throw_eq_ok
  | none =>
      rw [hcommit] at hrest
      obtain ⟨_, _, hwrite, hpure⟩ := Tx.bind_eq_ok.mp hrest
      obtain rfl := Tx.write_eq_ok.mp hwrite
      obtain ⟨-, rfl⟩ := Tx.pure_eq_ok.mp hpure
      have hrow := workspace_updateWorkspace db scope.assignmentId
        (f := fun row => { row with resultCommit := some resultCommit }) (fun _ => rfl)
        scope.assignmentId
      rw [hrecorded, Option.map_some,
        if_pos (by simpa using assignmentId_of_workspace hrecorded)] at hrow
      exact ⟨_, hrow, rfl⟩

theorem recordWorkspaceTargetCommit_commitsKept (scope : AssignmentScope)
    (targetCommit : String) :
    Tx.Keeps Db.CommitsKept (recordWorkspaceTargetCommit scope targetCommit) := by
  refine Tx.Keeps.read_bind fun db => ?_
  cases hfound : db.workspaceForScope scope with
  | none => exact Std.Refl.refl db
  | some workspace =>
      dsimp only
      cases hrecorded : workspace.targetCommit with
      | some recorded =>
          dsimp only
          split <;> exact Std.Refl.refl db
      | none =>
          apply commitsKept_updateWorkspace
          · intro row
            rfl
          · intro row hrow
            rw [(workspaceForScope_eq_some hfound).1] at hrow
            cases hrow
            exact ⟨rfl, rfl, fun _ h => h, fun _ h => absurd h (by simp [hrecorded])⟩

theorem recordWorkspaceState_commitsKept (workspace : WorkspaceRecord)
    (state : ExternalResourceState) (reconciledAt : Int) :
    Tx.Keeps Db.CommitsKept (recordWorkspaceState workspace state reconciledAt) :=
  .bind (recordWorkspaceReconciliationState_commitsKept _ _ _) fun _ => .when
    (.bind (.read _) fun _ => .bind (.okOr _ _) fun _ =>
      commitsKept_of_writes [.events] (by decide) (writes_appendEvent _ rfl))

theorem recordResultCommit_commitsKept (scope : AssignmentScope) (resultCommit : String) :
    Tx.Keeps Db.CommitsKept (recordResultCommit scope resultCommit) :=
  .bind (recordWorkspaceResultCommit_commitsKept _ _) fun _ => .pure _

theorem recordIntegration_commitsKept (workspace : WorkspaceRecord) (plan : IntegrationPlan)
    (integration : IntegrationRecord) (operationId : OperationId) (actor : String)
    (reconciledAt : Int) :
    Tx.Keeps Db.CommitsKept
      (recordIntegration workspace plan integration operationId actor reconciledAt) := by
  refine .bind (recordWorkspaceTargetCommit_commitsKept _ _) fun _ => .bind (.when ?_) fun _ => ?_
  · exact .bind (.read _) fun _ => .bind (.okOr _ _) fun _ =>
      commitsKept_of_writes [.events] (by decide) (writes_appendEvent _ rfl)
  · exact .bind (commitsKept_of_writes [.operations, .events] (by decide)
      (writes_recordOperationReconciliation _ _ _ _)) fun _ => .pure _

theorem submitRetained_commitsKept (mutation : Mutation) (submission : RetainedSubmission) :
    Tx.Keeps Db.CommitsKept (submitRetained mutation submission) := by
  refine .bind (.read _) fun _ => .bind (.ofExcept _) fun _ => ?_
  refine .bind (recordWorkspaceResultCommit_commitsKept _ _) fun _ => ?_
  exact commitsKept_of_writes [.tasks, .claims, .assignments, .events] (by decide)
    (.bind (writes_applyTaskTransition _) fun _ =>
      .bind writes_retainedEvents fun _ => .pure _)

theorem spawnAgent_commitsKept (ctx : RequestContext) (spawn : SpawnRequest) :
    Tx.Keeps Db.CommitsKept (spawnAgent ctx spawn) := by
  refine .bind (commitsKept_of_writes [.agents, .agentScopes] (by decide) (writes_insertAgent _)) fun _ => ?_
  refine .bind (commitsKept_of_writes [.events] (by decide) (writes_appendEvent _ rfl)) fun _ => ?_
  refine .bind (commitsKept_of_writes
    [.tasks, .claims, .assignments, .assignmentScopes] (by decide)
    (writes_compareAndSetClaim _)) fun result => ?_
  refine .bind (commitsKept_of_writes [.events, .continuations] (by decide)
    (writes_appendTaskClaimEvents _ _)) fun _ => ?_
  cases result with
  | rejected => exact .throw _
  | claimed =>
      refine .bind ?_ fun _ => .bind (commitsKept_of_writes [.operations, .events] (by decide)
        (writes_markOperationReconciliationDesired _)) fun _ => .pure _
      refine .bind (.read _) fun _ => .bind (.okOr _ _) fun _ => .bind (.read _) fun _ =>
        .bind (.okOr _ _) fun _ => .bind (insertWorkspace_commitsKept _) fun _ => ?_
      exact commitsKept_of_writes [.events] (by decide) (writes_appendEvent _ rfl)

/-! ## Integration intents -/

/-- An integration intent is never forgotten. -/
theorem integrationRequested_of_kept {db db' : Db} (h : db.RequestsKept db') {runId : RunId}
    {id : AssignmentId} (hrequested : db.integrationRequested runId id = true) :
    db'.integrationRequested runId id = true := by
  obtain ⟨row, hrow, hmatches⟩ := List.any_eq_true.mp hrequested
  obtain ⟨row', hrow', hsame⟩ := h row hrow
  refine List.any_eq_true.mpr ⟨row', hrow', ?_⟩
  rw [hsame.runId, hsame.kind, hsame.request]
  exact hmatches

/-! ## Resubmission -/

/-- The submission replaced the recorded result that it named, before any integration. -/
structure Resubmission.Replaces (submission : Resubmission) (db : Db)
    (row row' : WorkspaceRecord) : Prop where
  assignment : row.assignmentId = submission.assignmentId
  expected : row.resultCommit = some submission.expectedResult
  unintegrated : row.targetCommit = none
  noIntent : db.integrationRequested row.runId row.assignmentId = false
  replaced : row' = { row with resultCommit := some submission.resultCommit }

/-- Every recorded workspace evolves, or has its result replaced by the submission. -/
def Db.CommitsRevised (submission : Resubmission) (db db' : Db) : Prop :=
  ∀ id row, db.workspace id = some row →
    ∃ row', db'.workspace id = some row' ∧ (row.Evolves row' ∨ submission.Replaces db row row')

theorem applyResubmission_commitsRevised (mutation : Mutation) (submission : Resubmission) :
    Tx.Ensures (Db.CommitsRevised submission) (applyResubmission mutation submission) := by
  intro db result db' h id row hrow
  obtain ⟨assignment, task, workspace, revised, event, hfound, -, rfl⟩ := applyResubmission_ok h
  obtain ⟨hrecorded, hscope, -⟩ := workspaceForScope_eq_some hfound.hworkspace
  have hid : assignment.id = submission.assignmentId := by
    simpa using List.find?_some hfound.hassignment
  have hrow' := workspace_updateWorkspace db assignment.id
    (f := fun row => { row with resultCommit := some submission.resultCommit }) (fun _ => rfl) id
  rw [hrow, Option.map_some] at hrow'
  refine ⟨_, hrow', ?_⟩
  by_cases howned : (row.assignmentId == assignment.id) = true
  · right
    rw [if_pos howned]
    have hown : row.assignmentId = assignment.id := by simpa using howned
    -- the row is the workspace that the preflight found
    have hsame : row = workspace := by
      have hfirst : db.workspace assignment.id = some row := by
        rw [← hown, assignmentId_of_workspace hrow]
        exact hrow
      rw [show assignment.scope.assignmentId = assignment.id from rfl, hfirst] at hrecorded
      exact Option.some.inj hrecorded
    subst hsame
    have hrun : row.runId = mutation.runId := by
      rw [← hfound.inRun]
      exact congrArg AssignmentScope.runId hscope
    exact {
      assignment := hown.trans hid
      expected := hfound.expected
      unintegrated := hfound.unintegrated
      noIntent := by rw [hrun, hown]; exact hfound.noIntent
      replaced := rfl }
  · left
    rw [if_neg howned]
    exact .refl row

/-! ## Commands -/

namespace Command

/-- A mutation keeps the commits that its closure keeps. -/
theorem mutated_commitsKept {mutation : Mutation} {requestFingerprint : Option String}
    {apply : Repo JsonValue} (happly : Tx.Keeps Db.CommitsKept apply) :
    Tx.Ensures Db.CommitsKept (mutated mutation requestFingerprint apply) := by
  intro db u db' h
  obtain ⟨outcome, db₃, hbody, h⟩ := Tx.bind_eq_ok.mp h
  obtain ⟨-, rfl⟩ := Tx.pure_eq_ok.mp h
  rcases mutationBody_ok hbody with ⟨-, hsame⟩ | ⟨a, db₁, db₂, hbefore, -, hrun, hafter⟩
  · rw [hsame]
    exact Std.Refl.refl db
  · intro id row hrow
    rw [← workspace_of_writes hbefore (by decide)] at hrow
    rw [workspace_of_writes hafter (by decide)]
    exact happly.of_ok hrun id row hrow

theorem mutated_commitsRevised {mutation : Mutation} {requestFingerprint : Option String}
    {submission : Resubmission} :
    Tx.Ensures (Db.CommitsRevised submission)
      (mutated mutation requestFingerprint (Coterie.resubmitTask mutation submission)) := by
  intro db u db' h
  obtain ⟨outcome, db₃, hbody, h⟩ := Tx.bind_eq_ok.mp h
  obtain ⟨-, rfl⟩ := Tx.pure_eq_ok.mp h
  rcases mutationBody_ok hbody with ⟨-, hsame⟩ | ⟨a, db₁, db₂, hbefore, -, hrun, hafter⟩
  · rw [hsame]
    intro id row hrow
    exact ⟨row, hrow, .inl (.refl row)⟩
  · intro id row hrow
    obtain ⟨result, _, happly, hrun⟩ := Tx.bind_eq_ok.mp hrun
    obtain ⟨-, rfl⟩ := Tx.pure_eq_ok.mp hrun
    rw [← workspace_of_writes hbefore (by decide)] at hrow
    rw [workspace_of_writes hafter (by decide)]
    obtain ⟨row', hrow', hrevised⟩ :=
      applyResubmission_commitsRevised mutation submission db₁ result _ happly id row hrow
    refine ⟨row', hrow', hrevised.imp_right fun h => { h with noIntent := ?_ }⟩
    -- an intent that was on record before the mutation would have stopped it
    rw [Bool.eq_false_iff]
    intro hrequested
    have hkept := integrationRequested_of_kept hbefore.requestsKept hrequested
    rw [h.noIntent] at hkept
    cases hkept

/-- Only a resubmission replaces a recorded commit. -/
theorem body_commitsKept (command : Command)
    (hother : ∀ ctx requestFingerprint submission,
      command ≠ .resubmitTask ctx requestFingerprint submission) :
    Tx.Ensures Db.CommitsKept command.body := by
  cases command
  case resubmitTask ctx requestFingerprint submission => exact absurd rfl (hother _ _ _)
  case submitRetained => exact mutated_commitsKept (submitRetained_commitsKept _ _)
  case spawnAgent => exact mutated_commitsKept (spawnAgent_commitsKept _ _)
  case recordWorkspaceState =>
    exact .of_keeps (recordWorkspaceState_commitsKept _ _ _) fun _ _ h => h
  case recordResultCommit =>
    exact .of_keeps (recordResultCommit_commitsKept _ _) fun _ _ h => h
  case recordIntegration =>
    exact .of_keeps (recordIntegration_commitsKept _ _ _ _ _ _) fun _ _ h => h
  -- the other commands do not write the workspaces
  all_goals
    exact .of_keeps
      (commitsKept_of_writes _ (by dsimp only [Command.writes]; decide) (keeps_writes _))
      fun _ _ h => h

theorem exec_commitsKept {command : Command}
    (hother : ∀ ctx requestFingerprint submission,
      command ≠ .resubmitTask ctx requestFingerprint submission) (db : Db) :
    db.CommitsKept (command.exec db) := by
  unfold exec
  rcases Tx.transaction_cases command.body db with ⟨u, db', hrun, hok⟩ | ⟨e, -, herror⟩
  · rw [hok]
    exact command.body_commitsKept hother db u db' hrun
  · rw [herror]
    exact Std.Refl.refl db

theorem exec_commitsRevised (ctx : RequestContext) (requestFingerprint : Option String)
    (submission : Resubmission) (db : Db) :
    db.CommitsRevised submission
      ((Command.resubmitTask ctx requestFingerprint submission).exec db) := by
  unfold exec
  rcases Tx.transaction_cases (Command.resubmitTask ctx requestFingerprint submission).body db with
    ⟨u, db', hrun, hok⟩ | ⟨e, -, herror⟩
  · rw [hok]
    exact mutated_commitsRevised db u db' hrun
  · rw [herror]
    intro id row hrow
    exact ⟨row, hrow, .inl (.refl row)⟩

end Command

-- ============================================================================
-- Inputs
-- ============================================================================

/-- What an input may do to the commits on record: a resubmission replaces a result, everything
    else keeps them. -/
theorem WorkInput.exec_commits (input : WorkInput) (db : Db) :
    db.CommitsKept (input.exec db) ∨
      ∃ ctx requestFingerprint submission,
        input = .other (.resubmitTask ctx requestFingerprint submission) ∧
          db.CommitsRevised submission (input.exec db) := by
  cases input with
  | finish request =>
      left
      refine finishAssignment_keeps request (fun _ _ db => ?_) (fun _ _ db => ?_) db
      · exact Command.exec_commitsKept (fun _ _ _ h => by cases h) db
      · exact Command.exec_commitsKept (fun _ _ _ h => by cases h) db
  | close transition requestFingerprint =>
      exact .inl (Command.exec_commitsKept (fun _ _ _ h => by cases h) db)
  | integrate request =>
      left
      exact desireIntegration_keeps request
        (fun _ db => Command.exec_commitsKept (fun _ _ _ h => by cases h) db) db
  | other command =>
      by_cases hresubmit : ∃ ctx requestFingerprint submission,
          command = .resubmitTask ctx requestFingerprint submission
      · obtain ⟨ctx, requestFingerprint, submission, rfl⟩ := hresubmit
        exact .inr ⟨ctx, requestFingerprint, submission, rfl,
          Command.exec_commitsRevised ctx requestFingerprint submission db⟩
      · left
        unfold WorkInput.exec
        dsimp only
        split
        · exact Std.Refl.refl db
        · exact Command.exec_commitsKept (fun ctx requestFingerprint submission h =>
            hresubmit ⟨ctx, requestFingerprint, submission, h⟩) db

/-- No input forgets a recorded request. -/
theorem WorkInput.exec_requestsKept (input : WorkInput) (db : Db) :
    db.RequestsKept (input.exec db) :=
  input.exec_rel (fun command db => (command.exec_written db).requestsKept) db

/-- Sound ownership stays sound. -/
def Db.OwnedKept (db db' : Db) : Prop :=
  db.board.Owned → db'.board.Owned

instance : Std.Refl Db.OwnedKept where
  refl _ h := h

instance : IsTrans Db Db.OwnedKept where
  trans _ _ _ hab hbc h := hbc (hab h)

theorem Command.exec_ownedKept (command : Command) (db : Db) :
    db.OwnedKept (command.exec db) := by
  intro howned
  rcases command.exec_moves howned with heq | hstep
  · rw [heq]
    exact howned
  · exact howned.step hstep

/-- Ownership is sound under every order of requests and commands. -/
theorem owned_workRun (inputs : List WorkInput) : (workMachine.run inputs).board.Owned := by
  refine Machine.invariant_run (m := workMachine) (I := fun db : Db => db.board.Owned)
    Board.owned_empty ?_ inputs
  intro db input howned
  have hstep : db.OwnedKept (input.exec db) :=
    input.exec_rel (fun command db => command.exec_ownedKept db) db
  exact hstep howned

/-! ## Frozen results -/

/-- The result of the assignment is on record, and so is an integration intent. -/
structure Db.Frozen (runId : RunId) (id : AssignmentId) (commit : String) (db : Db) : Prop where
  requested : db.integrationRequested runId id = true
  recorded : ∃ row, db.workspace id = some row ∧ row.runId = runId ∧
    row.resultCommit = some commit

/-- A result with an integration intent stays as it is. -/
theorem Db.Frozen.step {runId : RunId} {id : AssignmentId} {commit : String} {db : Db}
    (h : db.Frozen runId id commit) (input : WorkInput) :
    (input.exec db).Frozen runId id commit := by
  refine ⟨integrationRequested_of_kept (input.exec_requestsKept db) h.requested, ?_⟩
  obtain ⟨row, hrow, hrun, hcommit⟩ := h.recorded
  have hevolves : ∃ row', (input.exec db).workspace id = some row' ∧ row.Evolves row' := by
    rcases input.exec_commits db with hkept | ⟨ctx, requestFingerprint, submission, -, hrevised⟩
    · exact hkept id row hrow
    · obtain ⟨row', hrow', hevolves | hreplaces⟩ := hrevised id row hrow
      · exact ⟨row', hrow', hevolves⟩
      · -- a resubmission would have found the intent
        have hnone := hreplaces.noIntent
        rw [hrun, assignmentId_of_workspace hrow, h.requested] at hnone
        cases hnone
  obtain ⟨row', hrow', hevolves⟩ := hevolves
  refine ⟨row', hrow', ?_, hevolves.resultCommit commit hcommit⟩
  rw [← hrun]
  exact congrArg AssignmentScope.runId hevolves.scope

theorem workspaceRecords_ok {scope : AssignmentScope} {row : WorkspaceRecord}
    {project : ProjectRecord} {db db' : Db}
    (h : (workspaceRecords scope).run db = (.ok (row, project), db')) :
    db.workspaceForScope scope = some row ∧ db' = db := by
  simp only [workspaceRecords, Tx.bind_eq_ok, Tx.read_eq_ok, Tx.okOr_eq_ok, Tx.pure_eq_ok,
    Prod.mk.injEq] at h
  obtain ⟨_, _, ⟨rfl, rfl⟩, found, _, ⟨hrow, rfl⟩, _, _, ⟨rfl, rfl⟩, _, _, ⟨-, rfl⟩, ⟨rfl, -⟩, rfl⟩ :=
    h
  exact ⟨hrow, rfl⟩

/-- A current scope names an assignment of its run. -/
theorem assignment_of_scope {db : Db} {scope : AssignmentScope}
    (h : db.assignmentScopeIsCurrent scope = true) :
    ∃ assignment ∈ db.assignments, assignment.id = scope.assignmentId ∧
      assignment.runId = scope.runId := by
  simp only [Db.assignmentScopeIsCurrent, Bool.and_eq_true, List.any_eq_true, beq_iff_eq] at h
  obtain ⟨⟨⟨assignment, hmem, hids⟩, -⟩, -⟩ := h
  exact ⟨assignment, hmem, hids.1.1.1.1, hids.1.1.1.2⟩

/-- A plan is prepared for the recorded result of a completed assignment's worktree. -/
structure IntegrationRequest.Prepares (request : IntegrationRequest) (db : Db)
    (plan : IntegrationPlan) (row : WorkspaceRecord) (commit : String) : Prop where
  workspace : db.workspace request.assignmentId = some row
  scope : plan.scope = row.scope
  worktree : row.kind = .worktree
  result : row.resultCommit = some commit
  unintegrated : row.targetCommit = none

theorem preparedIntegration_ok {request : IntegrationRequest} {plan : IntegrationPlan}
    {db db' : Db} (howned : db.board.Owned)
    (h : (preparedIntegration request).run db = (.ok plan, db')) :
    db' = db ∧ ∃ row commit, request.Prepares db plan row commit ∧
      row.runId = request.ctx.runId := by
  simp only [preparedIntegration, Tx.bind_eq_ok, Tx.read_eq_ok, Tx.okOr_eq_ok,
    Tx.require_eq_ok] at h
  obtain ⟨_, _, ⟨rfl, rfl⟩, assignment, _, ⟨hassignment, rfl⟩, _, _, ⟨-, rfl⟩, _, _, ⟨rfl, rfl⟩,
    task, _, ⟨-, rfl⟩, _, _, ⟨-, rfl⟩, _, _, ⟨rfl, rfl⟩, row, _, ⟨hrow, rfl⟩, _, _, ⟨-, rfl⟩,
    _, _, ⟨hunintegrated, rfl⟩, h⟩ := h
  unfold prepareIntegration at h
  obtain ⟨⟨found, project⟩, db₁, hrecords, hplan⟩ := Tx.bind_eq_ok.mp h
  obtain ⟨hfound, rfl⟩ := workspaceRecords_ok hrecords
  obtain ⟨hrecorded, -, hcurrent⟩ := workspaceForScope_eq_some hfound
  have hid := assignmentId_of_workspace hrow
  -- the workspace that its own scope names is the one the request names
  have hsame : found = row := by
    rw [show row.scope.assignmentId = request.assignmentId from hid, hrow] at hrecorded
    exact (Option.some.inj hrecorded).symm
  subst hsame
  simp only [Tx.bind_eq_ok, Tx.require_eq_ok] at hplan
  obtain ⟨_, _, ⟨hworktree, rfl⟩, _, _, ⟨-, rfl⟩, _, _, ⟨hresult, rfl⟩, hplan⟩ := hplan
  obtain ⟨commit, hcommit⟩ := Option.isSome_iff_exists.mp hresult
  cases htarget : request.target with
  | error message =>
      rw [htarget] at hplan
      exact absurd hplan Tx.throw_eq_ok
  | ok target =>
      rw [htarget] at hplan
      obtain ⟨rfl, rfl⟩ := Tx.pure_eq_ok.mp hplan
      refine ⟨rfl, found, commit, ⟨hrow, rfl, by simpa using hworktree, hcommit,
        by simpa using hunintegrated⟩, ?_⟩
      -- the scope is current, so the workspace is in the run of its assignment
      obtain ⟨hfoundAssignment, hrun⟩ := Option.filter_eq_some_iff.mp hassignment
      obtain ⟨owner, howner, hownerId, hownerRun⟩ := assignment_of_scope hcurrent
      have hownerIds : owner.id = assignment.id := by
        have hassignmentId : assignment.id = request.assignmentId := by
          simpa using List.find?_some hfoundAssignment
        rw [hownerId, hassignmentId]
        exact hid
      have hmem : assignment ∈ db₁.assignments := List.mem_of_find?_eq_some hfoundAssignment
      have hsameOwner := howned.assignments.eq_of_key_eq howner hmem hownerIds
      rw [← show owner.runId = found.runId from hownerRun, hsameOwner]
      simpa using hrun

/-- A new integration intent freezes the result for which its plan was prepared. -/
theorem desireIntegration_freezes {request : IntegrationRequest} {db db' : Db}
    (howned : db.board.Owned) (hnew : db.operation request.ctx.operationId = none)
    (h : (desireIntegration request).run db = (.ok (), db')) :
    ∃ plan row commit, request.Prepares db plan row commit ∧
      db'.Frozen request.ctx.runId request.assignmentId commit := by
  obtain ⟨found, _, hread, hdesire⟩ := Tx.bind_eq_ok.mp h
  obtain ⟨rfl, rfl⟩ := Tx.read_eq_ok.mp hread
  rw [hnew] at hdesire
  obtain ⟨plan, db₁, hprepared, hintent⟩ := Tx.bind_eq_ok.mp hdesire
  obtain ⟨rfl, row, commit, hprepares, hrun⟩ := preparedIntegration_ok howned hprepared
  refine ⟨plan, row, commit, hprepares, ?_⟩
  obtain ⟨outcome, db₂, hbody, hpure⟩ := Tx.bind_eq_ok.mp (committed_ok hintent)
  obtain ⟨-, rfl⟩ := Tx.pure_eq_ok.mp hpure
  rcases mutationBody_ok hbody with
    ⟨hsome, -⟩ | ⟨a, db₃, db₄, hbefore, ⟨operation, hmem, hstands⟩, happly, hafter⟩
  · rw [show (request.ctx.mutation _ _).id = request.ctx.operationId from rfl, hnew] at hsome
    cases hsome
  have hclosure : Written [.operations, .events] db₃ db₄ :=
    (writes_integrateWorkspace _ _ _).of_ok happly
  have hrequested : db₃.integrationRequested request.ctx.runId request.assignmentId = true := by
    refine List.any_eq_true.mpr ⟨operation, hmem, ?_⟩
    rw [hstands.runId, hstands.kind, hstands.request]
    simp [RequestContext.mutation, integrationRequest, JsonValue.get?]
  refine ⟨?_, row, ?_, hrun, hprepares.result⟩
  · have hkept := integrationRequested_of_kept hclosure.requestsKept hrequested
    exact integrationRequested_of_kept hafter.requestsKept hkept
  · rw [workspace_of_writes hafter (by decide), workspace_of_writes hclosure (by decide),
      workspace_of_writes hbefore (by decide)]
    exact hprepares.workspace

end Coterie
