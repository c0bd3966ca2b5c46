/-
  Coterie.Tasks.CreationOrder

  The assignments of a task in the order of their creation.  An assignment records when it was
  created by the reading of a clock, and keeps this record.  The order of the records is the order of
  creation as long as the clock does not step back between two claims of one task; then the
  assignment that the store takes for the latest is the newest.
-/

import Coterie.Tasks.Dependencies

namespace Coterie

/-- What an assignment keeps for ever: its identity, its task and its recorded creation time. -/
structure AssignmentOrigin where
  id : AssignmentId
  runId : RunId
  taskId : TaskId
  createdAt : Int

def AssignmentRecord.origin (assignment : AssignmentRecord) : AssignmentOrigin where
  id := assignment.id
  runId := assignment.runId
  taskId := assignment.taskId
  createdAt := assignment.createdAt

namespace Db

/-- The assignment of a task that was created last. -/
def newestAssignment (db : Db) (runId : RunId) (taskId : TaskId) : Option AssignmentRecord :=
  (db.assignments.filter fun assignment =>
    assignment.runId == runId && assignment.taskId == taskId).getLast?

/-- The recorded creation times of a task's assignments follow the order of their creation. -/
def CreatedInOrder (db : Db) : Prop :=
  (db.assignments.map (·.origin)).Pairwise fun earlier later =>
    earlier.runId = later.runId → earlier.taskId = later.taskId →
      earlier.createdAt ≤ later.createdAt

/-- In that order, the assignment that counts as the latest is the newest. -/
theorem CreatedInOrder.latestAssignment {db : Db} (h : db.CreatedInOrder) (runId : RunId)
    (taskId : TaskId) :
    db.latestAssignmentForTask runId taskId = db.newestAssignment runId taskId := by
  apply Table.latestBy_eq_getLast?
  rw [List.pairwise_filter]
  refine (List.pairwise_map.mp h).imp ?_
  intro earlier later hle hearlier hlater
  simp only [Bool.and_eq_true, beq_iff_eq] at hearlier hlater
  exact hle (hearlier.1.trans hlater.1.symm) (hearlier.2.trans hlater.2.symm)

/-- No assignment was added, and none lost its identity, its task or its creation time. -/
def OriginsKept (db db' : Db) : Prop :=
  db'.assignments.map (·.origin) = db.assignments.map (·.origin)

end Db

instance : Std.Refl Db.OriginsKept where
  refl _ := rfl

instance : IsTrans Db Db.OriginsKept where
  trans _ _ _ hab hbc := Eq.trans hbc hab

/-! ## The functions that keep the assignments -/

theorem originsKept_of_writes {α : Type} {x : Repo α} (tables : List TableName)
    (hno : .assignments ∉ tables)
    (h : Tx.Keeps (Written tables) x) : Tx.Keeps Db.OriginsKept x :=
  h.mono fun db db' hw => by
    have hsame : db'.assignments = db.assignments := hw.writesOnly .assignments hno
    unfold Db.OriginsKept
    rw [hsame]

theorem originsKept_of_drains {α : Type} {x : Repo α} (h : Tx.Keeps Db.DrainsTo x) :
    Tx.Keeps Db.OriginsKept x := by
  refine h.mono ?_
  rintro db db' ⟨rows, hdrained, hboard⟩
  have hrows : db'.assignments = rows := congrArg Board.assignments hboard
  unfold Db.OriginsKept
  rw [hrows]
  refine Table.map_eq_of_forall₂ ?_ hdrained
  rintro row row' (_ | _) <;> rfl

theorem releaseTaskOwnership_originsKept (mutation : TaskTransitionMutation) :
    Tx.Keeps Db.OriginsKept (releaseTaskOwnership mutation) := by
  unfold releaseTaskOwnership
  split
  · exact .throw _
  · refine .bind (.read _) fun _ => .bind (.read _) fun _ => .bind (.write fun db => ?_)
      fun _ => .when (.throw _)
    apply Table.map_updateWhere
    intro row _
    rfl

theorem applyTaskTransition_originsKept (mutation : TaskTransitionMutation) :
    Tx.Keeps Db.OriginsKept (applyTaskTransition mutation) := by
  refine .bind (.read _) fun task? => ?_
  split
  · exact .pure _
  · split
    · exact .pure _
    · refine .bind (.read _) fun _ => .ite (.pure _) ?_
      exact .bind (.when (releaseTaskOwnership_originsKept mutation)) fun _ =>
        .bind (.write fun _ => rfl) fun _ => .pure _

theorem transitionTaskBody_originsKept (mutation : TaskTransitionMutation) :
    Tx.Keeps Db.OriginsKept (transitionTaskBody mutation) := by
  refine .bind (.read _) fun _ => .bind (.read _) fun _ =>
    .bind (applyTaskTransition_originsKept mutation) fun result => ?_
  cases result with
  | rejected => exact .pure _
  | transitioned previousStatus status =>
      exact originsKept_of_writes [.events] (by decide) (.bind (.read _) fun _ => .bind (.okOr _ _) fun _ =>
        .bind (writes_appendEvent _ rfl) fun _ =>
          .bind (.when (writes_appendReleaseEvents _ _ _ _)) fun _ => .pure _)

theorem recoverAssignment_originsKept (mutation : Mutation) (assignmentId : AssignmentId)
    (reason : String) (document brief : JsonValue) (acknowledgeLost : Bool) :
    Tx.Keeps Db.OriginsKept
      (recoverAssignment mutation assignmentId reason document brief acknowledgeLost) := by
  refine .bind (.read _) fun _ => .bind (.ofExcept _) fun _ => .bind (.okOr _ _) fun _ => ?_
  refine .bind (originsKept_of_writes [.recoveryHandoffs] (by decide) (writes_insertRecoveryHandoff _))
    fun _ => .bind (applyTaskTransition_originsKept _) fun _ => ?_
  exact originsKept_of_writes [.events, .recoveries] (by decide)
    (.bind writes_recoveryEvents fun _ => .pure _)

theorem submitRetained_originsKept (mutation : Mutation) (submission : RetainedSubmission) :
    Tx.Keeps Db.OriginsKept (submitRetained mutation submission) := by
  refine .bind (.read _) fun _ => .bind (.ofExcept _) fun _ => ?_
  refine .bind (originsKept_of_writes [.workspaces] (by decide) (writes_recordWorkspaceResultCommit _ _))
    fun _ => .bind (applyTaskTransition_originsKept _) fun _ => ?_
  exact originsKept_of_writes [.events] (by decide)
    (.bind writes_retainedEvents fun _ => .pure _)

theorem applyResubmission_originsKept (mutation : Mutation) (submission : Resubmission) :
    Tx.Keeps Db.OriginsKept (applyResubmission mutation submission) := by
  refine .bind (.read _) fun _ => .bind (.ofExcept _) fun _ => .bind (.okOr _ _) fun _ => ?_
  refine .bind (originsKept_of_writes [.events] (by decide) (writes_appendEvent _ rfl)) fun _ => ?_
  refine .bind (.write fun _ => rfl) fun _ => .bind (.write fun db => ?_) fun _ =>
    .bind (.write fun _ => rfl) fun _ => .pure _
  apply Table.map_updateWhere
  intro row _
  rfl

theorem persistLaunchIntent_originsKept (launch : AgentLaunch) (agentExists : Bool)
    (assignmentId : Option AssignmentId) :
    Tx.Keeps Db.OriginsKept (persistLaunchIntent launch agentExists assignmentId) := by
  refine .bind (originsKept_of_writes [.agents, .agentScopes, .events] (by decide)
    (writes_prepareLaunchAgent _ _ _))
    fun _ => .bind (originsKept_of_writes [.sessions, .sessionScopes, .sessionCredentials] (by decide)
      (writes_openSession _ _)) fun _ =>
        .bind (originsKept_of_writes [.events] (by decide) (writes_appendEvent _ rfl)) fun _ => ?_
  cases assignmentId with
  | none => exact .pure _
  | some id =>
      refine .bind (.bind (.require _ _) fun _ => .bind (.require _ _) fun _ =>
        .write fun db => ?_) fun _ => ?_
      · apply Table.map_updateWhere
        intro row _
        rfl
      · exact originsKept_of_writes [.events] (by decide) (.bind (.read _) fun _ => .bind (.okOr _ _)
          fun _ => .bind (.read _) fun _ => .bind (.okOr _ _) fun _ => writes_appendEvent _ rfl)

/-- A mutation keeps what its closure keeps. -/
theorem mutationBody_originsKept {α : Type} {codec : Codec α} {mutation : Mutation}
    {requestFingerprint : Option String} {apply : Repo α}
    (happly : Tx.Keeps Db.OriginsKept apply) :
    Tx.Keeps Db.OriginsKept (mutationBody codec mutation requestFingerprint apply) := by
  refine .bind (.read _) fun found => ?_
  cases found with
  | some existing => exact originsKept_of_writes [] (by decide) writes_replayOperation
  | none =>
      refine .bind (originsKept_of_writes [.operations, .launches] (by decide)
        (writes_insertOperation _ (.inr Listed.mem))) fun _ => ?_
      exact .bind (.write fun _ => rfl) fun _ => .bind happly fun _ => .bind (.ofExcept _)
        fun _ => .bind (.write fun _ => rfl) fun _ => .pure _

namespace Command

/-- The claim of a command that makes one. -/
def claim? : Command → Option ClaimTaskMutation
  | .claimTask claim => some claim
  | .spawnAgent ctx spawn => some (spawn.claim ctx)
  | _ => none

theorem mutated_originsKept {mutation : Mutation} {requestFingerprint : Option String}
    {apply : Repo JsonValue} (happly : Tx.Keeps Db.OriginsKept apply) :
    Tx.Keeps Db.OriginsKept (mutated mutation requestFingerprint apply) :=
  .bind (mutationBody_originsKept happly) fun _ => .pure _

/-- A command without a claim keeps the assignments. -/
theorem keeps_origins {command : Command} (h : command.claim? = none) :
    Tx.Keeps Db.OriginsKept command.body := by
  cases command
  case claimTask => cases h
  case spawnAgent => cases h
  case transitionTask transition requestFingerprint =>
    refine .bind (.bind (.okOr _ _) fun transition => mutationBody_originsKept ?_) fun _ =>
      .pure _
    exact .bind (transitionTaskBody_originsKept transition) fun _ => .pure _
  case recoverTask =>
    exact mutated_originsKept (.bind (recoverAssignment_originsKept _ _ _ _ _ _) fun _ =>
      .pure _)
  case submitRetained => exact mutated_originsKept (submitRetained_originsKept _ _)
  case resubmitTask =>
    exact mutated_originsKept (.bind (applyResubmission_originsKept _ _) fun _ => .pure _)
  case persistLaunchIntent => exact persistLaunchIntent_originsKept _ _ _
  case requestControls => exact originsKept_of_drains (requestControls_drains _ _ _)
  case beginRunShutdown => exact originsKept_of_drains (beginRunShutdown_drains _ _ _ _ _)
  case stopIdleRun => exact originsKept_of_drains (stopIdleRun_drains _ _ _ _ _ _)
  -- the other commands do not write the assignments
  all_goals
    exact originsKept_of_writes _ (by dsimp only [Command.writes]; decide) (keeps_writes _)

end Command

/-! ## Claims -/

/-- The assignments after are those before, possibly with the assignment of one claim behind
    them. -/
def Db.MayAssign (claim : ClaimTaskMutation) (db db' : Db) : Prop :=
  db'.assignments = db.assignments ∨
    ∃ claimId generation,
      db'.assignments = db.assignments ++ [claim.assignmentRecord claimId generation]

theorem compareAndSetClaim_mayAssign (claim : ClaimTaskMutation) :
    Tx.Ensures (Db.MayAssign claim) (compareAndSetClaim claim) := by
  intro db result db' h
  rcases compareAndSetClaim_ok h with ⟨_, -, rfl⟩ | ⟨generation, _, -, -, -, -, rfl⟩
  · exact .inl rfl
  · exact .inr ⟨db.nextClaimId, generation, rfl⟩

theorem mayAssign_unseen (claim : ClaimTaskMutation) (tables : List TableName)
    (hno : .assignments ∉ tables) : Unseen tables (Db.MayAssign claim) where
  still hw := .inl (hw .assignments hno)
  before := by
    intro s t u hw h
    have hsame : t.assignments = s.assignments := hw .assignments hno
    unfold Db.MayAssign at h ⊢
    rw [← hsame]
    exact h
  after := by
    intro s t u h hw
    have hsame : u.assignments = t.assignments := hw .assignments hno
    unfold Db.MayAssign at h ⊢
    rw [hsame]
    exact h

namespace Command

/-- A command with a claim adds at most the assignment of the claim. -/
theorem body_mayAssign {command : Command} {claim : ClaimTaskMutation}
    (h : command.claim? = some claim) : Tx.Ensures (Db.MayAssign claim) command.body := by
  have hops := mayAssign_unseen claim [.operations, .launches, .outcomes] (by decide)
  have hrest := mayAssign_unseen claim
    [.agents, .agentScopes, .workspaces, .operations, .events, .continuations] (by decide)
  cases command
  case claimTask =>
    cases h
    refine hops.bind_after (hops.mutationBody ?_) fun _ => .pure _
    exact hrest.bind_after (compareAndSetClaim_mayAssign claim) fun result =>
      .bind (writes_appendTaskClaimEvents _ _) fun _ => .pure _
  case spawnAgent ctx spawn =>
    cases h
    refine hops.bind_after (hops.mutationBody ?_) fun _ => .pure _
    refine hrest.bind (writes_insertAgent _) fun _ => hrest.bind (writes_appendEvent _ rfl) fun _ => ?_
    refine hrest.bind_after (compareAndSetClaim_mayAssign _) fun result =>
      .bind (writes_appendTaskClaimEvents _ _) fun _ => ?_
    cases result with
    | rejected => exact .throw _
    | claimed =>
        exact .bind (writes_insertSpawnWorkspace _ _) fun _ =>
          .bind (writes_markOperationReconciliationDesired _) fun _ => .pure _
  all_goals cases h

/-- What a command does to the assignments. -/
theorem exec_assignments (command : Command) (db : Db) :
    db.OriginsKept (command.exec db) ∨
      ∃ claim claimId generation, command.claim? = some claim ∧
        (command.exec db).assignments =
          db.assignments ++ [claim.assignmentRecord claimId generation] := by
  cases hclaim : command.claim? with
  | none => exact .inl (Tx.Keeps.transaction (keeps_origins hclaim) db)
  | some claim =>
      unfold exec
      rcases Tx.transaction_cases command.body db with ⟨u, db', hrun, hok⟩ | ⟨e, -, herror⟩
      · rw [hok]
        rcases body_mayAssign hclaim db u db' hrun with hsame | ⟨claimId, generation, hnew⟩
        · left
          unfold Db.OriginsKept
          rw [hsame]
        · exact .inr ⟨claim, claimId, generation, rfl, hnew⟩
      · rw [herror]
        exact .inl rfl

/-- The clock of a command that claims a task does not read less than it did at the earlier claims
    of the task. -/
def ClaimedInOrder (db : Db) (command : Command) : Prop :=
  ∀ claim, command.claim? = some claim →
    ∀ assignment ∈ db.assignments, assignment.runId = claim.runId →
      assignment.taskId = claim.taskId → assignment.createdAt ≤ claim.claimedAt

instance (db : Db) (command : Command) : Decidable (ClaimedInOrder db command) :=
  inferInstanceAs (Decidable (∀ claim ∈ command.claim?, _))

end Command

theorem createdInOrder_empty : Db.empty.CreatedInOrder :=
  List.Pairwise.nil

theorem createdInOrder_step {db : Db} {command : Command} (h : db.CreatedInOrder)
    (horder : Command.ClaimedInOrder db command) : (command.exec db).CreatedInOrder := by
  rcases command.exec_assignments db with hkept | ⟨claim, claimId, generation, hclaim, hnew⟩
  · unfold Db.OriginsKept at hkept
    unfold Db.CreatedInOrder
    rw [hkept]
    exact h
  · unfold Db.CreatedInOrder
    rw [hnew, List.map_append, List.pairwise_append]
    refine ⟨h, List.pairwise_singleton _ _, ?_⟩
    intro earlier hearlier later hlater hrun htask
    obtain ⟨assignment, hassignment, rfl⟩ := List.mem_map.mp hearlier
    rw [List.map_singleton, List.mem_singleton] at hlater
    subst hlater
    exact horder claim hclaim assignment hassignment hrun htask

/-- In a run whose claims follow the clock, creation times follow the order of creation. -/
theorem createdInOrder_run {commands : List Command}
    (h : storeMachine.Meets Command.ClaimedInOrder .empty commands) :
    (storeMachine.run commands).CreatedInOrder :=
  Machine.invariant_runFrom (m := storeMachine) (I := Db.CreatedInOrder)
    (fun _ _ hI horder => createdInOrder_step hI horder) createdInOrder_empty h

end Coterie
