/-
  Coterie.Supervisor.Idle

  The idle timer (`supervisor/idle.rs`, `state/supervision.rs`: `idle_shutdown_cursor`).  At every
  poll of the supervisor the timer reads whether inactivity is positively established, and at which
  event of the run.  It keeps one cursor and one instant, and begins to stop the run when the cursor
  it reads has been the same for the configured time.

  The timer as a machine: time passes, the store changes in any way, processes start and die, and
  polls are taken with any reading of the wall clock and any point of failure.  A poll that fails
  ends the process (`supervisor.rs`: `serve_listener`), and with it what the timer remembers.
-/

import Coterie.Base.Machine
import Coterie.Config.Resolver
import Coterie.State.Notifications
import Coterie.Supervisor.Controls
import Coterie.Tasks.Refinement

namespace Coterie

/-! ## When a run is idle -/

namespace Db

/-- No row of the run stands in the way of an idle stop. -/
def idleEligible (db : Db) (runId : RunId) : Bool :=
  db.runIsActive runId &&
    !db.runShutdowns.any (·.runId == runId) &&
    !db.sessions.any (fun row => row.runId == runId &&
      (row.state != .exited || row.reconciliationState != .observed)) &&
    !db.agents.any (fun row => row.runId == runId &&
      (row.state == .starting || row.state == .running || row.state == .unknown)) &&
    !db.operations.any (fun row => row.runId == runId &&
      (row.status == .pending || row.reconciliationState == some .desired ||
        row.reconciliationState == some .unknown)) &&
    !db.sessionControls.any (fun row => row.scope.runId == runId && row.phase != .completed) &&
    !db.workspaces.any (fun row => row.runId == runId &&
      (row.state == .desired || row.state == .unknown))

/-- Returns an event cursor only when inactivity is positively established. -/
def idleShutdownCursor (db : Db) (runId : RunId) : Option Nat :=
  if db.idleEligible runId = true then some (db.lastEventSequence runId) else none

/-- The run is idle: active, not being stopped, and with nothing live, pending or uncertain. -/
structure Idle (db : Db) (runId : RunId) : Prop where
  active : db.runIsActive runId = true
  noShutdown : ∀ row ∈ db.runShutdowns, row.runId ≠ runId
  sessions : ∀ row ∈ db.sessions, row.runId = runId →
    row.state = .exited ∧ row.reconciliationState = .observed
  agents : ∀ row ∈ db.agents, row.runId = runId →
    row.state ≠ .starting ∧ row.state ≠ .running ∧ row.state ≠ .unknown
  operations : ∀ row ∈ db.operations, row.runId = runId →
    row.status ≠ .pending ∧ row.reconciliationState ≠ some .desired ∧
      row.reconciliationState ≠ some .unknown
  controls : ∀ row ∈ db.sessionControls, row.scope.runId = runId → row.phase = .completed
  workspaces : ∀ row ∈ db.workspaces, row.runId = runId →
    row.state ≠ .desired ∧ row.state ≠ .unknown

/-- The query asks for what it means to be idle. -/
theorem idleEligible_iff {db : Db} {runId : RunId} :
    db.idleEligible runId = true ↔ db.Idle runId := by
  simp only [idleEligible, Bool.and_eq_true, Bool.not_eq_true', List.any_eq_false, beq_iff_eq,
    bne_iff_ne, Bool.or_eq_true, not_and, not_or, not_not]
  constructor
  · rintro ⟨⟨⟨⟨⟨⟨hactive, hshutdown⟩, hsessions⟩, hagents⟩, hoperations⟩, hcontrols⟩,
      hworkspaces⟩
    refine ⟨hactive, hshutdown, hsessions, fun row hrow hrun => ?_, fun row hrow hrun => ?_,
      hcontrols, hworkspaces⟩
    · obtain ⟨⟨hstarting, hrunning⟩, hunknown⟩ := hagents row hrow hrun
      exact ⟨hstarting, hrunning, hunknown⟩
    · obtain ⟨⟨hpending, hdesired⟩, hunknown⟩ := hoperations row hrow hrun
      exact ⟨hpending, hdesired, hunknown⟩
  · intro h
    refine ⟨⟨⟨⟨⟨⟨h.active, h.noShutdown⟩, h.sessions⟩, fun row hrow hrun => ?_⟩,
      fun row hrow hrun => ?_⟩, h.controls⟩, h.workspaces⟩
    · obtain ⟨hstarting, hrunning, hunknown⟩ := h.agents row hrow hrun
      exact ⟨⟨hstarting, hrunning⟩, hunknown⟩
    · obtain ⟨hpending, hdesired, hunknown⟩ := h.operations row hrow hrun
      exact ⟨⟨hpending, hdesired⟩, hunknown⟩

/-- The run is idle, and this is its last event. -/
def IdleAt (db : Db) (runId : RunId) (cursor : Nat) : Prop :=
  db.Idle runId ∧ db.lastEventSequence runId = cursor

theorem idleShutdownCursor_eq_some {db : Db} {runId : RunId} {cursor : Nat} :
    db.idleShutdownCursor runId = some cursor ↔ db.IdleAt runId cursor := by
  rw [idleShutdownCursor, IdleAt, ← idleEligible_iff]
  by_cases h : db.idleEligible runId = true
  · rw [if_pos h]
    simp [h]
  · rw [if_neg h]
    simp [h]

end Db

/-! ## The timer -/

/-- A reading of the monotonic clock. -/
structure Instant where
  nanoseconds : Nat
deriving DecidableEq, Repr

/-- The whole seconds from an earlier reading to this one; none when it is not earlier. -/
def Instant.secondsSince (now since : Instant) : Nat :=
  (now.nanoseconds - since.nanoseconds) / 1000000000

/-- What the timer remembers: since when the run was found idle at the same event. -/
structure IdleShutdown where
  policy : SupervisionBounds
  observed : Option (Nat × Instant)
deriving DecidableEq, Repr

namespace IdleShutdown

/-- The timer of a new process. -/
def new (policy : SupervisionBounds) : IdleShutdown where
  policy := policy
  observed := none

/-- The observation that a poll leaves behind when it found the run idle. -/
def observe (idle : IdleShutdown) (cursor : Nat) (now : Instant) : Nat × Instant :=
  let held := idle.observed.getD (cursor, now)
  if held.1 ≠ cursor then (cursor, now) else held

/-- Whether the run has been idle for long enough, and the timer after the poll. -/
def due (idle : IdleShutdown) (cursor : Option Nat) (now : Instant) : Bool × IdleShutdown :=
  match cursor.filter fun _ => 0 < idle.policy.idleTimeoutSeconds with
  | none => (false, { idle with observed := none })
  | some cursor =>
      let observed := idle.observe cursor now
      (idle.policy.idleTimeoutSeconds.toNat ≤ now.secondsSince observed.2,
        { idle with observed := some observed })

/-- What is observed is observed of the cursor that was read. -/
theorem observe_fst (idle : IdleShutdown) (cursor : Nat) (now : Instant) :
    (idle.observe cursor now).1 = cursor := by
  unfold observe
  dsimp only
  split
  · rfl
  · next hsame => exact not_not.mp hsame

variable {idle : IdleShutdown} {cursor : Option Nat} {now : Instant}

/-- A poll that finds the run idle while the timer is in use. -/
theorem due_idle {found : Nat} (htimeout : 0 < idle.policy.idleTimeoutSeconds) :
    idle.due (some found) now =
      (decide (idle.policy.idleTimeoutSeconds.toNat ≤
          now.secondsSince (idle.observe found now).2),
        { idle with observed := some (idle.observe found now) }) := by
  rw [due, Option.filter_some, if_pos (decide_eq_true htimeout)]

@[simp]
theorem due_policy : (idle.due cursor now).2.policy = idle.policy := by
  unfold due
  split <;> rfl

/-- What is observed after a poll was read by it: before it already, or now for the first time. -/
theorem observed_of_due {found : Nat} {since : Instant}
    (h : (idle.due cursor now).2.observed = some (found, since)) :
    cursor = some found ∧ 0 < idle.policy.idleTimeoutSeconds ∧
      (idle.observed = some (found, since) ∨ since = now) := by
  unfold due at h
  split at h
  · cases h
  · next read hread =>
      obtain ⟨hcursor, htimeout⟩ := Option.filter_eq_some_iff.mp hread
      have hobserve : idle.observe read now = (found, since) := Option.some.inj h
      refine ⟨?_, of_decide_eq_true htimeout, ?_⟩
      · rw [hcursor, ← idle.observe_fst read now, hobserve]
      · unfold observe at hobserve
        dsimp only at hobserve
        split at hobserve
        · exact .inr (congrArg Prod.snd hobserve).symm
        · cases hheld : idle.observed with
          | none =>
              rw [hheld, Option.getD_none] at hobserve
              exact .inr (congrArg Prod.snd hobserve).symm
          | some held =>
              rw [hheld, Option.getD_some] at hobserve
              exact .inl (congrArg some hobserve)

/-- A stop is due when what is observed after the poll is old enough. -/
theorem due_eq_true (h : (idle.due cursor now).1 = true) :
    ∃ found since, (idle.due cursor now).2.observed = some (found, since) ∧
      idle.policy.idleTimeoutSeconds.toNat ≤ now.secondsSince since := by
  unfold due at h ⊢
  split at h
  · cases h
  · next read _ => exact ⟨_, _, rfl, of_decide_eq_true h⟩

/-- The timer keeps what it observed as long as the cursor stays. -/
theorem observe_kept {found : Nat} {since : Instant}
    (h : idle.observed = some (found, since)) : idle.observe found now = (found, since) := by
  rw [observe, h]
  simp

end IdleShutdown

/-! ## A poll -/

/-- The bounds that the recorded times of a stop need: the interrupt comes before the deadline. -/
structure SupervisionBounds.Accepted (policy : SupervisionBounds) : Prop where
  grace : 0 < policy.interruptGraceMs
  timeout : policy.interruptGraceMs < policy.shutdownTimeoutMs

/-- A bound that a layer may set is positive when it was. -/
theorem applyBound_pos {field : String} {input : Option Int} {current value : Int}
    (hcurrent : 0 < current) (h : applyBound field input current = .ok value) : 0 < value := by
  unfold applyBound at h
  cases input with
  | none =>
      rw [← Except.ok.inj h]
      exact hcurrent
  | some given =>
      dsimp only at h
      split at h
      · cases h
      · next hbounds =>
          rw [← Except.ok.inj h]
          omega

/-- The policy that a configuration is resolved to is an accepted one. -/
theorem resolveSupervision_accepted {policy policy' : SupervisionBounds}
    {input : SupervisionOverrides} (hpolicy : policy.Accepted)
    (h : resolveSupervision policy input = .ok policy') : policy'.Accepted := by
  obtain ⟨_, -, h⟩ := Except.bind_eq_ok.mp h
  obtain ⟨_, -, h⟩ := Except.bind_eq_ok.mp h
  obtain ⟨_, -, h⟩ := Except.bind_eq_ok.mp h
  obtain ⟨_, -, h⟩ := Except.bind_eq_ok.mp h
  obtain ⟨_, -, h⟩ := Except.bind_eq_ok.mp h
  obtain ⟨grace, hgrace, h⟩ := Except.bind_eq_ok.mp h
  obtain ⟨timeout, -, h⟩ := Except.bind_eq_ok.mp h
  obtain ⟨_, -, h⟩ := Except.bind_eq_ok.mp h
  obtain ⟨_, hrefused, h⟩ := Except.bind_eq_ok.mp h
  have hshorter := Except.refuseIf_eq_ok.mp hrefused
  rw [← Except.ok.inj h]
  exact ⟨applyBound_pos hpolicy.grace hgrace, by dsimp only; omega⟩

theorem compiledDefaults_accepted : compiledDefaults.supervision.Accepted :=
  ⟨by decide, by decide⟩

/-- Where the process dies during a poll, or the database fails: when the run is read, and at the
    fault points of the source. -/
inductive IdleFault where
  | read
  | before
  | written
  | committed
deriving DecidableEq, Repr

/-- Why a poll fails. -/
inductive PollError where
  | clock
  | store (error : StoreError)
  | fault (point : IdleFault)
deriving DecidableEq, Repr

/-- What a poll meets: the milliseconds of the wall clock since the epoch, unless they cannot be
    read; the id that is generated for a stop; and where it fails. -/
structure PollHost where
  timestampMs : Option Nat
  operationId : OperationId
  fault : Option IdleFault
deriving DecidableEq, Repr

/-- A point of the poll at which the host may fail. -/
def PollHost.reaches (host : PollHost) (point : IdleFault) : Tx Db PollError Unit :=
  Tx.require (.fault point) fun _ => host.fault != some point

/-- A computation of the repositories, as a part of the poll. -/
def storing {α : Type} (x : Repo α) : Tx Db PollError α :=
  ⟨fun db => ((x.run db).1.mapError .store, (x.run db).2)⟩

/-- The stop that a poll writes when it is due. -/
def writeIdleStop (policy : SupervisionBounds) (runId : RunId) (host : PollHost) (nowMs : Int) :
    Tx Db PollError Unit := do
  host.reaches .before
  storing (stopIdleRun runId host.operationId nowMs policy.interruptGraceMs
    policy.shutdownTimeoutMs policy.idleTimeoutSeconds)
  host.reaches .written

/-- The transaction of a poll that is due, and the process after it. -/
def recordDueStop (policy : SupervisionBounds) (runId : RunId) (host : PollHost) (nowMs : Int) :
    Tx Db PollError Bool := do
  Tx.transaction (writeIdleStop policy runId host nowMs)
  host.reaches .committed
  pure true

/-- What a poll comes to: whether it began to stop the run, the timer and the database after it. -/
structure PollResult where
  outcome : Except PollError Bool
  idle : IdleShutdown
  db : Db

/-- One poll.  The timer is updated inside the transaction and keeps what it read when the
    transaction is taken back. -/
def IdleShutdown.beginIfDue (idle : IdleShutdown) (runId : RunId) (now : Instant)
    (host : PollHost) (db : Db) : PollResult :=
  if idle.policy.idleTimeoutSeconds = 0 then ⟨.ok false, idle, db⟩
  else
    match host.timestampMs with
    | none => ⟨.error .clock, idle, db⟩
    | some nowMs =>
        if host.fault = some .read then ⟨.error (.fault .read), idle, db⟩
        else
          let due := idle.due (db.idleShutdownCursor runId) now
          if due.1 = false then ⟨.ok false, due.2, db⟩
          else
            let recorded := (recordDueStop idle.policy runId host nowMs).run db
            ⟨recorded.1, due.2, recorded.2⟩

/-! ## Recording a stop -/

/-- A stop that fails to be recorded leaves no trace, unless the process dies after the commit. -/
theorem recordDueStop_error {policy : SupervisionBounds} {runId : RunId} {host : PollHost}
    {nowMs : Int} {db db' : Db} {error : PollError}
    (h : (recordDueStop policy runId host nowMs).run db = (.error error, db'))
    (hcommit : error ≠ .fault .committed) : db' = db := by
  rcases Tx.bind_eq_error.mp h with hwrite | ⟨_, db₁, -, hrest⟩
  · rcases Tx.transaction_cases (writeIdleStop policy runId host nowMs) db with
      ⟨_, _, -, hdone⟩ | ⟨_, -, hundone⟩
    · rw [hdone] at hwrite
      cases hwrite
    · rw [hundone] at hwrite
      exact (congrArg Prod.snd hwrite).symm
  · rcases Tx.bind_eq_error.mp hrest with hpoint | ⟨_, _, -, hpure⟩
    · obtain ⟨-, herror, -⟩ := Tx.require_eq_error.mp hpoint
      exact absurd herror.symm hcommit
    · cases hpure

/-- The poll can record a stop: the wall clock is read and is not at the end of its range, no row
    has the generated id, and nothing fails. -/
structure PollHost.CanRecord (host : PollHost) (policy : SupervisionBounds) (db : Db) : Prop where
  clock : ∃ nowMs, host.timestampMs = some nowMs ∧ nowMs + policy.shutdownTimeoutMs ≤ i64Max
  operation : ∀ row ∈ db.operations, row.id ≠ host.operationId
  shutdown : ∀ row ∈ db.runShutdowns, row.operationId ≠ host.operationId
  noFault : host.fault = none

/-- What the stop has left in a store: the shutdown of the run under the operation. -/
structure Db.StopOpened (db : Db) (runId : RunId) (operationId : OperationId) : Prop where
  run : db.runs.any (·.id == runId) = true
  operation : db.operations.any (fun row => row.id == operationId && row.runId == runId) = true
  shutdown : ∃ row ∈ db.runShutdowns, row.runId = runId ∧ row.operationId = operationId

/-- Requests that concern neither operations nor shutdowns leave the stop open. -/
theorem Db.StopOpened.after {db db' : Db} {runId : RunId} {operationId : OperationId}
    (h : db.StopOpened runId operationId) (hstep : db.ControlStep True db')
    (hoperations : db'.operations = db.operations) : db'.StopOpened runId operationId where
  run := by
    rw [hstep.runs]
    exact h.run
  operation := by
    rw [hoperations]
    exact h.operation
  shutdown := by
    rw [hstep.runShutdowns]
    exact h.shutdown

/-- An event about the opened stop is appended. -/
theorem Db.StopOpened.appendEvent {db : Db} {event : NewEvent} {operationId : OperationId}
    (h : db.StopOpened event.runId operationId) (hkind : event.kind ≠ .taskRecovered)
    (hproject : event.projectId = none) (hagent : event.agentId = none)
    (htask : event.taskId = none) (hoperation : event.operationId = some operationId)
    (hpart : event.part = none) :
    Tx.Succeeds (fun _ db' => db.ControlStep True db' ∧ db'.operations = db.operations)
      (Coterie.appendEvent event) db := by
  have hreferences : db.eventReferencesHold event = true := by
    simp only [Db.eventReferencesHold, hproject, hagent, htask, hoperation, Option.all_none,
      Option.all_some, Bool.and_true, h.run, h.operation]
  have hwrites : Tx.Keeps (Written [.events]) (Coterie.appendEvent event) :=
    writes_appendEvent event hpart
  have happend : Tx.Succeeds (fun _ db' => db.ControlStep True db')
      (Coterie.appendEvent event) db :=
    appendEvent_succeeds hreferences hkind
  refine (happend.keeps hwrites).mono ?_
  rintro _ db' ⟨hstep, hwritten⟩
  exact ⟨hstep, hwritten.writesOnly.same .operations (by decide)⟩

/-- The assignments of the run's agents are drained. -/
theorem drainAgents_succeeds {runId : RunId} {operationId : OperationId} (nowMs : Int) {db : Db}
    (hopened : db.StopOpened runId operationId) (hrefer : db.AssignmentsReferToTasks) :
    Tx.Succeeds (fun _ db' => db'.StopOpened runId operationId)
      (Tx.each (fun agent => drainAgent runId agent.id nowMs) (db.agentsOf runId)) db := by
  refine (Tx.Succeeds.each (I := fun t => db.ControlStep True t ∧ t.operations = db.operations)
    (P := fun _ _ => True) (fun agent hagent t ⟨hstep, hoperations⟩ => ?_)
    ⟨.refl db, rfl⟩).mono ?_
  · have hrun : t.runs.any (·.id == runId) = true := by
      rw [hstep.runs]
      exact hopened.run
    have hmem : t.agents.any (fun row => row.id == agent.id && row.runId == runId) = true := by
      rw [hstep.agents, List.any_eq_true]
      obtain ⟨hrow, hof⟩ := List.mem_filter.mp (List.mem_mergeSort.mp hagent)
      exact ⟨agent, hrow, by rw [hof, beq_self_eq_true, Bool.and_self]⟩
    have hwrites : Tx.Keeps (Written [.assignments, .events, .drains])
        (drainAgent runId agent.id nowMs) := writes_drainAgent _ _ _
    refine ((drainAgent_succeeds True nowMs hrun hmem (hstep.assignments hrefer)).keeps
      hwrites).mono ?_
    rintro _ t' ⟨hstep', hwritten⟩
    refine ⟨⟨hstep.trans hstep', ?_⟩, trivial, fun _ _ => trivial⟩
    rw [hwritten.writesOnly.same .operations (by decide)]
    exact hoperations
  · rintro _ db' ⟨⟨hstep, hoperations⟩, -, -⟩
    exact hopened.after hstep hoperations

/-- A stop of an active run under a fresh operation is opened. -/
theorem openRunShutdown_succeeds {runId : RunId} {operationId : OperationId}
    {nowMs graceMs timeoutMs : Int} {db : Db} (hactive : db.runIsActive runId = true)
    (hnone : ∀ row ∈ db.runShutdowns, row.runId ≠ runId)
    (hoperation : ∀ row ∈ db.operations, row.id ≠ operationId)
    (hshutdown : ∀ row ∈ db.runShutdowns, row.operationId ≠ operationId)
    (hrefer : db.AssignmentsReferToTasks) (hnow : 0 ≤ nowMs) (hgrace : 0 < graceMs)
    (htimeout : graceMs < timeoutMs) (hrange : nowMs + timeoutMs ≤ i64Max) :
    Tx.Succeeds (fun _ db' => db'.StopOpened runId operationId)
      (openRunShutdown runId operationId nowMs graceMs timeoutMs) db := by
  have hrun : db.runs.any (·.id == runId) = true := by
    obtain ⟨run, hfound, -⟩ := (Option.any_eq_true _ _).mp hactive
    have hid := List.find?_some hfound
    exact List.any_eq_true.mpr ⟨run, List.mem_of_find?_eq_some hfound, hid⟩
  have hmin : i64Min < 0 := by decide
  -- the operation, then its shutdown
  let opened := db.pushOperation (runStopOperation runId operationId nowMs)
  have hinsert : Tx.Succeeds (fun _ db' => db' = opened)
      (insertOperation (runStopOperation runId operationId nowMs)) db := by
    refine .require_bind ?_ (.require_bind hrun (.require_bind rfl (.require_bind rfl
      (.write rfl))))
    rw [Bool.not_eq_true', List.any_eq_false]
    intro row hrow hid
    exact hoperation row hrow (beq_iff_eq.mp hid)
  refine .bind hinsert ?_
  rintro _ _ rfl
  let shutdown : RunShutdown :=
    { runId, operationId, phase := .interrupting, requestedAtMs := nowMs,
      interruptUntilMs := saturate (nowMs + graceMs), deadlineMs := saturate (nowMs + timeoutMs) }
  let stopping := { opened with runShutdowns := opened.runShutdowns ++ [shutdown] }
  have hexists : opened.operations.any
      (fun row => row.id == operationId && row.runId == runId) = true := by
    rw [List.any_eq_true]
    refine ⟨(runStopOperation runId operationId nowMs).row,
      List.mem_append_right _ (List.mem_singleton_self _), ?_⟩
    simp [OperationRecord.row, runStopOperation]
  have hinsert' : Tx.Succeeds (fun _ db' => db' = stopping) (insertRunShutdown shutdown)
      opened := by
    refine .require_bind ?_ (.require_bind ?_ (.require_bind ?_ (.require_bind hexists
      (.write rfl))))
    · rw [Bool.not_eq_true', List.any_eq_false]
      intro row hrow hid
      exact hnone row hrow (beq_iff_eq.mp hid)
    · rw [Bool.not_eq_true', List.any_eq_false]
      intro row hrow hid
      exact hshutdown row hrow (beq_iff_eq.mp hid)
    · -- nothing saturates, so the times stand in the order of the policy
      rw [Bool.and_eq_true, decide_eq_true_eq, decide_eq_true_eq]
      change nowMs ≤ saturate (nowMs + graceMs) ∧
        saturate (nowMs + graceMs) < saturate (nowMs + timeoutMs)
      unfold saturate
      omega
  refine .bind hinsert' ?_
  rintro _ _ rfl
  have hopened : stopping.StopOpened runId operationId :=
    ⟨hrun, hexists, shutdown, List.mem_append_right _ (List.mem_singleton_self _), rfl, rfl⟩
  refine .bind (hopened.appendEvent (by intro h; cases h) rfl rfl rfl rfl rfl) ?_
  rintro _ db₁ ⟨hstep, hoperations⟩
  exact .read_bind (drainAgents_succeeds nowMs (hopened.after hstep hoperations)
    (hstep.assignments hrefer))

/-- A stop of an idle run under a fresh operation is recorded. -/
theorem stopIdleRun_succeeds {runId : RunId} {operationId : OperationId}
    {nowMs graceMs timeoutMs idleTimeoutSeconds : Int} {db : Db} (hidle : db.Idle runId)
    (hoperation : ∀ row ∈ db.operations, row.id ≠ operationId)
    (hshutdown : ∀ row ∈ db.runShutdowns, row.operationId ≠ operationId)
    (hrefer : db.AssignmentsReferToTasks) (hnow : 0 ≤ nowMs) (hgrace : 0 < graceMs)
    (htimeout : graceMs < timeoutMs) (hrange : nowMs + timeoutMs ≤ i64Max) :
    Tx.Succeeds (fun _ db' => db'.StopOpened runId operationId)
      (stopIdleRun runId operationId nowMs graceMs timeoutMs idleTimeoutSeconds) db := by
  have hbegin : Tx.Succeeds (fun _ db' => db'.StopOpened runId operationId)
      (beginRunShutdown runId operationId nowMs graceMs timeoutMs) db := by
    refine .read_bind ?_
    have hnone : db.runShutdown runId = none := by
      refine List.find?_eq_none.mpr fun row hrow hid => ?_
      exact hidle.noShutdown row hrow (beq_iff_eq.mp hid)
    rw [hnone]
    refine .require_bind ?_ (.require_bind hidle.active ?_)
    · rw [Option.isNone_iff_eq_none]
      refine List.find?_eq_none.mpr fun row hrow hid => ?_
      exact hoperation row hrow (beq_iff_eq.mp hid)
    · exact openRunShutdown_succeeds hidle.active hidle.noShutdown hoperation hshutdown hrefer hnow
        hgrace htimeout hrange
  refine .bind hbegin fun _ db₁ hopened => ?_
  refine (Db.StopOpened.appendEvent hopened (by intro h; cases h) rfl rfl rfl rfl rfl).mono ?_
  rintro _ db₂ ⟨hstep, hoperations⟩
  exact hopened.after hstep hoperations

/-- A stop that the host can record is recorded. -/
theorem recordDueStop_ok {policy : SupervisionBounds} {runId : RunId} {host : PollHost}
    {nowMs : Nat} {db : Db} (hpolicy : policy.Accepted) (hidle : db.Idle runId)
    (hrefer : db.AssignmentsReferToTasks) (hhost : host.CanRecord policy db)
    (hclock : host.timestampMs = some nowMs) :
    Tx.Succeeds (fun started db' => started = true ∧ db'.StopOpened runId host.operationId)
      (recordDueStop policy runId host nowMs) db := by
  have hrange : (nowMs : Int) + policy.shutdownTimeoutMs ≤ i64Max := by
    obtain ⟨read, hread, hle⟩ := hhost.clock
    obtain rfl : nowMs = read := Option.some.inj (hclock.symm.trans hread)
    exact hle
  have hpoint : ∀ (point : IdleFault), (host.fault != some point) = true := by
    intro point
    rw [hhost.noFault]
    rfl
  have hsucceeds : Tx.Succeeds (fun _ db' => db'.StopOpened runId host.operationId)
      (stopIdleRun runId host.operationId nowMs policy.interruptGraceMs policy.shutdownTimeoutMs
        policy.idleTimeoutSeconds) db :=
    stopIdleRun_succeeds hidle hhost.operation hhost.shutdown hrefer (Int.natCast_nonneg nowMs)
      hpolicy.grace hpolicy.timeout hrange
  obtain ⟨u, db', hstop, hopened⟩ := hsucceeds
  have hstoring : (storing (stopIdleRun runId host.operationId nowMs policy.interruptGraceMs
      policy.shutdownTimeoutMs policy.idleTimeoutSeconds)).run db = (.ok u, db') := by
    unfold storing
    dsimp only
    rw [hstop]
    rfl
  have hwrite : (writeIdleStop policy runId host nowMs).run db = (.ok (), db') := by
    refine Tx.bind_eq_ok.mpr ⟨(), db, Tx.require_eq_ok.mpr ⟨hpoint _, rfl⟩, ?_⟩
    refine Tx.bind_eq_ok.mpr ⟨u, db', hstoring, ?_⟩
    exact Tx.require_eq_ok.mpr ⟨hpoint _, rfl⟩
  refine ⟨true, db', ?_, rfl, hopened⟩
  refine Tx.bind_eq_ok.mpr ⟨(), db', Tx.transaction_eq_ok.mpr hwrite, ?_⟩
  exact Tx.bind_eq_ok.mpr ⟨(), db', Tx.require_eq_ok.mpr ⟨hpoint _, rfl⟩, rfl⟩

/-- Nothing that a poll records makes an assignment refer to a task that is not there. -/
theorem recordDueStop_refers {policy : SupervisionBounds} {runId : RunId} {host : PollHost}
    {nowMs : Int} {db : Db} (hrefer : db.AssignmentsReferToTasks) :
    ((recordDueStop policy runId host nowMs).run db).2.AssignmentsReferToTasks := by
  have hstop : Tx.Keeps Db.DrainsTo (storing (stopIdleRun runId host.operationId nowMs
      policy.interruptGraceMs policy.shutdownTimeoutMs policy.idleTimeoutSeconds)) :=
    stopIdleRun_drains _ _ _ _ _ _
  have hdrains : Tx.Keeps Db.DrainsTo (recordDueStop policy runId host nowMs) :=
    .bind (.transaction (.bind (.require _ _) fun _ => .bind hstop fun _ => .require _ _))
      fun _ => .bind (.require _ _) fun _ => .pure _
  obtain ⟨assignments, hrows, hboard⟩ := hdrains db
  have htasks := congrArg Board.tasks hboard
  have hassignments := congrArg Board.assignments hboard
  simp only [Db.board] at htasks hassignments
  intro row hrow
  rw [hassignments] at hrow
  obtain ⟨old, hold, hdrained⟩ := Table.exists_mem_of_forall₂ hrows hrow
  obtain ⟨task, htask, hid, hrun⟩ := hrefer old hold
  refine ⟨task, ?_, ?_⟩
  · rw [htasks]
    exact htask
  · cases hdrained <;> exact ⟨hid, hrun⟩

/-! ## Polls -/

namespace IdleShutdown

variable {idle : IdleShutdown} {runId : RunId} {now : Instant} {host : PollHost} {db : Db}

/-- Every way in which a poll can go: it does not look at the timer, the timer is not due, or the
    stop is written. -/
theorem beginIfDue_cases (idle : IdleShutdown) (runId : RunId) (now : Instant) (host : PollHost)
    (db : Db) :
    (idle.policy.idleTimeoutSeconds = 0 ∧
      idle.beginIfDue runId now host db = ⟨.ok false, idle, db⟩) ∨
    (∃ error, idle.beginIfDue runId now host db = ⟨.error error, idle, db⟩ ∧
      (host.timestampMs = none ∨ host.fault = some .read)) ∨
    ((idle.due (db.idleShutdownCursor runId) now).1 = false ∧
      idle.beginIfDue runId now host db =
        ⟨.ok false, (idle.due (db.idleShutdownCursor runId) now).2, db⟩) ∨
    ∃ nowMs, host.timestampMs = some nowMs ∧
      (idle.due (db.idleShutdownCursor runId) now).1 = true ∧
      idle.beginIfDue runId now host db =
        ⟨((recordDueStop idle.policy runId host nowMs).run db).1,
          (idle.due (db.idleShutdownCursor runId) now).2,
          ((recordDueStop idle.policy runId host nowMs).run db).2⟩ := by
  unfold beginIfDue
  by_cases hzero : idle.policy.idleTimeoutSeconds = 0
  · exact .inl ⟨hzero, if_pos hzero⟩
  rw [if_neg hzero]
  right
  cases hclock : host.timestampMs with
  | none => exact .inl ⟨_, rfl, .inl rfl⟩
  | some nowMs =>
      dsimp only
      by_cases hread : host.fault = some .read
      · rw [if_pos hread]
        exact .inl ⟨_, rfl, .inr hread⟩
      rw [if_neg hread]
      right
      by_cases hdue : (idle.due (db.idleShutdownCursor runId) now).1 = false
      · rw [if_pos hdue]
        exact .inl ⟨hdue, rfl⟩
      · rw [if_neg hdue]
        exact .inr ⟨nowMs, rfl, eq_true_of_ne_false hdue, rfl⟩

/-- A poll began to stop the run: it says so, or it has written. -/
def Starts (idle : IdleShutdown) (runId : RunId) (now : Instant) (host : PollHost) (db : Db) :
    Prop :=
  (idle.beginIfDue runId now host db).outcome = .ok true ∨
    (idle.beginIfDue runId now host db).db ≠ db

/-- Only a poll whose timer is due begins to stop the run. -/
theorem due_of_starts (h : idle.Starts runId now host db) :
    (idle.due (db.idleShutdownCursor runId) now).1 = true := by
  unfold Starts at h
  rcases idle.beginIfDue_cases runId now host db with
    ⟨-, heq⟩ | ⟨error, heq, -⟩ | ⟨-, heq⟩ | ⟨_, -, hdue, -⟩
  · rw [heq] at h
    simp at h
  · rw [heq] at h
    simp at h
  · rw [heq] at h
    simp at h
  · exact hdue

/-- A poll that fails leaves the database as it was, unless the process dies after the commit. -/
theorem beginIfDue_error {error : PollError}
    (h : (idle.beginIfDue runId now host db).outcome = .error error)
    (hcommit : error ≠ .fault .committed) : (idle.beginIfDue runId now host db).db = db := by
  rcases idle.beginIfDue_cases runId now host db with
    ⟨-, heq⟩ | ⟨_, heq, -⟩ | ⟨-, heq⟩ | ⟨nowMs, -, -, heq⟩
  · rw [heq]
  · rw [heq]
  · rw [heq]
  · rw [heq] at h ⊢
    exact recordDueStop_error (Prod.ext h rfl) hcommit

/-- The timer after a poll that succeeded: not in use, or as the poll found it. -/
theorem beginIfDue_idle {started : Bool}
    (h : (idle.beginIfDue runId now host db).outcome = .ok started) :
    (idle.policy.idleTimeoutSeconds = 0 ∧ (idle.beginIfDue runId now host db).idle = idle) ∨
      (idle.beginIfDue runId now host db).idle =
        (idle.due (db.idleShutdownCursor runId) now).2 := by
  rcases idle.beginIfDue_cases runId now host db with
    ⟨hzero, heq⟩ | ⟨error, heq, -⟩ | ⟨-, heq⟩ | ⟨nowMs, -, -, heq⟩
  · rw [heq]
    exact .inl ⟨hzero, rfl⟩
  · rw [heq] at h
    cases h
  · rw [heq]
    exact .inr rfl
  · rw [heq]
    exact .inr rfl

@[simp]
theorem beginIfDue_policy : (idle.beginIfDue runId now host db).idle.policy = idle.policy := by
  rcases idle.beginIfDue_cases runId now host db with
    ⟨-, heq⟩ | ⟨_, heq, -⟩ | ⟨-, heq⟩ | ⟨_, -, -, heq⟩
  · rw [heq]
  · rw [heq]
  · rw [heq]
    exact due_policy
  · rw [heq]
    exact due_policy

theorem beginIfDue_refers (hrefer : db.AssignmentsReferToTasks) :
    (idle.beginIfDue runId now host db).db.AssignmentsReferToTasks := by
  rcases idle.beginIfDue_cases runId now host db with
    ⟨-, heq⟩ | ⟨_, heq, -⟩ | ⟨-, heq⟩ | ⟨nowMs, -, -, heq⟩
  · rw [heq]
    exact hrefer
  · rw [heq]
    exact hrefer
  · rw [heq]
    exact hrefer
  · rw [heq]
    exact recordDueStop_refers hrefer

/-- A poll whose timer is due begins to stop the run when the host can record it. -/
theorem beginIfDue_starts (hdue : (idle.due (db.idleShutdownCursor runId) now).1 = true)
    (hpolicy : idle.policy.Accepted) (hhost : host.CanRecord idle.policy db)
    (hrefer : db.AssignmentsReferToTasks) (hidle : db.Idle runId)
    (htimeout : 0 < idle.policy.idleTimeoutSeconds) :
    (idle.beginIfDue runId now host db).outcome = .ok true ∧
      (idle.beginIfDue runId now host db).db.StopOpened runId host.operationId := by
  rcases idle.beginIfDue_cases runId now host db with
    ⟨hzero, -⟩ | ⟨_, -, hfault⟩ | ⟨hno, -⟩ | ⟨nowMs, hclock, -, heq⟩
  · omega
  · obtain ⟨read, hread, -⟩ := hhost.clock
    rcases hfault with hnone | hsome
    · rw [hread] at hnone
      cases hnone
    · rw [hhost.noFault] at hsome
      cases hsome
  · rw [hdue] at hno
    cases hno
  · obtain ⟨started, db', hrun, hstarted, hopened⟩ :=
      recordDueStop_ok hpolicy hidle hrefer hhost hclock
    rw [heq, hrun]
    exact ⟨congrArg Except.ok hstarted, hopened⟩

end IdleShutdown

/-! ## The machine -/

/-- The database, the monotonic clock, and the timer of the supervisor process if one runs. -/
structure IdleWatch where
  db : Db
  now : Instant
  idle : Option IdleShutdown

/-- What happens between two polls, and a poll. -/
inductive IdleInput where
  | elapse (nanoseconds : Nat)
  /-- Any change of the store that its foreign keys allow. -/
  | change (db : Db) (refers : db.AssignmentsReferToTasks)
  | start (policy : SupervisionBounds) (accepted : policy.Accepted)
  | crash
  | poll (host : PollHost)

/-- The state after an input. -/
def IdleWatch.step (runId : RunId) (input : IdleInput) (s : IdleWatch) : IdleWatch :=
  match input with
  | .elapse nanoseconds => { s with now := ⟨s.now.nanoseconds + nanoseconds⟩ }
  | .change db _ => { s with db }
  | .start policy _ => { s with idle := some (.new policy) }
  | .crash => { s with idle := none }
  | .poll host =>
      match s.idle with
      | none => s
      | some idle =>
          let result := idle.beginIfDue runId s.now host s.db
          { s with
            db := result.db
            idle := if result.outcome.isOk = true then some result.idle else none }

/-- The idle timer of a run over any course of its store, its clock and its processes. -/
def idleMachine (runId : RunId) : Machine IdleWatch IdleInput where
  start := { db := .empty, now := ⟨0⟩, idle := none }
  step := IdleWatch.step runId

/-- A condition on an input of a quiet interval: a poll finds the run idle at this event, and the
    process neither dies nor starts. -/
def FoundIdle (runId : RunId) (cursor : Nat) (s : IdleWatch) : IdleInput → Prop
  | .poll _ => s.db.IdleAt runId cursor
  | .start _ _ | .crash => False
  | .elapse _ | .change _ _ => True

/-- The run was quiet since the poll after `before`: that poll and every later one found it idle at
    the same event. -/
structure QuietSince (runId : RunId) (inputs before : List IdleInput) (cursor : Nat) : Prop where
  polled : ∃ host rest, inputs = before ++ .poll host :: rest
  quiet : ∀ rest, inputs = before ++ rest →
    (idleMachine runId).Meets (FoundIdle runId cursor) ((idleMachine runId).run before) rest

variable {runId : RunId}

/-- What is kept through every run: assignments refer to tasks, policies are accepted ones, and
    what is observed was observed in the past. -/
structure IdleWatch.Sound (s : IdleWatch) : Prop where
  refers : s.db.AssignmentsReferToTasks
  accepted : ∀ idle, s.idle = some idle → idle.policy.Accepted
  past : ∀ idle cursor since, s.idle = some idle → idle.observed = some (cursor, since) →
    since.nanoseconds ≤ s.now.nanoseconds

theorem IdleWatch.sound_step (input : IdleInput) {s : IdleWatch} (h : s.Sound) :
    (s.step runId input).Sound := by
  cases input with
  | elapse nanoseconds =>
      refine ⟨h.refers, h.accepted, fun idle cursor since hidle hobserved => ?_⟩
      exact (h.past idle cursor since hidle hobserved).trans (Nat.le_add_right _ nanoseconds)
  | change db refers => exact ⟨refers, h.accepted, h.past⟩
  | start policy accepted =>
      refine ⟨h.refers, fun idle hidle => ?_, fun idle cursor since hidle hobserved => ?_⟩
      · obtain rfl := Option.some.inj hidle
        exact accepted
      · obtain rfl := Option.some.inj hidle
        cases hobserved
  | crash =>
      exact ⟨h.refers, fun _ hidle => (by cases hidle), fun _ _ _ hidle => by cases hidle⟩
  | poll host =>
      unfold step
      cases hidle : s.idle with
      | none => exact h
      | some idle =>
          refine ⟨IdleShutdown.beginIfDue_refers h.refers, ?_, ?_⟩
          · dsimp only
            intro idle' hidle'
            split at hidle'
            · obtain rfl := Option.some.inj hidle'
              rw [IdleShutdown.beginIfDue_policy]
              exact h.accepted idle hidle
            · cases hidle'
          · dsimp only
            intro idle' cursor since hidle' hobserved
            split at hidle'
            · next hok =>
                obtain rfl := Option.some.inj hidle'
                obtain ⟨started, hstarted⟩ := Except.exists_of_isOk hok
                rcases IdleShutdown.beginIfDue_idle hstarted with ⟨-, hsame⟩ | hdue
                · rw [hsame] at hobserved
                  exact h.past idle cursor since hidle hobserved
                · rw [hdue] at hobserved
                  obtain ⟨-, -, hbefore | hnow⟩ := IdleShutdown.observed_of_due hobserved
                  · exact h.past idle cursor since hidle hbefore
                  · rw [hnow]
            · cases hidle'

theorem IdleWatch.sound_run (inputs : List IdleInput) :
    ((idleMachine runId).run inputs).Sound := by
  refine Machine.invariant_run (m := idleMachine runId) (I := Sound) ⟨?_, ?_, ?_⟩
    (fun s input h => sound_step input h) inputs
  · intro row hrow
    cases hrow
  · intro idle hidle
    cases hidle
  · intro idle cursor since hidle
    cases hidle

/-! ## What the timer remembers -/

/-- A quiet interval goes on with an input that keeps it. -/
theorem QuietSince.snoc {inputs before : List IdleInput} {cursor : Nat} {input : IdleInput}
    (h : QuietSince runId inputs before cursor)
    (hfound : FoundIdle runId cursor ((idleMachine runId).run inputs) input) :
    QuietSince runId (inputs ++ [input]) before cursor := by
  obtain ⟨host, rest, hinputs⟩ := h.polled
  refine ⟨⟨host, rest ++ [input], by rw [hinputs, List.append_assoc]; rfl⟩, ?_⟩
  intro rest' hrest'
  obtain rfl : IdleInput.poll host :: rest ++ [input] = rest' := by
    rw [hinputs, List.append_assoc] at hrest'
    exact List.append_cancel_left hrest'
  rw [Machine.meets_append, ← Machine.run_append, ← hinputs]
  exact ⟨h.quiet _ hinputs, hfound, trivial⟩

/-- A poll that finds the run idle begins a quiet interval. -/
theorem QuietSince.begin {inputs : List IdleInput} {cursor : Nat} {host : PollHost}
    (hfound : FoundIdle runId cursor ((idleMachine runId).run inputs) (.poll host)) :
    QuietSince runId (inputs ++ [.poll host]) inputs cursor := by
  refine ⟨⟨host, [], rfl⟩, ?_⟩
  intro rest hrest
  obtain rfl := List.append_cancel_left hrest
  exact ⟨hfound, trivial⟩

/-- What the timer remembers of the polls so far. -/
def Remembers (runId : RunId) (inputs : List IdleInput) (s : IdleWatch) : Prop :=
  ∀ idle cursor since, s.idle = some idle → idle.observed = some (cursor, since) →
    0 < idle.policy.idleTimeoutSeconds ∧
      ∃ before, QuietSince runId inputs before cursor ∧
        ((idleMachine runId).run before).now = since

/-- An input that leaves the timer alone does not end the interval. -/
theorem Remembers.keep {inputs : List IdleInput} {input : IdleInput} {s : IdleWatch}
    (h : Remembers runId inputs ((idleMachine runId).run inputs))
    (hidle : s.idle = ((idleMachine runId).run inputs).idle)
    (hfound : ∀ cursor, FoundIdle runId cursor ((idleMachine runId).run inputs) input) :
    Remembers runId (inputs ++ [input]) s := by
  intro idle cursor since hsome hobserved
  obtain ⟨htimeout, before, hquiet, hnow⟩ := h idle cursor since (hidle ▸ hsome) hobserved
  exact ⟨htimeout, before, hquiet.snoc (hfound cursor), hnow⟩

/-- After every run, what the timer remembers began with a poll of this process since which every
    poll has found the run idle at the same event. -/
theorem remembers_run (inputs : List IdleInput) :
    Remembers runId inputs ((idleMachine runId).run inputs) := by
  refine Machine.history_run (fun _ _ _ hidle => by cases hidle) (fun inputs input ih => ?_) inputs
  cases input with
  | elapse nanoseconds => exact ih.keep rfl fun _ => trivial
  | change db refers => exact ih.keep rfl fun _ => trivial
  | start policy accepted =>
      intro idle cursor since hidle hobserved
      obtain rfl := Option.some.inj hidle
      cases hobserved
  | crash =>
      intro idle cursor since hidle
      cases hidle
  | poll host =>
      intro idle' cursor since hidle' hobserved
      change (((idleMachine runId).run inputs).step runId (.poll host)).idle = some idle' at hidle'
      unfold IdleWatch.step at hidle'
      cases hidle : ((idleMachine runId).run inputs).idle with
      | none =>
          rw [hidle] at hidle'
          rw [hidle] at hidle'
          cases hidle'
      | some idle =>
          rw [hidle] at hidle'
          dsimp only at hidle'
          split at hidle'
          · next hok =>
              obtain rfl := Option.some.inj hidle'
              obtain ⟨started, hstarted⟩ := Except.exists_of_isOk hok
              rw [IdleShutdown.beginIfDue_policy]
              rcases IdleShutdown.beginIfDue_idle hstarted with ⟨hzero, hsame⟩ | hdue
              · -- a timer that is not in use remembers nothing
                rw [hsame] at hobserved
                obtain ⟨htimeout, -⟩ := ih idle cursor since hidle hobserved
                omega
              · rw [hdue] at hobserved
                obtain ⟨hcursor, htimeout, hobs⟩ := IdleShutdown.observed_of_due hobserved
                have hfound : FoundIdle runId cursor ((idleMachine runId).run inputs)
                    (.poll host) := Db.idleShutdownCursor_eq_some.mp hcursor
                refine ⟨htimeout, ?_⟩
                rcases hobs with hbefore | hnow
                · obtain ⟨-, before, hquiet, hsince⟩ := ih idle cursor since hidle hbefore
                  exact ⟨before, hquiet.snoc hfound, hsince⟩
                · exact ⟨inputs, .begin hfound, hnow.symm⟩
          · cases hidle'

/-! ## Quiet intervals -/

/-- An interval of at least this many seconds that ends now, within one process: it began with a
    poll, every poll in it found the run idle at one event, and the run is idle at it now. -/
def QuietFor (runId : RunId) (seconds : Int) (inputs : List IdleInput) : Prop :=
  ∃ before cursor, QuietSince runId inputs before cursor ∧
    ((idleMachine runId).run inputs).db.IdleAt runId cursor ∧
    seconds * 1000000000 ≤ (((idleMachine runId).run inputs).now.nanoseconds : Int) -
      ((idleMachine runId).run before).now.nanoseconds

/-- The timer has observed this event since an instant that is not after another one. -/
def ObservedBy (cursor : Nat) (instant : Instant) (s : IdleWatch) : Prop :=
  ∀ idle, s.idle = some idle → 0 < idle.policy.idleTimeoutSeconds →
    ∃ since, idle.observed = some (cursor, since) ∧ since.nanoseconds ≤ instant.nanoseconds

/-- What a poll that finds the run idle leaves observed. -/
theorem observe_poll {cursor : Nat} {host : PollHost} {s : IdleWatch} {idle' : IdleShutdown}
    (hfound : s.db.IdleAt runId cursor) (hidle' : (s.step runId (.poll host)).idle = some idle')
    (htimeout : 0 < idle'.policy.idleTimeoutSeconds) :
    ∃ idle, s.idle = some idle ∧ 0 < idle.policy.idleTimeoutSeconds ∧
      idle'.observed = some (idle.observe cursor s.now) := by
  unfold IdleWatch.step at hidle'
  cases hidle : s.idle with
  | none =>
      rw [hidle] at hidle'
      rw [hidle] at hidle'
      cases hidle'
  | some idle =>
      rw [hidle] at hidle'
      dsimp only at hidle'
      split at hidle'
      · next hok =>
          obtain rfl := Option.some.inj hidle'
          obtain ⟨started, hstarted⟩ := Except.exists_of_isOk hok
          rw [IdleShutdown.beginIfDue_policy] at htimeout
          refine ⟨idle, rfl, htimeout, ?_⟩
          rcases IdleShutdown.beginIfDue_idle hstarted with ⟨hzero, -⟩ | hdue
          · omega
          · rw [hdue, Db.idleShutdownCursor_eq_some.mpr hfound, IdleShutdown.due_idle htimeout]
      · cases hidle'

/-- What was observed in time stays observed through a quiet interval. -/
theorem observedBy_step {cursor : Nat} {instant : Instant} (s : IdleWatch) (input : IdleInput)
    (h : ObservedBy cursor instant s) (hfound : FoundIdle runId cursor s input) :
    ObservedBy cursor instant ((idleMachine runId).step input s) := by
  cases input with
  | elapse nanoseconds => exact h
  | change db refers => exact h
  | start policy accepted => exact hfound.elim
  | crash => exact hfound.elim
  | poll host =>
      intro idle' hidle' htimeout
      obtain ⟨idle, hidle, hpositive, hobserved⟩ := observe_poll hfound hidle' htimeout
      obtain ⟨since, hsince, hle⟩ := h idle hidle hpositive
      exact ⟨since, by rw [hobserved, IdleShutdown.observe_kept hsince], hle⟩

/-- The poll that begins a quiet interval observes the run, at the latest then. -/
theorem observedBy_begin {cursor : Nat} {host : PollHost} {s : IdleWatch} (hsound : s.Sound)
    (hfound : s.db.IdleAt runId cursor) :
    ObservedBy cursor s.now ((idleMachine runId).step (.poll host) s) := by
  intro idle' hidle' htimeout
  obtain ⟨idle, hidle, -, hobserved⟩ := observe_poll hfound hidle' htimeout
  refine ⟨(idle.observe cursor s.now).2, ?_, ?_⟩
  · rw [hobserved]
    exact congrArg some (Prod.ext (idle.observe_fst cursor s.now) rfl)
  · unfold IdleShutdown.observe
    dsimp only
    split
    · exact le_refl _
    · cases hheld : idle.observed with
      | none => exact le_refl _
      | some held => exact hsound.past idle held.1 held.2 hidle hheld

/-- At the end of a quiet interval the timer has observed the run since its beginning. -/
theorem QuietSince.observedBy {inputs before : List IdleInput} {cursor : Nat}
    (h : QuietSince runId inputs before cursor) :
    ObservedBy cursor ((idleMachine runId).run before).now ((idleMachine runId).run inputs) := by
  obtain ⟨host, rest, hinputs⟩ := h.polled
  obtain ⟨hfirst, hrest⟩ := h.quiet _ hinputs
  rw [hinputs, Machine.run_append, Machine.runFrom_cons]
  exact Machine.invariant_runFrom observedBy_step
    (observedBy_begin (IdleWatch.sound_run before) hfirst) hrest

/-! ## Idle shutdown -/

/-- The poll taken by a timer after a run. -/
def pollAfter (runId : RunId) (inputs : List IdleInput) (idle : IdleShutdown) (host : PollHost) :
    PollResult :=
  idle.beginIfDue runId ((idleMachine runId).run inputs).now host
    ((idleMachine runId).run inputs).db

/-- A poll begins to stop the run only after a full quiet interval. -/
theorem quietFor_of_starts {inputs : List IdleInput} {idle : IdleShutdown} {host : PollHost}
    (hidle : ((idleMachine runId).run inputs).idle = some idle)
    (hstarts : idle.Starts runId ((idleMachine runId).run inputs).now host
      ((idleMachine runId).run inputs).db) :
    0 < idle.policy.idleTimeoutSeconds ∧
      QuietFor runId idle.policy.idleTimeoutSeconds inputs := by
  obtain ⟨cursor, since, hobserved, hold⟩ :=
    IdleShutdown.due_eq_true (IdleShutdown.due_of_starts hstarts)
  obtain ⟨hcursor, htimeout, hbefore | hnow⟩ := IdleShutdown.observed_of_due hobserved
  · obtain ⟨-, before, hquiet, hsince⟩ := remembers_run inputs idle cursor since hidle hbefore
    refine ⟨htimeout, before, cursor, hquiet, Db.idleShutdownCursor_eq_some.mp hcursor, ?_⟩
    rw [hsince]
    unfold Instant.secondsSince at hold
    omega
  · -- nothing is old enough that is observed now
    rw [hnow, Instant.secondsSince, Nat.sub_self, Nat.zero_div] at hold
    omega

/-- After a full quiet interval the poll is due. -/
theorem due_of_quietFor {inputs : List IdleInput} {idle : IdleShutdown}
    (hidle : ((idleMachine runId).run inputs).idle = some idle)
    (htimeout : 0 < idle.policy.idleTimeoutSeconds)
    (hquiet : QuietFor runId idle.policy.idleTimeoutSeconds inputs) :
    (idle.due (((idleMachine runId).run inputs).db.idleShutdownCursor runId)
      ((idleMachine runId).run inputs).now).1 = true := by
  obtain ⟨before, cursor, hsince, hfound, hlong⟩ := hquiet
  obtain ⟨since, hobserved, hle⟩ := hsince.observedBy idle hidle htimeout
  rw [Db.idleShutdownCursor_eq_some.mpr hfound, IdleShutdown.due_idle htimeout,
    IdleShutdown.observe_kept hobserved]
  dsimp only
  rw [decide_eq_true_eq]
  unfold Instant.secondsSince
  omega

/-- What holds of every poll, whatever happened before it. -/
structure IdleStops (runId : RunId) : Prop where
  /-- A stop begins only after a full quiet interval. -/
  quiet : ∀ inputs idle host, ((idleMachine runId).run inputs).idle = some idle →
    idle.Starts runId ((idleMachine runId).run inputs).now host
      ((idleMachine runId).run inputs).db →
    0 < idle.policy.idleTimeoutSeconds ∧ QuietFor runId idle.policy.idleTimeoutSeconds inputs
  /-- An attempt that fails before its commit leaves no trace. -/
  unchanged : ∀ inputs idle host error, ((idleMachine runId).run inputs).idle = some idle →
    (pollAfter runId inputs idle host).outcome = .error error → error ≠ .fault .committed →
    (pollAfter runId inputs idle host).db = ((idleMachine runId).run inputs).db
  /-- After a full quiet interval the next poll begins the stop. -/
  starts : ∀ inputs idle host, ((idleMachine runId).run inputs).idle = some idle →
    0 < idle.policy.idleTimeoutSeconds → QuietFor runId idle.policy.idleTimeoutSeconds inputs →
    host.CanRecord idle.policy ((idleMachine runId).run inputs).db →
    (pollAfter runId inputs idle host).outcome = .ok true ∧
      (pollAfter runId inputs idle host).db.StopOpened runId host.operationId

/-- A run is stopped for want of activity after a full quiet interval, and only then. -/
theorem idle_shutdown (runId : RunId) : IdleStops runId where
  quiet _ _ _ hidle hstarts := quietFor_of_starts hidle hstarts
  unchanged _ _ _ _ _ herror hcommit := IdleShutdown.beginIfDue_error herror hcommit
  starts := by
    intro inputs idle host hidle htimeout hquiet hhost
    have hsound : ((idleMachine runId).run inputs).Sound := IdleWatch.sound_run inputs
    obtain ⟨_, _, -, ⟨hidleNow, -⟩, -⟩ := id hquiet
    exact IdleShutdown.beginIfDue_starts (due_of_quietFor hidle htimeout hquiet)
      (hsound.accepted idle hidle) hhost hsound.refers hidleNow htimeout

end Coterie
