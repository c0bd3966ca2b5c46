/-
  Coterie.Supervisor.Stopping

  What a recorded stop means, over every run of the supervisor, wherever its programs are cut off.

  The stop of a run is on record in three places: the run itself, the shutdown row and the operation
  that asked for it.  `Db.StopHolds` says how they agree between any two transactions; it carries the
  result that a run is stopped only with all its sessions terminal, in the transaction that also
  completes the operation.  `StandsStill` says what a recorded stop forbids until the run is
  recovered.
-/

import Coterie.Supervisor.Limits

namespace Coterie

/-! ## The recorded stop -/

/-- The run, its shutdown and the operation of its stop agree. -/
structure Db.StopHolds (runId : RunId) (db : Db) : Prop where
  runs : Table.Keyed (·.id) db.runs
  stopping : ∀ shutdown, db.runShutdown runId = some shutdown → shutdown.phase ≠ .completed →
    (∃ run, db.run runId = some run ∧ run.status = .active) ∧
      ∃ row, db.operation shutdown.operationId = some row ∧ row.kind = "run.stop" ∧
        row.status = .pending
  stopped : ∀ shutdown, db.runShutdown runId = some shutdown → shutdown.phase = .completed →
    (∃ run, db.run runId = some run ∧ run.status = .stopped) ∧ db.liveSessions runId = [] ∧
      ∃ row, db.operation shutdown.operationId = some row ∧ row.kind = "run.stop" ∧
        row.status = .completed ∧
          row.result = some (shuttingDownResponse runId shutdown.operationId)
  completed : ∀ run, db.run runId = some run → run.status = .stopped →
    ∃ shutdown, db.runShutdown runId = some shutdown ∧ shutdown.phase = .completed

theorem stopHolds_empty (runId : RunId) : Db.empty.StopHolds runId where
  runs := List.nodup_nil
  stopping := nofun
  stopped := nofun
  completed := nofun

section Sessions

variable {runId : RunId} {db : Db}

theorem Db.liveSessions_eq_nil :
    db.liveSessions runId = [] ↔
      ∀ session ∈ db.sessions, session.runId = runId → session.state.isTerminal = true := by
  unfold Db.liveSessions Db.sessionsOf
  rw [List.filter_eq_nil_iff]
  simp only [List.mem_mergeSort, List.mem_filter, beq_iff_eq, and_imp, Bool.not_eq_true',
    Bool.not_eq_false]

/-- Sessions that have ended stay so, and without a new one none is live. -/
theorem liveSessions_exec {command : Command} (hfenced : db.roster.Fenced)
    (hscopes : .sessionScopes ∉ command.writes) (hnone : db.liveSessions runId = []) :
    (command.exec db).liveSessions runId = [] := by
  rw [Db.liveSessions_eq_nil] at hnone ⊢
  intro session' hsession' hrun
  have hmap : (command.exec db).sessions.map (·.scope) = db.sessions.map (·.scope) :=
    command.exec_writesOnly db .sessionScopes hscopes
  obtain ⟨session, hsession, hscope⟩ : ∃ session ∈ db.sessions, session.scope = session'.scope := by
    have hmem : session'.scope ∈ (command.exec db).sessions.map (·.scope) :=
      List.mem_map_of_mem hsession'
    rw [hmap] at hmem
    exact List.mem_map.mp hmem
  have hid : session.id = session'.id := congrArg SessionScope.sessionId hscope
  have hended : session.state.isTerminal = true :=
    hnone session hsession ((congrArg SessionScope.runId hscope).trans hrun)
  -- the session after the command is the one that continues it
  have hleads := command.exec_rosterMoves db hfenced
  obtain ⟨kept, hkept, hkeptId, -, hends⟩ := hleads.continues hfenced session hsession
  obtain rfl : kept = session' :=
    (hfenced.leads hleads).sessions.eq_of_key_eq hkept hsession' (hkeptId.trans hid)
  rcases hends hended with hsame | ⟨-, -, hexited⟩
  · rw [hsame]
    exact hended
  · rw [hexited]
    rfl

end Sessions

/-! ## Transactions that leave the stop alone -/

section Keeps

variable {runId : RunId} {db db' : Db}

/-- A recorded stop holds on while the run and its shutdown stay as they are. -/
theorem Db.StopHolds.keep (h : db.StopHolds runId) (hkeyed : Table.Keyed (·.id) db'.runs)
    (hrun : ∀ run, db.run runId = some run → db'.run runId = some run)
    (hnew : db.run runId = none → ∀ run, db'.run runId = some run → run.status = .active)
    (hshutdown : db'.runShutdown runId = db.runShutdown runId) (houtcomes : db.OutcomesKept db')
    (hlive : ∀ shutdown, db.runShutdown runId = some shutdown → shutdown.phase = .completed →
      db.liveSessions runId = [] → db'.liveSessions runId = []) : db'.StopHolds runId where
  runs := hkeyed
  stopping := by
    intro shutdown hfound hphase
    rw [hshutdown] at hfound
    obtain ⟨⟨run, hactive, hstatus⟩, row, hrow, hkind, hpending⟩ := h.stopping shutdown hfound hphase
    obtain ⟨row', hrow', hsame⟩ := houtcomes _ row hrow
    obtain ⟨-, hkind', -, hstatus', -⟩ := hsame
    exact ⟨⟨run, hrun run hactive, hstatus⟩, row', hrow', hkind'.trans hkind,
      hstatus'.trans hpending⟩
  stopped := by
    intro shutdown hfound hphase
    rw [hshutdown] at hfound
    obtain ⟨⟨run, hstopped, hstatus⟩, hnone, row, hrow, hkind, hcompleted, hresult⟩ :=
      h.stopped shutdown hfound hphase
    obtain ⟨row', hrow', hsame⟩ := houtcomes _ row hrow
    obtain ⟨-, hkind', -, hstatus', -, hresult', -⟩ := hsame
    exact ⟨⟨run, hrun run hstopped, hstatus⟩, hlive shutdown hfound hphase hnone, row', hrow',
      hkind'.trans hkind, hstatus'.trans hcompleted, hresult'.trans hresult⟩
  completed := by
    intro after hafter hstopped
    rw [hshutdown]
    cases hfound : db.run runId with
    | none =>
        rw [hnew hfound after hafter] at hstopped
        cases hstopped
    | some before =>
        rw [hrun before hfound] at hafter
        cases hafter
        exact h.completed _ hfound hstopped

/-- A run is recorded once. -/
theorem exec_startRun_runs (id : RunId) (project : ProjectRecord) (now : Int) (db : Db) :
    ((Command.startRun id project now).exec db).runs = db.runs ∨
      (∀ run ∈ db.runs, run.id ≠ id) ∧ ∃ run : RunRecord, run.id = id ∧ run.status = .active ∧
        ((Command.startRun id project now).exec db).runs = db.runs ++ [run] := by
  unfold Command.exec
  rcases Tx.transaction_cases (Command.startRun id project now).body db with
    ⟨u, db', hrun, hok⟩ | ⟨e, -, herror⟩
  · rw [hok]
    obtain ⟨_, db₁, h₁, h₂⟩ := Tx.bind_eq_ok.mp hrun
    obtain ⟨_, _, h₃, h₄⟩ := Tx.bind_eq_ok.mp h₁
    obtain ⟨hunique, rfl⟩ := Tx.require_eq_ok.mp h₃
    obtain rfl := Tx.write_eq_ok.mp h₄
    right
    refine ⟨by simpa using hunique,
      { id := id, status := .active, createdAt := now, stoppedAt := none }, rfl, rfl, ?_⟩
    have hrest : Written [.projects, .events]
        { db with runs := db.runs ++
          [{ id := id, status := .active, createdAt := now, stoppedAt := none }] } db' :=
      Tx.Keeps.of_ok (.bind (writes_appendEvent _ rfl) fun _ => .bind (writes_insertProject _)
        fun _ => writes_appendEvent _ rfl) h₂
    exact hrest.writesOnly .runs (by decide)
  · rw [herror]
    exact .inl rfl

/-- A transaction outside of the runs and their shutdowns. -/
theorem Db.StopHolds.exec_calm (h : db.StopHolds runId) (hfenced : db.roster.Fenced)
    {command : Command} (hruns : .runs ∉ command.writes)
    (hshutdowns : .runShutdowns ∉ command.writes)
    (hscopes : .sessionScopes ∉ command.writes ∨ db.runShutdown runId = none) :
    (command.exec db).StopHolds runId := by
  have hsame : (command.exec db).runs = db.runs := command.exec_writesOnly db .runs hruns
  have hrun : (command.exec db).run runId = db.run runId := by
    unfold Db.run
    rw [hsame]
  refine h.keep (by rw [hsame]; exact h.runs) (fun run hfound => hrun.trans hfound)
    (fun hnone run hfound => ?_) (command.exec_runShutdown hshutdowns db runId)
    (Command.exec_outcomesKept ?_ db) fun shutdown hfound _ hnone => ?_
  · rw [hrun, hnone] at hfound
    cases hfound
  · rintro id operationId stoppedAt rfl
    exact absurd hruns (by dsimp only [Command.writes]; decide)
  · rcases hscopes with hscopes | hempty
    · exact liveSessions_exec hfenced hscopes hnone
    · rw [hempty] at hfound
      cases hfound

/-- The start of a run. -/
theorem Db.StopHolds.exec_startRun (h : db.StopHolds runId) (hfenced : db.roster.Fenced)
    (id : RunId) (project : ProjectRecord) (now : Int) :
    ((Command.startRun id project now).exec db).StopHolds runId := by
  let command : Command := .startRun id project now
  have hshutdown : (command.exec db).runShutdown runId = db.runShutdown runId :=
    command.exec_runShutdown (by dsimp only [command, Command.writes]; decide) db runId
  have houtcomes : db.OutcomesKept (command.exec db) :=
    Command.exec_outcomesKept (fun _ _ _ => by simp [command]) db
  have hlive : db.liveSessions runId = [] → (command.exec db).liveSessions runId = [] :=
    liveSessions_exec hfenced (by dsimp only [command, Command.writes]; decide)
  rcases exec_startRun_runs id project now db with hruns | ⟨hunique, new, hid, hactive, hruns⟩
  · have hrun : (command.exec db).run runId = db.run runId := by
      unfold Db.run
      rw [hruns]
    refine h.keep (by rw [hruns]; exact h.runs) (fun run hfound => hrun.trans hfound)
      (fun hnone run hfound => ?_) hshutdown houtcomes fun _ _ _ => hlive
    rw [hrun, hnone] at hfound
    cases hfound
  · refine h.keep ?_ (fun run hfound => ?_) (fun hnone run hfound => ?_) hshutdown houtcomes
      fun _ _ _ => hlive
    · rw [hruns]
      exact Table.keyed_append h.runs fun run hrun => hid ▸ hunique run hrun
    · unfold Db.run
      rw [hruns]
      exact Table.find?_append_of_some hfound
    · unfold Db.run at hfound hnone
      rw [hruns, List.find?_append, hnone, Option.none_or] at hfound
      rw [List.mem_singleton.mp (List.mem_of_find?_eq_some hfound)]
      exact hactive

end Keeps

/-! ## Recording a stop -/

section Begins

variable {runId : RunId} {operationId : OperationId} {nowMs graceMs timeoutMs : Int} {db db' : Db}

/-- The shutdown row of a new stop. -/
def newShutdown (runId : RunId) (operationId : OperationId) (nowMs graceMs timeoutMs : Int) :
    RunShutdown where
  runId := runId
  operationId := operationId
  phase := .interrupting
  requestedAtMs := nowMs
  interruptUntilMs := saturate (nowMs + graceMs)
  deadlineMs := saturate (nowMs + timeoutMs)

/-- A stop was recorded with its operation. -/
structure StopBegun (runId : RunId) (operationId : OperationId) (nowMs graceMs timeoutMs : Int)
    (db db' : Db) : Prop where
  active : db.runIsActive runId = true
  fresh : db.operation operationId = none
  unrecorded : db.runShutdown runId = none
  runs : db'.runs = db.runs
  sessions : db'.sessions = db.sessions
  shutdowns : db'.runShutdowns =
    db.runShutdowns ++ [newShutdown runId operationId nowMs graceMs timeoutMs]
  operations : db'.operations = db.operations ++ [(runStopOperation runId operationId nowMs).row]

theorem insertRunShutdown_ok {shutdown : RunShutdown} {u : Unit}
    (h : (insertRunShutdown shutdown).run db = (.ok u, db')) :
    db' = { db with runShutdowns := db.runShutdowns ++ [shutdown] } := by
  simp only [insertRunShutdown, constraint, Tx.bind_eq_ok, Tx.require_eq_ok, Tx.write_eq_ok] at h
  obtain ⟨_, _, ⟨-, rfl⟩, _, _, ⟨-, rfl⟩, _, _, ⟨-, rfl⟩, _, _, ⟨-, rfl⟩, rfl⟩ := h
  rfl

/-- Opening a stop writes its operation and its row. -/
theorem openRunShutdown_ok {u : Unit}
    (h : (openRunShutdown runId operationId nowMs graceMs timeoutMs).run db = (.ok u, db')) :
    db'.runs = db.runs ∧ db'.sessions = db.sessions ∧
      db'.runShutdowns =
        db.runShutdowns ++ [newShutdown runId operationId nowMs graceMs timeoutMs] ∧
      db'.operations = db.operations ++ [(runStopOperation runId operationId nowMs).row] := by
  obtain ⟨_, db₁, h₁, r₁⟩ := Tx.bind_eq_ok.mp h
  obtain ⟨_, db₂, h₂, r₂⟩ := Tx.bind_eq_ok.mp r₁
  have hoperation := insertOperation_ok h₁
  have hshutdown := insertRunShutdown_ok h₂
  have hdrain : ∀ agent : AgentRecord, Tx.Keeps (Written [.assignments, .events, .drains])
      (drainAgent runId agent.id nowMs) := fun agent => writes_drainAgent _ _ _
  have hrest : Written [.assignments, .events, .drains] db₂ db' := by
    refine Tx.Keeps.of_ok ?_ r₂
    exact .bind (writes_supervisionEvent rfl) fun _ => .bind (.read _) fun agents =>
      .each hdrain agents
  have hruns : db'.runs = db₂.runs := hrest.writesOnly .runs (by decide)
  have hsessions : db'.sessions = db₂.sessions := hrest.writesOnly .sessions (by decide)
  have hshutdowns : db'.runShutdowns = db₂.runShutdowns :=
    hrest.writesOnly .runShutdowns (by decide)
  have hoperations : db'.operations = db₂.operations := hrest.writesOnly .operations (by decide)
  rw [hshutdown, hoperation] at hruns hsessions hshutdowns hoperations
  exact ⟨hruns, hsessions, hshutdowns, hoperations⟩

/-- A stop is on record already under its operation, or it is recorded now. -/
theorem beginRunShutdown_ok {u : Unit}
    (h : (beginRunShutdown runId operationId nowMs graceMs timeoutMs).run db = (.ok u, db')) :
    (∃ shutdown, db.runShutdown runId = some shutdown ∧ shutdown.operationId = operationId ∧
      db' = db) ∨ StopBegun runId operationId nowMs graceMs timeoutMs db db' := by
  obtain ⟨found, _, h₁, r₁⟩ := Tx.bind_eq_ok.mp h
  obtain ⟨hfound, rfl⟩ := Tx.read_eq_ok.mp h₁
  cases found with
  | some shutdown =>
      dsimp only at r₁
      split at r₁
      · next hsame =>
          obtain ⟨-, rfl⟩ := Tx.pure_eq_ok.mp r₁
          exact .inl ⟨shutdown, hfound, hsame, rfl⟩
      · cases r₁
  | none =>
      obtain ⟨_, _, h₂, r₂⟩ := Tx.bind_eq_ok.mp r₁
      obtain ⟨hfresh, rfl⟩ := Tx.require_eq_ok.mp h₂
      obtain ⟨_, _, h₃, r₃⟩ := Tx.bind_eq_ok.mp r₂
      obtain ⟨hactive, rfl⟩ := Tx.require_eq_ok.mp h₃
      obtain ⟨hruns, hsessions, hshutdowns, hoperations⟩ := openRunShutdown_ok r₃
      exact .inr ⟨hactive, by simpa using hfresh, hfound, hruns, hsessions, hshutdowns,
        hoperations⟩

theorem StopBegun.shutdown (h : StopBegun runId operationId nowMs graceMs timeoutMs db db') :
    db'.runShutdown runId = some (newShutdown runId operationId nowMs graceMs timeoutMs) := by
  have hnone := h.unrecorded
  unfold Db.runShutdown at hnone ⊢
  rw [h.shutdowns, List.find?_append, hnone, Option.none_or, List.find?_singleton]
  exact if_pos (beq_self_eq_true runId)

theorem StopBegun.operation (h : StopBegun runId operationId nowMs graceMs timeoutMs db db') :
    db'.operation operationId = some (runStopOperation runId operationId nowMs).row := by
  have hnone := h.fresh
  unfold Db.operation at hnone ⊢
  rw [h.operations, List.find?_append, hnone, Option.none_or, List.find?_singleton]
  exact if_pos (beq_self_eq_true operationId)

theorem StopBegun.stopHolds (h : StopBegun runId operationId nowMs graceMs timeoutMs db db')
    (hholds : db.StopHolds runId) : db'.StopHolds runId where
  runs := by
    rw [h.runs]
    exact hholds.runs
  stopping := by
    intro shutdown hfound _
    rw [h.shutdown] at hfound
    obtain rfl := Option.some.inj hfound
    obtain ⟨run, hrun, hactive⟩ := (Option.any_eq_true _ _).mp h.active
    refine ⟨⟨run, ?_, by simpa using hactive⟩, _, h.operation, rfl, rfl⟩
    unfold Db.run at hrun ⊢
    rw [h.runs]
    exact hrun
  stopped := by
    intro shutdown hfound hphase
    rw [h.shutdown] at hfound
    obtain rfl := Option.some.inj hfound
    cases hphase
  completed := by
    intro run hrun hstopped
    obtain ⟨found, hfound, hactive⟩ := (Option.any_eq_true _ _).mp h.active
    unfold Db.run at hrun hfound
    rw [h.runs, hfound] at hrun
    cases hrun
    rw [hstopped] at hactive
    cases hactive

end Begins

/-! ## Completing a stop -/

section Completes

variable {runId : RunId} {operationId : OperationId} {db db' : Db}

/-- A stop was completed: the run, its shutdown and its operation in one transaction. -/
structure StopCompleted (runId : RunId) (operationId : OperationId) (db db' : Db) : Prop where
  runs : Table.Keyed (·.id) db.runs → Table.Keyed (·.id) db'.runs ∧
    ∃ run, db'.run runId = some run ∧ run.status = .stopped
  sessions : db'.sessions = db.sessions
  shutdown : ∃ shutdown, db.runShutdown runId = some shutdown ∧
    db'.runShutdown runId = some { shutdown with phase := .completed } ∧
    (∀ row, db.operation shutdown.operationId = some row →
      ∃ row', db'.operation shutdown.operationId = some row' ∧ row'.runId = row.runId ∧
        row'.kind = row.kind ∧ row'.status = .completed ∧
        row'.result = some (shuttingDownResponse runId operationId)) ∧
    ∀ id row, id ≠ shutdown.operationId → db.operation id = some row →
      ∃ row', db'.operation id = some row' ∧ row'.SameReplay row

/-- A row of the run was active, and is stopped now. -/
theorem stopRun_ok {stoppedAt : Int} {u : Unit}
    (h : (stopRun runId stoppedAt).run db = (.ok u, db')) (hkeyed : Table.Keyed (·.id) db.runs) :
    Table.Keyed (·.id) db'.runs ∧ ∃ run, db'.run runId = some run ∧ run.status = .stopped := by
  obtain ⟨_, _, h₁, r₁⟩ := Tx.bind_eq_ok.mp h
  obtain ⟨hactive, rfl⟩ := Tx.require_eq_ok.mp h₁
  obtain rfl := Tx.write_eq_ok.mp r₁
  refine ⟨Table.keyed_updateWhere (fun _ _ => rfl) hkeyed, ?_⟩
  obtain ⟨run, hrun, hmatch⟩ := List.any_eq_true.mp hactive
  have hid : run.id = runId := by
    simp only [Bool.and_eq_true, beq_iff_eq] at hmatch
    exact hmatch.1.1
  subst hid
  have hfound : db.runs.find? (fun row => row.id == run.id) = some run :=
    hkeyed.find?_eq_some hrun
  refine ⟨{ run with status := .stopped, stoppedAt := some stoppedAt }, ?_, rfl⟩
  unfold Db.run
  dsimp only
  rw [Table.find?_updateWhere, hfound, Option.map_some, if_pos hmatch]
  intro _ _
  rfl

theorem recordOperationReconciliation_operation {id : OperationId} {state : ExternalResourceState}
    {error : Option String} {reconciledAt : Int} {outcome : ResourceTransitionOutcome}
    (h : (recordOperationReconciliation id state error reconciledAt).run db = (.ok outcome, db')) :
    db.OutcomesKept db' := by
  have hwritten : Written [.operations, .events] db db' :=
    (writes_recordOperationReconciliation _ _ _ _).of_ok h
  exact hwritten.writesOnly .outcomes (by decide)

/-- The completion of another operation. -/
theorem operation_complete_of_ne (db : Db) {id other : OperationId} (hne : other ≠ id)
    (result : JsonValue) (now : Int) :
    (db.updateOperation id (·.complete result now)).operation other = db.operation other := by
  have hid : ∀ row : OperationRow, (row.complete result now).id = row.id := fun _ => rfl
  rw [Db.operation_updateOperation hid]
  cases hfound : db.operation other with
  | none => rfl
  | some row =>
      have hrowId : row.id = other := by simpa using List.find?_some hfound
      rw [Option.map_some, if_neg (by simpa [hrowId] using hne)]

theorem persistShutdown_ok {stoppedAt : Int} {u : Unit}
    (h : (persistShutdown runId operationId stoppedAt).run db = (.ok u, db')) :
    StopCompleted runId operationId db db' := by
  obtain ⟨_, db₁, h₁, r₁⟩ := Tx.bind_eq_ok.mp h
  obtain ⟨_, db₂, h₂, r₂⟩ := Tx.bind_eq_ok.mp r₁
  have hstop : Written [.runs] db db₁ := (writes_stopRun _ _).of_ok h₁
  have hevent : Written [.events] db₁ db₂ := (writes_supervisionEvent rfl).of_ok h₂
  obtain ⟨found, _, h₃, r₃⟩ := Tx.bind_eq_ok.mp r₂
  obtain ⟨hfound, rfl⟩ := Tx.read_eq_ok.mp h₃
  cases found with
  | none => cases r₃
  | some shutdown =>
      obtain ⟨_, db₃, h₄, r₄⟩ := Tx.bind_eq_ok.mp r₃
      obtain ⟨_, db₄, h₅, r₅⟩ := Tx.bind_eq_ok.mp r₄
      obtain ⟨_, db₅, h₆, r₆⟩ := Tx.bind_eq_ok.mp r₅
      obtain ⟨-, rfl⟩ := Tx.pure_eq_ok.mp r₆
      obtain rfl := Tx.write_eq_ok.mp h₅
      have hid : shutdown.runId = runId := by simpa using List.find?_some hfound
      rw [hid] at h₄
      obtain ⟨hphase, hafter⟩ := setShutdownPhase_ok h₄
      have hreconcile : Written [.operations, .events] (db₃.updateOperation shutdown.operationId
          fun row => row.complete (shuttingDownResponse runId operationId)
            ((saturate (stoppedAt * 1000)).tdiv 1000)) db₅ :=
        (writes_recordOperationReconciliation _ _ _ _).of_ok h₆
      have hoperations : db₃.operations = db.operations :=
        ((hphase.writesOnly .operations (by decide)).trans
          (hevent.writesOnly .operations (by decide))).trans
            (hstop.writesOnly .operations (by decide))
      have hoperation : ∀ id, db₃.operation id = db.operation id := by
        intro id
        unfold Db.operation
        rw [hoperations]
      refine ⟨fun hkeyed => ?_, ?_, shutdown, ?_, ?_, fun row hrow => ?_, fun id row hne hrow => ?_⟩
      · have hruns : db₅.runs = db₁.runs :=
          ((hreconcile.writesOnly .runs (by decide)).trans
            (hphase.writesOnly .runs (by decide))).trans (hevent.writesOnly .runs (by decide))
        unfold Db.run
        rw [hruns]
        exact stopRun_ok h₁ hkeyed
      · exact (((hreconcile.writesOnly .sessions (by decide)).trans
          (hphase.writesOnly .sessions (by decide))).trans
            (hevent.writesOnly .sessions (by decide))).trans
              (hstop.writesOnly .sessions (by decide))
      · have hsame : db₂.runShutdowns = db.runShutdowns :=
          (hevent.writesOnly .runShutdowns (by decide)).trans
            (hstop.writesOnly .runShutdowns (by decide))
        unfold Db.runShutdown at hfound ⊢
        rwa [← hsame]
      · have hsame : db₅.runShutdowns = db₃.runShutdowns :=
          hreconcile.writesOnly .runShutdowns (by decide)
        have hlookup : db₅.runShutdown runId = db₃.runShutdown runId := by
          unfold Db.runShutdown
          rw [hsame]
        rw [hlookup, hafter, hfound, Option.map_some]
        split
        · next hcompleted => rw [← hcompleted]
        · rfl
      · obtain ⟨row', hfound', hsame⟩ := recordOperationReconciliation_operation h₆ _ _
          (Db.operation_updateOperation_self (fun _ => rfl) ((hoperation _).trans hrow))
        obtain ⟨hrun, hkind, -, hstatus, -, hresult, -⟩ := hsame
        exact ⟨row', hfound', hrun, hkind, hstatus, hresult⟩
      · refine recordOperationReconciliation_operation h₆ id row ?_
        rw [operation_complete_of_ne db₃ hne, hoperation, hrow]

/-- The completion of a recorded stop, when every session is terminal. -/
theorem StopCompleted.stopHolds (h : StopCompleted runId operationId db db')
    (hwinding : Winding runId operationId db) (hholds : db.StopHolds runId) :
    db'.StopHolds runId := by
  obtain ⟨shutdown, hfound, hoperation, hphase⟩ := hwinding.shutdown
  obtain ⟨other, hother, hafter, hrows, -⟩ := h.shutdown
  obtain rfl : shutdown = other := Option.some.inj (hfound.symm.trans hother)
  obtain ⟨hkeyed, run, hrun, hstopped⟩ := h.runs hholds.runs
  obtain ⟨-, row, hrow, hkind, -⟩ := hholds.stopping shutdown hfound hphase
  obtain ⟨row', hrow', -, hkind', hcompleted, hresult⟩ := hrows row hrow
  refine ⟨hkeyed, ?_, ?_, ?_⟩
  · intro after hsome hopen
    rw [hafter] at hsome
    obtain rfl := Option.some.inj hsome
    exact absurd rfl hopen
  · intro after hsome _
    rw [hafter] at hsome
    obtain rfl := Option.some.inj hsome
    refine ⟨⟨run, hrun, hstopped⟩, ?_, row', hrow', hkind'.trans hkind, hcompleted, ?_⟩
    · have hnone := hwinding.settled
      rw [Db.liveSessions_eq_nil] at hnone ⊢
      rw [h.sessions]
      exact hnone
    · rw [hresult, ← hoperation]
  · intro _ _ _
    exact ⟨_, hafter, rfl⟩

end Completes

/-! ## Reactivating a stopped run -/

section Reactivates

variable {runId : RunId} {db db' : Db}

/-- What the preflight of a recovery finds. -/
structure StoppedCompletely (runId : RunId) (shutdown : RunShutdown) (db : Db) : Prop where
  stopped : ∃ run, db.run runId = some run ∧ run.status = .stopped
  recorded : db.runShutdown runId = some shutdown
  phase : shutdown.phase = .completed
  settled : ∀ session ∈ db.sessions, session.runId = runId → db.sessionSettled session = true

theorem stoppedRunPreflight_ok {operationId : OperationId}
    {retained : List (WorkspaceRecord × ProjectRecord)}
    (h : db.stoppedRunPreflight runId operationId = .ok retained) :
    ∃ shutdown, StoppedCompletely runId shutdown db := by
  unfold Db.stoppedRunPreflight at h
  dsimp only at h
  split at h
  · cases h
  · next hstopped =>
      simp only [not_not] at hstopped
      obtain ⟨run, hrun, hstatus⟩ := (Option.any_eq_true _ _).mp hstopped
      rw [Bool.and_eq_true, beq_iff_eq] at hstatus
      split at h
      · cases h
      · next shutdown hshutdown =>
          split at h
          · cases h
          · next hcomplete =>
              rw [not_or, not_not] at hcomplete
              split at h
              · cases h
              · split at h
                · cases h
                · next hsettled =>
                    rw [not_not, List.all_eq_true] at hsettled
                    refine ⟨shutdown, ⟨run, hrun, hstatus.1⟩, hshutdown, hcomplete.1, ?_⟩
                    intro session hsession hsessionRun
                    refine hsettled session ?_
                    unfold Db.sessionsOf
                    rw [List.mem_mergeSort, List.mem_filter, beq_iff_eq]
                    exact ⟨hsession, hsessionRun⟩

/-- The event is the record of a recovery. -/
structure EventRecord.Reports (event : EventRecord) (report : RunRecoveryReport) : Prop where
  eventType : event.eventType = .runRecovered
  runId : event.runId = report.runId
  operationId : event.operationId = some report.operationId
  payload : event.payload.path? ["data", "recovery"] = some report.toJson

/-- A stopped run was made active again: its shutdown is only left in the event. -/
structure Reactivated (mutation : Mutation) (report : RunRecoveryReport) (db db' : Db) : Prop where
  runs : Table.Keyed (·.id) db.runs → Table.Keyed (·.id) db'.runs ∧
    ∃ run, db'.run mutation.runId = some run ∧ run.status = .active
  unrecorded : db'.runShutdown mutation.runId = none
  runId : report.runId = mutation.runId
  operationId : report.operationId = mutation.id
  stopped : ∃ shutdown, StoppedCompletely mutation.runId shutdown db ∧
    report.previousStopOperationId = shutdown.operationId
  event : ∃ event : EventRecord, event.Reports report ∧
    db'.eventsIn .reactivations = db.eventsIn .reactivations ++ [event]
  operations : db'.operations = db.operations

theorem reactivateRun_ok {mutation : Mutation} {report : RunRecoveryReport}
    (h : (reactivateRun mutation).run db = (.ok report, db')) :
    Reactivated mutation report db db' := by
  obtain ⟨preflight, _, h₁, r₁⟩ := Tx.bind_eq_ok.mp h
  obtain ⟨rfl, rfl⟩ := Tx.read_eq_ok.mp h₁
  obtain ⟨retained, _, h₂, r₂⟩ := Tx.bind_eq_ok.mp r₁
  obtain ⟨hpreflight, rfl⟩ := Tx.ofExcept_eq_ok.mp h₂
  obtain ⟨shutdown, hstopped⟩ := stoppedRunPreflight_ok hpreflight
  obtain ⟨found, _, h₃, r₃⟩ := Tx.bind_eq_ok.mp r₂
  obtain ⟨rfl, rfl⟩ := Tx.read_eq_ok.mp h₃
  obtain ⟨run, _, h₄, r₄⟩ := Tx.bind_eq_ok.mp r₃
  obtain ⟨hrun, rfl⟩ := Tx.okOr_eq_ok.mp h₄
  obtain ⟨found, _, h₅, r₅⟩ := Tx.bind_eq_ok.mp r₄
  obtain ⟨rfl, rfl⟩ := Tx.read_eq_ok.mp h₅
  obtain ⟨other, _, h₆, r₆⟩ := Tx.bind_eq_ok.mp r₅
  obtain ⟨hshutdown, rfl⟩ := Tx.okOr_eq_ok.mp h₆
  obtain rfl : shutdown = other := Option.some.inj (hstopped.recorded.symm.trans hshutdown)
  obtain ⟨stoppedAt, _, h₇, r₇⟩ := Tx.bind_eq_ok.mp r₆
  obtain ⟨hstoppedAt, rfl⟩ := Tx.okOr_eq_ok.mp h₇
  obtain ⟨_, db₁, h₈, r₈⟩ := Tx.bind_eq_ok.mp r₇
  have hruns := Tx.write_eq_ok.mp h₈
  obtain ⟨controls, _, h₉, r₉⟩ := Tx.bind_eq_ok.mp r₈
  obtain ⟨-, rfl⟩ := Tx.read_eq_ok.mp h₉
  obtain ⟨_, db₂, h₁₀, r₁₀⟩ := Tx.bind_eq_ok.mp r₉
  have hphase : ∀ control : SessionControl, Tx.Keeps (Written [.sessionControls, .events])
      (Tx.when (control.phase ≠ .completed)
        (setControlPhase control .completed (saturate (mutation.createdAt * 1000)))) :=
    fun control => .when (writes_setControlPhase _ _ _)
  have hcontrols : Written [.sessionControls, .events] db₁ db₂ :=
    (Tx.Keeps.each hphase controls).of_ok h₁₀
  obtain ⟨_, db₃, h₁₁, r₁₁⟩ := Tx.bind_eq_ok.mp r₁₀
  obtain ⟨-, hevent⟩ := appendEvent_ok h₁₁
  obtain ⟨_, db₄, h₁₂, r₁₂⟩ := Tx.bind_eq_ok.mp r₁₁
  have hforgotten := Tx.write_eq_ok.mp h₁₂
  obtain ⟨rfl, rfl⟩ := Tx.pure_eq_ok.mp r₁₂
  subst hruns hevent hforgotten
  let written : RunRecoveryReport :=
    { runId := mutation.runId, operationId := mutation.id,
      previousStopOperationId := shutdown.operationId, previousStoppedAt := stoppedAt,
      recoveredAt := mutation.createdAt }
  let event : EventRecord := db₂.eventRecord (runRecoveredEvent mutation written shutdown)
  refine ⟨fun hkeyed => ?_, ?_, rfl, rfl, ⟨shutdown, hstopped, rfl⟩,
    ⟨event, ⟨rfl, rfl, rfl, rfl⟩, ?_⟩, ?_⟩
  · have hkept : db₂.runs = _ := hcontrols.writesOnly .runs (by decide)
    show Table.Keyed (·.id) db₂.runs ∧ ∃ run, db₂.runs.find? (·.id == mutation.runId) = some run ∧ _
    rw [hkept]
    refine ⟨Table.keyed_updateWhere (fun _ _ => rfl) hkeyed, ?_⟩
    unfold Db.run at hrun
    rw [Table.find?_updateWhere, hrun, Option.map_some, if_pos (List.find?_some hrun)]
    · exact ⟨_, rfl, rfl⟩
    · intro _ _
      rfl
  · show List.find? _ (List.filter _ _) = none
    rw [List.find?_eq_none]
    intro row hrow hid
    have hother := (List.mem_filter.mp hrow).2
    simp only [bne, hid] at hother
    cases hother
  · have hkept : db₂.eventsIn .reactivations = _ :=
      hcontrols.writesOnly .reactivations (by decide)
    show (db₂.events ++ [event]).filter (·.part == some .reactivations) = _
    rw [List.filter_append]
    exact congrArg (· ++ [event]) hkept
  · exact hcontrols.writesOnly .operations (by decide)

end Reactivates

/-! ## Every transaction -/

section Steps

variable {config : EffectiveConfig} {runId : RunId} {db db' : Db}

/-- A change of the phase neither completes a stop nor reopens a completed one. -/
theorem Db.StopHolds.setPhase (h : db.StopHolds runId) {phase : ShutdownPhase}
    (hphase : phase ≠ .completed) (hwritten : Written [.runShutdowns, .events] db db')
    (hafter : db'.runShutdown runId = (db.runShutdown runId).map fun shutdown =>
      if shutdown.phase = .completed then shutdown else { shutdown with phase := phase }) :
    db'.StopHolds runId := by
  have hruns : db'.runs = db.runs := hwritten.writesOnly .runs (by decide)
  have hsessions : db'.sessions = db.sessions := hwritten.writesOnly .sessions (by decide)
  have hoperations : db'.operations = db.operations := hwritten.writesOnly .operations (by decide)
  have hrun : db'.run runId = db.run runId := by
    unfold Db.run
    rw [hruns]
  have hoperation : ∀ id, db'.operation id = db.operation id := by
    intro id
    unfold Db.operation
    rw [hoperations]
  refine ⟨by rw [hruns]; exact h.runs, ?_, ?_, ?_⟩
  · intro shutdown' hfound' hopen
    rw [hafter] at hfound'
    obtain ⟨shutdown, hfound, rfl⟩ := Option.map_eq_some_iff.mp hfound'
    have hstopping : shutdown.phase ≠ .completed := by
      intro hcompleted
      rw [if_pos hcompleted] at hopen
      exact hopen hcompleted
    rw [if_neg hstopping, hrun, hoperation]
    exact h.stopping shutdown hfound hstopping
  · intro shutdown' hfound' hcompleted'
    rw [hafter] at hfound'
    obtain ⟨shutdown, hfound, rfl⟩ := Option.map_eq_some_iff.mp hfound'
    have hcompleted : shutdown.phase = .completed := by
      by_contra hopen
      rw [if_neg hopen] at hcompleted'
      exact hphase hcompleted'
    rw [if_pos hcompleted, hrun, hoperation]
    obtain ⟨hstopped, hnone, hrow⟩ := h.stopped shutdown hfound hcompleted
    refine ⟨hstopped, ?_, hrow⟩
    rw [Db.liveSessions_eq_nil] at hnone ⊢
    rw [hsessions]
    exact hnone
  · intro run hsome hstopped
    rw [hrun] at hsome
    obtain ⟨shutdown, hfound, hcompleted⟩ := h.completed run hsome hstopped
    refine ⟨shutdown, ?_, hcompleted⟩
    rw [hafter, hfound, Option.map_some, if_pos hcompleted]

/-- A run that was made active again has no stop on record. -/
theorem Reactivated.stopHolds {mutation : Mutation} {report : RunRecoveryReport}
    {before after : Db} (h : Reactivated mutation report before after) (hid : mutation.runId = runId)
    (hkeyed : Table.Keyed (·.id) before.runs) (hafter : Written [.operations, .outcomes] after db') :
    db'.StopHolds runId := by
  subst hid
  obtain ⟨hkeyed', run, hrun, hactive⟩ := h.runs hkeyed
  have hruns : db'.runs = after.runs := hafter.writesOnly .runs (by decide)
  have hshutdowns : db'.runShutdowns = after.runShutdowns :=
    hafter.writesOnly .runShutdowns (by decide)
  have hnone : db'.runShutdown mutation.runId = none := by
    unfold Db.runShutdown
    rw [hshutdowns]
    exact h.unrecorded
  refine ⟨by rw [hruns]; exact hkeyed', ?_, ?_, ?_⟩
  · intro shutdown hfound
    rw [hnone] at hfound
    cases hfound
  · intro shutdown hfound
    rw [hnone] at hfound
    cases hfound
  · intro other hother hstopped
    unfold Db.run at hrun hother
    rw [hruns, hrun] at hother
    obtain rfl := Option.some.inj hother
    rw [hactive] at hstopped
    cases hstopped

/-- The transaction of a recovery is replayed, or it reactivates the run and records its report. -/
theorem exec_recoverRun_cases (ctx : RequestContext) (requestFingerprint : Option String)
    (reason : String) (db : Db) :
    (Command.recoverRun ctx requestFingerprint reason).exec db = db ∨
      db.operation ctx.operationId = none ∧ ∃ report before after,
        Written [.operations, .launches, .outcomes] db before ∧
        before.operation ctx.operationId =
          some ((ctx.mutation "run.recover" (.obj [("reason", .str reason)])).pendingOperation.row
            |>.setFingerprint requestFingerprint) ∧
        Reactivated (ctx.mutation "run.recover" (.obj [("reason", .str reason)])) report before
          after ∧
        (Command.recoverRun ctx requestFingerprint reason).exec db =
          after.updateOperation ctx.operationId (·.succeed report.toJson ctx.now) := by
  let mutation := ctx.mutation "run.recover" (.obj [("reason", .str reason)])
  rcases Command.exec_mutated_eq
    (show (Command.recoverRun ctx requestFingerprint reason).body = _ from rfl) db with
    hsame | ⟨hnew, json, before, after, hwritten, hbefore, happly, hexec⟩
  · exact .inl hsame
  · obtain ⟨report, _, hreactivated, hrest⟩ := Tx.bind_eq_ok.mp happly
    obtain ⟨rfl, rfl⟩ := Tx.pure_eq_ok.mp hrest
    refine .inr ⟨hnew, report, before, _, hwritten, ?_, reactivateRun_ok hreactivated, hexec⟩
    rw [hbefore]
    refine Db.operation_updateOperation_self (fun _ => rfl) ?_
    have hnone : db.operation mutation.id = none := hnew
    unfold Db.operation at hnone ⊢
    rw [Db.pushOperation, List.find?_append, hnone, Option.none_or, List.find?_singleton]
    exact if_pos (beq_self_eq_true mutation.id)

/-- The operation table is settled last. -/
theorem written_recovered (after : Db) (id : OperationId) (result : JsonValue) (now : Int) :
    Written [.operations, .outcomes] after (after.updateOperation id (·.succeed result now)) :=
  written_settleOperation after id fun _ => ⟨⟨rfl, rfl, rfl, rfl⟩, rfl⟩

/-- A command leaves the database as it is, or it is its body. -/
theorem exec_cases (command : Command) (db : Db) :
    command.exec db = db ∨ ∃ u, command.body.run db = (.ok u, command.exec db) := by
  unfold Command.exec
  rcases Tx.transaction_cases command.body db with ⟨u, db', hrun, hok⟩ | ⟨e, -, herror⟩
  · rw [hok]
    exact .inr ⟨u, hrun⟩
  · rw [herror]
    exact .inl rfl

/-- The tables whose rows a recorded stop holds still. -/
def stillTables : List TableName :=
  [.agentScopes, .sessionScopes, .assignmentScopes, .launches]

/-- What the supervisor does on its own starts a run or leaves the runs, and what a stop holds
    still, alone. -/
theorem writes_of_alone {command : Command} (h : command.alone = true) :
    (∃ id project now, command = .startRun id project now) ∨ .runs ∉ command.writes := by
  cases command
  case startRun id project now => exact .inl ⟨id, project, now, rfl⟩
  all_goals first | (right; dsimp only [Command.writes]; decide) | cases h

theorem still_of_alone {command : Command} (h : command.alone = true) :
    (∀ table ∈ stillTables, table ∉ command.writes) ∧ .reactivations ∉ command.writes := by
  cases command <;> first | (dsimp only [Command.writes]; decide) | cases h

/-- A stop is on record already, or it is recorded in the same transaction. -/
theorem exec_beginRunShutdown_cases (operationId : OperationId) (nowMs graceMs timeoutMs : Int)
    (db : Db) :
    (Command.beginRunShutdown runId operationId nowMs graceMs timeoutMs).exec db = db ∨
      StopBegun runId operationId nowMs graceMs timeoutMs db
        ((Command.beginRunShutdown runId operationId nowMs graceMs timeoutMs).exec db) := by
  let command : Command := .beginRunShutdown runId operationId nowMs graceMs timeoutMs
  rcases exec_cases command db with hsame | ⟨u, hrun⟩
  · exact .inl hsame
  · rcases beginRunShutdown_ok hrun with ⟨-, -, -, hsame⟩ | hbegun
    · exact .inl hsame
    · exact .inr hbegun

/-- An idle stop writes one more event. -/
theorem exec_stopIdleRun_cases (operationId : OperationId)
    (nowMs graceMs timeoutMs idleTimeoutSeconds : Int) (db : Db) :
    ∃ before, (before = db ∨ StopBegun runId operationId nowMs graceMs timeoutMs db before) ∧
      Written [.events] before
        ((Command.stopIdleRun runId operationId nowMs graceMs timeoutMs idleTimeoutSeconds).exec
          db) := by
  let command : Command :=
    .stopIdleRun runId operationId nowMs graceMs timeoutMs idleTimeoutSeconds
  rcases exec_cases command db with hsame | ⟨u, hrun⟩
  · refine ⟨db, .inl rfl, ?_⟩
    show Written [.events] db (command.exec db)
    rw [hsame]
    exact Std.Refl.refl db
  · obtain ⟨_, before, h₁, h₂⟩ := Tx.bind_eq_ok.mp hrun
    refine ⟨before, ?_, (writes_appendEvent _ rfl).of_ok h₂⟩
    rcases beginRunShutdown_ok h₁ with ⟨-, -, -, hsame⟩ | hbegun
    · exact .inl hsame
    · exact .inr hbegun

/-- The record of a stop survives what touches neither runs, shutdowns, sessions nor the outcomes
    of operations. -/
theorem Db.StopHolds.written (h : db.StopHolds runId) {tables : List TableName}
    (hwritten : Written tables db db') (hruns : .runs ∉ tables) (hshutdowns : .runShutdowns ∉ tables)
    (hsessions : .sessions ∉ tables) (houtcomes : db.OutcomesKept db') : db'.StopHolds runId := by
  have hsame : db'.runs = db.runs := hwritten.writesOnly .runs hruns
  have hsame' : db'.runShutdowns = db.runShutdowns := hwritten.writesOnly .runShutdowns hshutdowns
  have hsame'' : db'.sessions = db.sessions := hwritten.writesOnly .sessions hsessions
  have hrun : db'.run runId = db.run runId := by
    unfold Db.run
    rw [hsame]
  refine h.keep (by rw [hsame]; exact h.runs) (fun run hfound => hrun.trans hfound)
    (fun hnone run hfound => ?_) ?_ houtcomes fun shutdown _ _ hnone => ?_
  · rw [hrun, hnone] at hfound
    cases hfound
  · unfold Db.runShutdown
    rw [hsame']
  · rw [Db.liveSessions_eq_nil] at hnone ⊢
    rw [hsame'']
    exact hnone

theorem Issues.stopHolds {rt : Runtime} {command : Command} (h : Issues config runId rt command)
    (hfenced : rt.db.roster.Fenced) (hholds : rt.db.StopHolds runId) :
    (command.exec rt.db).StopHolds runId := by
  cases h with
  | alone command halone =>
      rcases writes_of_alone halone with ⟨id, project, now, rfl⟩ | hruns
      · exact hholds.exec_startRun hfenced id project now
      · exact hholds.exec_calm hfenced hruns (Command.runShutdowns_of_alone halone)
          (.inl ((still_of_alone halone).1 _ (by decide)))
  | launch command hlaunches haccepting =>
      refine hholds.exec_calm hfenced ?_ (Command.runShutdowns_of_launches hlaunches)
        (.inr haccepting)
      cases command <;> first | (dsimp only [Command.writes]; decide) | cases hlaunches
  | recordFailedLaunch scope attemptedAt policy haccepting hidle =>
      exact hholds.exec_calm hfenced (by dsimp only [Command.writes]; decide)
        (by dsimp only [Command.writes]; decide) (.inr haccepting)
  | spawnAgent call spawn hadmitted =>
      exact hholds.exec_calm hfenced (by dsimp only [Command.writes]; decide)
        (by dsimp only [Command.writes]; decide) (.inr hadmitted.accepting)
  | launchForeground call launch hadmitted =>
      exact hholds.exec_calm hfenced (by dsimp only [Command.writes]; decide)
        (by dsimp only [Command.writes]; decide) (.inr hadmitted.accepting)
  | beginRunShutdown operationId nowMs =>
      rcases exec_beginRunShutdown_cases operationId nowMs _ _ rt.db with hsame | hbegun
      · rw [hsame]
        exact hholds
      · exact hbegun.stopHolds hholds
  | stopIdleRun operationId nowMs =>
      obtain ⟨before, hbefore, hevent⟩ :=
        exec_stopIdleRun_cases operationId nowMs config.policy.interruptGraceMs
          config.policy.shutdownTimeoutMs config.supervision.idleTimeoutSeconds rt.db
      have hbegun : before.StopHolds runId := by
        rcases hbefore with rfl | hbegun
        · exact hholds
        · exact hbegun.stopHolds hholds
      exact hbegun.written hevent (by decide) (by decide) (by decide)
        (hevent.writesOnly .outcomes (by decide))
  | setShutdownPhase phase nowMs hforward =>
      rcases exec_cases (.setShutdownPhase runId phase nowMs) rt.db with hsame | ⟨u, hrun⟩
      · rw [hsame]
        exact hholds
      · obtain ⟨hwritten, hafter⟩ := setShutdownPhase_ok hrun
        exact hholds.setPhase hforward.1 hwritten hafter
  | persistShutdown operationId stoppedAt hwinding =>
      rcases exec_cases (.persistShutdown runId operationId stoppedAt) rt.db with
        hsame | ⟨u, hrun⟩
      · rw [hsame]
        exact hholds
      · exact (persistShutdown_ok hrun).stopHolds hwinding hholds
  | recoverRun call =>
      rcases exec_recoverRun_cases (call.ctx runId) call.requestFingerprint call.reason rt.db with
        hsame | ⟨-, report, before, after, hbefore, -, hreactivated, hexec⟩
      · rw [hsame]
        exact hholds
      · rw [hexec]
        refine hreactivated.stopHolds rfl ?_ (written_recovered _ _ _ _)
        have hruns : before.runs = rt.db.runs := hbefore.writesOnly .runs (by decide)
        rw [hruns]
        exact hholds.runs

end Steps

/-! ## What a recorded stop forbids -/

section Still

variable {config : EffectiveConfig} {runId : RunId}

/-- No process is started, nobody is hired, replaced or launched, no assignment is made or moved to
    another task, agent or claim, and no new launch is asked for. -/
structure StandsStill (rt rt' : Runtime) : Prop where
  started : rt'.started = rt.started
  agents : rt'.db.agents.map (·.scope) = rt.db.agents.map (·.scope)
  sessions : rt'.db.sessions.map (·.scope) = rt.db.sessions.map (·.scope)
  assignments : rt'.db.assignments.map (·.identity) = rt.db.assignments.map (·.identity)
  launches : rt'.db.launchRequests = rt.db.launchRequests

theorem StandsStill.trans {a b c : Runtime} (hab : StandsStill a b) (hbc : StandsStill b c) :
    StandsStill a c where
  started := hbc.started.trans hab.started
  agents := hbc.agents.trans hab.agents
  sessions := hbc.sessions.trans hab.sessions
  assignments := hbc.assignments.trans hab.assignments
  launches := hbc.launches.trans hab.launches

/-- A transaction that writes none of these tables. -/
theorem standsStill_exec {rt : Runtime} {command : Command}
    (hstill : ∀ table ∈ stillTables, table ∉ command.writes) :
    StandsStill rt { rt with db := command.exec rt.db } where
  started := rfl
  agents := command.exec_writesOnly rt.db .agentScopes (hstill _ (by decide))
  sessions := command.exec_writesOnly rt.db .sessionScopes (hstill _ (by decide))
  assignments := command.exec_writesOnly rt.db .assignmentScopes (hstill _ (by decide))
  launches := command.exec_writesOnly rt.db .launches (hstill _ (by decide))

/-- A phase of a stop may follow another one: nothing follows the completion, and neither the
    interrupts nor the terminations come back after a later phase. -/
structure ShutdownPhase.MayFollow (next phase : ShutdownPhase) : Prop where
  completed : phase = .completed → next = .completed
  early : next.rank < ShutdownPhase.reconciling.rank → phase.rank ≤ next.rank

theorem ShutdownPhase.MayFollow.refl (phase : ShutdownPhase) : phase.MayFollow phase :=
  ⟨fun h => h, fun _ => Nat.le_refl _⟩

theorem ShutdownPhase.MayFollow.trans {a b c : ShutdownPhase} (hba : b.MayFollow a)
    (hcb : c.MayFollow b) : c.MayFollow a where
  completed h := hcb.completed (hba.completed h)
  early h := by
    have hlate := hcb.early h
    exact Nat.le_trans (hba.early (Nat.lt_of_le_of_lt hlate h)) hlate

/-- How often the run was made active again. -/
def Db.reactivationsOf (db : Db) (runId : RunId) : Nat :=
  (db.eventsIn .reactivations).countP (·.runId == runId)

/-- A recorded stop goes on, with its operation and its deadlines, and holds everything still; or
    the run was recovered meanwhile. -/
structure StopsOn (runId : RunId) (rt rt' : Runtime) : Prop where
  reactivations : rt.db.reactivationsOf runId ≤ rt'.db.reactivationsOf runId
  recorded : ∀ shutdown, rt.db.runShutdown runId = some shutdown →
    rt.db.reactivationsOf runId < rt'.db.reactivationsOf runId ∨
      StandsStill rt rt' ∧ ∃ phase : ShutdownPhase, phase.MayFollow shutdown.phase ∧
        rt'.db.runShutdown runId = some { shutdown with phase := phase }

instance : Std.Refl (StopsOn runId) where
  refl rt := by
    refine ⟨Nat.le_refl _, fun shutdown hfound => .inr ⟨⟨rfl, rfl, rfl, rfl, rfl⟩, ?_⟩⟩
    exact ⟨shutdown.phase, .refl _, hfound⟩

instance : IsTrans Runtime (StopsOn runId) where
  trans a b c hab hbc := by
    refine ⟨Nat.le_trans hab.reactivations hbc.reactivations, fun shutdown hfound => ?_⟩
    rcases hab.recorded shutdown hfound with hrecovered | ⟨hstill, phase, hphase, hfound'⟩
    · exact .inl (Nat.lt_of_lt_of_le hrecovered hbc.reactivations)
    · rcases hbc.recorded _ hfound' with hrecovered | ⟨hstill', phase', hphase', hfound''⟩
      · exact .inl (Nat.lt_of_le_of_lt hab.reactivations hrecovered)
      · exact .inr ⟨hstill.trans hstill', phase', hphase.trans hphase', hfound''⟩

theorem Db.reactivationsOf_exec {command : Command} (h : .reactivations ∉ command.writes)
    (db : Db) : (command.exec db).reactivationsOf runId = db.reactivationsOf runId := by
  have hsame : (command.exec db).eventsIn .reactivations = db.eventsIn .reactivations :=
    command.exec_writesOnly db .reactivations h
  unfold Db.reactivationsOf
  rw [hsame]

/-- Without a recorded stop, nothing is to be shown. -/
theorem stopsOn_of_accepting {rt rt' : Runtime} (haccepting : rt.db.runShutdown runId = none)
    (hsame : rt'.db.reactivationsOf runId = rt.db.reactivationsOf runId) :
    StopsOn runId rt rt' := by
  refine ⟨Nat.le_of_eq hsame.symm, fun shutdown hfound => ?_⟩
  rw [haccepting] at hfound
  cases hfound

/-- A transaction that leaves the stop and what it holds still alone. -/
theorem stopsOn_exec {rt : Runtime} {command : Command}
    (hstill : ∀ table ∈ stillTables, table ∉ command.writes)
    (hreactivations : .reactivations ∉ command.writes)
    (hshutdown : ∀ shutdown, rt.db.runShutdown runId = some shutdown →
      ∃ phase : ShutdownPhase, phase.MayFollow shutdown.phase ∧
        (command.exec rt.db).runShutdown runId = some { shutdown with phase := phase }) :
    StopsOn runId rt { rt with db := command.exec rt.db } := by
  have hsame : (command.exec rt.db).reactivationsOf runId = rt.db.reactivationsOf runId :=
    Db.reactivationsOf_exec hreactivations rt.db
  exact ⟨Nat.le_of_eq hsame.symm, fun shutdown hfound =>
    .inr ⟨standsStill_exec hstill, hshutdown shutdown hfound⟩⟩

/-- The phase that a poll asks for may follow the recorded one. -/
theorem MovesForward.mayFollow {phase : ShutdownPhase} {db : Db} {shutdown : RunShutdown}
    (h : MovesForward runId phase db) (hfound : db.runShutdown runId = some shutdown)
    (hopen : shutdown.phase ≠ .completed) : phase.MayFollow shutdown.phase := by
  refine ⟨fun hcompleted => absurd hcompleted hopen, fun hearly => ?_⟩
  rcases h.2 shutdown hfound with hlate | hle
  · exact absurd hearly (Nat.not_lt.mpr hlate)
  · exact hle

theorem Issues.stopsOn {rt : Runtime} {command : Command} (h : Issues config runId rt command) :
    StopsOn runId rt { rt with db := command.exec rt.db } := by
  have hsame : (command.exec rt.db).runShutdown runId = rt.db.runShutdown runId →
      ∀ shutdown, rt.db.runShutdown runId = some shutdown →
        ∃ phase : ShutdownPhase, phase.MayFollow shutdown.phase ∧
          (command.exec rt.db).runShutdown runId = some { shutdown with phase := phase } := by
    intro hkept shutdown hfound
    exact ⟨shutdown.phase, .refl _, hkept.trans hfound⟩
  cases h with
  | alone command halone =>
      obtain ⟨hstill, hreactivations⟩ := still_of_alone halone
      exact stopsOn_exec hstill hreactivations
        (hsame (command.exec_runShutdown (Command.runShutdowns_of_alone halone) rt.db runId))
  | launch command hlaunches haccepting =>
      refine stopsOn_of_accepting haccepting (Db.reactivationsOf_exec ?_ rt.db)
      cases command <;> first | (dsimp only [Command.writes]; decide) | cases hlaunches
  | recordFailedLaunch scope attemptedAt policy haccepting hidle =>
      exact stopsOn_of_accepting haccepting
        (Db.reactivationsOf_exec (by dsimp only [Command.writes]; decide) rt.db)
  | spawnAgent call spawn hadmitted =>
      exact stopsOn_of_accepting hadmitted.accepting
        (Db.reactivationsOf_exec (by dsimp only [Command.writes]; decide) rt.db)
  | launchForeground call launch hadmitted =>
      exact stopsOn_of_accepting hadmitted.accepting
        (Db.reactivationsOf_exec (by dsimp only [Command.writes]; decide) rt.db)
  | beginRunShutdown operationId nowMs =>
      refine stopsOn_exec (by dsimp only [Command.writes]; decide)
        (by dsimp only [Command.writes]; decide) fun shutdown hfound => ?_
      rcases exec_beginRunShutdown_cases operationId nowMs config.policy.interruptGraceMs
        config.policy.shutdownTimeoutMs rt.db with hkept | hbegun
      · exact hsame (congrArg (·.runShutdown runId) hkept) shutdown hfound
      · rw [hbegun.unrecorded] at hfound
        cases hfound
  | stopIdleRun operationId nowMs =>
      refine stopsOn_exec (by dsimp only [Command.writes]; decide)
        (by dsimp only [Command.writes]; decide) fun shutdown hfound => ?_
      obtain ⟨before, hbefore, hevent⟩ :=
        exec_stopIdleRun_cases operationId nowMs config.policy.interruptGraceMs
          config.policy.shutdownTimeoutMs config.supervision.idleTimeoutSeconds rt.db
      rcases hbefore with rfl | hbegun
      · have hkept : _ = rt.db.runShutdowns := hevent.writesOnly .runShutdowns (by decide)
        refine hsame ?_ shutdown hfound
        unfold Db.runShutdown
        rw [hkept]
      · rw [hbegun.unrecorded] at hfound
        cases hfound
  | setShutdownPhase phase nowMs hforward =>
      refine stopsOn_exec (by dsimp only [Command.writes]; decide)
        (by dsimp only [Command.writes]; decide) fun shutdown hfound => ?_
      rcases exec_cases (.setShutdownPhase runId phase nowMs) rt.db with hkept | ⟨u, hrun⟩
      · exact hsame (congrArg (·.runShutdown runId) hkept) shutdown hfound
      · obtain ⟨-, hafter⟩ := setShutdownPhase_ok hrun
        rw [hfound, Option.map_some] at hafter
        split at hafter
        · exact ⟨shutdown.phase, .refl _, hafter⟩
        · next hopen => exact ⟨phase, hforward.mayFollow hfound hopen, hafter⟩
  | persistShutdown operationId stoppedAt hwinding =>
      refine stopsOn_exec (by dsimp only [Command.writes]; decide)
        (by dsimp only [Command.writes]; decide) fun shutdown hfound => ?_
      rcases exec_cases (.persistShutdown runId operationId stoppedAt) rt.db with
        hkept | ⟨u, hrun⟩
      · exact hsame (congrArg (·.runShutdown runId) hkept) shutdown hfound
      · obtain ⟨other, hother, hafter, -⟩ := (persistShutdown_ok hrun).shutdown
        obtain rfl : shutdown = other := Option.some.inj (hfound.symm.trans hother)
        exact ⟨.completed, ⟨fun _ => rfl, fun hearly => absurd hearly (by decide)⟩, hafter⟩
  | recoverRun call =>
      rcases exec_recoverRun_cases (call.ctx runId) call.requestFingerprint call.reason rt.db with
        hkept | ⟨-, report, before, after, hbefore, -, hreactivated, hexec⟩
      · rw [hkept]
        exact Std.Refl.refl rt
      · obtain ⟨event, hreports, hevents⟩ := hreactivated.event
        have hafter : Written [.operations, .outcomes] after
            ((Command.recoverRun (call.ctx runId) call.requestFingerprint call.reason).exec
              rt.db) := by
          rw [hexec]
          exact written_recovered _ _ _ _
        have hrun : event.runId = runId := hreports.runId.trans hreactivated.runId
        have hold : before.eventsIn .reactivations = rt.db.eventsIn .reactivations :=
          hbefore.writesOnly .reactivations (by decide)
        have hnew : _ = after.eventsIn .reactivations :=
          hafter.writesOnly .reactivations (by decide)
        have hmore : rt.db.reactivationsOf runId <
            Db.reactivationsOf ((Command.recoverRun (call.ctx runId) call.requestFingerprint
              call.reason).exec rt.db) runId := by
          unfold Db.reactivationsOf
          rw [hnew, hevents, hold, List.countP_append, List.countP_singleton,
            if_pos (by rw [hrun]; exact beq_self_eq_true _)]
          exact Nat.lt_succ_self _
        exact ⟨Nat.le_of_lt hmore, fun _ _ => .inl hmore⟩

/-- The roster is fenced, and the record of the stop agrees. -/
structure Runtime.StopRecorded (rt : Runtime) (runId : RunId) : Prop where
  fenced : rt.db.roster.Fenced
  stop : rt.db.StopHolds runId

theorem Acts.stopRecorded {rt rt' : Runtime} (h : Acts config runId rt rt')
    (hrecorded : rt.StopRecorded runId) : rt'.StopRecorded runId := by
  cases h with
  | start sessionId haccepting hstartable => exact ⟨hrecorded.fenced, hrecorded.stop⟩
  | remember handles power => exact ⟨hrecorded.fenced, hrecorded.stop⟩
  | commit command hissues =>
      exact ⟨hrecorded.fenced.leads (command.exec_rosterMoves rt.db hrecorded.fenced),
        hissues.stopHolds hrecorded.fenced hrecorded.stop⟩

theorem Acts.stopsOn {rt rt' : Runtime} (h : Acts config runId rt rt') :
    StopsOn runId rt rt' := by
  cases h with
  | start sessionId haccepting hstartable => exact stopsOn_of_accepting haccepting rfl
  | remember handles power =>
      refine ⟨Nat.le_refl _, fun shutdown hfound => .inr ⟨⟨rfl, rfl, rfl, rfl, rfl⟩, ?_⟩⟩
      exact ⟨shutdown.phase, .refl _, hfound⟩
  | commit command hissues => exact hissues.stopsOn

/-- In every run of the supervisor, cut off anywhere and continued after restarts: the run, its
    shutdown and the operation of its stop agree, so that the run is stopped only together with the
    completion of that operation and with all its sessions terminal.  From the moment a stop is on
    record, until the run is recovered, it keeps its operation and its deadlines, its phases go
    forward, nobody is hired or launched and no assignment changes hands. -/
theorem shutdown_progress (config : EffectiveConfig) (runId : RunId)
    (before after : List SupervisorStep) :
    ((supervisorMachine config runId).run before).db.StopHolds runId ∧
      StopsOn runId ((supervisorMachine config runId).run before)
        ((supervisorMachine config runId).run (before ++ after)) := by
  refine ⟨?_, ?_⟩
  · exact ((acting_run config runId before).invariant (I := fun rt => rt.StopRecorded runId)
      (fun _ _ hacts => hacts.stopRecorded) ⟨Roster.fenced_empty, stopHolds_empty runId⟩).stop
  · exact (acting_after config runId before after).relation (I := fun _ => True)
      (fun _ _ _ _ => trivial) (fun _ _ hacts _ => hacts.stopsOn) trivial

end Still

end Coterie
