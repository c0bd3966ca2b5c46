/-
  Coterie.Supervisor.Cycles

  Stops and recoveries in turn, over every run of the supervisor, wherever its programs are cut off.

  A recovery deletes the shutdown that it undoes, so that the stop survives in the event of the
  recovery and in its operation alone.  `Db.Cycled` is the invariant about the reports of all
  recoveries so far: each has an operation of its own and undoes a stop of its own, and both
  operations keep their results.  What a repeated stop or recovery finds is read off from it.
-/

import Coterie.Supervisor.Stopping

namespace Coterie

/-! ## The record of the recoveries -/

/-- The events of the run's recoveries. -/
def Db.recoveriesOf (db : Db) (runId : RunId) : List EventRecord :=
  (db.eventsIn .reactivations).filter (·.runId == runId)

/-- The operation of the run is on record with its result. -/
def Db.Recorded (db : Db) (runId : RunId) (id : OperationId) (kind : String)
    (status : OperationStatus) (result : JsonValue) : Prop :=
  ∃ row, db.operation id = some row ∧ row.runId = runId ∧ row.kind = kind ∧ row.status = status ∧
    row.result = some result

/-- The reports of all recoveries of the run, and the stops that they undid. -/
structure Db.Cycled (runId : RunId) (reports : List RunRecoveryReport) (db : Db) : Prop where
  events : List.Forall₂ EventRecord.Reports (db.recoveriesOf runId) reports
  recoveries : (reports.map (·.operationId)).Nodup
  stops : (reports.map (·.previousStopOperationId)).Nodup
  recovered : ∀ report ∈ reports,
    db.Recorded runId report.operationId "run.recover" .succeeded report.toJson
  undone : ∀ report ∈ reports,
    db.Recorded runId report.previousStopOperationId "run.stop" .completed
      (shuttingDownResponse runId report.previousStopOperationId)
  current : ∀ shutdown, db.runShutdown runId = some shutdown →
    (∀ report ∈ reports, report.previousStopOperationId ≠ shutdown.operationId) ∧
      ∃ row, db.operation shutdown.operationId = some row ∧ row.runId = runId

theorem cycled_empty (runId : RunId) : Db.empty.Cycled runId [] where
  events := .nil
  recoveries := List.nodup_nil
  stops := List.nodup_nil
  recovered := nofun
  undone := nofun
  current := nofun

section Keeps

variable {runId : RunId} {reports : List RunRecoveryReport} {db db' : Db}

theorem Db.Recorded.kept {id : OperationId} {kind : String} {status : OperationStatus}
    {result : JsonValue} (h : db.Recorded runId id kind status result)
    (hkept : ∀ row, db.operation id = some row →
      ∃ row', db'.operation id = some row' ∧ row'.SameReplay row) :
    db'.Recorded runId id kind status result := by
  obtain ⟨row, hrow, hrun, hkind, hstatus, hresult⟩ := h
  obtain ⟨row', hrow', hsame⟩ := hkept row hrow
  obtain ⟨hrun', hkind', -, hstatus', -, hresult', -⟩ := hsame
  exact ⟨row', hrow', hrun'.trans hrun, hkind'.trans hkind, hstatus'.trans hstatus,
    hresult'.trans hresult⟩

/-- A stop on record has one of the recorded operations, or a new one. -/
def StopAdvances (runId : RunId) (db db' : Db) : Prop :=
  ∀ shutdown', db'.runShutdown runId = some shutdown' →
    (∃ shutdown, db.runShutdown runId = some shutdown ∧
      shutdown.operationId = shutdown'.operationId) ∨
      db.operation shutdown'.operationId = none ∧
        ∃ row, db'.operation shutdown'.operationId = some row ∧ row.runId = runId

theorem stopAdvances_of_eq (h : db'.runShutdown runId = db.runShutdown runId) :
    StopAdvances runId db db' :=
  fun shutdown' hfound => .inl ⟨shutdown', h.symm.trans hfound, rfl⟩

/-- The invariant survives what writes no recovery and settles no recorded operation. -/
theorem Db.Cycled.keep (h : db.Cycled runId reports)
    (hevents : db'.recoveriesOf runId = db.recoveriesOf runId) (hkept : db.OutcomesKept db')
    (hstop : StopAdvances runId db db') : db'.Cycled runId reports where
  events := by
    rw [hevents]
    exact h.events
  recoveries := h.recoveries
  stops := h.stops
  recovered := fun report hreport => (h.recovered report hreport).kept fun row => hkept _ row
  undone := fun report hreport => (h.undone report hreport).kept fun row => hkept _ row
  current := by
    intro shutdown' hfound
    rcases hstop shutdown' hfound with ⟨shutdown, hold, hid⟩ | ⟨hfresh, hrow⟩
    · obtain ⟨hother, row, hrow, hrun⟩ := h.current shutdown hold
      obtain ⟨row', hrow', hsame⟩ := hkept _ row hrow
      rw [← hid]
      exact ⟨hother, row', hrow', hsame.1.trans hrun⟩
    · refine ⟨fun report hreport hsame => ?_, hrow⟩
      -- the operation of a stop that was undone is not new
      obtain ⟨row, hrecorded, -⟩ := h.undone report hreport
      rw [hsame, hfresh] at hrecorded
      cases hrecorded

theorem recoveriesOf_exec {command : Command} (h : .reactivations ∉ command.writes) (db : Db) :
    (command.exec db).recoveriesOf runId = db.recoveriesOf runId := by
  have hsame : (command.exec db).eventsIn .reactivations = db.eventsIn .reactivations :=
    command.exec_writesOnly db .reactivations h
  unfold Db.recoveriesOf
  rw [hsame]

theorem StopBegun.advances {operationId : OperationId} {nowMs graceMs timeoutMs : Int}
    (h : StopBegun runId operationId nowMs graceMs timeoutMs db db') :
    StopAdvances runId db db' := by
  intro shutdown' hfound
  rw [h.shutdown] at hfound
  obtain rfl := Option.some.inj hfound
  exact .inr ⟨h.fresh, _, h.operation, rfl⟩

/-- The completion of a stop settles the operation of the stop alone. -/
theorem StopCompleted.cycled {operationId : OperationId}
    (h : StopCompleted runId operationId db db') (hwinding : Winding runId operationId db)
    (hholds : db.StopHolds runId) (hevents : db'.recoveriesOf runId = db.recoveriesOf runId)
    (hcycled : db.Cycled runId reports) : db'.Cycled runId reports := by
  obtain ⟨shutdown, hfound, -, hopen⟩ := hwinding.shutdown
  obtain ⟨other, hother, hafter, hrows, hrest⟩ := h.shutdown
  obtain rfl : shutdown = other := Option.some.inj (hfound.symm.trans hother)
  obtain ⟨hundone, row, hrow, hrun⟩ := hcycled.current shutdown hfound
  obtain ⟨-, stop, hstop, hkind, -⟩ := hholds.stopping shutdown hfound hopen
  obtain rfl : row = stop := Option.some.inj (hrow.symm.trans hstop)
  refine ⟨by rw [hevents]; exact hcycled.events, hcycled.recoveries, hcycled.stops, ?_, ?_, ?_⟩
  · intro report hreport
    have hrecovered := hcycled.recovered report hreport
    refine hrecovered.kept fun old hold => hrest _ old ?_ hold
    -- a recovery is no stop
    rintro hsame
    obtain ⟨found, hfound', -, hrecover, -⟩ := hrecovered
    rw [hsame, hrow] at hfound'
    obtain rfl := Option.some.inj hfound'
    rw [hkind] at hrecover
    exact absurd hrecover (by decide)
  · intro report hreport
    exact (hcycled.undone report hreport).kept fun old hold =>
      hrest _ old (hundone report hreport) hold
  · intro shutdown' hfound'
    rw [hafter] at hfound'
    obtain rfl := Option.some.inj hfound'
    obtain ⟨row', hrow', hrun', -⟩ := hrows row hrow
    exact ⟨hundone, row', hrow', hrun'.trans hrun⟩

/-- A recovery adds its report. -/
theorem Reactivated.cycled {ctx : RequestContext} {requestFingerprint : Option String}
    {reason : String} {report : RunRecoveryReport} {before after : Db} (hrun : ctx.runId = runId)
    (h : Reactivated (ctx.mutation "run.recover" (.obj [("reason", .str reason)])) report before
      after) (hnew : db.operation ctx.operationId = none)
    (hbefore : Written [.operations, .launches, .outcomes] db before)
    (hopened : before.operation ctx.operationId =
      some ((ctx.mutation "run.recover" (.obj [("reason", .str reason)])).pendingOperation.row
        |>.setFingerprint requestFingerprint))
    (hafter : db' = after.updateOperation ctx.operationId (·.succeed report.toJson ctx.now))
    (hkept : db.OutcomesKept db') (hholds : db.StopHolds runId)
    (hcycled : db.Cycled runId reports) : db'.Cycled runId (reports ++ [report]) := by
  obtain ⟨shutdown, hstopped, hstop⟩ := h.stopped
  obtain ⟨event, hreports, hevents⟩ := h.event
  have hwritten : Written [.operations, .outcomes] after db' := by
    rw [hafter]
    exact written_recovered _ _ _ _
  have hshutdown : db.runShutdown runId = some shutdown := by
    have hsame : before.runShutdowns = db.runShutdowns :=
      hbefore.writesOnly .runShutdowns (by decide)
    have hfound : before.runShutdown ctx.runId = some shutdown := hstopped.recorded
    unfold Db.runShutdown at hfound ⊢
    rw [← hsame, ← hrun]
    exact hfound
  obtain ⟨hundone, row, hrow, hrowRun⟩ := hcycled.current shutdown hshutdown
  have hrecovery : report.operationId = ctx.operationId := h.operationId
  refine ⟨?_, ?_, ?_, ?_, ?_, ?_⟩
  · have hold : before.eventsIn .reactivations = db.eventsIn .reactivations :=
      hbefore.writesOnly .reactivations (by decide)
    have hnew' : db'.eventsIn .reactivations = after.eventsIn .reactivations :=
      hwritten.writesOnly .reactivations (by decide)
    have heventRun : event.runId = runId := (hreports.runId.trans h.runId).trans hrun
    have hlog : db'.recoveriesOf runId = db.recoveriesOf runId ++ [event] := by
      unfold Db.recoveriesOf
      rw [hnew', hevents, hold, List.filter_append,
        List.filter_cons_of_pos (by rw [heventRun]; exact beq_self_eq_true runId), List.filter_nil]
    rw [hlog]
    exact List.rel_append hcycled.events (.cons hreports .nil)
  · rw [List.map_append, List.map_singleton]
    refine List.nodup_append.mpr ⟨hcycled.recoveries, List.nodup_singleton _, ?_⟩
    intro id hid id' hid' hsame
    obtain ⟨old, hold, rfl⟩ := List.mem_map.mp hid
    obtain ⟨found, hfound, -⟩ := hcycled.recovered old hold
    rw [hsame, List.mem_singleton.mp hid', hrecovery, hnew] at hfound
    cases hfound
  · rw [List.map_append, List.map_singleton]
    refine List.nodup_append.mpr ⟨hcycled.stops, List.nodup_singleton _, ?_⟩
    intro id hid id' hid' hsame
    obtain ⟨old, hold, rfl⟩ := List.mem_map.mp hid
    exact hundone old hold (by rw [hsame, List.mem_singleton.mp hid', hstop])
  · intro other hother
    rcases List.mem_append.mp hother with hold | hlast
    · exact (hcycled.recovered other hold).kept fun found => hkept _ found
    · rw [List.mem_singleton.mp hlast, hrecovery]
      have hfound : after.operation ctx.operationId = before.operation ctx.operationId := by
        unfold Db.operation
        rw [h.operations]
      rw [hopened] at hfound
      have hid : ∀ row : OperationRow, (row.succeed report.toJson ctx.now).id = row.id :=
        fun _ => rfl
      have hsettled := Db.operation_updateOperation_self hid hfound
      rw [← hafter] at hsettled
      exact ⟨_, hsettled, hrun, rfl, rfl, rfl⟩
  · intro other hother
    rcases List.mem_append.mp hother with hold | hlast
    · exact (hcycled.undone other hold).kept fun found => hkept _ found
    · rw [List.mem_singleton.mp hlast, hstop]
      obtain ⟨-, -, found, hfound, hkind, hstatus, hresult⟩ :=
        hholds.stopped shutdown hshutdown hstopped.phase
      obtain rfl : row = found := Option.some.inj (hrow.symm.trans hfound)
      have hrecorded : db.Recorded runId shutdown.operationId "run.stop" .completed
          (shuttingDownResponse runId shutdown.operationId) :=
        ⟨row, hrow, hrowRun, hkind, hstatus, hresult⟩
      exact hrecorded.kept fun found => hkept _ found
  · intro other hother
    have hnone : after.runShutdown runId = none := hrun ▸ h.unrecorded
    have hsame : db'.runShutdowns = after.runShutdowns :=
      hwritten.writesOnly .runShutdowns (by decide)
    unfold Db.runShutdown at hother hnone
    rw [hsame, hnone] at hother
    cases hother

end Keeps

/-! ## Every transaction -/

section Steps

variable {config : EffectiveConfig} {runId : RunId} {reports : List RunRecoveryReport}

/-- A transaction that leaves the recoveries alone and settles no recorded operation. -/
theorem Db.Cycled.exec {command : Command} {db : Db} (h : db.Cycled runId reports)
    (hreactivations : .reactivations ∉ command.writes)
    (hpersist : ∀ id operationId stoppedAt, command ≠ .persistShutdown id operationId stoppedAt)
    (hstop : StopAdvances runId db (command.exec db)) :
    (command.exec db).Cycled runId reports :=
  h.keep (recoveriesOf_exec hreactivations db) (Command.exec_outcomesKept hpersist db) hstop

theorem Issues.cycled {rt : Runtime} {command : Command} (h : Issues config runId rt command)
    (hholds : rt.db.StopHolds runId) (hcycled : rt.db.Cycled runId reports) :
    ∃ later, (command.exec rt.db).Cycled runId (reports ++ later) := by
  suffices hsuffices : (command.exec rt.db).Cycled runId reports ∨
      ∃ report, (command.exec rt.db).Cycled runId (reports ++ [report]) by
    rcases hsuffices with hsame | ⟨report, hnext⟩
    · exact ⟨[], by rwa [List.append_nil]⟩
    · exact ⟨[report], hnext⟩
  cases h with
  | alone command halone =>
      refine .inl (hcycled.exec (still_of_alone halone).2 ?_ (stopAdvances_of_eq
        (command.exec_runShutdown (Command.runShutdowns_of_alone halone) rt.db runId)))
      rintro id operationId stoppedAt rfl
      cases halone
  | launch command hlaunches haccepting =>
      refine .inl (hcycled.exec ?_ ?_ (stopAdvances_of_eq
        (command.exec_runShutdown (Command.runShutdowns_of_launches hlaunches) rt.db runId)))
      · cases command <;> first | (dsimp only [Command.writes]; decide) | cases hlaunches
      · rintro id operationId stoppedAt rfl
        cases hlaunches
  | recordFailedLaunch scope attemptedAt policy haccepting hidle =>
      exact .inl (hcycled.exec (by dsimp only [Command.writes]; decide) (fun _ _ _ => nofun)
        (stopAdvances_of_eq (Command.exec_runShutdown (by dsimp only [Command.writes]; decide)
          rt.db runId)))
  | spawnAgent call spawn hadmitted =>
      exact .inl (hcycled.exec (by dsimp only [Command.writes]; decide) (fun _ _ _ => nofun)
        (stopAdvances_of_eq (Command.exec_runShutdown (by dsimp only [Command.writes]; decide)
          rt.db runId)))
  | launchForeground call launch hadmitted =>
      exact .inl (hcycled.exec (by dsimp only [Command.writes]; decide) (fun _ _ _ => nofun)
        (stopAdvances_of_eq (Command.exec_runShutdown (by dsimp only [Command.writes]; decide)
          rt.db runId)))
  | beginRunShutdown operationId nowMs =>
      refine .inl (hcycled.exec (by dsimp only [Command.writes]; decide) (fun _ _ _ => nofun) ?_)
      rcases exec_beginRunShutdown_cases operationId nowMs config.policy.interruptGraceMs
        config.policy.shutdownTimeoutMs rt.db with hkept | hbegun
      · exact stopAdvances_of_eq (congrArg (·.runShutdown runId) hkept)
      · exact hbegun.advances
  | stopIdleRun operationId nowMs =>
      refine .inl (hcycled.exec (by dsimp only [Command.writes]; decide) (fun _ _ _ => nofun) ?_)
      obtain ⟨before, hbefore, hevent⟩ :=
        exec_stopIdleRun_cases operationId nowMs config.policy.interruptGraceMs
          config.policy.shutdownTimeoutMs config.supervision.idleTimeoutSeconds rt.db
      have hshutdowns : _ = before.runShutdowns := hevent.writesOnly .runShutdowns (by decide)
      have hoperations : _ = before.operations := hevent.writesOnly .operations (by decide)
      have hadvances : StopAdvances runId rt.db before := by
        rcases hbefore with rfl | hbegun
        · exact stopAdvances_of_eq rfl
        · exact hbegun.advances
      unfold StopAdvances Db.runShutdown Db.operation at hadvances ⊢
      rw [hshutdowns, hoperations]
      exact hadvances
  | setShutdownPhase phase nowMs hforward =>
      refine .inl (hcycled.exec (by dsimp only [Command.writes]; decide) (fun _ _ _ => nofun) ?_)
      rcases exec_cases (.setShutdownPhase runId phase nowMs) rt.db with hkept | ⟨u, hrun⟩
      · exact stopAdvances_of_eq (congrArg (·.runShutdown runId) hkept)
      · obtain ⟨-, hafter⟩ := setShutdownPhase_ok hrun
        intro shutdown' hfound
        rw [hafter] at hfound
        obtain ⟨shutdown, hold, rfl⟩ := Option.map_eq_some_iff.mp hfound
        refine .inl ⟨shutdown, hold, ?_⟩
        split <;> rfl
  | persistShutdown operationId stoppedAt hwinding =>
      rcases exec_cases (.persistShutdown runId operationId stoppedAt) rt.db with
        hkept | ⟨u, hrun⟩
      · rw [hkept]
        exact .inl hcycled
      · exact .inl ((persistShutdown_ok hrun).cycled hwinding hholds
          (recoveriesOf_exec (by dsimp only [Command.writes]; decide) rt.db) hcycled)
  | recoverRun call =>
      rcases exec_recoverRun_cases (call.ctx runId) call.requestFingerprint call.reason rt.db with
        hkept | ⟨hnew, report, before, after, hbefore, hopened, hreactivated, hexec⟩
      · rw [hkept]
        exact .inl hcycled
      · exact .inr ⟨report, hreactivated.cycled rfl hnew hbefore hopened hexec
          (Command.exec_outcomesKept (fun _ _ _ hsame => by cases hsame) rt.db) hholds hcycled⟩

/-- The record of the stop agrees, and so does the record of the recoveries. -/
structure Runtime.Cycled (rt : Runtime) (runId : RunId) (reports : List RunRecoveryReport) :
    Prop where
  stop : rt.StopRecorded runId
  recoveries : rt.db.Cycled runId reports

theorem Acts.cycled {rt rt' : Runtime} (h : Acts config runId rt rt')
    (hcycled : rt.Cycled runId reports) : ∃ later, rt'.Cycled runId (reports ++ later) := by
  have hstop := h.stopRecorded hcycled.stop
  have hsame : rt'.db = rt.db → ∃ later, rt'.Cycled runId (reports ++ later) := by
    intro hdb
    refine ⟨[], hstop, ?_⟩
    rw [hdb, List.append_nil]
    exact hcycled.recoveries
  cases h with
  | start sessionId haccepting hstartable => exact hsame rfl
  | remember handles power => exact hsame rfl
  | commit command hissues =>
      obtain ⟨later, hlater⟩ := hissues.cycled hcycled.stop.stop hcycled.recoveries
      exact ⟨later, hstop, hlater⟩

theorem Acting.cycled {rt rt' : Runtime} (h : Acting config runId rt rt')
    (hcycled : rt.Cycled runId reports) : ∃ later, rt'.Cycled runId (reports ++ later) := by
  induction h with
  | refl => exact ⟨[], by rwa [List.append_nil]⟩
  | tail _ hlast ih =>
      obtain ⟨later, hlater⟩ := ih
      obtain ⟨more, hmore⟩ := hlast.cycled hlater
      exact ⟨later ++ more, by rwa [← List.append_assoc]⟩

end Steps

/-! ## Sessions before a recovery -/

section Sessions

variable {config : EffectiveConfig} {runId : RunId}

/-- A session keeps its run, agent and generation. -/
theorem Roster.Step.scopes {r r' : Roster} (h : r.Step r') {session : SessionRecord}
    (hsession : session ∈ r.sessions) :
    ∃ session' ∈ r'.sessions, session'.scope = session.scope := by
  cases h with
  | observe observedSession agent observed observedAt =>
      by_cases hselected : (session.id == observedSession.scope.sessionId &&
          session.runId == observedSession.scope.runId &&
          session.agentId == observedSession.scope.agentId &&
          session.generation == observedSession.scope.generation) = true
      · exact ⟨_, Table.mem_updateWhere_of_pos hsession hselected, rfl⟩
      · exact ⟨session, Table.mem_updateWhere_of_neg hsession (Bool.eq_false_iff.mpr hselected),
          rfl⟩
  | note sessions hnoted =>
      obtain ⟨session', hsession', hnote⟩ := Table.exists_mem_forall₂ hnoted hsession
      exact ⟨session', hsession', hnote.scope⟩
  | enter => exact ⟨session, List.mem_append_left _ hsession, rfl⟩
  | hire => exact ⟨session, hsession, rfl⟩
  | restart => exact ⟨session, hsession, rfl⟩
  | retire => exact ⟨session, hsession, rfl⟩
  | rotate => exact ⟨session, hsession, rfl⟩

theorem Roster.Leads.scopes {r r' : Roster} (h : r.Leads r') :
    ∀ session ∈ r.sessions, ∃ session' ∈ r'.sessions, session'.scope = session.scope := by
  induction h with
  | refl => exact fun session hsession => ⟨session, hsession, rfl⟩
  | tail _ hstep ih =>
      intro session hsession
      obtain ⟨middle, hmiddle, hscope⟩ := ih session hsession
      obtain ⟨session', hsession', hscope'⟩ := hstep.scopes hmiddle
      exact ⟨session', hsession', hscope'.trans hscope⟩

/-- The roster has moved on, and once the run was recovered its earlier sessions have exited. -/
structure Outlived (runId : RunId) (rt rt' : Runtime) : Prop where
  leads : rt.db.roster.Leads rt'.db.roster
  reactivations : rt.db.reactivationsOf runId ≤ rt'.db.reactivationsOf runId
  exited : rt.db.reactivationsOf runId < rt'.db.reactivationsOf runId →
    ∀ session ∈ rt.db.sessions, session.runId = runId →
      ∃ session' ∈ rt'.db.sessions, session'.scope = session.scope ∧ session'.state = .exited

/-- An exit is final. -/
theorem Roster.Leads.exited {r r' : Roster} (h : r.Leads r') (hfenced : r.Fenced)
    {session : SessionRecord} (hsession : session ∈ r.sessions) (hexited : session.state = .exited) :
    ∃ session' ∈ r'.sessions, session'.scope = session.scope ∧ session'.state = .exited := by
  obtain ⟨session', hsession', hscope⟩ := h.scopes session hsession
  obtain ⟨kept, hkept, hid, -, hends⟩ := h.continues hfenced session hsession
  have hsame : session' = kept := (hfenced.leads h).sessions.eq_of_key_eq hsession' hkept
    ((congrArg SessionScope.sessionId hscope).trans hid.symm)
  subst hsame
  refine ⟨session', hsession', hscope, ?_⟩
  rcases hends (by rw [hexited]; rfl) with hstate | ⟨-, hlost, -⟩
  · exact hstate.trans hexited
  · rw [hexited] at hlost
    cases hlost

theorem Outlived.trans {a b c : Runtime} (hfenced : a.db.roster.Fenced)
    (hab : Outlived runId a b) (hbc : Outlived runId b c) : Outlived runId a c where
  leads := hab.leads.trans hbc.leads
  reactivations := Nat.le_trans hab.reactivations hbc.reactivations
  exited := by
    intro hmore session hsession hrun
    by_cases hfirst : a.db.reactivationsOf runId < b.db.reactivationsOf runId
    · obtain ⟨middle, hmiddle, hscope, hexited⟩ := hab.exited hfirst session hsession hrun
      obtain ⟨session', hsession', hscope', hexited'⟩ :=
        hbc.leads.exited (hfenced.leads hab.leads) hmiddle hexited
      exact ⟨session', hsession', hscope'.trans hscope, hexited'⟩
    · -- the run was recovered in the second part
      have hsecond : b.db.reactivationsOf runId < c.db.reactivationsOf runId := by omega
      obtain ⟨middle, hmiddle, hscope⟩ := hab.leads.scopes session hsession
      have hmiddleRun : middle.runId = runId := (congrArg SessionScope.runId hscope).trans hrun
      obtain ⟨session', hsession', hscope', hexited'⟩ :=
        hbc.exited hsecond middle hmiddle hmiddleRun
      exact ⟨session', hsession', hscope'.trans hscope, hexited'⟩

/-- Nothing was recovered. -/
theorem outlived_of_eq {rt rt' : Runtime} (hleads : rt.db.roster.Leads rt'.db.roster)
    (hsame : rt'.db.reactivationsOf runId = rt.db.reactivationsOf runId) :
    Outlived runId rt rt' :=
  ⟨hleads, Nat.le_of_eq hsame.symm, fun hmore => absurd hmore (by rw [hsame]; exact lt_irrefl _)⟩

/-- Only a recovery writes one. -/
theorem Issues.recovers {rt : Runtime} {command : Command} (h : Issues config runId rt command) :
    .reactivations ∉ command.writes ∨ ∃ ctx requestFingerprint reason,
      ctx.runId = runId ∧ command = .recoverRun ctx requestFingerprint reason := by
  cases h with
  | alone command halone => exact .inl (still_of_alone halone).2
  | launch command hlaunches haccepting =>
      left
      cases command <;> first | (dsimp only [Command.writes]; decide) | cases hlaunches
  | recoverRun call => exact .inr ⟨_, _, _, rfl, rfl⟩
  | _ =>
      left
      dsimp only [Command.writes]
      decide

theorem Acts.outlived {rt rt' : Runtime} (h : Acts config runId rt rt')
    (hfenced : rt.db.roster.Fenced) : Outlived runId rt rt' := by
  cases h with
  | start sessionId haccepting hstartable => exact outlived_of_eq .refl rfl
  | remember handles power => exact outlived_of_eq .refl rfl
  | commit command hissues =>
      have hleads := command.exec_rosterMoves rt.db hfenced
      rcases hissues.recovers with hwrites | ⟨ctx, requestFingerprint, reason, hctx, rfl⟩
      · exact outlived_of_eq hleads (Db.reactivationsOf_exec hwrites rt.db)
      · refine ⟨hleads, hissues.stopsOn.reactivations, fun hmore session hsession hrun => ?_⟩
        rcases exec_recoverRun_cases ctx requestFingerprint reason rt.db with
          hkept | ⟨-, report, before, after, hbefore, -, hreactivated, -⟩
        · rw [hkept] at hmore
          exact absurd hmore (lt_irrefl _)
        · obtain ⟨shutdown, hstopped, -⟩ := hreactivated.stopped
          have hsame : before.sessions = rt.db.sessions := hbefore.writesOnly .sessions (by decide)
          have hkept : ((Command.recoverRun ctx requestFingerprint reason).exec rt.db).sessions =
              rt.db.sessions :=
            Command.exec_writesOnly _ rt.db .sessions (by dsimp only [Command.writes]; decide)
          have hsettled := hstopped.settled session (hsame ▸ hsession) (hrun.trans hctx.symm)
          simp only [Db.sessionSettled, Bool.and_eq_true, beq_iff_eq] at hsettled
          refine ⟨session, ?_, rfl, hsettled.1.1.1.1⟩
          show session ∈ ((Command.recoverRun ctx requestFingerprint reason).exec rt.db).sessions
          rw [hkept]
          exact hsession

theorem Acting.outlived {rt rt' : Runtime} (h : Acting config runId rt rt')
    (hfenced : rt.db.roster.Fenced) : Outlived runId rt rt' := by
  induction h with
  | refl => exact outlived_of_eq .refl rfl
  | tail _ hlast ih => exact ih.trans hfenced (hlast.outlived (hfenced.leads ih.leads))

end Sessions

/-! ## Repeated requests -/

section Requests

variable {config : EffectiveConfig} {runId : RunId} {reports : List RunRecoveryReport}
  {report : RunRecoveryReport} {rt : Runtime}

theorem exists_reports {events : List EventRecord}
    (h : List.Forall₂ EventRecord.Reports events reports) (hreport : report ∈ reports) :
    ∃ event ∈ events, event.Reports report := by
  induction h with
  | nil => cases hreport
  | cons hfirst _ ih =>
      rcases List.mem_cons.mp hreport with rfl | hrest
      · exact ⟨_, List.mem_cons_self, hfirst⟩
      · obtain ⟨event, hevent, hreports⟩ := ih hrest
        exact ⟨event, List.mem_cons_of_mem _ hevent, hreports⟩

theorem exists_report {events : List EventRecord} {event : EventRecord}
    (h : List.Forall₂ EventRecord.Reports events reports) (hevent : event ∈ events) :
    ∃ report ∈ reports, event.Reports report := by
  induction h with
  | nil => cases hevent
  | cons hfirst _ ih =>
      rcases List.mem_cons.mp hevent with rfl | hrest
      · exact ⟨_, List.mem_cons_self, hfirst⟩
      · obtain ⟨report, hreport, hreports⟩ := ih hrest
        exact ⟨report, List.mem_cons_of_mem _ hreport, hreports⟩

/-- A stop that was undone is found by its operation. -/
theorem Db.Cycled.stopRecovered {db : Db} (h : db.Cycled runId reports)
    (hreport : report ∈ reports) :
    db.stopRecovered runId report.previousStopOperationId = true := by
  obtain ⟨event, hevent, hreports⟩ := exists_reports h.events hreport
  obtain ⟨hlogged, hrun⟩ := List.mem_filter.mp hevent
  have hpath : event.payload.path? ["data", "recovery", "previous_stop_operation_id"] =
      some (.str report.previousStopOperationId.text) := by
    refine (event.payload.path?_append ["data", "recovery"] _).trans ?_
    rw [hreports.payload]
    rfl
  refine List.any_eq_true.mpr ⟨event, (List.mem_filter.mp hlogged).1, ?_⟩
  rw [hrun, hreports.eventType, hpath]
  simp only [beq_self_eq_true, Bool.and_self]

theorem Db.Cycled.of_stopRecovered {db : Db} {operationId : OperationId}
    (h : db.Cycled runId reports) (hrecovered : db.stopRecovered runId operationId = true) :
    ∃ report ∈ reports, report.previousStopOperationId = operationId := by
  obtain ⟨event, hevent, hmatch⟩ := List.any_eq_true.mp hrecovered
  simp only [Bool.and_eq_true, beq_iff_eq] at hmatch
  obtain ⟨⟨hrun, hkind⟩, hpath⟩ := hmatch
  have hlogged : event ∈ db.recoveriesOf runId := by
    refine List.mem_filter.mpr ⟨List.mem_filter.mpr ⟨hevent, ?_⟩, ?_⟩
    · unfold EventRecord.part
      rw [hkind]
      rfl
    · rw [hrun]
      exact beq_self_eq_true runId
  obtain ⟨report, hreport, hreports⟩ := exists_report h.events hlogged
  refine ⟨report, hreport, ?_⟩
  rw [show ["data", "recovery", "previous_stop_operation_id"] =
    ["data", "recovery"] ++ ["previous_stop_operation_id"] from rfl, JsonValue.path?_append,
    hreports.payload] at hpath
  have htext : JsonValue.str report.previousStopOperationId.text = .str operationId.text :=
    Option.some.inj hpath
  exact Id.text_inj.mp (JsonValue.str.inj htext)

/-- The stop that a recovery undid is answered from its operation, and nothing else happens. -/
theorem requestStop_undone (h : rt.db.Cycled runId reports) (hreport : report ∈ reports)
    (nowMs : Int) :
    (requestStop config runId report.previousStopOperationId nowMs).run rt =
      (.ok (some (shuttingDownResponse runId report.previousStopOperationId)), rt) := by
  obtain ⟨row, hrow, hrun, hkind, hstatus, hresult⟩ := h.undone report hreport
  have hfound : rt.db.recoveredShutdownResult runId report.previousStopOperationId =
      .ok (some (shuttingDownResponse runId report.previousStopOperationId)) := by
    unfold Db.recoveredShutdownResult
    have hcompleted : (row.runId == runId && row.kind == "run.stop" &&
        row.status == .completed) = true := by
      rw [hrun, hkind, hstatus]
      simp only [beq_self_eq_true, Bool.and_self]
    rw [if_neg (by simp [h.stopRecovered hreport]), hrow, Option.filter_some, if_pos hcompleted]
    dsimp only
    rw [hresult]
    dsimp only
    rw [if_pos rfl]
  unfold requestStop consult
  rw [Tx.run_bind_of_ok (Tx.run_read _ _)]
  dsimp only
  rw [hfound]
  rfl

/-- A stop under another operation than the recorded one changes nothing; it is answered only when
    it was undone by a recovery. -/
theorem requestStop_other {shutdown : RunShutdown} {operationId : OperationId}
    (hfound : rt.db.runShutdown runId = some shutdown) (nowMs : Int)
    (hother : operationId ≠ shutdown.operationId) :
    ((requestStop config runId operationId nowMs).run rt).2.db = rt.db ∧
      ∀ response, ((requestStop config runId operationId nowMs).run rt).1 = .ok response →
        rt.db.stopRecovered runId operationId = true := by
  have hrefused : ∀ u db, (recordStop config runId operationId nowMs).run rt.db ≠ (.ok u, db) := by
    intro u db hrun
    rcases beginRunShutdown_ok hrun with ⟨found, hsome, hsame, -⟩ | hbegun
    · obtain rfl := Option.some.inj (hfound.symm.trans hsome)
      exact hother hsame.symm
    · rw [hbegun.unrecorded] at hfound
      cases hfound
  unfold requestStop consult
  rw [Tx.run_bind_of_ok (Tx.run_read _ _)]
  dsimp only
  cases hrecovered : rt.db.recoveredShutdownResult runId operationId with
  | error error => exact ⟨rfl, fun _ herror => by cases herror⟩
  | ok result =>
      cases result with
      | some response =>
          refine ⟨rfl, fun _ _ => ?_⟩
          unfold Db.recoveredShutdownResult at hrecovered
          split at hrecovered
          · cases hrecovered
          · next hmissing => simpa using hmissing
      | none =>
          rcases transact_cases (recordStop config runId operationId nowMs) rt with
            ⟨u, db, power, hrun, -⟩ | ⟨error, power, hrun⟩
          · exact absurd hrun (hrefused u db)
          · rw [show (Tx.ofExcept (Except.mapError (fun error => refused (.state error))
              (.ok none)) : Program (Option JsonValue)) = pure none from rfl, Tx.run_bind_of_ok
                (Tx.run_pure _ _)]
            dsimp only
            rw [Tx.run_bind_of_error hrun]
            exact ⟨rfl, fun _ herror => by cases herror⟩

/-- A repeated recovery changes nothing, and is answered with the recorded report. -/
theorem requestRecovery_recorded (h : rt.db.Cycled runId reports) (hreport : report ∈ reports)
    (call : RecoveryCall) (hid : call.operationId = report.operationId) :
    ((requestRecovery runId call).run rt).2.db = rt.db ∧
      ∀ response, ((requestRecovery runId call).run rt).1 = .ok response →
        response = report.toJson := by
  obtain ⟨row, hrow, -, -, -, hresult⟩ := h.recovered report hreport
  rw [← hid] at hrow
  have hreplayed : ∀ response db, (recordRecovery runId call).run rt.db = (.ok response, db) →
      response = report.toJson ∧ db = rt.db := by
    intro response db hrun
    obtain ⟨outcome, db₁, hmutation, hrest⟩ := Tx.bind_eq_ok.mp hrun
    obtain ⟨rfl, rfl⟩ := Tx.pure_eq_ok.mp hrest
    obtain ⟨found, _, hfound, hreplay⟩ := Tx.bind_eq_ok.mp hmutation
    obtain ⟨hrecorded, rfl⟩ := Tx.read_eq_ok.mp hfound
    obtain rfl : some row = found := hrow.symm.trans hrecorded
    dsimp only at hreplay
    unfold replayOperation at hreplay
    split at hreplay
    · cases hreplay
    · split at hreplay
      · cases hreplay
      · rw [hresult] at hreplay
        obtain ⟨result, _, hdecode, hlast⟩ := Tx.bind_eq_ok.mp hreplay
        obtain ⟨hjson, rfl⟩ := Tx.ofExcept_eq_ok.mp hdecode
        obtain ⟨rfl, rfl⟩ := Tx.pure_eq_ok.mp hlast
        exact ⟨(Except.ok.inj hjson).symm, rfl⟩
  have htransact : ((transact (recordRecovery runId call)).run rt).2.db = rt.db ∧
      ∀ response, ((transact (recordRecovery runId call)).run rt).1 = .ok response →
        response = report.toJson := by
    rcases transact_cases (recordRecovery runId call) rt with
      ⟨response, db, power, hrun, -, hok⟩ | ⟨error, power, herror⟩
    · obtain ⟨hresponse, hdb⟩ := hreplayed response db hrun
      rw [hok]
      exact ⟨hdb, fun other hother => (Except.ok.inj hother).symm.trans hresponse⟩
    · rw [herror]
      exact ⟨rfl, fun _ hother => by cases hother⟩
  unfold requestRecovery consult
  rw [Tx.run_bind, Tx.run_require]
  cases isBlank call.reason with
  | true => exact ⟨rfl, fun _ hother => by cases hother⟩
  | false =>
      simp only [Bool.not_false, if_true]
      rw [Tx.run_bind_of_ok (Tx.run_read _ _), hrow]
      exact htransact

end Requests

/-! ## Every run -/

section Runs

/-- In every run of the supervisor, cut off anywhere and continued after restarts: the reports of
    its recoveries only grow, each with an operation of its own and with a completed stop of its
    own.  Sessions that were on record before a recovery have exited after it, and their credentials
    are revoked.  A stop that was undone and a recovery that was made are answered from the record
    when they are repeated, and a second stop beside the recorded one changes nothing. -/
theorem stop_cycles (config : EffectiveConfig) (runId : RunId)
    (before after : List SupervisorStep) :
    ∃ reports later,
      ((supervisorMachine config runId).run before).db.Cycled runId reports ∧
      ((supervisorMachine config runId).run (before ++ after)).db.Cycled runId
        (reports ++ later) ∧
      (later ≠ [] → ∀ session ∈ ((supervisorMachine config runId).run before).db.sessions,
        session.runId = runId →
          (∃ session' ∈ ((supervisorMachine config runId).run (before ++ after)).db.sessions,
            session'.scope = session.scope ∧ session'.state = .exited) ∧
          ∀ credential ∈
            ((supervisorMachine config runId).run (before ++ after)).db.sessionCredentials,
            credential.sessionId = session.id → credential.revokedAt ≠ none) ∧
      (∀ report ∈ reports, ∀ nowMs,
        (requestStop config runId report.previousStopOperationId nowMs).run
            ((supervisorMachine config runId).run (before ++ after)) =
          (.ok (some (shuttingDownResponse runId report.previousStopOperationId)),
            (supervisorMachine config runId).run (before ++ after))) ∧
      (∀ report ∈ reports, ∀ call : RecoveryCall, call.operationId = report.operationId →
        ((requestRecovery runId call).run
            ((supervisorMachine config runId).run (before ++ after))).2.db =
          ((supervisorMachine config runId).run (before ++ after)).db ∧
        ∀ response, ((requestRecovery runId call).run
          ((supervisorMachine config runId).run (before ++ after))).1 = .ok response →
            response = report.toJson) ∧
      ∀ shutdown,
        ((supervisorMachine config runId).run before).db.runShutdown runId = some shutdown →
        ∀ operationId nowMs, operationId ≠ shutdown.operationId →
          ((requestStop config runId operationId nowMs).run
              ((supervisorMachine config runId).run before)).2.db =
            ((supervisorMachine config runId).run before).db ∧
          ∀ response, ((requestStop config runId operationId nowMs).run
              ((supervisorMachine config runId).run before)).1 = .ok response →
            ∃ report ∈ reports, report.previousStopOperationId = operationId := by
  have hempty : Runtime.empty.Cycled runId [] :=
    ⟨⟨Roster.fenced_empty, stopHolds_empty runId⟩, cycled_empty runId⟩
  obtain ⟨reports, hbefore⟩ := (acting_run config runId before).cycled hempty
  rw [List.nil_append] at hbefore
  have hacting := acting_after config runId before after
  obtain ⟨later, hafter⟩ := hacting.cycled hbefore
  have houtlived := hacting.outlived hbefore.stop.fenced
  have hold : ∀ report ∈ reports, report ∈ reports ++ later :=
    fun report hreport => List.mem_append_left _ hreport
  refine ⟨reports, later, hbefore.recoveries, hafter.recoveries, ?_, ?_, ?_, ?_⟩
  · intro hlater session hsession hrun
    have hcount : ∀ {db : Db} {reports : List RunRecoveryReport}, db.Cycled runId reports →
        db.reactivationsOf runId = reports.length := by
      intro db reports h
      rw [← h.events.length_eq, Db.reactivationsOf, Db.recoveriesOf, List.countP_eq_length_filter]
    have hmore : ((supervisorMachine config runId).run before).db.reactivationsOf runId <
        ((supervisorMachine config runId).run (before ++ after)).db.reactivationsOf runId := by
      rw [hcount hbefore.recoveries, hcount hafter.recoveries, List.length_append]
      have := List.length_pos_of_ne_nil hlater
      omega
    obtain ⟨session', hsession', hscope, hexited⟩ :=
      houtlived.exited hmore session hsession hrun
    refine ⟨⟨session', hsession', hscope, hexited⟩, fun credential hcredential hid => ?_⟩
    have hsame : credential.sessionId = session'.id :=
      hid.trans (congrArg SessionScope.sessionId hscope).symm
    exact hafter.stop.fenced.revoked hsession' (by rw [hexited]; rfl) hcredential hsame
  · intro report hreport nowMs
    exact requestStop_undone hafter.recoveries (hold report hreport) nowMs
  · intro report hreport call hid
    exact requestRecovery_recorded hafter.recoveries (hold report hreport) call hid
  · intro shutdown hfound operationId nowMs hother
    obtain ⟨hdb, hanswered⟩ := requestStop_other hfound nowMs hother
    exact ⟨hdb, fun response hresponse =>
      hbefore.recoveries.of_stopRecovered (hanswered response hresponse)⟩

end Runs

end Coterie
