/-
  Coterie.Supervisor.Clock

  What the wall clock decides.  A credential may not be revoked before it was created
  (`migrations/0003_session_credentials.sql`), and a message may not be acknowledged before it was
  sent (`migrations/0004_durable_messages.sql`).  Both readings come from the system clock, which
  may step back in between.

  An operation that some reading commits is committed at another reading exactly when that reading
  `Fits`: when it is not before the creation of what the operation closes.  The event loop
  (`supervisor.rs`: `serve`) ends at the first poll that fails.
-/

import Coterie.Sessions.CrashLoop
import Coterie.Sessions.LaunchBound
import Coterie.Sessions.Recording
import Coterie.Supervisor.Controls

namespace Coterie

/-! ## A lifecycle change without its time -/

/-- What becomes of an observation, as far as its time is not concerned. -/
def Db.sessionTransition (db : Db) (scope : SessionScope) (observed : LifecycleState) :
    Except StoreError SessionTransitionOutcome :=
  match db.session scope.sessionId with
  | none => .ok .stale
  | some session =>
      if ¬ db.sessionScopeIsCurrent scope then .ok .stale
      else
        match db.agent scope.agentId with
        | none => .ok .stale
        | some agent =>
            if agent.runId ≠ scope.runId ∨ agent.generation ≠ scope.generation then .ok .stale
            else if agent.state ≠ session.state then
              .error (.inconsistentSessionLifecycle session.id agent.id)
            else if session.state = observed then .ok .unchanged
            else if ¬ session.mayObserve observed then
              .error (.invalidSessionTransition session.id session.state observed)
            else .ok .applied

/-- The observation revokes the credential. -/
def Db.revokes (db : Db) (scope : SessionScope) (observed : LifecycleState)
    (row : SessionCredentialRecord) : Prop :=
  db.sessionTransition scope observed = .ok .applied ∧ observed.isTerminal = true ∧
    row.sessionId = scope.sessionId ∧ row.revokedAt = none

/-- The reading is not before the creation of a credential that the observation revokes. -/
def Db.RevokesInTime (db : Db) (scope : SessionScope) (observed : LifecycleState) (now : Int) :
    Prop :=
  ∀ row ∈ db.sessionCredentials, db.revokes scope observed row → row.createdAt ≤ now

/-- Apart from its time, the outcome of a change is known before anything is written. -/
theorem recordSessionLifecycle_run (scope : SessionScope) (observed : LifecycleState)
    (observedAt : Int) (db : Db) :
    (recordSessionLifecycle scope observed observedAt).run db =
      match db.sessionTransition scope observed with
      | .error e => (.error e, db)
      | .ok .applied =>
          if (!observed.isTerminal || db.sessionCredentials.all fun row =>
              row.sessionId != scope.sessionId || row.revokedAt != none ||
                row.createdAt ≤ observedAt) = true then
            (.ok .applied, db.applySessionLifecycle scope observed observedAt)
          else (.error (.database (.check "session_credentials.revoked_at")), db)
      | .ok outcome => (.ok outcome, db) := by
  unfold recordSessionLifecycle Db.sessionTransition
  rw [Tx.run_bind, Tx.run_read]
  cases db.session scope.sessionId with
  | none => rfl
  | some session =>
      dsimp only
      rw [Tx.run_bind, Tx.run_read]
      dsimp only
      by_cases hcurrent : ¬ db.sessionScopeIsCurrent scope = true
      · rw [if_pos hcurrent, if_pos hcurrent]
        rfl
      rw [if_neg hcurrent, if_neg hcurrent, Tx.run_bind, Tx.run_read]
      cases db.agent scope.agentId with
      | none => rfl
      | some agent =>
          dsimp only
          by_cases hscope : agent.runId ≠ scope.runId ∨ agent.generation ≠ scope.generation
          · rw [if_pos hscope, if_pos hscope]
            rfl
          rw [if_neg hscope, if_neg hscope]
          by_cases hstate : agent.state ≠ session.state
          · rw [if_pos hstate, if_pos hstate]
            rfl
          rw [if_neg hstate, if_neg hstate]
          by_cases hsame : session.state = observed
          · rw [if_pos hsame, if_pos hsame]
            rfl
          rw [if_neg hsame, if_neg hsame]
          by_cases hallowed : ¬ session.mayObserve observed = true
          · rw [if_pos hallowed, if_pos hallowed]
            rfl
          rw [if_neg hallowed, if_neg hallowed, constraint, Tx.run_bind, Tx.run_require]
          by_cases htime : (!observed.isTerminal || db.sessionCredentials.all fun row =>
              row.sessionId != scope.sessionId || row.revokedAt != none ||
                row.createdAt ≤ observedAt) = true
          · rw [if_pos htime]
            dsimp only
            rw [if_pos htime]
            rfl
          · rw [if_neg htime]
            dsimp only
            rw [if_neg htime]

/-- The check on the column asks for the time of the change. -/
theorem revokesInTime_iff {scope : SessionScope} {observed : LifecycleState} {observedAt : Int}
    {db : Db} (h : db.sessionTransition scope observed = .ok .applied) :
    db.RevokesInTime scope observed observedAt ↔
      (!observed.isTerminal || db.sessionCredentials.all fun row =>
        row.sessionId != scope.sessionId || row.revokedAt != none ||
          row.createdAt ≤ observedAt) = true := by
  unfold Db.RevokesInTime Db.revokes
  rw [h]
  cases observed.isTerminal with
  | false => simp
  | true =>
      simp only [Bool.not_true, Bool.false_or, List.all_eq_true, true_and]
      refine forall₂_congr fun row _ => ?_
      simp only [Bool.or_eq_true, bne_iff_ne, decide_eq_true_eq]
      grind

/-- A change is recorded when nothing but its time could speak against it and its time does not. -/
theorem recordSessionLifecycle_commits {scope : SessionScope} {observed : LifecycleState}
    {observedAt : Int} {db : Db} :
    (∃ outcome db', (recordSessionLifecycle scope observed observedAt).run db =
        (.ok outcome, db')) ↔
      (∃ outcome, db.sessionTransition scope observed = .ok outcome) ∧
        db.RevokesInTime scope observed observedAt := by
  rw [recordSessionLifecycle_run]
  have hvacuous : db.sessionTransition scope observed ≠ .ok .applied →
      db.RevokesInTime scope observed observedAt :=
    fun hother _ _ hrevokes => absurd hrevokes.1 hother
  cases htransition : db.sessionTransition scope observed with
  | error e => simp
  | ok outcome =>
      cases outcome with
      | applied =>
          dsimp only
          rw [revokesInTime_iff htransition]
          split
          · next htime => exact iff_of_true ⟨_, _, rfl⟩ ⟨⟨_, rfl⟩, htime⟩
          · next htime => exact iff_of_false (by simp) fun h => htime h.2
      | unchanged => exact iff_of_true ⟨_, _, rfl⟩ ⟨⟨_, rfl⟩, hvacuous (by simp [htransition])⟩
      | stale => exact iff_of_true ⟨_, _, rfl⟩ ⟨⟨_, rfl⟩, hvacuous (by simp [htransition])⟩

/-! ## What a transition reads -/

/-- What the transition table reads of a session. -/
def SessionRecord.life (row : SessionRecord) :
    SessionScope × LifecycleState × SessionProcessOwner :=
  (row.scope, row.state, row.processOwner)

/-- Nothing changes that decides a transition or its time. -/
structure Db.SameLife (db db' : Db) : Prop where
  runs : db'.runs = db.runs
  agents : db'.agents = db.agents
  sessions : db'.sessions.map (·.life) = db.sessions.map (·.life)
  sessionCredentials : db'.sessionCredentials = db.sessionCredentials
  recoveries : db'.eventsIn .recoveries = db.eventsIn .recoveries

instance : Std.Refl Db.SameLife where
  refl _ := ⟨rfl, rfl, rfl, rfl, rfl⟩

instance : IsTrans Db Db.SameLife where
  trans _ _ _ hab hbc :=
    ⟨hbc.runs.trans hab.runs, hbc.agents.trans hab.agents, hbc.sessions.trans hab.sessions,
      hbc.sessionCredentials.trans hab.sessionCredentials, hbc.recoveries.trans hab.recoveries⟩

theorem Db.sessionRecovered_eq (db : Db) (runId : RunId) (sessionId : SessionId) :
    db.sessionRecovered runId sessionId =
      (db.eventsIn .recoveries).any fun event => event.runId == runId &&
        event.eventType == .taskRecovered &&
          event.payload.path? ["data", "session_id"] == some (.str sessionId.text) := by
  unfold Db.sessionRecovered Db.eventsIn
  rw [List.any_filter]
  refine congrArg db.events.any (funext fun event => ?_)
  by_cases hkind : event.eventType = .taskRecovered
  · simp [EventRecord.part, EventKind.part, hkind]
  · simp [hkind]

namespace Db.SameLife

variable {db db' : Db}

/-- The session is found with the same life, or not at all. -/
theorem session (h : db.SameLife db') (id : SessionId) :
    (db'.session id).map (·.life) = (db.session id).map (·.life) := by
  have hfind : ∀ rows : List SessionRecord, (rows.find? (·.id == id)).map (·.life) =
      (rows.map (·.life)).find? (·.1.sessionId == id) := by
    intro rows
    rw [List.find?_map]
    rfl
  unfold Db.session
  rw [hfind, hfind, h.sessions]

theorem sessionScopeIsCurrent (h : db.SameLife db') (scope : SessionScope) :
    db'.sessionScopeIsCurrent scope = db.sessionScopeIsCurrent scope := by
  have hsessions : ∀ rows : List SessionRecord, (rows.any fun session =>
      session.id == scope.sessionId && session.runId == scope.runId &&
        session.agentId == scope.agentId && session.generation == scope.generation) =
      (rows.map (·.life)).any fun life =>
        life.1.sessionId == scope.sessionId && life.1.runId == scope.runId &&
          life.1.agentId == scope.agentId && life.1.generation == scope.generation := by
    intro rows
    rw [List.any_map]
    rfl
  unfold Db.sessionScopeIsCurrent
  rw [hsessions, hsessions, h.sessions, h.agents, h.runs, Db.sessionRecovered_eq,
    Db.sessionRecovered_eq, h.recoveries]

theorem sessionTransition (h : db.SameLife db') (scope : SessionScope)
    (observed : LifecycleState) :
    db'.sessionTransition scope observed = db.sessionTransition scope observed := by
  have hsession := h.session scope.sessionId
  have hagent : db'.agent scope.agentId = db.agent scope.agentId := by
    unfold Db.agent
    rw [h.agents]
  unfold Db.sessionTransition
  rw [h.sessionScopeIsCurrent, hagent]
  cases hfound : db.session scope.sessionId with
  | none =>
      rw [hfound, Option.map_none, Option.map_eq_none_iff] at hsession
      rw [hsession]
  | some session =>
      rw [hfound, Option.map_some, Option.map_eq_some_iff] at hsession
      obtain ⟨session', hfound', hlife⟩ := hsession
      have hid : session'.id = session.id := congrArg (·.1.sessionId) hlife
      have hstate : session'.state = session.state := congrArg (·.2.1) hlife
      have howner : session'.processOwner = session.processOwner := congrArg (·.2.2) hlife
      have hmay : session'.mayObserve observed = session.mayObserve observed := by
        unfold SessionRecord.mayObserve
        rw [hstate, howner]
      rw [hfound']
      dsimp only
      rw [hid, hstate, hmay]

theorem revokesInTime (h : db.SameLife db') (scope : SessionScope) (observed : LifecycleState)
    (now : Int) :
    db'.RevokesInTime scope observed now ↔ db.RevokesInTime scope observed now := by
  unfold Db.RevokesInTime Db.revokes
  rw [h.sessionTransition, h.sessionCredentials]

end Db.SameLife

theorem life_updateSession (db : Db) (scope : SessionScope) {f : SessionRecord → SessionRecord}
    (hf : ∀ row, (f row).life = row.life) :
    (db.updateSession scope f).sessions.map (·.life) = db.sessions.map (·.life) :=
  Table.map_updateWhere (fun row _ => hf row) db.sessions

theorem sameLife_of_written {tables : List TableName} {db db' : Db} (h : Written tables db db')
    (hruns : .runs ∉ tables) (hagents : .agents ∉ tables) (hsessions : .sessions ∉ tables)
    (hcredentials : .sessionCredentials ∉ tables) (hrecoveries : .recoveries ∉ tables) :
    db.SameLife db' := by
  have hsame : db'.sessions = db.sessions := h.writesOnly .sessions hsessions
  exact ⟨h.writesOnly .runs hruns, h.writesOnly .agents hagents, by rw [hsame],
    h.writesOnly .sessionCredentials hcredentials, h.writesOnly .recoveries hrecoveries⟩

/-- The event of a current session is appended. -/
theorem appendEvent_current {scope : SessionScope} {event : NewEvent} {db : Db}
    (hrun : db.runs.any (·.id == scope.runId) = true)
    (hagent : (db.agents.any fun agent =>
      agent.id == scope.agentId && agent.runId == scope.runId) = true)
    (hscope : event.runId = scope.runId ∧ event.projectId = none ∧
      event.agentId = some scope.agentId ∧ event.taskId = none ∧ event.operationId = none) :
    (appendEvent event).run db = (.ok (), db.pushEvent event) := by
  obtain ⟨hrunId, hproject, hagentId, htask, hoperation⟩ := hscope
  have hreferences : db.eventReferencesHold event = true := by
    unfold Db.eventReferencesHold
    rw [hrunId, hproject, hagentId, htask, hoperation, hrun]
    simpa using hagent
  unfold appendEvent constraint
  rw [Tx.run_bind, Tx.run_require, if_pos hreferences]
  rfl

/-! ## Reports about sessions -/

/-- The failure of a session is recorded at any reading. -/
theorem recordSessionFailure_commits (scope : SessionScope) (now : Int)
    (policy : SupervisionPolicy) (db : Db) :
    ∃ quarantined db', (recordSessionFailure scope now policy).run db = (.ok quarantined, db') := by
  cases hcurrent : db.sessionScopeIsCurrent scope with
  | false => exact ⟨_, _, recordSessionFailure_fenced hcurrent⟩
  | true =>
      cases hknown : db.sessionFailures.any (·.sessionId == scope.sessionId) with
      | true => exact ⟨_, _, recordSessionFailure_replayed hcurrent hknown⟩
      | false =>
          obtain ⟨db', hrun, -⟩ := recordSessionFailure_first now policy hcurrent hknown
          exact ⟨_, db', hrun⟩

/-- The lifecycle to record is found at any reading. -/
theorem observedLifecycle_commits (scope : SessionScope) (session : SessionRecord)
    (observation : SessionObservation) (now : Int) (policy : SupervisionPolicy) (db : Db) :
    ∃ lifecycle db', (observedLifecycle scope session observation now policy).run db =
        (.ok lifecycle, db') ∧ db.SameLife db' := by
  have hsame : ∀ {lifecycle db'}, (observedLifecycle scope session observation now policy).run db =
      (.ok lifecycle, db') → db.SameLife db' := by
    intro lifecycle db' hrun
    have hwritten : Written [.sessionFailures, .events] db db' :=
      (writes_observedLifecycle _ _ _ _ _).of_ok hrun
    exact sameLife_of_written hwritten (by decide) (by decide) (by decide) (by decide) (by decide)
  have hrun : ∃ lifecycle db', (observedLifecycle scope session observation now policy).run db =
      (.ok lifecycle, db') := by
    unfold observedLifecycle
    split
    · obtain ⟨quarantined, db', hrun⟩ := recordSessionFailure_commits scope now policy db
      exact ⟨_, db', Tx.bind_eq_ok.mpr ⟨quarantined, db', hrun, rfl⟩⟩
    · exact ⟨_, db, rfl⟩
  obtain ⟨lifecycle, db', hrun⟩ := hrun
  exact ⟨lifecycle, db', hrun, hsame hrun⟩

/-- A reconciliation state is recorded at any reading. -/
theorem recordReconciliationState_commits (scope : SessionScope) (session : SessionRecord)
    (actor : String) (state : ExternalResourceState) (now : Int) (db : Db) :
    ∃ db', (recordReconciliationState scope session actor state now).run db = (.ok (), db') ∧
      db.SameLife db' := by
  have hstill : ∀ outcome : SessionTransitionOutcome, outcome ≠ .applied →
      (recordSessionReconciliationState scope state now).run db = (.ok outcome, db) →
      ∃ db', (recordReconciliationState scope session actor state now).run db = (.ok (), db') ∧
        db.SameLife db' := by
    intro outcome hother hrun
    refine ⟨db, Tx.bind_eq_ok.mpr ⟨outcome, db, hrun, ?_⟩, Std.Refl.refl db⟩
    unfold Tx.when
    rw [if_neg hother]
    rfl
  cases hfound : db.session scope.sessionId with
  | none =>
      refine hstill .stale (by decide) ?_
      rw [recordSessionReconciliationState, Tx.run_bind, Tx.run_read, hfound]
      rfl
  | some row =>
      cases hcurrent : db.sessionScopeIsCurrent scope with
      | false =>
          refine hstill .stale (by decide) ?_
          rw [recordSessionReconciliationState, Tx.run_bind, Tx.run_read, hfound]
          dsimp only
          rw [Tx.run_bind, Tx.run_read, hcurrent]
          rfl
      | true =>
          by_cases hsame : row.reconciliationState = state
          · refine hstill .unchanged (by decide) ?_
            rw [recordSessionReconciliationState, Tx.run_bind, Tx.run_read, hfound]
            dsimp only
            rw [Tx.run_bind, Tx.run_read, hcurrent]
            dsimp only
            rw [if_neg (by simp), if_pos hsame]
            rfl
          · have hrun : (recordSessionReconciliationState scope state now).run db =
                (.ok .applied, db.updateSession scope fun row =>
                  { row with reconciliationState := state, reconciledAt := some now }) := by
              rw [recordSessionReconciliationState, Tx.run_bind, Tx.run_read, hfound]
              dsimp only
              rw [Tx.run_bind, Tx.run_read, hcurrent]
              dsimp only
              rw [if_neg (by simp), if_neg hsame]
              rfl
            obtain ⟨hrunRow, hagentRow⟩ := references_of_current hcurrent
            have hevent : (appendEvent (sessionReconciliationEvent scope actor
                session.reconciliationState state now)).run (db.updateSession scope fun row =>
                  { row with reconciliationState := state, reconciledAt := some now }) =
                (.ok (), _) :=
              appendEvent_current hrunRow hagentRow ⟨rfl, rfl, rfl, rfl, rfl⟩
            refine ⟨_, Tx.bind_eq_ok.mpr ⟨.applied, _, hrun, hevent⟩, ?_⟩
            refine ⟨rfl, rfl, ?_, rfl, Db.eventsIn_pushEvent (by intro h; cases h)⟩
            exact life_updateSession db scope fun row => rfl

/-- What becomes of the process of a session is known before anything is written. -/
theorem recordSessionLaunchObservation_run {scope : SessionScope} {db : Db}
    {session : SessionRecord} (hfound : db.session scope.sessionId = some session)
    (providerSessionId : String) (observedAt : Int) :
    (recordSessionLaunchObservation scope providerSessionId observedAt).run db =
      if ¬ db.sessionScopeIsCurrent scope then (.ok .stale, db)
      else if session.reconciliationState = .observed ∧
          session.providerSessionId = some providerSessionId then (.ok .unchanged, db)
      else (.ok .applied, db.updateSession scope fun row =>
        { row with
          providerSessionId := some providerSessionId
          reconciliationState := .observed
          reconciledAt := some observedAt }) := by
  unfold recordSessionLaunchObservation
  rw [Tx.run_bind, Tx.run_read, hfound]
  dsimp only
  rw [Tx.run_bind, Tx.run_read]
  dsimp only
  split
  · rfl
  · split <;> rfl

/-- The process of a session is recorded at any reading. -/
theorem recordLaunchObservation_commits (scope : SessionScope) (providerSessionId : String)
    (now : Int) (db : Db) :
    ∃ db', (recordLaunchObservation scope providerSessionId now).run db = (.ok (), db') ∧
      db.SameLife db' := by
  unfold recordLaunchObservation
  rw [Tx.run_bind, Tx.run_read]
  cases hfound : db.session scope.sessionId with
  | none => exact ⟨db, rfl, Std.Refl.refl db⟩
  | some session =>
      dsimp only
      rw [Tx.run_bind, recordSessionLaunchObservation_run hfound]
      by_cases hcurrent : db.sessionScopeIsCurrent scope = true
      · rw [if_neg (not_not.mpr hcurrent)]
        by_cases hsame : session.reconciliationState = .observed ∧
            session.providerSessionId = some providerSessionId
        · rw [if_pos hsame]
          exact ⟨db, rfl, Std.Refl.refl db⟩
        · rw [if_neg hsame]
          obtain ⟨hrunRow, hagentRow⟩ := references_of_current hcurrent
          have hevent : (appendEvent (launchObservedEvent scope "reconciler"
              session.reconciliationState providerSessionId now)).run
                (db.updateSession scope fun row =>
                  { row with
                    providerSessionId := some providerSessionId
                    reconciliationState := .observed
                    reconciledAt := some now }) = (.ok (), _) :=
            appendEvent_current hrunRow hagentRow ⟨rfl, rfl, rfl, rfl, rfl⟩
          refine ⟨_, hevent, ?_⟩
          refine ⟨rfl, rfl, ?_, rfl, Db.eventsIn_pushEvent (by intro h; cases h)⟩
          exact life_updateSession db scope fun row => rfl
      · rw [if_pos hcurrent]
        exact ⟨db, rfl, Std.Refl.refl db⟩

theorem runs_applySessionLifecycle (db : Db) (scope : SessionScope) (observed : LifecycleState)
    (now : Int) : (db.applySessionLifecycle scope observed now).runs = db.runs := by
  unfold Db.applySessionLifecycle
  dsimp only
  split <;> rfl

theorem agents_applySessionLifecycle (db : Db) (scope : SessionScope) (observed : LifecycleState)
    (now : Int) :
    (db.applySessionLifecycle scope observed now).agents =
      Table.updateWhere
        (fun agent => agent.id == scope.agentId && agent.runId == scope.runId &&
          agent.generation == scope.generation)
        (fun agent => { agent with state := observed }) db.agents := by
  unfold Db.applySessionLifecycle
  dsimp only
  split <;> rfl

/-- A lifecycle is recorded with its events exactly when the change alone is. -/
theorem recordLifecycle_commits {scope : SessionScope} {session : SessionRecord} {actor : String}
    {lifecycle : LifecycleState} {data : JsonValue} {now : Int} {db : Db} :
    (∃ db', (recordLifecycle scope session actor lifecycle data now).run db = (.ok (), db')) ↔
      (∃ outcome, db.sessionTransition scope lifecycle = .ok outcome) ∧
        db.RevokesInTime scope lifecycle now := by
  rw [← recordSessionLifecycle_commits]
  constructor
  · rintro ⟨db', hrun⟩
    obtain ⟨outcome, db₁, h₁, -⟩ := Tx.bind_eq_ok.mp hrun
    exact ⟨outcome, db₁, h₁⟩
  · rintro ⟨outcome, db₁, h₁⟩
    rcases recordSessionLifecycle_ok h₁ with ⟨hother, -⟩ | ⟨happlied, hcurrent, hdb₁⟩
    · refine ⟨db₁, Tx.bind_eq_ok.mpr ⟨outcome, db₁, h₁, ?_⟩⟩
      unfold Tx.when
      rw [if_neg hother]
      rfl
    · -- the events refer to the run and to the agent, which stay
      obtain ⟨hrunRow, hagentRow⟩ := references_of_current hcurrent.current
      have hruns : db₁.runs = db.runs := by
        rw [hdb₁, runs_applySessionLifecycle]
      have hagents : (db₁.agents.any fun agent =>
          agent.id == scope.agentId && agent.runId == scope.runId) = true := by
        have hrows : db₁.agents.map (fun agent => (agent.id, agent.runId)) =
            db.agents.map fun agent => (agent.id, agent.runId) := by
          rw [hdb₁, agents_applySessionLifecycle, Table.map_updateWhere]
          intro _ _
          rfl
        have hany : ∀ rows : List AgentRecord, (rows.any fun agent =>
            agent.id == scope.agentId && agent.runId == scope.runId) =
            (rows.map fun agent => (agent.id, agent.runId)).any fun ids =>
              ids.1 == scope.agentId && ids.2 == scope.runId := by
          intro rows
          rw [List.any_map]
          rfl
        rw [hany, hrows, ← hany]
        exact hagentRow
      rw [← hruns] at hrunRow
      have hfirst : (appendEvent (scope.event .sessionLifecycleChanged actor scope.sessionId.text
          data now)).run db₁ = (.ok (), _) :=
        appendEvent_current hrunRow hagents ⟨rfl, rfl, rfl, rfl, rfl⟩
      have hsecond : (appendEvent (agentLifecycleEvent scope actor session.state lifecycle
          now)).run (db₁.pushEvent (scope.event .sessionLifecycleChanged actor
            scope.sessionId.text data now)) = (.ok (), _) :=
        appendEvent_current hrunRow hagents ⟨rfl, rfl, rfl, rfl, rfl⟩
      subst happlied
      exact ⟨_, Tx.bind_eq_ok.mpr ⟨.applied, db₁, h₁, Tx.bind_eq_ok.mpr ⟨(), _, hfirst,
        hsecond⟩⟩⟩

/-- Two programs in a row, the first of which commits and keeps the lives. -/
theorem commits_after {α : Type} {x : Repo α} {f : α → Repo Unit} {a : α} {db db₁ : Db}
    (hx : x.run db = (.ok a, db₁)) :
    (∃ db', (x >>= f).run db = (.ok (), db')) ↔ ∃ db', (f a).run db₁ = (.ok (), db') := by
  rw [Tx.run_bind, hx]

/-- Nothing is recorded about an unknown session, at any reading. -/
theorem sessionTransition_unknown {scope : SessionScope} {db : Db}
    (h : db.session scope.sessionId = none) (observed : LifecycleState) (now : Int) :
    (∃ outcome, db.sessionTransition scope observed = .ok outcome) ∧
      db.RevokesInTime scope observed now := by
  have hstale : db.sessionTransition scope observed = .ok .stale := by
    unfold Db.sessionTransition
    rw [h]
  refine ⟨⟨_, hstale⟩, fun row _ hrevokes => ?_⟩
  rw [Db.revokes, hstale] at hrevokes
  cases hrevokes.1

/-- What the reconciler knows is recorded unless its time is against it. -/
theorem recordReconciliationIn_commits {scope : SessionScope} {state : ExternalResourceState}
    {lifecycle : LifecycleState} {now : Int} {db : Db} :
    (∃ db', (recordReconciliationIn scope state lifecycle now).run db = (.ok (), db')) ↔
      (∃ outcome, db.sessionTransition scope lifecycle = .ok outcome) ∧
        db.RevokesInTime scope lifecycle now := by
  unfold recordReconciliationIn
  rw [Tx.run_bind, Tx.run_read]
  cases hfound : db.session scope.sessionId with
  | none => exact iff_of_true ⟨db, rfl⟩ (sessionTransition_unknown hfound _ _)
  | some session =>
      obtain ⟨db₁, h₁, hsame⟩ :=
        recordReconciliationState_commits scope session "reconciler" state now db
      dsimp only
      rw [commits_after h₁, recordLifecycle_commits, hsame.sessionTransition,
        hsame.revokesInTime]

/-- A session that has not ended may end in one way or another. -/
theorem sessionTransition_ended {scope : SessionScope} {session : SessionRecord} {db : Db}
    (hfound : db.session scope.sessionId = some session) (hactive : session.state.isTerminal = false)
    {observed observed' : LifecycleState} (hends : observed.isTerminal = true)
    (hends' : observed'.isTerminal = true) :
    db.sessionTransition scope observed = db.sessionTransition scope observed' := by
  have hends_ne : ∀ {lifecycle : LifecycleState}, lifecycle.isTerminal = true →
      session.state ≠ lifecycle ∧ session.mayObserve lifecycle = true := by
    intro lifecycle hterminal
    constructor
    · intro heq
      rw [heq, hterminal] at hactive
      cases hactive
    · have hallows : session.state.allows lifecycle = true :=
        LifecycleState.allows_of_not_isTerminal hactive (by rintro rfl; cases hterminal)
      unfold SessionRecord.mayObserve
      rw [hallows, Bool.true_or]
  unfold Db.sessionTransition
  rw [hfound]
  dsimp only
  rw [if_neg (hends_ne hends).1, if_neg (hends_ne hends').1, (hends_ne hends).2,
    (hends_ne hends').2]
  simp only [not_true_eq_false, if_false]

/-- A report of a provider: a process that failed has exited. -/
structure ProviderReport where
  scope : SessionScope
  observation : SessionObservation
  policy : SupervisionPolicy
  exited : observation.failed = true → observation.lifecycle = .exited

/-- A report is recorded unless its time is against it. -/
theorem recordObservation_commits (report : ProviderReport) (now : Int) (db : Db) :
    (∃ db', (recordObservation report.scope report.observation now report.policy).run db =
        (.ok (), db')) ↔
      (∃ outcome, db.sessionTransition report.scope report.observation.lifecycle = .ok outcome) ∧
        db.RevokesInTime report.scope report.observation.lifecycle now := by
  unfold recordObservation
  rw [Tx.run_bind, Tx.run_read]
  cases hfound : db.session report.scope.sessionId with
  | none => exact iff_of_true ⟨db, rfl⟩ (sessionTransition_unknown hfound _ _)
  | some session =>
      obtain ⟨lifecycle, db₁, h₁, hsame₁⟩ := observedLifecycle_commits report.scope session
        report.observation now report.policy db
      obtain ⟨db₂, h₂, hsame₂⟩ := recordReconciliationState_commits report.scope session
        "provider" lifecycle.reconciliationState now db₁
      have hsame := IsTrans.trans _ _ _ hsame₁ hsame₂
      dsimp only
      rw [commits_after h₁, commits_after h₂, recordLifecycle_commits, hsame.sessionTransition,
        hsame.revokesInTime]
      rcases observedLifecycle_ok h₁ with rfl | ⟨rfl, hfailed, hactive⟩
      · rfl
      · -- the quarantine ends the session as the exit would have done
        have hsameEnd : db.sessionTransition report.scope .quarantined =
            db.sessionTransition report.scope .exited :=
          sessionTransition_ended hfound hactive rfl rfl
        rw [report.exited hfailed]
        unfold Db.RevokesInTime Db.revokes
        rw [hsameEnd]
        rfl

/-! ## Transactions at two readings -/

def RunRecord.timeless (row : RunRecord) : RunRecord :=
  { row with stoppedAt := row.stoppedAt.map fun _ => 0 }

def OperationRow.timeless (row : OperationRow) : OperationRow :=
  { row with createdAt := 0, updatedAt := 0, reconciledAt := none }

/-- The databases differ in times and in what no guard of a stop or of an acknowledgement reads. -/
structure Db.Alike (db db' : Db) : Prop where
  runs : db'.runs.map (·.timeless) = db.runs.map (·.timeless)
  projects : db'.projects = db.projects
  agents : db'.agents = db.agents
  tasks : db'.tasks = db.tasks
  runShutdowns : db'.runShutdowns = db.runShutdowns
  operations : db'.operations.map (·.timeless) = db.operations.map (·.timeless)

instance : Std.Refl Db.Alike where
  refl _ := ⟨rfl, rfl, rfl, rfl, rfl, rfl⟩

namespace Db.Alike

variable {db db' : Db}

/-- A test of the operations that asks for no time. -/
theorem any_operations (h : db.Alike db') {p : OperationRow → Bool}
    (hp : ∀ row, p row.timeless = p row) : db'.operations.any p = db.operations.any p := by
  have htimeless : ∀ rows : List OperationRow,
      rows.any p = (rows.map (·.timeless)).any p := by
    intro rows
    rw [List.any_map]
    exact congrArg rows.any (funext fun row => (hp row).symm)
  rw [htimeless, h.operations, ← htimeless]

theorem any_runs (h : db.Alike db') {p : RunRecord → Bool}
    (hp : ∀ row, p row.timeless = p row) : db'.runs.any p = db.runs.any p := by
  have htimeless : ∀ rows : List RunRecord, rows.any p = (rows.map (·.timeless)).any p := by
    intro rows
    rw [List.any_map]
    exact congrArg rows.any (funext fun row => (hp row).symm)
  rw [htimeless, h.runs, ← htimeless]

theorem operation (h : db.Alike db') (id : OperationId) :
    (db'.operation id).map (·.timeless) = (db.operation id).map (·.timeless) := by
  have hfind : ∀ rows : List OperationRow, (rows.find? (·.id == id)).map (·.timeless) =
      (rows.map (·.timeless)).find? (·.id == id) := by
    intro rows
    rw [List.find?_map]
    rfl
  unfold Db.operation
  rw [hfind, hfind, h.operations]

theorem eventReferencesHold (h : db.Alike db') (event : NewEvent) (now : Int) :
    db'.eventReferencesHold { event with createdAt := now } = db.eventReferencesHold event := by
  have hoperations : ∀ id : OperationId,
      (db'.operations.any fun o => o.id == id && o.runId == event.runId) =
        db.operations.any fun o => o.id == id && o.runId == event.runId :=
    fun id => h.any_operations fun row => rfl
  have hruns : db'.runs.any (·.id == event.runId) = db.runs.any (·.id == event.runId) :=
    h.any_runs fun row => rfl
  unfold Db.eventReferencesHold
  dsimp only
  simp only [hruns, hoperations, h.projects, h.agents, h.tasks]

/-- The same update at another time. -/
theorem updateOperation (h : db.Alike db') (id : OperationId) {f g : OperationRow → OperationRow}
    (hfg : ∀ row row' : OperationRow, row'.timeless = row.timeless →
      (g row').timeless = (f row).timeless) :
    (db.updateOperation id f).Alike (db'.updateOperation id g) := by
  refine ⟨h.runs, h.projects, h.agents, h.tasks, h.runShutdowns, ?_⟩
  refine Table.map_updateWhere_congr (fun row row' hsame => ?_) hfg h.operations
  have hid : row'.id = row.id := congrArg (·.id) hsame
  rw [hid]

theorem pushOperation (h : db.Alike db') {operation operation' : OperationRecord}
    (hsame : operation'.row.timeless = operation.row.timeless) :
    (db.pushOperation operation).Alike (db'.pushOperation operation') := by
  refine ⟨h.runs, h.projects, h.agents, h.tasks, h.runShutdowns, ?_⟩
  unfold Db.pushOperation
  dsimp only
  rw [List.map_append, List.map_append, h.operations, List.map_singleton, List.map_singleton,
    hsame]

end Db.Alike

theorem matches_appendEvent (event : NewEvent) (now : Int) :
    Tx.Matches Db.Alike Db.Alike (appendEvent event)
      (appendEvent { event with createdAt := now }) := by
  refine .require_bind (fun db db' h hholds => ?_) (.write fun db db' h => ?_)
  · rw [h.eventReferencesHold]
    exact hholds
  · exact ⟨h.runs, h.projects, h.agents, h.tasks, h.runShutdowns, h.operations⟩

/-- The mutation at another reading. -/
def Mutation.at (mutation : Mutation) (now : Int) : Mutation :=
  { mutation with createdAt := now }

/-- The database in which the closure of a mutation starts. -/
def Mutation.opened (mutation : Mutation) (requestFingerprint : Option String) (db : Db) : Db :=
  (db.pushOperation mutation.pendingOperation).updateOperation mutation.id
    (·.setFingerprint requestFingerprint)

theorem Mutation.opened_alike (mutation : Mutation) (requestFingerprint : Option String)
    (now : Int) (db : Db) :
    (mutation.opened requestFingerprint db).Alike
      ((mutation.at now).opened requestFingerprint db) := by
  have hpushed : (db.pushOperation mutation.pendingOperation).Alike
      (db.pushOperation (mutation.at now).pendingOperation) :=
    (Std.Refl.refl (r := Db.Alike) db).pushOperation rfl
  refine hpushed.updateOperation mutation.id fun row row' hsame => ?_
  unfold OperationRow.setFingerprint OperationRow.timeless at *
  simp only [OperationRow.mk.injEq, OperationRecord.mk.injEq] at hsame ⊢
  simp [hsame]

/-- An operation is inserted and opened at any reading. -/
theorem matches_opening (mutation : Mutation) (requestFingerprint : Option String) (now : Int)
    (db : Db) {f f' : Unit → Repo (MutationOutcome JsonValue)}
    (hf : Tx.Matches (fun s s' => s = mutation.opened requestFingerprint db ∧
      s' = (mutation.at now).opened requestFingerprint db) (fun _ _ => True) (f ()) (f' ())) :
    Tx.Matches (fun s s' => s = db ∧ s' = db) (fun _ _ => True)
      (insertOperation mutation.pendingOperation >>= fun _ =>
        Tx.write (·.updateOperation mutation.id (·.setFingerprint requestFingerprint)) >>= f)
      (insertOperation (mutation.at now).pendingOperation >>= fun _ =>
        Tx.write (·.updateOperation mutation.id (·.setFingerprint requestFingerprint)) >>= f') := by
  have hsame : ∀ p : Db → Bool, ∀ s s', s = db ∧ s' = db → p s = true → p s' = true := by
    rintro p _ _ ⟨rfl, rfl⟩ h
    exact h
  refine .bind (S := fun s s' => s = db.pushOperation mutation.pendingOperation ∧
    s' = db.pushOperation (mutation.at now).pendingOperation) ?_ fun _ => ?_
  · refine .require_bind (hsame _) (.require_bind (hsame _) (.require_bind (hsame _)
      (.require_bind (hsame _) (.write ?_))))
    rintro _ _ ⟨rfl, rfl⟩
    exact ⟨rfl, rfl⟩
  · refine .bind (S := fun s s' => s = mutation.opened requestFingerprint db ∧
      s' = (mutation.at now).opened requestFingerprint db) (.write ?_) fun _ => hf
    rintro _ _ ⟨rfl, rfl⟩
    exact ⟨rfl, rfl⟩

/-- A mutation is replayed or opened at any reading; then its closure decides. -/
theorem matches_mutated (mutation : Mutation) (requestFingerprint : Option String) (now : Int)
    (db : Db) {apply apply' : Repo JsonValue}
    (happly : db.operation mutation.id = none → Tx.Matches
      (fun s s' => s = mutation.opened requestFingerprint db ∧
        s' = (mutation.at now).opened requestFingerprint db) (fun _ _ => True) apply apply') :
    Tx.Matches (fun s s' => s = db ∧ s' = db) (fun _ _ => True)
      (mutated mutation requestFingerprint apply)
      (mutated (mutation.at now) requestFingerprint apply') := by
  refine .bind (S := fun _ _ => True) ?_ fun _ => .pure ()
  intro s s' outcome t ⟨hs, hs'⟩ hrun
  rw [hs] at hrun
  rw [hs']
  unfold mutationBody at hrun ⊢
  rw [Tx.run_bind, Tx.run_read] at hrun ⊢
  have hid : db.operation (mutation.at now).id = db.operation mutation.id := rfl
  rw [hid]
  cases hfound : db.operation mutation.id with
  | some existing =>
      rw [hfound] at hrun
      exact ⟨t, hrun, trivial⟩
  | none =>
      rw [hfound] at hrun
      refine matches_opening mutation requestFingerprint now db ?_ db db outcome t ⟨rfl, rfl⟩ hrun
      refine .bind (happly hfound) fun result => .bind (.ofExcept _) fun _ => ?_
      exact .bind (S := fun _ _ => True) (.write fun _ _ _ => trivial) fun _ => .pure _

/-! ## Stops -/

theorem matches_stopRun (runId : RunId) (now now' : Int) :
    Tx.Matches Db.Alike Db.Alike (stopRun runId now) (stopRun runId now') := by
  refine .require_bind (fun db db' h hactive => ?_) (.write fun db db' h => ?_)
  · rw [h.any_runs]
    · exact hactive
    · intro row
      cases hstopped : row.stoppedAt <;> simp [RunRecord.timeless, hstopped]
  · refine ⟨?_, h.projects, h.agents, h.tasks, h.runShutdowns, h.operations⟩
    refine Table.map_updateWhere_congr (fun row row' hsame => ?_) (fun row row' hsame => ?_) h.runs
    · have hactive : ∀ row : RunRecord, (row.id == runId && row.status == .active &&
          row.stoppedAt == none) = (row.timeless.id == runId && row.timeless.status == .active &&
            row.timeless.stoppedAt == none) := by
        intro row
        cases hstopped : row.stoppedAt <;> simp [RunRecord.timeless, hstopped]
      rw [hactive row', hsame, ← hactive row]
    · unfold RunRecord.timeless at hsame ⊢
      simp only [RunRecord.mk.injEq] at hsame
      simp [hsame.1, hsame.2.2.1]

theorem matches_supervisionEvent (runId : RunId) (kind : EventKind) (subject : String)
    (agentId : Option AgentId) (operationId : Option OperationId) (data : JsonValue)
    (nowMs nowMs' : Int) :
    Tx.Matches Db.Alike Db.Alike
      (supervisionEvent runId kind subject agentId operationId data nowMs)
      (supervisionEvent runId kind subject agentId operationId data nowMs') :=
  matches_appendEvent _ _

theorem matches_setShutdownPhase (runId : RunId) (phase : ShutdownPhase) (nowMs nowMs' : Int) :
    Tx.Matches Db.Alike Db.Alike (setShutdownPhase runId phase nowMs)
      (setShutdownPhase runId phase nowMs') := by
  refine .read_bind (fun db db' h => ?_) fun found => ?_
  · unfold Db.runShutdown
    rw [h.runShutdowns]
  cases found with
  | none => exact .pure ()
  | some shutdown =>
      refine .ite (fun _ => .pure ()) fun _ => .bind (.write fun db db' h => ?_) fun _ =>
        matches_supervisionEvent _ _ _ _ _ _ _ _
      refine ⟨h.runs, h.projects, h.agents, h.tasks, ?_, h.operations⟩
      rw [h.runShutdowns]

theorem matches_recordOperationReconciliation (id : OperationId) (state : ExternalResourceState)
    (error : Option String) (now now' : Int) :
    Tx.Matches Db.Alike Db.Alike (recordOperationReconciliation id state error now)
      (recordOperationReconciliation id state error now') := by
  refine .read_bind_of (V := fun found found' =>
      found'.map (·.timeless) = found.map (·.timeless)) (fun db db' h => h.operation id)
    fun found found' hfound => ?_
  cases found with
  | none =>
      rw [Option.map_none, Option.map_eq_none_iff] at hfound
      subst hfound
      exact .pure _
  | some row =>
      rw [Option.map_some, Option.map_eq_some_iff] at hfound
      obtain ⟨row', rfl, hsame⟩ := hfound
      have hstate : row'.reconciliationState = row.reconciliationState :=
        congrArg (·.reconciliationState) hsame
      have herror : row'.reconciliationError = row.reconciliationError :=
        congrArg (·.reconciliationError) hsame
      have hevent : operationReconciliationEvent row'.toOperationRecord row'.reconciliationState
          state error now' =
            { operationReconciliationEvent row.toOperationRecord row.reconciliationState state error
                now with createdAt := now' } := by
        have hrun : row'.runId = row.runId := congrArg (·.runId) hsame
        have hid : row'.id = row.id := congrArg (·.id) hsame
        have hactor : row'.actorAgentId = row.actorAgentId := congrArg (·.actorAgentId) hsame
        unfold operationReconciliationEvent
        rw [hrun, hid, hactor, hstate]
      dsimp only
      rw [hevent, hstate, herror]
      refine .ite (fun _ => .pure _) fun _ => .bind (.write fun db db' h => ?_) fun _ =>
        .bind (.ite (fun _ => matches_appendEvent _ _) fun _ => .pure ()) fun _ => .pure _
      refine h.updateOperation id fun row row' hsame => ?_
      unfold OperationRow.reconcile OperationRow.timeless at *
      simp only [OperationRow.mk.injEq, OperationRecord.mk.injEq] at hsame ⊢
      simp [hsame]

/-- A run is stopped at any reading. -/
theorem matches_stopRunAtOnce (ctx : RequestContext) (now : Int) (db : Db) :
    Tx.Matches (fun s s' => s = db ∧ s' = db) (fun _ _ => True)
      (Command.stopRunAtOnce ctx).body (Command.stopRunAtOnce { ctx with now := now }).body := by
  refine matches_mutated (ctx.mutation "run.stop" (.obj [])) none now db fun _ => ?_
  refine Tx.Matches.mono (R := Db.Alike) (T := Db.Alike) ?_ ?_ fun _ _ _ => trivial
  · exact .bind (matches_stopRun _ _ _) fun _ => .bind (matches_appendEvent _ _) fun _ => .pure _
  · rintro _ _ ⟨rfl, rfl⟩
    exact Mutation.opened_alike _ _ _ _

/-- A recorded stop is completed at any reading. -/
theorem matches_persistShutdown (runId : RunId) (operationId : OperationId) (now now' : Int) :
    Tx.Matches Db.Alike Db.Alike (persistShutdown runId operationId now)
      (persistShutdown runId operationId now') := by
  refine .bind (matches_stopRun _ _ _) fun _ =>
    .bind (matches_supervisionEvent _ _ _ _ _ _ _ _) fun _ => ?_
  refine .read_bind (fun db db' h => ?_) fun found => ?_
  · unfold Db.runShutdown
    rw [h.runShutdowns]
  cases found with
  | none => exact .throw _
  | some shutdown =>
      refine .bind (matches_setShutdownPhase _ _ _ _) fun _ =>
        .bind (.write fun db db' h => ?_) fun _ =>
          .bind (matches_recordOperationReconciliation _ _ _ _ _) fun _ => .pure ()
      refine h.updateOperation _ fun row row' hsame => ?_
      unfold OperationRow.complete OperationRow.timeless at *
      simp only [OperationRow.mk.injEq, OperationRecord.mk.injEq] at hsame ⊢
      simp [hsame]

/-! ## Acknowledgements -/

/-- The acknowledgement at another reading. -/
def AcknowledgeMessagesMutation.at (acknowledgement : AcknowledgeMessagesMutation) (now : Int) :
    AcknowledgeMessagesMutation :=
  { acknowledgement with acknowledgedAt := now }

/-- The acknowledgement changes the message. -/
def Db.acknowledges (db : Db) (acknowledgement : AcknowledgeMessagesMutation)
    (message : MessageRecord) : Prop :=
  db.operation acknowledgement.operationId = none ∧ acknowledgement.through ≠ 0 ∧
    acknowledgement.through ≤ db.highestCursor acknowledgement.runId acknowledgement.agentId ∧
      acknowledgement.covers message = true

/-- The reading is not before a message was sent that the acknowledgement covers. -/
def Db.AcknowledgesInTime (db : Db) (acknowledgement : AcknowledgeMessagesMutation) (now : Int) :
    Prop :=
  ∀ message ∈ db.messages, db.acknowledges acknowledgement message → message.createdAt ≤ now

theorem matches_acknowledgeMessages (acknowledgement : AcknowledgeMessagesMutation) (now : Int)
    {db : Db} (hfits : db.AcknowledgesInTime acknowledgement now) :
    Tx.Matches (fun s s' => s = db ∧ s' = db) (fun _ _ => True)
      (Command.acknowledgeMessages acknowledgement).body
      (Command.acknowledgeMessages (acknowledgement.at now)).body := by
  refine matches_mutated acknowledgement.mutation none now db fun hnew => ?_
  -- the inbox is the one before, until it is acknowledged
  refine Tx.Matches.mono (R := fun s s' => s.Alike s' ∧ s.messages = db.messages ∧
    s'.messages = db.messages) (T := Db.Alike) ?_ ?_ fun _ _ _ => trivial
  · have hinbox : ∀ {s : Db}, s.messages = db.messages → ∀ runId agentId,
        s.inboxOf runId agentId = db.inboxOf runId agentId := by
      intro s hs runId agentId
      unfold Db.inboxOf
      rw [hs]
    refine .bind (S := Db.Alike) ?_ fun result => .bind (S := Db.Alike) ?_ fun _ => .pure _
    · refine .read_bind_of (V := fun found found' => found' = found ∧
          found = db.highestCursor acknowledgement.runId acknowledgement.agentId) ?_ ?_
      · rintro s s' ⟨-, hs, hs'⟩
        constructor
        · show s'.highestCursor acknowledgement.runId acknowledgement.agentId = _
          unfold Db.highestCursor
          rw [hinbox hs, hinbox hs']
        · unfold Db.highestCursor
          rw [hinbox hs]
      rintro found found' ⟨hfound', hfound⟩
      rw [hfound', hfound]
      refine .ite (fun _ => (Tx.Matches.pure _).mono (fun _ _ h => h) fun _ _ h => h.1)
        fun hrange => ?_
      refine .read_bind ?_ fun acknowledged => .read_bind ?_ fun count => .require_bind ?_ ?_
      · rintro s s' ⟨-, hs, hs'⟩
        show s'.acknowledgedThrough acknowledgement.runId acknowledgement.agentId = _
        unfold Db.acknowledgedThrough
        rw [hinbox hs, hinbox hs']
      · rintro s s' ⟨-, hs, hs'⟩
        rw [hs, hs']
        rfl
      · rintro s s' ⟨-, hs, hs'⟩ -
        rw [hs', List.all_eq_true]
        intro message hmessage
        rw [Bool.or_eq_true, Bool.not_eq_true', decide_eq_true_eq, or_iff_not_imp_left,
          Bool.not_eq_false]
        intro hcovers
        exact hfits message hmessage ⟨hnew, by omega, by omega, hcovers⟩
      · refine .bind (S := Db.Alike) (.write ?_) fun _ => .pure _
        rintro s s' ⟨halike, -, -⟩
        exact ⟨halike.runs, halike.projects, halike.agents, halike.tasks, halike.runShutdowns,
          halike.operations⟩
    · cases result with
      | acknowledged through count => exact .ite (fun _ => matches_appendEvent _ _) fun _ => .pure ()
      | cursorNotFound highestCursor => exact .pure ()
  · rintro _ _ ⟨rfl, rfl⟩
    exact ⟨Mutation.opened_alike _ _ _ _, rfl, rfl⟩

/-- An acknowledgement that is committed was in time. -/
theorem acknowledgesInTime_of_commits {acknowledgement : AcknowledgeMessagesMutation} {db db' : Db}
    (h : (Command.acknowledgeMessages acknowledgement).body.run db = (.ok (), db')) :
    db.AcknowledgesInTime acknowledgement acknowledgement.acknowledgedAt := by
  rintro message hmessage ⟨hnew, hpositive, hle, hcovers⟩
  obtain ⟨outcome, db₁, h₁, -⟩ := Tx.bind_eq_ok.mp h
  rcases mutationBody_ok h₁ with ⟨hknown, -⟩ | ⟨_, db₂, db₃, hwritten, -, hrun, -⟩
  · rw [AcknowledgeMessagesMutation.mutation, hnew] at hknown
    cases hknown
  · have hmessages : db₂.messages = db.messages := hwritten.writesOnly .messages (by decide)
    obtain ⟨result, db₄, h₄, -⟩ := Tx.bind_eq_ok.mp hrun
    obtain ⟨highest, _, hread, h₄⟩ := Tx.bind_eq_ok.mp h₄
    obtain ⟨rfl, rfl⟩ := Tx.read_eq_ok.mp hread
    have hcursor : db₂.highestCursor acknowledgement.runId acknowledgement.agentId =
        db.highestCursor acknowledgement.runId acknowledgement.agentId := by
      unfold Db.highestCursor Db.inboxOf
      rw [hmessages]
    rw [hcursor, if_neg (by omega)] at h₄
    obtain ⟨_, _, hread, h₄⟩ := Tx.bind_eq_ok.mp h₄
    obtain ⟨-, rfl⟩ := Tx.read_eq_ok.mp hread
    obtain ⟨_, _, hread, h₄⟩ := Tx.bind_eq_ok.mp h₄
    obtain ⟨-, rfl⟩ := Tx.read_eq_ok.mp hread
    obtain ⟨_, _, hcheck, -⟩ := Tx.bind_eq_ok.mp h₄
    obtain ⟨htimes, -⟩ := Tx.require_eq_ok.mp hcheck
    rw [hmessages, List.all_eq_true] at htimes
    have htime := htimes message hmessage
    rw [hcovers] at htime
    simpa using htime

/-! ## Credentials -/

/-- The activation revokes the credential. -/
def SessionCredentialRecord.replaces (credential row : SessionCredentialRecord) : Prop :=
  row.runId = credential.runId ∧ row.agentId = credential.agentId ∧ row.revokedAt = none

/-- The reading is not before the creation of a credential that the activation revokes. -/
def Db.ReplacesInTime (db : Db) (credential : SessionCredentialRecord) (now : Int) : Prop :=
  ∀ row ∈ db.sessionCredentials, credential.replaces row → row.createdAt ≤ now

/-- The credential created at another reading. -/
def SessionCredentialRecord.at (credential : SessionCredentialRecord) (now : Int) :
    SessionCredentialRecord :=
  { credential with createdAt := now }

theorem replacesInTime_iff {credential : SessionCredentialRecord} {db : Db} :
    db.ReplacesInTime credential credential.createdAt ↔
      (db.sessionCredentials.all fun row =>
        !(row.runId == credential.runId && row.agentId == credential.agentId &&
          row.revokedAt == none) || row.createdAt ≤ credential.createdAt) = true := by
  unfold Db.ReplacesInTime SessionCredentialRecord.replaces
  rw [List.all_eq_true]
  refine forall₂_congr fun row _ => ?_
  simp only [Bool.or_eq_true, Bool.not_eq_true', decide_eq_true_eq, Bool.and_eq_false_iff,
    beq_eq_false_iff_ne]
  grind

theorem matches_activateSessionCredential (credential : SessionCredentialRecord) (now : Int)
    {db : Db} (hfits : db.ReplacesInTime credential now) :
    Tx.Matches (fun s s' => s = db ∧ s' = db) (fun _ _ => True)
      (activateSessionCredential credential) (activateSessionCredential (credential.at now)) := by
  refine .require_bind ?_ (.require_bind ?_ (.require_bind ?_ ?_))
  · exact fun _ _ _ h => h
  · rintro s s' ⟨rfl, rfl⟩ h
    exact h
  · rintro s s' ⟨-, rfl⟩ -
    exact (@replacesInTime_iff (credential.at now) _).mp hfits
  · refine .bind (S := fun s s' => s'.sessionCredentials.map (·.sessionId) =
      s.sessionCredentials.map (·.sessionId)) (.write ?_) fun _ => .require_bind ?_ ?_
    · rintro s s' ⟨rfl, rfl⟩
      dsimp only
      rw [Table.map_updateWhere, Table.map_updateWhere]
      · intro _ _
        rfl
      · intro _ _
        rfl
    · intro s s' hids hunique
      have hany : ∀ rows : List SessionCredentialRecord,
          rows.any (·.sessionId == credential.sessionId) =
            (rows.map (·.sessionId)).any (· == credential.sessionId) := by
        intro rows
        rw [List.any_map]
        rfl
      show (!s'.sessionCredentials.any (·.sessionId == credential.sessionId)) = true
      rw [hany, hids, ← hany]
      exact hunique
    · exact .write fun _ _ _ => trivial

theorem matches_replaceDesiredSessionCredential (credential : SessionCredentialRecord) (now : Int)
    (db : Db) :
    Tx.Matches (fun s s' => s = db ∧ s' = db) (fun _ _ => True)
      (replaceDesiredSessionCredential credential)
      (replaceDesiredSessionCredential (credential.at now)) := by
  refine .require_bind (fun _ _ _ h => h) (.require_bind ?_ (.write fun _ _ _ => trivial))
  rintro s s' ⟨rfl, rfl⟩ h
  exact h

/-! ## The operations of a clock -/

/-- What the event loop learns about a session. -/
inductive SessionReport where
  /-- A report of its provider. -/
  | observed (report : ProviderReport)
  /-- What the reconciler finds. -/
  | reconciled (scope : SessionScope) (state : ExternalResourceState) (lifecycle : LifecycleState)

def SessionReport.scope : SessionReport → SessionScope
  | .observed report => report.scope
  | .reconciled scope _ _ => scope

def SessionReport.lifecycle : SessionReport → LifecycleState
  | .observed report => report.observation.lifecycle
  | .reconciled _ _ lifecycle => lifecycle

/-- An operation but for its reading of the clock. -/
inductive ClockOperation where
  | recordLifecycle (scope : SessionScope) (observed : LifecycleState)
  | recordReport (reported : SessionReport)
  | activateCredential (credential : SessionCredentialRecord)
  | rotateCredential (credential : SessionCredentialRecord)
  | stopRun (ctx : RequestContext)
  | completeStop (runId : RunId) (operationId : OperationId)
  | acknowledge (acknowledgement : AcknowledgeMessagesMutation)

namespace ClockOperation

/-- The transaction of an operation at a reading. -/
def command : ClockOperation → Int → Command
  | .recordLifecycle scope observed, now => .recordSessionLifecycle scope observed now
  | .recordReport (.observed report), now =>
      .recordObservation report.scope report.observation now report.policy
  | .recordReport (.reconciled scope state lifecycle), now =>
      .recordReconciliation scope state lifecycle now
  | .activateCredential credential, now => .activateSessionCredential (credential.at now)
  | .rotateCredential credential, now => .replaceDesiredSessionCredential (credential.at now)
  | .stopRun ctx, now => .stopRunAtOnce { ctx with now := now }
  | .completeStop runId operationId, now => .persistShutdown runId operationId now
  | .acknowledge acknowledgement, now => .acknowledgeMessages (acknowledgement.at now)

/-- The operation is committed at the reading. -/
def CommitsAt (operation : ClockOperation) (now : Int) (db : Db) : Prop :=
  ∃ db', (Tx.transaction (operation.command now).body).run db = (.ok (), db')

/-- Nothing but its time can speak against the operation: some reading commits it. -/
def Permitted (operation : ClockOperation) (db : Db) : Prop :=
  ∃ now, operation.CommitsAt now db

/-- The reading is not before the creation of a credential that the operation revokes, or of a
    message that it acknowledges. -/
def Fits (operation : ClockOperation) (now : Int) (db : Db) : Prop :=
  match operation with
  | .recordLifecycle scope observed => db.RevokesInTime scope observed now
  | .recordReport reported => db.RevokesInTime reported.scope reported.lifecycle now
  | .activateCredential credential => db.ReplacesInTime credential now
  | .rotateCredential _ | .stopRun _ | .completeStop _ _ => True
  | .acknowledge acknowledgement => db.AcknowledgesInTime acknowledgement now

end ClockOperation

theorem discard_commits {α : Type} {x : Repo α} {db : Db} :
    (∃ db', (discard x).run db = (.ok (), db')) ↔ ∃ a db', x.run db = (.ok a, db') := by
  constructor
  · rintro ⟨db', h⟩
    obtain ⟨a, db₁, h₁, -⟩ := Tx.bind_eq_ok.mp h
    exact ⟨a, db₁, h₁⟩
  · rintro ⟨a, db₁, h₁⟩
    exact ⟨db₁, Tx.bind_eq_ok.mpr ⟨a, db₁, h₁, rfl⟩⟩

/-- Two transactions that match commit together. -/
theorem commits_of_matches {x y : Repo Unit} {R T : Db → Db → Prop} {db : Db}
    (h : Tx.Matches R T x y) (hR : R db db) (hx : ∃ db', x.run db = (.ok (), db')) :
    ∃ db', y.run db = (.ok (), db') := by
  obtain ⟨db', hrun⟩ := hx
  obtain ⟨db'', hrun', -⟩ := h db db () db' hR hrun
  exact ⟨db'', hrun'⟩

/-- An operation that some reading commits is committed at another one exactly when that fits. -/
theorem ClockOperation.commitsAt_iff {operation : ClockOperation} {db : Db}
    (hpermitted : operation.Permitted db) (now : Int) :
    operation.CommitsAt now db ↔ operation.Fits now db := by
  obtain ⟨since, hsince⟩ := hpermitted
  unfold CommitsAt at hsince ⊢
  simp only [Tx.transaction_eq_ok] at hsince ⊢
  cases operation with
  | recordLifecycle scope observed =>
      have hiff : ∀ t, (∃ db', (discard (recordSessionLifecycle scope observed t)).run db =
          (.ok (), db')) ↔ _ := fun t => discard_commits.trans recordSessionLifecycle_commits
      exact (hiff now).trans (and_iff_right ((hiff since).mp hsince).1)
  | recordReport reported =>
      cases reported with
      | observed report =>
          exact (recordObservation_commits report now db).trans
            (and_iff_right ((recordObservation_commits report since db).mp hsince).1)
      | reconciled scope state lifecycle =>
          have hiff := fun t => @recordReconciliationIn_commits scope state lifecycle t db
          exact (hiff now).trans (and_iff_right ((hiff since).mp hsince).1)
  | activateCredential credential =>
      constructor
      · rintro ⟨db', hrun⟩
        obtain ⟨_, _, h₁, hrun⟩ := Tx.bind_eq_ok.mp hrun
        obtain ⟨-, rfl⟩ := Tx.require_eq_ok.mp h₁
        obtain ⟨_, _, h₂, hrun⟩ := Tx.bind_eq_ok.mp hrun
        obtain ⟨-, rfl⟩ := Tx.require_eq_ok.mp h₂
        obtain ⟨_, _, h₃, -⟩ := Tx.bind_eq_ok.mp hrun
        obtain ⟨htimes, -⟩ := Tx.require_eq_ok.mp h₃
        exact (@replacesInTime_iff (credential.at now) _).mpr htimes
      · intro hfits
        exact commits_of_matches (matches_activateSessionCredential (credential.at since) now hfits)
          ⟨rfl, rfl⟩ hsince
  | rotateCredential credential =>
      refine iff_of_true ?_ trivial
      exact commits_of_matches
        (matches_replaceDesiredSessionCredential (credential.at since) now db) ⟨rfl, rfl⟩ hsince
  | stopRun ctx =>
      refine iff_of_true ?_ trivial
      exact commits_of_matches (matches_stopRunAtOnce { ctx with now := since } now db) ⟨rfl, rfl⟩
        hsince
  | completeStop runId operationId =>
      refine iff_of_true ?_ trivial
      exact commits_of_matches (matches_persistShutdown runId operationId since now)
        (Std.Refl.refl db) hsince
  | acknowledge acknowledgement =>
      constructor
      · rintro ⟨db', hrun⟩
        exact acknowledgesInTime_of_commits hrun
      · intro hfits
        exact commits_of_matches
          (matches_acknowledgeMessages (acknowledgement.at since) now hfits) ⟨rfl, rfl⟩ hsince

/-! ## The event loop -/

/-- What the event loop does next: it answers a request, whatever comes of it, or a poll records a
    report at a reading. -/
inductive LoopInput where
  | request (command : Command)
  | poll (reported : SessionReport) (now : Int)

/-- The transaction of an input. -/
def LoopInput.command : LoopInput → Command
  | .request command => command
  | .poll reported now => (ClockOperation.recordReport reported).command now

/-- The event loop, which a failed poll ends. -/
def serve (db : Db) : List LoopInput → Except StoreError Db
  | [] => .ok db
  | .request command :: rest => serve (command.exec db) rest
  | .poll reported now :: rest =>
      match (Tx.transaction (LoopInput.poll reported now).command.body).run db with
      | (.ok (), db') => serve db' rest
      | (.error e, _) => .error e

/-- The databases that the loop goes through. -/
def loopMachine (db : Db) : Machine Db LoopInput where
  start := db
  step := fun input db => input.command.exec db

namespace LoopInput

/-- Nothing but its time can speak against a poll. -/
def Permitted (db : Db) : LoopInput → Prop
  | .request _ => True
  | .poll reported _ => (ClockOperation.recordReport reported).Permitted db

/-- The reading of a poll is not before the creation of a credential that it revokes. -/
def Fits (db : Db) : LoopInput → Prop
  | .request _ => True
  | .poll reported now => (ClockOperation.recordReport reported).Fits now db

end LoopInput

theorem serve_iff {start db : Db} {inputs : List LoopInput}
    (hpermitted : (loopMachine start).Meets LoopInput.Permitted db inputs) :
    (∃ db', serve db inputs = .ok db') ↔ (loopMachine start).Meets LoopInput.Fits db inputs := by
  induction inputs generalizing db with
  | nil => exact iff_of_true ⟨db, rfl⟩ trivial
  | cons input rest ih =>
      obtain ⟨hfirst, hrest⟩ := hpermitted
      cases input with
      | request command =>
          rw [Machine.Meets, LoopInput.Fits, true_and, ← ih hrest]
          rfl
      | poll reported now =>
          have hiff := ClockOperation.commitsAt_iff hfirst now
          rw [Machine.Meets, LoopInput.Fits, ← hiff, ← ih hrest]
          -- a poll that commits leaves the database of the machine
          have hstep : ∀ db', (Tx.transaction (LoopInput.poll reported now).command.body).run db =
              (.ok (), db') → (loopMachine start).step (.poll reported now) db = db' := by
            intro db' hrun
            show ((Tx.transaction (LoopInput.poll reported now).command.body).run db).2 = db'
            rw [hrun]
          constructor
          · rintro ⟨db', hserve⟩
            unfold serve at hserve
            split at hserve
            · next db₁ hrun =>
                refine ⟨⟨db₁, hrun⟩, db', ?_⟩
                rw [hstep db₁ hrun]
                exact hserve
            · cases hserve
          · rintro ⟨⟨db₁, hrun⟩, db', hserve⟩
            rw [hstep db₁ hrun] at hserve
            refine ⟨db', ?_⟩
            unfold serve
            have hrun' : (Tx.transaction (LoopInput.poll reported now).command.body).run db =
                (.ok (), db₁) := hrun
            rw [hrun']
            exact hserve

/-- The clock blocks nothing in a store: every permitted operation is committed at every reading,
    and no reading ends the event loop. -/
structure ClockHarmless (db : Db) : Prop where
  commits : ∀ operation : ClockOperation, operation.Permitted db → ∀ now,
    operation.CommitsAt now db
  serves : ∀ inputs, (loopMachine db).Meets LoopInput.Permitted db inputs →
    ∃ db', serve db inputs = .ok db'

/-- In every store that a run reaches, a permitted operation is committed at a reading exactly when
    the reading is not before the creation of what the operation closes, and permitted polls go on
    exactly as long as each of their readings fits. -/
theorem clock_blocks_iff (commands : List Command) :
    (∀ operation : ClockOperation, operation.Permitted (storeMachine.run commands) → ∀ now,
        (operation.CommitsAt now (storeMachine.run commands) ↔
          operation.Fits now (storeMachine.run commands))) ∧
      ∀ inputs, (loopMachine (storeMachine.run commands)).Meets LoopInput.Permitted
          (storeMachine.run commands) inputs →
        ((∃ db', serve (storeMachine.run commands) inputs = .ok db') ↔
          (loopMachine (storeMachine.run commands)).Meets LoopInput.Fits
            (storeMachine.run commands) inputs) :=
  ⟨fun _ hpermitted now => ClockOperation.commitsAt_iff hpermitted now,
    fun _ hpermitted => serve_iff hpermitted⟩

/-- A worker whose session is recorded at the reading 10. -/
def clockedWorker : List Command :=
  spawnedWorker.take 3 ++
    [.persistLaunchIntent
      { scope := spawnedScope, role := "worker", provider := "codex", contract := .null,
        tokenVerifier := [], createdAt := 10 } true (some ⟨"assignment-1"⟩)]

/-- The report that its process has exited. -/
def clockedExit : SessionReport :=
  .observed
    { scope := spawnedScope, observation := .processExit (some 0),
      policy := compiledDefaults.supervision.toSupervisionPolicy, exited := fun _ => rfl }

/-- A poll that reads 5 after the clock stepped back ends the event loop. -/
theorem clock_step_ends_loop : ¬ ClockHarmless (storeMachine.run clockedWorker) := by
  intro h
  have hpermitted : ∃ db', (Tx.transaction ((ClockOperation.recordReport clockedExit).command
      10).body).run (storeMachine.run clockedWorker) = (.ok (), db') := by
    have hcommits : ((Tx.transaction ((ClockOperation.recordReport clockedExit).command
        10).body).run (storeMachine.run clockedWorker)).1.toBool = true := by
      decide +kernel
    revert hcommits
    generalize (Tx.transaction ((ClockOperation.recordReport clockedExit).command 10).body).run
      (storeMachine.run clockedWorker) = outcome
    rintro hcommits
    obtain ⟨result, db'⟩ := outcome
    cases result with
    | error e => cases hcommits
    | ok u => exact ⟨db', rfl⟩
  obtain ⟨db', hserve⟩ := h.serves [.poll clockedExit 5] ⟨⟨10, hpermitted⟩, trivial⟩
  have hends : (serve (storeMachine.run clockedWorker) [.poll clockedExit 5]).toBool = false := by
    decide +kernel
  rw [hserve] at hends
  cases hends

end Coterie
