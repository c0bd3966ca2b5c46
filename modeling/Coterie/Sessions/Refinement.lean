/-
  Coterie.Sessions.Refinement

  The commands of the run database move its roster by the steps of `Roster.Step`.  A launch takes two
  of them in one transaction: the agent is created or restarted, and enters its session.
-/

import Mathlib.Logic.Relation
import Coterie.Supervisor.Machine
import Coterie.Sessions.Roster

namespace Coterie

namespace Roster

/-- Some steps lead from one roster to the other. -/
def Leads (r r' : Roster) : Prop :=
  Relation.ReflTransGen Step r r'

theorem Fenced.leads {r r' : Roster} (h : r.Fenced) (hleads : r.Leads r') : r'.Fenced := by
  induction hleads with
  | refl => exact h
  | tail _ hstep ih => exact ih.step hstep

end Roster

/-- From a fenced roster, steps lead to the roster after. -/
def Db.RosterMoves (db db' : Db) : Prop :=
  db.roster.Fenced → db.roster.Leads db'.roster

instance : Std.Refl Db.RosterMoves where
  refl _ _ := .refl

instance : IsTrans Db Db.RosterMoves where
  trans _ _ _ hab hbc hfenced := (hab hfenced).trans (hbc (hfenced.leads (hab hfenced)))

/-- The tables of the roster. -/
def rosterTables : List TableName :=
  [.agents, .sessions, .sessionCredentials]

theorem WritesOnly.sameRoster {tables : List TableName} {db db' : Db}
    (h : WritesOnly tables db db') (hno : ∀ table ∈ rosterTables, table ∉ tables) :
    db'.roster = db.roster := by
  have hagents : db'.agents = db.agents := h .agents (hno _ (by decide))
  have hsessions : db'.sessions = db.sessions := h .sessions (hno _ (by decide))
  have hcredentials : db'.sessionCredentials = db.sessionCredentials :=
    h .sessionCredentials (hno _ (by decide))
  unfold Db.roster
  rw [hagents, hsessions, hcredentials]

/-- A function whose frame avoids the roster. -/
theorem calm {α : Type} {x : Repo α} (tables : List TableName)
    (hno : ∀ table ∈ rosterTables, table ∉ tables)
    (h : Tx.Keeps (Written tables) x) :
    Tx.Ensures Db.RosterMoves x := by
  refine .of_keeps h fun db db' hwrites _ => ?_
  rw [hwrites.writesOnly.sameRoster hno]
  exact .refl

/-- A step is a move. -/
theorem moves_of_step {db db' : Db} (h : db.roster.Fenced → db.roster.Step db'.roster) :
    db.RosterMoves db' :=
  fun hfenced => .single (h hfenced)

/-! ## Bookkeeping of sessions and credentials -/

instance : Std.Refl SessionRecord.Noted where
  refl _ := ⟨rfl, rfl, rfl, rfl, rfl⟩

instance : Std.Refl SessionCredentialRecord.Rotated where
  refl _ := ⟨rfl, rfl, rfl, rfl, rfl⟩

theorem updateSession_moves (db : Db) (scope : SessionScope) {f : SessionRecord → SessionRecord}
    (hf : ∀ row : SessionRecord, row.Noted (f row)) : db.RosterMoves (db.updateSession scope f) :=
  moves_of_step fun _ => .note _ (Table.forall₂_updateWhere (fun row _ => hf row) _)

theorem recordSessionLaunchObservation_moves (scope : SessionScope) (providerSessionId : String)
    (observedAt : Int) :
    Tx.Ensures Db.RosterMoves
      (recordSessionLaunchObservation scope providerSessionId observedAt) := by
  refine .seq (.read _) fun found => ?_
  cases found with
  | none => exact .pure _
  | some session =>
      refine .seq (.read _) fun current => .ite (.pure _) (.ite (.pure _) (.seq ?_ fun _ => .pure _))
      exact .of_keeps (.write fun db => updateSession_moves db scope fun _ =>
        ⟨rfl, rfl, rfl, rfl, rfl⟩) fun _ _ h => h

theorem recordSessionReconciliationState_moves (scope : SessionScope)
    (state : ExternalResourceState) (reconciledAt : Int) :
    Tx.Ensures Db.RosterMoves (recordSessionReconciliationState scope state reconciledAt) := by
  refine .seq (.read _) fun found => ?_
  cases found with
  | none => exact .pure _
  | some session =>
      refine .seq (.read _) fun current => .ite (.pure _) (.ite (.pure _) (.seq ?_ fun _ => .pure _))
      exact .of_keeps (.write fun db => updateSession_moves db scope fun _ =>
        ⟨rfl, rfl, rfl, rfl, rfl⟩) fun _ _ h => h

theorem replaceDesiredSessionCredential_moves (credential : SessionCredentialRecord) :
    Tx.Ensures Db.RosterMoves (replaceDesiredSessionCredential credential) := by
  refine .seq (.require _ _) fun _ => .seq (.require _ _) fun _ => ?_
  refine .of_keeps (R := Db.RosterMoves) (.write fun db => moves_of_step fun _ => ?_)
    fun _ _ h => h
  exact .rotate _ (Table.forall₂_updateWhere (fun _ _ => ⟨rfl, rfl, rfl, rfl, rfl⟩) _)

/-! ## Observations -/

/-- A current scope names a session, and an agent in the session's generation. -/
theorem sessionScopeIsCurrent_eq_true {db : Db} {scope : SessionScope}
    (h : db.sessionScopeIsCurrent scope = true) :
    (∃ session ∈ db.sessions, session.scope = scope) ∧
      ∃ agent ∈ db.agents, agent.id = scope.agentId ∧ agent.runId = scope.runId ∧
        agent.generation = scope.generation := by
  simp only [Db.sessionScopeIsCurrent, Bool.and_eq_true, List.any_eq_true, beq_iff_eq] at h
  obtain ⟨⟨⟨⟨session, hsession, hids⟩, agent, hagent, hagentIds⟩, -⟩, -⟩ := h
  refine ⟨⟨session, hsession, ?_⟩, agent, hagent, hagentIds.1.1, hagentIds.1.2, hagentIds.2⟩
  obtain ⟨⟨⟨hid, hrun⟩, hagentId⟩, hgeneration⟩ := hids
  unfold SessionRecord.scope
  rw [hid, hrun, hagentId, hgeneration]

/-- What an observation that was applied found. -/
structure Observed (db : Db) (scope : SessionScope) (observed : LifecycleState) : Prop where
  current : db.sessionScopeIsCurrent scope = true
  permitted : ∃ session, db.session scope.sessionId = some session ∧ session.state ≠ observed ∧
    session.mayObserve observed = true

/-- An observation is passed over, or applied to what its scope names. -/
theorem recordSessionLifecycle_ok {scope : SessionScope} {observed : LifecycleState}
    {observedAt : Int} {db db' : Db} {outcome : SessionTransitionOutcome}
    (h : (recordSessionLifecycle scope observed observedAt).run db = (.ok outcome, db')) :
    (outcome ≠ .applied ∧ db' = db) ∨
      (outcome = .applied ∧ Observed db scope observed ∧
        db' = db.applySessionLifecycle scope observed observedAt) := by
  obtain ⟨session?, _, h₁, h⟩ := Tx.bind_eq_ok.mp h
  obtain ⟨hsession, rfl⟩ := Tx.read_eq_ok.mp h₁
  cases session? with
  | none =>
      obtain ⟨rfl, rfl⟩ := Tx.pure_eq_ok.mp h
      exact .inl ⟨by decide, rfl⟩
  | some session =>
      obtain ⟨current, _, h₂, h⟩ := Tx.bind_eq_ok.mp h
      obtain ⟨hcurrent, rfl⟩ := Tx.read_eq_ok.mp h₂
      split at h
      · obtain ⟨rfl, rfl⟩ := Tx.pure_eq_ok.mp h
        exact .inl ⟨by decide, rfl⟩
      · next hisCurrent =>
          obtain ⟨agent?, _, h₃, h⟩ := Tx.bind_eq_ok.mp h
          obtain ⟨-, rfl⟩ := Tx.read_eq_ok.mp h₃
          cases agent? with
          | none =>
              obtain ⟨rfl, rfl⟩ := Tx.pure_eq_ok.mp h
              exact .inl ⟨by decide, rfl⟩
          | some agent =>
              dsimp only at h
              split at h
              · obtain ⟨rfl, rfl⟩ := Tx.pure_eq_ok.mp h
                exact .inl ⟨by decide, rfl⟩
              · split at h
                · exact absurd h Tx.throw_eq_ok
                · split at h
                  · obtain ⟨rfl, rfl⟩ := Tx.pure_eq_ok.mp h
                    exact .inl ⟨by decide, rfl⟩
                  · next hdiffers =>
                      split at h
                      · exact absurd h Tx.throw_eq_ok
                      · next hpermitted =>
                          obtain ⟨_, _, h₄, h⟩ := Tx.bind_eq_ok.mp h
                          obtain ⟨-, rfl⟩ := Tx.require_eq_ok.mp h₄
                          obtain ⟨_, _, h₅, h⟩ := Tx.bind_eq_ok.mp h
                          obtain rfl := Tx.write_eq_ok.mp h₅
                          obtain ⟨rfl, rfl⟩ := Tx.pure_eq_ok.mp h
                          refine .inr ⟨rfl, ⟨?_, session, hsession, hdiffers, ?_⟩, rfl⟩
                          · rw [hcurrent]
                            simpa using hisCurrent
                          · simpa using hpermitted

theorem roster_applySessionLifecycle (db : Db) (scope : SessionScope) (observed : LifecycleState)
    (observedAt : Int) :
    (db.applySessionLifecycle scope observed observedAt).roster =
      db.roster.observe scope observed observedAt := by
  unfold Db.applySessionLifecycle Roster.observe
  dsimp only
  split <;> rfl

/-- An applied observation is a step. -/
theorem Observed.step {db : Db} {scope : SessionScope} {observed : LifecycleState}
    (h : Observed db scope observed) (hfenced : db.roster.Fenced) (observedAt : Int) :
    db.roster.Step (db.roster.observe scope observed observedAt) := by
  obtain ⟨⟨session, hsession, rfl⟩, agent, hagent, hid, hrun, hgeneration⟩ :=
    sessionScopeIsCurrent_eq_true h.current
  obtain ⟨found, hfound, -, hpermitted⟩ := h.permitted
  -- the row found by its id is the row of the scope
  have hfoundId : found.id = session.scope.sessionId := by simpa using List.find?_some hfound
  have hsame : found = session :=
    hfenced.sessions.eq_of_key_eq (List.mem_of_find?_eq_some hfound) hsession hfoundId
  rw [hsame] at hpermitted
  exact .observe session agent observed observedAt hsession hagent
    ⟨hid.symm, hrun.symm, hgeneration.symm⟩ hpermitted

theorem recordSessionLifecycle_moves (scope : SessionScope) (observed : LifecycleState)
    (observedAt : Int) :
    Tx.Ensures Db.RosterMoves (recordSessionLifecycle scope observed observedAt) := by
  intro db outcome db' h
  rcases recordSessionLifecycle_ok h with ⟨-, rfl⟩ | ⟨-, hobserved, rfl⟩
  · exact Std.Refl.refl _
  · refine moves_of_step fun hfenced => ?_
    rw [roster_applySessionLifecycle]
    exact hobserved.step hfenced observedAt

/-! ## Agents -/

theorem insertAgent_ok {agent : AgentRecord} {db db' : Db} {u : Unit}
    (h : (insertAgent agent).run db = (.ok u, db')) :
    (∀ row ∈ db.agents, row.id ≠ agent.id) ∧ db' = { db with agents := db.agents ++ [agent] } := by
  simp only [insertAgent, constraint, Tx.bind_eq_ok, Tx.require_eq_ok, Tx.write_eq_ok] at h
  obtain ⟨_, _, ⟨hid, rfl⟩, _, _, ⟨-, rfl⟩, _, _, ⟨-, rfl⟩, rfl⟩ := h
  exact ⟨by simpa using hid, rfl⟩

theorem insertAgent_moves (agent : AgentRecord) :
    Tx.Ensures Db.RosterMoves (insertAgent agent) := by
  intro db u db' h
  obtain ⟨hnew, rfl⟩ := insertAgent_ok h
  exact moves_of_step fun _ => .hire agent hnew

theorem quarantineUnstartedAgent_moves (runId : RunId) (agentId : AgentId)
    (operationId : OperationId) (now : Int) :
    Tx.Ensures Db.RosterMoves (quarantineUnstartedAgent runId agentId operationId now) := by
  intro db u db' h
  obtain ⟨agent?, _, h₁, h⟩ := Tx.bind_eq_ok.mp h
  obtain ⟨hagent, rfl⟩ := Tx.read_eq_ok.mp h₁
  cases agent? with
  | none =>
      obtain ⟨-, rfl⟩ := Tx.pure_eq_ok.mp h
      exact Std.Refl.refl _
  | some agent =>
      obtain ⟨latest, _, h₂, h⟩ := Tx.bind_eq_ok.mp h
      obtain ⟨hlatest, rfl⟩ := Tx.read_eq_ok.mp h₂
      split at h
      · obtain ⟨-, rfl⟩ := Tx.pure_eq_ok.mp h
        exact Std.Refl.refl _
      · next hstarting =>
          obtain ⟨_, db₁, h₃, h⟩ := Tx.bind_eq_ok.mp h
          obtain rfl := Tx.write_eq_ok.mp h₃
          have hevent := calm [.events] (by decide) (writes_supervisionEvent rfl) _ _ _ h
          refine IsTrans.trans _ _ _ (moves_of_step fun _ => ?_) hevent
          simp only [not_or, ne_eq, not_not] at hstarting
          obtain ⟨hrun, -, hnone⟩ := hstarting
          have hmem : agent ∈ db.roster.agents := List.mem_of_find?_eq_some hagent
          have hid : agent.id = agentId := by simpa using List.find?_some hagent
          have hstep := Roster.Step.retire agent .quarantined hmem ?_
          · rw [hid, hrun] at hstep
            exact hstep
          · intro session hsession hsessionRun hsessionAgent
            rw [← hlatest] at hnone
            have hempty : db.latestSessionForAgent runId agentId = none := by simpa using hnone
            have hnil := Table.latestBy_eq_none.mp hempty
            have hmatch : (session.runId == runId && session.agentId == agentId) = true := by
              simp [hsessionRun, hsessionAgent, hid, hrun]
            exact absurd hmatch (List.filter_eq_nil_iff.mp hnil session hsession)

/-! ## Launches -/

/-- An agent of the scope's generation is starting. -/
def Db.Awaits (db : Db) (scope : SessionScope) : Prop :=
  ∃ agent ∈ db.agents, agent.id = scope.agentId ∧ agent.runId = scope.runId ∧
    agent.generation = scope.generation ∧ agent.state = .starting

theorem insertSession_ok {session : SessionRecord} {db db' : Db} {u : Unit}
    (h : (insertSession session).run db = (.ok u, db')) :
    (∀ row ∈ db.sessions, row.id ≠ session.id) ∧
      (∀ row ∈ db.sessions,
        (row.agentId, row.generation) ≠ (session.agentId, session.generation)) ∧
      db' = { db with sessions := db.sessions ++ [session] } := by
  simp only [insertSession, constraint, Tx.bind_eq_ok, Tx.require_eq_ok, Tx.write_eq_ok] at h
  obtain ⟨_, _, ⟨hid, rfl⟩, _, _, ⟨hgeneration, rfl⟩, _, _, ⟨-, rfl⟩, _, _, ⟨-, rfl⟩, rfl⟩ := h
  refine ⟨by simpa using hid, ?_, rfl⟩
  intro row hrow heq
  have hnone : ∀ row ∈ db.sessions, row.agentId = session.agentId →
      ¬ row.generation = session.generation := by
    simpa using hgeneration
  exact hnone row hrow (congrArg Prod.fst heq) (congrArg Prod.snd heq)

/-- The credentials after one was activated. -/
def Db.activate (db : Db) (credential : SessionCredentialRecord) : Db :=
  { db with
    sessionCredentials := Table.updateWhere
        (fun row => row.runId == credential.runId && row.agentId == credential.agentId &&
          row.revokedAt == none)
        (fun row => { row with revokedAt := some credential.createdAt }) db.sessionCredentials ++
      [credential] }

theorem activateSessionCredential_ok {credential : SessionCredentialRecord} {db db' : Db}
    {u : Unit} (h : (activateSessionCredential credential).run db = (.ok u, db')) :
    (∀ row ∈ db.sessionCredentials, row.sessionId ≠ credential.sessionId) ∧
      db.sessionScopeIsCurrent
        { runId := credential.runId, agentId := credential.agentId,
          sessionId := credential.sessionId, generation := credential.generation } = true ∧
      db' = db.activate credential := by
  simp only [activateSessionCredential, constraint, Tx.bind_eq_ok, Tx.require_eq_ok,
    Tx.write_eq_ok] at h
  obtain ⟨_, _, ⟨-, rfl⟩, _, _, ⟨hcurrent, rfl⟩, _, _, ⟨-, rfl⟩, _, _, rfl, _, _, ⟨hnew, rfl⟩, rfl⟩ :=
    h
  refine ⟨?_, hcurrent, rfl⟩
  intro row hrow heq
  -- the revocation before the check changed no session id
  have hkept : ∃ row' ∈ Table.updateWhere
      (fun row : SessionCredentialRecord => row.runId == credential.runId &&
        row.agentId == credential.agentId && row.revokedAt == none)
      (fun row => { row with revokedAt := some credential.createdAt }) db.sessionCredentials,
      row'.sessionId = credential.sessionId :=
    Table.exists_mem_updateWhere (fun _ _ hid => hid) ⟨row, hrow, heq⟩
  obtain ⟨row', hrow', heq'⟩ := hkept
  have hnone : ∀ row ∈ Table.updateWhere
      (fun row : SessionCredentialRecord => row.runId == credential.runId &&
        row.agentId == credential.agentId && row.revokedAt == none)
      (fun row => { row with revokedAt := some credential.createdAt }) db.sessionCredentials,
      ¬ row.sessionId = credential.sessionId := by
    simpa using hnew
  exact hnone row' hrow' heq'

/-- A session that exists has its credential already, so that activating one by itself fails. -/
theorem activateSessionCredential_moves (credential : SessionCredentialRecord) :
    Tx.Ensures Db.RosterMoves (activateSessionCredential credential) := by
  intro db u db' h hfenced
  obtain ⟨hnew, hcurrent, -⟩ := activateSessionCredential_ok h
  obtain ⟨⟨session, hsession, hscope⟩, -⟩ := sessionScopeIsCurrent_eq_true hcurrent
  obtain ⟨own, hown, hid⟩ := hfenced.credentialed session hsession
  have hsessionId : session.id = credential.sessionId := congrArg SessionScope.sessionId hscope
  exact absurd (hid.trans hsessionId) (hnew own hown)

/-- A starting agent enters a new session with its credential. -/
theorem openSession_step {scope : SessionScope} {provider : String} {owner : SessionProcessOwner}
    {tokenVerifier : List UInt8} {createdAt : Int} {db db' : Db} {u : Unit}
    (h : (openSession (scope.newSession provider owner createdAt)
      (scope.credential tokenVerifier createdAt)).run db = (.ok u, db'))
    (hawaits : db.Awaits scope) : db.roster.Step db'.roster := by
  obtain ⟨_, db₁, h₁, h₂⟩ := Tx.bind_eq_ok.mp h
  obtain ⟨hsessionNew, hgenerationNew, rfl⟩ := insertSession_ok h₁
  obtain ⟨hcredentialNew, -, rfl⟩ := activateSessionCredential_ok h₂
  obtain ⟨agent, hagent, hid, hrun, hgeneration, hstarting⟩ := hawaits
  exact .enter agent (scope.newSession provider owner createdAt)
    (scope.credential tokenVerifier createdAt) hagent ⟨hid.symm, hrun.symm, hgeneration.symm⟩
    hstarting rfl hsessionNew hgenerationNew hcredentialNew ⟨rfl, rfl, rfl, rfl⟩

theorem openSession_moves {scope : SessionScope} {provider : String} {owner : SessionProcessOwner}
    {tokenVerifier : List UInt8} {createdAt : Int} {db db' : Db} {u : Unit}
    (h : (openSession (scope.newSession provider owner createdAt)
      (scope.credential tokenVerifier createdAt)).run db = (.ok u, db'))
    (hawaits : db.Awaits scope) : db.RosterMoves db' :=
  moves_of_step fun _ => openSession_step h hawaits

theorem appendEvent_moves (event : NewEvent) : Tx.Ensures Db.RosterMoves (appendEvent event) :=
  calm logTables (by decide) (writes_anyEvent event)

/-- The agent of a launch was created by its spawn and is still waiting, or is created now. -/
theorem prepareLaunchAgent_ok {launch : AgentLaunch} {agentExists : Bool}
    {assignmentId : Option AssignmentId} {db db' : Db} {u : Unit}
    (h : (prepareLaunchAgent launch agentExists assignmentId).run db = (.ok u, db')) :
    db.RosterMoves db' ∧ db'.Awaits launch.scope := by
  unfold prepareLaunchAgent at h
  split at h
  · obtain ⟨hmatches, rfl⟩ := Tx.require_eq_ok.mp h
    refine ⟨Std.Refl.refl _, ?_⟩
    obtain ⟨agent, hagent, hmatch⟩ := (Option.any_eq_true _ _).mp hmatches
    simp only [AgentLaunch.matches, Bool.and_eq_true, beq_iff_eq] at hmatch
    exact ⟨agent, List.mem_of_find?_eq_some hagent, by simpa using List.find?_some hagent,
      hmatch.1.1.1, hmatch.1.1.2, hmatch.1.2⟩
  · obtain ⟨_, db₁, h₁, h₂⟩ := Tx.bind_eq_ok.mp h
    have hevent := appendEvent_moves _ _ _ _ h₂
    have hhire := insertAgent_moves _ _ _ _ h₁
    obtain ⟨-, rfl⟩ := insertAgent_ok h₁
    obtain ⟨-, rfl⟩ := appendEvent_ok h₂
    refine ⟨IsTrans.trans _ _ _ hhire hevent, ?_⟩
    exact ⟨_, List.mem_append_right _ (List.mem_singleton_self _), rfl, rfl, rfl, rfl⟩

theorem persistLaunchIntent_rosterMoves (launch : AgentLaunch) (agentExists : Bool)
    (assignmentId : Option AssignmentId) :
    Tx.Ensures Db.RosterMoves (persistLaunchIntent launch agentExists assignmentId) := by
  intro db u db' h
  obtain ⟨_, db₁, h₁, h₂⟩ := Tx.bind_eq_ok.mp h
  obtain ⟨hprepared, hawaits⟩ := prepareLaunchAgent_ok h₁
  obtain ⟨_, db₂, h₃, h₄⟩ := Tx.bind_eq_ok.mp h₂
  have hopened := openSession_moves h₃ hawaits
  have hrest : db₂.RosterMoves db' := by
    refine calm [.assignments, .events] (by decide) (.bind (writes_appendEvent _ rfl) fun _ => ?_)
      _ _ _ h₄
    cases assignmentId with
    | none => exact .pure _
    | some id => exact writes_associateLaunchAssignment _ _
  exact IsTrans.trans _ _ _ hprepared (IsTrans.trans _ _ _ hopened hrest)

theorem startAgentGeneration_ok {runId : RunId} {agentId : AgentId} {current next : Int}
    {started : Bool} {db db' : Db}
    (h : (startAgentGeneration runId agentId current next).run db = (.ok started, db'))
    (hstarted : started = true) :
    ∃ agent ∈ db.agents, agent.id = agentId ∧ agent.runId = runId ∧ agent.generation = current ∧
      agent.state.isTerminal = true ∧ current < next ∧
      db' = { db with
        agents := Table.updateWhere
          (fun row => row.id == agentId && row.runId == runId && row.generation == current)
          (fun row => { row with generation := next, state := .starting }) db.agents } := by
  obtain ⟨agent?, _, h₁, h⟩ := Tx.bind_eq_ok.mp h
  obtain ⟨hagent, rfl⟩ := Tx.read_eq_ok.mp h₁
  cases agent? with
  | none =>
      obtain ⟨rfl, -⟩ := Tx.pure_eq_ok.mp h
      cases hstarted
  | some agent =>
      dsimp only at h
      split at h
      · obtain ⟨rfl, -⟩ := Tx.pure_eq_ok.mp h
        cases hstarted
      · next hguard =>
          simp only [not_or, ne_eq, not_not, Int.not_le] at hguard
          obtain ⟨hrun, hgeneration, hterminal, hlater⟩ := hguard
          obtain ⟨_, db₁, h₂, h⟩ := Tx.bind_eq_ok.mp h
          obtain rfl := Tx.write_eq_ok.mp h₂
          obtain ⟨-, rfl⟩ := Tx.pure_eq_ok.mp h
          exact ⟨agent, List.mem_of_find?_eq_some hagent, by simpa using List.find?_some hagent,
            hrun, hgeneration, hterminal, hlater, rfl⟩

/-- The foreground agent is restarted in its next generation. -/
theorem replaceForegroundGeneration_ok {ctx : RequestContext} {agent : AgentRecord}
    {generation : Int} {db db' : Db}
    (h : (replaceForegroundGeneration ctx agent).run db = (.ok generation, db')) :
    db.RosterMoves db' ∧ ∀ launch : ForegroundLaunch,
      db'.Awaits (launch.scope ctx.runId agent.id generation) := by
  obtain ⟨_, _, h₁, h₂⟩ := Tx.bind_eq_ok.mp h
  obtain ⟨-, rfl⟩ := Tx.require_eq_ok.mp h₁
  obtain ⟨started, db₁, h₃, h₄⟩ := Tx.bind_eq_ok.mp h₂
  obtain ⟨_, _, h₅, h₆⟩ := Tx.bind_eq_ok.mp h₄
  obtain ⟨hstarted, rfl⟩ := Tx.require_eq_ok.mp h₅
  obtain ⟨row, hrow, hid, hrun, hgeneration, hterminal, hlater, hdb₁⟩ :=
    startAgentGeneration_ok h₃ hstarted
  obtain ⟨_, db₂, h₇, h₈⟩ := Tx.bind_eq_ok.mp h₆
  have hevent := appendEvent_moves _ _ _ _ h₇
  obtain ⟨-, hdb₂⟩ := appendEvent_ok h₇
  obtain ⟨rfl, rfl⟩ := Tx.pure_eq_ok.mp h₈
  constructor
  · refine IsTrans.trans _ _ _ (moves_of_step fun _ => ?_) hevent
    have hstep := Roster.Step.restart (r := db.roster) row (agent.generation + 1) hrow hterminal
      (by omega)
    rw [hid, hrun, hgeneration] at hstep
    rw [hdb₁]
    exact hstep
  · intro launch
    refine ⟨{ row with generation := agent.generation + 1, state := .starting }, ?_, hid, hrun, rfl,
      rfl⟩
    have hagents : db₂.agents = db₁.agents := by
      rw [hdb₂]
      rfl
    rw [hagents, hdb₁]
    exact Table.mem_updateWhere_of_pos hrow (by simp [hid, hrun, hgeneration])

theorem createForegroundAgent_ok {ctx : RequestContext} {launch : ForegroundLaunch} {db db' : Db}
    {u : Unit} (h : (createForegroundAgent ctx launch).run db = (.ok u, db')) :
    db.RosterMoves db' ∧ db'.Awaits (launch.scope ctx.runId launch.agentId 0) := by
  obtain ⟨_, db₁, h₁, h₂⟩ := Tx.bind_eq_ok.mp h
  have hhire := insertAgent_moves _ _ _ _ h₁
  have hevent := appendEvent_moves _ _ _ _ h₂
  obtain ⟨-, rfl⟩ := insertAgent_ok h₁
  obtain ⟨-, rfl⟩ := appendEvent_ok h₂
  refine ⟨IsTrans.trans _ _ _ hhire hevent, ?_⟩
  exact ⟨_, List.mem_append_right _ (List.mem_singleton_self _), rfl, rfl, rfl, rfl⟩

theorem claimForegroundLaunch_moves {ctx : RequestContext} {launch : ForegroundLaunch}
    {scope : SessionScope} {intent : LaunchIntent} {db db' : Db}
    (h : (claimForegroundLaunch ctx launch scope).run db = (.ok intent, db'))
    (hawaits : db.Awaits scope) : db.RosterMoves db' := by
  obtain ⟨_, db₁, h₁, h₂⟩ := Tx.bind_eq_ok.mp h
  have hopened := openSession_moves h₁ hawaits
  refine IsTrans.trans _ _ _ hopened (Tx.Ensures.seq ?_ (fun _ => ?_) _ _ _ h₂)
  · exact appendEvent_moves _
  refine .seq (calm [.operations, .events] (by decide) (writes_markOperationReconciliationDesired _)) fun _ => ?_
  exact .seq (recordSessionReconciliationState_moves _ _ _) fun _ => .seq (.require _ _) fun _ =>
    .seq (appendEvent_moves _) fun _ => .pure _

theorem launchForeground_moves (ctx : RequestContext) (launch : ForegroundLaunch) :
    Tx.Ensures Db.RosterMoves (launchForeground ctx launch) := by
  intro db json db' h
  obtain ⟨agents, _, h₁, h⟩ := Tx.bind_eq_ok.mp h
  obtain ⟨-, rfl⟩ := Tx.read_eq_ok.mp h₁
  cases hfound : agents.find? (·.role == launch.role) with
  | none =>
      rw [hfound] at h
      obtain ⟨_, db₁, h₂, h⟩ := Tx.bind_eq_ok.mp h
      obtain ⟨hcreated, hawaits⟩ := createForegroundAgent_ok h₂
      obtain ⟨intent, db₂, h₃, h⟩ := Tx.bind_eq_ok.mp h
      obtain ⟨-, rfl⟩ := Tx.pure_eq_ok.mp h
      exact IsTrans.trans _ _ _ hcreated (claimForegroundLaunch_moves h₃ hawaits)
  | some agent =>
      rw [hfound] at h
      obtain ⟨latest?, _, h₂, h⟩ := Tx.bind_eq_ok.mp h
      obtain ⟨-, rfl⟩ := Tx.read_eq_ok.mp h₂
      obtain ⟨latest, _, h₃, h⟩ := Tx.bind_eq_ok.mp h
      obtain ⟨-, rfl⟩ := Tx.okOr_eq_ok.mp h₃
      split at h
      · obtain ⟨-, rfl⟩ := Tx.pure_eq_ok.mp h
        exact Std.Refl.refl _
      · obtain ⟨generation, db₁, h₄, h⟩ := Tx.bind_eq_ok.mp h
        obtain ⟨hrestarted, hawaits⟩ := replaceForegroundGeneration_ok h₄
        obtain ⟨intent, db₂, h₅, h⟩ := Tx.bind_eq_ok.mp h
        obtain ⟨-, rfl⟩ := Tx.pure_eq_ok.mp h
        exact IsTrans.trans _ _ _ hrestarted (claimForegroundLaunch_moves h₅ (hawaits launch))

/-! ## Transactions around observations -/

theorem recordReconciliationState_moves (scope : SessionScope) (session : SessionRecord)
    (actor : String) (state : ExternalResourceState) (observedAt : Int) :
    Tx.Ensures Db.RosterMoves
      (recordReconciliationState scope session actor state observedAt) :=
  .seq (recordSessionReconciliationState_moves _ _ _) fun _ => .when (appendEvent_moves _)

theorem recordLifecycle_moves (scope : SessionScope) (session : SessionRecord) (actor : String)
    (lifecycle : LifecycleState) (data : JsonValue) (observedAt : Int) :
    Tx.Ensures Db.RosterMoves
      (recordLifecycle scope session actor lifecycle data observedAt) :=
  .seq (recordSessionLifecycle_moves _ _ _) fun _ =>
    .when (.seq (appendEvent_moves _) fun _ => appendEvent_moves _)

theorem recordReconciliationIn_moves (scope : SessionScope)
    (reconciliationState : ExternalResourceState) (lifecycle : LifecycleState)
    (reconciledAt : Int) :
    Tx.Ensures Db.RosterMoves
      (recordReconciliationIn scope reconciliationState lifecycle reconciledAt) := by
  refine .seq (.read _) fun found => ?_
  cases found with
  | none => exact .pure _
  | some session =>
      exact .seq (recordReconciliationState_moves _ _ _ _ _) fun _ =>
        recordLifecycle_moves _ _ _ _ _ _

theorem recordLaunchObservation_moves (scope : SessionScope) (providerSessionId : String)
    (observedAt : Int) :
    Tx.Ensures Db.RosterMoves (recordLaunchObservation scope providerSessionId observedAt) := by
  refine .seq (.read _) fun found => ?_
  cases found with
  | none => exact .pure _
  | some session =>
      exact .seq (recordSessionLaunchObservation_moves _ _ _) fun _ =>
        .when (appendEvent_moves _)

theorem recordObservation_moves (scope : SessionScope) (observation : SessionObservation)
    (observedAt : Int) (policy : SupervisionPolicy) :
    Tx.Ensures Db.RosterMoves (recordObservation scope observation observedAt policy) := by
  refine .seq (.read _) fun found => ?_
  cases found with
  | none => exact .pure _
  | some session =>
      exact .seq (calm [.sessionFailures, .events] (by decide) (writes_observedLifecycle _ _ _ _ _)) fun _ =>
        .seq (recordReconciliationState_moves _ _ _ _ _) fun _ => recordLifecycle_moves _ _ _ _ _ _

theorem observeForegroundStarted_moves (scope : SessionScope) (processId : Nat)
    (observedAt : Int) :
    Tx.Ensures Db.RosterMoves (observeForegroundStarted scope processId observedAt) := by
  refine .seq (.read _) fun _ => .seq (.okOr _ _) fun session => ?_
  refine .seq (recordSessionLaunchObservation_moves _ _ _) fun _ => ?_
  refine .seq (.when (appendEvent_moves _)) fun _ => ?_
  exact .seq (recordLifecycle_moves _ _ _ _ _ _) fun _ =>
    calm [.operations, .events] (by decide) (writes_recordForegroundOperation _ _ _ _)

theorem observeForegroundEnded_moves (runId : RunId) (scope : SessionScope)
    (ended : ForegroundEnd) (observedAt : Int) (policy : SupervisionPolicy) :
    Tx.Ensures Db.RosterMoves (observeForegroundEnded runId scope ended observedAt policy) := by
  refine .seq (.read _) fun _ => .seq (.okOr _ _) fun session => .ite (.pure _) ?_
  refine .seq (recordReconciliationState_moves _ _ _ _ _) fun _ => ?_
  refine .seq (calm [.sessionFailures, .events] (by decide) (writes_endedLifecycle _ _ _ _ _ _)) fun _ => ?_
  exact .seq (recordLifecycle_moves _ _ _ _ _ _) fun _ =>
    calm [.operations, .events] (by decide) (writes_recordForegroundOperation _ _ _ _)

/-! ## Commands -/

theorem mutationBody_rosterMoves {α : Type} {codec : Codec α} {mutation : Mutation}
    {requestFingerprint : Option String} {apply : Repo α}
    (happly : Tx.Ensures Db.RosterMoves apply) :
    Tx.Ensures Db.RosterMoves (mutationBody codec mutation requestFingerprint apply) := by
  refine .seq (.read _) fun found => ?_
  cases found with
  | some existing => exact calm [] (by decide) writes_replayOperation
  | none =>
      refine .seq (calm [.operations, .launches] (by decide)
        (writes_insertOperation _ (.inr Listed.mem))) fun _ => ?_
      refine .seq (calm [.operations, .outcomes] (by decide) (.write fun db => written_settleOperation db _
          fun _ => ⟨⟨rfl, rfl, rfl, rfl⟩, rfl⟩))
        fun _ => ?_
      refine .seq happly fun result => ?_
      exact calm [.operations, .outcomes] (by decide) (.bind (.ofExcept _) fun _ =>
        .bind (.write fun db => written_settleOperation db _
          fun _ => ⟨⟨rfl, rfl, rfl, rfl⟩, rfl⟩) fun _ => .pure _)

namespace Command

theorem mutated_rosterMoves {mutation : Mutation} {requestFingerprint : Option String}
    {apply : Repo JsonValue} (happly : Tx.Ensures Db.RosterMoves apply) :
    Tx.Ensures Db.RosterMoves (mutated mutation requestFingerprint apply) :=
  .seq (mutationBody_rosterMoves happly) fun _ => .pure _

theorem discard_rosterMoves {α : Type} {x : Repo α} (h : Tx.Ensures Db.RosterMoves x) :
    Tx.Ensures Db.RosterMoves (discard x) :=
  .seq h fun _ => .pure _

theorem body_rosterMoves (command : Command) : Tx.Ensures Db.RosterMoves command.body := by
  cases command
  case spawnAgent ctx spawn =>
    refine mutated_rosterMoves (.seq (insertAgent_moves _) fun _ => ?_)
    refine .seq (appendEvent_moves _) fun _ => ?_
    refine .seq (calm [.tasks, .claims, .assignments, .assignmentScopes] (by decide)
      (writes_compareAndSetClaim _)) fun result => ?_
    refine .seq (calm [.events, .continuations] (by decide) (writes_appendTaskClaimEvents _ _)) fun _ => ?_
    cases result with
    | rejected => exact .throw _
    | claimed =>
        exact calm [.workspaces, .operations, .events] (by decide) (.bind (writes_insertSpawnWorkspace _ _)
          fun _ => .bind (writes_markOperationReconciliationDesired _) fun _ => .pure _)
  case recordSpawnFailure runId operationId agentId sessionId message reconciledAt policy =>
    refine .seq (.read _) fun session => ?_
    refine .seq (calm [.operations, .events] (by decide) (writes_recordOperationReconciliation _ _ _ _))
      fun _ => .seq (.read _) fun _ => .when ?_
    refine .seq (quarantineUnstartedAgent_moves _ _ _ _) fun _ => ?_
    exact calm [.operations, .events] (by decide)
      (.bind (writes_recordOperationReconciliation _ _ _ _) fun _ => .pure _)
  case persistLaunchIntent => exact persistLaunchIntent_rosterMoves _ _ _
  case replaceDesiredSessionCredential => exact replaceDesiredSessionCredential_moves _
  case recordFailedLaunch =>
    exact .seq (calm [.sessionLaunchAttempts, .events] (by decide) (writes_failSessionLaunch _ _ _)) fun _ =>
      .when (recordReconciliationIn_moves _ _ _ _)
  case recordLaunchObservation => exact recordLaunchObservation_moves _ _ _
  case recordReconciliation => exact recordReconciliationIn_moves _ _ _ _
  case recordObservation => exact recordObservation_moves _ _ _ _
  case launchForeground => exact mutated_rosterMoves (launchForeground_moves _ _)
  case reclaimForegroundLaunch ctx scope tokenVerifier =>
    refine discard_rosterMoves (.seq (.read _) fun session => .ite ?_ (.pure _))
    exact .seq (replaceDesiredSessionCredential_moves _) fun _ =>
      .seq (recordSessionReconciliationState_moves _ _ _) fun _ =>
        .seq (appendEvent_moves _) fun _ => .pure _
  case observeForegroundStarted => exact observeForegroundStarted_moves _ _ _
  case observeForegroundEnded => exact observeForegroundEnded_moves _ _ _ _ _
  case recordSessionLaunchObservation =>
    exact discard_rosterMoves (recordSessionLaunchObservation_moves _ _ _)
  case recordSessionReconciliationState =>
    exact discard_rosterMoves (recordSessionReconciliationState_moves _ _ _)
  case recordSessionLifecycle => exact discard_rosterMoves (recordSessionLifecycle_moves _ _ _)
  case activateSessionCredential => exact activateSessionCredential_moves _
  -- the other commands do not write the roster
  all_goals exact calm _ (by dsimp only [Command.writes]; decide) (keeps_writes _)

/-- A command moves the roster by steps, and one that fails not at all. -/
theorem exec_rosterMoves (command : Command) (db : Db) : db.RosterMoves (command.exec db) := by
  unfold exec
  rcases Tx.transaction_cases command.body db with ⟨u, db', hrun, hok⟩ | ⟨e, -, herror⟩
  · rw [hok]
    exact command.body_rosterMoves db u db' hrun
  · rw [herror]
    exact Std.Refl.refl _

end Command

/-- The roster of every reachable store is fenced. -/
theorem fenced_run (commands : List Command) : (storeMachine.run commands).roster.Fenced := by
  refine Machine.invariant_run (m := storeMachine) (I := fun db : Db => db.roster.Fenced)
    Roster.fenced_empty ?_ commands
  intro db command hfenced
  exact hfenced.leads (command.exec_rosterMoves db hfenced)

end Coterie
