/-
  Coterie.Sessions.Roster

  The roster: agents, the sessions of their generations and the credentials of these sessions.
  `Roster.Step` is what may happen to a roster; a step that applies an observation names the session
  and the agent that it is applied to, both of one generation.

  The fencing invariant ties the three tables together.  A session of the current generation is in
  the state of its agent, a session of an earlier one has ended, and only a session that has not
  ended has a credential that is not revoked.
-/

import Coterie.State.Sessions

namespace Coterie

/-- Agents, sessions and credentials. -/
structure Roster where
  agents : List AgentRecord
  sessions : List SessionRecord
  credentials : List SessionCredentialRecord

/-- The roster of a run database. -/
def Db.roster (db : Db) : Roster where
  agents := db.agents
  sessions := db.sessions
  credentials := db.sessionCredentials

/-- The session is the one of its agent's current generation. -/
def SessionRecord.CurrentOf (session : SessionRecord) (agent : AgentRecord) : Prop :=
  session.agentId = agent.id ∧ session.runId = agent.runId ∧ session.generation = agent.generation

/-- Only the bookkeeping about the session's external effect differs. -/
structure SessionRecord.Noted (session session' : SessionRecord) : Prop where
  id : session'.id = session.id
  scope : session'.scope = session.scope
  state : session'.state = session.state
  endedAt : session'.endedAt = session.endedAt
  owner : session'.processOwner = session.processOwner

/-- Only the verifier of the credential and its creation time differ. -/
structure SessionCredentialRecord.Rotated (credential credential' : SessionCredentialRecord) :
    Prop where
  sessionId : credential'.sessionId = credential.sessionId
  runId : credential'.runId = credential.runId
  agentId : credential'.agentId = credential.agentId
  generation : credential'.generation = credential.generation
  revokedAt : credential'.revokedAt = credential.revokedAt

namespace Roster

/-! ## What the steps do -/

/-- Change the agent row of one generation. -/
def updateAgent (r : Roster) (agentId : AgentId) (runId : RunId) (generation : Int)
    (f : AgentRecord → AgentRecord) : Roster :=
  { r with
    agents := Table.updateWhere
      (fun row => row.id == agentId && row.runId == runId && row.generation == generation) f
      r.agents }

/-- Write a session with its credential; the agent's earlier credentials are revoked. -/
def enter (r : Roster) (session : SessionRecord) (credential : SessionCredentialRecord) : Roster :=
  { r with
    sessions := r.sessions ++ [session]
    credentials := Table.updateWhere
        (fun row => row.runId == credential.runId && row.agentId == credential.agentId &&
          row.revokedAt == none)
        (fun row => { row with revokedAt := some credential.createdAt }) r.credentials ++
      [credential] }

/-- Apply an observation to the session and the agent that a scope names. -/
def observe (r : Roster) (scope : SessionScope) (observed : LifecycleState) (observedAt : Int) :
    Roster where
  agents := Table.updateWhere
    (fun agent => agent.id == scope.agentId && agent.runId == scope.runId &&
      agent.generation == scope.generation)
    (fun agent => { agent with state := observed }) r.agents
  sessions := Table.updateWhere
    (fun session => session.id == scope.sessionId && session.runId == scope.runId &&
      session.agentId == scope.agentId && session.generation == scope.generation)
    (fun row =>
      { row with
        state := observed, endedAt := if observed.isTerminal then some observedAt else none })
    r.sessions
  credentials :=
    if observed.isTerminal then
      Table.updateWhere
        (fun row => row.sessionId == scope.sessionId && row.revokedAt == none)
        (fun row => { row with revokedAt := some observedAt }) r.credentials
    else r.credentials

/-- What may happen to a roster. -/
inductive Step (r : Roster) : Roster → Prop where
  | hire (agent : AgentRecord) (hnew : ∀ row ∈ r.agents, row.id ≠ agent.id) :
      Step r { r with agents := r.agents ++ [agent] }
  | restart (agent : AgentRecord) (generation : Int) (hagent : agent ∈ r.agents)
      (hterminal : agent.state.isTerminal = true) (hlater : agent.generation < generation) :
      Step r (r.updateAgent agent.id agent.runId agent.generation fun row =>
        { row with generation := generation, state := .starting })
  | retire (agent : AgentRecord) (state : LifecycleState) (hagent : agent ∈ r.agents)
      (hnone : ∀ session ∈ r.sessions, session.runId = agent.runId → session.agentId ≠ agent.id) :
      Step r (r.updateAgent agent.id agent.runId agent.generation fun row =>
        { row with state := state })
  | enter (agent : AgentRecord) (session : SessionRecord) (credential : SessionCredentialRecord)
      (hagent : agent ∈ r.agents) (hcurrent : session.CurrentOf agent)
      (hagentState : agent.state = .starting) (hsessionState : session.state = .starting)
      (hsessionNew : ∀ row ∈ r.sessions, row.id ≠ session.id)
      (hgenerationNew : ∀ row ∈ r.sessions,
        (row.agentId, row.generation) ≠ (session.agentId, session.generation))
      (hcredentialNew : ∀ row ∈ r.credentials, row.sessionId ≠ session.id)
      (hcredential : credential.sessionId = session.id ∧ credential.runId = session.runId ∧
        credential.agentId = session.agentId ∧ credential.generation = session.generation) :
      Step r (r.enter session credential)
  | observe (session : SessionRecord) (agent : AgentRecord) (observed : LifecycleState)
      (observedAt : Int) (hsession : session ∈ r.sessions) (hagent : agent ∈ r.agents)
      (hcurrent : session.CurrentOf agent) (hobserved : session.mayObserve observed = true) :
      Step r (r.observe session.scope observed observedAt)
  | note (sessions : List SessionRecord)
      (hnoted : List.Forall₂ SessionRecord.Noted r.sessions sessions) :
      Step r { r with sessions := sessions }
  | rotate (credentials : List SessionCredentialRecord)
      (hrotated : List.Forall₂ SessionCredentialRecord.Rotated r.credentials credentials) :
      Step r { r with credentials := credentials }

/-! ## The fencing invariant -/

/-- The session is current and in the state of its agent, or superseded and ended. -/
def InStep (session : SessionRecord) (agent : AgentRecord) : Prop :=
  session.generation = agent.generation ∧ agent.state = session.state ∨
    session.generation < agent.generation ∧ session.state.isTerminal = true

/-- The fencing invariant of a roster. -/
structure Fenced (r : Roster) : Prop where
  agents : Table.Keyed (·.id) r.agents
  sessions : Table.Keyed (·.id) r.sessions
  generations : Table.Keyed (fun s : SessionRecord => (s.agentId, s.generation)) r.sessions
  credentials : Table.Keyed (·.sessionId) r.credentials
  employed : ∀ session ∈ r.sessions, ∃ agent ∈ r.agents,
    agent.id = session.agentId ∧ agent.runId = session.runId ∧ InStep session agent
  ended : ∀ session ∈ r.sessions, session.state.isTerminal = true → session.endedAt ≠ none
  issued : ∀ credential ∈ r.credentials, ∃ session ∈ r.sessions,
    session.id = credential.sessionId ∧ session.runId = credential.runId ∧
      session.agentId = credential.agentId ∧ session.generation = credential.generation ∧
        (session.state.isTerminal = true → credential.revokedAt ≠ none)
  credentialed : ∀ session ∈ r.sessions, ∃ credential ∈ r.credentials,
    credential.sessionId = session.id

theorem fenced_empty : Fenced ⟨[], [], []⟩ where
  agents := List.nodup_nil
  sessions := List.nodup_nil
  generations := List.nodup_nil
  credentials := List.nodup_nil
  employed := by simp
  ended := by simp
  issued := by simp
  credentialed := by simp

variable {r : Roster}

theorem Fenced.hire (h : r.Fenced) {agent : AgentRecord}
    (hnew : ∀ row ∈ r.agents, row.id ≠ agent.id) :
    Fenced { r with agents := r.agents ++ [agent] } where
  agents := Table.keyed_append h.agents hnew
  sessions := h.sessions
  generations := h.generations
  credentials := h.credentials
  employed := by
    intro session hsession
    obtain ⟨row, hrow, hrest⟩ := h.employed session hsession
    exact ⟨row, List.mem_append_left _ hrow, hrest⟩
  ended := h.ended
  issued := h.issued
  credentialed := h.credentialed

/-- An update of one agent's row keeps the invariant when the sessions of that agent stay in step
    with it. -/
theorem Fenced.updateAgent (h : r.Fenced) {agent : AgentRecord} (hagent : agent ∈ r.agents)
    {f : AgentRecord → AgentRecord} (hid : ∀ row, (f row).id = row.id)
    (hrun : ∀ row, (f row).runId = row.runId)
    (hstep : ∀ session ∈ r.sessions, session.agentId = agent.id → session.runId = agent.runId →
      InStep session agent → InStep session (f agent)) :
    (r.updateAgent agent.id agent.runId agent.generation f).Fenced where
  agents := Table.keyed_updateWhere (fun row _ => hid row) h.agents
  sessions := h.sessions
  generations := h.generations
  credentials := h.credentials
  employed := by
    intro session hsession
    obtain ⟨row, hrow, hrowId, hrowRun, hinStep⟩ := h.employed session hsession
    by_cases hp : (row.id == agent.id && row.runId == agent.runId &&
        row.generation == agent.generation) = true
    · -- the updated agent is this session's
      have hrowAgent : row = agent := by
        simp only [Bool.and_eq_true, beq_iff_eq] at hp
        exact h.agents.eq_of_key_eq hrow hagent hp.1.1
      subst hrowAgent
      refine ⟨f row, Table.mem_updateWhere_of_pos hrow hp, ?_, ?_, ?_⟩
      · rw [hid, hrowId]
      · rw [hrun, hrowRun]
      · exact hstep session hsession hrowId.symm hrowRun.symm hinStep
    · exact ⟨row, Table.mem_updateWhere_of_neg hrow (Bool.eq_false_iff.mpr hp), hrowId, hrowRun,
        hinStep⟩
  ended := h.ended
  issued := h.issued
  credentialed := h.credentialed

/-- A new generation starts after the previous one has ended. -/
theorem Fenced.restart (h : r.Fenced) {agent : AgentRecord} {generation : Int}
    (hagent : agent ∈ r.agents) (hterminal : agent.state.isTerminal = true)
    (hlater : agent.generation < generation) :
    (r.updateAgent agent.id agent.runId agent.generation fun row =>
      { row with generation := generation, state := .starting }).Fenced := by
  refine h.updateAgent hagent (fun _ => rfl) (fun _ => rfl) ?_
  rintro session _ _ _ (⟨hgeneration, hstate⟩ | ⟨hgeneration, hended⟩)
  · refine .inr ⟨?_, hstate ▸ hterminal⟩
    show session.generation < generation
    omega
  · refine .inr ⟨?_, hended⟩
    show session.generation < generation
    omega

/-- An agent without a session may be set aside. -/
theorem Fenced.retire (h : r.Fenced) {agent : AgentRecord} {state : LifecycleState}
    (hagent : agent ∈ r.agents)
    (hnone : ∀ session ∈ r.sessions, session.runId = agent.runId → session.agentId ≠ agent.id) :
    (r.updateAgent agent.id agent.runId agent.generation fun row =>
      { row with state := state }).Fenced := by
  refine h.updateAgent hagent (fun _ => rfl) (fun _ => rfl) ?_
  intro session hsession hid hrun _
  exact absurd hid (hnone session hsession hrun)

theorem Fenced.enter (h : r.Fenced) {agent : AgentRecord} {session : SessionRecord}
    {credential : SessionCredentialRecord} (hagent : agent ∈ r.agents)
    (hcurrent : session.CurrentOf agent) (hagentState : agent.state = .starting)
    (hsessionState : session.state = .starting)
    (hsessionNew : ∀ row ∈ r.sessions, row.id ≠ session.id)
    (hgenerationNew : ∀ row ∈ r.sessions,
      (row.agentId, row.generation) ≠ (session.agentId, session.generation))
    (hcredentialNew : ∀ row ∈ r.credentials, row.sessionId ≠ session.id)
    (hcredential : credential.sessionId = session.id ∧ credential.runId = session.runId ∧
      credential.agentId = session.agentId ∧ credential.generation = session.generation) :
    (r.enter session credential).Fenced where
  agents := h.agents
  sessions := Table.keyed_append h.sessions hsessionNew
  generations := Table.keyed_append h.generations hgenerationNew
  credentials := by
    refine Table.keyed_append (Table.keyed_updateWhere (fun _ _ => rfl) h.credentials) ?_
    intro row' hrow'
    obtain ⟨row, hrow, rfl⟩ := Table.mem_updateWhere.mp hrow'
    have hne := hcredentialNew row hrow
    rw [hcredential.1]
    split <;> exact hne
  employed := by
    intro row hrow
    rcases List.mem_append.mp hrow with hold | hnew
    · exact h.employed row hold
    · rw [List.mem_singleton.mp hnew]
      refine ⟨agent, hagent, hcurrent.1.symm, hcurrent.2.1.symm, .inl ⟨hcurrent.2.2, ?_⟩⟩
      rw [hagentState, hsessionState]
  ended := by
    intro row hrow hterminal
    rcases List.mem_append.mp hrow with hold | hnew
    · exact h.ended row hold hterminal
    · rw [List.mem_singleton.mp hnew, hsessionState] at hterminal
      cases hterminal
  issued := by
    intro row' hrow'
    rcases List.mem_append.mp hrow' with hold | hnew
    · obtain ⟨row, hrow, rfl⟩ := Table.mem_updateWhere.mp hold
      obtain ⟨owner, howner, hid, hrun, hagentId, hgeneration, hrevoked⟩ := h.issued row hrow
      have hmem : owner ∈ r.sessions ++ [session] := List.mem_append_left _ howner
      split
      · exact ⟨owner, hmem, hid, hrun, hagentId, hgeneration, fun _ => nofun⟩
      · exact ⟨owner, hmem, hid, hrun, hagentId, hgeneration, hrevoked⟩
    · rw [List.mem_singleton.mp hnew]
      refine ⟨session, List.mem_append_right _ (List.mem_singleton_self _), hcredential.1.symm,
        hcredential.2.1.symm, hcredential.2.2.1.symm, hcredential.2.2.2.symm, ?_⟩
      intro hterminal
      rw [hsessionState] at hterminal
      cases hterminal
  credentialed := by
    intro row hrow
    rcases List.mem_append.mp hrow with hold | hnew
    · obtain ⟨own, hown, hid⟩ := h.credentialed row hold
      obtain ⟨own', hown', hid'⟩ := Table.exists_mem_updateWhere
        (p := fun row : SessionCredentialRecord => row.runId == credential.runId &&
          row.agentId == credential.agentId && row.revokedAt == none)
        (f := fun row : SessionCredentialRecord =>
          { row with revokedAt := some credential.createdAt })
        (P := fun own => own.sessionId = row.id) (fun _ _ hid => hid) ⟨own, hown, hid⟩
      exact ⟨own', List.mem_append_left _ hown', hid'⟩
    · rw [List.mem_singleton.mp hnew]
      exact ⟨credential, List.mem_append_right _ (List.mem_singleton_self _), hcredential.1⟩

/-- The session that a scope selects is the one it was taken from. -/
theorem Fenced.selects_session (h : r.Fenced) {session row : SessionRecord}
    (hsession : session ∈ r.sessions) (hrow : row ∈ r.sessions) :
    (row.id == session.scope.sessionId && row.runId == session.scope.runId &&
      row.agentId == session.scope.agentId && row.generation == session.scope.generation) = true ↔
      row = session := by
  constructor
  · intro hp
    simp only [Bool.and_eq_true, beq_iff_eq] at hp
    exact h.sessions.eq_of_key_eq hrow hsession hp.1.1.1
  · rintro rfl
    simp [SessionRecord.scope]

/-- The credentials of a session after it was observed in a terminal state are revoked. -/
theorem Fenced.observe (h : r.Fenced) {session : SessionRecord} {agent : AgentRecord}
    {observed : LifecycleState} {observedAt : Int} (hsession : session ∈ r.sessions)
    (hagent : agent ∈ r.agents) (hcurrent : session.CurrentOf agent) :
    (r.observe session.scope observed observedAt).Fenced where
  agents := Table.keyed_updateWhere (fun _ _ => rfl) h.agents
  sessions := Table.keyed_updateWhere (fun _ _ => rfl) h.sessions
  generations := Table.keyed_updateWhere (fun _ _ => rfl) h.generations
  credentials := by
    unfold Roster.observe
    dsimp only
    split
    · exact Table.keyed_updateWhere (fun _ _ => rfl) h.credentials
    · exact h.credentials
  employed := by
    intro row' hrow'
    obtain ⟨row, hrow, rfl⟩ := Table.mem_updateWhere.mp hrow'
    obtain ⟨owner, howner, hid, hrun, hinStep⟩ := h.employed row hrow
    by_cases hsame : row = session
    · -- the observed session: it and its agent are both in the observed state
      subst hsame
      have hownerAgent : owner = agent :=
        h.agents.eq_of_key_eq howner hagent (hid.trans hcurrent.1)
      rw [if_pos ((h.selects_session hsession hrow).mpr rfl)]
      refine ⟨{ owner with state := observed }, ?_, hid, hrun, .inl ⟨?_, rfl⟩⟩
      · refine Table.mem_updateWhere_of_pos howner ?_
        rw [hownerAgent]
        simp [SessionRecord.scope, hcurrent.1, hcurrent.2.1, hcurrent.2.2]
      · rw [hownerAgent]
        exact hcurrent.2.2
    · rw [if_neg fun hp => hsame ((h.selects_session hsession hrow).mp hp)]
      by_cases hp : (owner.id == session.scope.agentId && owner.runId == session.scope.runId &&
          owner.generation == session.scope.generation) = true
      · -- another session of the observed agent belongs to an earlier generation
        refine ⟨{ owner with state := observed }, Table.mem_updateWhere_of_pos howner hp, hid, hrun,
          ?_⟩
        simp only [SessionRecord.scope, Bool.and_eq_true, beq_iff_eq] at hp
        rcases hinStep with ⟨hgeneration, -⟩ | hearlier
        · have hkey : (row.agentId, row.generation) = (session.agentId, session.generation) := by
            rw [← hid, hp.1.1, hgeneration, hp.2]
          exact absurd (h.generations.eq_of_key_eq hrow hsession hkey) hsame
        · exact .inr hearlier
      · exact ⟨owner, Table.mem_updateWhere_of_neg howner (Bool.eq_false_iff.mpr hp), hid, hrun,
          hinStep⟩
  ended := by
    intro row' hrow' hterminal
    obtain ⟨row, hrow, rfl⟩ := Table.mem_updateWhere.mp hrow'
    split at hterminal
    · next hp =>
        rw [if_pos hp]
        simp only at hterminal
        simp [hterminal]
    · next hp =>
        rw [if_neg hp]
        exact h.ended row hrow hterminal
  issued := by
    intro row' hrow'
    -- the row before, and whether it was revoked now
    have hbefore : ∃ row ∈ r.credentials, row'.sessionId = row.sessionId ∧
        row'.runId = row.runId ∧ row'.agentId = row.agentId ∧ row'.generation = row.generation ∧
        (row.revokedAt ≠ none → row'.revokedAt ≠ none) ∧
        (observed.isTerminal = true → row.sessionId = session.id → row'.revokedAt ≠ none) := by
      unfold Roster.observe at hrow'
      dsimp only at hrow'
      split at hrow'
      · obtain ⟨row, hrow, rfl⟩ := Table.mem_updateWhere.mp hrow'
        refine ⟨row, hrow, ?_⟩
        split
        · exact ⟨rfl, rfl, rfl, rfl, fun _ => nofun, fun _ _ => nofun⟩
        · next hp =>
            refine ⟨rfl, rfl, rfl, rfl, fun hrevoked => hrevoked, ?_⟩
            intro _ hid hnone
            exact hp (by simp [SessionRecord.scope, hid, hnone])
      · next hterminal =>
          exact ⟨row', hrow', rfl, rfl, rfl, rfl, fun hrevoked => hrevoked,
            fun hobserved => absurd hobserved hterminal⟩
    obtain ⟨row, hrow, hids, hruns, hagents, hgenerations, hkeep, hrevoke⟩ := hbefore
    obtain ⟨owner, howner, hid, hrun, hagentId, hgeneration, hrevoked⟩ := h.issued row hrow
    rw [hids, hruns, hagents, hgenerations]
    by_cases hsame : owner = session
    · subst hsame
      refine ⟨_, Table.mem_updateWhere_of_pos howner ((h.selects_session hsession howner).mpr rfl),
        hid, hrun, hagentId, hgeneration, ?_⟩
      intro hterminal
      exact hrevoke hterminal hid.symm
    · refine ⟨owner, Table.mem_updateWhere_of_neg howner ?_, hid, hrun, hagentId, hgeneration,
        fun hterminal => hkeep (hrevoked hterminal)⟩
      rw [Bool.eq_false_iff]
      exact fun hp => hsame ((h.selects_session hsession howner).mp hp)
  credentialed := by
    intro row' hrow'
    obtain ⟨row, hrow, rfl⟩ := Table.mem_updateWhere.mp hrow'
    have hown : ∃ own ∈ (r.observe session.scope observed observedAt).credentials,
        own.sessionId = row.id := by
      unfold Roster.observe
      dsimp only
      split
      · exact Table.exists_mem_updateWhere (fun _ _ hid => hid) (h.credentialed row hrow)
      · exact h.credentialed row hrow
    split <;> exact hown

theorem Fenced.note (h : r.Fenced) {sessions : List SessionRecord}
    (hnoted : List.Forall₂ SessionRecord.Noted r.sessions sessions) :
    Fenced { r with sessions := sessions } where
  agents := h.agents
  sessions := by
    rw [Table.Keyed, Table.map_eq_of_forall₂ (fun _ _ hrow => hrow.id) hnoted]
    exact h.sessions
  generations := by
    rw [Table.Keyed, Table.map_eq_of_forall₂ _ hnoted]
    · exact h.generations
    · intro row row' hrow
      rw [show row'.agentId = row.agentId from congrArg SessionScope.agentId hrow.scope,
        show row'.generation = row.generation from congrArg SessionScope.generation hrow.scope]
  credentials := h.credentials
  employed := by
    intro row' hrow'
    obtain ⟨row, hrow, hnote⟩ := Table.exists_mem_of_forall₂ hnoted hrow'
    obtain ⟨owner, howner, hid, hrun, hinStep⟩ := h.employed row hrow
    refine ⟨owner, howner, ?_, ?_, ?_⟩
    · rw [hid]
      exact (congrArg SessionScope.agentId hnote.scope).symm
    · rw [hrun]
      exact (congrArg SessionScope.runId hnote.scope).symm
    · unfold InStep at hinStep ⊢
      rw [hnote.state, show row'.generation = row.generation from
        congrArg SessionScope.generation hnote.scope]
      exact hinStep
  ended := by
    intro row' hrow' hterminal
    obtain ⟨row, hrow, hnote⟩ := Table.exists_mem_of_forall₂ hnoted hrow'
    rw [hnote.state] at hterminal
    rw [hnote.endedAt]
    exact h.ended row hrow hterminal
  issued := by
    intro credential hcredential
    obtain ⟨row, hrow, hid, hrun, hagentId, hgeneration, hrevoked⟩ := h.issued credential hcredential
    obtain ⟨row', hrow', hnote⟩ := Table.exists_mem_forall₂ hnoted hrow
    refine ⟨row', hrow', hnote.id.trans hid, ?_, ?_, ?_, ?_⟩
    · exact (congrArg SessionScope.runId hnote.scope).trans hrun
    · exact (congrArg SessionScope.agentId hnote.scope).trans hagentId
    · exact (congrArg SessionScope.generation hnote.scope).trans hgeneration
    · rw [hnote.state]
      exact hrevoked
  credentialed := by
    intro row' hrow'
    obtain ⟨row, hrow, hnote⟩ := Table.exists_mem_of_forall₂ hnoted hrow'
    rw [hnote.id]
    exact h.credentialed row hrow

theorem Fenced.rotate (h : r.Fenced) {credentials : List SessionCredentialRecord}
    (hrotated : List.Forall₂ SessionCredentialRecord.Rotated r.credentials credentials) :
    Fenced { r with credentials := credentials } where
  agents := h.agents
  sessions := h.sessions
  generations := h.generations
  credentials := by
    rw [Table.Keyed, Table.map_eq_of_forall₂ (fun _ _ hrow => hrow.sessionId) hrotated]
    exact h.credentials
  employed := h.employed
  ended := h.ended
  issued := by
    intro row' hrow'
    obtain ⟨row, hrow, hrotate⟩ := Table.exists_mem_of_forall₂ hrotated hrow'
    rw [hrotate.sessionId, hrotate.runId, hrotate.agentId, hrotate.generation, hrotate.revokedAt]
    exact h.issued row hrow
  credentialed := by
    intro session hsession
    obtain ⟨row, hrow, hid⟩ := h.credentialed session hsession
    obtain ⟨row', hrow', hrotate⟩ := Table.exists_mem_forall₂ hrotated hrow
    exact ⟨row', hrow', hrotate.sessionId.trans hid⟩

/-- Every step keeps the fencing invariant. -/
theorem Fenced.step {r' : Roster} (h : r.Fenced) (hstep : r.Step r') : r'.Fenced := by
  cases hstep with
  | hire agent hnew => exact h.hire hnew
  | restart agent generation hagent hterminal hlater => exact h.restart hagent hterminal hlater
  | retire agent state hagent hnone => exact h.retire hagent hnone
  | enter agent session credential hagent hcurrent hagentState hsessionState hsessionNew
      hgenerationNew hcredentialNew hcredential =>
      exact h.enter hagent hcurrent hagentState hsessionState hsessionNew hgenerationNew
        hcredentialNew hcredential
  | observe session agent observed observedAt hsession hagent hcurrent _ =>
      exact h.observe hsession hagent hcurrent
  | note sessions hnoted => exact h.note hnoted
  | rotate credentials hrotated => exact h.rotate hrotated

end Roster

end Coterie
