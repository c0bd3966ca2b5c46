/-
  Coterie.Sessions.Fencing

  What the fencing invariant gives to every run: an observation whose scope is not the current one of
  its agent changes nothing; the agent and the session of its current generation are in one state; a
  session that has ended stays ended, with its credential revoked; and an agent has at most one
  credential that is not revoked, the one of its current generation.
-/

import Coterie.Sessions.Refinement

namespace Coterie

-- ============================================================================
-- Scopes that are not current
-- ============================================================================

/-- The scope names a session, by all its columns, and the current generation of its agent. -/
def SessionScope.NamesCurrent (scope : SessionScope) (db : Db) : Prop :=
  (∃ session ∈ db.sessions, session.scope = scope) ∧
    ∃ agent ∈ db.agents, agent.id = scope.agentId ∧ agent.runId = scope.runId ∧
      agent.generation = scope.generation

theorem sessionScopeIsCurrent_eq_false {db : Db} {scope : SessionScope}
    (h : ¬ scope.NamesCurrent db) : db.sessionScopeIsCurrent scope = false := by
  rw [Bool.eq_false_iff]
  exact fun hcurrent => h (sessionScopeIsCurrent_eq_true hcurrent)

theorem recordSessionLifecycle_stale {db : Db} {scope : SessionScope}
    (h : ¬ scope.NamesCurrent db) (observed : LifecycleState) (observedAt : Int) :
    (recordSessionLifecycle scope observed observedAt).run db = (.ok .stale, db) := by
  unfold recordSessionLifecycle
  rw [Tx.run_bind, Tx.run_read]
  cases db.session scope.sessionId with
  | none => rfl
  | some session =>
      dsimp only
      rw [Tx.run_bind, Tx.run_read, sessionScopeIsCurrent_eq_false h]
      rfl

theorem recordSessionLaunchObservation_stale {db : Db} {scope : SessionScope}
    (h : ¬ scope.NamesCurrent db) (providerSessionId : String) (observedAt : Int) :
    (recordSessionLaunchObservation scope providerSessionId observedAt).run db =
      (.ok .stale, db) := by
  unfold recordSessionLaunchObservation
  rw [Tx.run_bind, Tx.run_read]
  cases db.session scope.sessionId with
  | none => rfl
  | some session =>
      dsimp only
      rw [Tx.run_bind, Tx.run_read, sessionScopeIsCurrent_eq_false h]
      rfl

-- ============================================================================
-- Sessions that have ended
-- ============================================================================

/-- An ended session keeps its state, except that the loss of a foreground process may turn out to
    be its exit. -/
def SessionRecord.EndsAs (session : SessionRecord) (state : LifecycleState) : Prop :=
  state = session.state ∨
    session.processOwner = .foreground ∧ session.state = .lost ∧ state = .exited

namespace Roster

variable {r r' : Roster}

/-- Every session is still there, and an ended one has stayed ended. -/
def Continues (r r' : Roster) : Prop :=
  ∀ session ∈ r.sessions, ∃ session' ∈ r'.sessions, session'.id = session.id ∧
    session'.processOwner = session.processOwner ∧
      (session.state.isTerminal = true → session.EndsAs session'.state)

instance : Std.Refl Continues where
  refl _ := fun session hsession => ⟨session, hsession, rfl, rfl, fun _ => .inl rfl⟩

instance : IsTrans Roster Continues where
  trans := by
    intro a b c hab hbc session hsession
    obtain ⟨session', hsession', hid, howner, hends⟩ := hab session hsession
    obtain ⟨session'', hsession'', hid', howner', hends'⟩ := hbc session' hsession'
    refine ⟨session'', hsession'', hid'.trans hid, howner'.trans howner, ?_⟩
    intro hterminal
    rcases hends hterminal with hsame | ⟨hforeground, hlost, hexited⟩
    · rw [← hsame] at hterminal
      rcases hends' hterminal with hsame' | ⟨hforeground, hlost, hexited⟩
      · exact .inl (hsame'.trans hsame)
      · exact .inr ⟨howner ▸ hforeground, hsame ▸ hlost, hexited⟩
    · -- an exit is final
      have hterminal' : session'.state.isTerminal = true := by rw [hexited]; rfl
      rcases hends' hterminal' with hsame' | ⟨-, hlost', -⟩
      · exact .inr ⟨hforeground, hlost, hsame'.trans hexited⟩
      · rw [hexited] at hlost'
        cases hlost'

/-- A permitted observation of an ended session leaves it ended as it was. -/
theorem endsAs_of_mayObserve {session : SessionRecord} {observed : LifecycleState}
    (hterminal : session.state.isTerminal = true) (h : session.mayObserve observed = true) :
    session.EndsAs observed := by
  simp only [SessionRecord.mayObserve, Bool.or_eq_true, Bool.and_eq_true, beq_iff_eq] at h
  rcases h with hallows | ⟨⟨hforeground, hlost⟩, hexited⟩
  · exact .inl (LifecycleState.eq_of_allows_of_isTerminal hterminal hallows)
  · exact .inr ⟨hforeground, hlost, hexited⟩

theorem Step.continues (hfenced : r.Fenced) (hstep : r.Step r') : r.Continues r' := by
  intro session hsession
  cases hstep with
  | observe observedSession agent observed observedAt hobserved _ _ hpermitted =>
      by_cases hsame : session = observedSession
      · subst hsame
        refine ⟨_, Table.mem_updateWhere_of_pos hsession
          ((hfenced.selects_session hsession hsession).mpr rfl), rfl, rfl, ?_⟩
        exact fun hterminal => endsAs_of_mayObserve hterminal hpermitted
      · refine ⟨session, Table.mem_updateWhere_of_neg hsession ?_, rfl, rfl, fun _ => .inl rfl⟩
        rw [Bool.eq_false_iff]
        exact fun hp => hsame ((hfenced.selects_session hobserved hsession).mp hp)
  | note sessions hnoted =>
      obtain ⟨session', hsession', hnote⟩ := Table.exists_mem_forall₂ hnoted hsession
      exact ⟨session', hsession', hnote.id, hnote.owner, fun _ => .inl hnote.state⟩
  | enter =>
      exact ⟨session, List.mem_append_left _ hsession, rfl, rfl, fun _ => .inl rfl⟩
  | hire => exact ⟨session, hsession, rfl, rfl, fun _ => .inl rfl⟩
  | restart => exact ⟨session, hsession, rfl, rfl, fun _ => .inl rfl⟩
  | retire => exact ⟨session, hsession, rfl, rfl, fun _ => .inl rfl⟩
  | rotate => exact ⟨session, hsession, rfl, rfl, fun _ => .inl rfl⟩

theorem Leads.continues (hfenced : r.Fenced) (hleads : r.Leads r') : r.Continues r' := by
  induction hleads with
  | refl => exact Std.Refl.refl r
  | tail hbefore hstep ih =>
      exact IsTrans.trans _ _ _ ih (hstep.continues (hfenced.leads hbefore))

-- ============================================================================
-- Consequences of the invariant
-- ============================================================================

/-- The session of its agent's current generation is in the agent's state. -/
theorem Fenced.state_eq (h : r.Fenced) {session : SessionRecord} {agent : AgentRecord}
    (hsession : session ∈ r.sessions) (hagent : agent ∈ r.agents)
    (hid : agent.id = session.agentId) (hgeneration : agent.generation = session.generation) :
    agent.state = session.state := by
  obtain ⟨owner, howner, hownerId, -, hinStep⟩ := h.employed session hsession
  have hsame : owner = agent := h.agents.eq_of_key_eq howner hagent (hownerId.trans hid.symm)
  subst hsame
  rcases hinStep with ⟨-, hstate⟩ | ⟨hearlier, -⟩
  · exact hstate
  · omega

/-- The credentials of an ended session are revoked. -/
theorem Fenced.revoked (h : r.Fenced) {session : SessionRecord}
    {credential : SessionCredentialRecord} (hsession : session ∈ r.sessions)
    (hterminal : session.state.isTerminal = true) (hcredential : credential ∈ r.credentials)
    (hid : credential.sessionId = session.id) : credential.revokedAt ≠ none := by
  obtain ⟨owner, howner, hownerId, -, -, -, hrevoked⟩ := h.issued credential hcredential
  have hsame : owner = session := h.sessions.eq_of_key_eq howner hsession (hownerId.trans hid)
  exact hrevoked (hsame ▸ hterminal)

/-- A credential that is not revoked belongs to the current generation of its agent. -/
theorem Fenced.generation_of_unrevoked (h : r.Fenced) {credential : SessionCredentialRecord}
    (hcredential : credential ∈ r.credentials) (hunrevoked : credential.revokedAt = none)
    {agent : AgentRecord} (hagent : agent ∈ r.agents) (hid : agent.id = credential.agentId) :
    agent.generation = credential.generation ∧ agent.runId = credential.runId := by
  obtain ⟨session, hsession, -, hrun, hagentId, hgeneration, hrevoked⟩ :=
    h.issued credential hcredential
  obtain ⟨owner, howner, hownerId, hownerRun, hinStep⟩ := h.employed session hsession
  have hsame : owner = agent :=
    h.agents.eq_of_key_eq howner hagent (hownerId.trans (hagentId.trans hid.symm))
  subst hsame
  rcases hinStep with ⟨hcurrent, -⟩ | ⟨-, hended⟩
  · exact ⟨hcurrent.symm.trans hgeneration, hownerRun.trans hrun⟩
  · exact absurd hunrevoked (hrevoked hended)

/-- Two credentials of one agent that are not revoked are credentials of one session. -/
theorem Fenced.session_of_unrevoked (h : r.Fenced) {a c : SessionCredentialRecord}
    (ha : a ∈ r.credentials) (hc : c ∈ r.credentials) (hua : a.revokedAt = none)
    (huc : c.revokedAt = none) (hagent : a.agentId = c.agentId) : a.sessionId = c.sessionId := by
  obtain ⟨sa, hsa, hida, -, hagenta, hgena, -⟩ := h.issued a ha
  obtain ⟨sc, hsc, hidc, -, hagentc, hgenc, -⟩ := h.issued c hc
  obtain ⟨agent, hagentMem, hagentId, -⟩ := h.employed sa hsa
  have hga := (h.generation_of_unrevoked ha hua hagentMem (hagentId.trans hagenta)).1
  have hgc := (h.generation_of_unrevoked hc huc hagentMem
    (hagentId.trans (hagenta.trans hagent))).1
  have hkey : (sa.agentId, sa.generation) = (sc.agentId, sc.generation) := by
    rw [hagenta, hagentc, hgena, hgenc, hagent, ← hga, ← hgc]
  have hsame : sa = sc := h.generations.eq_of_key_eq hsa hsc hkey
  rw [← hida, ← hidc, hsame]

end Roster

-- ============================================================================
-- Every run
-- ============================================================================

/-- The credentials of an agent that are not revoked. -/
def Db.unrevokedCredentialsOf (db : Db) (runId : RunId) (agentId : AgentId) :
    List SessionCredentialRecord :=
  db.sessionCredentials.filter fun row =>
    row.runId == runId && row.agentId == agentId && row.revokedAt == none

theorem length_unrevokedCredentialsOf {db : Db} (h : db.roster.Fenced) (runId : RunId)
    (agentId : AgentId) : (db.unrevokedCredentialsOf runId agentId).length ≤ 1 := by
  apply h.credentials.length_filter_le_one
  intro a ha c hc hqa hqc
  simp only [Bool.and_eq_true, beq_iff_eq] at hqa hqc
  exact h.session_of_unrevoked ha hc hqa.2 hqc.2 (hqa.1.2.trans hqc.1.2.symm)

/-- Later rosters of a run continue earlier ones. -/
theorem continues_run (before after : List Command) :
    (storeMachine.run before).roster.Continues (storeMachine.run (before ++ after)).roster := by
  have hleads : ∀ (commands : List Command) (db : Db), db.roster.Fenced →
      db.roster.Leads (storeMachine.runFrom db commands).roster := by
    intro commands
    induction commands with
    | nil => exact fun db _ => .refl
    | cons command rest ih =>
        intro db hfenced
        have hmoves := command.exec_rosterMoves db hfenced
        exact hmoves.trans (ih _ (hfenced.leads hmoves))
  rw [Machine.run_append]
  exact (hleads after _ (fenced_run before)).continues (fenced_run before)

/-- In every reachable store: observations whose scope is not current change nothing; the session of
    an agent's current generation is in the agent's state; an ended session has its end on record, no
    credential that is not revoked, and stays ended as it is in every continuation of the run, but
    that a lost foreground session may turn out to have exited; and an agent has at most one
    credential that is not revoked, of its current generation. -/
theorem session_fencing (commands : List Command) :
    (∀ scope observed providerSessionId observedAt,
      ¬ scope.NamesCurrent (storeMachine.run commands) →
        (recordSessionLifecycle scope observed observedAt).run (storeMachine.run commands) =
            (.ok .stale, storeMachine.run commands) ∧
          (recordSessionLaunchObservation scope providerSessionId observedAt).run
              (storeMachine.run commands) = (.ok .stale, storeMachine.run commands)) ∧
    (∀ session ∈ (storeMachine.run commands).sessions,
      ∀ agent ∈ (storeMachine.run commands).agents, agent.id = session.agentId →
        agent.generation = session.generation → agent.state = session.state) ∧
    (∀ session ∈ (storeMachine.run commands).sessions, session.state.isTerminal = true →
      session.endedAt ≠ none ∧
        (∀ credential ∈ (storeMachine.run commands).sessionCredentials,
          credential.sessionId = session.id → credential.revokedAt ≠ none) ∧
        ∀ later, ∃ session', (storeMachine.run (commands ++ later)).session session.id =
            some session' ∧ session.EndsAs session'.state) ∧
    (∀ runId agentId,
      ((storeMachine.run commands).unrevokedCredentialsOf runId agentId).length ≤ 1) ∧
    ∀ credential ∈ (storeMachine.run commands).sessionCredentials,
      credential.revokedAt = none → ∀ agent ∈ (storeMachine.run commands).agents,
        agent.id = credential.agentId → agent.generation = credential.generation := by
  have hfenced := fenced_run commands
  refine ⟨?_, ?_, ?_, length_unrevokedCredentialsOf hfenced, ?_⟩
  · intro scope observed providerSessionId observedAt hnot
    exact ⟨recordSessionLifecycle_stale hnot _ _, recordSessionLaunchObservation_stale hnot _ _⟩
  · intro session hsession agent hagent hid hgeneration
    exact hfenced.state_eq hsession hagent hid hgeneration
  · intro session hsession hterminal
    refine ⟨hfenced.ended session hsession hterminal, ?_, ?_⟩
    · intro credential hcredential hid
      exact hfenced.revoked hsession hterminal hcredential hid
    · intro later
      obtain ⟨session', hsession', hid, -, hends⟩ :=
        continues_run commands later session hsession
      refine ⟨session', ?_, hends hterminal⟩
      have hfound := (fenced_run (commands ++ later)).sessions.find?_eq_some hsession'
      rw [hid] at hfound
      exact hfound
  · intro credential hcredential hunrevoked agent hagent hid
    exact (hfenced.generation_of_unrevoked hcredential hunrevoked hagent hid).1

end Coterie
