/-
  Coterie.Sessions.Recording

  What recording an observation of the provider does to the recorded state of its session, and when
  it is refused: a state that the transition table reaches from the recorded one is never refused,
  and what is recorded afterwards is the observed state, the quarantine of a crash loop, or what was
  recorded before.
-/

import Coterie.Sessions.Refinement

namespace Coterie

/-- The recorded lifecycle of a session. -/
def Db.sessionState (db : Db) (id : SessionId) : Option LifecycleState :=
  (db.session id).map (·.state)

/-- An observation is refused because the recorded state does not lead to it. -/
def StoreError.InvalidTransition : StoreError → Prop
  | .invalidSessionTransition _ _ _ => True
  | _ => False

theorem sessionState_of_writes {tables : List TableName} {db db' : Db}
    (h : WritesOnly tables db db') (hno : .sessions ∉ tables) (id : SessionId) :
    db'.sessionState id = db.sessionState id := by
  have hsessions : db'.sessions = db.sessions := h .sessions hno
  unfold Db.sessionState Db.session
  rw [hsessions]

/-- An update of the session that a scope names changes the state of no other session. -/
theorem sessionState_updateSession (db : Db) (scope : SessionScope)
    {f : SessionRecord → SessionRecord} (hf : ∀ row, (f row).id = row.id) (id : SessionId) :
    (db.updateSession scope f).sessionState id =
      (db.session id).map fun row =>
        if row.id == scope.sessionId && row.runId == scope.runId &&
          row.agentId == scope.agentId && row.generation == scope.generation
        then (f row).state else row.state := by
  unfold Db.sessionState Db.session Db.updateSession
  dsimp only
  rw [Table.find?_updateWhere, Option.map_map]
  · congr 1
    funext row
    simp only [Function.comp_apply]
    split <;> rfl
  · intro row _
    rw [hf]

/-! ## One observation -/

/-- The state of the session is the one before, or the observed one. -/
def Db.StateBecomes (id : SessionId) (observed : LifecycleState → Prop) (db db' : Db) : Prop :=
  db'.sessionState id = db.sessionState id ∨
    ∃ lifecycle, observed lifecycle ∧ db'.sessionState id = some lifecycle

theorem stateBecomes_unseen (id : SessionId) (observed : LifecycleState → Prop)
    (tables : List TableName) (hno : .sessions ∉ tables) :
    Unseen tables (Db.StateBecomes id observed) where
  still hw := .inl (sessionState_of_writes hw hno id)
  before := by
    intro s t u hw h
    unfold Db.StateBecomes at h ⊢
    rw [← sessionState_of_writes hw hno id]
    exact h
  after := by
    intro s t u h hw
    unfold Db.StateBecomes at h ⊢
    rw [sessionState_of_writes hw hno id]
    exact h

/-- The session is in the state that it was in. -/
def Db.SameSessionState (id : SessionId) (db db' : Db) : Prop :=
  db'.sessionState id = db.sessionState id

instance (id : SessionId) : Std.Refl (Db.SameSessionState id) where
  refl _ := rfl

instance (id : SessionId) : IsTrans Db (Db.SameSessionState id) where
  trans _ _ _ hab hbc := Eq.trans hbc hab

theorem sameSessionState_updateSession (db : Db) (scope : SessionScope)
    {f : SessionRecord → SessionRecord} (hf : ∀ row, (f row).id = row.id ∧ (f row).state = row.state)
    (id : SessionId) : db.SameSessionState id (db.updateSession scope f) := by
  unfold Db.SameSessionState
  rw [sessionState_updateSession db scope fun row => (hf row).1]
  simp only [(hf _).2, ite_self, Db.sessionState]

theorem recordSessionReconciliationState_sessionState (scope : SessionScope)
    (state : ExternalResourceState) (reconciledAt : Int) (id : SessionId) :
    Tx.Keeps (Db.SameSessionState id)
      (recordSessionReconciliationState scope state reconciledAt) := by
  refine .bind (.read _) fun found => ?_
  cases found with
  | none => exact .pure _
  | some session =>
      refine .bind (.read _) fun current => .ite (.pure _) (.ite (.pure _) ?_)
      refine .bind (.write fun db => ?_) fun _ => .pure _
      refine sameSessionState_updateSession db scope (fun row => ?_) id
      exact ⟨rfl, rfl⟩

theorem recordSessionLaunchObservation_sessionState (scope : SessionScope)
    (providerSessionId : String) (observedAt : Int) (id : SessionId) :
    Tx.Keeps (Db.SameSessionState id)
      (recordSessionLaunchObservation scope providerSessionId observedAt) := by
  refine .bind (.read _) fun found => ?_
  cases found with
  | none => exact .pure _
  | some session =>
      refine .bind (.read _) fun current => .ite (.pure _) (.ite (.pure _) ?_)
      refine .bind (.write fun db => ?_) fun _ => .pure _
      refine sameSessionState_updateSession db scope (fun row => ?_) id
      exact ⟨rfl, rfl⟩

/-- The process of a session is recorded without a change of its state. -/
theorem recordLaunchObservation_sessionState (scope : SessionScope) (providerSessionId : String)
    (observedAt : Int) (id : SessionId) :
    Tx.Keeps (Db.SameSessionState id)
      (recordLaunchObservation scope providerSessionId observedAt) := by
  refine .bind (.read _) fun found => ?_
  cases found with
  | none => exact .pure _
  | some session =>
      refine .bind (recordSessionLaunchObservation_sessionState _ _ _ id) fun outcome => ?_
      refine .when (Tx.Keeps.mono (R := Written [.events]) (writes_appendEvent _ rfl)
        fun db db' hwrites => ?_)
      exact sessionState_of_writes hwrites.writesOnly (by decide) id

theorem applySessionLifecycle_sessionState (db : Db) (scope : SessionScope)
    (observed : LifecycleState) (observedAt : Int) (id : SessionId) :
    Db.StateBecomes id (· = observed) db (db.applySessionLifecycle scope observed observedAt) := by
  have hsame : (db.applySessionLifecycle scope observed observedAt).sessionState id =
      (db.updateSession scope fun row =>
        { row with
          state := observed
          endedAt := if observed.isTerminal then some observedAt else none }).sessionState id := by
    unfold Db.applySessionLifecycle
    dsimp only
    split <;> rfl
  unfold Db.StateBecomes
  rw [hsame, sessionState_updateSession]
  · cases hfound : db.session id with
    | none => exact .inl (by simp [Db.sessionState, hfound])
    | some row =>
        rw [Option.map_some]
        split
        · exact .inr ⟨observed, rfl, rfl⟩
        · exact .inl (by simp [Db.sessionState, hfound])
  · intro row
    rfl

theorem recordSessionLifecycle_stateBecomes (scope : SessionScope) (observed : LifecycleState)
    (observedAt : Int) (id : SessionId) :
    Tx.Ensures (Db.StateBecomes id (· = observed))
      (recordSessionLifecycle scope observed observedAt) := by
  intro db outcome db' h
  rcases recordSessionLifecycle_ok h with ⟨-, rfl⟩ | ⟨-, -, rfl⟩
  · exact .inl rfl
  · exact applySessionLifecycle_sessionState db scope observed observedAt id

/-- The states that an observation may lead to: the observed one, and the quarantine of a crash loop
    when a process has failed. -/
def SessionObservation.MayRecord (observation : SessionObservation) (lifecycle : LifecycleState) :
    Prop :=
  lifecycle = observation.lifecycle ∨ lifecycle = .quarantined ∧ observation.failed = true

theorem observedLifecycle_ok {scope : SessionScope} {session : SessionRecord}
    {observation : SessionObservation} {observedAt : Int} {policy : SupervisionPolicy} {db db' : Db}
    {lifecycle : LifecycleState}
    (h : (observedLifecycle scope session observation observedAt policy).run db =
      (.ok lifecycle, db')) :
    lifecycle = observation.lifecycle ∨
      lifecycle = .quarantined ∧ observation.failed = true ∧ session.state.isTerminal = false := by
  unfold observedLifecycle at h
  split at h
  · next hfailed =>
      obtain ⟨quarantined, _, _, h⟩ := Tx.bind_eq_ok.mp h
      obtain ⟨rfl, -⟩ := Tx.pure_eq_ok.mp h
      split
      · exact .inr ⟨rfl, hfailed.2, hfailed.1⟩
      · exact .inl rfl
  · obtain ⟨rfl, -⟩ := Tx.pure_eq_ok.mp h
    exact .inl rfl

/-- After an observation was recorded. -/
theorem recordObservation_stateBecomes (scope : SessionScope) (observation : SessionObservation)
    (observedAt : Int) (policy : SupervisionPolicy) (id : SessionId) :
    Tx.Ensures (Db.StateBecomes id observation.MayRecord)
      (recordObservation scope observation observedAt policy) := by
  have hrest := stateBecomes_unseen id observation.MayRecord [.sessionFailures, .events]
    (by decide)
  refine hrest.bind (.read _) fun found => ?_
  cases found with
  | none => exact hrest.ensures (.pure _)
  | some session =>
      intro db u db' h
      obtain ⟨lifecycle, db₁, h₁, h⟩ := Tx.bind_eq_ok.mp h
      have hobserved : Written [.sessionFailures, .events] db db₁ :=
        (writes_observedLifecycle _ _ _ _ _).of_ok h₁
      have hstart : db₁.sessionState id = db.sessionState id :=
        sessionState_of_writes hobserved.writesOnly (by decide) id
      obtain ⟨_, db₂, h₂, h⟩ := Tx.bind_eq_ok.mp h
      have hreconciled : db₂.sessionState id = db₁.sessionState id := by
        obtain ⟨outcome, db₃, h₃, h₂⟩ := Tx.bind_eq_ok.mp h₂
        have hevent : Written [.events] db₃ db₂ := (Tx.Keeps.when (writes_appendEvent _ rfl)).of_ok h₂
        rw [sessionState_of_writes hevent.writesOnly (by decide) id]
        exact (recordSessionReconciliationState_sessionState _ _ _ id).of_ok h₃
      obtain ⟨outcome, db₃, h₃, h⟩ := Tx.bind_eq_ok.mp h
      have hevents : Written [.events] db₃ db' :=
        (Tx.Keeps.when (.bind (writes_appendEvent _ rfl) fun _ => writes_appendEvent _ rfl)).of_ok h
      have hbecomes := recordSessionLifecycle_stateBecomes _ _ _ id db₂ outcome db₃ h₃
      unfold Db.StateBecomes at hbecomes ⊢
      rw [sessionState_of_writes hevents.writesOnly (by decide) id]
      rw [hreconciled, hstart] at hbecomes
      rcases hbecomes with hsame | ⟨reached, hreached, hstate⟩
      · exact .inl hsame
      · refine .inr ⟨reached, ?_, hstate⟩
        rw [hreached]
        rcases observedLifecycle_ok h₁ with hobserved | ⟨hquarantined, hfailed, -⟩
        · exact .inl hobserved
        · exact .inr ⟨hquarantined, hfailed⟩

/-! ## Refusals -/

theorem appendEvent_avoidsInvalid {I : Db → Prop} (event : NewEvent) :
    Tx.Avoids I StoreError.InvalidTransition (appendEvent event) :=
  .seq (.require id _) fun _ => .write _

/-- An observation that the recorded state allows is not refused. -/
theorem recordSessionLifecycle_avoidsInvalid (scope : SessionScope) (observed : LifecycleState)
    (observedAt : Int) :
    Tx.Avoids
      (fun db => ∀ state, db.sessionState scope.sessionId = some state →
        state.allows observed = true)
      StoreError.InvalidTransition (recordSessionLifecycle scope observed observedAt) := by
  refine .read_bind fun db hallows => ?_
  cases hsession : db.session scope.sessionId with
  | none => exact .pure _
  | some session =>
      refine .seq (.read _) fun current => .ite (.pure _) (.seq (.read _) fun agent? => ?_)
      cases agent? with
      | none => exact .pure _
      | some agent =>
          refine .ite (.pure _) (.ite (.throw id) (.ite (.pure _) ?_))
          split
          · next hrefused =>
              have hallowed : session.state.allows observed = true :=
                hallows _ (by rw [Db.sessionState, hsession, Option.map_some])
              simp [SessionRecord.mayObserve, hallowed] at hrefused
          · exact .seq (.require id _) fun _ => .seq (.write _) fun _ => .pure _

theorem recordSessionFailure_avoidsInvalid {I : Db → Prop} (scope : SessionScope) (now : Int)
    (policy : SupervisionPolicy) :
    Tx.Avoids I StoreError.InvalidTransition (recordSessionFailure scope now policy) := by
  refine .seq (.read _) fun _ => .ite (.pure _) (.seq (.read _) fun _ => .ite (.read _) ?_)
  refine .seq (.write _) fun _ => .seq (.read _) fun _ => .ite ?_ (.pure _)
  exact .seq (.write _) fun _ => .seq (appendEvent_avoidsInvalid _) fun _ => .pure _

/-- Recording an observation that the recorded state allows is not refused. -/
theorem recordObservation_avoidsInvalid (scope : SessionScope) (observation : SessionObservation)
    (observedAt : Int) (policy : SupervisionPolicy) :
    Tx.Avoids
      (fun db => ∀ state, db.sessionState scope.sessionId = some state →
        state.allows observation.lifecycle = true)
      StoreError.InvalidTransition (recordObservation scope observation observedAt policy) := by
  refine .bind (J := fun found db => db.session scope.sessionId = found ∧
    ∀ state, db.sessionState scope.sessionId = some state →
      state.allows observation.lifecycle = true) (.read _) ?_ fun found => ?_
  · intro db found db' hallows hrun
    obtain ⟨rfl, rfl⟩ := Tx.read_eq_ok.mp hrun
    exact ⟨rfl, hallows⟩
  cases found with
  | none => exact .pure _
  | some session =>
      -- from here on the session stays in the state that was read
      refine .bind (J := fun lifecycle db =>
        db.sessionState scope.sessionId = some session.state ∧
          session.state.allows lifecycle = true) ?_ ?_ fun lifecycle => ?_
      · exact .ite (.seq (recordSessionFailure_avoidsInvalid _ _ _) fun _ => .pure _) (.pure _)
      · rintro db lifecycle db' ⟨hsession, hallows⟩ hrun
        have hstate : db.sessionState scope.sessionId = some session.state := by
          rw [Db.sessionState, hsession, Option.map_some]
        have hwrites : Written [.sessionFailures, .events] db db' :=
          (writes_observedLifecycle _ _ _ _ _).of_ok hrun
        refine ⟨(sessionState_of_writes hwrites.writesOnly (by decide) _).trans hstate, ?_⟩
        rcases observedLifecycle_ok hrun with rfl | ⟨rfl, -, hactive⟩
        · exact hallows _ hstate
        · exact LifecycleState.allows_of_not_isTerminal hactive (by decide)
      refine .bind (J := fun _ db =>
        db.sessionState scope.sessionId = some session.state ∧
          session.state.allows lifecycle = true) ?_ ?_ fun _ => ?_
      · refine .seq ?_ fun _ => .when (appendEvent_avoidsInvalid _)
        refine .seq (.read _) fun found => ?_
        cases found with
        | none => exact .pure _
        | some _ => exact .seq (.read _) fun _ => .ite (.pure _) (.ite (.pure _)
            (.seq (.write _) fun _ => .pure _))
      · rintro db _ db' ⟨hstate, hallowed⟩ hrun
        obtain ⟨outcome, db₁, h₁, h₂⟩ := Tx.bind_eq_ok.mp hrun
        have hevent : Written [.events] db₁ db' := (Tx.Keeps.when (writes_appendEvent _ rfl)).of_ok h₂
        refine ⟨?_, hallowed⟩
        rw [sessionState_of_writes hevent.writesOnly (by decide) scope.sessionId,
          (recordSessionReconciliationState_sessionState _ _ _ _).of_ok h₁]
        exact hstate
      · refine .seq ?_ fun _ => .when (.seq (appendEvent_avoidsInvalid _) fun _ =>
          appendEvent_avoidsInvalid _)
        rintro db e db' ⟨hstate, hallowed⟩ hrun
        refine recordSessionLifecycle_avoidsInvalid scope lifecycle observedAt db e db' ?_ hrun
        intro state hfound
        rw [hstate, Option.some.injEq] at hfound
        rw [← hfound]
        exact hallowed

end Coterie
