/-
  Coterie.Supervisor.Controls

  Driving the controls of sessions (`supervisor/session.rs`: `drive_controls`).  A first transaction
  requests a control for every live session whose deadline has passed; each recorded control is
  then moved to the phase that the clock calls for, and its signal is sent to the provider.

  A control is recorded by an insertion that ignores a row which violates the check on its four
  times.  `controlTimesFit` is the condition on the policy and the clock under which the check holds:
  the resolver does not ask for it, so that an admitted policy can lose every request.
-/

import Coterie.Config.Resolver
import Coterie.Supervisor.Work

namespace Coterie

/-! ## Phases and signals -/

/-- The order of the phases. -/
def ControlPhase.rank : ControlPhase → Nat
  | .interrupt => 0
  | .terminate => 1
  | .kill => 2
  | .timedOut => 3
  | .completed => 4

/-- The later of two phases. -/
def ControlPhase.max (a b : ControlPhase) : ControlPhase :=
  if a.rank ≤ b.rank then b else a

/-- The phase that the clock and the session call for. -/
def SessionControl.phaseAt (control : SessionControl) (session : SessionRecord) (nowMs : Int) :
    ControlPhase :=
  if session.state.isTerminal = true then .completed
  else if control.deadlineMs ≤ nowMs then .timedOut
  else if control.killAtMs ≤ nowMs then .kill
  else if control.interruptUntilMs ≤ nowMs then .terminate
  else .interrupt

/-- The provider as the supervisor reaches it: the sessions it holds a handle of, and what a signal
    to one of them observes. -/
structure SignalChannel where
  handle : SessionId → Option SessionScope
  signal : ControlPhase → SessionScope → Option SessionObservation

/-- Send the signal of a control to a session that the supervisor holds, and record its effect. -/
def deliverControl (channel : SignalChannel) (nowMs : Int) (policy : SupervisionPolicy)
    (control : SessionControl) (session : SessionRecord) : Request Unit := do
  if control.delivered = true ∨ control.phase = .completed ∨ control.phase = .timedOut ∨
      session.processOwner = .foreground then pure ()
  else
    match channel.handle session.id with
    | none => pure ()
    | some scope =>
        if scope ≠ control.scope then pure ()
        else
          match channel.signal control.phase scope with
          -- Unproved control remains pending; one failed target must not starve its peers.
          | none => pure ()
          | some observation => do
              committed (recordObservation scope observation (nowMs.tdiv 1000) policy)
              committed (markControlDelivered control)

/-- Move one control to its phase and send its signal. -/
def driveControl (channel : SignalChannel) (nowMs : Int) (policy : SupervisionPolicy)
    (control : SessionControl) : Request Unit := do
  if ¬ (← Tx.read (·.sessionScopeIsCurrent control.scope)) then pure ()
  else
    match ← Tx.read (·.session control.scope.sessionId) with
    | none => pure ()
    | some session => do
        let phase := (control.phaseAt session nowMs).max control.phase
        if phase ≠ control.phase then do
          committed (setControlPhase control phase nowMs)
          deliverControl channel nowMs policy { control with phase := phase, delivered := false }
            session
        else deliverControl channel nowMs policy control session

/-- Applies durable deadlines without treating silence as semantic idleness. -/
def driveControls (channel : SignalChannel) (runId : RunId) (nowMs : Int)
    (policy : SupervisionPolicy) : Request Unit := do
  committed (requestControls runId nowMs policy)
  Tx.each (driveControl channel nowMs policy) (← Tx.read (·.sessionControlsOf runId))

/-! ## The times of a control -/

/-- The times stand in order, as the check of the table asks. -/
structure SessionControl.Ordered (control : SessionControl) : Prop where
  interrupt : control.requestedAtMs ≤ control.interruptUntilMs
  kill : control.interruptUntilMs ≤ control.killAtMs
  deadline : control.killAtMs < control.deadlineMs

/-- The interrupt ends before the first half of the timeout does, and the clock is not at the end
    of its range. -/
def controlTimesFit (requestedAtMs graceMs timeoutMs : Int) : Prop :=
  graceMs ≤ timeoutMs / 2 ∧ requestedAtMs + timeoutMs / 2 < i64Max

/-- The times that a control requested now would have fit: those of the policy, or those of the
    recorded shutdown. -/
def Db.controlTimesFit (db : Db) (runId : RunId) (nowMs : Int) (policy : SupervisionPolicy) : Prop :=
  match db.runShutdown runId with
  | none => Coterie.controlTimesFit nowMs policy.interruptGraceMs policy.shutdownTimeoutMs
  | some shutdown =>
      Coterie.controlTimesFit shutdown.requestedAtMs
        (shutdown.interruptUntilMs - shutdown.requestedAtMs)
        (shutdown.deadlineMs - shutdown.requestedAtMs)

/-- The check of the table, for times that are computed from a grace shorter than the timeout. -/
theorem check_iff_controlTimesFit {requestedAtMs graceMs timeoutMs : Int}
    (hrequested : isI64 requestedAtMs = true) (hgrace : 0 ≤ graceMs)
    (htimeout : graceMs < timeoutMs) :
    (requestedAtMs ≤ saturate (requestedAtMs + graceMs) ∧
        saturate (requestedAtMs + graceMs) ≤ saturate (requestedAtMs + timeoutMs.tdiv 2) ∧
        saturate (requestedAtMs + timeoutMs.tdiv 2) < saturate (requestedAtMs + timeoutMs)) ↔
      controlTimesFit requestedAtMs graceMs timeoutMs := by
  rw [isI64, Bool.and_eq_true, decide_eq_true_eq, decide_eq_true_eq] at hrequested
  have hhalf : timeoutMs.tdiv 2 = timeoutMs / 2 := Int.tdiv_eq_ediv_of_nonneg (by omega)
  rw [hhalf, controlTimesFit]
  unfold saturate
  have hmin : i64Min < i64Max := by decide
  constructor
  · rintro ⟨-, hkill, hdeadline⟩
    omega
  · rintro ⟨hfit, hrange⟩
    omega

/-! ## One request -/

/-- Every assignment is about a task of its run, as the foreign key of the table asks. -/
def Db.AssignmentsReferToTasks (db : Db) : Prop :=
  ∀ assignment ∈ db.assignments, ∃ task ∈ db.tasks,
    task.id = assignment.taskId ∧ task.runId = assignment.runId

/-- What the requests for controls do to the database: scopes stay current, and the new controls
    have their times in order, which is possible only when the times fit. -/
structure Db.ControlStep (fit : Prop) (db db' : Db) : Prop where
  runs : db'.runs = db.runs
  agents : db'.agents = db.agents
  sessions : db'.sessions = db.sessions
  tasks : db'.tasks = db.tasks
  runShutdowns : db'.runShutdowns = db.runShutdowns
  current : ∀ scope, db'.sessionScopeIsCurrent scope = db.sessionScopeIsCurrent scope
  assignments : db.AssignmentsReferToTasks → db'.AssignmentsReferToTasks
  controls : ∃ new, db'.sessionControls = db.sessionControls ++ new ∧
    ∀ row ∈ new, row.Ordered ∧ fit

namespace Db.ControlStep

variable {fit : Prop} {db db' db'' : Db}

theorem refl (db : Db) : db.ControlStep fit db where
  runs := rfl
  agents := rfl
  sessions := rfl
  tasks := rfl
  runShutdowns := rfl
  current _ := rfl
  assignments h := h
  controls := ⟨[], by rw [List.append_nil], fun _ h => absurd h List.not_mem_nil⟩

theorem trans (h : db.ControlStep fit db') (h' : db'.ControlStep fit db'') :
    db.ControlStep fit db'' where
  runs := h'.runs.trans h.runs
  agents := h'.agents.trans h.agents
  sessions := h'.sessions.trans h.sessions
  tasks := h'.tasks.trans h.tasks
  runShutdowns := h'.runShutdowns.trans h.runShutdowns
  current scope := (h'.current scope).trans (h.current scope)
  assignments := fun hrefer => h'.assignments (h.assignments hrefer)
  controls := by
    obtain ⟨new, hnew, hrows⟩ := h.controls
    obtain ⟨new', hnew', hrows'⟩ := h'.controls
    refine ⟨new ++ new', by rw [hnew', hnew, List.append_assoc], ?_⟩
    intro row hrow
    rcases List.mem_append.mp hrow with hrow | hrow
    · exact hrows row hrow
    · exact hrows' row hrow

/-- A recorded control stays. -/
theorem mem (h : db.ControlStep fit db') {row : SessionControl}
    (hrow : row ∈ db.sessionControls) : row ∈ db'.sessionControls := by
  obtain ⟨new, hnew, -⟩ := h.controls
  rw [hnew]
  exact List.mem_append_left _ hrow

/-- An event that retires no session. -/
theorem event {event : NewEvent} (hkind : event.kind ≠ .taskRecovered) :
    db.ControlStep fit (db.pushEvent event) where
  runs := rfl
  agents := rfl
  sessions := rfl
  tasks := rfl
  runShutdowns := rfl
  current scope := by
    have hrecovered : (db.pushEvent event).sessionRecovered scope.runId scope.sessionId =
        db.sessionRecovered scope.runId scope.sessionId := by
      have hnew : ((db.eventRecord event).eventType == EventKind.taskRecovered) = false :=
        beq_false_of_ne hkind
      simp only [Db.sessionRecovered, Db.pushEvent, List.any_append, List.any_cons, List.any_nil,
        hnew, Bool.and_false, Bool.false_and, Bool.or_false]
    rw [Db.sessionScopeIsCurrent, hrecovered]
    rfl
  assignments h := h
  controls := ⟨[], by rw [List.append_nil]; rfl, fun _ h => absurd h List.not_mem_nil⟩

end Db.ControlStep

/-- What a current scope refers to. -/
theorem references_of_current {db : Db} {scope : SessionScope}
    (h : db.sessionScopeIsCurrent scope = true) :
    db.runs.any (·.id == scope.runId) = true ∧
      db.agents.any (fun agent => agent.id == scope.agentId && agent.runId == scope.runId) =
        true := by
  simp only [Db.sessionScopeIsCurrent, Bool.and_eq_true, List.any_eq_true, beq_iff_eq] at h
  obtain ⟨⟨⟨-, agent, hagent, ⟨hid, hrun⟩, -⟩, run, hmem, hrunId, -⟩, -⟩ := h
  constructor
  · rw [List.any_eq_true]
    exact ⟨run, hmem, by rw [hrunId, beq_self_eq_true]⟩
  · rw [List.any_eq_true]
    exact ⟨agent, hagent, by rw [hid, hrun, beq_self_eq_true, beq_self_eq_true, Bool.and_self]⟩

/-- An event whose references hold is appended. -/
theorem appendEvent_succeeds {event : NewEvent} {fit : Prop} {db : Db}
    (hreferences : db.eventReferencesHold event = true) (hkind : event.kind ≠ .taskRecovered) :
    Tx.Succeeds (fun _ db' => db.ControlStep fit db') (appendEvent event) db :=
  .require_bind hreferences (.write (.event hkind))

/-- The supervisor's event about a current session is appended. -/
theorem supervisionEvent_succeeds (fit : Prop) {scope : SessionScope} {kind : EventKind}
    {subject : String} {data : JsonValue} {nowMs : Int} {db : Db}
    (hcurrent : db.sessionScopeIsCurrent scope = true) (hkind : kind ≠ .taskRecovered) :
    Tx.Succeeds (fun _ db' => db.ControlStep fit db')
      (supervisionEvent scope.runId kind subject (some scope.agentId) none data nowMs) db := by
  obtain ⟨hrun, hagent⟩ := references_of_current hcurrent
  refine appendEvent_succeeds ?_ hkind
  simp only [Db.eventReferencesHold, hrun, hagent, Option.all_none, Option.all_some, Bool.and_true]

theorem warnJobDeadline_succeeds {scope : SessionScope} {deadlineAt nowMs : Int} {fit : Prop}
    {db : Db} :
    Tx.Succeeds (fun _ db' => db.ControlStep fit db') (warnJobDeadline scope deadlineAt nowMs)
      db := by
  refine .read_bind (.read_bind ?_)
  by_cases hskip : ¬ db.sessionScopeIsCurrent scope = true ∨
      (db.events.any fun event =>
        event.runId == scope.runId && event.eventType == .sessionDeadlineApproaching &&
          event.subject == scope.sessionId.text &&
          event.payload.path? ["data", "generation"] == some (.num scope.generation)) = true
  · rw [if_pos hskip]
    exact .pure (.refl db)
  · rw [if_neg hskip]
    have hcurrent : db.sessionScopeIsCurrent scope = true := by
      by_contra hno
      exact hskip (.inl hno)
    exact supervisionEvent_succeeds fit hcurrent (by intro h; cases h)

/-- Draining the assignment of an agent of the run. -/
theorem drainAgent_succeeds (fit : Prop) (nowMs : Int) {runId : RunId} {agentId : AgentId} {db : Db}
    (hrun : db.runs.any (·.id == runId) = true)
    (hagent : db.agents.any (fun agent => agent.id == agentId && agent.runId == runId) = true)
    (hrefer : db.AssignmentsReferToTasks) :
    Tx.Succeeds (fun _ db' => db.ControlStep fit db') (drainAgent runId agentId nowMs) db := by
  refine .read_bind ?_
  cases hfound : db.activeAssignmentForAgent runId agentId with
  | none => exact .pure (.refl db)
  | some assignment =>
      dsimp only
      rw [drainAssignment]
      by_cases hdraining : assignment.state = .draining
      · rw [if_pos hdraining]
        exact .pure (.refl db)
      · rw [if_neg hdraining]
        have hmem : assignment ∈ db.assignments := List.mem_of_find?_eq_some hfound
        have howner := List.find?_some hfound
        simp only [Bool.and_eq_true, beq_iff_eq] at howner
        obtain ⟨⟨hrunId, hagentId⟩, -⟩ := howner
        obtain ⟨task, htask, htaskId, htaskRun⟩ := hrefer assignment hmem
        have hdrained : db.ControlStep fit
            { db with
              assignments := Table.updateWhere
                (fun row => row.id == assignment.id && row.completedAt == none)
                (fun row => { row with state := .draining }) db.assignments } := by
          refine ⟨rfl, rfl, rfl, rfl, rfl, fun _ => rfl, fun _ => ?_, ?_⟩
          · intro row hrow
            obtain ⟨old, hold, rfl⟩ := Table.mem_updateWhere.mp hrow
            obtain ⟨task, htask, hid, hrun⟩ := hrefer old hold
            refine ⟨task, htask, ?_⟩
            split <;> exact ⟨hid, hrun⟩
          · exact ⟨[], by rw [List.append_nil], fun _ h => absurd h List.not_mem_nil⟩
        refine .bind (Q := fun _ db' => db' = _) (.write rfl) ?_
        rintro _ _ rfl
        refine (appendEvent_succeeds ?_ (by intro h; cases h)).mono fun _ _ h => hdrained.trans h
        have htasks : db.tasks.any (fun t => t.id == assignment.taskId &&
            t.runId == runId) = true := by
          rw [List.any_eq_true]
          refine ⟨task, htask, ?_⟩
          rw [htaskId, htaskRun, hrunId, beq_self_eq_true, beq_self_eq_true, Bool.and_self]
        simp only [Db.eventReferencesHold, hrunId, hagentId, hrun, hagent, htasks,
          Option.all_none, Option.all_some, Bool.and_true]

/-- A request leaves a control for a current session when its times fit. -/
theorem requestSessionControl_succeeds {scope : SessionScope} {reason : ControlReason}
    {nowMs graceMs timeoutMs : Int} {db : Db} (hrefer : db.AssignmentsReferToTasks)
    (hnow : isI64 nowMs = true) (hgrace : 0 ≤ graceMs) (htimeout : graceMs < timeoutMs) :
    Tx.Succeeds
      (fun _ db' => db.ControlStep (controlTimesFit nowMs graceMs timeoutMs) db' ∧
        (db.sessionScopeIsCurrent scope = true → controlTimesFit nowMs graceMs timeoutMs →
          ∃ row ∈ db'.sessionControls, row.scope.sessionId = scope.sessionId))
      (requestSessionControl scope reason nowMs graceMs timeoutMs) db := by
  have hcheck := check_iff_controlTimesFit hnow hgrace htimeout
  refine .read_bind ?_
  by_cases hcurrent : db.sessionScopeIsCurrent scope = true
  · rw [if_neg (by rw [not_not]; exact hcurrent)]
    refine .read_bind ?_
    by_cases hexists : (db.sessionControls.any (·.scope.sessionId == scope.sessionId)) = true
    · rw [if_pos (.inl hexists)]
      refine .pure ⟨.refl db, fun _ _ => ?_⟩
      obtain ⟨row, hrow, hid⟩ := List.any_eq_true.mp hexists
      exact ⟨row, hrow, beq_iff_eq.mp hid⟩
    · by_cases hfit : controlTimesFit nowMs graceMs timeoutMs
      · have hordered := hcheck.mpr hfit
        rw [if_neg (by rintro (h | h); exacts [hexists h, h hordered])]
        refine .bind (Q := fun _ db' => db' = _) (.write rfl) ?_
        rintro _ db₁ rfl
        have hpushed : db.ControlStep (controlTimesFit nowMs graceMs timeoutMs)
            { db with
              sessionControls := db.sessionControls ++
                [{ scope, reason, phase := .interrupt, delivered := false,
                   requestedAtMs := nowMs, interruptUntilMs := saturate (nowMs + graceMs),
                   killAtMs := saturate (nowMs + timeoutMs.tdiv 2),
                   deadlineMs := saturate (nowMs + timeoutMs) }] } := by
          refine ⟨rfl, rfl, rfl, rfl, rfl, fun _ => rfl, fun h => h, ⟨_, rfl, ?_⟩⟩
          intro row hrow
          rw [List.mem_singleton.mp hrow]
          exact ⟨⟨hordered.1, hordered.2.1, hordered.2.2⟩, hfit⟩
        have hcurrent₁ := hcurrent
        rw [← hpushed.current scope] at hcurrent₁
        obtain ⟨hrun₁, hagent₁⟩ := references_of_current hcurrent₁
        have hdrained := drainAgent_succeeds (controlTimesFit nowMs graceMs timeoutMs) nowMs
          hrun₁ hagent₁ (hpushed.assignments hrefer)
        refine .bind
          (Q := fun _ db₂ => db.ControlStep (controlTimesFit nowMs graceMs timeoutMs) db₂ ∧
            ∃ row ∈ db₂.sessionControls, row.scope.sessionId = scope.sessionId) ?_ ?_
        · refine hdrained.mono fun _ db₂ h₂ => ⟨hpushed.trans h₂, ?_⟩
          exact ⟨_, h₂.mem (List.mem_append_right _ (List.mem_singleton_self _)), rfl⟩
        · rintro _ db₂ ⟨h₂, row, hrow, hid⟩
          have hcurrent₂ : db₂.sessionScopeIsCurrent scope = true := by
            rw [h₂.current]
            exact hcurrent
          refine (supervisionEvent_succeeds (controlTimesFit nowMs graceMs timeoutMs) hcurrent₂
            (by intro h; cases h)).mono ?_
          intro _ db₃ h₃
          exact ⟨h₂.trans h₃, fun _ _ => ⟨row, h₃.mem hrow, hid⟩⟩
      · rw [if_pos (.inr fun h => hfit (hcheck.mp h))]
        exact .pure ⟨.refl db, fun _ h => absurd h hfit⟩
  · rw [if_pos hcurrent]
    exact .pure ⟨.refl db, fun h => absurd h hcurrent⟩

/-! ## All requests of a run -/

/-- The schema of the table: a shutdown is requested before its interrupt ends, which is before its
    deadline. -/
def Db.ShutdownTimesOrdered (db : Db) : Prop :=
  ∀ shutdown ∈ db.runShutdowns, isI64 shutdown.requestedAtMs = true ∧
    isI64 shutdown.deadlineMs = true ∧ shutdown.requestedAtMs ≤ shutdown.interruptUntilMs ∧
    shutdown.interruptUntilMs < shutdown.deadlineMs

/-- The session is to be controlled now. -/
def Db.controlDue (db : Db) (runId : RunId) (nowMs : Int) (policy : SupervisionPolicy)
    (session : SessionRecord) : Option ControlReason :=
  controlReason (db.runShutdown runId) session (saturate (nowMs.tdiv 1000 - session.createdAt))
    policy

/-- The deadlines of one session leave a control when the times fit. -/
theorem requestControl_succeeds {runId : RunId} {nowMs : Int} {policy : SupervisionPolicy}
    {session : SessionRecord} {start db : Db} (hordered : start.ShutdownTimesOrdered)
    (hnow : isI64 nowMs = true) (hgrace : 0 ≤ policy.interruptGraceMs)
    (htimeout : policy.interruptGraceMs < policy.shutdownTimeoutMs)
    (hrun : session.runId = runId)
    (hstep : start.ControlStep (start.controlTimesFit runId nowMs policy) db)
    (hrefer : start.AssignmentsReferToTasks) :
    Tx.Succeeds
      (fun _ db' => db.ControlStep (start.controlTimesFit runId nowMs policy) db' ∧
        (session.state.isTerminal = false → start.sessionScopeIsCurrent session.scope = true →
          (start.controlDue runId nowMs policy session).isSome = true →
          start.controlTimesFit runId nowMs policy →
            ∃ row ∈ db'.sessionControls, row.scope.sessionId = session.id))
      (requestControl runId (start.runShutdown runId) nowMs policy session) db := by
  have hscope : ({ session.scope with runId := runId } : SessionScope) = session.scope := by
    rw [← hrun]
    rfl
  rw [requestControl, hscope]
  by_cases hterm : session.state.isTerminal = true
  · rw [if_pos hterm]
    refine .pure ⟨.refl db, fun h => ?_⟩
    rw [h] at hterm
    cases hterm
  · rw [if_neg hterm]
    have hwarned : Tx.Succeeds
        (fun _ db₁ => db.ControlStep (start.controlTimesFit runId nowMs policy) db₁)
        (Tx.when (deadlineApproaching (start.runShutdown runId) session
            (saturate (nowMs.tdiv 1000 - session.createdAt)) policy = true)
          (warnJobDeadline session.scope (saturate (session.createdAt + policy.jobTimeoutSeconds))
            nowMs)) db := by
      unfold Tx.when
      split
      · exact warnJobDeadline_succeeds
      · exact .pure (.refl db)
    refine .bind hwarned fun _ db₁ h₁ => ?_
    have hcurrent : db₁.sessionScopeIsCurrent session.scope =
        start.sessionScopeIsCurrent session.scope := by
      rw [h₁.current, hstep.current]
    have hrefer₁ := h₁.assignments (hstep.assignments hrefer)
    cases hdue : controlReason (start.runShutdown runId) session
        (saturate (nowMs.tdiv 1000 - session.createdAt)) policy with
    | none =>
        refine .pure ⟨h₁, fun _ _ hsome => ?_⟩
        rw [Db.controlDue, hdue] at hsome
        cases hsome
    | some reason =>
        -- the times of the request are those of the shutdown, if one is recorded
        cases hshutdown : start.runShutdown runId with
        | none =>
            have hfit : start.controlTimesFit runId nowMs policy =
                controlTimesFit nowMs policy.interruptGraceMs policy.shutdownTimeoutMs := by
              rw [Db.controlTimesFit, hshutdown]
            rw [hfit] at h₁ ⊢
            refine (requestSessionControl_succeeds hrefer₁ hnow hgrace htimeout).mono ?_
            rintro _ db₂ ⟨h₂, hrow⟩
            exact ⟨h₁.trans h₂, fun _ hstart _ => hrow (hcurrent.trans hstart)⟩
        | some shutdown =>
            have hfit : start.controlTimesFit runId nowMs policy =
                controlTimesFit shutdown.requestedAtMs
                  (shutdown.interruptUntilMs - shutdown.requestedAtMs)
                  (shutdown.deadlineMs - shutdown.requestedAtMs) := by
              rw [Db.controlTimesFit, hshutdown]
            obtain ⟨hrequested, -, hle, hlt⟩ :=
              hordered shutdown (List.mem_of_find?_eq_some hshutdown)
            have hgrace' : 0 ≤ shutdown.interruptUntilMs - shutdown.requestedAtMs := by omega
            have htimeout' : shutdown.interruptUntilMs - shutdown.requestedAtMs <
                shutdown.deadlineMs - shutdown.requestedAtMs := by omega
            rw [hfit] at h₁ ⊢
            refine (requestSessionControl_succeeds hrefer₁ hrequested hgrace' htimeout').mono ?_
            rintro _ db₂ ⟨h₂, hrow⟩
            exact ⟨h₁.trans h₂, fun _ hstart _ => hrow (hcurrent.trans hstart)⟩

/-- The first transaction of `driveControls` succeeds and leaves a control for every session that is
    to be controlled, when the times fit. -/
theorem requestControls_succeeds {runId : RunId} {nowMs : Int} {policy : SupervisionPolicy}
    {db : Db} (hordered : db.ShutdownTimesOrdered) (hrefer : db.AssignmentsReferToTasks)
    (hnow : isI64 nowMs = true) (hgrace : 0 ≤ policy.interruptGraceMs)
    (htimeout : policy.interruptGraceMs < policy.shutdownTimeoutMs) :
    Tx.Succeeds
      (fun _ db' => db.ControlStep (db.controlTimesFit runId nowMs policy) db' ∧
        ∀ session ∈ db.sessionsOf runId, session.state.isTerminal = false →
          db.sessionScopeIsCurrent session.scope = true →
          (db.controlDue runId nowMs policy session).isSome = true →
          db.controlTimesFit runId nowMs policy →
            ∃ row ∈ db'.sessionControls, row.scope.sessionId = session.id)
      (requestControls runId nowMs policy) db := by
  refine .read_bind (.read_bind ?_)
  refine (Tx.Succeeds.each
    (I := fun t => db.ControlStep (db.controlTimesFit runId nowMs policy) t)
    (P := fun session t => session.state.isTerminal = false →
      db.sessionScopeIsCurrent session.scope = true →
      (db.controlDue runId nowMs policy session).isSome = true →
      db.controlTimesFit runId nowMs policy →
        ∃ row ∈ t.sessionControls, row.scope.sessionId = session.id) ?_ (.refl db)).mono ?_
  · intro session hsession t ht
    have hrun : session.runId = runId := by
      rw [Db.sessionsOf, List.mem_mergeSort, List.mem_filter, beq_iff_eq] at hsession
      exact hsession.2
    refine (requestControl_succeeds hordered hnow hgrace htimeout hrun ht hrefer).mono ?_
    rintro _ t' ⟨ht', hrow⟩
    refine ⟨ht.trans ht', hrow, fun other hother hlive hcurrent hdue hfit => ?_⟩
    obtain ⟨row, hmem, hid⟩ := hother hlive hcurrent hdue hfit
    exact ⟨row, ht'.mem hmem, hid⟩
  · rintro _ t ⟨ht, hrows, -⟩
    exact ⟨ht, hrows⟩

/-! ## Recorded controls keep their times -/

/-- The same control: only its phase and its delivery differ. -/
structure SessionControl.SameTimes (control control' : SessionControl) : Prop where
  scope : control'.scope = control.scope
  reason : control'.reason = control.reason
  requested : control'.requestedAtMs = control.requestedAtMs
  interrupt : control'.interruptUntilMs = control.interruptUntilMs
  kill : control'.killAtMs = control.killAtMs
  deadline : control'.deadlineMs = control.deadlineMs

theorem SessionControl.SameTimes.refl (control : SessionControl) : control.SameTimes control :=
  ⟨rfl, rfl, rfl, rfl, rfl, rfl⟩

theorem SessionControl.SameTimes.trans {a b c : SessionControl} (h : a.SameTimes b)
    (h' : b.SameTimes c) : a.SameTimes c :=
  ⟨h'.scope.trans h.scope, h'.reason.trans h.reason, h'.requested.trans h.requested,
    h'.interrupt.trans h.interrupt, h'.kill.trans h.kill, h'.deadline.trans h.deadline⟩

/-- Recorded controls stay with their times, and a new one is about another session. -/
structure Db.ControlsKept (db db' : Db) : Prop where
  kept : ∀ row ∈ db.sessionControls, ∃ row' ∈ db'.sessionControls, row.SameTimes row'
  fresh : ∀ row' ∈ db'.sessionControls, (∃ row ∈ db.sessionControls, row.SameTimes row') ∨
    ∀ row ∈ db.sessionControls, row.scope.sessionId ≠ row'.scope.sessionId

instance : Std.Refl Db.ControlsKept where
  refl _ := ⟨fun row hrow => ⟨row, hrow, .refl row⟩, fun row hrow => .inl ⟨row, hrow, .refl row⟩⟩

instance : IsTrans Db Db.ControlsKept where
  trans := by
    intro a b c hab hbc
    constructor
    · intro row hrow
      obtain ⟨row', hrow', h⟩ := hab.kept row hrow
      obtain ⟨row'', hrow'', h'⟩ := hbc.kept row' hrow'
      exact ⟨row'', hrow'', h.trans h'⟩
    · intro row'' hrow''
      rcases hbc.fresh row'' hrow'' with ⟨row', hrow', h'⟩ | hnew
      · rcases hab.fresh row' hrow' with ⟨row, hrow, h⟩ | hnew
        · exact .inl ⟨row, hrow, h.trans h'⟩
        · right
          intro row hrow
          rw [h'.scope]
          exact hnew row hrow
      · right
        intro row hrow
        obtain ⟨row', hrow', h⟩ := hab.kept row hrow
        rw [← h.scope]
        exact hnew row' hrow'

instance : Std.Refl SessionControl.SameTimes where
  refl := .refl

instance : IsTrans SessionControl SessionControl.SameTimes where
  trans _ _ _ := .trans

/-- The controls are the same, in perhaps other phases. -/
def Db.ControlsUpdated (db db' : Db) : Prop :=
  List.Forall₂ SessionControl.SameTimes db.sessionControls db'.sessionControls

instance : Std.Refl Db.ControlsUpdated where
  refl db := List.forall₂_refl db.sessionControls

instance : IsTrans Db Db.ControlsUpdated where
  trans _ _ _ hab hbc := Table.forall₂_trans hab hbc

theorem Db.ControlsUpdated.kept {db db' : Db} (h : db.ControlsUpdated db') :
    db.ControlsKept db' where
  kept _ hrow := Table.exists_mem_forall₂ h hrow
  fresh _ hrow := .inl (Table.exists_mem_of_forall₂ h hrow)

theorem controlsUpdated_of_writes {α : Type} {x : Repo α} (tables : List TableName)
    (hno : .sessionControls ∉ tables) (h : Tx.Keeps (Written tables) x) :
    Tx.Keeps Db.ControlsUpdated x := by
  refine h.mono fun db db' hwritten => ?_
  have hsame : db'.sessionControls = db.sessionControls :=
    hwritten.writesOnly.same .sessionControls hno
  rw [Db.ControlsUpdated, hsame]
  exact List.forall₂_refl _

theorem controlsKept_of_writes {α : Type} {x : Repo α} (tables : List TableName)
    (hno : .sessionControls ∉ tables) (h : Tx.Keeps (Written tables) x) :
    Tx.Keeps Db.ControlsKept x :=
  (controlsUpdated_of_writes tables hno h).mono fun _ _ h => h.kept

theorem setControlPhase_controlsUpdated (control : SessionControl) (phase : ControlPhase)
    (nowMs : Int) : Tx.Keeps Db.ControlsUpdated (setControlPhase control phase nowMs) := by
  refine .bind (.read _) fun _ => .ite (.pure _) (.bind (.write fun db => ?_) fun _ => ?_)
  · exact Table.forall₂_updateWhere (fun _ _ => ⟨rfl, rfl, rfl, rfl, rfl, rfl⟩) _
  · exact controlsUpdated_of_writes [.events] (by decide) (writes_supervisionEvent rfl)

theorem markControlDelivered_controlsUpdated (control : SessionControl) :
    Tx.Keeps Db.ControlsUpdated (markControlDelivered control) := by
  refine .bind (.read _) fun _ => .ite (.write fun db => ?_) (.pure _)
  exact Table.forall₂_updateWhere (fun _ _ => ⟨rfl, rfl, rfl, rfl, rfl, rfl⟩) _

/-- A request never touches a recorded control. -/
theorem requestSessionControl_controlsKept (scope : SessionScope) (reason : ControlReason)
    (nowMs graceMs timeoutMs : Int) :
    Tx.Keeps Db.ControlsKept (requestSessionControl scope reason nowMs graceMs timeoutMs) := by
  refine .bind (.read _) fun _ => .ite (.pure _) fun db => ?_
  by_cases hskip : (db.sessionControls.any (·.scope.sessionId == scope.sessionId)) = true ∨
      ¬ (nowMs ≤ saturate (nowMs + graceMs) ∧
        saturate (nowMs + graceMs) ≤ saturate (nowMs + timeoutMs.tdiv 2) ∧
        saturate (nowMs + timeoutMs.tdiv 2) < saturate (nowMs + timeoutMs))
  · rw [Tx.run_bind, Tx.run_read]
    dsimp only
    rw [if_pos hskip]
    exact Std.Refl.refl db
  · rw [Tx.run_bind, Tx.run_read]
    dsimp only
    rw [if_neg hskip]
    refine Tx.Keeps.bind_at ?_ fun _ db₁ _ => ?_
    · -- the new row is about a session without a control
      constructor
      · intro row hrow
        exact ⟨row, List.mem_append_left _ hrow, .refl row⟩
      · intro row' hrow'
        rcases List.mem_append.mp hrow' with hold | hnew
        · exact .inl ⟨row', hold, .refl row'⟩
        · right
          intro row hrow hid
          rw [List.mem_singleton.mp hnew] at hid
          exact hskip (.inl (List.any_eq_true.mpr ⟨row, hrow, beq_iff_eq.mpr hid⟩))
    · have hrest : Tx.Keeps Db.ControlsKept (do
          drainAgent scope.runId scope.agentId nowMs
          supervisionEvent scope.runId .sessionControlChanged scope.sessionId.text
            (some scope.agentId) none
            (.obj [("generation", .num scope.generation),
              ("phase", .str ControlPhase.interrupt.asStr), ("reason", .str reason.asStr)])
            nowMs) :=
        .bind (controlsKept_of_writes [.assignments, .events, .drains] (by decide)
          (writes_drainAgent _ _ _))
          fun _ => controlsKept_of_writes [.events] (by decide) (writes_supervisionEvent rfl)
      exact hrest db₁

theorem requestControls_controlsKept (runId : RunId) (nowMs : Int) (policy : SupervisionPolicy) :
    Tx.Keeps Db.ControlsKept (requestControls runId nowMs policy) := by
  refine .bind (.read _) fun shutdown => .bind (.read _) fun sessions => .each (fun session => ?_) _
  refine .ite (.pure _) (.bind (.when ?_) fun _ => ?_)
  · exact controlsKept_of_writes [.events] (by decide) (writes_warnJobDeadline _ _ _)
  · split
    · exact .pure _
    · exact requestSessionControl_controlsKept _ _ _ _ _

theorem keeps_committed_of_keeps {α : Type} {R : Db → Db → Prop} [Std.Refl R] {x : Repo α}
    (h : Tx.Keeps R x) : Tx.Keeps R (committed x) :=
  keeps_committed (.of_keeps h fun _ _ h => h)

/-- Whatever the provider answers, driving a control keeps what was requested. -/
theorem driveControl_controlsUpdated (channel : SignalChannel) (nowMs : Int)
    (policy : SupervisionPolicy) (control : SessionControl) :
    Tx.Keeps Db.ControlsUpdated (driveControl channel nowMs policy control) := by
  have hdeliver : ∀ (control : SessionControl) (session : SessionRecord),
      Tx.Keeps Db.ControlsUpdated (deliverControl channel nowMs policy control session) := by
    intro control session
    refine .ite (.pure _) ?_
    split
    · exact .pure _
    · refine .ite (.pure _) ?_
      split
      · exact .pure _
      · refine .bind (keeps_committed_of_keeps ?_) fun _ =>
          keeps_committed_of_keeps (markControlDelivered_controlsUpdated _)
        exact controlsUpdated_of_writes
          [.sessions, .agents, .sessionCredentials, .sessionFailures, .events] (by decide)
          (writes_recordObservation _ _ _ _)
  refine .bind (.read _) fun current => .ite (.pure _) (.bind (.read _) fun found => ?_)
  cases found with
  | none => exact .pure _
  | some session =>
      refine .ite (.bind ?_ fun _ => hdeliver _ _) (hdeliver _ _)
      exact keeps_committed_of_keeps (setControlPhase_controlsUpdated _ _ _)

theorem driveControls_controlsKept (channel : SignalChannel) (runId : RunId) (nowMs : Int)
    (policy : SupervisionPolicy) :
    Tx.Keeps Db.ControlsKept (driveControls channel runId nowMs policy) :=
  .bind (keeps_committed_of_keeps (requestControls_controlsKept _ _ _)) fun _ =>
    .bind (.read _) fun _ =>
      .each (fun control => (driveControl_controlsUpdated channel nowMs policy control).mono
        fun _ _ h => h.kept) _

/-! ## When a request is recorded -/

/-- The durations of an admitted policy: the grace is shorter than the timeout. -/
theorem resolveSupervision_times {input : SupervisionOverrides} {policy : SupervisionBounds}
    (h : resolveSupervision compiledDefaults.supervision input = .ok policy) :
    0 ≤ policy.interruptGraceMs ∧ policy.interruptGraceMs < policy.shutdownTimeoutMs := by
  obtain ⟨_, -, h⟩ := Except.bind_eq_ok.mp h
  obtain ⟨_, -, h⟩ := Except.bind_eq_ok.mp h
  obtain ⟨_, -, h⟩ := Except.bind_eq_ok.mp h
  obtain ⟨_, -, h⟩ := Except.bind_eq_ok.mp h
  obtain ⟨_, -, h⟩ := Except.bind_eq_ok.mp h
  obtain ⟨grace, hgrace, h⟩ := Except.bind_eq_ok.mp h
  obtain ⟨timeout, -, h⟩ := Except.bind_eq_ok.mp h
  obtain ⟨_, -, h⟩ := Except.bind_eq_ok.mp h
  obtain ⟨_, hshorter, h⟩ := Except.bind_eq_ok.mp h
  have hshorter := Except.refuseIf_eq_ok.mp hshorter
  obtain rfl := Except.pure_eq_ok.mp h
  have hpositive : 0 ≤ grace := by
    unfold applyBound at hgrace
    split at hgrace
    · cases hgrace
      decide
    · split at hgrace
      · cases hgrace
      · next hbound =>
          cases hgrace
          omega
  dsimp only
  exact ⟨hpositive, by omega⟩

/-- Driving the controls leaves a control, with its times in order, for every session that is to be
    controlled, exactly when the times of the policy or of the shutdown fit; driving them again
    changes no recorded time. -/
theorem driveControls_requests_iff {input : SupervisionOverrides} {policy : SupervisionBounds}
    {db : Db} {runId : RunId} {nowMs : Int} {session : SessionRecord} (channel : SignalChannel)
    (hpolicy : resolveSupervision compiledDefaults.supervision input = .ok policy)
    (hordered : db.ShutdownTimesOrdered) (hrefer : db.AssignmentsReferToTasks)
    (hnow : isI64 nowMs = true) (hsession : session ∈ db.sessionsOf runId)
    (hcurrent : db.sessionScopeIsCurrent session.scope = true)
    (hlive : session.state.isTerminal = false)
    (hnone : ∀ row ∈ db.sessionControls, row.scope.sessionId ≠ session.id)
    (hdue : (db.controlDue runId nowMs policy.toSupervisionPolicy session).isSome = true) :
    let driven := ((driveControls channel runId nowMs policy.toSupervisionPolicy).run db).2
    ((∃ row ∈ driven.sessionControls, row.scope.sessionId = session.id ∧ row.Ordered) ∧
        ∀ channel' nowMs' policy',
          driven.ControlsKept ((driveControls channel' runId nowMs' policy').run driven).2) ↔
      db.controlTimesFit runId nowMs policy.toSupervisionPolicy := by
  intro driven
  obtain ⟨hgrace, htimeout⟩ := resolveSupervision_times hpolicy
  obtain ⟨_, db₁, hrequests, hstep, hrows⟩ :=
    requestControls_succeeds hordered hrefer hnow hgrace htimeout
  -- what the later transactions do, they do from where the requests were committed
  have hdriven : db₁.ControlsUpdated driven := by
    have hcommitted : (committed (requestControls runId nowMs policy.toSupervisionPolicy)).run db =
        (.ok (), db₁) := by
      rcases committed_cases (requestControls runId nowMs policy.toSupervisionPolicy) db with
        ⟨_, _, hx, hc⟩ | ⟨e, hc⟩
      · rw [hrequests] at hx
        cases hx
        exact hc
      · have htransaction := Tx.transaction_eq_ok.mpr hrequests
        simp only [committed, htransaction] at hc
        cases hc
    have hrest : Tx.Keeps Db.ControlsUpdated (do
        Tx.each (driveControl channel nowMs policy.toSupervisionPolicy)
          (← Tx.read (·.sessionControlsOf runId)) : Request Unit) :=
      .bind (.read _) fun _ => .each (driveControl_controlsUpdated channel nowMs _) _
    have hrun : driven = ((do
        Tx.each (driveControl channel nowMs policy.toSupervisionPolicy)
          (← Tx.read (·.sessionControlsOf runId)) : Request Unit).run db₁).2 := by
      simp only [driven, driveControls]
      rw [Tx.run_bind, hcommitted]
    rw [hrun]
    exact hrest db₁
  constructor
  · rintro ⟨⟨row, hrow, hid, -⟩, -⟩
    obtain ⟨new, hnew, hfits⟩ := hstep.controls
    obtain ⟨old, hold, hsame⟩ := Table.exists_mem_of_forall₂ hdriven hrow
    rw [hnew] at hold
    have hid' : old.scope.sessionId = session.id := by
      rw [← hsame.scope]
      exact hid
    rcases List.mem_append.mp hold with hbefore | hadded
    · exact absurd hid' (hnone old hbefore)
    · exact (hfits old hadded).2
  · intro hfit
    obtain ⟨row, hrow, hid⟩ := hrows session hsession hlive hcurrent hdue hfit
    obtain ⟨new, hnew, hfits⟩ := hstep.controls
    rw [hnew] at hrow
    have hadded : row ∈ new := by
      rcases List.mem_append.mp hrow with hbefore | hadded
      · exact absurd hid (hnone row hbefore)
      · exact hadded
    obtain ⟨row', hrow', hsame⟩ := Table.exists_mem_forall₂ hdriven (hnew ▸ hrow)
    have hordered := (hfits row hadded).1
    refine ⟨⟨row', hrow', by rw [hsame.scope]; exact hid, ?_⟩, ?_⟩
    · constructor
      · rw [hsame.requested, hsame.interrupt]
        exact hordered.interrupt
      · rw [hsame.interrupt, hsame.kill]
        exact hordered.kill
      · rw [hsame.kill, hsame.deadline]
        exact hordered.deadline
    · intro channel' nowMs' policy'
      exact driveControls_controlsKept channel' runId nowMs' policy' driven

/-- A background session that started at time zero. -/
def job : SessionRecord where
  id := ⟨"session"⟩
  runId := ⟨"run"⟩
  agentId := ⟨"agent"⟩
  generation := 1
  provider := "codex"
  providerSessionId := some "process:7"
  reconciliationState := .observed
  state := .running
  createdAt := 0
  endedAt := none
  reconciledAt := none
  processOwner := .supervisor

/-- A store with this session. -/
def oneJob : Db :=
  { Db.empty with
    runs := [{ id := ⟨"run"⟩, status := .active, createdAt := 0, stoppedAt := none }]
    agents := [{ id := ⟨"agent"⟩, runId := ⟨"run"⟩, role := "worker", generation := 1,
                 state := .running, createdAt := 0 }]
    sessions := [job] }

/-- A supervisor that holds no session. -/
def SignalChannel.closed : SignalChannel where
  handle _ := none
  signal _ _ := none

/-- After the job timeout of the compiled policy, the session of `oneJob` has its control. -/
theorem driveControls_requests_oneJob :
    let driven := ((driveControls .closed ⟨"run"⟩ 3600000
      compiledDefaults.supervision.toSupervisionPolicy).run oneJob).2
    (∃ row ∈ driven.sessionControls, row.scope.sessionId = ⟨"session"⟩ ∧ row.Ordered) ∧
      ∀ channel' nowMs' policy',
        driven.ControlsKept ((driveControls channel' ⟨"run"⟩ nowMs' policy').run driven).2 := by
  have hsession : job ∈ oneJob.sessionsOf ⟨"run"⟩ := by
    rw [Db.sessionsOf, List.mem_mergeSort]
    decide
  have hpolicy : resolveSupervision compiledDefaults.supervision {} =
      .ok compiledDefaults.supervision := rfl
  have hnow : isI64 3600000 = true := by decide
  refine (driveControls_requests_iff .closed hpolicy ?_ ?_ hnow hsession (by decide) (by decide) ?_
    (by decide)).mpr ?_
  · intro shutdown hshutdown
    cases hshutdown
  · intro assignment hassignment
    cases hassignment
  · intro row hrow
    cases hrow
  · exact ⟨by decide, by decide⟩

/-- An admitted policy whose grace is longer than half of its timeout: no control is ever recorded
    for the session of `oneJob`. -/
theorem driveControls_loses_request :
    ∃ policy, resolveSupervision compiledDefaults.supervision
        { interruptGraceMs := some 3, shutdownTimeoutMs := some 4 } = .ok policy ∧
      oneJob.sessionScopeIsCurrent job.scope = true ∧
      oneJob.controlDue ⟨"run"⟩ 3600000 policy.toSupervisionPolicy job =
        some .executionTimeout ∧
      ((driveControls .closed ⟨"run"⟩ 3600000 policy.toSupervisionPolicy).run
        oneJob).2.sessionControls = [] := by
  refine ⟨_, rfl, by decide, by decide, ?_⟩
  decide +kernel

end Coterie
