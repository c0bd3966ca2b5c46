/-
  Coterie.Providers.Serving

  What ends the serve loop.  The errors of applying the events of a background job, and those of
  recording what a control or the reconciler saw of it, leave `advance_available` and
  `drive_controls` and end the loop (`supervisor.rs`: `serve`).

  Where the stream of the job is legal there are none of them, as long as the store is one that the
  supervisor reaches, the operating system serves its calls, and no reading of the clock lies before
  the creation of the credential that the session holds.  `Serves` is the invariant: it adds to
  `JobStream.Sound` that a job which has reported nothing yet is recorded as starting.
-/

import Coterie.Providers.Stream
import Coterie.Sessions.Fencing
import Coterie.Supervisor.Clock

namespace Coterie

/-! ## Stores that the supervisor reaches -/

/-- Some commands of the supervisor lead to the database. -/
def Db.Reached (db : Db) : Prop :=
  ∃ commands, storeMachine.run commands = db

namespace Db.Reached

variable {db : Db}

theorem exec (h : db.Reached) (command : Command) : (command.exec db).Reached := by
  obtain ⟨commands, rfl⟩ := h
  exact ⟨commands ++ [command], storeMachine.run_append commands [command]⟩

/-- A transaction that a command stands for leads on. -/
theorem committed (h : db.Reached) (command : Command) {body : Repo Unit}
    (hbody : command.body = body) {db' : Db}
    (hrun : (Tx.transaction body).run db = (.ok (), db')) : db'.Reached := by
  have hexec := h.exec command
  rw [Command.exec, hbody, hrun] at hexec
  exact hexec

theorem fenced (h : db.Reached) : db.roster.Fenced := by
  obtain ⟨commands, rfl⟩ := h
  exact fenced_run commands

/-- A current session is in step with its agent, so that only the transition table can refuse an
    observation of it. -/
theorem sessionTransition (h : db.Reached) {scope : SessionScope} {observed : LifecycleState}
    (hallows : ∀ state, db.sessionState scope.sessionId = some state →
      state.allows observed = true) :
    ∃ outcome, db.sessionTransition scope observed = .ok outcome := by
  unfold Db.sessionTransition
  cases hfound : db.session scope.sessionId with
  | none => exact ⟨_, rfl⟩
  | some session =>
      dsimp only
      split
      · exact ⟨_, rfl⟩
      · next hcurrent =>
          cases hagent : db.agent scope.agentId with
          | none => exact ⟨_, rfl⟩
          | some agent =>
              dsimp only
              split
              · exact ⟨_, rfl⟩
              · next hscope =>
                  -- an agent of the session's generation shares its state, which rules out the
                  -- refusal of an inconsistent session
                  have hstate : agent.state = session.state := by
                    obtain ⟨⟨current, hmem, rfl⟩, -⟩ :=
                      sessionScopeIsCurrent_eq_true (not_not.mp hcurrent)
                    have hid : session.id = current.scope.sessionId := by
                      simpa using List.find?_some hfound
                    obtain rfl : session = current := h.fenced.sessions.eq_of_key_eq
                      (List.mem_of_find?_eq_some hfound) hmem hid
                    have hagentId : agent.id = session.scope.agentId := by
                      simpa using List.find?_some hagent
                    exact h.fenced.state_eq hmem (List.mem_of_find?_eq_some hagent) hagentId
                      (not_not.mp fun hother => hscope (.inr hother))
                  have hmay : session.mayObserve observed = true := by
                    unfold SessionRecord.mayObserve
                    rw [hallows session.state (by rw [Db.sessionState, hfound, Option.map_some]),
                      Bool.true_or]
                  rw [if_neg (not_not.mpr hstate)]
                  split
                  · exact ⟨_, rfl⟩
                  · exact ⟨_, rfl⟩

end Db.Reached

/-! ## Runs without failures -/

namespace JobStream

/-- The reading is not before the creation of the credential that the session of the job holds. -/
def InTime (st : JobStream) (now : Int) : Prop :=
  ∀ row ∈ st.db.sessionCredentials, row.sessionId = st.job.scope.sessionId →
    row.revokedAt = none → row.createdAt ≤ now

instance (st : JobStream) (now : Int) : Decidable (st.InTime now) :=
  inferInstanceAs (Decidable (∀ row ∈ st.db.sessionCredentials, _))

/-- What the world outside of the job owes to the supervisor: the operating system serves its calls
    and the transcript is written, the clock is in time, and the rest of the supervisor leaves a
    store that it reaches, in which it has not reported for the job. -/
def Orderly (st : JobStream) : JobInput → Prop
  | .frame _ | .readFailure _ | .readerEnd => True
  | .poll now answers transcript => answers.serve = true ∧ transcript = .ok () ∧ st.InTime now
  | .signal now _ _ | .reconcile now => st.InTime now
  | .elsewhere db => db.Reached ∧
      (st.db.sessionState st.job.scope.sessionId = some .starting →
        db.sessionState st.job.scope.sessionId = some .starting)

/-- What holds of a job along the runs that do not fail. -/
structure Serves (st : JobStream) : Prop where
  sound : st.Sound
  reached : st.db.Reached
  unreported : st.job.observation.lifecycle = .starting →
    st.db.sessionState st.job.scope.sessionId = some .starting
  failures : st.failures = []
  looks : st.looks = []

end JobStream

section Runs

variable {fromSlice : List UInt8 → Except String JsonValue} {policy : SupervisionPolicy}
  {st : JobStream}

/-- A poll leaves no job that has reported nothing, unless it was one. -/
theorem CodexJobProcess.Polled.starting {answers : OsAnswers} {job job' : CodexJobProcess}
    {result : Except ProviderError (Option ProviderEventKind)} (hjob : job.Sound)
    (h : job.Polled fromSlice answers result job')
    (hstarting : job'.observation.lifecycle = .starting) :
    job.observation.lifecycle = .starting := by
  cases h with
  | popped kind rest hpending =>
      obtain ⟨activity, rfl⟩ := hjob.pending kind (by rw [hpending]; exact List.mem_cons_self)
      cases hstarting
  | malformed item rest diagnostic child =>
      cases hstatus : child.status with
      | none => simp [quarantineObservation, hstatus] at hstarting
      | some status => simp [quarantineObservation, hstatus] at hstarting
  | ended => cases hstarting
  | output | unstopped | quiet | waitFailed => exact hstarting

namespace JobStream

/-- The current observation of a sound job is recorded where the transition table and the clock
    allow it. -/
theorem recordObservation_recorded {job : CodexJobProcess} {db : Db} {now : Int}
    (hjob : job.Sound) (hreached : db.Reached)
    (htime : ∀ row ∈ db.sessionCredentials, row.sessionId = job.scope.sessionId →
      row.revokedAt = none → row.createdAt ≤ now)
    (hallows : ∀ state, db.sessionState job.scope.sessionId = some state →
      state.allows job.observation.lifecycle = true) :
    ∃ db', (Tx.transaction (recordObservation job.scope job.observation now policy)).run db =
        (.ok (), db') ∧ db'.Reached ∧
      (job.observation.lifecycle = .starting →
        db.sessionState job.scope.sessionId = some .starting →
          db'.sessionState job.scope.sessionId = some .starting) := by
  let report : ProviderReport := {
    scope := job.scope
    observation := job.observation
    policy := policy
    exited := fun hfailed => hjob.exit (SessionObservation.exit_isSome_of_failed hfailed) }
  obtain ⟨db', hrun⟩ := (recordObservation_commits report now db).mpr
    ⟨hreached.sessionTransition hallows, fun row hrow hrevokes =>
      htime row hrow hrevokes.2.2.1 hrevokes.2.2.2⟩
  have hcommitted : (Tx.transaction (recordObservation job.scope job.observation now policy)).run
      db = (.ok (), db') := Tx.transaction_eq_ok.mpr hrun
  refine ⟨db', hcommitted, hreached.committed
    (.recordObservation job.scope job.observation now policy) rfl hcommitted,
    fun hstarting hrecorded => ?_⟩
  -- a job that has reported nothing has not failed, so that no crash loop quarantines it
  rcases recordObservation_stateBecomes job.scope job.observation now policy job.scope.sessionId
    db () db' hrun with hsame | ⟨lifecycle, hmay, hbecomes⟩
  · exact hsame.trans hrecorded
  · rcases hmay with rfl | ⟨-, hfailed⟩
    · rw [hbecomes, hstarting]
    · have hexited := report.exited hfailed
      rw [hstarting] at hexited
      cases hexited

namespace Serves

/-- The current observation is recorded, and the job goes on being served. -/
theorem recorded (h : st.Serves) {now : Int} (htime : st.InTime now)
    (hallows : ∀ state, st.db.sessionState st.job.scope.sessionId = some state →
      state.allows st.job.observation.lifecycle = true) :
    ∃ db', (Tx.transaction (recordObservation st.job.scope st.job.observation now policy)).run
        st.db = (.ok (), db') ∧ JobStream.Serves { st with db := db' } := by
  obtain ⟨db', hrun, hreached, hstarting⟩ :=
    @recordObservation_recorded policy _ _ _ h.sound.job h.reached htime hallows
  have hsound : (st.record policy st.job.observation now).Sound := h.sound.record now hallows
  unfold JobStream.record at hsound
  rw [hrun] at hsound
  exact ⟨db', hrun, {
    sound := hsound
    reached := hreached
    unreported := fun hunreported => hstarting hunreported (h.unreported hunreported)
    failures := h.failures
    looks := h.looks }⟩

theorem record (h : st.Serves) {now : Int} (htime : st.InTime now)
    (hallows : ∀ state, st.db.sessionState st.job.scope.sessionId = some state →
      state.allows st.job.observation.lifecycle = true) :
    (st.record policy st.job.observation now).Serves := by
  obtain ⟨db', hrun, hserves⟩ := @recorded policy _ h _ htime hallows
  unfold JobStream.record
  rw [hrun]
  exact hserves

/-- A control or the reconciler looks at the job of a session that has not ended. -/
theorem observe (h : st.Serves) {now : Int} (htime : st.InTime now)
    (hactive : ∀ state, st.db.sessionState st.job.scope.sessionId = some state →
      state.isTerminal = false) :
    (st.observe policy now).Serves := by
  have hallows : ∀ state, st.db.sessionState st.job.scope.sessionId = some state →
      state.allows st.job.observation.lifecycle = true := by
    intro state hstate
    -- the table leads nowhere back to `starting`, but there it is recorded still
    by_cases hstarting : st.job.observation.lifecycle = .starting
    · have hrecorded := hstate.symm.trans (h.unreported hstarting)
      rw [hstarting, Option.some.inj hrecorded]
      rfl
    · exact LifecycleState.allows_of_not_isTerminal (hactive state hstate) hstarting
  obtain ⟨db', hrun, hserves⟩ := @recorded policy _ h _ htime hallows
  unfold JobStream.observe
  rw [hrun]
  exact hserves

theorem reconcile (h : st.Serves) {now : Int} (htime : st.InTime now)
    (hactive : ∀ state, st.db.sessionState st.job.scope.sessionId = some state →
      state.isTerminal = false) :
    (st.reconcile policy now).Serves := by
  obtain ⟨db', hrun, hlife⟩ := recordLaunchObservation_commits st.job.scope
    (processProviderId st.job.child.processId) now st.db
  have hstate : db'.sessionState st.job.scope.sessionId =
      st.db.sessionState st.job.scope.sessionId :=
    (recordLaunchObservation_sessionState _ _ _ _).of_ok hrun
  have hcommitted : (Tx.transaction (recordLaunchObservation st.job.scope
      (processProviderId st.job.child.processId) now)).run st.db = (.ok (), db') :=
    Tx.transaction_eq_ok.mpr hrun
  have hreached : db'.Reached := h.reached.committed (.recordLaunchObservation st.job.scope
    (processProviderId st.job.child.processId) now) rfl hcommitted
  -- the process is recorded without a change of a state or a credential
  have hfound : JobStream.Serves { st with db := db' } := {
    sound := { h.sound with
      recorded := fun state hrecorded => h.sound.recorded state (hstate.symm.trans hrecorded)
      legal := { h.sound.legal with } }
    reached := hreached
    unreported := fun hunreported => hstate.trans (h.unreported hunreported)
    failures := h.failures
    looks := h.looks }
  unfold JobStream.reconcile
  rw [hcommitted]
  refine hfound.observe ?_ fun state hrecorded => hactive state (hstate.symm.trans hrecorded)
  intro row hrow
  rw [show ({ st with db := db' } : JobStream).db.sessionCredentials = _ from
    hlife.sessionCredentials] at hrow
  exact htime row hrow

/-- A signal that cannot be delivered is no failure. -/
theorem control (h : st.Serves) {now : Int} (wait : Except String (Option ExitStatus))
    (delivered : Except String Unit) (htime : st.InTime now)
    (hactive : ∀ state, st.db.sessionState st.job.scope.sessionId = some state →
      state.isTerminal = false) :
    (st.control policy now wait delivered).Serves := by
  obtain ⟨child, hknown, hjob⟩ :=
    signalJob_knows (processProviderId st.job.child.processId) wait delivered st.job
  have hsignalled : JobStream.Serves { st with job := { st.job with child := child } } := {
    sound := h.sound.knowing hknown
    reached := h.reached
    unreported := h.unreported
    failures := h.failures
    looks := h.looks }
  unfold JobStream.control
  split
  · next e job hrun =>
      rw [hrun] at hjob
      obtain rfl := hjob
      exact hsignalled
  · next observed job hrun =>
      rw [hrun] at hjob
      obtain rfl := hjob
      exact hsignalled.observe htime hactive

theorem advance (h : st.Serves) {now : Int} {answers : OsAnswers}
    {transcript : Except String Unit} (hserve : answers.serve = true)
    (hwritten : transcript = .ok ()) (htime : st.InTime now)
    (htolerable : st.Tolerable fromSlice (.poll now answers transcript)) :
    (st.advance fromSlice policy now answers transcript).Serves := by
  subst hwritten
  unfold JobStream.advance
  split
  · exact h
  · next hcurrent =>
      have htakes := htolerable (not_not.mp hcurrent)
      split
      · next e job' hrun =>
          -- a poll fails only where a call of the operating system does
          have hunserved := (CodexJobProcess.nextEventKind_polled hrun).unserved
          rw [hserve] at hunserved
          cases hunserved
      · next job' hrun =>
          have hpolled := CodexJobProcess.nextEventKind_polled hrun
          exact {
            sound := h.sound.quiet hpolled htakes (by rw [hpolled.conserves_none])
            reached := h.reached
            unreported := fun hstarting => by
              rw [hpolled.scope_eq]
              exact h.unreported (hpolled.starting h.sound.job hstarting)
            failures := h.failures
            looks := h.looks }
      · next kind job' hrun =>
          have hpolled := CodexJobProcess.nextEventKind_polled hrun
          have hemitted : JobStream.Serves
              { st with job := job', emitted := st.emitted ++ [kind] } := {
            sound := h.sound.emit hpolled htakes
            reached := h.reached
            unreported := fun hstarting => by
              rw [hpolled.scope_eq]
              exact h.unreported (hpolled.starting h.sound.job hstarting)
            failures := h.failures
            looks := h.looks }
          have htime' : JobStream.InTime { st with job := job', emitted := st.emitted ++ [kind] }
              now := by
            unfold InTime
            rw [hpolled.scope_eq]
            exact htime
          have hallows := fun observed => @Sound.allows_emit _ st answers job' h.sound kind observed
            hpolled
          cases kind with
          | observation observed =>
              obtain ⟨rfl, -, -⟩ := hpolled.reports h.sound.job rfl
              exact hemitted.record htime' (hallows _ rfl)
          | output bytes => exact hemitted
          | malformedOutput bytes diagnostic observed =>
              obtain ⟨rfl, -, -⟩ := hpolled.reports h.sound.job rfl
              exact hemitted.record htime' (hallows _ rfl)

/-- One step of a supervised job in an orderly world. -/
theorem step (h : st.Serves) (input : JobInput) (htolerable : st.Tolerable fromSlice input)
    (horderly : st.Orderly input) : (st.step fromSlice policy input).Serves := by
  have hsound : (st.step fromSlice policy input).Sound := h.sound.step input htolerable
  have hactive : st.live = true → ∀ state,
      st.db.sessionState st.job.scope.sessionId = some state → state.isTerminal = false := by
    intro hlive state hstate
    have hany := (Bool.and_eq_true_iff.mp hlive).2
    rw [hstate] at hany
    simpa using hany
  cases input with
  | frame bytes =>
      unfold JobStream.step at hsound ⊢
      dsimp only at hsound ⊢
      split at hsound
      · next hnone =>
          rw [if_pos hnone]
          exact h
      · next hsome =>
          rw [if_neg hsome]
          exact { h with sound := hsound }
  | readFailure diagnostic =>
      unfold JobStream.step at hsound ⊢
      dsimp only at hsound ⊢
      split at hsound
      · next hnone =>
          rw [if_pos hnone]
          exact h
      · next hsome =>
          rw [if_neg hsome]
          exact { h with sound := hsound }
  | readerEnd => exact { h with sound := hsound }
  | poll now answers transcript =>
      obtain ⟨hserve, hwritten, htime⟩ := horderly
      exact h.advance hserve hwritten htime htolerable
  | signal now wait delivered =>
      unfold JobStream.step
      dsimp only
      split
      · next hlive => exact h.control wait delivered horderly (hactive hlive)
      · exact h
  | reconcile now =>
      unfold JobStream.step
      dsimp only
      split
      · next hlive => exact h.reconcile horderly (hactive hlive)
      · exact h
  | elsewhere db =>
      unfold JobStream.step at hsound ⊢
      dsimp only at hsound ⊢
      split at hsound
      · next huntouched =>
          rw [if_pos huntouched]
          exact {
            sound := hsound
            reached := horderly.1
            unreported := fun hstarting => horderly.2 (h.unreported hstarting)
            failures := h.failures
            looks := h.looks }
      · next htouched =>
          rw [if_neg htouched]
          exact h

end Serves

end JobStream

/-- The stream of a background job is legal along every run that takes no activity frame from a job
    that is known to have ended, and no malformed frame from one that cannot be stopped.  In an
    orderly world nothing fails along these runs: no output ends the serve loop. -/
theorem job_stream_legal (fromSlice : List UInt8 → Except String JsonValue)
    (policy : SupervisionPolicy) (processId : Nat) (scope : SessionScope) (db : Db)
    (hactive : ∀ state, db.sessionState scope.sessionId = some state → state.isTerminal = false)
    (inputs : List JobInput)
    (htolerable : (jobMachine fromSlice policy processId scope db).Meets
      (JobStream.Tolerable fromSlice) (.launched processId scope db) inputs) :
    ((jobMachine fromSlice policy processId scope db).run inputs).Legal ∧
      (db.Reached → db.sessionState scope.sessionId = some .starting →
        (jobMachine fromSlice policy processId scope db).Meets JobStream.Orderly
          (.launched processId scope db) inputs →
        ((jobMachine fromSlice policy processId scope db).run inputs).failures = [] ∧
          ((jobMachine fromSlice policy processId scope db).run inputs).looks = []) := by
  have hlaunched : (JobStream.launched processId scope db).Sound :=
    .launched processId scope db hactive
  refine ⟨JobStream.Sound.legal (Machine.invariant_runFrom
    (fun _ input h htake => h.step input htake) hlaunched htolerable), ?_⟩
  intro hreached hstarting horderly
  have hserves : (JobStream.launched processId scope db).Serves :=
    ⟨hlaunched, hreached, fun _ => hstarting, rfl, rfl⟩
  have hrun := Machine.invariant_runFrom (I := JobStream.Serves)
    (fun _ input h hmet => h.step input hmet.1 hmet.2) hserves
    (Machine.meets_and htolerable horderly)
  exact ⟨hrun.failures, hrun.looks⟩

end Runs

/-! ## Activity after malformed output -/

/-- The frame of an event type. -/
def eventFrame (eventType : String) : List UInt8 :=
  ("\x7b\"type\":\"" ++ eventType ++ "\"\x7d").toUTF8.data.toList

/-- The JSON parser on the frames below. -/
def parseEventFrame (bytes : List UInt8) : Except String JsonValue :=
  if bytes = eventFrame "turn.started" then .ok (.obj [("type", .str "turn.started")])
  else .error "expected value at line 1 column 1"

/-- The built-in supervision limits. -/
def builtInSupervision : SupervisionPolicy where
  restartWindowSeconds := 60
  maxLaunchAttempts := 3
  restartBackoffSeconds := 1
  startupTimeoutSeconds := 30
  jobTimeoutSeconds := 3600
  interruptGraceMs := 250
  shutdownTimeoutMs := 5000

/-- Every call of the operating system succeeds, and a killed child is reaped. -/
def promptAnswers : OsAnswers where
  wait := .ok none
  kill := .ok ()
  reap := .ok (some { code := none })
  rewait := .ok (some { code := none })

/-- The worker writes some bytes that are no JSON text, and another frame, and is polled until both
    were taken. -/
def malformedThen (bytes : List UInt8) : List JobInput :=
  [.frame "warning: retrying".toUTF8.data.toList, .frame bytes, .reconcile 10,
    .poll 10 promptAnswers (.ok ()), .poll 11 promptAnswers (.ok ()),
    .poll 12 promptAnswers (.ok ()), .signal 12 (.ok none) (.ok ()),
    .poll 13 promptAnswers (.ok ())]

/-- A second malformed frame does no harm: the worker stays quarantined, both are emitted, and
    nothing fails. -/
theorem job_stream_legal_malformed :
    ((jobMachine parseEventFrame builtInSupervision 7 spawnedScope
      (storeMachine.run clockedWorker)).run (malformedThen [110, 117])).Legal ∧
    ((jobMachine parseEventFrame builtInSupervision 7 spawnedScope
      (storeMachine.run clockedWorker)).run (malformedThen [110, 117])).failures = [] := by
  have hstarting : (storeMachine.run clockedWorker).sessionState spawnedScope.sessionId =
      some .starting := by
    decide +kernel
  have h := job_stream_legal parseEventFrame builtInSupervision 7 spawnedScope
    (storeMachine.run clockedWorker)
    (by
      intro state hstate
      rw [Option.some.inj (hstate.symm.trans hstarting)]
      rfl)
    (malformedThen [110, 117]) (by decide +kernel)
  refine ⟨h.1, (h.2 ⟨clockedWorker, rfl⟩ hstarting ?_).1⟩
  -- the credential of the session was created at the reading 10
  refine ⟨trivial, trivial, ?_, ⟨rfl, rfl, ?_⟩, ⟨rfl, rfl, ?_⟩, ⟨rfl, rfl, ?_⟩, ?_, ⟨rfl, rfl, ?_⟩,
    trivial⟩
  all_goals
    show JobStream.InTime _ _
    decide +kernel

/-- An activity frame that was queued behind the malformed one takes the quarantine back, and its
    recording is refused. -/
theorem job_stream_activity_after_quarantine :
    ¬ ((jobMachine parseEventFrame builtInSupervision 7 spawnedScope
      (storeMachine.run clockedWorker)).run (malformedThen (eventFrame "turn.started"))).Legal := by
  intro h
  exact h.accepted (.invalidSessionTransition ⟨"session-1"⟩ .quarantined .running)
    (by decide +kernel) trivial

end Coterie
