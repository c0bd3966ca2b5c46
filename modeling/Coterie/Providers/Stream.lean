/-
  Coterie.Providers.Stream

  The event stream of one background job and what the session supervisor makes of it.  The output
  reader delivers frames, the supervisor polls the job and records each event in the run database
  before the next one, controls signal the job, and the rest of the supervisor changes the database
  in between.

  Along every run that takes no activity frame from a job that is already known to have ended, the
  events are legal (`Sound.step`): no recording is refused, nothing different follows the end, and no
  frame is lost, repeated or moved.
-/

import Coterie.Base.Machine
import Coterie.Providers.Job
import Coterie.Sessions.Recording

namespace Coterie

/-- Why applying one provider event failed. -/
inductive AdvanceError where
  | provider (error : ProviderError)
  | store (error : StoreError)
  | transcript (message : String)
deriving DecidableEq, Repr

/-- A job under supervision: the process, the run database, what the reader has delivered, the
    events in the order in which they were emitted, the errors of applying them, and the errors of
    recording what a control or the reconciler saw of the job. -/
structure JobStream where
  job : CodexJobProcess
  db : Db
  delivered : List JobStreamItem
  emitted : List ProviderEventKind
  failures : List AdvanceError
  looks : List StoreError

/-- What happens to a job under supervision. -/
inductive JobInput where
  /-- The reader delivers a frame. -/
  | frame (bytes : List UInt8)
  /-- The reader delivers its failure, and ends. -/
  | readFailure (diagnostic : String)
  /-- The reader ends. -/
  | readerEnd
  /-- The supervisor applies the next event. -/
  | poll (now : Int) (answers : OsAnswers) (transcript : Except String Unit)
  /-- A control signals the job and records its current observation. -/
  | signal (now : Int) (wait : Except String (Option ExitStatus)) (delivered : Except String Unit)
  /-- The reconciler records the process and the current observation of the job. -/
  | reconcile (now : Int)
  /-- The rest of the supervisor leaves another database. -/
  | elsewhere (db : Db)

section Machine

variable (fromSlice : List UInt8 → Except String JsonValue) (policy : SupervisionPolicy)

namespace JobStream

/-- Record the observation of an event. -/
def record (st : JobStream) (observation : SessionObservation) (now : Int) : JobStream :=
  match (Tx.transaction (recordObservation st.job.scope observation now policy)).run st.db with
  | (.ok _, db) => { st with db := db }
  | (.error error, db) => { st with db := db, failures := st.failures ++ [.store error] }

/-- Apply an emitted event: append its output to the transcript and record its observation. -/
def apply (st : JobStream) (kind : ProviderEventKind) (now : Int)
    (transcript : Except String Unit) : JobStream :=
  match kind with
  | .observation observed => st.record policy observed now
  | .output _ =>
      match transcript with
      | .error message => { st with failures := st.failures ++ [.transcript message] }
      | .ok () => st
  | .malformedOutput _ _ observed =>
      match transcript with
      | .error message => { st with failures := st.failures ++ [.transcript message] }
      | .ok () => st.record policy observed now

/-- Applies exactly one provider event, preserving its deterministic order. -/
def advance (st : JobStream) (now : Int) (answers : OsAnswers)
    (transcript : Except String Unit) : JobStream :=
  if ¬ st.db.sessionScopeIsCurrent st.job.scope then st
  else
    match (CodexJobProcess.nextEventKind fromSlice (processProviderId st.job.child.processId)
        answers).run st.job with
    | (.error error, job) =>
        { st with job := job, failures := st.failures ++ [.provider error] }
    | (.ok none, job) => { st with job := job }
    | (.ok (some kind), job) =>
        { st with job := job, emitted := st.emitted ++ [kind] }.apply policy kind now transcript

/-- The session is current and not known to have ended, so that controls and the reconciler look at
    its job. -/
def live (st : JobStream) : Bool :=
  st.db.sessionScopeIsCurrent st.job.scope &&
    (st.db.sessionState st.job.scope.sessionId).any fun state => !state.isTerminal

/-- Record the current observation of the job. -/
def observe (st : JobStream) (now : Int) : JobStream :=
  match (Tx.transaction (recordObservation st.job.scope st.job.observation now policy)).run
      st.db with
  | (.ok _, db) => { st with db := db }
  | (.error error, db) => { st with db := db, looks := st.looks ++ [error] }

/-- Record the process of the job, and then its current observation. -/
def reconcile (st : JobStream) (now : Int) : JobStream :=
  match (Tx.transaction (recordLaunchObservation st.job.scope
      (processProviderId st.job.child.processId) now)).run st.db with
  | (.ok _, db) => { st with db := db }.observe policy now
  | (.error error, db) => { st with db := db, looks := st.looks ++ [error] }

/-- Signal the process of a job that has not ended, and return the current observation. -/
def signalJob (providerId : String) (wait : Except String (Option ExitStatus))
    (delivered : Except String Unit) : Job SessionObservation := do
  let status ← tryWait wait (.jobControl providerId)
  Tx.when (status = none) (do
    match delivered with
    | .error source => throw (.signalForward source)
    | .ok () => pure ())
  Tx.read (·.observation)

/-- Deliver the signal of a control; one that cannot be delivered stays pending. -/
def control (st : JobStream) (now : Int) (wait : Except String (Option ExitStatus))
    (delivered : Except String Unit) : JobStream :=
  match (signalJob (processProviderId st.job.child.processId) wait delivered).run st.job with
  | (.error _, job) => { st with job := job }
  | (.ok _, job) => { st with job := job }.observe policy now

/-- The reader delivers an item. -/
def deliver (st : JobStream) (item : JobStreamItem) : JobStream :=
  { st with
    job := { st.job with frames := st.job.frames ++ [item] }
    delivered := st.delivered ++ [item] }

/-- The reader ends. -/
def closeReader (st : JobStream) : JobStream :=
  { st with job := { st.job with disconnected := true } }

/-- Nothing but the job itself ends its session: a database in which the session has reached
    another terminal state is not one that the rest of the supervisor leaves. -/
def Untouched (st : JobStream) (db : Db) : Prop :=
  ∀ state, db.sessionState st.job.scope.sessionId = some state → state.isTerminal = true →
    st.db.sessionState st.job.scope.sessionId = some state

instance (st : JobStream) (db : Db) : Decidable (st.Untouched db) :=
  inferInstanceAs (Decidable (∀ state ∈ db.sessionState st.job.scope.sessionId, _))

/-- One step of the supervised job. -/
def step (input : JobInput) (st : JobStream) : JobStream :=
  match input with
  -- an empty read is the end of the output, and a reader that has ended delivers nothing
  | .frame bytes => if st.job.disconnected ∨ bytes = [] then st else st.deliver (.frame bytes)
  | .readFailure diagnostic =>
      if st.job.disconnected then st else (st.deliver (.readFailure diagnostic)).closeReader
  | .readerEnd => st.closeReader
  | .poll now answers transcript => st.advance fromSlice policy now answers transcript
  | .signal now wait delivered => if st.live then st.control policy now wait delivered else st
  | .reconcile now => if st.live then st.reconcile policy now else st
  | .elsewhere db => if st.Untouched db then { st with db := db } else st

/-- A job that was just launched. -/
def launched (processId : Nat) (scope : SessionScope) (db : Db) : JobStream where
  job := .launched processId scope
  db := db
  delivered := []
  emitted := []
  failures := []
  looks := []

end JobStream

/-- A launched job as a machine. -/
def jobMachine (processId : Nat) (scope : SessionScope) (db : Db) : Machine JobStream JobInput where
  start := .launched processId scope db
  step := JobStream.step fromSlice policy

end Machine

/-! ## Legal streams -/

/-- The lifecycle that an event reports. -/
def ProviderEventKind.lifecycle? (kind : ProviderEventKind) : Option LifecycleState :=
  kind.observation?.map (·.lifecycle)

/-- After an event that reports the end of a job, an event reports that end or none. -/
def ProviderEventKind.KeepsEnd (earlier later : ProviderEventKind) : Prop :=
  ∀ ended ∈ earlier.lifecycle?, ended.isTerminal = true →
    ∀ lifecycle ∈ later.lifecycle?, lifecycle = ended

/-- The frames among delivered items. -/
def framesOf (items : List JobStreamItem) : List (List UInt8) :=
  (items.map (·.bytes)).filter (· ≠ [])

/-- The frames that events carry. -/
def emittedFrames (events : List ProviderEventKind) : List (List UInt8) :=
  (events.map (·.bytes)).filter (· ≠ [])

/-- The stream of a job is legal: no recording of an event was refused by the transition table, no
    event reports anything different after the end, and the frames received were emitted once each
    and in order. -/
structure JobStream.Legal (st : JobStream) : Prop where
  accepted : ∀ error, .store error ∈ st.failures → ¬ error.InvalidTransition
  ended : st.emitted.Pairwise ProviderEventKind.KeepsEnd
  frames : emittedFrames st.emitted ++ framesOf st.job.frames = framesOf st.delivered

/-! ## The jobs of a run -/

/-- What holds of a job between two calls. -/
structure CodexJobProcess.Sound (job : CodexJobProcess) : Prop where
  pending : ∀ kind ∈ job.pending, ∃ activity, kind = .observation (.running activity)
  drained : job.observation.lifecycle.isTerminal = true → job.pending = []
  closed : job.observation.lifecycle = .exited → job.stdoutClosed = true
  reaped : job.observation.lifecycle = .quarantined → job.child.status.isSome = true
  notLost : job.observation.lifecycle ≠ .lost
  exit : job.observation.exit.isSome = true → job.observation.lifecycle = .exited

/-- The item that a poll takes from the reader, if it takes one. -/
def CodexJobProcess.nextItem (job : CodexJobProcess) : Option JobStreamItem :=
  if job.pending = [] ∧ job.stdoutClosed = false then job.frames.head? else none

/-- A frame that a job can take without harm: an activity frame does not come from a job that is
    known to have ended, and a malformed frame comes from one that can be stopped. -/
def CodexJobProcess.Takes (fromSlice : List UInt8 → Except String JsonValue) (answers : OsAnswers)
    (job : CodexJobProcess) : JobStreamItem → Prop
  | .frame bytes =>
      match parseCodexJsonlFrame fromSlice bytes with
      | .ok (some _) => job.observation.lifecycle.isTerminal = false
      | .ok none => True
      | .error _ => answers.suffice job.child = true
  | .readFailure _ => True

instance (fromSlice : List UInt8 → Except String JsonValue) (answers : OsAnswers)
    (job : CodexJobProcess) : ∀ item, Decidable (job.Takes fromSlice answers item)
  | .frame bytes => by
      unfold CodexJobProcess.Takes
      dsimp only
      split <;> infer_instance
  | .readFailure _ => .isTrue trivial

/-- The condition on the inputs of a run: a poll takes a frame only where that does no harm. -/
def JobStream.Tolerable (fromSlice : List UInt8 → Except String JsonValue) (st : JobStream) :
    JobInput → Prop
  | .poll _ answers _ =>
      st.db.sessionScopeIsCurrent st.job.scope = true →
        ∀ item ∈ st.job.nextItem, st.job.Takes fromSlice answers item
  | _ => True

instance (fromSlice : List UInt8 → Except String JsonValue) (st : JobStream) :
    ∀ input, Decidable (st.Tolerable fromSlice input)
  | .poll _ answers _ =>
      inferInstanceAs (Decidable (_ → ∀ item ∈ st.job.nextItem, st.job.Takes fromSlice answers item))
  | .frame _ | .readFailure _ | .readerEnd | .signal _ _ _ | .reconcile _ | .elsewhere _ =>
      .isTrue trivial

section Polls

variable {fromSlice : List UInt8 → Except String JsonValue} {answers : OsAnswers}
  {job job' : CodexJobProcess} {result : Except ProviderError (Option ProviderEventKind)}

theorem CodexJobProcess.nextItem_cons {item : JobStreamItem} {rest : List JobStreamItem}
    (hpending : job.pending = []) (hopen : job.stdoutClosed = false)
    (hframes : job.frames = item :: rest) : job.nextItem = some item := by
  rw [nextItem, if_pos ⟨hpending, hopen⟩, hframes, List.head?_cons]

/-- What a parsed frame stands for is activity. -/
theorem parseCodexJsonlFrame_running {bytes : List UInt8} {observed : SessionObservation}
    (h : parseCodexJsonlFrame fromSlice bytes = .ok (some observed)) :
    ∃ activity, observed = .running activity := by
  unfold parseCodexJsonlFrame at h
  split at h
  · cases h
  · split at h
    · cases h
    · split at h
      · cases h
      · next eventType _ =>
          cases hactivity : eventActivity eventType with
          | none =>
              rw [hactivity] at h
              cases h
          | some activity =>
              rw [hactivity] at h
              cases h
              exact ⟨activity, rfl⟩

namespace CodexJobProcess.Polled

/-- A poll that takes frames without harm leaves a sound job. -/
theorem sound (hjob : job.Sound) (htakes : ∀ item ∈ job.nextItem, job.Takes fromSlice answers item)
    (h : job.Polled fromSlice answers result job') : job'.Sound := by
  cases h with
  | popped kind rest hpending =>
      obtain ⟨activity, rfl⟩ := hjob.pending kind (by rw [hpending]; exact List.mem_cons_self)
      exact {
        pending := fun later hlater =>
          hjob.pending later (by rw [hpending]; exact List.mem_cons_of_mem _ hlater)
        drained := nofun
        closed := nofun
        reaped := nofun
        notLost := nofun
        exit := nofun }
  | output bytes rest activity hpending hopen hframes hparsed =>
      cases activity with
      | none => exact { hjob with pending := nofun, drained := fun _ => rfl }
      | some observed =>
          obtain ⟨activity, rfl⟩ := parseCodexJsonlFrame_running hparsed
          have hactive := htakes _ (nextItem_cons hpending hopen hframes)
          rw [Takes, hparsed] at hactive
          refine { hjob with pending := ?_, drained := ?_ }
          · intro kind hkind
            exact ⟨activity, List.mem_singleton.mp hkind⟩
          · intro hterminal
            rw [hactive] at hterminal
            cases hterminal
  | malformed item rest diagnostic child exitObserved hpending hopen hframes hrejected hknown =>
      refine ⟨?_, fun _ => hpending, ?_, ?_, ?_, nofun⟩
      · intro kind hkind
        rw [hpending] at hkind
        cases hkind
      all_goals cases child.status <;> simp [quarantineObservation]
  | unstopped item rest diagnostic child exitObserved e hpending hopen hframes hrejected
      hinsufficient hknown =>
      refine { hjob with reaped := fun hquarantined => ?_ }
      obtain ⟨status, hstatus⟩ := Option.isSome_iff_exists.mp (hjob.reaped hquarantined)
      exact Option.isSome_iff_exists.mpr ⟨status, hknown.status status hstatus⟩
  | quiet child stdoutClosed hpending hclosed hknown =>
      refine { hjob with
        closed := fun hexited => hclosed (hjob.closed hexited)
        reaped := fun hquarantined => ?_ }
      obtain ⟨status, hstatus⟩ := Option.isSome_iff_exists.mp (hjob.reaped hquarantined)
      exact Option.isSome_iff_exists.mpr ⟨status, hknown.status status hstatus⟩
  | ended child status hpending hactive hknown =>
      refine ⟨?_, fun _ => hpending, fun _ => rfl, nofun, nofun, fun _ => rfl⟩
      intro kind hkind
      rw [hpending] at hkind
      cases hkind
  | waitFailed stdoutClosed e hpending hclosed source hwait =>
      exact { hjob with closed := fun hexited => hclosed (hjob.closed hexited) }

/-- No poll takes back the end of a job. -/
theorem keepsEnd (hjob : job.Sound) (h : job.Polled fromSlice answers result job')
    (hterminal : job.observation.lifecycle.isTerminal = true) :
    job'.observation.lifecycle = job.observation.lifecycle := by
  cases h with
  | popped kind rest hpending =>
      rw [hjob.drained hterminal] at hpending
      cases hpending
  | malformed item rest diagnostic child exitObserved hpending hopen hframes hrejected hknown =>
      have hquarantined : job.observation.lifecycle = .quarantined := by
        have hnotExited : job.observation.lifecycle ≠ .exited := by
          intro hexited
          rw [hjob.closed hexited] at hopen
          cases hopen
        have hnotLost := hjob.notLost
        generalize job.observation.lifecycle = lifecycle at *
        cases lifecycle <;> simp_all [LifecycleState.isTerminal]
      obtain ⟨status, hstatus⟩ := Option.isSome_iff_exists.mp (hjob.reaped hquarantined)
      rw [hquarantined]
      simp [quarantineObservation, hknown.status status hstatus]
  | ended child status hpending hactive hknown =>
      rw [hactive] at hterminal
      cases hterminal
  | output | unstopped | quiet | waitFailed => rfl

/-- An event reports the current observation of the job. -/
theorem reports {kind : ProviderEventKind} {observed : SessionObservation} (hjob : job.Sound)
    (h : job.Polled fromSlice answers (.ok (some kind)) job')
    (hkind : kind.observation? = some observed) :
    job'.observation = observed ∧ observed.lifecycle ≠ .starting ∧
      job.observation.lifecycle ≠ .exited := by
  generalize hresult : Except.ok (some kind) = result at h
  cases h with
  | popped kind' rest hpending =>
      obtain rfl := Option.some.inj (Except.ok.inj hresult)
      obtain ⟨activity, rfl⟩ := hjob.pending kind (by rw [hpending]; exact List.mem_cons_self)
      obtain rfl := Option.some.inj hkind
      refine ⟨rfl, nofun, fun hexited => ?_⟩
      rw [hjob.drained (by rw [hexited]; rfl)] at hpending
      cases hpending
  | output bytes rest activity =>
      obtain rfl := Option.some.inj (Except.ok.inj hresult)
      cases hkind
  | malformed item rest diagnostic child exitObserved hpending hopen hframes hrejected hknown =>
      obtain rfl := Option.some.inj (Except.ok.inj hresult)
      obtain rfl := Option.some.inj hkind
      refine ⟨rfl, ?_, fun hexited => ?_⟩
      · cases child.status <;> simp [quarantineObservation]
      · rw [hjob.closed hexited] at hopen
        cases hopen
  | ended child status hpending hactive hknown =>
      obtain rfl := Option.some.inj (Except.ok.inj hresult)
      obtain rfl := Option.some.inj hkind
      refine ⟨rfl, nofun, fun hexited => ?_⟩
      rw [hexited] at hactive
      cases hactive
  | unstopped | quiet | waitFailed => cases hresult

/-- The output of the event is the frame that the poll took. -/
theorem conserves {kind : ProviderEventKind} (hjob : job.Sound)
    (h : job.Polled fromSlice answers (.ok (some kind)) job') :
    emittedFrames [kind] ++ framesOf job'.frames = framesOf job.frames := by
  generalize hresult : Except.ok (some kind) = result at h
  cases h with
  | popped kind' rest hpending =>
      obtain rfl := Option.some.inj (Except.ok.inj hresult)
      obtain ⟨activity, rfl⟩ := hjob.pending kind (by rw [hpending]; exact List.mem_cons_self)
      rfl
  | output bytes rest activity hpending hopen hframes hparsed =>
      obtain rfl := Option.some.inj (Except.ok.inj hresult)
      rw [hframes]
      unfold emittedFrames framesOf
      rw [← List.filter_append]
      rfl
  | malformed item rest diagnostic child exitObserved hpending hopen hframes hrejected hknown =>
      obtain rfl := Option.some.inj (Except.ok.inj hresult)
      rw [hframes]
      unfold emittedFrames framesOf
      rw [← List.filter_append]
      rfl
  | ended =>
      obtain rfl := Option.some.inj (Except.ok.inj hresult)
      rfl
  | unstopped | quiet | waitFailed => cases hresult

/-- A poll without an event takes no frame. -/
theorem conserves_none (h : job.Polled fromSlice answers (.ok none) job') :
    job'.frames = job.frames := by
  generalize hresult : Except.ok none = result at h
  cases h with
  | quiet => rfl
  | _ => cases hresult

/-- A poll that fails takes no frame, unless it could not stop the job that sent it. -/
theorem conserves_error {e : ProviderError}
    (htakes : ∀ item ∈ job.nextItem, job.Takes fromSlice answers item)
    (h : job.Polled fromSlice answers (.error e) job') :
    framesOf job'.frames = framesOf job.frames := by
  generalize hresult : Except.error e = result at h
  cases h with
  | unstopped item rest diagnostic child exitObserved e' hpending hopen hframes hrejected
      hinsufficient hknown =>
      rw [hframes]
      cases item with
      | readFailure diagnostic => rfl
      | frame bytes =>
          have hsuffice := htakes _ (nextItem_cons hpending hopen hframes)
          unfold JobStreamItem.rejected at hrejected
          unfold Takes at hsuffice
          dsimp only at hrejected hsuffice
          split at hrejected
          · next herror =>
              rw [herror] at hsuffice
              rw [hinsufficient] at hsuffice
              cases hsuffice
          · cases hrejected
  | waitFailed => rfl
  | _ => cases hresult

/-- A poll fails only where a call of the operating system does. -/
theorem unserved {e : ProviderError} (h : job.Polled fromSlice answers (.error e) job') :
    answers.serve = false := by
  generalize hresult : Except.error e = result at h
  cases h with
  | unstopped item rest diagnostic child exitObserved e' hpending hopen hframes hrejected
      hinsufficient hknown =>
      cases hserve : answers.serve with
      | false => rfl
      | true =>
          rw [OsAnswers.suffice_of_serve hserve] at hinsufficient
          cases hinsufficient
  | waitFailed stdoutClosed e' hpending hclosed source hwait =>
      simp [OsAnswers.serve, hwait, Except.isOk, Except.toBool]
  | _ => cases hresult

theorem scope_eq (h : job.Polled fromSlice answers result job') : job'.scope = job.scope := by
  cases h <;> rfl

end CodexJobProcess.Polled

end Polls

/-! ## Runs -/

/-- What holds of a supervised job along its runs. -/
structure JobStream.Sound (st : JobStream) : Prop where
  job : st.job.Sound
  recorded : ∀ state, st.db.sessionState st.job.scope.sessionId = some state →
    state.isTerminal = true →
      st.job.observation.lifecycle = state ∨
        st.job.observation.lifecycle = .exited ∧ state = .quarantined
  announced : ∀ kind ∈ st.emitted, ∀ lifecycle ∈ kind.lifecycle?, lifecycle.isTerminal = true →
    st.job.observation.lifecycle = lifecycle
  legal : st.Legal

section Runs

variable {fromSlice : List UInt8 → Except String JsonValue} {policy : SupervisionPolicy}
  {st : JobStream}

/-- A failure of the process itself is an observation of its exit. -/
theorem SessionObservation.exit_isSome_of_failed {observation : SessionObservation}
    (h : observation.failed = true) : observation.exit.isSome = true := by
  obtain ⟨exit, hexit, -⟩ := (Option.any_eq_true _ _).mp h
  rw [hexit]
  rfl

namespace JobStream

/-- Recording the current observation of a job keeps the recorded state in step with it. -/
theorem recorded_transaction {job : CodexJobProcess} {db : Db} {now : Int} (hjob : job.Sound)
    (hrecorded : ∀ state, db.sessionState job.scope.sessionId = some state →
      state.isTerminal = true → job.observation.lifecycle = state ∨
        job.observation.lifecycle = .exited ∧ state = .quarantined) :
    ∀ state, ((Tx.transaction (recordObservation job.scope job.observation now policy)).run
        db).2.sessionState job.scope.sessionId = some state →
      state.isTerminal = true → job.observation.lifecycle = state ∨
        job.observation.lifecycle = .exited ∧ state = .quarantined := by
  rcases Tx.transaction_cases (recordObservation job.scope job.observation now policy) db with
    ⟨u, db', hrun, ht⟩ | ⟨e, -, ht⟩
  · rw [ht]
    intro state hstate hterminal
    rcases recordObservation_stateBecomes job.scope job.observation now policy job.scope.sessionId
      db u db' hrun with hsame | ⟨lifecycle, hmay, hbecomes⟩
    · exact hrecorded state (hsame ▸ hstate) hterminal
    · obtain rfl := Option.some.inj (hstate.symm.trans hbecomes)
      rcases hmay with hobserved | ⟨hquarantined, hfailed⟩
      · exact .inl hobserved.symm
      · exact .inr ⟨hjob.exit (SessionObservation.exit_isSome_of_failed hfailed), hquarantined⟩
  · rw [ht]
    exact hrecorded

/-- A signal makes at most the status of the child known. -/
theorem signalJob_knows (providerId : String) (wait : Except String (Option ExitStatus))
    (delivered : Except String Unit) (job : CodexJobProcess) :
    ∃ child, job.child.Known child ∧
      ((signalJob providerId wait delivered).run job).2 = { job with child := child } := by
  rcases hrun : (signalJob providerId wait delivered).run job with ⟨_ | observed, job'⟩
  · rcases Tx.bind_eq_error.mp hrun with hwait | ⟨status, _, hwait, hrun⟩
    · obtain ⟨rfl, -, -⟩ := tryWait_error hwait
      exact ⟨_, Std.Refl.refl _, rfl⟩
    · obtain ⟨child, hknown, -, -, rfl⟩ := tryWait_ok hwait
      refine ⟨child, hknown, ?_⟩
      rcases Tx.bind_eq_error.mp hrun with hrun | ⟨_, _, _, hrun⟩
      · unfold Tx.when at hrun
        split at hrun
        · cases delivered with
          | error source => exact (Prod.mk.inj hrun).2.symm
          | ok => simp at hrun
        · simp [Tx.pure] at hrun
      · simp at hrun
  · obtain ⟨status, _, hwait, hrun⟩ := Tx.bind_eq_ok.mp hrun
    obtain ⟨child, hknown, -, -, rfl⟩ := tryWait_ok hwait
    obtain ⟨_, _, hsignal, hrun⟩ := Tx.bind_eq_ok.mp hrun
    obtain ⟨-, rfl⟩ := Tx.read_eq_ok.mp hrun
    refine ⟨child, hknown, ?_⟩
    rcases Tx.when_eq_ok.mp hsignal with ⟨-, hsignal⟩ | ⟨-, hsame⟩
    · cases delivered with
      | error source => exact absurd hsignal Tx.throw_eq_ok
      | ok => exact (Tx.pure_eq_ok.mp hsignal).2.symm
    · exact hsame.symm

namespace Sound

/-- A recording that the recorded state allows. -/
theorem record (h : st.Sound) (now : Int)
    (hallows : ∀ state, st.db.sessionState st.job.scope.sessionId = some state →
      state.allows st.job.observation.lifecycle = true) :
    (st.record policy st.job.observation now).Sound := by
  have hrecorded := @recorded_transaction policy st.job st.db now h.job h.recorded
  unfold JobStream.record
  rcases Tx.transaction_cases (recordObservation st.job.scope st.job.observation now policy) st.db
    with ⟨u, db', -, ht⟩ | ⟨e, hrun, ht⟩
  · rw [ht] at hrecorded ⊢
    exact { h with recorded := hrecorded, legal := { h.legal with } }
  · rw [ht] at hrecorded ⊢
    refine { h with recorded := hrecorded, legal := { h.legal with accepted := ?_ } }
    intro error hfailure
    rcases List.mem_append.mp hfailure with hold | hnew
    · exact h.legal.accepted error hold
    · obtain rfl := AdvanceError.store.inj (List.mem_singleton.mp hnew)
      exact recordObservation_avoidsInvalid _ _ _ _ st.db error _ hallows (Prod.ext hrun rfl)

/-- A look at the job by a control or by the reconciler. -/
theorem observe (h : st.Sound) (now : Int) : (st.observe policy now).Sound := by
  have hrecorded := @recorded_transaction policy st.job st.db now h.job h.recorded
  unfold JobStream.observe
  split
  all_goals
    next hrun =>
      rw [hrun] at hrecorded
      exact { h with recorded := hrecorded, legal := { h.legal with } }

theorem reconcile (h : st.Sound) (now : Int) : (st.reconcile policy now).Sound := by
  have hkept := Tx.Keeps.transaction (recordLaunchObservation_sessionState st.job.scope
    (processProviderId st.job.child.processId) now st.job.scope.sessionId) st.db
  unfold JobStream.reconcile
  split
  all_goals
    next db hrun =>
      rw [hrun] at hkept
      have hfound : JobStream.Sound { st with db := db } :=
        { h with
          recorded := fun state hstate => h.recorded state (hkept.symm.trans hstate)
          legal := { h.legal with } }
      first
        | exact hfound.observe now
        | exact { hfound with legal := { hfound.legal with } }

/-- The reader delivers an item. -/
theorem deliver (h : st.Sound) (item : JobStreamItem) : (st.deliver item).Sound where
  job := { h.job with }
  recorded := h.recorded
  announced := h.announced
  legal := {
    accepted := h.legal.accepted
    ended := h.legal.ended
    frames := by
      have hframes := h.legal.frames
      unfold framesOf at hframes ⊢
      unfold JobStream.deliver
      rw [List.map_append, List.filter_append, ← List.append_assoc, hframes, List.map_append,
        List.filter_append] }

theorem closeReader (h : st.Sound) : st.closeReader.Sound where
  job := { h.job with }
  recorded := h.recorded
  announced := h.announced
  legal := { h.legal with }

/-- The status of the child becomes known, and nothing else changes. -/
theorem knowing (h : st.Sound) {child : Child} (hknown : st.job.child.Known child) :
    JobStream.Sound { st with job := { st.job with child := child } } where
  job := { h.job with
    reaped := by
      intro hquarantined
      obtain ⟨status, hstatus⟩ := Option.isSome_iff_exists.mp (h.job.reaped hquarantined)
      exact Option.isSome_iff_exists.mpr ⟨status, hknown.status status hstatus⟩ }
  recorded := h.recorded
  announced := h.announced
  legal := { h.legal with }

theorem control (h : st.Sound) (now : Int) (wait : Except String (Option ExitStatus))
    (delivered : Except String Unit) : (st.control policy now wait delivered).Sound := by
  obtain ⟨child, hknown, hjob⟩ :=
    signalJob_knows (processProviderId st.job.child.processId) wait delivered st.job
  unfold JobStream.control
  split
  · next e job hrun =>
      rw [hrun] at hjob
      obtain rfl := hjob
      exact h.knowing hknown
  · next observed job hrun =>
      rw [hrun] at hjob
      obtain rfl := hjob
      exact (h.knowing hknown).observe now

/-- A failure that is none of the store. -/
theorem fail (h : st.Sound) {failure : AdvanceError} (hfailure : ∀ error, failure ≠ .store error) :
    JobStream.Sound { st with failures := st.failures ++ [failure] } where
  job := h.job
  recorded := h.recorded
  announced := h.announced
  legal := { h.legal with
    accepted := by
      intro error herror
      rcases List.mem_append.mp herror with hold | hnew
      · exact h.legal.accepted error hold
      · exact absurd (List.mem_singleton.mp hnew).symm (hfailure error) }

section Polls

variable {answers : OsAnswers} {job' : CodexJobProcess}
  {result : Except ProviderError (Option ProviderEventKind)}

/-- The recorded state stays in step with a job that was polled. -/
theorem recorded_polled (h : st.Sound) (hpolled : st.job.Polled fromSlice answers result job') :
    ∀ state, st.db.sessionState job'.scope.sessionId = some state → state.isTerminal = true →
      job'.observation.lifecycle = state ∨
        job'.observation.lifecycle = .exited ∧ state = .quarantined := by
  intro state hstate hterminal
  rw [hpolled.scope_eq] at hstate
  rcases h.recorded state hstate hterminal with rfl | ⟨hexited, hquarantined⟩
  · exact .inl (hpolled.keepsEnd h.job hterminal)
  · refine .inr ⟨?_, hquarantined⟩
    rw [← hexited]
    exact hpolled.keepsEnd h.job (by rw [hexited]; rfl)

/-- What was announced stays true of a job that was polled. -/
theorem announced_polled (h : st.Sound) (hpolled : st.job.Polled fromSlice answers result job') :
    ∀ kind ∈ st.emitted, ∀ lifecycle ∈ kind.lifecycle?, lifecycle.isTerminal = true →
      job'.observation.lifecycle = lifecycle := by
  intro kind hkind lifecycle hlifecycle hterminal
  have hcurrent := h.announced kind hkind lifecycle hlifecycle hterminal
  rw [← hcurrent]
  exact hpolled.keepsEnd h.job (by rw [hcurrent]; exact hterminal)

/-- A poll that emits nothing and loses no frame. -/
theorem quiet (h : st.Sound) (hpolled : st.job.Polled fromSlice answers result job')
    (htakes : ∀ item ∈ st.job.nextItem, st.job.Takes fromSlice answers item)
    (hframes : framesOf job'.frames = framesOf st.job.frames) :
    JobStream.Sound { st with job := job' } where
  job := hpolled.sound h.job htakes
  recorded := h.recorded_polled hpolled
  announced := h.announced_polled hpolled
  legal := { h.legal with frames := by rw [hframes]; exact h.legal.frames }

/-- A poll that emits an event. -/
theorem emit (h : st.Sound) {kind : ProviderEventKind}
    (hpolled : st.job.Polled fromSlice answers (.ok (some kind)) job')
    (htakes : ∀ item ∈ st.job.nextItem, st.job.Takes fromSlice answers item) :
    JobStream.Sound { st with job := job', emitted := st.emitted ++ [kind] } where
  job := hpolled.sound h.job htakes
  recorded := h.recorded_polled hpolled
  announced := by
    intro earlier hearlier lifecycle hlifecycle hterminal
    rcases List.mem_append.mp hearlier with hold | hnew
    · exact h.announced_polled hpolled earlier hold lifecycle hlifecycle hterminal
    · obtain rfl := List.mem_singleton.mp hnew
      obtain ⟨observed, hobserved, rfl⟩ := Option.map_eq_some_iff.mp hlifecycle
      rw [(hpolled.reports h.job hobserved).1]
  legal := { h.legal with
    ended := by
      refine List.pairwise_append.mpr ⟨h.legal.ended, List.pairwise_singleton _ _, ?_⟩
      intro earlier hearlier later hlater lifecycle hlifecycle hterminal next hnext
      obtain rfl := List.mem_singleton.mp hlater
      obtain ⟨observed, hobserved, rfl⟩ := Option.map_eq_some_iff.mp hnext
      rw [← (hpolled.reports h.job hobserved).1]
      exact h.announced_polled hpolled earlier hearlier lifecycle hlifecycle hterminal
    frames := by
      have hframes := h.legal.frames
      rw [← hpolled.conserves h.job] at hframes
      unfold emittedFrames at hframes ⊢
      rw [List.map_append, List.filter_append, List.append_assoc]
      exact hframes }

/-- The state recorded before the event allows what the event reports. -/
theorem allows_emit (h : st.Sound) {kind : ProviderEventKind} {observed : SessionObservation}
    (hpolled : st.job.Polled fromSlice answers (.ok (some kind)) job')
    (hobserved : kind.observation? = some observed) :
    ∀ state, st.db.sessionState job'.scope.sessionId = some state →
      state.allows job'.observation.lifecycle = true := by
  intro state hstate
  obtain ⟨hcurrent, hstarted, hactive⟩ := hpolled.reports h.job hobserved
  rw [hcurrent]
  cases hterminal : state.isTerminal with
  | false => exact LifecycleState.allows_of_not_isTerminal hterminal hstarted
  | true =>
      rw [hpolled.scope_eq] at hstate
      rcases h.recorded state hstate hterminal with hsame | ⟨hexited, -⟩
      · have hkept := hpolled.keepsEnd h.job (by rw [hsame]; exact hterminal)
        rw [hcurrent, hsame] at hkept
        rw [hkept]
        simp [LifecycleState.allows]
      · exact absurd hexited hactive

end Polls

theorem advance (h : st.Sound) (now : Int) (answers : OsAnswers)
    (transcript : Except String Unit)
    (htolerable : st.Tolerable fromSlice (.poll now answers transcript)) :
    (st.advance fromSlice policy now answers transcript).Sound := by
  unfold JobStream.advance
  split
  · exact h
  · next hcurrent =>
      have htakes := htolerable (not_not.mp hcurrent)
      split
      · next e job' hrun =>
          have hpolled := CodexJobProcess.nextEventKind_polled hrun
          exact (h.quiet hpolled htakes (hpolled.conserves_error htakes)).fail nofun
      · next job' hrun =>
          have hpolled := CodexJobProcess.nextEventKind_polled hrun
          exact h.quiet hpolled htakes (by rw [hpolled.conserves_none])
      · next kind job' hrun =>
          have hpolled := CodexJobProcess.nextEventKind_polled hrun
          have hemitted := h.emit hpolled htakes
          cases hkind : kind with
          | observation observed =>
              rw [hkind] at hpolled hemitted
              obtain ⟨rfl, -, -⟩ := hpolled.reports h.job rfl
              exact hemitted.record now (h.allows_emit hpolled rfl)
          | output bytes =>
              rw [hkind] at hemitted
              cases transcript with
              | error message => exact hemitted.fail nofun
              | ok => exact hemitted
          | malformedOutput bytes diagnostic observed =>
              rw [hkind] at hpolled hemitted
              obtain ⟨rfl, -, -⟩ := hpolled.reports h.job rfl
              cases transcript with
              | error message => exact hemitted.fail nofun
              | ok => exact hemitted.record now (h.allows_emit hpolled rfl)

/-- One step of a supervised job. -/
theorem step (h : st.Sound) (input : JobInput) (htolerable : st.Tolerable fromSlice input) :
    (st.step fromSlice policy input).Sound := by
  cases input with
  | frame bytes =>
      unfold JobStream.step
      dsimp only
      split
      · exact h
      · exact h.deliver _
  | readFailure diagnostic =>
      unfold JobStream.step
      dsimp only
      split
      · exact h
      · exact (h.deliver _).closeReader
  | readerEnd => exact h.closeReader
  | poll now answers transcript => exact h.advance now answers transcript htolerable
  | signal now wait delivered =>
      unfold JobStream.step
      dsimp only
      split
      · exact h.control now wait delivered
      · exact h
  | reconcile now =>
      unfold JobStream.step
      dsimp only
      split
      · exact h.reconcile now
      · exact h
  | elsewhere db =>
      unfold JobStream.step
      dsimp only
      split
      · next huntouched =>
          exact { h with
            recorded := fun state hstate hterminal =>
              h.recorded state (huntouched state hstate hterminal) hterminal
            legal := { h.legal with } }
      · exact h

/-- A job that was just launched for a session that has not ended. -/
theorem launched (processId : Nat) (scope : SessionScope) (db : Db)
    (hactive : ∀ state, db.sessionState scope.sessionId = some state → state.isTerminal = false) :
    (JobStream.launched processId scope db).Sound where
  job := {
    pending := by
      intro kind hkind
      exact ⟨.busy, List.mem_singleton.mp hkind⟩
    drained := nofun
    closed := nofun
    reaped := nofun
    notLost := nofun
    exit := nofun }
  recorded := by
    intro state hstate hterminal
    rw [hactive state hstate] at hterminal
    cases hterminal
  announced := nofun
  legal := { accepted := nofun, ended := .nil, frames := rfl }

end Sound

end JobStream

end Runs

end Coterie
