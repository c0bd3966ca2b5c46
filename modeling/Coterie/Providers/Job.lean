/-
  Coterie.Providers.Job

  One background job (`providers.rs`: `CodexJobProcess`): a child process, the frames that its
  output reader has delivered, and the events made of them.

  What the operating system answers to `try_wait`, `kill` and the bounded reap is an argument of
  the call that asks; the status of a child stays known once it was seen.  The parser of JSON texts
  is a parameter, since it is not part of the program.
-/

import Coterie.Base.Json
import Coterie.Base.Tx
import Coterie.Model.Types

namespace Coterie

/-! ## Provider identities, events and errors -/

/-- An opaque provider execution identity bound to a session scope. -/
structure ProviderSessionHandle where
  providerId : String
  scope : SessionScope
deriving DecidableEq, Repr

/-- Provider data retained before later normalization into events. -/
inductive ProviderEventKind where
  | observation (observation : SessionObservation)
  | output (bytes : List UInt8)
  | malformedOutput (bytes : List UInt8) (diagnostic : String) (observation : SessionObservation)
deriving DecidableEq, Repr

namespace ProviderEventKind

/-- The observation that the session supervisor records for an event. -/
def observation? : ProviderEventKind → Option SessionObservation
  | .observation observed => some observed
  | .output _ => none
  | .malformedOutput _ _ observed => some observed

/-- The output that an event carries. -/
def bytes : ProviderEventKind → List UInt8
  | .observation _ => []
  | .output text => text
  | .malformedOutput text _ _ => text

end ProviderEventKind

/-- A provider adapter could not perform a requested session operation. -/
inductive ProviderError where
  | mcpConfiguration
  | noLaunchScript
  | unknownSession (providerId : String)
  | emptyCodexCommand
  | missingInteractiveEnvironment
  | bootstrapExecutable (source : String)
  | interactiveLaunch (executable source : String)
  | jobLaunch (executable source : String)
  | jobExecutableResolution (executable : String)
  | missingJobStdout
  | jobReaderThread (source : String)
  | jobObservation (providerId source : String)
  | jobControl (providerId source : String)
  | signalRegistration (source : String)
  | signalThread (source : String)
  | signalForward (source : String)
deriving DecidableEq, Repr

/-- Only pre-spawn failures permit another attempt with the same launch intent. -/
def ProviderError.provesNoProcessStarted : ProviderError → Bool
  | .noLaunchScript | .emptyCodexCommand | .jobLaunch _ _ | .jobExecutableResolution _
  | .interactiveLaunch _ _ | .missingInteractiveEnvironment | .bootstrapExecutable _
  | .mcpConfiguration | .signalRegistration _ | .signalThread _ => true
  | .unknownSession _ | .missingJobStdout | .jobReaderThread _ | .jobObservation _ _
  | .jobControl _ _ | .signalForward _ => false

/-! ## The child process -/

/-- How a process ended; no code when a signal ended it. -/
structure ExitStatus where
  code : Option Int
deriving DecidableEq, Repr

/-- A spawned process, with its status once that was seen. -/
structure Child where
  processId : Nat
  status : Option ExitStatus
deriving DecidableEq, Repr

/-- What the output reader delivers. -/
inductive JobStreamItem where
  | frame (bytes : List UInt8)
  | readFailure (diagnostic : String)
deriving DecidableEq, Repr

/-- A background job.  `frames` holds what the reader has delivered and nobody has received yet,
    `disconnected` says that the reader has ended. -/
structure CodexJobProcess where
  child : Child
  scope : SessionScope
  frames : List JobStreamItem
  disconnected : Bool
  pending : List ProviderEventKind
  observation : SessionObservation
  stdoutClosed : Bool
  exitObserved : Bool
deriving DecidableEq, Repr

/-- The observation of an active job. -/
def SessionObservation.running (activity : ActivityState) : SessionObservation where
  lifecycle := .running
  activity := activity
  exit := none

/-- A job that was just spawned. -/
def CodexJobProcess.launched (processId : Nat) (scope : SessionScope) : CodexJobProcess where
  child := { processId := processId, status := none }
  scope := scope
  frames := []
  disconnected := false
  pending := [.observation (.running .busy)]
  observation := .starting
  stdoutClosed := false
  exitObserved := false

/-- The provider identity of a process. -/
def processProviderId (processId : Nat) : String :=
  "process:" ++ toString processId

/-- What the operating system answers during one call on a job.  An answer about the child's end is
    used only while that end was not seen before. -/
structure OsAnswers where
  wait : Except String (Option ExitStatus)
  kill : Except String Unit
  reap : Except String (Option ExitStatus)
  rewait : Except String (Option ExitStatus)

/-- A computation on a job. -/
abbrev Job (α : Type) : Type := Tx CodexJobProcess ProviderError α

/-- Ask for the status of the child. -/
def tryWait (answer : Except String (Option ExitStatus)) (failed : String → ProviderError) :
    Job (Option ExitStatus) := do
  match ← Tx.read (·.child.status) with
  | some status => pure (some status)
  | none =>
      match answer with
      | .error source => throw (failed source)
      | .ok none => pure none
      | .ok (some status) => do
          Tx.write fun job => { job with child := { job.child with status := some status } }
          pure (some status)

/-! ## Frames -/

/-- The longest frame that is parsed. -/
def maximumCodexJsonlFrameBytes : Nat := 1024 * 1024

/-- The activity that an event type reports. -/
def eventActivity (eventType : String) : Option ActivityState :=
  if eventType = "thread.started" ∨ eventType = "turn.started" then some .busy
  else if eventType = "turn.completed" ∨ eventType = "turn.failed" ∨ eventType = "error" then
    some .idle
  else none

section Parser

variable (fromSlice : List UInt8 → Except String JsonValue)

/-- The observation that a well-formed frame stands for, if any. -/
def parseCodexJsonlFrame (bytes : List UInt8) : Except String (Option SessionObservation) :=
  if maximumCodexJsonlFrameBytes < bytes.length then
    .error s!"frame exceeds the {maximumCodexJsonlFrameBytes}-byte limit"
  else
    match fromSlice bytes with
    | .error error => .error ("invalid JSON: " ++ error)
    | .ok value =>
        match (value.get? "type").bind JsonValue.asStr? with
        | none => .error "JSONL event must be an object with a string `type`"
        | some eventType => .ok ((eventActivity eventType).map SessionObservation.running)

/-- The observation after malformed output: the job is quarantined once it is known to have
    ended. -/
def quarantineObservation (reaped : Bool) : SessionObservation where
  lifecycle := if reaped then .quarantined else .unknown
  activity := .unknown
  exit := none

/-- Stop a job whose output cannot be trusted. -/
def CodexJobProcess.quarantine (providerId : String) (answers : OsAnswers) (bytes : List UInt8)
    (diagnostic : String) : Job ProviderEventKind := do
  let status ← tryWait answers.wait (.jobObservation providerId)
  Tx.when (status = none) (do
    match answers.kill with
    | .error source => throw (.jobControl providerId source)
    | .ok () => do
        let reaped ← tryWait answers.reap (.jobControl providerId)
        Tx.write fun job => { job with exitObserved := reaped.isSome })
  let status ← tryWait answers.rewait (.jobObservation providerId)
  let observation := quarantineObservation status.isSome
  Tx.write fun job => { job with observation := observation }
  pure (.malformedOutput bytes diagnostic observation)

/-- Turn a received frame into an event. -/
def CodexJobProcess.classifyFrame (providerId : String) (answers : OsAnswers)
    (bytes : List UInt8) : Job ProviderEventKind :=
  match parseCodexJsonlFrame fromSlice bytes with
  | .error diagnostic => CodexJobProcess.quarantine providerId answers bytes diagnostic
  | .ok none => pure (.output bytes)
  | .ok (some observation) => do
      Tx.write fun job => { job with pending := job.pending ++ [.observation observation] }
      pure (.output bytes)

/-- Look for the end of a job whose output has ended. -/
def CodexJobProcess.observeExit (providerId : String) (answers : OsAnswers) :
    Job (Option ProviderEventKind) := do
  if ← Tx.read fun job => job.exitObserved || job.observation.lifecycle.isTerminal then pure none
  else
    match ← tryWait answers.wait (.jobObservation providerId) with
    | none => pure none
    | some status => do
        Tx.write fun job =>
          { job with exitObserved := true, observation := .processExit status.code }
        pure (some (.observation (.processExit status.code)))

/-- The next event of a job: a pending observation, a received frame, or the end of the process. -/
def CodexJobProcess.nextEventKind (providerId : String) (answers : OsAnswers) :
    Job (Option ProviderEventKind) := do
  match ← Tx.read (·.pending) with
  | .observation observation :: rest => do
      Tx.write fun job => { job with pending := rest, observation := observation }
      pure (some (.observation observation))
  | kind :: rest => do
      Tx.write fun job => { job with pending := rest }
      pure (some kind)
  | [] =>
      if ← Tx.read (·.stdoutClosed) then observeExit providerId answers
      else
        match ← Tx.read (·.frames) with
        | .frame bytes :: rest => do
            Tx.write fun job => { job with frames := rest }
            let kind ← classifyFrame fromSlice providerId answers bytes
            pure (some kind)
        | .readFailure diagnostic :: rest => do
            Tx.write fun job => { job with frames := rest }
            let kind ← quarantine providerId answers [] diagnostic
            pure (some kind)
        | [] =>
            if ← Tx.read (·.disconnected) then do
              Tx.write fun job => { job with stdoutClosed := true }
              observeExit providerId answers
            else pure none

end Parser

/-! ## What the calls do -/

variable {job job' : CodexJobProcess}

/-- The same process, of which more may be known. -/
structure Child.Known (child child' : Child) : Prop where
  processId : child'.processId = child.processId
  status : ∀ status, child.status = some status → child'.status = some status

instance : Std.Refl Child.Known where
  refl _ := ⟨rfl, fun _ h => h⟩

instance : IsTrans Child Child.Known where
  trans _ _ _ hab hbc :=
    { processId := hbc.processId.trans hab.processId
      status := fun status h => hbc.status status (hab.status status h) }

/-- A status that is unknown now was unknown before. -/
theorem Child.Known.status_eq_none {child child' : Child} (h : child.Known child')
    (hnone : child'.status = none) : child.status = none := by
  cases hstatus : child.status with
  | none => rfl
  | some status =>
      rw [h.status status hstatus] at hnone
      cases hnone

theorem tryWait_ok {answer : Except String (Option ExitStatus)} {failed : String → ProviderError}
    {status : Option ExitStatus} (h : (tryWait answer failed).run job = (.ok status, job')) :
    ∃ child, job.child.Known child ∧ child.status = status ∧
      (job.child.status = none → answer = .ok status) ∧ job' = { job with child := child } := by
  obtain ⟨known, _, h₁, h⟩ := Tx.bind_eq_ok.mp h
  obtain ⟨hknown, rfl⟩ := Tx.read_eq_ok.mp h₁
  cases known with
  | some seen =>
      obtain ⟨rfl, rfl⟩ := Tx.pure_eq_ok.mp h
      refine ⟨job.child, Std.Refl.refl _, hknown, ?_, rfl⟩
      intro hnone
      rw [hnone] at hknown
      cases hknown
  | none =>
      cases answer with
      | error source => exact absurd h Tx.throw_eq_ok
      | ok answered =>
          cases answered with
          | none =>
              obtain ⟨rfl, rfl⟩ := Tx.pure_eq_ok.mp h
              exact ⟨job.child, Std.Refl.refl _, hknown, fun _ => rfl, rfl⟩
          | some seen =>
              obtain ⟨_, _, h₂, h⟩ := Tx.bind_eq_ok.mp h
              obtain rfl := Tx.write_eq_ok.mp h₂
              obtain ⟨rfl, rfl⟩ := Tx.pure_eq_ok.mp h
              refine ⟨{ job.child with status := some seen }, ⟨rfl, ?_⟩, rfl, fun _ => rfl, rfl⟩
              intro status hstatus
              rw [hknown] at hstatus
              cases hstatus

theorem tryWait_error {answer : Except String (Option ExitStatus)}
    {failed : String → ProviderError} {e : ProviderError}
    (h : (tryWait answer failed).run job = (.error e, job')) :
    job' = job ∧ job.child.status = none ∧ ∃ source, answer = .error source := by
  rcases Tx.bind_eq_error.mp h with hread | ⟨known, _, h₁, h⟩
  · simp at hread
  · obtain ⟨hknown, rfl⟩ := Tx.read_eq_ok.mp h₁
    cases known with
    | some seen => simp at h
    | none =>
        cases answer with
        | error source =>
            simp only [Tx.run_throw, Prod.mk.injEq] at h
            exact ⟨h.2.symm, hknown, source, rfl⟩
        | ok status => cases status <;> simp [Tx.run_bind] at h

/-- The answers that stopping a job asks for are no errors. -/
def OsAnswers.suffice (answers : OsAnswers) (child : Child) : Bool :=
  child.status.isSome ||
    match answers.wait with
    | .error _ => false
    | .ok (some _) => true
    | .ok none => answers.kill.isOk &&
        match answers.reap with
        | .error _ => false
        | .ok (some _) => true
        | .ok none => answers.rewait.isOk

/-- No call of the operating system fails. -/
def OsAnswers.serve (answers : OsAnswers) : Bool :=
  answers.wait.isOk && answers.kill.isOk && answers.reap.isOk && answers.rewait.isOk

theorem OsAnswers.suffice_of_serve {answers : OsAnswers} (h : answers.serve = true)
    (child : Child) : answers.suffice child = true := by
  unfold serve at h
  unfold suffice
  rcases answers with ⟨_ | _ | _, _ | _, _ | _ | _, _ | _⟩ <;>
    simp_all [Except.isOk, Except.toBool]

namespace CodexJobProcess

variable {providerId diagnostic : String} {answers : OsAnswers} {bytes : List UInt8}

/-- What the answers say about a job that could not be stopped. -/
theorem quarantine_error {e : ProviderError}
    (h : (quarantine providerId answers bytes diagnostic).run job = (.error e, job')) :
    answers.suffice job.child = false ∧
      ∃ child exitObserved, job' = { job with child := child, exitObserved := exitObserved } ∧
        job.child.Known child := by
  rcases Tx.bind_eq_error.mp h with h | ⟨status, job₁, h₁, h⟩
  · obtain ⟨rfl, hnone, source, hwait⟩ := tryWait_error h
    exact ⟨by simp [OsAnswers.suffice, hnone, hwait], _, _, rfl, Std.Refl.refl _⟩
  obtain ⟨child₁, hknown₁, hstatus₁, hwait, rfl⟩ := tryWait_ok h₁
  rcases Tx.bind_eq_error.mp h with h | ⟨_, job₂, h₂, h⟩
  · -- the child was alive, and the kill or the reap failed
    unfold Tx.when at h
    split at h
    · next hnone =>
        rw [hnone] at hstatus₁ hwait
        have hunknown := hknown₁.status_eq_none hstatus₁
        cases hkill : answers.kill with
        | error source =>
            rw [hkill] at h
            simp only [Tx.run_throw, Prod.mk.injEq] at h
            refine ⟨?_, child₁, _, h.2.symm, hknown₁⟩
            simp [OsAnswers.suffice, hunknown, hwait hunknown, hkill, Except.isOk, Except.toBool]
        | ok =>
            rw [hkill] at h
            rcases Tx.bind_eq_error.mp h with h | ⟨_, _, _, h⟩
            · obtain ⟨rfl, -, source, hreap⟩ := tryWait_error h
              refine ⟨?_, child₁, _, rfl, hknown₁⟩
              simp [OsAnswers.suffice, hunknown, hwait hunknown, hreap]
            · simp at h
    · simp [Tx.pure] at h
  rcases Tx.bind_eq_error.mp h with h | ⟨_, _, _, h⟩
  · -- the end of the child is still unknown after the reap
    obtain ⟨rfl, hnone₂, source, hrewait⟩ := tryWait_error h
    rcases Tx.when_eq_ok.mp h₂ with ⟨hnone, hkill⟩ | ⟨hsome, rfl⟩
    · rw [hnone] at hstatus₁ hwait
      have hunknown := hknown₁.status_eq_none hstatus₁
      cases hok : answers.kill with
      | error source =>
          rw [hok] at hkill
          exact absurd hkill Tx.throw_eq_ok
      | ok =>
          rw [hok] at hkill
          obtain ⟨reaped, job₃, h₃, hkill⟩ := Tx.bind_eq_ok.mp hkill
          obtain ⟨child₂, hknown₂, hstatus₂, hreap, rfl⟩ := tryWait_ok h₃
          obtain rfl := Tx.write_eq_ok.mp hkill
          rw [← hstatus₂, hnone₂] at hreap
          refine ⟨?_, child₂, _, rfl, IsTrans.trans _ _ _ hknown₁ hknown₂⟩
          simp [OsAnswers.suffice, hunknown, hwait hunknown, hok, hreap hstatus₁, hrewait,
            Except.isOk, Except.toBool]
    · exact absurd (hstatus₁ ▸ hnone₂) hsome
  · simp [Tx.run_bind] at h

/-- A job that was stopped is quarantined if its end is known. -/
theorem quarantine_ok {kind : ProviderEventKind}
    (h : (quarantine providerId answers bytes diagnostic).run job = (.ok kind, job')) :
    ∃ child exitObserved, job.child.Known child ∧
      kind = .malformedOutput bytes diagnostic (quarantineObservation child.status.isSome) ∧
      job' = { job with
        child := child
        exitObserved := exitObserved
        observation := quarantineObservation child.status.isSome } := by
  obtain ⟨status, job₁, h₁, h⟩ := Tx.bind_eq_ok.mp h
  obtain ⟨child₁, hknown₁, -, -, rfl⟩ := tryWait_ok h₁
  obtain ⟨_, job₂, h₂, h⟩ := Tx.bind_eq_ok.mp h
  have hkilled : ∃ child₂ exitObserved, child₁.Known child₂ ∧
      job₂ = { job with child := child₂, exitObserved := exitObserved } := by
    rcases Tx.when_eq_ok.mp h₂ with ⟨-, hkill⟩ | ⟨-, rfl⟩
    · split at hkill
      · exact absurd hkill Tx.throw_eq_ok
      · obtain ⟨reaped, job₃, h₃, hkill⟩ := Tx.bind_eq_ok.mp hkill
        obtain ⟨child₂, hknown₂, -, -, rfl⟩ := tryWait_ok h₃
        obtain rfl := Tx.write_eq_ok.mp hkill
        exact ⟨child₂, reaped.isSome, hknown₂, rfl⟩
    · exact ⟨child₁, job.exitObserved, Std.Refl.refl _, rfl⟩
  obtain ⟨child₂, exitObserved, hknown₂, rfl⟩ := hkilled
  obtain ⟨status', job₃, h₃, h⟩ := Tx.bind_eq_ok.mp h
  obtain ⟨child₃, hknown₃, rfl, -, rfl⟩ := tryWait_ok h₃
  obtain ⟨_, _, h₄, h⟩ := Tx.bind_eq_ok.mp h
  obtain rfl := Tx.write_eq_ok.mp h₄
  obtain ⟨rfl, rfl⟩ := Tx.pure_eq_ok.mp h
  exact ⟨child₃, exitObserved,
    IsTrans.trans _ _ _ hknown₁ (IsTrans.trans _ _ _ hknown₂ hknown₃), rfl, rfl⟩

end CodexJobProcess

/-! ## What a poll can do -/

/-- The output that an item brings. -/
def JobStreamItem.bytes : JobStreamItem → List UInt8
  | .frame text => text
  | .readFailure _ => []

/-- Why an item stops its job, if it does. -/
def JobStreamItem.rejected (fromSlice : List UInt8 → Except String JsonValue) :
    JobStreamItem → Option String
  | .frame bytes =>
      match parseCodexJsonlFrame fromSlice bytes with
      | .error diagnostic => some diagnostic
      | .ok _ => none
  | .readFailure diagnostic => some diagnostic

/-- The current observation after an event was taken from the pending ones. -/
def ProviderEventKind.observedOr (kind : ProviderEventKind) (current : SessionObservation) :
    SessionObservation :=
  match kind with
  | .observation observed => observed
  | _ => current

/-- What a poll of a job can return, and the job that it leaves. -/
inductive CodexJobProcess.Polled (fromSlice : List UInt8 → Except String JsonValue)
    (answers : OsAnswers) (job : CodexJobProcess) :
    Except ProviderError (Option ProviderEventKind) → CodexJobProcess → Prop where
  | popped (kind : ProviderEventKind) (rest : List ProviderEventKind)
      (hpending : job.pending = kind :: rest) :
      Polled fromSlice answers job (.ok (some kind))
        { job with pending := rest, observation := kind.observedOr job.observation }
  | output (bytes : List UInt8) (rest : List JobStreamItem) (activity : Option SessionObservation)
      (hpending : job.pending = []) (hopen : job.stdoutClosed = false)
      (hframes : job.frames = .frame bytes :: rest)
      (hparsed : parseCodexJsonlFrame fromSlice bytes = .ok activity) :
      Polled fromSlice answers job (.ok (some (.output bytes)))
        { job with frames := rest, pending := activity.toList.map .observation }
  | malformed (item : JobStreamItem) (rest : List JobStreamItem) (diagnostic : String)
      (child : Child) (exitObserved : Bool) (hpending : job.pending = [])
      (hopen : job.stdoutClosed = false) (hframes : job.frames = item :: rest)
      (hrejected : item.rejected fromSlice = some diagnostic) (hknown : job.child.Known child) :
      Polled fromSlice answers job
        (.ok (some (.malformedOutput item.bytes diagnostic
          (quarantineObservation child.status.isSome))))
        { job with
          frames := rest
          child := child
          exitObserved := exitObserved
          observation := quarantineObservation child.status.isSome }
  | unstopped (item : JobStreamItem) (rest : List JobStreamItem) (diagnostic : String)
      (child : Child) (exitObserved : Bool) (e : ProviderError) (hpending : job.pending = [])
      (hopen : job.stdoutClosed = false) (hframes : job.frames = item :: rest)
      (hrejected : item.rejected fromSlice = some diagnostic)
      (hinsufficient : answers.suffice job.child = false) (hknown : job.child.Known child) :
      Polled fromSlice answers job (.error e)
        { job with frames := rest, child := child, exitObserved := exitObserved }
  | quiet (child : Child) (stdoutClosed : Bool) (hpending : job.pending = [])
      (hclosed : job.stdoutClosed = true → stdoutClosed = true) (hknown : job.child.Known child) :
      Polled fromSlice answers job (.ok none)
        { job with child := child, stdoutClosed := stdoutClosed }
  | ended (child : Child) (status : ExitStatus) (hpending : job.pending = [])
      (hactive : job.observation.lifecycle.isTerminal = false) (hknown : job.child.Known child) :
      Polled fromSlice answers job (.ok (some (.observation (.processExit status.code))))
        { job with
          child := child
          stdoutClosed := true
          exitObserved := true
          observation := .processExit status.code }
  | waitFailed (stdoutClosed : Bool) (e : ProviderError) (hpending : job.pending = [])
      (hclosed : job.stdoutClosed = true → stdoutClosed = true) (source : String)
      (hwait : answers.wait = .error source) :
      Polled fromSlice answers job (.error e) { job with stdoutClosed := stdoutClosed }

namespace CodexJobProcess

variable {fromSlice : List UInt8 → Except String JsonValue} {providerId : String}
  {answers : OsAnswers}

/-- Looking for the end of a job, from the moment at which its output has ended. -/
theorem observeExit_polled {result : Except ProviderError (Option ProviderEventKind)}
    (hpending : job.pending = [])
    (h : (observeExit providerId answers).run { job with stdoutClosed := true } = (result, job')) :
    job.Polled fromSlice answers result job' := by
  unfold observeExit at h
  rw [Tx.run_bind, Tx.run_read] at h
  dsimp only at h
  split at h
  · obtain ⟨rfl, rfl⟩ := Prod.mk.inj h
    exact .quiet job.child true hpending (fun _ => rfl) (Std.Refl.refl _)
  · next hactive =>
      rw [Bool.or_eq_true, not_or, Bool.not_eq_true, Bool.not_eq_true] at hactive
      cases result with
      | error e =>
          rcases Tx.bind_eq_error.mp h with h | ⟨status, _, _, h⟩
          · obtain ⟨rfl, -, source, hwait⟩ := tryWait_error h
            exact .waitFailed true e hpending (fun _ => rfl) source hwait
          · cases status <;> simp [Tx.run_bind] at h
      | ok event =>
          obtain ⟨status, _, h₁, h⟩ := Tx.bind_eq_ok.mp h
          obtain ⟨child, hknown, -, -, rfl⟩ := tryWait_ok h₁
          cases status with
          | none =>
              obtain ⟨rfl, rfl⟩ := Tx.pure_eq_ok.mp h
              exact .quiet child true hpending (fun _ => rfl) hknown
          | some status =>
              obtain ⟨_, _, h₂, h⟩ := Tx.bind_eq_ok.mp h
              obtain rfl := Tx.write_eq_ok.mp h₂
              obtain ⟨rfl, rfl⟩ := Tx.pure_eq_ok.mp h
              exact .ended child status hpending hactive.2 hknown

/-- A rejected item stops the job, or fails to. -/
theorem quarantine_polled {item : JobStreamItem} {rest : List JobStreamItem}
    {diagnostic : String} {result : Except ProviderError (Option ProviderEventKind)}
    (hpending : job.pending = []) (hopen : job.stdoutClosed = false)
    (hframes : job.frames = item :: rest) (hrejected : item.rejected fromSlice = some diagnostic)
    (h : (quarantine providerId answers item.bytes diagnostic >>= fun kind =>
      pure (some kind)).run { job with frames := rest } = (result, job')) :
    job.Polled fromSlice answers result job' := by
  cases result with
  | error e =>
      rcases Tx.bind_eq_error.mp h with h | ⟨_, _, _, h⟩
      · obtain ⟨hinsufficient, child, exitObserved, rfl, hknown⟩ := quarantine_error h
        exact .unstopped item rest diagnostic child exitObserved e hpending hopen hframes hrejected
          hinsufficient hknown
      · simp at h
  | ok event =>
      obtain ⟨kind, _, h₁, h⟩ := Tx.bind_eq_ok.mp h
      obtain ⟨child, exitObserved, hknown, rfl, rfl⟩ := quarantine_ok h₁
      obtain ⟨rfl, rfl⟩ := Tx.pure_eq_ok.mp h
      exact .malformed item rest diagnostic child exitObserved hpending hopen hframes hrejected
        hknown

theorem nextEventKind_polled {result : Except ProviderError (Option ProviderEventKind)}
    (h : (nextEventKind fromSlice providerId answers).run job = (result, job')) :
    job.Polled fromSlice answers result job' := by
  unfold nextEventKind at h
  rw [Tx.run_bind, Tx.run_read] at h
  dsimp only at h
  cases hpending : job.pending with
  | cons kind rest =>
      rw [hpending] at h
      cases kind with
      | observation observed =>
          simp only [Tx.run_bind, Tx.run_write, Tx.run_pure, Prod.mk.injEq] at h
          obtain ⟨rfl, rfl⟩ := h
          exact .popped _ rest hpending
      | output bytes =>
          simp only [Tx.run_bind, Tx.run_write, Tx.run_pure, Prod.mk.injEq] at h
          obtain ⟨rfl, rfl⟩ := h
          exact .popped _ rest hpending
      | malformedOutput bytes diagnostic observed =>
          simp only [Tx.run_bind, Tx.run_write, Tx.run_pure, Prod.mk.injEq] at h
          obtain ⟨rfl, rfl⟩ := h
          exact .popped _ rest hpending
  | nil =>
      rw [hpending] at h
      dsimp only at h
      rw [Tx.run_bind, Tx.run_read] at h
      dsimp only at h
      split at h
      · next hclosed =>
          have hjob : { job with stdoutClosed := true } = job := by
            rw [← hclosed]
          rw [← hjob] at h
          exact observeExit_polled hpending h
      · next hopen =>
          rw [Bool.not_eq_true] at hopen
          rw [Tx.run_bind, Tx.run_read] at h
          dsimp only at h
          cases hframes : job.frames with
          | nil =>
              rw [hframes] at h
              dsimp only at h
              rw [Tx.run_bind, Tx.run_read] at h
              dsimp only at h
              split at h
              · rw [Tx.run_bind, Tx.run_write] at h
                exact observeExit_polled hpending h
              · obtain ⟨rfl, rfl⟩ := Prod.mk.inj h
                exact .quiet job.child job.stdoutClosed hpending id (Std.Refl.refl _)
          | cons item rest =>
              rw [hframes] at h
              cases item with
              | readFailure diagnostic =>
                  dsimp only at h
                  rw [Tx.run_bind, Tx.run_write] at h
                  exact quarantine_polled hpending hopen hframes rfl h
              | frame bytes =>
                  dsimp only at h
                  rw [Tx.run_bind, Tx.run_write] at h
                  dsimp only at h
                  unfold classifyFrame at h
                  cases hparsed : parseCodexJsonlFrame fromSlice bytes with
                  | error diagnostic =>
                      rw [hparsed] at h
                      refine quarantine_polled hpending hopen hframes ?_ h
                      rw [JobStreamItem.rejected, hparsed]
                  | ok activity =>
                      rw [hparsed] at h
                      cases activity with
                      | none =>
                          obtain ⟨rfl, rfl⟩ := Prod.mk.inj h
                          have houtput := @Polled.output fromSlice answers job bytes rest none
                            hpending hopen hframes hparsed
                          rw [Option.toList_none, List.map_nil, ← hpending] at houtput
                          exact houtput
                      | some observed =>
                          simp only [Tx.run_bind, Tx.run_write, Tx.run_pure, Prod.mk.injEq] at h
                          obtain ⟨rfl, rfl⟩ := h
                          rw [hpending]
                          exact .output bytes rest _ hpending hopen hframes hparsed

end CodexJobProcess

end Coterie
