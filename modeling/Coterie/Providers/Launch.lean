/-
  Coterie.Providers.Launch

  Starting a background provider process (`providers.rs`: `launch_job_process`, `launch_job`).  The answers of the host to the steps of a launch are arguments; what comes out is
  the result that the supervisor sees, and whether a process was started.

  `provesNoProcessStarted` classifies the errors from which a launch may be tried again, and
  `launchJob_provesNoProcessStarted` says that the classification is right.
-/

import Coterie.Providers.Job

namespace Coterie

/-- What the host answers to the steps of a job launch: the configured command, the program found
    for it, whether Coterie's own executable is known and can be named to the MCP transport, the
    process that the operating system started, and whether its output could be captured and
    read. -/
structure JobHost where
  command : List String
  resolvedProgram : Option String
  currentExecutable : Except String Unit
  utf8Executable : Bool
  processId : Except String Nat
  stdout : Bool
  reader : Except String Unit

/-- What a launch answers, and whether it started a process. -/
structure ProviderLaunch where
  result : Except ProviderError ProviderSessionHandle
  started : Bool

/-- A launch that failed before it started a process. -/
def ProviderLaunch.refused (error : ProviderError) : ProviderLaunch where
  result := .error error
  started := false

/-- A launch that failed after it started a process. -/
def ProviderLaunch.abandoned (error : ProviderError) : ProviderLaunch where
  result := .error error
  started := true

/-- The job of a started process. -/
def startedJob (host : JobHost) (processId : Nat) (scope : SessionScope) : ProviderLaunch :=
  if host.stdout = false then .abandoned .missingJobStdout
  else
    match host.reader with
    | .error source => .abandoned (.jobReaderThread source)
    | .ok _ =>
        { result := .ok { providerId := "process:" ++ toString processId, scope }, started := true }

/-- Start a background process for a session. -/
def launchJob (host : JobHost) (scope : SessionScope) : ProviderLaunch :=
  match host.command, host.resolvedProgram with
  | [], _ => .refused .emptyCodexCommand
  | program :: _, none => .refused (.jobExecutableResolution program)
  | _ :: _, some executable =>
      match host.currentExecutable with
      | .error source => .refused (.bootstrapExecutable source)
      | .ok _ =>
          if host.utf8Executable = false then .refused .mcpConfiguration
          else
            match host.processId with
            | .error source => .refused (.jobLaunch executable source)
            | .ok processId => startedJob host processId scope

/-- A launch was refused before a process was started, or is the job of a started process. -/
theorem launchJob_cases (host : JobHost) (scope : SessionScope) :
    (∃ error, launchJob host scope = .refused error) ∨
      ∃ processId, launchJob host scope = startedJob host processId scope := by
  unfold launchJob
  split
  · exact .inl ⟨_, rfl⟩
  · exact .inl ⟨_, rfl⟩
  · split
    · exact .inl ⟨_, rfl⟩
    · split
      · exact .inl ⟨_, rfl⟩
      · split
        · exact .inl ⟨_, rfl⟩
        · exact .inr ⟨_, rfl⟩

/-- The job of a started process started, and its errors do not pass for pre-spawn failures. -/
theorem startedJob_spec (host : JobHost) (processId : Nat) (scope : SessionScope) :
    (startedJob host processId scope).started = true ∧
      (∀ error, (startedJob host processId scope).result = .error error →
        error.provesNoProcessStarted = false) ∧
      ∀ handle, (startedJob host processId scope).result = .ok handle → handle.scope = scope := by
  unfold startedJob
  split
  · refine ⟨rfl, ?_, fun _ h => nomatch h⟩
    intro error h
    cases h
    rfl
  · split
    · refine ⟨rfl, ?_, fun _ h => nomatch h⟩
      intro error h
      cases h
      rfl
    · refine ⟨rfl, ?_, ?_⟩
      · intro error h
        cases h
      · intro handle h
        cases h
        rfl

/-- An error that proves that no process was started is returned by no launch that started one. -/
theorem launchJob_provesNoProcessStarted {host : JobHost} {scope : SessionScope}
    {error : ProviderError} (h : (launchJob host scope).result = .error error)
    (hproves : error.provesNoProcessStarted = true) : (launchJob host scope).started = false := by
  rcases launchJob_cases host scope with ⟨refusal, hrefused⟩ | ⟨processId, hstarted⟩
  · rw [hrefused]
    rfl
  · rw [hstarted] at h
    obtain ⟨-, herror, -⟩ := startedJob_spec host processId scope
    rw [herror error h] at hproves
    cases hproves

/-- The handle of a launch is the one of its session. -/
theorem launchJob_scope {host : JobHost} {scope : SessionScope} {handle : ProviderSessionHandle}
    (h : (launchJob host scope).result = .ok handle) : handle.scope = scope := by
  rcases launchJob_cases host scope with ⟨refusal, hrefused⟩ | ⟨processId, hstarted⟩
  · rw [hrefused] at h
    cases h
  · rw [hstarted] at h
    exact (startedJob_spec host processId scope).2.2 handle h

end Coterie
