/-
  Coterie.Supervisor.LaunchOnce

  A provider process is started at most once for a session, over every run of the supervisor and
  wherever its programs are cut off.

  What carries the result is the mark of a launch in flight.  An attempt sets it before it starts a
  process, and clears it only after an error that proves that none was started.  Between two
  attempts a mark is therefore either the trace of a process or of an attempt that was cut off, and
  no later attempt passes it (`HeldBack`).
-/

import Coterie.Supervisor.Supervised

namespace Coterie

/-! ## Marked sessions -/

/-- The launch of a session is in flight. -/
def Runtime.InFlight (rt : Runtime) (id : SessionId) : Prop :=
  (rt.db.launchAttempts id).any (·.inFlight) = true

/-- A mark stays, and no process is started for a marked session. -/
def HeldBack (id : SessionId) (rt rt' : Runtime) : Prop :=
  rt.InFlight id → rt'.InFlight id ∧ (id ∈ rt'.started → id ∈ rt.started)

instance (id : SessionId) : Std.Refl (HeldBack id) where
  refl _ hflight := ⟨hflight, fun hstarted => hstarted⟩

instance (id : SessionId) : IsTrans Runtime (HeldBack id) where
  trans a b c hab hbc hflight := by
    obtain ⟨hflight', hback⟩ := hab hflight
    obtain ⟨hflight'', hback'⟩ := hbc hflight'
    exact ⟨hflight'', fun hstarted => hback (hback' hstarted)⟩

section Attempts

variable {id : SessionId}

/-- A transaction that keeps the launch row of the session holds it back. -/
theorem heldBack_transact {α : Type} {x : Repo α} {command : Command}
    (hcommits : Commits x command)
    (hkeeps : ∀ db, (db.launchAttempts id).any (·.inFlight) = true →
      ((command.exec db).launchAttempts id).any (·.inFlight) = true) :
    Tx.Keeps (HeldBack id) (transact x) := by
  intro rt hflight
  obtain ⟨db, power, hrun, rfl | rfl⟩ := transact_runtime hcommits rt
  · rw [hrun]
    exact ⟨hflight, fun hstarted => hstarted⟩
  · rw [hrun]
    exact ⟨hkeeps rt.db hflight, fun hstarted => hstarted⟩

/-- A transaction that writes no launch row. -/
theorem heldBack_unwritten {α : Type} {x : Repo α} {command : Command}
    (hcommits : Commits x command) (hwrites : .sessionLaunchAttempts ∉ command.writes) :
    Tx.Keeps (HeldBack id) (transact x) :=
  heldBack_transact hcommits fun db hflight => by
    rw [command.exec_launchAttempts hwrites]
    exact hflight

theorem heldBack_recordUnobservedStart (launch : AgentLaunch) (attemptedAt : Int)
    (policy : SupervisionPolicy) (error : AgentSessionError)
    (hother : launch.scope.sessionId ≠ id) :
    Tx.Keeps (HeldBack id) (recordUnobservedStart launch attemptedAt policy error) := by
  have hunknown : ∀ at', Tx.Keeps (HeldBack id)
      (transact (recordReconciliationIn launch.scope .unknown .unknown at')) :=
    fun at' => heldBack_unwritten
      (commits_body (.recordReconciliation launch.scope .unknown .unknown at'))
      (by dsimp only [Command.writes]; decide)
  unfold recordUnobservedStart
  split
  · exact hunknown _
  · refine .ite ?_ (hunknown _)
    refine heldBack_transact (commits_body (.recordFailedLaunch launch.scope attemptedAt policy))
      fun db hflight => ?_
    rw [recordFailedLaunch_launchAttempts launch.scope attemptedAt policy hother.symm]
    exact hflight
  · exact hunknown _

/-- An attempt for another session. -/
theorem heldBack_startAndRecord_of_ne (launch : AgentLaunch) (attemptedAt : Int)
    (policy : SupervisionPolicy) (host : SpawnHost) (hother : launch.scope.sessionId ≠ id) :
    Tx.Keeps (HeldBack id) (startAndRecord launch attemptedAt policy host) := by
  have hadmission : Commits (admitSessionLaunch launch.scope attemptedAt policy)
      (.admitSessionLaunch launch.scope attemptedAt policy) := commits_of_discard rfl
  refine .bind (heldBack_transact hadmission fun db hflight =>
    Command.exec_admitSessionLaunch_marked _ _ _ hflight) fun admission => ?_
  refine .bind (.ofExcept _) fun _ => .bind (heldBack_unwritten
    (commits_body (.replaceDesiredSessionCredential _)) (by dsimp only [Command.writes]; decide))
    fun _ => .bind ?_ fun outcome => ?_
  · intro rt hflight
    obtain ⟨started, handles, power, hrun, rfl | ⟨-, rfl⟩⟩ :=
      startProvider_runtime launch.scope host rt
    · rw [hrun]
      exact ⟨hflight, fun hstarted => hstarted⟩
    · rw [hrun]
      refine ⟨hflight, fun hstarted => ?_⟩
      rcases List.mem_append.mp hstarted with hold | hnew
      · exact hold
      · exact absurd (List.mem_singleton.mp hnew).symm hother
  · cases outcome with
    | error error =>
        exact .bind (heldBack_recordUnobservedStart launch attemptedAt policy error hother)
          fun _ => .throw _
    | ok u =>
        exact keeps_recordRegisteredLaunch _ _ fun scope providerId =>
          heldBack_unwritten (commits_body (.recordLaunchObservation scope providerId _))
            (by dsimp only [Command.writes]; decide)

/-- An attempt for a marked session ends at its admission. -/
theorem heldBack_startAndRecord_self (launch : AgentLaunch) (attemptedAt : Int)
    (policy : SupervisionPolicy) (host : SpawnHost) :
    Tx.Keeps (HeldBack launch.scope.sessionId)
      (startAndRecord launch attemptedAt policy host) := by
  intro rt hflight
  rcases transact_cases (admitSessionLaunch launch.scope attemptedAt policy) rt with
    ⟨admission, db, power, hadmit, -, hrun⟩ | ⟨error, power, hrun⟩
  · rcases admitSessionLaunch_ok hadmit with ⟨hrefused, rfl⟩ | ⟨-, hunmarked, -⟩
    · unfold startAndRecord
      rw [Tx.run_bind_of_ok hrun]
      have hcheck : ∃ error, admission.check launch.scope.sessionId = .error error := by
        cases admission with
        | allowed => exact absurd rfl hrefused
        | backoff untilTime => exact ⟨_, rfl⟩
        | quarantined => exact ⟨_, rfl⟩
        | unknown => exact ⟨_, rfl⟩
      obtain ⟨error, herror⟩ := hcheck
      rw [herror, Tx.run_bind_of_error (Tx.run_ofExcept _ _)]
      exact ⟨hflight, fun hstarted => hstarted⟩
    · -- an admitted intent was not marked
      rw [Runtime.InFlight, hunmarked] at hflight
      cases hflight
  · unfold startAndRecord
    rw [Tx.run_bind_of_error hrun]
    exact ⟨hflight, fun hstarted => hstarted⟩

end Attempts

/-! ## Every run -/

section Runs

variable {config : EffectiveConfig} {runId : RunId} {rt rt' : Runtime}

theorem Performs.heldBack (h : Performs config runId rt rt') (id : SessionId) :
    HeldBack id rt rt' := by
  cases h with
  | commit command hissues hmarks =>
      intro hflight
      refine ⟨?_, fun hstarted => hstarted⟩
      show ((command.exec rt.db).launchAttempts id).any (·.inFlight) = true
      rw [command.exec_launchAttempts hmarks]
      exact hflight
  | attempt launch attemptedAt policy host haccepting =>
      by_cases hself : launch.scope.sessionId = id
      · subst hself
        exact heldBack_startAndRecord_self launch attemptedAt policy host rt
      · exact heldBack_startAndRecord_of_ne launch attemptedAt policy host hself rt
  | remember handles power => exact fun hflight => ⟨hflight, fun hstarted => hstarted⟩

theorem Performing.heldBack (h : Performing config runId rt rt') (id : SessionId) :
    HeldBack id rt rt' := by
  induction h with
  | refl => exact Std.Refl.refl rt
  | tail _ hlast ih => exact IsTrans.trans (r := HeldBack id) _ _ _ ih (hlast.heldBack id)

/-- The start of a process is the first one of its session. -/
theorem Acts.nodup (h : Acts config runId rt rt') (hnodup : rt.started.Nodup) :
    rt'.started.Nodup := by
  cases h with
  | commit command hissues => exact hnodup
  | start sessionId haccepting hstartable =>
      refine List.nodup_append.mpr ⟨hnodup, List.nodup_singleton sessionId, ?_⟩
      intro a ha b hb hab
      rw [List.mem_singleton.mp hb] at hab
      exact hstartable.idle (hab ▸ ha)
  | remember handles power => exact hnodup

/-- In every run of the supervisor, cut off anywhere and continued after restarts, a session has at
    most one provider process, whose launch stays marked; and a session that is left marked, by a
    process or by an attempt that was cut off, gets no process later. -/
theorem launch_at_most_once (config : EffectiveConfig) (runId : RunId)
    (before after : List SupervisorStep) :
    ((supervisorMachine config runId).run before).started.Nodup ∧
      (∀ id ∈ ((supervisorMachine config runId).run before).started,
        ((supervisorMachine config runId).run before).InFlight id) ∧
      ∀ id, ((supervisorMachine config runId).run before).InFlight id →
        ((supervisorMachine config runId).run (before ++ after)).InFlight id ∧
          (id ∈ ((supervisorMachine config runId).run (before ++ after)).started →
            id ∈ ((supervisorMachine config runId).run before).started) := by
  refine ⟨?_, marked_run config runId before, fun id => ?_⟩
  · exact (acting_run config runId before).invariant (fun _ _ hacts => hacts.nodup) List.nodup_nil
  · rw [Machine.run_append]
    exact (performing_runFrom config runId _ after).heldBack id

end Runs

end Coterie
