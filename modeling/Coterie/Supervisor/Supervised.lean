/-
  Coterie.Supervisor.Supervised

  Every program of the supervisor takes only the steps of `Coterie.Supervisor.Issue`, wherever it is
  cut off.  In between stands what programs are made of (`Performs`): transactions that admit no
  launch, and whole attempts to start the process of an intent, each cut off somewhere.

  A program that launches is followed while the run is not stopping (`Launching`); a poll that stops
  the run, while its sessions are terminal (`WindingOn`).
-/

import Coterie.Supervisor.Issue

namespace Coterie

/-! ## Transactions of programs -/

/-- The transaction of a program is the one of a command. -/
def Commits {α : Type} (x : Repo α) (command : Command) : Prop :=
  ∀ db, ((Tx.transaction x).run db).2 = command.exec db

theorem commits_body (command : Command) : Commits command.body command :=
  fun _ => rfl

/-- A command that forgets the result of a transaction leads to the same database. -/
theorem commits_of_discard {α : Type} {x : Repo α} {command : Command}
    (h : command.body = discard x) : Commits x command := by
  intro db
  unfold Command.exec
  rw [h]
  exact (Tx.transaction_map x _ db).symm

/-- A transaction that returns the recorded result of a mutation is that mutation. -/
theorem commits_of_mutated {α : Type} {mutation : Mutation} {requestFingerprint : Option String}
    {apply : Repo JsonValue} {f : MutationOutcome JsonValue → α} {command : Command}
    (h : command.body = mutated mutation requestFingerprint apply) :
    Commits (mutationBody .json mutation requestFingerprint apply >>= fun outcome =>
      pure (f outcome)) command := by
  intro db
  unfold Command.exec
  rw [h, Tx.transaction_map]
  exact (Tx.transaction_map _ _ db).symm

namespace Command

/-- The transactions that the supervisor begins on their own leave the recorded stop alone. -/
theorem runShutdowns_of_alone {command : Command} (h : command.alone = true) :
    .runShutdowns ∉ command.writes := by
  cases command <;> first | (dsimp only [writes]; decide) | cases h

theorem runShutdowns_of_launches {command : Command} (h : command.launches = true) :
    .runShutdowns ∉ command.writes := by
  cases command <;> first | (dsimp only [writes]; decide) | cases h

theorem exec_runShutdown {command : Command} (h : .runShutdowns ∉ command.writes) (db : Db)
    (runId : RunId) : (command.exec db).runShutdown runId = db.runShutdown runId := by
  unfold Db.runShutdown
  rw [command.exec_writesOnly db .runShutdowns h]

end Command

section Programs

variable {config : EffectiveConfig} {runId : RunId} {α β : Type}

/-- A transaction leaves the database as it was, or as the command leaves it. -/
theorem transact_runtime {x : Repo α} {command : Command} (hcommits : Commits x command)
    (rt : Runtime) : ∃ db power, ((transact x).run rt).2 = { rt with db, power } ∧
      (db = rt.db ∨ db = command.exec rt.db) := by
  rcases transact_cases x rt with ⟨a, db, power, hx, -, ht⟩ | ⟨e, power, ht⟩
  · refine ⟨db, power, by rw [ht], .inr ?_⟩
    rw [← hcommits rt.db, Tx.transaction_eq_ok.mpr hx]
  · exact ⟨rt.db, power, by rw [ht], .inl rfl⟩

/-- The step of a program that commits a transaction of the supervisor. -/
theorem acting_transact {x : Repo α} {command : Command} {rt : Runtime}
    (hcommits : Commits x command) (h : Issues config runId rt command) :
    Acting config runId rt ((transact x).run rt).2 := by
  obtain ⟨db, power, hrun, rfl | rfl⟩ := transact_runtime hcommits rt
  · rw [hrun]
    exact .single (.remember rt.handles power)
  · rw [hrun]
    have hcommit : Acts config runId rt { rt with db := command.exec rt.db } := .commit command h
    exact (Relation.ReflTransGen.single hcommit).tail (.remember rt.handles power)

/-- While the run is not stopping, a part of an attempt takes steps of the supervisor and the run
    stays so. -/
def Attempting (config : EffectiveConfig) (runId : RunId) (rt rt' : Runtime) : Prop :=
  rt.db.runShutdown runId = none → rt.Marked →
    rt'.db.runShutdown runId = none ∧ Acting config runId rt rt'

instance : Std.Refl (Attempting config runId) where
  refl rt haccepting _ := ⟨haccepting, Std.Refl.refl rt⟩

instance : IsTrans Runtime (Attempting config runId) where
  trans a b c hab hbc haccepting hmarked := by
    obtain ⟨haccepting', hacting⟩ := hab haccepting hmarked
    obtain ⟨haccepting'', hacting'⟩ := hbc haccepting' (hacting.marked hmarked)
    exact ⟨haccepting'', IsTrans.trans (r := Acting config runId) _ _ _ hacting hacting'⟩

/-- A transaction that does not touch the recorded stop. -/
theorem attempting_at {x : Repo α} {command : Command} {rt : Runtime}
    (hcommits : Commits x command) (hwrites : .runShutdowns ∉ command.writes)
    (haccepting : rt.db.runShutdown runId = none) (h : Issues config runId rt command) :
    ((transact x).run rt).2.db.runShutdown runId = none ∧
      Acting config runId rt ((transact x).run rt).2 := by
  refine ⟨?_, acting_transact hcommits h⟩
  obtain ⟨db, power, hrun, rfl | rfl⟩ := transact_runtime hcommits rt
  · rw [hrun]
    exact haccepting
  · rw [hrun]
    show (command.exec rt.db).runShutdown runId = none
    rw [command.exec_runShutdown hwrites, haccepting]

theorem attempting_transact {x : Repo α} {command : Command} (hcommits : Commits x command)
    (hkind : command.alone = true ∨ command.launches = true) :
    Tx.Keeps (Attempting config runId) (transact x) := by
  intro rt haccepting _
  rcases hkind with halone | hlaunches
  · exact attempting_at hcommits (Command.runShutdowns_of_alone halone) haccepting
      (.alone command halone)
  · exact attempting_at hcommits (Command.runShutdowns_of_launches hlaunches) haccepting
      (.launch command hlaunches haccepting)

/-- A transaction that the supervisor begins on its own. -/
theorem attempting_alone (command : Command) (halone : command.alone = true) :
    Tx.Keeps (Attempting config runId) (transact command.body) :=
  attempting_transact (commits_body command) (.inl halone)

/-- A transaction of a launch. -/
theorem attempting_launch (command : Command) (hlaunches : command.launches = true) :
    Tx.Keeps (Attempting config runId) (transact command.body) :=
  attempting_transact (commits_body command) (.inr hlaunches)

/-! ## Attempts -/

/-- Recording a registered launch is one transaction. -/
theorem keeps_recordRegisteredLaunch {R : Runtime → Runtime → Prop} [Std.Refl R]
    [IsTrans Runtime R] (sessionId : SessionId) (observedAt : Int)
    (h : ∀ scope providerId,
      Tx.Keeps R (transact (recordLaunchObservation scope providerId observedAt))) :
    Tx.Keeps R (recordRegisteredLaunch sessionId observedAt) :=
  .bind (.read _) fun _ => .bind (.okOr _ _) fun handle => h handle.scope handle.providerId

/-- The start of a process: the session is added to the started ones when the provider started it,
    and what the process remembers may change. -/
theorem startProvider_runtime (scope : SessionScope) (host : SpawnHost) (rt : Runtime) :
    ∃ started handles power,
      ((startProvider scope host).run rt).2 = { rt with started, handles, power } ∧
        (started = rt.started ∨ (launchJob host.job scope).started = true ∧
          started = rt.started ++ [scope.sessionId]) := by
  obtain ⟨db, handles, started, power⟩ := rt
  cases power with
  | zero => exact ⟨started, handles, 0, rfl, .inl rfl⟩
  | succ power =>
      unfold startProvider
      simp only [act, Tx.run_bind]
      cases hlaunched : (launchJob host.job scope).started with
      | false =>
          cases (launchJob host.job scope).result with
          | error error => exact ⟨started, handles, power, rfl, .inl rfl⟩
          | ok handle =>
              dsimp only
              split
              · exact ⟨started, handles, power, rfl, .inl rfl⟩
              · exact ⟨started, _, power, rfl, .inl rfl⟩
      | true =>
          cases (launchJob host.job scope).result with
          | error error => exact ⟨_, handles, power, rfl, .inr ⟨rfl, rfl⟩⟩
          | ok handle =>
              dsimp only
              split
              · exact ⟨_, handles, power, rfl, .inr ⟨rfl, rfl⟩⟩
              · exact ⟨_, _, power, rfl, .inr ⟨rfl, rfl⟩⟩

/-- The error that a start returns is the one of the provider. -/
theorem startProvider_error {scope : SessionScope} {host : SpawnHost} {failure : ProviderError}
    {rt rt' : Runtime}
    (h : (startProvider scope host).run rt = (.ok (.error (.provider failure)), rt')) :
    (launchJob host.job scope).result = .error failure := by
  obtain ⟨_, _, -, r⟩ := Tx.bind_eq_ok.mp h
  split at r
  · next error herror =>
      obtain ⟨hsame, -⟩ := Tx.pure_eq_ok.mp r
      cases hsame
      exact herror
  · split at r
    · obtain ⟨hsame, -⟩ := Tx.pure_eq_ok.mp r
      cases hsame
    · obtain ⟨_, _, -, r'⟩ := Tx.bind_eq_ok.mp r
      obtain ⟨hsame, -⟩ := Tx.pure_eq_ok.mp r'
      cases hsame

/-- The start of the process of an admitted intent is a step of the supervisor. -/
theorem acting_startProvider (scope : SessionScope) (host : SpawnHost) {rt : Runtime}
    (haccepting : rt.db.runShutdown runId = none) (hstartable : rt.Startable scope.sessionId) :
    Acting config runId rt ((startProvider scope host).run rt).2 := by
  obtain ⟨started, handles, power, hrun, rfl | ⟨-, rfl⟩⟩ := startProvider_runtime scope host rt
  · rw [hrun]
    exact .single (.remember handles power)
  · rw [hrun]
    have hstart : Acts config runId rt { rt with started := rt.started ++ [scope.sessionId] } :=
      .start scope.sessionId haccepting hstartable
    exact (Relation.ReflTransGen.single hstart).tail (.remember handles power)

/-- An admitted intent whose verifier could be rotated may be started: its mark is new, and its
    session is still desired. -/
theorem startable_of_admitted {scope : SessionScope} {attemptedAt : Int}
    {policy : SupervisionPolicy} {tokenVerifier : List UInt8} {createdAt : Int} {u : Unit}
    {rt rt₁ rt₂ : Runtime} (hmarked : rt.Marked)
    (hchecked : (transact (admitSessionLaunch scope attemptedAt policy)).run rt =
      (.ok .allowed, rt₁))
    (hrotate : (transact (replaceDesiredSessionCredential
      (scope.credential tokenVerifier createdAt))).run rt₁ = (.ok u, rt₂)) :
    rt₂.Startable scope.sessionId := by
  obtain ⟨power₁, hadmitted, hrt₁⟩ := transact_ok hchecked
  obtain ⟨power₂, hrotated, hrt₂⟩ := transact_ok hrotate
  rcases admitSessionLaunch_ok hadmitted with ⟨hrefused, -⟩ | ⟨-, hnew, row, hrow, hflight, hdb₁⟩
  · exact absurd rfl hrefused
  · have hattempts : rt₂.db.sessionLaunchAttempts = rt₁.db.sessionLaunchAttempts := by
      have hwrites : Written [.sessionCredentials] rt₁.db rt₂.db :=
        (writes_replaceDesiredSessionCredential _).of_ok hrotated
      exact hwrites.writesOnly .sessionLaunchAttempts (by decide)
    have hsessions : rt₂.db.sessions = rt₁.db.sessions := by
      have hwrites : Written [.sessionCredentials] rt₁.db rt₂.db :=
        (writes_replaceDesiredSessionCredential _).of_ok hrotated
      exact hwrites.writesOnly .sessions (by decide)
    refine ⟨?_, ?_, ?_⟩
    · -- the rotation finds the credential of a desired session
      obtain ⟨_, _, h₁, r₁⟩ := Tx.bind_eq_ok.mp hrotated
      obtain ⟨-, rfl⟩ := Tx.require_eq_ok.mp h₁
      obtain ⟨_, _, h₂, -⟩ := Tx.bind_eq_ok.mp r₁
      obtain ⟨hdesired, -⟩ := Tx.require_eq_ok.mp h₂
      obtain ⟨credential, -, hcredential⟩ := List.any_eq_true.mp hdesired
      simp only [SessionCredentialRecord.isDesiredIn, Bool.and_eq_true, beq_iff_eq,
        List.any_eq_true] at hcredential
      obtain ⟨⟨⟨⟨⟨hid, -⟩, -⟩, -⟩, -⟩, session, hsession, hsessionId, hstate⟩ := hcredential
      rw [hsessions]
      exact ⟨session, hsession, hsessionId.trans hid, hstate⟩
    · show (rt₂.db.launchAttempts scope.sessionId).any (·.inFlight) = true
      unfold Db.launchAttempts
      rw [hattempts, hdb₁]
      have hmark := launchAttempts_putLaunchAttempts rt.db row hflight scope.sessionId
      rw [hrow, decide_eq_true rfl, Bool.true_or] at hmark
      exact hmark
    · rw [hrt₂, hrt₁]
      intro hstarted
      have hold := hmarked scope.sessionId hstarted
      rw [hnew] at hold
      cases hold

theorem attempting_recordUnobservedStart (launch : AgentLaunch) (attemptedAt : Int)
    (policy : SupervisionPolicy) (error : AgentSessionError) {rt : Runtime}
    (haccepting : rt.db.runShutdown runId = none)
    (hidle : ∀ failure, error = .provider failure → failure.provesNoProcessStarted = true →
      launch.scope.sessionId ∉ rt.started) :
    let rt' := ((recordUnobservedStart launch attemptedAt policy error).run rt).2
    rt'.db.runShutdown runId = none ∧ Acting config runId rt rt' := by
  have hunknown : ∀ at', rt.db.runShutdown runId = none →
      let rt' := ((transact
        (recordReconciliationIn launch.scope .unknown .unknown at')).run rt).2
      rt'.db.runShutdown runId = none ∧ Acting config runId rt rt' := by
    intro at' haccepting
    let command : Command := .recordReconciliation launch.scope .unknown .unknown at'
    exact attempting_at (commits_body command) (Command.runShutdowns_of_alone rfl) haccepting
      (.alone command rfl)
  unfold recordUnobservedStart
  split
  · exact hunknown _ haccepting
  · next failure =>
      split
      · next hproves =>
          let command : Command := .recordFailedLaunch launch.scope attemptedAt policy
          exact attempting_at (commits_body command)
            (by dsimp only [command, Command.writes]; decide) haccepting
            (.recordFailedLaunch _ _ _ haccepting (hidle failure rfl hproves))
      · exact hunknown _ haccepting
  · exact hunknown _ haccepting

theorem attempting_startAndRecord (launch : AgentLaunch) (attemptedAt : Int)
    (policy : SupervisionPolicy) (host : SpawnHost) :
    Tx.Keeps (Attempting config runId) (startAndRecord launch attemptedAt policy host) := by
  intro rt haccepting hmarked
  have hadmission : Commits (admitSessionLaunch launch.scope attemptedAt policy)
      (.admitSessionLaunch launch.scope attemptedAt policy) := commits_of_discard rfl
  refine Tx.Keeps.bind_at (R := Attempting config runId)
    (attempting_transact hadmission (.inr rfl) rt) (fun admission rt₁ hchecked => ?_) haccepting
    hmarked
  refine Tx.Keeps.bind_at (Std.Refl.refl rt₁) fun _ rt₁' hcheck => ?_
  obtain ⟨hallowed, rfl⟩ := Tx.ofExcept_eq_ok.mp hcheck
  have hadmission : admission = .allowed := by
    cases admission with
    | allowed => rfl
    | _ => cases hallowed
  subst hadmission
  refine Tx.Keeps.bind_at (attempting_launch (.replaceDesiredSessionCredential _) rfl rt₁)
    fun _ rt₂ hrotate => ?_
  have hstartable : rt₂.Startable launch.scope.sessionId :=
    startable_of_admitted hmarked hchecked hrotate
  obtain ⟨started, handles, power, hrun, hstarted⟩ := startProvider_runtime launch.scope host rt₂
  refine Tx.Keeps.bind_at ?_ fun outcome rt₃ hstart => ?_
  · intro haccepting₂ _
    refine ⟨?_, acting_startProvider _ _ haccepting₂ hstartable⟩
    rw [hrun]
    exact haccepting₂
  · cases outcome with
    | ok u => exact keeps_recordRegisteredLaunch _ _ (fun scope providerId => attempting_launch (.recordLaunchObservation scope providerId _) rfl) rt₃
    | error error =>
        refine Tx.Keeps.bind_at ?_ fun _ rt₄ _ => Std.Refl.refl rt₄
        intro haccepting₃ _
        refine attempting_recordUnobservedStart launch attemptedAt policy error haccepting₃ ?_
        rintro failure rfl hproves
        -- the provider started nothing
        have hnone := launchJob_provesNoProcessStarted (startProvider_error hstart) hproves
        rw [hstart] at hrun
        have hrt₃ : rt₃ = { rt₂ with started, handles, power } := hrun
        rw [hrt₃]
        rcases hstarted with rfl | ⟨hsome, -⟩
        · exact hstartable.idle
        · rw [hnone] at hsome
          cases hsome

/-- An attempt does not touch the recorded stop. -/
theorem runShutdowns_startAndRecord (launch : AgentLaunch) (attemptedAt : Int)
    (policy : SupervisionPolicy) (host : SpawnHost) :
    Tx.Keeps (fun rt rt' => rt'.db.runShutdowns = rt.db.runShutdowns)
      (startAndRecord launch attemptedAt policy host) := by
  let R : Db → Db → Prop := fun db db' => db'.runShutdowns = db.runShutdowns
  have hrefl : Std.Refl R := ⟨fun _ => rfl⟩
  have htrans : IsTrans Db R := ⟨fun _ _ _ hab hbc => hbc.trans hab⟩
  have hcommand : ∀ {β : Type} {x : Repo β} {command : Command}, Commits x command →
      .runShutdowns ∉ command.writes → Tx.Keeps (onDb R) (transact x) := by
    intro β x command hcommits hwrites rt
    obtain ⟨db, power, hrun, rfl | rfl⟩ := transact_runtime hcommits rt
    · rw [hrun]
      exact rfl
    · rw [hrun]
      exact command.exec_writesOnly rt.db .runShutdowns hwrites
  have hunknown : ∀ at', Tx.Keeps (onDb R)
      (transact (recordReconciliationIn launch.scope .unknown .unknown at')) :=
    fun at' => hcommand (commits_body (.recordReconciliation launch.scope .unknown .unknown at'))
      (Command.runShutdowns_of_alone rfl)
  have hunobserved : ∀ error, Tx.Keeps (onDb R)
      (recordUnobservedStart launch attemptedAt policy error) := by
    intro error
    unfold recordUnobservedStart
    split
    · exact hunknown _
    · exact .ite (hcommand (commits_body (.recordFailedLaunch launch.scope attemptedAt policy))
        (by dsimp only [Command.writes]; decide)) (hunknown _)
    · exact hunknown _
  have hstart : Tx.Keeps (onDb R) (startProvider launch.scope host) := by
    intro rt
    obtain ⟨started, handles, power, hrun, -⟩ := startProvider_runtime launch.scope host rt
    rw [hrun]
    exact rfl
  have hkeeps : Tx.Keeps (onDb R) (startAndRecord launch attemptedAt policy host) := by
    have hchecked : Commits (admitSessionLaunch launch.scope attemptedAt policy)
        (.admitSessionLaunch launch.scope attemptedAt policy) := commits_of_discard rfl
    refine .bind (hcommand hchecked (by dsimp only [Command.writes]; decide)) fun admission =>
      .bind (.ofExcept _) fun _ => ?_
    refine .bind (hcommand (commits_body (.replaceDesiredSessionCredential _))
      (by dsimp only [Command.writes]; decide)) fun _ => .bind hstart fun outcome => ?_
    cases outcome with
    | error error => exact .bind (hunobserved _) fun _ => .throw _
    | ok u =>
        exact keeps_recordRegisteredLaunch _ _ fun scope providerId =>
          hcommand (commits_body (.recordLaunchObservation scope providerId _))
            (by dsimp only [Command.writes]; decide)
  exact hkeeps

/-! ## What programs are made of -/

/-- A transaction that admits no launch, an attempt to start the process of an intent, or a change
    of what the process remembers. -/
inductive Performs (config : EffectiveConfig) (runId : RunId) (rt : Runtime) : Runtime → Prop where
  | commit (command : Command) (hissues : Issues config runId rt command)
      (hmarks : .sessionLaunchAttempts ∉ command.writes) :
      Performs config runId rt { rt with db := command.exec rt.db }
  | attempt (launch : AgentLaunch) (attemptedAt : Int) (policy : SupervisionPolicy)
      (host : SpawnHost) (haccepting : rt.db.runShutdown runId = none) :
      Performs config runId rt ((startAndRecord launch attemptedAt policy host).run rt).2
  | remember (handles : List ProviderSessionHandle) (power : Nat) :
      Performs config runId rt { rt with handles, power }

/-- The supervisor after parts of programs. -/
def Performing (config : EffectiveConfig) (runId : RunId) : Runtime → Runtime → Prop :=
  Relation.ReflTransGen (Performs config runId)

instance : Std.Refl (Performing config runId) where
  refl _ := .refl

instance : IsTrans Runtime (Performing config runId) where
  trans _ _ _ hab hbc := Relation.ReflTransGen.trans hab hbc

theorem Performs.acting {rt rt' : Runtime} (h : Performs config runId rt rt')
    (hmarked : rt.Marked) : Acting config runId rt rt' := by
  cases h with
  | commit command hissues => exact .single (.commit command hissues)
  | attempt launch attemptedAt policy host haccepting =>
      exact (attempting_startAndRecord launch attemptedAt policy host rt haccepting hmarked).2
  | remember handles power => exact .single (.remember handles power)

theorem Performing.acting {rt rt' : Runtime} (h : Performing config runId rt rt')
    (hmarked : rt.Marked) : Acting config runId rt rt' := by
  induction h with
  | refl => exact Std.Refl.refl rt
  | tail _ hlast ih => exact ih.trans (hlast.acting (ih.marked hmarked))

theorem Performing.marked {rt rt' : Runtime} (h : Performing config runId rt rt')
    (hmarked : rt.Marked) : rt'.Marked :=
  (h.acting hmarked).marked hmarked

/-- The step of a program that commits a transaction of the supervisor. -/
theorem performing_transact {x : Repo α} {command : Command} {rt : Runtime}
    (hcommits : Commits x command) (h : Issues config runId rt command)
    (hmarks : .sessionLaunchAttempts ∉ command.writes) :
    Performing config runId rt ((transact x).run rt).2 := by
  obtain ⟨db, power, hrun, rfl | rfl⟩ := transact_runtime hcommits rt
  · rw [hrun]
    exact .single (.remember rt.handles power)
  · rw [hrun]
    have hcommit : Performs config runId rt { rt with db := command.exec rt.db } :=
      .commit command h hmarks
    exact (Relation.ReflTransGen.single hcommit).tail (.remember rt.handles power)

/-- While the run is not stopping, the program is made of parts that the supervisor performs, and
    the run stays so. -/
def Launching (config : EffectiveConfig) (runId : RunId) (rt rt' : Runtime) : Prop :=
  rt.db.runShutdown runId = none →
    rt'.db.runShutdown runId = none ∧ Performing config runId rt rt'

instance : Std.Refl (Launching config runId) where
  refl rt haccepting := ⟨haccepting, Std.Refl.refl rt⟩

instance : IsTrans Runtime (Launching config runId) where
  trans a b c hab hbc haccepting := by
    obtain ⟨haccepting', hperforming⟩ := hab haccepting
    obtain ⟨haccepting'', hperforming'⟩ := hbc haccepting'
    exact ⟨haccepting'', IsTrans.trans (r := Performing config runId) _ _ _ hperforming
      hperforming'⟩

/-- A transaction that touches neither the recorded stop nor the marks. -/
theorem launching_at {x : Repo α} {command : Command} {rt : Runtime}
    (hcommits : Commits x command) (hwrites : .runShutdowns ∉ command.writes)
    (hmarks : .sessionLaunchAttempts ∉ command.writes)
    (haccepting : rt.db.runShutdown runId = none) (h : Issues config runId rt command) :
    ((transact x).run rt).2.db.runShutdown runId = none ∧
      Performing config runId rt ((transact x).run rt).2 := by
  refine ⟨?_, performing_transact hcommits h hmarks⟩
  obtain ⟨db, power, hrun, rfl | rfl⟩ := transact_runtime hcommits rt
  · rw [hrun]
    exact haccepting
  · rw [hrun]
    show (command.exec rt.db).runShutdown runId = none
    rw [command.exec_runShutdown hwrites, haccepting]

/-- A transaction that the supervisor begins on its own. -/
theorem launching_alone (command : Command) (halone : command.alone = true) :
    Tx.Keeps (Launching config runId) (transact command.body) :=
  fun _ haccepting => launching_at (commits_body command) (Command.runShutdowns_of_alone halone)
    (Command.launchAttempts_of_alone halone) haccepting (.alone command halone)

/-- A transaction of a launch. -/
theorem launching_launch {x : Repo α} (command : Command) (hcommits : Commits x command)
    (hlaunches : command.launches = true) (hmarks : .sessionLaunchAttempts ∉ command.writes) :
    Tx.Keeps (Launching config runId) (transact x) :=
  fun _ haccepting => launching_at hcommits (Command.runShutdowns_of_launches hlaunches) hmarks
    haccepting (.launch command hlaunches haccepting)

/-- An attempt to start the process of an intent. -/
theorem launching_startAndRecord (launch : AgentLaunch) (attemptedAt : Int)
    (policy : SupervisionPolicy) (host : SpawnHost) :
    Tx.Keeps (Launching config runId) (startAndRecord launch attemptedAt policy host) := by
  intro rt haccepting
  refine ⟨?_, .single (.attempt launch attemptedAt policy host haccepting)⟩
  unfold Db.runShutdown
  rw [runShutdowns_startAndRecord launch attemptedAt policy host rt]
  exact haccepting

theorem launching_query (x : Request α) : Tx.Keeps (Launching config runId) (query x) :=
  fun rt => Std.Refl.refl rt

/-! ## Launching -/

theorem launching_recordRegisteredLaunch (sessionId : SessionId) (observedAt : Int) :
    Tx.Keeps (Launching config runId) (recordRegisteredLaunch sessionId observedAt) :=
  keeps_recordRegisteredLaunch _ _ fun scope providerId =>
    launching_launch (.recordLaunchObservation scope providerId observedAt)
      (fun _ => rfl) rfl
      (by dsimp only [Command.writes]; decide)


theorem launching_launchSession (launch : AgentLaunch) (assignmentId : AssignmentId)
    (policy : SupervisionPolicy) (host : SpawnHost) :
    Tx.Keeps (Launching config runId) (launchSession launch assignmentId policy host) :=
  .bind (.ofExcept _) fun _ => .bind (.ofExcept _) fun _ =>
    .bind (launching_launch (.persistLaunchIntent _ true (some assignmentId)) (fun _ => rfl) rfl
      (by dsimp only [Command.writes]; decide)) fun _ => launching_startAndRecord _ _ _ _

theorem launching_ensureExistingLaunch (launch : AgentLaunch) (assignmentId : AssignmentId)
    (attemptedAt : Int) (policy : SupervisionPolicy) (host : SpawnHost) :
    Tx.Keeps (Launching config runId)
      (ensureExistingLaunch launch assignmentId attemptedAt policy host) := by
  refine .bind (.read _) fun found => ?_
  cases found with
  | none => exact launching_launchSession _ _ _ _
  | some session =>
      refine .bind (.ofExcept _) fun provider => .bind (.require _ _) fun _ => ?_
      split
      · exact .ite (.throw _) (.pure _)
      · refine .bind (.ofExcept _) fun _ => .bind (.read _) fun handle => ?_
        cases handle with
        | some handle => exact launching_recordRegisteredLaunch _ _
        | none => exact launching_startAndRecord _ _ _ _
      · exact .throw _
      · exact .throw _

theorem launching_drainAvailableEvents (sessionId : SessionId) (observedAt : Int)
    (policy : SupervisionPolicy) (drained : Except AgentSessionError Unit)
    (events : List SessionObservation) :
    Tx.Keeps (Launching config runId)
      (drainAvailableEvents sessionId observedAt policy drained events) := by
  induction events with
  | nil =>
      exact .bind (.read _) fun _ => .bind (.okOr _ _) fun _ => .bind (.read _) fun _ =>
        .ite (.ofExcept _) (.pure _)
  | cons observation rest ih =>
      refine .bind (.read _) fun _ => .bind (.okOr _ _) fun handle => .bind (.read _) fun _ => ?_
      refine .ite (.bind ?_ fun _ => ih) (.pure _)
      exact launching_alone (.recordObservation handle.scope observation observedAt policy) rfl

theorem launching_recordWorkspaceState (workspace : WorkspaceRecord)
    (state : ExternalResourceState) (reconciledAt : Int) :
    Tx.Keeps (Launching config runId)
      (transact (recordWorkspaceState workspace state reconciledAt)) :=
  launching_alone (.recordWorkspaceState workspace state reconciledAt) rfl

theorem launching_materialize (scope : AssignmentScope)
    (answer : Except String ExternalResourceState) (reconciledAt : Int) :
    Tx.Keeps (Launching config runId) (materialize scope answer reconciledAt) := by
  refine .bind (launching_query _) fun ⟨workspace, _⟩ => ?_
  cases answer with
  | error message => exact .bind (launching_recordWorkspaceState _ _ _) fun _ => .throw _
  | ok state => exact .bind (launching_recordWorkspaceState _ _ _) fun _ => .pure _

theorem launching_completeSpawn (operationId : OperationId) (reconciledAt : Int) :
    Tx.Keeps (Launching config runId)
      (transact (discard
        (recordOperationReconciliation operationId .observed none reconciledAt))) :=
  launching_launch (.completeSpawn operationId reconciledAt) (fun _ => rfl) rfl
    (by dsimp only [Command.writes]; decide)

theorem launching_launchSpawn (completion : SpawnCompletion) (workspace : WorkspaceRecord)
    (host : SpawnHost) :
    Tx.Keeps (Launching config runId) (launchSpawn config runId completion workspace host) :=
  .bind (.require _ _) fun _ => .bind (launching_materialize _ _ _) fun _ =>
    .bind (.require _ _) fun _ => .bind (launching_ensureExistingLaunch _ _ _ _ _) fun _ =>
      .bind (launching_drainAvailableEvents _ _ _ _ _) fun _ => launching_completeSpawn _ _

theorem launching_completeSpawnOperation (completion : SpawnCompletion) (host : SpawnHost) :
    Tx.Keeps (Launching config runId) (completeSpawnOperation config runId completion host) :=
  .bind (.read _) fun _ => .bind (.okOr _ _) fun _ => .bind (.require _ _) fun _ =>
    .bind (.read _) fun _ => .ite (.pure _) (launching_launchSpawn _ _ _)

theorem launching_attemptSpawnOperation (completion : SpawnCompletion) (host : SpawnHost) :
    Tx.Keeps (Launching config runId) (attemptSpawnOperation config runId completion host) := by
  refine .bind (.require _ _) fun _ =>
    .tryCatch (launching_completeSpawnOperation _ _) fun failure => ?_
  exact .bind (launching_launch (.recordSpawnFailure _ _ _ _ _ _ _) (fun _ => rfl) rfl
    (by dsimp only [Command.writes]; decide)) fun _ => .throw _

/-! ## Requests -/

/-- A program that the supervisor runs while the run is not stopping. -/
theorem supervised_of_launching {x : Program α} (h : Tx.Keeps (Launching config runId) x)
    {rt : Runtime} (haccepting : rt.db.runShutdown runId = none) :
    Performing config runId rt (x.run rt).2 :=
  (h rt haccepting).2

/-- After a transaction that leaves the recorded stop alone, a run that is not stopping launches
    on. -/
theorem supervised_transact_launching {x : Repo α} {command : Command} {f : α → Program β}
    {rt : Runtime} (hcommits : Commits x command) (h : Issues config runId rt command)
    (hwrites : .runShutdowns ∉ command.writes)
    (hmarks : .sessionLaunchAttempts ∉ command.writes)
    (haccepting : rt.db.runShutdown runId = none)
    (hf : ∀ a, Tx.Keeps (Launching config runId) (f a)) :
    Performing config runId rt ((transact x >>= f).run rt).2 := by
  refine Tx.Keeps.bind_at (R := Performing config runId) (performing_transact hcommits h hmarks)
    fun a rt' hrun => supervised_of_launching (hf a) ?_
  have haccepting' := (launching_at hcommits hwrites hmarks haccepting h).1
  rw [hrun] at haccepting'
  exact haccepting'

theorem supervised_requestSpawn (call : SpawnCall) (host : SpawnHost) :
    Tx.Keeps (Performing config runId) (requestSpawn config runId call host) := by
  refine fun rt => Tx.Keeps.bind_at (Std.Refl.refl rt) fun spawn rt' hquery => ?_
  obtain ⟨hchecked, rfl⟩ := query_ok hquery
  have hadmitted : SpawnAdmitted config runId call.operationId call.checkedAt spawn rt'.db :=
    admitSpawn_ok (Prod.ext hchecked rfl)
  refine supervised_transact_launching (commits_of_mutated rfl) (.spawnAgent call spawn hadmitted)
    (by dsimp only [Command.writes]; decide) (by dsimp only [Command.writes]; decide)
    hadmitted.accepting fun recorded => ?_
  exact .bind (.okOr _ _) fun intent => launching_attemptSpawnOperation _ _

theorem launching_replayForeground (ctx : RequestContext) (tokenVerifier : List UInt8)
    (intent : LaunchIntent) :
    Tx.Keeps (Launching config runId) (replayForeground ctx tokenVerifier intent) := by
  have hreclaim : Commits
      (reclaimForegroundLaunch ctx (intent.scope ctx.runId) tokenVerifier)
      (.reclaimForegroundLaunch ctx (intent.scope ctx.runId) tokenVerifier) :=
    commits_of_discard rfl
  exact .bind (launching_launch (.reclaimForegroundLaunch ctx (intent.scope ctx.runId) tokenVerifier)
    hreclaim rfl (by dsimp only [Command.writes]; decide)) fun _ => .require _ _

theorem supervised_requestForeground (call : ForegroundCall) :
    Tx.Keeps (Performing config runId) (requestForeground config runId call) := by
  refine fun rt => Tx.Keeps.bind_at (Std.Refl.refl rt) fun launch rt' hquery => ?_
  obtain ⟨hchecked, rfl⟩ := query_ok hquery
  have hadmitted : ForegroundAdmitted config runId call.operationId launch rt'.db :=
    admitForeground_ok (Prod.ext hchecked rfl)
  have hcommits : Commits
      (mutationBody .json ((call.ctx runId).mutation "agent.launch_foreground" launch.request)
        none (launchForeground (call.ctx runId) launch))
      (.launchForeground (call.ctx runId) launch) := commits_of_discard rfl
  refine supervised_transact_launching hcommits (.launchForeground call launch hadmitted)
    (by dsimp only [Command.writes]; decide) (by dsimp only [Command.writes]; decide)
    hadmitted.accepting fun outcome => ?_
  cases outcome with
  | applied recorded => exact .bind (.okOr _ _) fun _ => .require _ _
  | replayed recorded =>
      exact .bind (.okOr _ _) fun _ => .bind (launching_replayForeground _ _ _) fun _ =>
        .require _ _

/-! ## Reconciliation -/

theorem supervised_alone (command : Command) (halone : command.alone = true) :
    Tx.Keeps (Performing config runId) (transact command.body) :=
  fun _ => performing_transact (commits_body command) (.alone command halone)
    (Command.launchAttempts_of_alone halone)

theorem launching_reconcileAs (operation : OperationRow) (state : ExternalResourceState)
    (error : Option String) (reconciledAt : Int) :
    Tx.Keeps (Launching config runId) (reconcileAs operation state error reconciledAt) :=
  launching_alone (.recordOperationState operation.id state error reconciledAt) rfl

theorem supervised_reconcileAs (operation : OperationRow) (state : ExternalResourceState)
    (error : Option String) (reconciledAt : Int) :
    Tx.Keeps (Performing config runId) (reconcileAs operation state error reconciledAt) :=
  supervised_alone (.recordOperationState operation.id state error reconciledAt) rfl

/-- Reconciling a foreground launch records states of operations only. -/
theorem keeps_reconcileForegroundOperation {R : Runtime → Runtime → Prop} [Std.Refl R]
    [IsTrans Runtime R] (operation : OperationRow) (reconciledAt : Int)
    (h : ∀ state error, Tx.Keeps R (reconcileAs operation state error reconciledAt)) :
    Tx.Keeps R (reconcileForegroundOperation operation reconciledAt) := by
  unfold reconcileForegroundOperation
  split
  · exact h _ _
  · exact .bind (.read _) fun _ => .ite (.pure _) (h _ _)

theorem launching_retrySpawn (operation : OperationRow) (intent : SpawnIntent)
    (host : SpawnHost) (reconciledAt : Int) :
    Tx.Keeps (Launching config runId)
      (retrySpawn config runId operation intent host reconciledAt) := by
  unfold retrySpawn
  split
  · exact launching_reconcileAs _ _ _ _
  · split
    · exact launching_reconcileAs _ _ _ _
    · exact launching_reconcileAs _ _ _ _
    · exact .tryCatch (launching_attemptSpawnOperation _ _) fun _ => .pure _

theorem launching_reconcileSpawnOperation (operation : OperationRow) (host : SpawnHost)
    (reconciledAt : Int) :
    Tx.Keeps (Launching config runId)
      (reconcileSpawnOperation config runId operation host reconciledAt) := by
  unfold reconcileSpawnOperation
  split
  · exact launching_reconcileAs _ _ _ _
  · refine .bind (.read _) fun found => ?_
    cases found with
    | none => exact .bind (.read _) fun _ => .ite (.pure _) (launching_retrySpawn _ _ _ _)
    | some session =>
        refine .ite (launching_reconcileAs _ _ _ _) (.ite (.ite (.pure _) ?_) ?_)
        · exact launching_reconcileAs _ _ _ _
        · exact launching_retrySpawn _ _ _ _

theorem launching_reconcileOperation (hosts : OperationId → SpawnHost) (reconciledAt : Int)
    (operation : OperationRow) :
    Tx.Keeps (Launching config runId)
      (reconcileOperation config runId false hosts reconciledAt operation) := by
  refine .ite (.pure _) (.ite (.pure _) (.ite ?_ (.ite ?_ ?_)))
  · exact keeps_reconcileForegroundOperation _ _ fun _ _ => launching_reconcileAs _ _ _ _
  · exact launching_reconcileSpawnOperation _ _ _
  · exact launching_reconcileAs _ _ _ _

/-- A stopping run passes over its spawns. -/
theorem supervised_reconcileOperation (hosts : OperationId → SpawnHost) (reconciledAt : Int)
    (operation : OperationRow) :
    Tx.Keeps (Performing config runId)
      (reconcileOperation config runId true hosts reconciledAt operation) := by
  unfold reconcileOperation
  by_cases hspawn : operation.kind = "agent.spawn"
  · rw [if_pos ⟨rfl, hspawn⟩]
    exact .pure _
  · rw [if_neg fun h => hspawn h.2, if_neg hspawn]
    refine .ite (.pure _) (.ite ?_ (supervised_reconcileAs _ _ _ _))
    exact keeps_reconcileForegroundOperation _ _ fun _ _ => supervised_reconcileAs _ _ _ _

theorem supervised_reconcileOperations (hosts : OperationId → SpawnHost) (reconciledAt : Int) :
    Tx.Keeps (Performing config runId)
      (reconcileOperations config runId hosts reconciledAt) := by
  refine .bind (.read _) fun operations => .read_bind fun rt => ?_
  dsimp only
  cases hstopping : rt.db.isStopping runId with
  | true => exact Tx.Keeps.each (supervised_reconcileOperation hosts reconciledAt) operations rt
  | false =>
      have haccepting : rt.db.runShutdown runId = none := by
        simpa [Db.isStopping] using hstopping
      exact supervised_of_launching
        (Tx.Keeps.each (launching_reconcileOperation hosts reconciledAt) operations) haccepting

/-! ## Stopping and recovering -/

theorem supervised_recordStop (operationId : OperationId) (nowMs : Int) :
    Tx.Keeps (Performing config runId)
      (transact (recordStop config runId operationId nowMs)) :=
  fun _ => performing_transact (commits_body (.beginRunShutdown runId operationId nowMs _ _))
    (.beginRunShutdown operationId nowMs) (by dsimp only [Command.writes]; decide)

theorem supervised_requestStop (operationId : OperationId) (nowMs : Int) :
    Tx.Keeps (Performing config runId) (requestStop config runId operationId nowMs) := by
  refine .bind (.read _) fun recovered => .bind (.ofExcept _) fun result => ?_
  cases result with
  | some response => exact .pure _
  | none =>
      exact .bind (supervised_recordStop _ _) fun _ => .bind (.read _) fun _ =>
        .ite (.pure _) (.pure _)

theorem supervised_recordIdleStop (operationId : OperationId) (nowMs : Int) :
    Tx.Keeps (Performing config runId)
      (transact (recordIdleStop config runId operationId nowMs)) :=
  fun _ => performing_transact (commits_body (.stopIdleRun runId operationId nowMs _ _ _))
    (.stopIdleRun operationId nowMs) (by dsimp only [Command.writes]; decide)

/-- While the run winds down, the program takes steps of the supervisor and the run goes on winding
    down. -/
def WindingOn (config : EffectiveConfig) (runId : RunId) (operationId : OperationId)
    (rt rt' : Runtime) : Prop :=
  Winding runId operationId rt.db →
    Winding runId operationId rt'.db ∧ Performing config runId rt rt'

instance {operationId : OperationId} : Std.Refl (WindingOn config runId operationId) where
  refl rt hwinding := ⟨hwinding, Std.Refl.refl rt⟩

instance {operationId : OperationId} : IsTrans Runtime (WindingOn config runId operationId) where
  trans a b c hab hbc hwinding := by
    obtain ⟨hwinding', hperforming⟩ := hab hwinding
    obtain ⟨hwinding'', hperforming'⟩ := hbc hwinding'
    exact ⟨hwinding'', IsTrans.trans (r := Performing config runId) _ _ _ hperforming
      hperforming'⟩

/-- A command that touches neither the stop nor the sessions leaves the run winding down. -/
theorem Winding.exec {operationId : OperationId} {db : Db} (h : Winding runId operationId db)
    {command : Command} (hshutdowns : .runShutdowns ∉ command.writes)
    (hsessions : .sessions ∉ command.writes) :
    Winding runId operationId (command.exec db) := by
  have htable : (command.exec db).sessions = db.sessions :=
    command.exec_writesOnly db .sessions hsessions
  refine ⟨?_, ?_⟩
  · rw [command.exec_runShutdown hshutdowns]
    exact h.shutdown
  · have hsettled := h.settled
    unfold Db.liveSessions Db.sessionsOf at hsettled ⊢
    rw [htable]
    exact hsettled

theorem windingOn_recordWorkspaceState (operationId : OperationId) (workspace : WorkspaceRecord)
    (state : ExternalResourceState) (reconciledAt : Int) :
    Tx.Keeps (WindingOn config runId operationId)
      (transact (recordWorkspaceState workspace state reconciledAt)) := by
  intro rt hwinding
  let command : Command := .recordWorkspaceState workspace state reconciledAt
  refine ⟨?_, performing_transact (commits_body command) (.alone command rfl)
    (Command.launchAttempts_of_alone rfl)⟩
  obtain ⟨db, power, hrun, rfl | rfl⟩ := transact_runtime (commits_body command) rt
  · show Winding runId operationId ((transact command.body).run rt).2.db
    rw [hrun]
    exact hwinding
  · show Winding runId operationId ((transact command.body).run rt).2.db
    rw [hrun]
    exact hwinding.exec (by dsimp only [command, Command.writes]; decide)
      (by dsimp only [command, Command.writes]; decide)

theorem windingOn_reconcileForShutdown (operationId : OperationId)
    (observe : WorkspaceRecord → ExternalResourceState) (reconciledAt : Int) :
    Tx.Keeps (WindingOn config runId operationId)
      (reconcileForShutdown runId observe reconciledAt) := by
  refine .bind (.read _) fun workspaces => .each (fun workspace => ?_) workspaces
  refine .bind (.read _) fun outcome => ?_
  split
  · exact .pure _
  · exact .throw _
  · exact windingOn_recordWorkspaceState _ _ _ _

theorem performing_completeStop (operationId : OperationId) (stoppedAt : Int) {rt : Runtime}
    (hwinding : Winding runId operationId rt.db) :
    Performing config runId rt ((completeStop runId operationId stoppedAt).run rt).2 := by
  obtain ⟨shutdown, hshutdown, hoperation, hphase⟩ := hwinding.shutdown
  refine Tx.Keeps.bind_at (Std.Refl.refl rt) fun found rt' hread => ?_
  obtain ⟨rfl, rfl⟩ := Tx.read_eq_ok.mp hread
  dsimp only
  rw [hshutdown]
  dsimp only
  rw [if_neg (not_not.mpr hoperation), if_neg hphase]
  have hpersist : Performing config runId rt
      ((transact (persistShutdown runId operationId stoppedAt)).run rt).2 :=
    performing_transact (commits_body (.persistShutdown runId operationId stoppedAt))
      (.persistShutdown operationId stoppedAt hwinding) (by dsimp only [Command.writes]; decide)
  exact Tx.Keeps.bind_at hpersist fun _ rt' _ => Std.Refl.refl rt'

/-- The recorded stop after a change of its phase. -/
theorem setShutdownPhase_ok {phase : ShutdownPhase} {nowMs : Int} {u : Unit} {db db' : Db}
    (h : (setShutdownPhase runId phase nowMs).run db = (.ok u, db')) :
    Written [.runShutdowns, .events] db db' ∧
      db'.runShutdown runId = (db.runShutdown runId).map fun shutdown =>
        if shutdown.phase = .completed then shutdown else { shutdown with phase := phase } := by
  refine ⟨(writes_setShutdownPhase _ _ _).of_ok h, ?_⟩
  obtain ⟨found, _, h₁, r₁⟩ := Tx.bind_eq_ok.mp h
  obtain ⟨hfound, rfl⟩ := Tx.read_eq_ok.mp h₁
  cases found with
  | none =>
      obtain ⟨-, rfl⟩ := Tx.pure_eq_ok.mp r₁
      rw [hfound]
      rfl
  | some shutdown =>
      dsimp only at r₁
      rw [hfound, Option.map_some]
      split at r₁
      · next hsame =>
          obtain ⟨-, rfl⟩ := Tx.pure_eq_ok.mp r₁
          rw [hfound]
          rcases hsame with rfl | hcompleted
          · split <;> rfl
          · rw [if_pos hcompleted]
      · next hmoves =>
          obtain ⟨_, _, h₂, r₂⟩ := Tx.bind_eq_ok.mp r₁
          obtain rfl := Tx.write_eq_ok.mp h₂
          obtain ⟨-, rfl⟩ := appendEvent_ok r₂
          have hid : shutdown.runId = runId := by simpa using List.find?_some hfound
          rw [if_neg fun hcompleted => hmoves (.inr hcompleted)]
          show Db.runShutdown _ runId = _
          unfold Db.runShutdown at hfound ⊢
          unfold Db.pushEvent
          dsimp only
          rw [Table.find?_updateWhere, hfound, Option.map_some, if_pos (by simp [hid])]
          intro _ _
          rfl

/-- A poll moves a recorded stop to the phase of its deadlines, or to a later one. -/
theorem movesForward_max {shutdown : RunShutdown} (nowMs : Int) {db : Db}
    (hshutdown : db.runShutdown runId = some shutdown) (hphase : shutdown.phase ≠ .completed) :
    MovesForward runId ((shutdown.phaseAt nowMs).max shutdown.phase) db := by
  have hat : shutdown.phaseAt nowMs ≠ .completed := by
    unfold RunShutdown.phaseAt
    split
    · nofun
    · split <;> nofun
  refine ⟨?_, fun other hother => ?_⟩
  · unfold ShutdownPhase.max
    split <;> assumption
  · rw [hshutdown] at hother
    cases hother
    exact .inr (ShutdownPhase.rank_le_max _ _)

theorem supervised_advanceShutdown (shutdown : RunShutdown) (host : ShutdownHost) {rt : Runtime}
    (hshutdown : rt.db.runShutdown runId = some shutdown) (hphase : shutdown.phase ≠ .completed) :
    Performing config runId rt ((advanceShutdown runId shutdown host).run rt).2 := by
  have hset : ∀ phase, MovesForward runId phase rt.db →
      Performing config runId rt ((transact (setShutdownPhase runId phase host.nowMs)).run rt).2 :=
    fun phase hforward => performing_transact
      (commits_body (.setShutdownPhase runId phase host.nowMs)) (.setShutdownPhase _ _ hforward)
      (by dsimp only [Command.writes]; decide)
  refine Tx.Keeps.bind_at (Std.Refl.refl rt) fun live rt' hread => ?_
  obtain ⟨rfl, rfl⟩ := Tx.read_eq_ok.mp hread
  split
  · next hlive =>
      refine Tx.Keeps.bind_at (hset .reconciling ⟨nofun, fun _ _ => .inl (Nat.le_refl _)⟩)
        fun _ rt₁ hreconciling => ?_
      -- from here on every session is terminal and the stop is not completed
      have hwinding : Winding runId shutdown.operationId rt₁.db := by
        obtain ⟨power, hcommitted, -⟩ := transact_ok hreconciling
        obtain ⟨hwritten, hafter⟩ := setShutdownPhase_ok hcommitted
        rw [hshutdown, Option.map_some, if_neg hphase] at hafter
        refine ⟨⟨_, hafter, rfl, nofun⟩, ?_⟩
        unfold Db.liveSessions Db.sessionsOf at hlive ⊢
        rw [hwritten.writesOnly .sessions (by decide)]
        exact hlive
      have hreconcile : WindingOn config runId shutdown.operationId rt₁
          ((reconcileForShutdown runId host.observe (host.nowMs.tdiv 1000)).run rt₁).2 :=
        windingOn_reconcileForShutdown _ _ _ rt₁
      obtain ⟨hwinding', hperforming⟩ := hreconcile hwinding
      refine Tx.Keeps.bind_at hperforming fun _ rt₂ hreconciled => ?_
      rw [hreconciled] at hwinding'
      refine Tx.Keeps.bind_at (performing_completeStop _ _ hwinding') fun _ rt₃ _ => ?_
      exact Std.Refl.refl rt₃
  · refine Tx.Keeps.bind_at (hset _ (movesForward_max host.nowMs hshutdown hphase))
      fun _ rt₁ _ => ?_
    exact Tx.Keeps.ite (.throw _) (.pure _) rt₁

theorem supervised_progressShutdown (host : ShutdownHost) :
    Tx.Keeps (Performing config runId) (progressShutdown runId host) := by
  refine .read_bind fun rt => ?_
  dsimp only
  cases hshutdown : rt.db.runShutdown runId with
  | none => exact Std.Refl.refl rt
  | some shutdown =>
      dsimp only
      split
      · exact Std.Refl.refl rt
      · next hphase => exact supervised_advanceShutdown shutdown host hshutdown hphase

theorem supervised_requestRecovery (call : RecoveryCall) :
    Tx.Keeps (Performing config runId) (requestRecovery runId call) := by
  have hcommits : Commits (recordRecovery runId call)
      (.recoverRun (call.ctx runId) call.requestFingerprint call.reason) :=
    commits_of_mutated rfl
  have hrecord : Tx.Keeps (Performing config runId) (transact (recordRecovery runId call)) :=
    fun _ => performing_transact hcommits (.recoverRun call)
      (by dsimp only [Command.writes]; decide)
  refine .bind (.require _ _) fun _ => .bind (.read _) fun found => ?_
  cases found with
  | some operation => exact hrecord
  | none =>
      refine .bind (.read _) fun preflight => .bind (.ofExcept _) fun _ => ?_
      refine .bind (.bind (.read _) fun unverified => ?_) fun _ => .bind (.ofExcept _) fun _ =>
        hrecord
      cases unverified with
      | none => exact .pure _
      | some session => exact .throw _

end Programs

/-- Every run of a program of the supervisor, cut off at any point, is a sequence of its steps. -/
theorem SupervisorInput.supervised (config : EffectiveConfig) (runId : RunId)
    (input : SupervisorInput) :
    Tx.Keeps (Performing config runId) (input.program config runId) := by
  cases input with
  | spawn call host => exact supervised_requestSpawn call host
  | launchForeground call => exact supervised_requestForeground call
  | reconcile hosts reconciledAt => exact supervised_reconcileOperations hosts reconciledAt
  | stop operationId nowMs =>
      exact .bind (supervised_requestStop operationId nowMs) fun _ => .pure _
  | startStopping operationId nowMs => exact supervised_recordStop operationId nowMs
  | idle operationId nowMs => exact supervised_recordIdleStop operationId nowMs
  | progress host => exact .bind (supervised_progressShutdown host) fun _ => .pure _
  | recover call => exact .bind (supervised_requestRecovery call) fun _ => .pure _
  | other command =>
      by_cases halone : command.alone = true
      · show Tx.Keeps (Performing config runId)
          (if command.alone = true then transact command.body else pure ())
        rw [if_pos halone]
        exact supervised_alone command halone
      · show Tx.Keeps (Performing config runId)
          (if command.alone = true then transact command.body else pure ())
        rw [if_neg halone]
        exact .pure _

/-- A step of the machine is made of parts that the supervisor performs. -/
theorem performing_step (config : EffectiveConfig) (runId : RunId) (step : SupervisorStep)
    (rt : Runtime) : Performing config runId rt ((supervisorMachine config runId).step step rt) := by
  have hpower : Performs config runId rt { rt with power := step.power } :=
    .remember rt.handles step.power
  have hprogram : Performing config runId rt
      ((step.input.program config runId).run { rt with power := step.power }).2 :=
    .head hpower (step.input.supervised config runId _)
  show Performing config runId rt ((step.input.program config runId).exec step.power rt)
  unfold Program.exec
  dsimp only
  split
  · exact hprogram.tail (.remember [] _)
  · exact hprogram

theorem performing_runFrom (config : EffectiveConfig) (runId : RunId) (rt : Runtime)
    (steps : List SupervisorStep) :
    Performing config runId rt ((supervisorMachine config runId).runFrom rt steps) := by
  induction steps generalizing rt with
  | nil => exact Std.Refl.refl rt
  | cons step rest ih => exact (performing_step config runId step rt).trans (ih _)

theorem marked_empty : Runtime.empty.Marked :=
  nofun

theorem marked_run (config : EffectiveConfig) (runId : RunId) (steps : List SupervisorStep) :
    ((supervisorMachine config runId).run steps).Marked :=
  (performing_runFrom config runId .empty steps).marked marked_empty

/-- Every run of the machine is a sequence of steps of the supervisor. -/
theorem acting_run (config : EffectiveConfig) (runId : RunId) (steps : List SupervisorStep) :
    Acting config runId .empty ((supervisorMachine config runId).run steps) :=
  (performing_runFrom config runId .empty steps).acting marked_empty

/-- The same of the steps after a run. -/
theorem acting_after (config : EffectiveConfig) (runId : RunId)
    (before after : List SupervisorStep) :
    Acting config runId ((supervisorMachine config runId).run before)
      ((supervisorMachine config runId).run (before ++ after)) := by
  rw [Machine.run_append]
  exact (performing_runFrom config runId _ after).acting (marked_run config runId before)

end Coterie
