/-
  Coterie.Sessions.LaunchBound

  How often the launch of one session intent is admitted.  `admit_session_launch` remembers only
  when its current window opened, how many launches it admitted in it, when the next one may come,
  and whether the last one is still in flight or the budget is used up.  A `LaunchHistory` keeps
  every admission and every recorded failure beside the database, and `LaunchLedger` says what the
  row knows of it.

  `launch_admission_bound` is the law over all histories: no two launches at once, none after a
  quarantine, exponential gaps, arithmetic without overflow, and the bound of a limiter that counts
  in fixed windows.  `launch_straddles_windows` is a schedule of the compiled policy around the
  opening of a window, with four launches in six seconds.
-/

import Coterie.Base.Window
import Coterie.Config.Resolver
import Coterie.Supervisor.Issue

namespace Coterie

/-! ## Histories -/

/-- A reading of the system clock in seconds since the epoch.  Of the values of its type only the
    last is no reading: its milliseconds do not fit. -/
structure ClockReading (now : Int) : Prop where
  nonneg : 0 ≤ now
  below : now < i64Max

instance (now : Int) : Decidable (ClockReading now) :=
  decidable_of_iff (0 ≤ now ∧ now < i64Max)
    ⟨fun ⟨nonneg, below⟩ => ⟨nonneg, below⟩, fun ⟨nonneg, below⟩ => ⟨nonneg, below⟩⟩

/-- What the launch budget of a session records. -/
inductive LaunchEvent where
  | admitted (slot : Slot)
  | failed (quarantined : Bool)
deriving DecidableEq, Repr

/-- A database, and what happened to the launches of one session, newest first. -/
structure LaunchHistory where
  db : Db
  events : List LaunchEvent

/-- A call of `fail_session_launch` on its own, or a transaction of the supervisor. -/
inductive LaunchStep where
  | failSessionLaunch (scope : SessionScope) (now : Int) (policy : SupervisionPolicy)
  | command (command : Command)

/-- The admission that a call recorded. -/
def admissionEvent (sessionId : SessionId) (now : Int) :
    Except StoreError LaunchAdmission × Db → Option LaunchEvent
  | (.ok .allowed, db) =>
      (db.launchAttempts sessionId).map fun row => .admitted ⟨now, row.windowStartedAt⟩
  | _ => none

/-- The failure that a call recorded. -/
def failureEvent {α : Type} (sessionId : SessionId) : Except StoreError α × Db → Option LaunchEvent
  | (.ok _, db) => (db.launchAttempts sessionId).map fun row => .failed row.quarantined
  | _ => none

namespace LaunchStep

/-- The database after a step. -/
def exec : LaunchStep → Db → Db
  | .failSessionLaunch scope now policy, db =>
      ((Tx.transaction (Coterie.failSessionLaunch scope now policy)).run db).2
  | .command transaction, db => transaction.exec db

/-- What a step does to the launch budget of a session.  A failure report of a superseded
    generation does nothing. -/
def event (sessionId : SessionId) (db : Db) : LaunchStep → Option LaunchEvent
  | .failSessionLaunch scope now policy =>
      if scope.sessionId = sessionId ∧ db.sessionScopeIsCurrent scope = true then
        failureEvent sessionId
          ((Tx.transaction (Coterie.failSessionLaunch scope now policy)).run db)
      else none
  | .command (.recordFailedLaunch scope attemptedAt policy) =>
      if scope.sessionId = sessionId ∧ db.sessionScopeIsCurrent scope = true then
        failureEvent sessionId
          ((Tx.transaction (Coterie.recordFailedLaunch scope attemptedAt policy)).run db)
      else none
  | .command (.admitSessionLaunch scope now policy) =>
      if scope.sessionId = sessionId then
        admissionEvent sessionId now
          ((Tx.transaction (Coterie.admitSessionLaunch scope now policy)).run db)
      else none
  | .command _ => none

end LaunchStep

/-- The history of one session's launches. -/
def launchMachine (sessionId : SessionId) (db : Db) : Machine LaunchHistory LaunchStep where
  start := { db := db, events := [] }
  step step history :=
    { db := step.exec history.db
      events := (step.event sessionId history.db).toList ++ history.events }

namespace LaunchHistory

/-- The admitted launches, newest first. -/
def slots (events : List LaunchEvent) : List Slot :=
  events.filterMap fun
    | .admitted slot => some slot
    | .failed _ => none

@[simp]
theorem slots_nil : slots [] = [] := rfl

@[simp]
theorem slots_admitted (slot : Slot) (events : List LaunchEvent) :
    slots (.admitted slot :: events) = slot :: slots events := rfl

@[simp]
theorem slots_failed (quarantined : Bool) (events : List LaunchEvent) :
    slots (.failed quarantined :: events) = slots events := rfl

end LaunchHistory

/-- A call about the launch budget of a session, and the reading at which it asks for an
    admission. -/
structure LaunchCall where
  scope : SessionScope
  policy : SupervisionPolicy
  asked : Option Int

/-- The launch call that a step makes. -/
def LaunchStep.call : LaunchStep → Option LaunchCall
  | .failSessionLaunch scope _ policy => some { scope, policy, asked := none }
  | .command (.recordFailedLaunch scope _ policy) => some { scope, policy, asked := none }
  | .command (.admitSessionLaunch scope now policy) => some { scope, policy, asked := some now }
  | .command _ => none

/-- The calls about a session are made with its policy, and admissions are asked for at clock
    readings that do not decrease. -/
def LaunchStep.Timed (sessionId : SessionId) (policy : SupervisionPolicy)
    (history : LaunchHistory) (step : LaunchStep) : Prop :=
  ∀ call ∈ step.call, call.scope.sessionId = sessionId →
    call.policy = policy ∧ ∀ now ∈ call.asked, ClockReading now ∧
      ∀ slot ∈ LaunchHistory.slots history.events, slot.time ≤ now

instance (sessionId : SessionId) (policy : SupervisionPolicy) (history : LaunchHistory)
    (step : LaunchStep) : Decidable (step.Timed sessionId policy history) :=
  inferInstanceAs (Decidable (∀ call ∈ step.call, _))

/-! ## What a step does to the row -/

/-- How long after an admission the next one may come, when `attempts` came before it in its
    window. -/
def launchDelay (policy : SupervisionPolicy) (attempts : Int) : Int :=
  policy.restartBackoffSeconds * 2 ^ (min attempts 20).toNat

/-- The row of a session before and after a step, and what the step recorded. -/
inductive RowStep (policy : SupervisionPolicy) :
    Option SessionLaunchAttempts → Option LaunchEvent → Option SessionLaunchAttempts → Prop where
  | same (row : Option SessionLaunchAttempts) : RowStep policy row none row
  | admitted {row : Option SessionLaunchAttempts} {row' : SessionLaunchAttempts}
      {now window attempts : Int} (hwindow : launchWindow row now policy = .ok (window, attempts))
      (hopened : row'.windowStartedAt = window) (hattempts : row'.attempts = attempts + 1)
      (hnext : row'.nextAttemptAt = saturate (now + saturate (launchDelay policy attempts)))
      (hflight : row'.inFlight = true) (hquarantined : row'.quarantined = false) :
      RowStep policy row (some (.admitted ⟨now, window⟩)) (some row')
  | failed (row : SessionLaunchAttempts) :
      RowStep policy (some row) (some (.failed (decide (policy.maxLaunchAttempts ≤ row.attempts))))
        (some { row with
          inFlight := false, quarantined := decide (policy.maxLaunchAttempts ≤ row.attempts) })

/-- A launch is only counted on a row that is not quarantined. -/
theorem launchWindow_idle {row : SessionLaunchAttempts} {now window attempts : Int}
    {policy : SupervisionPolicy}
    (h : launchWindow (some row) now policy = .ok (window, attempts)) :
    row.quarantined = false ∧ row.inFlight = false ∧ row.nextAttemptAt ≤ now ∧
      ((policy.restartWindowSeconds ≤ saturate (now - row.windowStartedAt) ∧ window = now ∧
          attempts = 0) ∨
        (saturate (now - row.windowStartedAt) < policy.restartWindowSeconds ∧
          row.attempts < policy.maxLaunchAttempts ∧ window = row.windowStartedAt ∧
          attempts = row.attempts)) := by
  unfold launchWindow at h
  dsimp only at h
  split at h
  · cases h
  · next hquarantined =>
      split at h
      · cases h
      · next hflight =>
          split at h
          · cases h
          · next hnext =>
              refine ⟨by simpa using hquarantined, by simpa using hflight, by omega, ?_⟩
              split at h
              · next hover =>
                  cases h
                  exact .inl ⟨hover, rfl, rfl⟩
              · next hover =>
                  split at h
                  · cases h
                  · next hroom =>
                      cases h
                      exact .inr ⟨by omega, by omega, rfl, rfl⟩

/-- The launch row of a session after a row was written. -/
theorem launchAttempts_put (db : Db) (row : SessionLaunchAttempts) :
    (db.putLaunchAttempts row).launchAttempts row.sessionId =
      some (match db.launchAttempts row.sessionId with
        | none => row
        | some old =>
            { old with
              windowStartedAt := row.windowStartedAt
              attempts := row.attempts
              nextAttemptAt := row.nextAttemptAt
              inFlight := true }) := by
  unfold Db.putLaunchAttempts
  by_cases hany : db.sessionLaunchAttempts.any (·.sessionId == row.sessionId) = true
  · rw [if_pos hany]
    unfold Db.launchAttempts
    dsimp only
    rw [Table.find?_updateWhere]
    · cases hfound : db.sessionLaunchAttempts.find? (·.sessionId == row.sessionId) with
      | none =>
          have hnone := List.find?_eq_none.mp hfound
          obtain ⟨old, hold, hid⟩ := List.any_eq_true.mp hany
          exact absurd hid (hnone old hold)
      | some old =>
          have hid := List.find?_some hfound
          rw [Option.map_some, if_pos hid]
    · intro _ _
      rfl
  · rw [if_neg hany]
    unfold Db.launchAttempts
    dsimp only
    have hnone : db.sessionLaunchAttempts.find? (·.sessionId == row.sessionId) = none := by
      rw [List.find?_eq_none]
      intro old hold hid
      exact hany (List.any_eq_true.mpr ⟨old, hold, hid⟩)
    rw [List.find?_append, hnone, Option.none_or, List.find?_cons, beq_self_eq_true]

theorem launchAttempts_put_of_ne (db : Db) (row : SessionLaunchAttempts) {id : SessionId}
    (hne : id ≠ row.sessionId) :
    (db.putLaunchAttempts row).launchAttempts id = db.launchAttempts id := by
  unfold Db.putLaunchAttempts
  split
  · unfold Db.launchAttempts
    dsimp only
    rw [Table.find?_updateWhere]
    · cases hfound : db.sessionLaunchAttempts.find? (·.sessionId == id) with
      | none => rfl
      | some old =>
          have hid : old.sessionId = id := by simpa using List.find?_some hfound
          rw [Option.map_some, if_neg (by simp [hid, hne])]
    · intro _ _
      rfl
  · unfold Db.launchAttempts
    dsimp only
    rw [List.find?_append, List.find?_cons, List.find?_nil,
      show (row.sessionId == id) = false by simpa using Ne.symm hne, Option.or_none]

/-- What an admission writes. -/
theorem admitSessionLaunch_allowed {scope : SessionScope} {now : Int} {policy : SupervisionPolicy}
    {db db' : Db} (h : (admitSessionLaunch scope now policy).run db = (.ok .allowed, db')) :
    ∃ window attempts row,
      launchWindow (db.launchAttempts scope.sessionId) now policy = .ok (window, attempts) ∧
        db' = db.putLaunchAttempts row ∧ row.sessionId = scope.sessionId ∧
        row.windowStartedAt = window ∧ row.attempts = attempts + 1 ∧
        row.nextAttemptAt = saturate (now + saturate (launchDelay policy attempts)) ∧
        row.inFlight = true ∧ row.quarantined = false := by
  obtain ⟨current, _, h₁, r₁⟩ := Tx.bind_eq_ok.mp h
  obtain ⟨-, rfl⟩ := Tx.read_eq_ok.mp h₁
  obtain ⟨stopping, _, h₂, r₂⟩ := Tx.bind_eq_ok.mp r₁
  obtain ⟨-, rfl⟩ := Tx.read_eq_ok.mp h₂
  split at r₂
  · have hunknown := (Tx.pure_eq_ok.mp r₂).1
    cases hunknown
  · obtain ⟨previous, _, h₃, r₃⟩ := Tx.bind_eq_ok.mp r₂
    obtain ⟨rfl, rfl⟩ := Tx.read_eq_ok.mp h₃
    split at r₃
    · next verdict hwindow =>
        obtain ⟨rfl, -⟩ := Tx.pure_eq_ok.mp r₃
        unfold launchWindow at hwindow
        split at hwindow
        · cases hwindow
        · repeat' split at hwindow
          all_goals cases hwindow
    · next window attempts hwindow =>
        obtain ⟨_, _, h₄, r₄⟩ := Tx.bind_eq_ok.mp r₃
        obtain rfl := Tx.write_eq_ok.mp h₄
        obtain ⟨-, rfl⟩ := Tx.pure_eq_ok.mp r₄
        exact ⟨window, attempts, _, hwindow, rfl, rfl, rfl, rfl, rfl, rfl, rfl⟩

/-- What a report of a failed launch writes. -/
theorem failSessionLaunch_ok {scope : SessionScope} {now : Int} {policy : SupervisionPolicy}
    {quarantined : Bool} {db db' : Db}
    (h : (failSessionLaunch scope now policy).run db = (.ok quarantined, db')) :
    (db.sessionScopeIsCurrent scope = false ∧ db' = db) ∨
      (db.sessionScopeIsCurrent scope = true ∧
        ∃ row, db.launchAttempts scope.sessionId = some row ∧
          db'.launchAttempts scope.sessionId = some { row with
            inFlight := false
            quarantined := decide (policy.maxLaunchAttempts ≤ row.attempts) }) := by
  obtain ⟨current, _, h₁, r₁⟩ := Tx.bind_eq_ok.mp h
  obtain ⟨rfl, rfl⟩ := Tx.read_eq_ok.mp h₁
  split at r₁
  · next hstale =>
      obtain ⟨-, rfl⟩ := Tx.pure_eq_ok.mp r₁
      exact .inl ⟨by simpa using hstale, rfl⟩
  · next hcurrent =>
      right
      refine ⟨by simpa using hcurrent, ?_⟩
      obtain ⟨_, db₁, h₂, r₂⟩ := Tx.bind_eq_ok.mp r₁
      have hdb₁ := Tx.write_eq_ok.mp h₂
      obtain ⟨found, _, h₃, r₃⟩ := Tx.bind_eq_ok.mp r₂
      obtain ⟨rfl, rfl⟩ := Tx.read_eq_ok.mp h₃
      obtain ⟨row', _, h₄, r₄⟩ := Tx.bind_eq_ok.mp r₃
      obtain ⟨hrow', rfl⟩ := Tx.okOr_eq_ok.mp h₄
      obtain ⟨_, db₂, h₅, r₅⟩ := Tx.bind_eq_ok.mp r₄
      obtain ⟨-, rfl⟩ := Tx.pure_eq_ok.mp r₅
      -- the event that reports a quarantine is no launch row
      have hsame : db₂.sessionLaunchAttempts = db₁.sessionLaunchAttempts := by
        have hkeeps : Tx.Keeps (Written [.events]) (Tx.when (row'.quarantined = true)
            (supervisionEvent scope.runId .sessionRestartLimited scope.sessionId.text
              (some scope.agentId) none
              (.obj [("attempts", .num policy.maxLaunchAttempts),
                ("generation", .num scope.generation), ("reason", .str "launch_failures"),
                ("window_seconds", .num policy.restartWindowSeconds)])
              (saturate (now * 1000)))) := .when (writes_supervisionEvent rfl)
        have hwritten := (hkeeps db₁).writesOnly
        rw [h₅] at hwritten
        exact hwritten .sessionLaunchAttempts (by decide)
      have hrow : db₁.launchAttempts scope.sessionId =
          (db.launchAttempts scope.sessionId).map fun row =>
            { row with
              inFlight := false
              quarantined := decide (policy.maxLaunchAttempts ≤ row.attempts) } := by
        rw [← hdb₁]
        unfold Db.launchAttempts
        dsimp only
        rw [Table.find?_updateWhere]
        · cases hfound : db.sessionLaunchAttempts.find? (·.sessionId == scope.sessionId) with
          | none => rfl
          | some row =>
              have hid := List.find?_some hfound
              rw [Option.map_some, Option.map_some, if_pos hid]
        · intro _ _
          rfl
      cases hfound : db.launchAttempts scope.sessionId with
      | none =>
          rw [hfound, Option.map_none] at hrow
          rw [hrow] at hrow'
          cases hrow'
      | some row =>
          refine ⟨row, rfl, ?_⟩
          unfold Db.launchAttempts at hrow ⊢
          rw [hsame, hrow]
          unfold Db.launchAttempts at hfound
          rw [hfound, Option.map_some]

/-- Forgetting the result of a transaction does not change what it leaves. -/
theorem transaction_discard {α : Type} (x : Repo α) (db : Db) :
    ((Tx.transaction (discard x)).run db).2 = ((Tx.transaction x).run db).2 := by
  rcases Tx.transaction_cases x db with ⟨a, db', hrun, hok⟩ | ⟨e, herror, hfail⟩
  · have hdiscard : (discard x).run db = (.ok (), db') := by
      rw [discard, Tx.run_bind, hrun]
      rfl
    rw [hok, Tx.transaction]
    dsimp only
    rw [hdiscard]
  · have hdiscard : ((discard x).run db).1 = .error e := by
      rw [discard, Tx.run_bind]
      split
      · next hrun =>
          rw [hrun] at herror
          cases herror
      · next hrun =>
          rw [hrun] at herror
          cases herror
          rfl
    rw [hfail, Tx.transaction]
    dsimp only
    split
    · next hrun =>
        rw [hrun] at hdiscard
        cases hdiscard
    · rfl

/-- The row after a report of a failed launch. -/
theorem failSessionLaunch_rowStep {scope : SessionScope} {now : Int} {policy : SupervisionPolicy}
    {quarantined : Bool} {db db' db'' : Db}
    (h : (failSessionLaunch scope now policy).run db = (.ok quarantined, db'))
    (hsame : db''.launchAttempts scope.sessionId = db'.launchAttempts scope.sessionId) :
    RowStep policy (db.launchAttempts scope.sessionId)
      (if db.sessionScopeIsCurrent scope = true then
        (db''.launchAttempts scope.sessionId).map fun row => .failed row.quarantined else none)
      (db''.launchAttempts scope.sessionId) := by
  rw [hsame]
  rcases failSessionLaunch_ok h with ⟨hstale, rfl⟩ | ⟨hcurrent, row, hrow, hrow'⟩
  · rw [if_neg (by simp [hstale])]
    exact .same _
  · rw [if_pos hcurrent, hrow, hrow']
    exact .failed row

namespace LaunchStep

variable {sessionId : SessionId} {policy : SupervisionPolicy} {history : LaunchHistory}

theorem rowStep_failSessionLaunch {scope : SessionScope} {now : Int} {policy' : SupervisionPolicy}
    (h : scope.sessionId = sessionId → policy' = policy) (db : Db) :
    RowStep policy (db.launchAttempts sessionId)
      ((failSessionLaunch scope now policy').event sessionId db)
      (((failSessionLaunch scope now policy').exec db).launchAttempts sessionId) := by
  by_cases hid : scope.sessionId = sessionId
  · obtain rfl := h hid
    subst hid
    dsimp only [exec, event]
    rcases Tx.transaction_cases (Coterie.failSessionLaunch scope now policy') db with
      ⟨quarantined, db', hrun, hok⟩ | ⟨e, -, herror⟩
    · rw [hok]
      dsimp only [failureEvent]
      simp only [true_and]
      exact failSessionLaunch_rowStep hrun rfl
    · rw [herror]
      dsimp only [failureEvent]
      rw [ite_self]
      exact .same _
  · have hkeeps := (failSessionLaunch_launchAttempts scope now policy' (Ne.symm hid)).transaction db
    dsimp only [exec, event]
    rw [if_neg fun hboth => hid hboth.1, hkeeps]
    exact .same _

theorem rowStep_recordFailedLaunch {scope : SessionScope} {attemptedAt : Int}
    {policy' : SupervisionPolicy} (h : scope.sessionId = sessionId → policy' = policy) (db : Db) :
    RowStep policy (db.launchAttempts sessionId)
      ((command (.recordFailedLaunch scope attemptedAt policy')).event sessionId db)
      (((command (.recordFailedLaunch scope attemptedAt policy')).exec db).launchAttempts
        sessionId) := by
  by_cases hid : scope.sessionId = sessionId
  · obtain rfl := h hid
    subst hid
    dsimp only [exec, event, Command.exec, Command.body]
    rcases Tx.transaction_cases (Coterie.recordFailedLaunch scope attemptedAt policy') db with
      ⟨u, db', hrun, hok⟩ | ⟨e, -, herror⟩
    · rw [hok]
      dsimp only [failureEvent]
      simp only [true_and]
      obtain ⟨quarantined, db₁, h₁, h₂⟩ := Tx.bind_eq_ok.mp hrun
      refine failSessionLaunch_rowStep h₁ ?_
      -- the reconciliation of a quarantined session is no launch row
      have hkeeps : Tx.Keeps (Written [.sessions, .agents, .sessionCredentials, .events])
          (Tx.when (quarantined = true)
            (recordReconciliationIn scope .observed .quarantined attemptedAt)) :=
        .when (writes_recordReconciliationIn _ _ _ _)
      have hwritten := (hkeeps db₁).writesOnly
      rw [h₂] at hwritten
      unfold Db.launchAttempts
      rw [hwritten .sessionLaunchAttempts (by decide)]
    · rw [herror]
      dsimp only [failureEvent]
      rw [ite_self]
      exact .same _
  · have hkeeps := recordFailedLaunch_launchAttempts scope attemptedAt policy' (Ne.symm hid) db
    dsimp only [exec, event]
    rw [if_neg fun hboth => hid hboth.1, hkeeps]
    exact .same _

theorem rowStep_admitSessionLaunch {scope : SessionScope} {now : Int}
    {policy' : SupervisionPolicy} (h : scope.sessionId = sessionId → policy' = policy) (db : Db) :
    RowStep policy (db.launchAttempts sessionId)
      ((command (.admitSessionLaunch scope now policy')).event sessionId db)
      (((command (.admitSessionLaunch scope now policy')).exec db).launchAttempts
        sessionId) := by
  dsimp only [exec, event, Command.exec, Command.body]
  rw [transaction_discard]
  rcases Tx.transaction_cases (Coterie.admitSessionLaunch scope now policy') db with
    ⟨admission, db', hrun, hok⟩ | ⟨e, -, herror⟩
  · rw [hok]
    by_cases hallowed : admission = .allowed
    · subst hallowed
      obtain ⟨window, attempts, row, hwindow, rfl, hrow, hopened, hattempts, hnext, hflight,
        hquarantined⟩ := admitSessionLaunch_allowed hrun
      by_cases hid : scope.sessionId = sessionId
      · obtain rfl := h hid
        subst hid
        rw [if_pos rfl]
        dsimp only [admissionEvent]
        rw [← hrow, launchAttempts_put, Option.map_some]
        rw [← hrow] at hwindow
        split
        · rw [hopened]
          exact .admitted hwindow hopened hattempts hnext hflight hquarantined
        · next old hold =>
            rw [hold] at hwindow ⊢
            dsimp only
            rw [hopened]
            exact .admitted hwindow rfl hattempts hnext rfl (launchWindow_idle hwindow).1
      · rw [if_neg hid]
        dsimp only
        rw [launchAttempts_put_of_ne _ _ (by rw [hrow]; exact Ne.symm hid)]
        exact .same _
    · -- every other verdict leaves the database as it is
      rcases admitSessionLaunch_ok hrun with ⟨-, rfl⟩ | ⟨hisAllowed, -, -⟩
      · have hnone : admissionEvent sessionId now (.ok admission, db') = none := by
          cases admission with
          | allowed => exact absurd rfl hallowed
          | _ => rfl
        rw [hnone, ite_self]
        exact .same _
      · exact absurd hisAllowed hallowed
  · rw [herror]
    dsimp only [admissionEvent]
    rw [ite_self]
    exact .same _

/-- What a step does to the launch row of the session. -/
theorem Timed.rowStep {step : LaunchStep} (h : step.Timed sessionId policy history) :
    RowStep policy (history.db.launchAttempts sessionId) (step.event sessionId history.db)
      ((step.exec history.db).launchAttempts sessionId) := by
  cases step with
  | failSessionLaunch scope now policy' =>
      exact rowStep_failSessionLaunch (fun hid => (h _ rfl hid).1) _
  | command transaction =>
      cases transaction
      case recordFailedLaunch scope attemptedAt policy' =>
        exact rowStep_recordFailedLaunch (fun hid => (h _ rfl hid).1) _
      case admitSessionLaunch scope now policy' =>
        exact rowStep_admitSessionLaunch (fun hid => (h _ rfl hid).1) _
      all_goals
        dsimp only [event, exec]
        rw [Command.exec_launchAttempts (by dsimp only [Command.writes]; decide)]
        exact .same _

end LaunchStep

/-! ## What the row knows of the history -/

theorem le_of_saturate_le {value bound : Int} (h : saturate value ≤ bound) (hbound : bound < i64Max) :
    value ≤ bound := by
  unfold saturate at h
  omega

open LaunchHistory (slots slots_nil slots_admitted slots_failed)

/-- The marks of a launch row agree with the history. -/
structure RowMarks (policy : SupervisionPolicy) (row : SessionLaunchAttempts)
    (events : List LaunchEvent) : Prop where
  flight : ∀ slot older, events = .admitted slot :: older → row.inFlight = true
  idle : row.inFlight = false → row.quarantined = decide (policy.maxLaunchAttempts ≤ row.attempts)
  exhausted : row.quarantined = true → policy.maxLaunchAttempts ≤ row.attempts
  quarantined : .failed true ∈ events → row.quarantined = true

/-- The marks after a launch of a session that was never quarantined. -/
theorem RowMarks.launched {policy : SupervisionPolicy} {row : SessionLaunchAttempts} {slot : Slot}
    {events : List LaunchEvent} (hflight : row.inFlight = true) (hquarantined : row.quarantined = false)
    (hclean : .failed true ∉ events) : RowMarks policy row (.admitted slot :: events) where
  flight := fun _ _ _ => hflight
  idle := by
    rw [hflight]
    intro hidle
    cases hidle
  exhausted := by
    rw [hquarantined]
    intro hused
    cases hused
  quarantined := by
    intro hmem
    rcases List.mem_cons.mp hmem with hfirst | hold
    · cases hfirst
    · exact absurd hold hclean

/-- What the launch row of a session knows of its history. -/
structure RowLedger (policy : SupervisionPolicy) (row : SessionLaunchAttempts)
    (events : List LaunchEvent) : Prop extends RowMarks policy row events where
  readings : ∀ slot ∈ slots events, ClockReading slot.time
  windows : FixedWindows policy.restartWindowSeconds (slots events)
  latest : ∃ latest older, slots events = latest :: older ∧ latest.opened = row.windowStartedAt ∧
    row.attempts = Slot.countOf older latest.opened + 1 ∧
      row.nextAttemptAt = saturate (latest.time + saturate (launchDelay policy (row.attempts - 1)))
  full : ∀ slot ∈ slots events,
    (Slot.countOf (slots events) slot.opened : Int) ≤ policy.maxLaunchAttempts
  closed : ∀ slot ∈ slots events, slot.opened ≠ row.windowStartedAt →
    (Slot.countOf (slots events) slot.opened : Int) + 1 ≤ policy.maxLaunchAttempts

/-- A session without a launch row has no history. -/
def LaunchLedger (policy : SupervisionPolicy) :
    Option SessionLaunchAttempts → List LaunchEvent → Prop
  | none, events => events = []
  | some row, events => RowLedger policy row events

namespace RowLedger

variable {policy : SupervisionPolicy} {row : SessionLaunchAttempts} {events : List LaunchEvent}

/-- The row counts the launches of its window. -/
theorem countOf_window (h : RowLedger policy row events) :
    (Slot.countOf (slots events) row.windowStartedAt : Int) = row.attempts := by
  obtain ⟨latest, older, hslots, hopened, hattempts, -⟩ := h.latest
  rw [hslots, Slot.countOf_cons, if_pos hopened, hattempts, hopened]
  push_cast
  rfl

/-- The window of the row opened with a launch. -/
theorem window_reading (h : RowLedger policy row events) : ClockReading row.windowStartedAt := by
  obtain ⟨latest, older, hslots, hopened, -⟩ := h.latest
  obtain ⟨first, hfirst, htime, -⟩ := h.windows.opening latest (by
    rw [hslots]
    exact List.mem_cons_self)
  rw [← hopened, ← htime]
  exact h.readings first hfirst

/-- A row that is not quarantined has no quarantine in its history. -/
theorem clean (h : RowLedger policy row events) (hunused : row.quarantined = false) :
    .failed true ∉ events := by
  intro hmem
  have hused := h.quarantined hmem
  rw [hunused] at hused
  cases hused

/-- A report of a failed launch. -/
theorem fail (h : RowLedger policy row events) :
    RowLedger policy
      { row with
        inFlight := false, quarantined := decide (policy.maxLaunchAttempts ≤ row.attempts) }
      (.failed (decide (policy.maxLaunchAttempts ≤ row.attempts)) :: events) where
  readings := h.readings
  windows := h.windows
  latest := h.latest
  full := h.full
  closed := h.closed
  flight := by
    intro slot older hevents
    cases hevents
  idle := fun _ => rfl
  exhausted := fun hquarantined => of_decide_eq_true hquarantined
  quarantined := by
    intro hmem
    rcases List.mem_cons.mp hmem with hnow | hbefore
    · injection hnow with hnow
      exact hnow.symm
    · exact decide_eq_true (h.exhausted (h.quarantined hbefore))

variable {row' : SessionLaunchAttempts} {now attempts : Int}

/-- The first launch of a session. -/
theorem first (hmax : 0 < policy.maxLaunchAttempts) (hwindow : 0 < policy.restartWindowSeconds)
    (hnow : ClockReading now) (hopened : row'.windowStartedAt = now)
    (hattempts : row'.attempts = 0 + 1)
    (hnext : row'.nextAttemptAt = saturate (now + saturate (launchDelay policy 0)))
    (hflight : row'.inFlight = true) (hquarantined : row'.quarantined = false) :
    RowLedger policy row' [.admitted ⟨now, now⟩] where
  readings := by
    intro slot hslot
    rw [slots_admitted, slots_nil, List.mem_singleton] at hslot
    rw [hslot]
    exact hnow
  windows := FixedWindows.nil.push_opening hwindow (by
    intro slot hslot
    cases hslot)
  latest := by
    refine ⟨⟨now, now⟩, [], rfl, hopened.symm, by rw [hattempts]; rfl, ?_⟩
    rw [hnext, hattempts]
    rfl
  full := by
    intro slot hslot
    rw [slots_admitted, slots_nil, List.mem_singleton] at hslot
    rw [hslot, slots_admitted, slots_nil, Slot.countOf_cons, Slot.countOf_nil, if_pos rfl]
    push_cast
    omega
  closed := by
    intro slot hslot hne
    rw [slots_admitted, slots_nil, List.mem_singleton] at hslot
    rw [hslot, hopened] at hne
    exact absurd rfl hne
  toRowMarks := .launched hflight hquarantined (by simp)

/-- A launch that opens a new window. -/
theorem reopen (h : RowLedger policy row events) (hmax : 0 < policy.maxLaunchAttempts)
    (hwindow : 0 < policy.restartWindowSeconds) (hnow : ClockReading now)
    (hunused : row.quarantined = false) (hidle : row.inFlight = false)
    (hover : row.windowStartedAt + policy.restartWindowSeconds ≤ now)
    (hopened : row'.windowStartedAt = now) (hattempts : row'.attempts = 0 + 1)
    (hnext : row'.nextAttemptAt = saturate (now + saturate (launchDelay policy 0)))
    (hflight : row'.inFlight = true) (hquarantined : row'.quarantined = false) :
    RowLedger policy row' (.admitted ⟨now, now⟩ :: events) := by
  obtain ⟨latest, older, hslots, hlatest, -, -⟩ := h.latest
  have hroom : row.attempts < policy.maxLaunchAttempts := by
    have hdecide := h.idle hidle
    rw [hunused] at hdecide
    exact Int.lt_of_not_ge (of_decide_eq_false hdecide.symm)
  have hbefore : ∀ slot ∈ slots events, slot.opened + policy.restartWindowSeconds ≤ now := by
    intro slot hslot
    have hwindows := h.windows
    rw [hslots] at hwindows hslot
    have hle := hwindows.opened_le_head hwindow hslot
    omega
  have hnone : Slot.countOf (slots events) now = 0 := by
    rw [Slot.countOf, List.countP_eq_zero]
    intro slot hslot hat
    have hle := hbefore slot hslot
    have heq := beq_iff_eq.mp hat
    omega
  have hcount : ∀ slot ∈ slots events,
      Slot.countOf (⟨now, now⟩ :: slots events) slot.opened =
        Slot.countOf (slots events) slot.opened := by
    intro slot hslot
    have hle := hbefore slot hslot
    rw [Slot.countOf_cons, if_neg (by dsimp only; omega), Nat.add_zero]
  exact
    { readings := by
        intro slot hslot
        rcases List.mem_cons.mp hslot with rfl | hold
        · exact hnow
        · exact h.readings slot hold
      windows := h.windows.push_opening hwindow hbefore
      latest := by
        refine ⟨⟨now, now⟩, slots events, rfl, hopened.symm, ?_, ?_⟩
        · rw [hattempts]
          dsimp only
          rw [hnone]
          rfl
        · rw [hnext, hattempts]
          rfl
      full := by
        intro slot hslot
        rcases List.mem_cons.mp hslot with rfl | hold
        · rw [slots_admitted, Slot.countOf_cons, if_pos rfl]
          dsimp only
          rw [hnone]
          push_cast
          omega
        · rw [slots_admitted, hcount slot hold]
          exact h.full slot hold
      closed := by
        intro slot hslot hne
        rcases List.mem_cons.mp hslot with rfl | hold
        · rw [hopened] at hne
          exact absurd rfl hne
        · rw [slots_admitted, hcount slot hold]
          by_cases hcurrent : slot.opened = row.windowStartedAt
          · rw [hcurrent, h.countOf_window]
            omega
          · exact h.closed slot hold hcurrent
      toRowMarks := .launched hflight hquarantined (h.clean hunused) }

/-- Another launch in the window of the row. -/
theorem extend (h : RowLedger policy row events) (hnow : ClockReading now)
    (htimes : ∀ slot ∈ slots events, slot.time ≤ now)
    (hunused : row.quarantined = false)
    (hinside : now < row.windowStartedAt + policy.restartWindowSeconds)
    (hroom : row.attempts < policy.maxLaunchAttempts)
    (hopened : row'.windowStartedAt = row.windowStartedAt)
    (hattempts : row'.attempts = row.attempts + 1)
    (hnext : row'.nextAttemptAt = saturate (now + saturate (launchDelay policy row.attempts)))
    (hflight : row'.inFlight = true) (hquarantined : row'.quarantined = false) :
    RowLedger policy row' (.admitted ⟨now, row.windowStartedAt⟩ :: events) := by
  obtain ⟨latest, older, hslots, hlatest, -, -⟩ := h.latest
  have hcount : ∀ opened, opened ≠ row.windowStartedAt →
      Slot.countOf (⟨now, row.windowStartedAt⟩ :: slots events) opened =
        Slot.countOf (slots events) opened := by
    intro opened hne
    rw [Slot.countOf_cons, if_neg (Ne.symm hne), Nat.add_zero]
  have hown : (Slot.countOf (⟨now, row.windowStartedAt⟩ :: slots events) row.windowStartedAt : Int) =
      row.attempts + 1 := by
    rw [Slot.countOf_cons, if_pos rfl]
    push_cast
    rw [h.countOf_window]
  exact
    { readings := by
        intro slot hslot
        rcases List.mem_cons.mp hslot with rfl | hold
        · exact hnow
        · exact h.readings slot hold
      windows := by
        have hwindows := h.windows
        have hmem : latest ∈ slots events := by
          rw [hslots]
          exact List.mem_cons_self
        have hfrom := (hwindows.within latest hmem).1
        have hbefore := htimes latest hmem
        rw [slots_admitted, hslots, ← hlatest]
        rw [hslots] at hwindows
        exact hwindows.push (by omega) (by omega)
      latest := by
        refine ⟨⟨now, row.windowStartedAt⟩, slots events, rfl, hopened.symm, ?_, ?_⟩
        · rw [hattempts, ← h.countOf_window]
        · rw [hnext, hattempts]
          dsimp only
          rw [Int.add_sub_cancel]
      full := by
        intro slot hslot
        rw [slots_admitted]
        by_cases hcurrent : slot.opened = row.windowStartedAt
        · rw [hcurrent, hown]
          omega
        · rw [hcount _ hcurrent]
          rcases List.mem_cons.mp hslot with rfl | hold
          · exact absurd rfl hcurrent
          · exact h.full slot hold
      closed := by
        intro slot hslot hne
        rw [hopened] at hne
        rw [slots_admitted, hcount _ hne]
        rcases List.mem_cons.mp hslot with rfl | hold
        · exact absurd rfl hne
        · exact h.closed slot hold hne
      toRowMarks := .launched hflight hquarantined (h.clean hunused) }

end RowLedger

/-! ## One step -/

/-- A failure report is no admission. -/
theorem failureEvent_ne_admitted {α : Type} {sessionId : SessionId} {slot : Slot} :
    ∀ outcome : Except StoreError α × Db,
      failureEvent sessionId outcome ≠ some (LaunchEvent.admitted slot)
  | (.ok _, db) => by
      dsimp only [failureEvent]
      cases db.launchAttempts sessionId with
      | none => simp
      | some row => simp
  | (.error _, _) => by simp [failureEvent]

/-- An admission carries the reading at which it was asked for. -/
theorem admissionEvent_time {sessionId : SessionId} {now : Int} {slot : Slot} :
    ∀ {outcome : Except StoreError LaunchAdmission × Db},
      admissionEvent sessionId now outcome = some (.admitted slot) → slot.time = now
  | (.ok .allowed, db), h => by
      dsimp only [admissionEvent] at h
      cases hrow : db.launchAttempts sessionId with
      | none =>
          rw [hrow, Option.map_none] at h
          cases h
      | some row =>
          rw [hrow, Option.map_some] at h
          cases h
          rfl
  | (.ok (.backoff _), _), h => by cases h
  | (.ok .quarantined, _), h => by cases h
  | (.ok .unknown, _), h => by cases h
  | (.error _, _), h => by cases h

/-- An admission is asked for at a reading that is not before an earlier one. -/
theorem LaunchStep.Timed.reading {sessionId : SessionId} {policy : SupervisionPolicy}
    {history : LaunchHistory} {step : LaunchStep} (h : step.Timed sessionId policy history)
    {slot : Slot} (hevent : step.event sessionId history.db = some (.admitted slot)) :
    ClockReading slot.time ∧ ∀ earlier ∈ slots history.events, earlier.time ≤ slot.time := by
  cases step with
  | failSessionLaunch scope now policy' =>
      dsimp only [event] at hevent
      split at hevent
      · exact absurd hevent (failureEvent_ne_admitted _)
      · cases hevent
  | command transaction =>
      cases transaction
      case recordFailedLaunch scope attemptedAt policy' =>
        dsimp only [event] at hevent
        split at hevent
        · exact absurd hevent (failureEvent_ne_admitted _)
        · cases hevent
      case admitSessionLaunch scope now policy' =>
        dsimp only [event] at hevent
        split at hevent
        · next hid =>
            rw [admissionEvent_time hevent]
            exact (h _ rfl hid).2 now rfl
        · cases hevent
      all_goals cases hevent

/-- No two launches at once, none after a quarantine, and a growing delay after each launch of a
    window. -/
structure LaunchesSpaced (policy : SupervisionPolicy) (events : List LaunchEvent) : Prop where
  alone : ∀ newer slot older, events = newer ++ .admitted slot :: older →
    (∀ earlier rest, older ≠ .admitted earlier :: rest) ∧ .failed true ∉ older
  backoff : ∀ newer later slot older, slots events = newer ++ later :: slot :: older →
    slot.time + launchDelay policy (Slot.countOf older slot.opened) ≤ later.time

/-- A report of a failed launch adds no launch. -/
theorem LaunchesSpaced.failed {policy : SupervisionPolicy} {events : List LaunchEvent}
    (h : LaunchesSpaced policy events) (quarantined : Bool) :
    LaunchesSpaced policy (.failed quarantined :: events) where
  alone newer slot older hevents := by
    cases newer with
    | nil => cases hevents
    | cons event newer =>
        rw [List.cons_append] at hevents
        exact h.alone newer slot older (List.cons.inj hevents).2
  backoff newer later slot older hslots := h.backoff newer later slot older hslots

/-- A launch of an idle row that comes when the row allows it. -/
theorem LaunchesSpaced.admitted {policy : SupervisionPolicy} {row : SessionLaunchAttempts}
    {events : List LaunchEvent} {slot : Slot} (h : LaunchesSpaced policy events)
    (hledger : RowLedger policy row events) (hidle : row.inFlight = false)
    (hunused : row.quarantined = false) (hnext : row.nextAttemptAt ≤ slot.time)
    (hreading : ClockReading slot.time) :
    LaunchesSpaced policy (.admitted slot :: events) where
  alone newer slot' older hevents := by
    cases newer with
    | nil =>
        obtain ⟨-, rfl⟩ := List.cons.inj hevents
        refine ⟨fun earlier rest holder => ?_, hledger.clean hunused⟩
        have hflight := hledger.flight earlier rest holder
        rw [hidle] at hflight
        cases hflight
    | cons event newer =>
        rw [List.cons_append] at hevents
        exact h.alone newer slot' older (List.cons.inj hevents).2
  backoff newer later slot' older hslots := by
    rw [slots_admitted] at hslots
    cases newer with
    | nil =>
        obtain ⟨rfl, hrest⟩ := List.cons.inj hslots
        obtain ⟨latest, before, hlatest, hopened, hattempts, hlast⟩ := hledger.latest
        rw [hrest] at hlatest
        obtain ⟨rfl, rfl⟩ := List.cons.inj hlatest
        -- the deadline of the row did not saturate, since a reading has passed it
        rw [hattempts, Int.add_sub_cancel] at hlast
        rw [hlast] at hnext
        have hsum := le_of_saturate_le hnext hreading.below
        have hlatestReading := hledger.readings slot' (by
          rw [hrest]
          exact List.mem_cons_self)
        have hdelay : saturate (launchDelay policy (Slot.countOf older slot'.opened)) ≤
            slot.time - slot'.time := by omega
        have hexact := le_of_saturate_le hdelay (by
          have := hreading.below
          have := hlatestReading.nonneg
          omega)
        omega
    | cons event newer =>
        rw [List.cons_append] at hslots
        exact h.backoff newer later slot' older (List.cons.inj hslots).2

/-- The bounds of an admitted policy that launches are counted with. -/
theorem resolveSupervision_restarts {input : SupervisionOverrides} {policy : SupervisionBounds}
    (h : resolveSupervision compiledDefaults.supervision input = .ok policy) :
    0 < policy.restartWindowSeconds ∧ policy.restartWindowSeconds ≤ i64Max / 1000 ∧
      0 < policy.maxLaunchAttempts ∧ policy.maxLaunchAttempts ≤ i64Max / 1000 := by
  obtain ⟨window, hwindow, h⟩ := Except.bind_eq_ok.mp h
  obtain ⟨attempts, hattempts, h⟩ := Except.bind_eq_ok.mp h
  obtain ⟨_, -, h⟩ := Except.bind_eq_ok.mp h
  obtain ⟨_, -, h⟩ := Except.bind_eq_ok.mp h
  obtain ⟨_, -, h⟩ := Except.bind_eq_ok.mp h
  obtain ⟨_, -, h⟩ := Except.bind_eq_ok.mp h
  obtain ⟨_, -, h⟩ := Except.bind_eq_ok.mp h
  obtain ⟨_, -, h⟩ := Except.bind_eq_ok.mp h
  obtain ⟨_, -, h⟩ := Except.bind_eq_ok.mp h
  obtain rfl := Except.pure_eq_ok.mp h
  have hbound : ∀ {field : String} {overridden : Option Int} {current value : Int},
      0 < current → current ≤ i64Max / 1000 →
        applyBound field overridden current = .ok value → 0 < value ∧ value ≤ i64Max / 1000 := by
    intro field overridden current value hpos hle hvalue
    unfold applyBound at hvalue
    split at hvalue
    · cases hvalue
      exact ⟨hpos, hle⟩
    · split at hvalue
      · cases hvalue
      · next hin =>
          cases hvalue
          omega
  have hwindow := hbound (by decide) (by decide) hwindow
  have hattempts := hbound (by decide) (by decide) hattempts
  exact ⟨hwindow.1, hwindow.2, hattempts.1, hattempts.2⟩

/-- A step keeps what the row knows, and the launches apart. -/
theorem RowStep.ledger {policy : SupervisionPolicy} {row row' : Option SessionLaunchAttempts}
    {event : Option LaunchEvent} {events : List LaunchEvent}
    (hwindow : 0 < policy.restartWindowSeconds)
    (hmax : 0 < policy.maxLaunchAttempts) (hstep : RowStep policy row event row')
    (hreading : ∀ slot, event = some (.admitted slot) →
      ClockReading slot.time ∧ ∀ earlier ∈ slots events, earlier.time ≤ slot.time)
    (hledger : LaunchLedger policy row events) (hspaced : LaunchesSpaced policy events) :
    LaunchLedger policy row' (event.toList ++ events) ∧
      LaunchesSpaced policy (event.toList ++ events) := by
  cases hstep with
  | same => exact ⟨hledger, hspaced⟩
  | failed row => exact ⟨hledger.fail, hspaced.failed _⟩
  | @admitted _ row' now window attempts hcounted hopened hattempts hnext hflight hquarantined =>
      obtain ⟨hnow, htimes⟩ := hreading _ rfl
      dsimp only at hnow htimes
      cases row with
      | none =>
          -- the first launch of the session
          obtain rfl : events = [] := hledger
          obtain ⟨rfl, rfl⟩ : now = window ∧ 0 = attempts := by
            simpa [launchWindow] using hcounted
          refine ⟨.first hmax hwindow hnow hopened hattempts hnext hflight hquarantined, ?_⟩
          constructor
          · intro newer slot older hevents
            rcases List.cons_eq_append_iff.mp hevents with ⟨rfl, hrest⟩ | ⟨rest, rfl, hrest⟩
            · obtain ⟨-, rfl⟩ := List.cons.inj hrest
              simp
            · simp at hrest
          · intro newer later slot older hslots
            have hlength := congrArg List.length hslots
            simp at hlength
            omega
      | some old =>
          have hold : RowLedger policy old events := hledger
          obtain ⟨hunused, hidle, hafter, hcase⟩ := launchWindow_idle hcounted
          have hwindowStart := hold.window_reading
          have hstart := hwindowStart.nonneg
          have hbelow := hnow.below
          have hdifference : now - old.windowStartedAt ≤ i64Max := by omega
          refine ⟨?_, hspaced.admitted hold hidle hunused hafter hnow⟩
          rcases hcase with ⟨hover, rfl, rfl⟩ | ⟨hinside, hroom, rfl, rfl⟩
          · refine hold.reopen hmax hwindow hnow hunused hidle ?_ hopened hattempts hnext hflight
              hquarantined
            unfold saturate at hover
            have hmin : i64Min < 0 := by decide
            omega
          · refine hold.extend hnow htimes hunused ?_ hroom hopened hattempts hnext hflight
              hquarantined
            unfold saturate at hinside
            omega

/-! ## Every history -/

/-- The law of launch admission for one session. -/
structure LaunchLaw (policy : SupervisionPolicy) (sessionId : SessionId)
    (history : LaunchHistory) : Prop extends LaunchesSpaced policy history.events where
  windows : FixedWindows policy.restartWindowSeconds (slots history.events)
  full : ∀ slot ∈ slots history.events,
    (Slot.countOf (slots history.events) slot.opened : Int) ≤ policy.maxLaunchAttempts
  interval : ∀ start,
    (Slot.countIn (slots history.events) start policy.restartWindowSeconds : Int) ≤
      max policy.maxLaunchAttempts (2 * policy.maxLaunchAttempts - 2)
  exact : ∀ now window attempts,
    launchWindow (history.db.launchAttempts sessionId) now policy = .ok (window, attempts) →
      0 ≤ attempts ∧ isI64 (2 ^ (min attempts 20).toNat) = true ∧ isI64 (attempts + 1) = true

/-- The bound on every interval is that of a limiter with fixed windows. -/
theorem RowLedger.interval {policy : SupervisionPolicy} {row : SessionLaunchAttempts}
    {events : List LaunchEvent} (hwindow : 0 < policy.restartWindowSeconds)
    (hmax : 0 < policy.maxLaunchAttempts) (h : RowLedger policy row events) (start : Int) :
    (Slot.countIn (slots events) start policy.restartWindowSeconds : Int) ≤
      max policy.maxLaunchAttempts (2 * policy.maxLaunchAttempts - 2) := by
  obtain ⟨latest, older, hslots, hopened, -, -⟩ := h.latest
  have hfull : ∀ slot ∈ slots events,
      Slot.countOf (slots events) slot.opened ≤ policy.maxLaunchAttempts.toNat := by
    intro slot hslot
    have hle := h.full slot hslot
    omega
  have hclosed : ∀ slot ∈ slots events, (∃ later ∈ slots events, slot.opened < later.opened) →
      Slot.countOf (slots events) slot.opened + 1 ≤ policy.maxLaunchAttempts.toNat := by
    rintro slot hslot ⟨later, hlater, hlt⟩
    have hwindows := h.windows
    rw [hslots] at hwindows hlater
    have hnewest := hwindows.opened_le_head hwindow hlater
    have hle := h.closed slot hslot (by omega)
    omega
  have hcount := h.windows.countIn_le hwindow hfull hclosed start
  omega

/-- A row that may count a launch counts it without overflow. -/
theorem LaunchLedger.exact {policy : SupervisionPolicy} {row : Option SessionLaunchAttempts}
    {events : List LaunchEvent} (hmax : policy.maxLaunchAttempts ≤ i64Max / 1000)
    (h : LaunchLedger policy row events) {now window attempts : Int}
    (hcounted : launchWindow row now policy = .ok (window, attempts)) :
    0 ≤ attempts ∧ isI64 (2 ^ (min attempts 20).toNat) = true ∧ isI64 (attempts + 1) = true := by
  have hbounds : 0 ≤ attempts ∧ attempts + 1 ≤ i64Max := by
    have hroom : i64Max / 1000 + 1 ≤ i64Max := by decide
    cases row with
    | none =>
        obtain ⟨-, rfl⟩ : now = window ∧ 0 = attempts := by
          simpa [launchWindow] using hcounted
        omega
    | some row =>
        obtain ⟨-, -, -, hcase⟩ := launchWindow_idle hcounted
        have hcount := RowLedger.countOf_window h
        rcases hcase with ⟨-, -, rfl⟩ | ⟨-, hless, -, rfl⟩
        · omega
        · omega
  have hpower : (2 : Int) ^ (min attempts 20).toNat ≤ 2 ^ 20 :=
    pow_le_pow_right₀ (by decide) (by omega)
  have hpositive : (0 : Int) < 2 ^ (min attempts 20).toNat := by positivity
  have hmin : i64Min ≤ 0 := by decide
  have htop : (2 : Int) ^ 20 ≤ i64Max := by decide
  unfold isI64
  simp only [Bool.and_eq_true, decide_eq_true_eq]
  omega

/-- For every admitted policy and every sequence of launch calls, with any other transactions
    between them, that starts without a launch of the session and asks for admissions at clock
    readings that do not decrease: launches come one at a time, never after a quarantine, and after
    the delay of their place in the window; a window admits at most `max_launch_attempts` of them,
    and an interval of its length at most twice as many less two; no sum or shift overflows. -/
theorem launch_admission_bound {input : SupervisionOverrides} {bounds : SupervisionBounds}
    (hpolicy : resolveSupervision compiledDefaults.supervision input = .ok bounds)
    {sessionId : SessionId} {db : Db} (hnew : db.launchAttempts sessionId = none)
    {steps : List LaunchStep}
    (hmeets : (launchMachine sessionId db).Meets
      (fun history step => step.Timed sessionId bounds.toSupervisionPolicy history)
      (launchMachine sessionId db).start steps) :
    LaunchLaw bounds.toSupervisionPolicy sessionId ((launchMachine sessionId db).run steps) := by
  obtain ⟨hwindow, -, hmax, hfits⟩ := resolveSupervision_restarts hpolicy
  have hledger : LaunchLedger bounds.toSupervisionPolicy
        (((launchMachine sessionId db).run steps).db.launchAttempts sessionId)
        ((launchMachine sessionId db).run steps).events ∧
      LaunchesSpaced bounds.toSupervisionPolicy ((launchMachine sessionId db).run steps).events := by
    refine Machine.invariant_runFrom
      (I := fun history => LaunchLedger bounds.toSupervisionPolicy
          (history.db.launchAttempts sessionId) history.events ∧
        LaunchesSpaced bounds.toSupervisionPolicy history.events) ?_ ?_ hmeets
    · rintro history step ⟨hledger, hspaced⟩ htimed
      exact htimed.rowStep.ledger hwindow hmax (fun slot hevent => htimed.reading hevent) hledger
        hspaced
    · constructor
      · show LaunchLedger _ (db.launchAttempts sessionId) []
        rw [hnew]
        rfl
      · constructor
        · intro newer slot older hevents
          simp [launchMachine] at hevents
        · intro newer later slot older hslots
          simp [launchMachine] at hslots
  obtain ⟨hledger, hspaced⟩ := hledger
  cases hrow : ((launchMachine sessionId db).run steps).db.launchAttempts sessionId with
  | none =>
      have hevents : ((launchMachine sessionId db).run steps).events = [] := by
        rw [hrow] at hledger
        exact hledger
      refine { hspaced with windows := ?_, full := ?_, interval := ?_, exact := ?_ }
      · rw [hevents]
        exact .nil
      · rw [hevents]
        intro slot hslot
        cases hslot
      · rw [hevents]
        intro start
        have hnone : Slot.countIn (slots []) start bounds.restartWindowSeconds = 0 := rfl
        omega
      · intro now window attempts hcounted
        exact hledger.exact hfits hcounted
  | some row =>
      have hrowLedger : RowLedger bounds.toSupervisionPolicy row
          ((launchMachine sessionId db).run steps).events := by
        rw [hrow] at hledger
        exact hledger
      exact
        { hspaced with
          windows := hrowLedger.windows
          full := hrowLedger.full
          interval := hrowLedger.interval hwindow hmax
          exact := fun now window attempts hcounted => hledger.exact hfits hcounted }

/-! ## A schedule around the opening of a window -/

/-- The session of one spawned worker. -/
def spawnedScope : SessionScope where
  sessionId := ⟨"session-1"⟩
  runId := ⟨"run-1"⟩
  agentId := ⟨"agent-1"⟩
  generation := 0

/-- A run with one worker whose launch intent is recorded. -/
def spawnedWorker : List Command :=
  [.startRun ⟨"run-1"⟩
      { id := ⟨"project-1"⟩, runId := ⟨"run-1"⟩, projectAlias := "primary",
        originalPath := "/work", canonicalPath := "/work", identity := .null, isPrimary := true,
        attachedAt := 0 } 0,
   .createTask { operationId := ⟨"op-1"⟩, runId := ⟨"run-1"⟩, caller := none, now := 0 } none
      { taskId := ⟨"task-1"⟩, title := "title", description := "description",
        projectAlias := "primary", projectId := ⟨"project-1"⟩, group := none,
        dependencies := [] },
   .spawnAgent { operationId := ⟨"op-2"⟩, runId := ⟨"run-1"⟩, caller := none, now := 0 }
      { role := "worker", taskId := ⟨"task-1"⟩, agentId := ⟨"agent-1"⟩,
        sessionId := ⟨"session-1"⟩, assignmentId := ⟨"assignment-1"⟩, workspaceKind := .project,
        runStateDirectory := "/state", baseCommit := none },
   .persistLaunchIntent
      { scope := spawnedScope, role := "worker", provider := "codex", contract := .null,
        tokenVerifier := [], createdAt := 0 } true (some ⟨"assignment-1"⟩)]

/-- An admission at a reading, and the report that the launch failed. -/
def failedLaunchAt (policy : SupervisionPolicy) (now : Int) : List LaunchStep :=
  [.command (.admitSessionLaunch spawnedScope now policy),
   .failSessionLaunch spawnedScope now policy]

/-- Failed launches around the opening of the second window. -/
def straddlingLaunches : List LaunchStep :=
  [0, 58, 60, 61, 63].flatMap (failedLaunchAt compiledDefaults.supervision.toSupervisionPolicy)

/-- Each of these calls is made with the compiled policy at a later reading. -/
theorem straddlingLaunches_timed :
    let machine := launchMachine ⟨"session-1"⟩ (storeMachine.run spawnedWorker)
    machine.Meets
      (fun history step =>
        step.Timed ⟨"session-1"⟩ compiledDefaults.supervision.toSupervisionPolicy history)
      machine.start straddlingLaunches := by
  decide +kernel

/-- Their history obeys the law. -/
theorem launch_admission_bound_straddling :
    LaunchLaw compiledDefaults.supervision.toSupervisionPolicy ⟨"session-1"⟩
      ((launchMachine ⟨"session-1"⟩ (storeMachine.run spawnedWorker)).run straddlingLaunches) := by
  have hpolicy : resolveSupervision compiledDefaults.supervision {} =
      .ok compiledDefaults.supervision := rfl
  exact launch_admission_bound hpolicy (by decide +kernel) straddlingLaunches_timed

/-- The compiled policy allows three launches in 60 seconds.  These calls get four admissions in
    the 60 seconds from 58 on, the first of them in the window of the launch at 0. -/
theorem launch_straddles_windows :
    let machine := launchMachine ⟨"session-1"⟩ (storeMachine.run spawnedWorker)
    machine.Meets
        (fun history step =>
          step.Timed ⟨"session-1"⟩ compiledDefaults.supervision.toSupervisionPolicy history)
        machine.start straddlingLaunches ∧
      ¬ (Slot.countIn (slots (machine.run straddlingLaunches).events) 58
          compiledDefaults.supervision.restartWindowSeconds : Int) ≤
        compiledDefaults.supervision.maxLaunchAttempts :=
  ⟨straddlingLaunches_timed, by decide +kernel⟩

end Coterie
