/-
  Coterie.Supervisor.Runtime

  The supervisor process around the run database: the provider sessions that it has handles of, and
  the provider processes that it has started.  A program of the supervisor reads the database,
  commits transactions and acts on the outside world, one step after the other.

  The process may die between any two of these steps.  `power` is the number of steps that it still
  takes: without power a transaction is not begun and a process is not started, so that a program
  whose power runs out leaves exactly the steps before that point.  A program that outlives its
  power is followed by a restart, which forgets the handles.
-/

import Coterie.Providers.Launch
import Coterie.Supervisor.Work

namespace Coterie

/-- Why a session operation was refused. -/
inductive AgentSessionError where
  | incompatibleProvider (message : String)
  | intentMismatch (sessionId : SessionId)
  | restartLimited (sessionId : SessionId) (retryAt : Option Int)
  | unresolvedIntent (sessionId : SessionId) (state : ExternalResourceState)
  | scopeMismatch (expected observed : SessionScope)
  | unknownSession (sessionId : SessionId)
  | provider (error : ProviderError)
deriving DecidableEq, Repr

/-- Why a program stopped. -/
inductive ProgramError where
  | crashed
  | request (error : RequestError)
  | session (error : AgentSessionError)
deriving DecidableEq, Repr

/-- The supervisor process and what it acts on. -/
structure Runtime where
  db : Db
  /-- The registered provider sessions. -/
  handles : List ProviderSessionHandle
  /-- The sessions for which a provider process was started, oldest first. -/
  started : List SessionId
  /-- The steps that the process takes before it dies. -/
  power : Nat
deriving DecidableEq, Repr

namespace Runtime

/-- Before anything was recorded. -/
def empty : Runtime where
  db := .empty
  handles := []
  started := []
  power := 0

/-- The handle of a session. -/
def handle (rt : Runtime) (sessionId : SessionId) : Option ProviderSessionHandle :=
  rt.handles.find? (·.scope.sessionId == sessionId)

/-- Register a handle, in the place of an earlier one of its session. -/
def register (rt : Runtime) (handle : ProviderSessionHandle) : Runtime :=
  { rt with
    handles := rt.handles.filter (·.scope.sessionId != handle.scope.sessionId) ++ [handle] }

end Runtime

/-- A program of the supervisor. -/
abbrev Program (α : Type) : Type := Tx Runtime ProgramError α

/-- Read a value computed from the database. -/
def consult {α : Type} (f : Db → α) : Program α :=
  Tx.read fun rt => f rt.db

/-- Read the database by a request that does not write it. -/
def query {α : Type} (x : Request α) : Program α :=
  ⟨fun rt => ((x.run rt.db).1.mapError .request, rt)⟩

/-- Commit one transaction. -/
def transact {α : Type} (x : Repo α) : Program α :=
  ⟨fun rt =>
    match rt.power with
    | 0 => (.error .crashed, rt)
    | power + 1 =>
        match (Tx.transaction x).run rt.db with
        | (.ok a, db) => (.ok a, { rt with db, power })
        | (.error e, db) => (.error (.request (.state e)), { rt with db, power })⟩

/-- Act on the outside world. -/
def act (f : Runtime → Runtime) : Program Unit :=
  ⟨fun rt =>
    match rt.power with
    | 0 => (.error .crashed, rt)
    | power + 1 => (.ok (), { f rt with power })⟩

/-- The runtime after a program that starts with some power: without power left, the process has
    died and the next one knows no handles. -/
def Program.exec {α : Type} (x : Program α) (power : Nat) (rt : Runtime) : Runtime :=
  let rt' := (x.run { rt with power }).2
  if rt'.power = 0 then { rt' with handles := [] } else rt'

/-! ## What programs do to the database -/

theorem query_ok {α : Type} {x : Request α} {a : α} {rt rt' : Runtime}
    (h : (query x).run rt = (.ok a, rt')) : (x.run rt.db).1 = .ok a ∧ rt' = rt := by
  simp only [query, Prod.mk.injEq] at h
  obtain ⟨hresult, rfl⟩ := h
  refine ⟨?_, rfl⟩
  cases hrun : (x.run rt.db).1 with
  | error e =>
      rw [hrun] at hresult
      cases hresult
  | ok b =>
      rw [hrun] at hresult
      cases hresult
      rfl

theorem query_runtime {α : Type} (x : Request α) (rt : Runtime) : ((query x).run rt).2 = rt := rfl

/-- A transaction commits, or leaves the database as it was. -/
theorem transact_cases {α : Type} (x : Repo α) (rt : Runtime) :
    (∃ a db power, x.run rt.db = (.ok a, db) ∧ rt.power = power + 1 ∧
      (transact x).run rt = (.ok a, { rt with db, power })) ∨
    ∃ e power, (transact x).run rt = (.error e, { rt with power }) := by
  obtain ⟨before, handles, started, power⟩ := rt
  cases power with
  | zero => exact .inr ⟨.crashed, 0, rfl⟩
  | succ power =>
      unfold transact
      dsimp only
      rcases Tx.transaction_cases x before with ⟨a, db, hx, ht⟩ | ⟨e, -, ht⟩
      · rw [ht]
        exact .inl ⟨a, db, power, hx, rfl, rfl⟩
      · rw [ht]
        exact .inr ⟨.request (.state e), power, rfl⟩

/-- The transaction that a successful step committed. -/
theorem transact_ok {α : Type} {x : Repo α} {a : α} {rt rt' : Runtime}
    (h : (transact x).run rt = (.ok a, rt')) :
    ∃ power, x.run rt.db = (.ok a, rt'.db) ∧ rt' = { rt with db := rt'.db, power } := by
  rcases transact_cases x rt with ⟨b, db, power, hx, -, ht⟩ | ⟨e, power, ht⟩
  · rw [ht] at h
    cases h
    exact ⟨power, hx, rfl⟩
  · rw [ht] at h
    cases h

/-- Whatever becomes of a transaction, the database after it is that of the committed or of the
    abandoned transaction. -/
theorem transact_db {α : Type} (x : Repo α) (rt : Runtime) :
    ((transact x).run rt).2.db = rt.db ∨
      ((transact x).run rt).2.db = ((Tx.transaction x).run rt.db).2 := by
  rcases transact_cases x rt with ⟨a, db, power, hx, -, ht⟩ | ⟨e, power, ht⟩
  · right
    rw [ht, Tx.transaction_eq_ok.mpr hx]
  · left
    rw [ht]

/-- A relation of databases as one of runtimes. -/
def onDb (R : Db → Db → Prop) (rt rt' : Runtime) : Prop :=
  R rt.db rt'.db

instance {R : Db → Db → Prop} [Std.Refl R] : Std.Refl (onDb R) where
  refl rt := Std.Refl.refl rt.db

instance {R : Db → Db → Prop} [IsTrans Db R] : IsTrans Runtime (onDb R) where
  trans a b c hab hbc := IsTrans.trans (r := R) a.db b.db c.db hab hbc

section Keeps

variable {R : Db → Db → Prop} [Std.Refl R] {α : Type}

theorem onDb_consult (f : Db → α) : Tx.Keeps (onDb R) (consult f) :=
  .read _

theorem onDb_query (x : Request α) : Tx.Keeps (onDb R) (query x) :=
  fun rt => Std.Refl.refl rt.db

theorem onDb_transact {x : Repo α} (h : Tx.Ensures R x) : Tx.Keeps (onDb R) (transact x) := by
  intro rt
  rcases transact_cases x rt with ⟨a, db, power, hx, -, ht⟩ | ⟨e, power, ht⟩
  · rw [ht]
    exact h rt.db a db hx
  · rw [ht]
    exact Std.Refl.refl rt.db

theorem onDb_act {f : Runtime → Runtime} (h : ∀ rt, (f rt).db = rt.db) :
    Tx.Keeps (onDb R) (act f) := by
  intro rt
  unfold act onDb
  dsimp only
  split
  · exact Std.Refl.refl rt.db
  · show R rt.db (f rt).db
    rw [h rt]
    exact Std.Refl.refl rt.db

end Keeps

end Coterie
