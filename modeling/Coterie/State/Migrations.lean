/-
  Coterie.State.Migrations

  Opening a run database (`state.rs`: `pending_migrations`, `Store::migrate`).  The ledger of
  applied migrations is compared with the migrations of the program, and each missing one is
  committed together with its ledger row.

  The rest of the database is a parameter `σ`, and so is what the statements of a migration do to
  it.  Processes that open one store are a machine: each takes one committed step at a time, in any
  order, and may die before or after a commit.  SQLite lets one process write at a time, so a
  transaction is one step.  The time at which a migration was applied is left out.

  What carries the proofs: whatever was interrupted, the store is the one that an uninterrupted run
  passes through after some of its migrations.
-/

import Coterie.Base.Except
import Coterie.Base.Machine
import Coterie.State.Schema

namespace Coterie

/-! ## Migrations -/

structure Migration where
  version : Int
  name : String
  sql : String
deriving DecidableEq, Repr

/-- Migrations in the order of their versions, of which there is at least one. -/
structure Ascending (ms : List Migration) : Prop where
  nonempty : ms ≠ []
  ordered : ms.Pairwise fun a b => a.version < b.version

/-- A row of `schema_migrations`; a text is `none` when the stored bytes are none. -/
structure AppliedMigration where
  version : Int
  name : Option String
  source : Option String
deriving DecidableEq, Repr

/-- The table `schema_migrations`.  Its primary key is the version, in whose order it is read. -/
structure Ledger where
  rows : List AppliedMigration
  ordered : rows.Pairwise fun a b => a.version < b.version

/-- The row that is written for a migration. -/
def Migration.row (migration : Migration) : AppliedMigration where
  version := migration.version
  name := some migration.name
  source := some migration.sql

/-- Why a store cannot be opened. -/
inductive MigrationError where
  | unsupportedSchema (found supported : Int)
  | noncontiguousMigrations (expected found : Int)
  | modifiedMigration (version : Int) (name : String)
  | missingLedger
  | busy
  | store (error : StoreError)
deriving DecidableEq, Repr

/-- One row as the query returns it. -/
def AppliedMigration.decode (row : AppliedMigration) :
    Except MigrationError (Int × String × String) :=
  match row.name, row.source with
  | some name, some source => .ok (row.version, name, source)
  | _, _ => .error (.store .unreadableText)

/-- Compare the applied migrations with those of the program, as far as both go. -/
def checkApplied : List (Int × String × String) → List Migration → Except MigrationError Unit
  | (version, name, source) :: applied, migration :: ms =>
      if version ≠ migration.version then
        .error (.noncontiguousMigrations migration.version version)
      else if name ≠ migration.name ∨ source ≠ migration.sql then
        .error (.modifiedMigration version name)
      else checkApplied applied ms
  | _, _ => .ok ()

/-- Refuse a ledger whose last version is newer than the program. -/
def checkSupported (ms : List Migration) (applied : List (Int × String × String)) :
    Except MigrationError Unit :=
  let supported := (ms.getLast?.map (·.version)).getD 0
  match applied.getLast? with
  | none => .ok ()
  | some (found, _, _) =>
      if supported < found then .error (.unsupportedSchema found supported) else .ok ()

/-- The migrations behind the first `n`; taking them panics when there are fewer. -/
def suffixFrom (ms : List Migration) (n : Nat) : Except MigrationError (List Migration) :=
  if n ≤ ms.length then .ok (ms.drop n)
  else .error (.store (.panicked "range start index out of range"))

/-- Readers and the supervisor must agree on which historical schemas can upgrade. -/
def pendingMigrations (ms : List Migration) (rows : List AppliedMigration) :
    Except MigrationError (List Migration) := do
  let applied ← rows.mapM AppliedMigration.decode
  checkSupported ms applied
  checkApplied applied ms
  suffixFrom ms applied.length

/-! ## What is pending -/

/-- The columns of a migration that are compared. -/
def Migration.columns (migration : Migration) : Int × String × String :=
  (migration.version, migration.name, migration.sql)

/-- A row is read as the columns that it holds as texts. -/
theorem decode_eq_ok (row : AppliedMigration) (columns : Int × String × String) :
    row.decode = .ok columns ↔ row = ⟨columns.1, some columns.2.1, some columns.2.2⟩ := by
  obtain ⟨version, name, source⟩ := row
  obtain ⟨version', name', source'⟩ := columns
  unfold AppliedMigration.decode
  cases name with
  | none => simp
  | some n =>
      cases source with
      | none => simp
      | some t => simp

/-- The comparison goes through when both lists agree as far as the shorter one goes. -/
theorem checkApplied_eq_ok {applied : List (Int × String × String)} {ms : List Migration} :
    checkApplied applied ms = .ok () ↔
      applied.take ms.length = (ms.take applied.length).map Migration.columns := by
  induction applied generalizing ms with
  | nil => simp [checkApplied]
  | cons triple rest ih =>
      obtain ⟨version, name, source⟩ := triple
      cases ms with
      | nil => simp [checkApplied]
      | cons migration ms =>
          rw [checkApplied, List.length_cons, List.length_cons, List.take_succ_cons,
            List.take_succ_cons, List.map_cons, List.cons.injEq, Migration.columns, ← ih]
          by_cases hversion : version ≠ migration.version
          · rw [if_pos hversion]
            simp [hversion]
          rw [if_neg hversion]
          by_cases htext : name ≠ migration.name ∨ source ≠ migration.sql
          · rw [if_pos htext]
            constructor
            · intro h
              cases h
            · rintro ⟨hsame, -⟩
              simp only [Prod.mk.injEq] at hsame
              rcases htext with h | h
              · exact absurd hsame.2.1 h
              · exact absurd hsame.2.2 h
          · rw [if_neg htext]
            push Not at hversion htext
            rw [hversion, htext.1, htext.2]
            simp

section

variable {ms : List Migration} {rows : List AppliedMigration}

/-- The version of the last migration. -/
theorem getLast?_version (hms : Ascending ms) :
    ∃ last ∈ ms, ms.getLast? = some last ∧ ∀ migration ∈ ms, migration.version ≤ last.version := by
  obtain ⟨init, last, rfl⟩ := List.eq_nil_or_concat ms |>.resolve_left hms.nonempty
  refine ⟨last, by simp, by simp, fun migration hmem => ?_⟩
  rw [List.concat_eq_append] at hmem
  have hordered := hms.ordered
  rw [List.concat_eq_append, List.pairwise_append] at hordered
  rcases List.mem_append.mp hmem with hinit | hlast
  · exact Int.le_of_lt (hordered.2.2 migration hinit last (List.mem_singleton_self _))
  · exact Int.le_of_eq (congrArg Migration.version (List.mem_singleton.mp hlast))

/-- A ledger that passes both checks is no longer than the program's list. -/
theorem length_le_of_checks (hms : Ascending ms) {applied : List (Int × String × String)}
    (hordered : applied.Pairwise fun a b => a.1 < b.1)
    (hsupported : checkSupported ms applied = .ok ()) (hchecked : checkApplied applied ms = .ok ()) :
    applied.length ≤ ms.length := by
  by_contra hlong
  rw [Nat.not_le] at hlong
  obtain ⟨last, hmem, hlast, -⟩ := getLast?_version hms
  have hagree := checkApplied_eq_ok.mp hchecked
  rw [List.take_of_length_le (Nat.le_of_lt hlong)] at hagree
  -- the row of the last migration is followed by another one, whose version is greater
  have hrow : last.columns ∈ applied.take ms.length := by
    rw [hagree]
    exact List.mem_map_of_mem hmem
  obtain ⟨found, hfound⟩ : ∃ found, applied.getLast? = some found := by
    cases happlied : applied.getLast? with
    | none =>
        rw [List.getLast?_eq_none_iff.mp happlied] at hlong
        simp at hlong
    | some found => exact ⟨found, rfl⟩
  have hbehind : found ∈ applied.drop ms.length := by
    have hdrop : (applied.drop ms.length).getLast? = some found := by
      rw [List.getLast?_drop, if_neg (Nat.not_le.mpr hlong), hfound]
    exact List.mem_of_getLast? hdrop
  rw [← List.take_append_drop ms.length applied, List.pairwise_append] at hordered
  have hless : last.version < found.1 := hordered.2.2 _ hrow _ hbehind
  rw [checkSupported, hlast, hfound] at hsupported
  dsimp only [Option.map_some, Option.getD_some] at hsupported
  rw [if_pos hless] at hsupported
  cases hsupported

/-- What is pending is what is left when the rows record a first part of the migrations. -/
theorem pendingMigrations_eq_ok (hms : Ascending ms)
    (hrows : rows.Pairwise fun a b => a.version < b.version) {pending : List Migration} :
    pendingMigrations ms rows = .ok pending ↔
      ∃ applied, ms = applied ++ pending ∧ rows = applied.map Migration.row := by
  constructor
  · intro h
    obtain ⟨applied, hdecode, h⟩ := Except.bind_eq_ok.mp h
    obtain ⟨_, hsupported, h⟩ := Except.bind_eq_ok.mp h
    obtain ⟨_, hchecked, hsuffix⟩ := Except.bind_eq_ok.mp h
    have hencoded := (Except.mapM_eq_ok_of_inverse decode_eq_ok).mp hdecode
    have hordered : applied.Pairwise fun a b => a.1 < b.1 := by
      rw [hencoded, List.pairwise_map] at hrows
      exact hrows
    have hle := length_le_of_checks hms hordered hsupported hchecked
    rw [suffixFrom, if_pos hle] at hsuffix
    refine ⟨ms.take applied.length, ?_, ?_⟩
    · rw [← Except.ok.inj hsuffix, List.take_append_drop]
    · have hagree := checkApplied_eq_ok.mp hchecked
      rw [List.take_of_length_le hle] at hagree
      rw [hencoded]
      conv_lhs => rw [hagree]
      rw [List.map_map]
      rfl
  · rintro ⟨applied, rfl, rfl⟩
    have hdecode : (applied.map Migration.row).mapM AppliedMigration.decode =
        .ok (applied.map Migration.columns) := by
      rw [Except.mapM_eq_ok_of_inverse decode_eq_ok, List.map_map]
      rfl
    have hlength : (applied.map Migration.columns).length ≤ (applied ++ pending).length := by
      rw [List.length_map, List.length_append]
      exact Nat.le_add_right _ _
    refine Except.bind_eq_ok.mpr ⟨_, hdecode, Except.bind_eq_ok.mpr ⟨(), ?_, ?_⟩⟩
    · obtain ⟨last, -, hlast, hmax⟩ := getLast?_version hms
      rw [checkSupported, hlast]
      cases hfound : (applied.map Migration.columns).getLast? with
      | none => rfl
      | some found =>
          obtain ⟨migration, hmem, rfl⟩ := List.mem_map.mp (List.mem_of_getLast? hfound)
          exact if_neg (Int.not_lt.mpr (hmax migration (List.mem_append_left _ hmem)))
    · refine Except.bind_eq_ok.mpr ⟨(), ?_, ?_⟩
      · rw [checkApplied_eq_ok, List.take_of_length_le hlength, List.length_map,
          List.take_left]
      · rw [suffixFrom, if_pos hlength, List.length_map, List.drop_left]

end

/-! ## One migration -/

/-- The place of a row in the order of the versions. -/
def insertRow (row : AppliedMigration) : List AppliedMigration → List AppliedMigration
  | [] => [row]
  | other :: rest =>
      if row.version < other.version then row :: other :: rest else other :: insertRow row rest

theorem mem_insertRow {row other : AppliedMigration} {rows : List AppliedMigration} :
    other ∈ insertRow row rows ↔ other = row ∨ other ∈ rows := by
  induction rows with
  | nil => simp [insertRow]
  | cons first rest ih =>
      rw [insertRow]
      split
      · exact List.mem_cons
      · rw [List.mem_cons, ih, List.mem_cons]
        tauto

theorem insertRow_ordered {row : AppliedMigration} {rows : List AppliedMigration}
    (hnew : ∀ other ∈ rows, other.version ≠ row.version)
    (h : rows.Pairwise fun a b => a.version < b.version) :
    (insertRow row rows).Pairwise fun a b => a.version < b.version := by
  induction rows with
  | nil => exact List.pairwise_singleton _ _
  | cons first rest ih =>
      obtain ⟨hfirst, hrest⟩ := List.pairwise_cons.mp h
      obtain ⟨hne, hnew'⟩ := List.forall_mem_cons.mp hnew
      rw [insertRow]
      split
      · next hless =>
          refine List.pairwise_cons.mpr ⟨fun other hother => ?_, h⟩
          rcases List.mem_cons.mp hother with rfl | hother
          · exact hless
          · have hafter := hfirst other hother
            omega
      · refine List.pairwise_cons.mpr ⟨fun other hother => ?_, ih hnew' hrest⟩
        rcases mem_insertRow.mp hother with rfl | hother
        · omega
        · exact hfirst other hother

/-- A row newer than all others comes last. -/
theorem insertRow_newest {row : AppliedMigration} {rows : List AppliedMigration}
    (h : ∀ other ∈ rows, other.version < row.version) : insertRow row rows = rows ++ [row] := by
  induction rows with
  | nil => rfl
  | cons first rest ih =>
      obtain ⟨hfirst, hrest⟩ := List.forall_mem_cons.mp h
      rw [insertRow, if_neg (by omega), ih hrest, List.cons_append]

/-- Insert a row, unless its key is taken. -/
def Ledger.insert (ledger : Ledger) (row : AppliedMigration) : Except MigrationError Ledger :=
  if h : ∃ other ∈ ledger.rows, other.version = row.version then
    .error (.store (.database (.unique "schema_migrations.version")))
  else
    .ok ⟨insertRow row ledger.rows, insertRow_ordered
      (fun other hother hsame => h ⟨other, hother, hsame⟩) ledger.ordered⟩

/-- A ledger without rows. -/
def Ledger.empty : Ledger := ⟨[], List.Pairwise.nil⟩

/-- A run database as far as opening it is concerned: its ledger, if the table exists, whether the
    triggers that make it append-only do, and everything else. -/
structure MigratedStore (σ : Type) where
  ledger : Option Ledger
  updatesRefused : Bool
  deletesRefused : Bool
  content : σ

/-- The statements that create the ledger where there is none. -/
inductive LedgerStatement where
  | createTable
  | refuseUpdates
  | refuseDeletes
deriving DecidableEq, Repr

def ledgerStatements : List LedgerStatement :=
  [.createTable, .refuseUpdates, .refuseDeletes]

section Store

variable {σ : Type} (execute : String → σ → Except StoreError σ)

namespace MigratedStore

/-- The rows of the ledger. -/
def rows (store : MigratedStore σ) : List AppliedMigration :=
  (store.ledger.getD .empty).rows

theorem rows_ordered (store : MigratedStore σ) :
    store.rows.Pairwise fun a b => a.version < b.version :=
  (store.ledger.getD .empty).ordered

/-- The store after one of the statements. -/
def create (store : MigratedStore σ) : LedgerStatement → MigratedStore σ
  | .createTable => { store with ledger := some (store.ledger.getD .empty) }
  | .refuseUpdates => { store with updatesRefused := true }
  | .refuseDeletes => { store with deletesRefused := true }

/-- The store after all of them. -/
def prepare (store : MigratedStore σ) : MigratedStore σ :=
  ledgerStatements.foldl create store

@[simp]
theorem prepare_create (store : MigratedStore σ) (statement : LedgerStatement) :
    (store.create statement).prepare = store.prepare := by
  cases statement <;> rfl

@[simp]
theorem prepare_prepare (store : MigratedStore σ) : store.prepare.prepare = store.prepare := rfl

@[simp]
theorem rows_prepare (store : MigratedStore σ) : store.prepare.rows = store.rows := rfl

/-- One transaction: the statements of a migration and its ledger row. -/
def apply (store : MigratedStore σ) (migration : Migration) :
    Except MigrationError (MigratedStore σ) := do
  let content ← (execute migration.sql store.content).mapError .store
  match store.ledger with
  | none => .error .missingLedger
  | some ledger => do
      let ledger ← ledger.insert migration.row
      pure { store with ledger := some ledger, content }

/-- Apply some migrations in order, each in its own transaction, up to the first that fails. -/
def applyAll : MigratedStore σ → List Migration → Except MigrationError Unit × MigratedStore σ
  | store, [] => (.ok (), store)
  | store, migration :: rest =>
      match store.apply execute migration with
      | .error error => (.error error, store)
      | .ok store => store.applyAll rest

/-- Open a store without interruption. -/
def migrate (ms : List Migration) (store : MigratedStore σ) :
    Except MigrationError Unit × MigratedStore σ :=
  let prepared := store.prepare
  match pendingMigrations ms prepared.rows with
  | .error error => (.error error, prepared)
  | .ok pending => prepared.applyAll execute pending

variable {execute}

/-- What a transaction that commits has found and written. -/
theorem apply_eq_ok {store store' : MigratedStore σ} {migration : Migration} :
    store.apply execute migration = .ok store' ↔
      ∃ content ledger ledger', execute migration.sql store.content = .ok content ∧
        store.ledger = some ledger ∧ ledger.insert migration.row = .ok ledger' ∧
        store' = { store with ledger := some ledger', content } := by
  unfold apply
  rw [Except.bind_eq_ok]
  constructor
  · rintro ⟨content, hexecute, h⟩
    cases hledger : store.ledger with
    | none =>
        rw [hledger] at h
        cases h
    | some ledger =>
        rw [hledger] at h
        obtain ⟨ledger', hinsert, hpure⟩ := Except.bind_eq_ok.mp h
        refine ⟨content, ledger, ledger', ?_, rfl, hinsert, (Except.pure_eq_ok.mp hpure).symm⟩
        cases hrun : execute migration.sql store.content with
        | error error =>
            rw [hrun] at hexecute
            cases hexecute
        | ok content' =>
            rw [hrun] at hexecute
            cases hexecute
            rfl
  · rintro ⟨content, ledger, ledger', hexecute, hledger, hinsert, rfl⟩
    refine ⟨content, by rw [hexecute]; rfl, ?_⟩
    rw [hledger]
    exact Except.bind_eq_ok.mpr ⟨ledger', hinsert, rfl⟩

/-- A key that is taken is not inserted again. -/
theorem insert_eq_ok {ledger ledger' : Ledger} {row : AppliedMigration}
    (h : ledger.insert row = .ok ledger') :
    (∀ other ∈ ledger.rows, other.version ≠ row.version) ∧
      ledger'.rows = insertRow row ledger.rows := by
  unfold Ledger.insert at h
  split at h
  · cases h
  · next hnew =>
      refine ⟨fun other hother hsame => hnew ⟨other, hother, hsame⟩, ?_⟩
      rw [← Except.ok.inj h]

/-- A migration whose version the ledger has is not applied. -/
theorem apply_fresh {store store' : MigratedStore σ} {migration : Migration}
    (h : store.apply execute migration = .ok store') :
    ∀ row ∈ store.rows, row.version ≠ migration.version := by
  obtain ⟨_, ledger, _, -, hledger, hinsert, -⟩ := apply_eq_ok.mp h
  intro row hrow
  rw [rows, hledger] at hrow
  exact (insert_eq_ok hinsert).1 row hrow

/-- The rows after a transaction. -/
theorem apply_rows {store store' : MigratedStore σ} {migration : Migration}
    (h : store.apply execute migration = .ok store') :
    store'.rows = insertRow migration.row store.rows := by
  obtain ⟨_, ledger, ledger', -, hledger, hinsert, rfl⟩ := apply_eq_ok.mp h
  rw [rows, rows, hledger]
  exact (insert_eq_ok hinsert).2

/-- A transaction commits the same, whether or not the ledger was prepared before. -/
theorem apply_prepare {store store' : MigratedStore σ} {migration : Migration}
    (h : store.apply execute migration = .ok store') :
    store.prepare.apply execute migration = .ok store'.prepare := by
  obtain ⟨content, ledger, ledger', hexecute, hledger, hinsert, rfl⟩ := apply_eq_ok.mp h
  refine apply_eq_ok.mpr ⟨content, ledger, ledger', hexecute, ?_, hinsert, rfl⟩
  show some (store.ledger.getD .empty) = some ledger
  rw [hledger]
  rfl

theorem applyAll_cons (store : MigratedStore σ) (migration : Migration) (rest : List Migration) :
    store.applyAll execute (migration :: rest) =
      match store.apply execute migration with
      | .error error => (.error error, store)
      | .ok store => store.applyAll execute rest := rfl

theorem applyAll_append {store store' : MigratedStore σ} {before after : List Migration}
    (h : store.applyAll execute before = (.ok (), store')) :
    store.applyAll execute (before ++ after) = store'.applyAll execute after := by
  induction before generalizing store with
  | nil =>
      obtain rfl := congrArg Prod.snd h
      rfl
  | cons migration rest ih =>
      rw [List.cons_append, applyAll_cons]
      rw [applyAll_cons] at h
      cases happly : store.apply execute migration with
      | error error =>
          rw [happly] at h
          cases h
      | ok next =>
          rw [happly] at h
          exact ih h

/-- Migrations that continue the ledger are recorded behind its rows. -/
theorem applyAll_rows {store store' : MigratedStore σ} {applied pending : List Migration}
    (hordered : (applied ++ pending).Pairwise fun a b => a.version < b.version)
    (hrows : store.rows = applied.map Migration.row)
    (h : store.applyAll execute pending = (.ok (), store')) :
    store'.rows = (applied ++ pending).map Migration.row := by
  induction pending generalizing store applied with
  | nil =>
      obtain rfl := congrArg Prod.snd h
      rw [List.append_nil]
      exact hrows
  | cons migration rest ih =>
      rw [applyAll_cons] at h
      cases happly : store.apply execute migration with
      | error error =>
          rw [happly] at h
          cases h
      | ok next =>
          rw [happly] at h
          rw [List.append_cons]
          refine ih (by rw [← List.append_cons]; exact hordered) ?_ h
          rw [apply_rows happly, hrows, insertRow_newest, List.map_append]
          · rfl
          · intro row hrow
            obtain ⟨earlier, hearlier, rfl⟩ := List.mem_map.mp hrow
            exact (List.pairwise_append.mp hordered).2.2 earlier hearlier migration
              List.mem_cons_self

end MigratedStore

end Store

/-! ## Processes -/

/-- How far a process is with opening the store. -/
inductive MigrationPhase where
  | gone
  | creating (statements : List LedgerStatement)
  | reading
  | applying (pending : List Migration)
  | ready
  | failed (error : MigrationError)
deriving DecidableEq, Repr

/-- What may keep a step from taking effect, or end its process after it did: the process dies at
    one of the fault points, or waits too long for another writer. -/
inductive MigrationFault where
  | before
  | written
  | committed
  | busy
deriving DecidableEq, Repr

/-- A store and the processes that open it, with the migrations that were committed so far. -/
structure MigrationRun (π σ : Type) where
  store : MigratedStore σ
  phase : π → MigrationPhase
  committed : List Migration

/-- A process starts, in the place of an earlier one, or takes its next step. -/
inductive MigrationInput (π : Type) where
  | start (process : π)
  | step (process : π) (fault : Option MigrationFault)

section Run

variable {π σ : Type} [DecidableEq π]

namespace MigrationRun

/-- A process enters a phase. -/
def enter (s : MigrationRun π σ) (process : π) (phase : MigrationPhase) : MigrationRun π σ :=
  { s with phase := Function.update s.phase process phase }

@[simp]
theorem enter_phase_self (s : MigrationRun π σ) (process : π) (phase : MigrationPhase) :
    (s.enter process phase).phase process = phase :=
  Function.update_self _ _ _

theorem enter_phase_of_ne (s : MigrationRun π σ) {process other : π} (phase : MigrationPhase)
    (h : other ≠ process) : (s.enter process phase).phase other = s.phase other :=
  Function.update_of_ne h _ _

/-- A step commits a store, unless a fault prevents it. -/
def commit (s : MigrationRun π σ) (process : π) (fault : Option MigrationFault)
    (store : MigratedStore σ) (log : List Migration) (next : MigrationPhase) :
    MigrationRun π σ :=
  match fault with
  | none => { s with store, committed := s.committed ++ log }.enter process next
  | some .committed => { s with store, committed := s.committed ++ log }.enter process .gone
  | some .before | some .written => s.enter process .gone
  | some .busy => s.enter process (.failed .busy)

variable (execute : String → σ → Except StoreError σ) (ms : List Migration)

/-- The next step of a process. -/
def advance (s : MigrationRun π σ) (process : π) (fault : Option MigrationFault) :
    MigrationRun π σ :=
  match s.phase process with
  | .creating (statement :: rest) =>
      s.commit process fault (s.store.create statement) [] (.creating rest)
  | .creating [] => s.enter process .reading
  | .reading =>
      match s.store.ledger with
      | none => s.commit process fault s.store [] (.failed .missingLedger)
      | some ledger =>
          match pendingMigrations ms ledger.rows with
          | .error error => s.commit process fault s.store [] (.failed error)
          | .ok pending => s.commit process fault s.store [] (.applying pending)
  | .applying (migration :: rest) =>
      match s.store.apply execute migration with
      | .error error => s.commit process fault s.store [] (.failed error)
      | .ok store => s.commit process fault store [migration] (.applying rest)
  | .applying [] => s.enter process .ready
  | .gone | .ready | .failed _ => s

end MigrationRun

/-- Processes that open a store in any order, with any interruptions. -/
def migrationMachine (execute : String → σ → Except StoreError σ) (ms : List Migration)
    (start : MigratedStore σ) : Machine (MigrationRun π σ) (MigrationInput π) where
  start := { store := start, phase := fun _ => .gone, committed := [] }
  step := fun input s =>
    match input with
    | .start process => s.enter process (.creating ledgerStatements)
    | .step process fault => s.advance execute ms process fault

/-! ## Where a run is -/

variable {execute : String → σ → Except StoreError σ} {ms : List Migration}
  {start : MigratedStore σ} {s : MigrationRun π σ}

variable (execute ms start) in
/-- A run has come some way along the uninterrupted one: it has committed the first migrations of
    those that were pending at its start.  A process that is applying migrations may be behind it,
    but not ahead. -/
structure Resumes (s : MigrationRun π σ) : Prop where
  reached : start.prepare.applyAll execute s.committed = (.ok (), s.store.prepare)
  refused : ∀ error, pendingMigrations ms start.rows = .error error → s.committed = []
  planned : ∀ pending, pendingMigrations ms start.rows = .ok pending → s.committed <+: pending
  applying : ∀ process rest, s.phase process = .applying rest →
    ∃ done, pendingMigrations ms start.rows = .ok (done ++ rest) ∧ done <+: s.committed
  ready : ∀ process, s.phase process = .ready →
    pendingMigrations ms start.rows = .ok s.committed

namespace Resumes

theorem start_of_run :
    Resumes execute ms start (migrationMachine (π := π) execute ms start).start where
  reached := rfl
  refused _ _ := rfl
  planned _ _ := List.nil_prefix
  applying _ _ h := by cases h
  ready _ h := by cases h

/-- A process enters a phase that the run allows. -/
theorem enter (h : Resumes execute ms start s) (process : π) {phase : MigrationPhase}
    (happlying : ∀ rest, phase = .applying rest →
      ∃ done, pendingMigrations ms start.rows = .ok (done ++ rest) ∧ done <+: s.committed)
    (hready : phase = .ready → pendingMigrations ms start.rows = .ok s.committed) :
    Resumes execute ms start (s.enter process phase) where
  reached := h.reached
  refused := h.refused
  planned := h.planned
  applying := by
    intro other rest hphase
    by_cases hsame : other = process
    · rw [hsame, MigrationRun.enter_phase_self] at hphase
      exact happlying rest hphase
    · rw [s.enter_phase_of_ne phase hsame] at hphase
      exact h.applying other rest hphase
  ready := by
    intro other hphase
    by_cases hsame : other = process
    · rw [hsame, MigrationRun.enter_phase_self] at hphase
      exact hready hphase
    · rw [s.enter_phase_of_ne phase hsame] at hphase
      exact h.ready other hphase

/-- A process that stops changes nothing for the others. -/
theorem leave (h : Resumes execute ms start s) (process : π) {phase : MigrationPhase}
    (happlying : ∀ rest, phase ≠ .applying rest) (hready : phase ≠ .ready) :
    Resumes execute ms start (s.enter process phase) :=
  h.enter process (fun rest hphase => absurd hphase (happlying rest))
    fun hphase => absurd hphase hready

omit [DecidableEq π] in
/-- A store with more of the planned migrations. -/
theorem extend (h : Resumes execute ms start s) {store : MigratedStore σ} {log : List Migration}
    (hreached : start.prepare.applyAll execute (s.committed ++ log) = (.ok (), store.prepare))
    (hlog : log = [] ∨ ∃ rest, pendingMigrations ms start.rows = .ok (s.committed ++ log ++ rest)) :
    Resumes execute ms start { s with store, committed := s.committed ++ log } where
  reached := hreached
  refused := by
    intro error herror
    rcases hlog with rfl | ⟨rest, hplan⟩
    · rw [List.append_nil]
      exact h.refused error herror
    · rw [herror] at hplan
      cases hplan
  planned := by
    intro pending hpending
    rcases hlog with rfl | ⟨rest, hplan⟩
    · rw [List.append_nil]
      exact h.planned pending hpending
    · rw [hpending] at hplan
      rw [Except.ok.inj hplan]
      exact ⟨rest, rfl⟩
  applying := by
    intro process rest hphase
    obtain ⟨done, hplan, hdone⟩ := h.applying process rest hphase
    exact ⟨done, hplan, hdone.trans ⟨log, rfl⟩⟩
  ready := by
    intro process hphase
    have hplan := h.ready process hphase
    rcases hlog with rfl | ⟨rest, hmore⟩
    · rw [List.append_nil]
      exact hplan
    · -- nothing is left to be committed once a process is ready
      rw [hplan, Except.ok.injEq, List.append_assoc, List.self_eq_append_right,
        List.append_eq_nil_iff] at hmore
      rw [hmore.1, List.append_nil]
      exact hplan

/-- A step of a process, under every fault. -/
theorem commit (h : Resumes execute ms start s) (process : π) (fault : Option MigrationFault)
    {store : MigratedStore σ} {log : List Migration} {next : MigrationPhase}
    (hreached : start.prepare.applyAll execute (s.committed ++ log) = (.ok (), store.prepare))
    (hlog : log = [] ∨ ∃ rest, pendingMigrations ms start.rows = .ok (s.committed ++ log ++ rest))
    (happlying : ∀ rest, next = .applying rest → ∃ done,
      pendingMigrations ms start.rows = .ok (done ++ rest) ∧ done <+: s.committed ++ log)
    (hready : next ≠ .ready) :
    Resumes execute ms start (s.commit process fault store log next) := by
  have hextended := h.extend hreached hlog
  have hgone : ∀ rest, MigrationPhase.gone ≠ .applying rest := fun _ h => by cases h
  cases fault with
  | none => exact hextended.enter process happlying fun hphase => absurd hphase hready
  | some fault =>
      cases fault with
      | before => exact h.leave process hgone (by intro h; cases h)
      | written => exact h.leave process hgone (by intro h; cases h)
      | committed => exact hextended.leave process hgone (by intro h; cases h)
      | busy => exact h.leave process (fun _ h => by cases h) (by intro h; cases h)

omit [DecidableEq π] in
/-- What is pending later is what is left of what was pending at the start. -/
theorem pending_rest (hms : Ascending ms) (h : Resumes execute ms start s) {rest : List Migration}
    (hplan : pendingMigrations ms start.rows = .ok (s.committed ++ rest)) :
    pendingMigrations ms s.store.rows = .ok rest := by
  obtain ⟨applied, hsplit, hrows⟩ :=
    (pendingMigrations_eq_ok hms start.prepare.rows_ordered).mp hplan
  have hordered := hms.ordered
  rw [hsplit, ← List.append_assoc] at hordered
  have hnow : s.store.prepare.rows = (applied ++ s.committed).map Migration.row :=
    MigratedStore.applyAll_rows (List.pairwise_append.mp hordered).1 hrows h.reached
  refine (pendingMigrations_eq_ok hms s.store.rows_ordered).mpr ⟨applied ++ s.committed, ?_, hnow⟩
  rw [hsplit, List.append_assoc]

omit [DecidableEq π] in
/-- A store that is refused at the start is refused later. -/
theorem pending_error (h : Resumes execute ms start s) {error : MigrationError}
    (hplan : pendingMigrations ms start.rows = .error error) :
    s.store.prepare = start.prepare := by
  have hreached := h.reached
  rw [h.refused error hplan] at hreached
  exact (congrArg Prod.snd hreached).symm

omit [DecidableEq π] in
theorem rows_of_error (h : Resumes execute ms start s) {error : MigrationError}
    (hplan : pendingMigrations ms start.rows = .error error) : s.store.rows = start.rows := by
  rw [← s.store.rows_prepare, h.pending_error hplan, start.rows_prepare]

omit [DecidableEq π] in
/-- What a process reads is the rest of what was pending at the start. -/
theorem plan_of_pending (hms : Ascending ms) (h : Resumes execute ms start s)
    {pending : List Migration} (hpending : pendingMigrations ms s.store.rows = .ok pending) :
    pendingMigrations ms start.rows = .ok (s.committed ++ pending) := by
  cases hplan : pendingMigrations ms start.rows with
  | error error =>
      rw [h.rows_of_error hplan, hplan] at hpending
      cases hpending
  | ok planned =>
      obtain ⟨rest, rfl⟩ := h.planned planned hplan
      rw [h.pending_rest hms hplan] at hpending
      rw [Except.ok.inj hpending]

omit [DecidableEq π] in
/-- A migration that commits is the next of the plan. -/
theorem next_of_apply (hms : Ascending ms) (h : Resumes execute ms start s)
    {store : MigratedStore σ} {migration : Migration} {done rest : List Migration}
    (hplan : pendingMigrations ms start.rows = .ok (done ++ migration :: rest))
    (hdone : done <+: s.committed) (happly : s.store.apply execute migration = .ok store) :
    s.committed = done := by
  obtain ⟨more, hmore⟩ := hdone
  cases more with
  | nil => rw [← hmore, List.append_nil]
  | cons other more =>
      -- the migration was committed before, so its version is taken
      exfalso
      obtain ⟨left, hleft⟩ := h.planned _ hplan
      rw [← hmore, List.append_assoc] at hleft
      obtain ⟨rfl, -⟩ := List.cons.inj (List.append_cancel_left hleft)
      obtain ⟨applied, hsplit, hrows⟩ :=
        (pendingMigrations_eq_ok hms start.prepare.rows_ordered).mp hplan
      have hordered := hms.ordered
      obtain ⟨left, hleft⟩ := h.planned _ hplan
      rw [hsplit, ← hleft, ← List.append_assoc] at hordered
      have hnow : s.store.prepare.rows = (applied ++ s.committed).map Migration.row :=
        MigratedStore.applyAll_rows (List.pairwise_append.mp hordered).1 hrows h.reached
      refine MigratedStore.apply_fresh happly other.row ?_ rfl
      rw [← MigratedStore.rows_prepare, hnow]
      refine List.mem_map_of_mem (List.mem_append_right _ ?_)
      rw [← hmore]
      exact List.mem_append_right _ List.mem_cons_self

/-- Every step of every process keeps the run on its way. -/
theorem advance (hms : Ascending ms) (h : Resumes execute ms start s) (process : π)
    (fault : Option MigrationFault) :
    Resumes execute ms start (s.advance execute ms process fault) := by
  have hsame : start.prepare.applyAll execute (s.committed ++ []) = (.ok (), s.store.prepare) := by
    rw [List.append_nil]
    exact h.reached
  unfold MigrationRun.advance
  cases hphase : s.phase process with
  | gone => exact h
  | ready => exact h
  | failed error => exact h
  | creating statements =>
      cases statements with
      | nil => exact h.leave process (fun _ h => by cases h) (by intro h; cases h)
      | cons statement rest =>
          refine h.commit process fault ?_ (.inl rfl) (fun _ h => by cases h) (by intro h; cases h)
          rw [MigratedStore.prepare_create]
          exact hsame
  | reading =>
      dsimp only
      cases hledger : s.store.ledger with
      | none =>
          exact h.commit process fault hsame (.inl rfl) (by intro _ h; cases h)
            (by intro h; cases h)
      | some ledger =>
          have hrows : s.store.rows = ledger.rows := by rw [MigratedStore.rows, hledger]; rfl
          dsimp only
          cases hpending : pendingMigrations ms ledger.rows with
          | error error =>
              exact h.commit process fault hsame (.inl rfl) (by intro _ h; cases h)
                (by intro h; cases h)
          | ok pending =>
              rw [← hrows] at hpending
              refine h.commit process fault hsame (.inl rfl) ?_ (by intro h; cases h)
              intro rest hrest
              cases hrest
              exact ⟨s.committed, h.plan_of_pending hms hpending, List.prefix_append _ _⟩
  | applying pending =>
      obtain ⟨done, hplan, hdone⟩ := h.applying process pending hphase
      cases pending with
      | nil =>
          refine h.enter process (fun _ h => by cases h) fun _ => ?_
          rw [List.append_nil] at hplan
          rw [hplan, (h.planned _ hplan).eq_of_length_le hdone.length_le]
      | cons migration rest =>
          dsimp only
          cases happly : s.store.apply execute migration with
          | error error =>
              exact h.commit process fault hsame (.inl rfl) (by intro _ h; cases h)
                (by intro h; cases h)
          | ok store =>
              have hnext := h.next_of_apply hms hplan hdone happly
              have hplan' : pendingMigrations ms start.rows =
                  .ok (s.committed ++ [migration] ++ rest) := by
                rw [hplan, hnext, ← List.append_cons]
              refine h.commit process fault ?_ (.inr ⟨rest, hplan'⟩) ?_ (by intro h; cases h)
              · rw [MigratedStore.applyAll_append h.reached, MigratedStore.applyAll_cons,
                  MigratedStore.apply_prepare happly]
                rfl
              · intro rest' hrest
                cases hrest
                exact ⟨s.committed ++ [migration], hplan', List.prefix_refl _⟩

variable (execute start) in
/-- Wherever a run is, it is on its way. -/
theorem run (hms : Ascending ms) (inputs : List (MigrationInput π)) :
    Resumes execute ms start ((migrationMachine execute ms start).run inputs) := by
  refine Machine.invariant_run start_of_run (fun s input h => ?_) inputs
  cases input with
  | start process => exact h.leave process (fun _ h => by cases h) (by intro h; cases h)
  | step process fault => exact h.advance hms process fault

omit [DecidableEq π] in
/-- Opening the store later comes to the same as opening it at the start. -/
theorem migrate (hms : Ascending ms) (h : Resumes execute ms start s) :
    s.store.migrate execute ms = start.migrate execute ms := by
  unfold MigratedStore.migrate
  dsimp only
  rw [MigratedStore.rows_prepare, MigratedStore.rows_prepare]
  cases hplan : pendingMigrations ms start.rows with
  | error error =>
      rw [h.rows_of_error hplan, hplan, h.pending_error hplan]
  | ok pending =>
      obtain ⟨rest, rfl⟩ := h.planned pending hplan
      rw [h.pending_rest hms hplan]
      exact (MigratedStore.applyAll_append h.reached).symm

end Resumes

/-! ## A process that is not interrupted -/

omit [DecidableEq π] in
/-- The migrations that a run has committed are different ones. -/
theorem Resumes.nodup (hms : Ascending ms) (h : Resumes execute ms start s) :
    s.committed.Nodup := by
  cases hplan : pendingMigrations ms start.rows with
  | error error =>
      rw [h.refused error hplan]
      exact List.nodup_nil
  | ok pending =>
      obtain ⟨applied, hsplit, -⟩ := (pendingMigrations_eq_ok hms start.rows_ordered).mp hplan
      have hordered := hms.ordered
      rw [hsplit] at hordered
      have hpending := (List.pairwise_append.mp hordered).2.1
      have hcommitted := hpending.sublist (h.planned pending hplan).sublist
      refine hcommitted.imp fun hless hsame => ?_
      rw [hsame] at hless
      exact Int.lt_irrefl _ hless

omit [DecidableEq π] in
/-- A process that is ready has opened the store as an uninterrupted run would have. -/
theorem Resumes.complete (hms : Ascending ms) (h : Resumes execute ms start s) {process : π}
    (hready : s.phase process = .ready) :
    pendingMigrations ms start.rows = .ok s.committed ∧
      start.migrate execute ms = (.ok (), s.store.prepare) := by
  have hplan := h.ready process hready
  refine ⟨hplan, ?_⟩
  rw [← h.migrate hms]
  unfold MigratedStore.migrate
  dsimp only
  rw [← List.append_nil s.committed] at hplan
  rw [MigratedStore.rows_prepare, h.pending_rest hms hplan]
  rfl

end Run

/-! ## Opening a store -/

end Coterie
