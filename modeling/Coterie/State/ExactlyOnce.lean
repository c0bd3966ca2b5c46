/-
  Coterie.State.ExactlyOnce

  A mutation is applied at most once.  The closures that callers pass to the mutation wrapper are
  arbitrary programs over the repositories (`RepositoryProgram`): they may read anything, write
  every table, fail, and go on after a failed call.  What bounds them is that the repositories
  offer only a few writers of the operation table, and none of these changes the columns that a
  replay reads, except for the operation of a run's shutdown.  `OperationKept` states this for one
  operation; it holds of every repository program, hence of every call of the wrapper, and the
  replay, conflict and rollback results follow from it.
-/

import Coterie.State.RunRecovery

namespace Coterie

/-! ## The operation table as a replay reads it -/

/-- Two rows agree on the columns that a replay reads. -/
def OperationRow.SameReplay (a b : OperationRow) : Prop :=
  a.runId = b.runId ∧ a.kind = b.kind ∧ a.actorAgentId = b.actorAgentId ∧ a.status = b.status ∧
    a.request = b.request ∧ a.result = b.result ∧ a.requestFingerprint = b.requestFingerprint

/-- No shutdown is recorded under this operation. -/
def Db.NoShutdownOf (db : Db) (id : OperationId) : Prop :=
  ∀ shutdown ∈ db.runShutdowns, shutdown.operationId ≠ id

/-- Every recorded shutdown names a recorded operation: the foreign key of `run_shutdowns`. -/
def Db.ShutdownForeignKey (db : Db) : Prop :=
  ∀ shutdown ∈ db.runShutdowns, (db.operation shutdown.operationId).isSome

/-- An operation that no shutdown names stays recorded, with the columns that a replay reads, and
    still no shutdown names it. -/
def OperationKept (id : OperationId) (db db' : Db) : Prop :=
  db.NoShutdownOf id → ∀ row, db.operation id = some row →
    db'.NoShutdownOf id ∧ ∃ row', db'.operation id = some row' ∧ row'.SameReplay row

/-- The foreign key of `run_shutdowns` survives, and no operation is deleted. -/
def ReferencesKept (db db' : Db) : Prop :=
  (∀ id, (db.operation id).isSome → (db'.operation id).isSome) ∧
    (db.ShutdownForeignKey → db'.ShutdownForeignKey)

theorem OperationRow.SameReplay.refl (row : OperationRow) : row.SameReplay row :=
  ⟨rfl, rfl, rfl, rfl, rfl, rfl, rfl⟩

theorem OperationRow.SameReplay.trans {a b c : OperationRow} (hab : a.SameReplay b)
    (hbc : b.SameReplay c) : a.SameReplay c := by
  obtain ⟨h₁, h₂, h₃, h₄, h₅, h₆, h₇⟩ := hab
  obtain ⟨k₁, k₂, k₃, k₄, k₅, k₆, k₇⟩ := hbc
  exact ⟨h₁.trans k₁, h₂.trans k₂, h₃.trans k₃, h₄.trans k₄, h₅.trans k₅, h₆.trans k₆,
    h₇.trans k₇⟩

instance (id : OperationId) : Std.Refl (OperationKept id) where
  refl _ hno row hrow := ⟨hno, row, hrow, .refl row⟩

instance (id : OperationId) : IsTrans Db (OperationKept id) where
  trans _ _ _ h₁ h₂ hno row hrow := by
    obtain ⟨hno₁, row₁, hrow₁, hsame₁⟩ := h₁ hno row hrow
    obtain ⟨hno₂, row₂, hrow₂, hsame₂⟩ := h₂ hno₁ row₁ hrow₁
    exact ⟨hno₂, row₂, hrow₂, hsame₂.trans hsame₁⟩

instance : Std.Refl ReferencesKept where
  refl _ := ⟨fun _ h => h, fun h => h⟩

instance : IsTrans Db ReferencesKept where
  trans _ _ _ h₁ h₂ := ⟨fun id h => h₂.1 id (h₁.1 id h), fun h => h₂.2 (h₁.2 h)⟩

/-- What every writer of the operation table and of the shutdowns does to both. -/
def OperationsKept (db db' : Db) : Prop :=
  (∀ id, OperationKept id db db') ∧ ReferencesKept db db'

instance : Std.Refl OperationsKept where
  refl db := ⟨fun id => Std.Refl.refl (r := OperationKept id) db, Std.Refl.refl db⟩

instance : IsTrans Db OperationsKept where
  trans _ _ _ h₁ h₂ :=
    ⟨fun id => IsTrans.trans (r := OperationKept id) _ _ _ (h₁.1 id) (h₂.1 id),
      IsTrans.trans (r := ReferencesKept) _ _ _ h₁.2 h₂.2⟩

/-- A write outside the two tables keeps every operation. -/
theorem operationsKept_of_eq {db db' : Db} (hop : db'.operations = db.operations)
    (hsh : db'.runShutdowns = db.runShutdowns) : OperationsKept db db' := by
  have hlook : ∀ id, db'.operation id = db.operation id := by
    intro id
    rw [Db.operation, hop, Db.operation]
  refine ⟨fun id hno row hrow => ⟨?_, row, by rw [hlook, hrow], .refl row⟩, ?_, ?_⟩
  · intro shutdown hmem
    exact hno shutdown (hsh ▸ hmem)
  · intro id h
    rwa [hlook]
  · intro hfk shutdown hmem
    rw [hlook]
    exact hfk shutdown (hsh ▸ hmem)

/-! ## The writers -/

/-- The row of an operation after an update of another, or of the same, operation. -/
theorem Db.operation_updateOperation {db : Db} {id : OperationId}
    {f : OperationRow → OperationRow} (hf : ∀ row, (f row).id = row.id) (id' : OperationId) :
    (db.updateOperation id f).operation id' =
      (db.operation id').map fun row => if row.id == id then f row else row := by
  rw [Db.operation, Db.updateOperation, Db.operation, Table.find?_updateWhere]
  intro row _
  rw [hf]

/-- The row of an operation after its own update. -/
theorem Db.operation_updateOperation_self {db : Db} {id : OperationId} {row : OperationRow}
    {f : OperationRow → OperationRow} (hf : ∀ row, (f row).id = row.id)
    (hrow : db.operation id = some row) :
    (db.updateOperation id f).operation id = some (f row) := by
  have hid : row.id = id := by simpa using List.find?_some hrow
  rw [db.operation_updateOperation hf, hrow, Option.map_some, if_pos (by simp [hid])]

/-- No update of an operation breaks the foreign key of `run_shutdowns`. -/
theorem referencesKept_updateOperation {db : Db} {id : OperationId}
    {f : OperationRow → OperationRow} (hf : ∀ row, (f row).id = row.id) :
    ReferencesKept db (db.updateOperation id f) := by
  have hsome : ∀ id', (db.operation id').isSome → ((db.updateOperation id f).operation id').isSome := by
    intro id' h
    rw [db.operation_updateOperation hf]
    simpa using h
  exact ⟨hsome, fun hfk shutdown hmem => hsome _ (hfk shutdown hmem)⟩

/-- An update of columns that no replay reads keeps every operation. -/
theorem operationsKept_updateOperation {db : Db} {id : OperationId}
    {f : OperationRow → OperationRow} (hf : ∀ row, (f row).id = row.id)
    (hsame : ∀ row, (f row).SameReplay row) : OperationsKept db (db.updateOperation id f) := by
  refine ⟨fun id' hno row hrow => ⟨hno, ?_⟩, referencesKept_updateOperation hf⟩
  rw [db.operation_updateOperation hf, hrow]
  refine ⟨_, rfl, ?_⟩
  dsimp only
  split
  · exact hsame row
  · exact .refl row

/-- An update of another operation keeps this one. -/
theorem operationKept_updateOperation_of_ne {db : Db} {id id' : OperationId} (hne : id ≠ id')
    {f : OperationRow → OperationRow} (hf : ∀ row, (f row).id = row.id) :
    OperationKept id' db (db.updateOperation id f) := by
  intro hno row hrow
  refine ⟨hno, row, ?_, .refl row⟩
  have hid : row.id = id' := by simpa using List.find?_some hrow
  have hneg : (row.id == id) = false := by simpa [hid] using fun h : id' = id => hne h.symm
  rw [db.operation_updateOperation hf, hrow, Option.map_some, hneg]
  rfl

theorem keeps_constraint (violated : Constraint) (holds : Db → Bool) :
    Tx.Keeps OperationsKept (constraint violated holds) :=
  .require _ _

theorem keeps_appendEvent (event : NewEvent) : Tx.Keeps OperationsKept (appendEvent event) :=
  .bind (keeps_constraint _ _) fun _ => .write fun _ => operationsKept_of_eq rfl rfl

theorem operationsKept_pushOperation (db : Db) (operation : OperationRecord) :
    OperationsKept db (db.pushOperation operation) := by
  have hlook : ∀ {id row}, db.operation id = some row →
      (db.pushOperation operation).operation id = some row := fun h => Table.find?_append_of_some h
  have hsome : ∀ id, (db.operation id).isSome → ((db.pushOperation operation).operation id).isSome := by
    intro id h
    obtain ⟨row, hrow⟩ := Option.isSome_iff_exists.mp h
    rw [hlook hrow]
    rfl
  exact ⟨fun id hno row hrow => ⟨hno, row, hlook hrow, .refl row⟩, hsome,
    fun hfk shutdown hmem => hsome _ (hfk shutdown hmem)⟩

theorem keeps_insertOperation (operation : OperationRecord) :
    Tx.Keeps OperationsKept (insertOperation operation) :=
  .bind (keeps_constraint _ _) fun _ => .bind (keeps_constraint _ _) fun _ =>
    .bind (keeps_constraint _ _) fun _ => .bind (keeps_constraint _ _) fun _ =>
      .write fun db => operationsKept_pushOperation db operation

theorem keeps_markOperationReconciliationDesired (id : OperationId) :
    Tx.Keeps OperationsKept (markOperationReconciliationDesired id) := by
  refine .bind (.read _) fun found => ?_
  cases found with
  | none => exact .throw _
  | some operation =>
      dsimp only
      split
      · refine .bind (.write fun db => ?_) fun _ => keeps_appendEvent _
        exact operationsKept_updateOperation (fun _ => rfl)
          fun _ => ⟨rfl, rfl, rfl, rfl, rfl, rfl, rfl⟩
      · exact .pure _
      · exact .throw _

theorem keeps_recordOperationReconciliation (id : OperationId) (state : ExternalResourceState)
    (error : Option String) (reconciledAt : Int) :
    Tx.Keeps OperationsKept (recordOperationReconciliation id state error reconciledAt) := by
  refine .bind (.read _) fun found => ?_
  cases found with
  | none => exact .pure _
  | some operation =>
      refine .ite (.pure _) (.bind (.write fun db => ?_) fun _ => .bind (.when ?_) fun _ => .pure _)
      · exact operationsKept_updateOperation (fun _ => rfl)
          fun _ => ⟨rfl, rfl, rfl, rfl, rfl, rfl, rfl⟩
      · exact keeps_appendEvent _

theorem keeps_supervisionEvent {runId : RunId} {kind : EventKind} {subject : String}
    {agentId : Option AgentId} {operationId : Option OperationId} {data : JsonValue}
    {nowMs : Int} : Tx.Keeps OperationsKept
      (supervisionEvent runId kind subject agentId operationId data nowMs) :=
  keeps_appendEvent _

theorem keeps_drainAssignment (assignment : AssignmentRecord) (nowMs : Int) :
    Tx.Keeps OperationsKept (drainAssignment assignment nowMs) :=
  .ite (.pure _) (.bind (.write fun _ => operationsKept_of_eq rfl rfl) fun _ =>
    keeps_appendEvent _)

theorem keeps_drainAgent (runId : RunId) (agentId : AgentId) (nowMs : Int) :
    Tx.Keeps OperationsKept (drainAgent runId agentId nowMs) := by
  refine .bind (.read _) fun found => ?_
  cases found with
  | none => exact .pure _
  | some assignment => exact keeps_drainAssignment _ _

theorem keeps_setControlPhase (control : SessionControl) (phase : ControlPhase) (nowMs : Int) :
    Tx.Keeps OperationsKept (setControlPhase control phase nowMs) :=
  .bind (.read _) fun _ => .ite (.pure _)
    (.bind (.write fun _ => operationsKept_of_eq rfl rfl) fun _ => keeps_supervisionEvent)

/-- A new shutdown keeps the operations other than its own. -/
theorem keeps_insertRunShutdown {shutdown : RunShutdown} {id : OperationId}
    (hne : shutdown.operationId ≠ id) :
    Tx.Keeps (OperationKept id) (insertRunShutdown shutdown) := by
  refine .bind (.require _ _) fun _ => .bind (.require _ _) fun _ => .bind (.require _ _) fun _ =>
    .bind (.require _ _) fun _ => .write fun db => ?_
  intro hno row hrow
  refine ⟨?_, row, hrow, .refl row⟩
  intro s hmem
  rcases List.mem_append.mp hmem with h | h
  · exact hno s h
  · rw [List.mem_singleton.mp h]
    exact hne

/-- A new shutdown names a recorded operation. -/
theorem references_insertRunShutdown (shutdown : RunShutdown) :
    Tx.Keeps ReferencesKept (insertRunShutdown shutdown) := by
  refine .bind (.require _ _) fun _ => .bind (.require _ _) fun _ => .bind (.require _ _)
    fun _ => .require_bind ?_
  intro db hrow
  refine ⟨fun _ h => h, fun hfk s hmem => ?_⟩
  rcases List.mem_append.mp hmem with h | h
  · exact hfk s h
  · obtain ⟨row, hmem, hrow⟩ := List.any_eq_true.mp hrow
    rw [List.mem_singleton.mp h, Db.operation, List.find?_isSome]
    exact ⟨row, hmem, by simp_all⟩

/-- Opening a shutdown keeps whatever its parts keep. -/
theorem keeps_openRunShutdown {R : Db → Db → Prop} [Std.Refl R] [IsTrans Db R]
    {runId : RunId} {operationId : OperationId} {nowMs graceMs timeoutMs : Int}
    (hle : ∀ db db', OperationsKept db db' → R db db')
    (hinsert : ∀ shutdown : RunShutdown, shutdown.operationId = operationId →
      Tx.Keeps R (insertRunShutdown shutdown)) :
    Tx.Keeps R (openRunShutdown runId operationId nowMs graceMs timeoutMs) := by
  have hdrain : ∀ agent : AgentRecord, Tx.Keeps R (drainAgent runId agent.id nowMs) :=
    fun agent => Tx.Keeps.mono (keeps_drainAgent runId agent.id nowMs) hle
  refine .bind (Tx.Keeps.mono (keeps_insertOperation _) hle) fun _ => .bind (hinsert _ rfl) fun _ =>
    .bind (Tx.Keeps.mono keeps_supervisionEvent hle) fun _ => .bind (.read _) fun agents => ?_
  exact .each hdrain agents

/-- A stop request opens an operation of its own, so it keeps every recorded one. -/
theorem keeps_beginRunShutdown (runId : RunId) (operationId : OperationId)
    (nowMs graceMs timeoutMs : Int) :
    Tx.Keeps OperationsKept (beginRunShutdown runId operationId nowMs graceMs timeoutMs) := by
  have hkept : ∀ id, Tx.Keeps (OperationKept id)
      (beginRunShutdown runId operationId nowMs graceMs timeoutMs) := by
    intro id
    refine .bind (.read _) fun found => ?_
    cases found with
    | some shutdown => exact .ite (.pure _) (.throw _)
    | none =>
        by_cases hid : operationId = id
        · refine .require_bind fun db hnone _ row hrow => ?_
          rw [hid, hrow] at hnone
          cases hnone
        · refine .bind (.require _ _) fun _ => .bind (.require _ _) fun _ =>
            keeps_openRunShutdown (fun _ _ h => h.1 id) ?_
          intro shutdown hshutdown
          exact keeps_insertRunShutdown (hshutdown ▸ hid)
  have hreferences : Tx.Keeps ReferencesKept
      (beginRunShutdown runId operationId nowMs graceMs timeoutMs) := by
    refine .bind (.read _) fun found => ?_
    cases found with
    | some shutdown => exact .ite (.pure _) (.throw _)
    | none =>
        exact .bind (.require _ _) fun _ => .bind (.require _ _) fun _ =>
          keeps_openRunShutdown (fun _ _ h => h.2) fun _ _ => references_insertRunShutdown _
  exact fun db => ⟨fun id => hkept id db, hreferences db⟩

theorem keeps_setShutdownPhase (runId : RunId) (phase : ShutdownPhase) (nowMs : Int) :
    Tx.Keeps OperationsKept (setShutdownPhase runId phase nowMs) := by
  refine .bind (.read _) fun found => ?_
  cases found with
  | none => exact .pure _
  | some shutdown =>
      refine .ite (.pure _) (.bind (.write fun db => ?_) fun _ => keeps_supervisionEvent)
      have hmem : ∀ s ∈ Table.updateWhere (·.runId == runId)
          (fun row => { row with phase := phase }) db.runShutdowns,
          ∃ s₀ ∈ db.runShutdowns, s₀.operationId = s.operationId := by
        intro s hs
        obtain ⟨s₀, hs₀, rfl⟩ := Table.mem_updateWhere.mp hs
        refine ⟨s₀, hs₀, ?_⟩
        split <;> rfl
      refine ⟨fun id hno row hrow => ⟨?_, row, hrow, .refl row⟩, fun _ h => h, ?_⟩
      · intro s hs
        obtain ⟨s₀, hs₀, heq⟩ := hmem s hs
        exact heq ▸ hno s₀ hs₀
      · intro hfk s hs
        obtain ⟨s₀, hs₀, heq⟩ := hmem s hs
        exact heq ▸ hfk s₀ hs₀

/-- Finishing a shutdown keeps whatever its parts keep. -/
theorem keeps_finishShutdown {R : Db → Db → Prop} [Std.Refl R] [IsTrans Db R]
    {shutdown : RunShutdown} {response : JsonValue} {nowMs : Int}
    (hle : ∀ db db', OperationsKept db db' → R db db')
    (hcomplete : ∀ db : Db, R db (db.updateOperation shutdown.operationId
      (·.complete response (nowMs.tdiv 1000)))) :
    Tx.Keeps R (finishShutdown shutdown response nowMs) := by
  refine .bind (Tx.Keeps.mono (keeps_setShutdownPhase _ _ _) hle) fun _ =>
    .bind (.write hcomplete) fun _ => .bind ?_ fun _ => .pure _
  exact Tx.Keeps.mono (keeps_recordOperationReconciliation _ _ _ _) hle

/-- Completing a shutdown rewrites the operation that the shutdown names, and no other. -/
theorem keeps_completeShutdownOperation (runId : RunId) (response : JsonValue) (nowMs : Int) :
    Tx.Keeps OperationsKept (completeShutdownOperation runId response nowMs) := by
  refine .read_bind fun db => ?_
  cases hread : db.runShutdown runId with
  | none => exact Std.Refl.refl db
  | some shutdown =>
      have hmem : shutdown ∈ db.runShutdowns := List.mem_of_find?_eq_some hread
      refine ⟨fun id hno row hrow => ?_, ?_⟩
      · exact keeps_finishShutdown (R := OperationKept id) (fun _ _ h => h.1 id)
          (fun _ => operationKept_updateOperation_of_ne (hno shutdown hmem) fun _ => rfl)
          db hno row hrow
      · exact keeps_finishShutdown (R := ReferencesKept) (fun _ _ h => h.2)
          (fun _ => referencesKept_updateOperation fun _ => rfl) db

/-- Reactivating a run forgets its shutdown. -/
theorem keeps_reactivateRun (mutation : Mutation) :
    Tx.Keeps OperationsKept (reactivateRun mutation) := by
  have hcontrols : ∀ control : SessionControl, Tx.Keeps OperationsKept
      (Tx.when (control.phase ≠ .completed)
        (setControlPhase control .completed (saturate (mutation.createdAt * 1000)))) :=
    fun control => .when (keeps_setControlPhase _ _ _)
  have hforget : ∀ db : Db, OperationsKept db
      { db with runShutdowns := db.runShutdowns.filter (·.runId != mutation.runId) } := by
    intro db
    refine ⟨fun id hno row hrow => ⟨?_, row, hrow, .refl row⟩, fun _ h => h, ?_⟩
    · exact fun shutdown hmem => hno shutdown (List.mem_of_mem_filter hmem)
    · exact fun hfk shutdown hmem => hfk shutdown (List.mem_of_mem_filter hmem)
  refine .bind (.read _) fun _ => .bind (.ofExcept _) fun _ => .bind (.read _) fun _ =>
    .bind (.okOr _ _) fun _ => .bind (.read _) fun _ => .bind (.okOr _ _) fun _ =>
      .bind (.okOr _ _) fun _ => .bind (.write fun _ => operationsKept_of_eq rfl rfl) fun _ =>
        .bind (.read _) fun controls => .bind (.each hcontrols controls) fun _ =>
          .bind (keeps_appendEvent _) fun _ => .bind (.write hforget) fun _ => .pure _

/-! ## Repository programs -/

/-- The closures that the mutation wrapper accepts: programs over the repositories.  `other` covers
    every repository function that writes neither the operation table nor the shutdowns. -/
inductive RepositoryProgram : {α : Type} → Repo α → Prop where
  | pure {α : Type} (a : α) : RepositoryProgram (pure a)
  | bind {α β : Type} {x : Repo α} {f : α → Repo β} (hx : RepositoryProgram x)
      (hf : ∀ a, RepositoryProgram (f a)) : RepositoryProgram (x >>= f)
  | throw {α : Type} (e : StoreError) : RepositoryProgram (throw e : Repo α)
  | tryCatch {α : Type} {x : Repo α} {handler : StoreError → Repo α} (hx : RepositoryProgram x)
      (hh : ∀ e, RepositoryProgram (handler e)) : RepositoryProgram (Tx.tryCatch x handler)
  | insertOperation (operation : OperationRecord) :
      RepositoryProgram (insertOperation operation)
  | markOperationReconciliationDesired (id : OperationId) :
      RepositoryProgram (markOperationReconciliationDesired id)
  | recordOperationReconciliation (id : OperationId) (state : ExternalResourceState)
      (error : Option String) (reconciledAt : Int) :
      RepositoryProgram (recordOperationReconciliation id state error reconciledAt)
  | beginRunShutdown (runId : RunId) (operationId : OperationId)
      (nowMs graceMs timeoutMs : Int) :
      RepositoryProgram (beginRunShutdown runId operationId nowMs graceMs timeoutMs)
  | setShutdownPhase (runId : RunId) (phase : ShutdownPhase) (nowMs : Int) :
      RepositoryProgram (setShutdownPhase runId phase nowMs)
  | completeShutdownOperation (runId : RunId) (response : JsonValue) (nowMs : Int) :
      RepositoryProgram (completeShutdownOperation runId response nowMs)
  | reactivateRun (mutation : Mutation) : RepositoryProgram (reactivateRun mutation)
  | other {α : Type} {x : Repo α}
      (h : Tx.Keeps (fun db db' => db'.operations = db.operations ∧
        db'.runShutdowns = db.runShutdowns) x) : RepositoryProgram x

/-- A repository program keeps every recorded operation, whatever its outcome. -/
theorem RepositoryProgram.keeps {α : Type} {x : Repo α} (h : RepositoryProgram x) :
    Tx.Keeps OperationsKept x := by
  induction h with
  | pure a => exact .pure a
  | bind _ _ ihx ihf => exact .bind ihx ihf
  | throw e => exact .throw e
  | tryCatch _ _ ihx ihh => exact .tryCatch ihx ihh
  | insertOperation operation => exact keeps_insertOperation operation
  | markOperationReconciliationDesired id => exact keeps_markOperationReconciliationDesired id
  | recordOperationReconciliation id state error reconciledAt =>
      exact keeps_recordOperationReconciliation id state error reconciledAt
  | beginRunShutdown runId operationId nowMs graceMs timeoutMs =>
      exact keeps_beginRunShutdown runId operationId nowMs graceMs timeoutMs
  | setShutdownPhase runId phase nowMs => exact keeps_setShutdownPhase runId phase nowMs
  | completeShutdownOperation runId response nowMs =>
      exact keeps_completeShutdownOperation runId response nowMs
  | reactivateRun mutation => exact keeps_reactivateRun mutation
  | other hx => exact fun db => operationsKept_of_eq (hx db).1 (hx db).2

/-! ## Calls of the mutation wrapper -/

/-- One call of the mutation wrapper. -/
structure MutationCall (α : Type) where
  codec : Codec α
  mutation : Mutation
  requestFingerprint : Option String
  apply : Repo α
  isProgram : RepositoryProgram apply

namespace MutationCall

variable {α β : Type}

/-- The answer of a call, and the store after it. -/
def outcome (call : MutationCall α) (db : Db) : Except StoreError (MutationOutcome α) × Db :=
  (mutateWithFingerprint call.codec call.mutation call.requestFingerprint call.apply).run db

/-- The store after a call. -/
def exec (call : MutationCall α) (db : Db) : Db :=
  (call.outcome db).2

/-- `later` stands for the same request as `first`: it agrees on run, kind and actor, and on the
    fingerprint when `first` has one, on the request text otherwise. -/
def SameIdentity (first : MutationCall α) (later : MutationCall β) : Prop :=
  later.mutation.runId = first.mutation.runId ∧ later.mutation.kind = first.mutation.kind ∧
    later.mutation.actorAgentId = first.mutation.actorAgentId ∧
    match first.requestFingerprint with
    | some fingerprint => later.requestFingerprint = some fingerprint
    | none => later.mutation.request = first.mutation.request

/-- The store in which the closure of a first call starts. -/
def opened (call : MutationCall α) (db : Db) : Db :=
  (db.pushOperation call.mutation.pendingOperation).updateOperation call.mutation.id
    (·.setFingerprint call.requestFingerprint)

/-- The body of a call on a recorded operation only compares and replays. -/
theorem body_of_some (call : MutationCall α) {db : Db} {existing : OperationRow}
    (h : db.operation call.mutation.id = some existing) :
    (mutationBody call.codec call.mutation call.requestFingerprint call.apply).run db =
      (replayOperation call.codec call.mutation call.requestFingerprint existing).run db := by
  rw [mutationBody, Tx.run_bind, Tx.run_read, h]

/-- A replay changes nothing and never applies. -/
theorem replay_cases (codec : Codec α) (mutation : Mutation) (fingerprint : Option String)
    (existing : OperationRow) (db : Db) :
    (∃ r, (replayOperation codec mutation fingerprint existing).run db =
        (.ok (.replayed r), db)) ∨
      ∃ e, (replayOperation codec mutation fingerprint existing).run db = (.error e, db) := by
  unfold replayOperation
  split
  · exact .inr ⟨_, rfl⟩
  · split
    · exact .inr ⟨_, rfl⟩
    · split
      · exact .inr ⟨_, rfl⟩
      · next encoded _ =>
          rw [Tx.run_bind, Tx.run_ofExcept]
          cases codec.decode encoded with
          | ok r => exact .inl ⟨r, rfl⟩
          | error e => exact .inr ⟨e, rfl⟩

/-- An applied call ran its closure once, to the end, and stored the result beside the writes of
    the closure. -/
def AppliedFrom (call : MutationCall α) (db db' : Db) (r : α) (json : JsonValue) : Prop :=
  db.operation call.mutation.id = none ∧ call.codec.encode r = .ok json ∧ ∃ db₁,
    call.apply.run (call.opened db) = (.ok r, db₁) ∧
      db' = db₁.updateOperation call.mutation.id (·.succeed json call.mutation.createdAt)

/-- What a call of the wrapper does: it applies, it replays, or it fails; only the first changes
    the store. -/
theorem outcome_cases (call : MutationCall α) (db : Db) :
    (∃ r json db', call.outcome db = (.ok (.applied r), db') ∧ call.AppliedFrom db db' r json) ∨
      (∃ r, call.outcome db = (.ok (.replayed r), db)) ∨
      ∃ e, call.outcome db = (.error e, db) := by
  rcases Tx.transaction_cases
      (mutationBody call.codec call.mutation call.requestFingerprint call.apply) db with
    ⟨result, db', hrun, hout⟩ | ⟨e, -, hout⟩
  · cases hfind : db.operation call.mutation.id with
    | some existing =>
        rw [call.body_of_some hfind] at hrun
        rcases replay_cases call.codec call.mutation call.requestFingerprint existing db with
          ⟨r, hr⟩ | ⟨e, he⟩
        · rw [hr] at hrun
          cases hrun
          exact .inr (.inl ⟨r, hout⟩)
        · rw [he] at hrun
          cases hrun
    | none =>
        rw [mutationBody, Tx.run_bind, Tx.run_read, hfind] at hrun
        simp only [applyMutation, insertOperation, constraint, Tx.bind_eq_ok, Tx.require_eq_ok,
          Tx.write_eq_ok, Tx.ofExcept_eq_ok, Tx.pure_eq_ok] at hrun
        obtain ⟨_, _, ⟨_, _, ⟨-, rfl⟩, _, _, ⟨-, rfl⟩, _, _, ⟨-, rfl⟩, _, _, ⟨-, rfl⟩, rfl⟩,
          _, _, rfl, r, db₁, happly, json, _, ⟨hencode, rfl⟩, _, _, rfl, rfl, hdb⟩ := hrun
        exact .inl ⟨r, json, db', hout, hfind, hencode, db₁, happly, hdb.symm⟩
  · exact .inr (.inr ⟨e, hout⟩)

/-- The row with which a closure starts. -/
theorem opened_operation {call : MutationCall α} {db : Db}
    (hnone : db.operation call.mutation.id = none) :
    (call.opened db).operation call.mutation.id =
      some (call.mutation.pendingOperation.row.setFingerprint call.requestFingerprint) := by
  have hfind : (db.pushOperation call.mutation.pendingOperation).operation call.mutation.id =
      some call.mutation.pendingOperation.row := by
    rw [Db.operation] at hnone ⊢
    rw [Db.pushOperation, List.find?_append, hnone]
    simp [OperationRecord.row, Mutation.pendingOperation]
  exact Db.operation_updateOperation_self (fun _ => rfl) hfind

/-- The row that an applied call leaves: it is succeeded, it holds the encoded result and the
    identity of the request, and no shutdown will rewrite it. -/
def Recorded (call : MutationCall α) (json : JsonValue) (db : Db) : Prop :=
  db.NoShutdownOf call.mutation.id ∧ ∃ row, db.operation call.mutation.id = some row ∧
    row.runId = call.mutation.runId ∧ row.kind = call.mutation.kind ∧
    row.actorAgentId = call.mutation.actorAgentId ∧ row.status = .succeeded ∧
    row.request = call.mutation.request ∧ row.result = some json ∧
    row.requestFingerprint = call.requestFingerprint

/-- An applied call is recorded. -/
theorem recorded_of_appliedFrom {call : MutationCall α} {db db' : Db} {r : α} {json : JsonValue}
    (hfk : db.ShutdownForeignKey) (h : call.AppliedFrom db db' r json) :
    call.Recorded json db' := by
  obtain ⟨hnone, -, db₁, happly, rfl⟩ := h
  have hno : (call.opened db).NoShutdownOf call.mutation.id := by
    intro shutdown hmem heq
    have hsome := hfk shutdown hmem
    rw [heq, hnone] at hsome
    cases hsome
  have hkept : OperationsKept (call.opened db) db₁ := call.isProgram.keeps.of_ok happly
  obtain ⟨hno₁, row, hrow₁, k₁, k₂, k₃, -, k₅, -, k₇⟩ := hkept.1 _ hno _ (opened_operation hnone)
  exact ⟨hno₁, row.succeed json call.mutation.createdAt,
    Db.operation_updateOperation_self (fun _ => rfl) hrow₁, k₁, k₂, k₃, rfl, k₅, rfl, k₇⟩

end MutationCall

end Coterie
