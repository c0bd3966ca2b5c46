/-
  Coterie.Mcp.Retry

  The retries of the agents' bridge (`mcp/client.rs`: `request`, `retry`).  The bridge saves the
  exact request of a mutation before any dispatch, so that an operation whose response was lost
  can only be sent again as it was.  What is saved is bounded: mutations that succeeded make room
  for new ones.

  How the transport answers is part of a call.  `Bridge` adds to the saved mutations what each of
  them has been answered since it was saved, which the bridge itself does not remember.
-/

import Coterie.Base.Machine
import Coterie.Model.Ids
import Coterie.Supervisor.Work
import Mathlib.Algebra.GroupWithZero.Nat
import Mathlib.Algebra.Order.BigOperators.Group.List
import Mathlib.Algebra.Order.Group.Nat

namespace Coterie

namespace Mcp

/-! ## Saved mutations -/

def maxRetries : Nat := 64
def maxRetryBytes : Nat := 4 * 1024 * 1024

structure SavedMutation (ρ : Type) where
  id : OperationId
  request : ρ
  bytes : Nat
  succeeded : Bool
deriving DecidableEq, Repr

/-- How the transport answers: a response, a definite rejection by the supervisor, or a failure of
    the connection that leaves the outcome unknown. -/
inductive Answer (β : Type) where
  | success (response : β)
  | rejection (code : RpcFailureCode) (message : String)
  | lost
deriving DecidableEq, Repr

/-- The operation was answered. -/
def Answer.isOk {β : Type} : Answer β → Bool
  | .success _ => true
  | .rejection _ _ | .lost => false

/-- The outcome of the operation is known. -/
def Answer.isDefinitive {β : Type} : Answer β → Bool
  | .success _ | .rejection _ _ => true
  | .lost => false

/-- What a call came to: refused by the bridge, or dispatched. -/
inductive CallResult (ρ β : Type) where
  | refused (code : RpcFailureCode) (message : String)
  | dispatched (request : ρ) (answer : Answer β)
deriving DecidableEq, Repr

section Client

variable {ρ β : Type}

/-- There is no room for one more request of that size. -/
def full (mutations : List (SavedMutation ρ)) (bytes : Nat) : Bool :=
  decide (maxRetries ≤ mutations.length) ||
    decide (maxRetryBytes < (mutations.map (·.bytes)).sum + bytes)

/-- Drop the oldest mutations that succeeded while there is no room; at most one turn for each
    saved mutation. -/
def makeRoom (bytes : Nat) :
    Nat → List (SavedMutation ρ) → Bool × List (SavedMutation ρ)
  | 0, mutations => (!full mutations bytes, mutations)
  | turns + 1, mutations =>
      if full mutations bytes then
        if mutations.any (·.succeeded) then makeRoom bytes turns (mutations.eraseP (·.succeeded))
        else (false, mutations)
      else (true, mutations)

variable [DecidableEq ρ]

/-- Save a mutation that is not saved yet.  A request is as large as its JSON text. -/
def save (size : ρ → Nat) (request : ρ) (id : OperationId) (mutations : List (SavedMutation ρ)) :
    Except (RpcFailureCode × String) Unit × List (SavedMutation ρ) :=
  match mutations.find? (·.id == id) with
  | some saved =>
      if saved.request ≠ request then
        (.error (.conflict,
          "Retry requires the original operation ID and identical arguments."), mutations)
      else (.ok (), mutations)
  | none =>
      match makeRoom (size request) mutations.length mutations with
      | (false, left) =>
          (.error (.conflict,
            "Client retry storage is full; resolve pending mutations before submitting more work."),
            left)
      | (true, left) =>
          (.ok (), left ++ [{ id, request, bytes := size request, succeeded := false }])

/-- Note at a saved mutation how it was answered. -/
def settle (id : OperationId) (answer : Answer β) (mutations : List (SavedMutation ρ)) :
    List (SavedMutation ρ) :=
  Table.updateWhere (·.id == id) (fun saved => { saved with succeeded := answer.isOk }) mutations

/-- Send a request, a mutation under its operation ID. -/
def request (size : ρ → Nat) (request : ρ) (operationId : Option OperationId) (answer : Answer β)
    (mutations : List (SavedMutation ρ)) : CallResult ρ β × List (SavedMutation ρ) :=
  match operationId with
  | none => (.dispatched request answer, mutations)
  | some id =>
      match save size request id mutations with
      | (.error (code, message), left) => (.refused code message, left)
      | (.ok (), saved) => (.dispatched request answer, settle id answer saved)

/-- Send a saved mutation again. -/
def retry (size : ρ → Nat) (operationId : OperationId) (answer : Answer β)
    (mutations : List (SavedMutation ρ)) : CallResult ρ β × List (SavedMutation ρ) :=
  match mutations.find? (·.id == operationId) with
  | none =>
      (.refused .notFound ("The bridge has no saved request for this operation. Retry the original " ++
        "tool with the same operation ID and identical arguments."), mutations)
  | some saved => request size saved.request (some operationId) answer mutations

end Client

/-! ## Making room -/

section Room

variable {ρ : Type}

/-- What can make no room. -/
def pending (mutations : List (SavedMutation ρ)) : List (SavedMutation ρ) :=
  mutations.filter (!·.succeeded)

theorem mem_pending {mutations : List (SavedMutation ρ)} {saved : SavedMutation ρ} :
    saved ∈ pending mutations ↔ saved ∈ mutations ∧ saved.succeeded = false := by
  rw [pending, List.mem_filter, Bool.not_eq_true']

theorem pending_eraseP (mutations : List (SavedMutation ρ)) :
    pending (mutations.eraseP (·.succeeded)) = pending mutations := by
  unfold pending
  induction mutations with
  | nil => rfl
  | cons saved rest ih =>
      by_cases hsucceeded : saved.succeeded = true
      · rw [List.eraseP_cons_of_pos hsucceeded, List.filter_cons_of_neg (by simp [hsucceeded])]
      · rw [List.eraseP_cons_of_neg hsucceeded, List.filter_cons_of_pos (by simpa using hsucceeded),
          List.filter_cons_of_pos (by simpa using hsucceeded), ih]

theorem full_eq_false {mutations : List (SavedMutation ρ)} {bytes : Nat} :
    full mutations bytes = false ↔
      mutations.length < maxRetries ∧ (mutations.map (·.bytes)).sum + bytes ≤ maxRetryBytes := by
  rw [full, Bool.or_eq_false_iff, decide_eq_false_iff_not, decide_eq_false_iff_not, Nat.not_le,
    Nat.not_lt]

/-- There is room beside fewer mutations. -/
theorem full_of_sublist {few many : List (SavedMutation ρ)} {bytes : Nat}
    (hsublist : few.Sublist many) (h : full many bytes = false) : full few bytes = false := by
  rw [full_eq_false] at h ⊢
  have hlength := hsublist.length_le
  have hsum := (hsublist.map (·.bytes)).sum_le_sum (fun _ _ => Nat.zero_le _)
  omega

/-- Room is made among the mutations that succeeded, or they all have to go. -/
theorem makeRoom_spec (bytes : Nat) {turns : Nat} {mutations : List (SavedMutation ρ)}
    (hturns : mutations.length ≤ turns) :
    ∃ fits left, makeRoom bytes turns mutations = (fits, left) ∧ left.Sublist mutations ∧
      pending left = pending mutations ∧
      (fits = true → full left bytes = false) ∧
      (fits = false → left = pending mutations ∧ full left bytes = true) := by
  induction turns generalizing mutations with
  | zero =>
      obtain rfl : mutations = [] := List.length_eq_zero_iff.mp (Nat.le_zero.mp hturns)
      refine ⟨!full [] bytes, [], rfl, .refl _, rfl, ?_, ?_⟩
      · exact fun hfits => (Bool.not_eq_true' _).mp hfits
      · exact fun hfull => ⟨rfl, (Bool.not_eq_false' _).mp hfull⟩
  | succ turns ih =>
      unfold makeRoom
      by_cases hfull : full mutations bytes = true
      · rw [if_pos hfull]
        by_cases hany : mutations.any (·.succeeded) = true
        · rw [if_pos hany]
          obtain ⟨saved, hmem, hsucceeded⟩ := List.any_eq_true.mp hany
          have hlength : (mutations.eraseP (·.succeeded)).length = mutations.length - 1 :=
            List.length_eraseP_of_mem hmem hsucceeded
          have hpos := List.length_pos_of_mem hmem
          obtain ⟨fits, left, hmake, hsublist, hpending, hroom, hrefused⟩ :=
            ih (show (mutations.eraseP (·.succeeded)).length ≤ turns by omega)
          rw [pending_eraseP] at hpending hrefused
          exact ⟨fits, left, hmake, hsublist.trans List.eraseP_sublist, hpending, hroom, hrefused⟩
        · rw [if_neg hany]
          have hall : pending mutations = mutations := by
            refine List.filter_eq_self.mpr fun saved hmem => ?_
            by_contra hsucceeded
            exact hany (List.any_eq_true.mpr ⟨saved, hmem, by simpa using hsucceeded⟩)
          refine ⟨false, mutations, rfl, .refl _, rfl, ?_, fun _ => ⟨hall.symm, hfull⟩⟩
          exact fun h => absurd h (by decide)
      · rw [if_neg hfull]
        refine ⟨true, mutations, rfl, .refl _, rfl, fun _ => Bool.eq_false_iff.mpr hfull, ?_⟩
        exact fun h => absurd h (by decide)

end Room

/-! ## Calls -/

/-- A call of the bridge, with the answer of the transport in case it is dispatched. -/
inductive Call (ρ β : Type) where
  | request (request : ρ) (operationId : Option OperationId) (answer : Answer β)
  | retry (operationId : OperationId) (answer : Answer β)
deriving DecidableEq, Repr

section Calls

variable {ρ β : Type}

theorem settle_absent {id : OperationId} (answer : Answer β) {mutations : List (SavedMutation ρ)}
    (h : id ∉ mutations.map (·.id)) : settle id answer mutations = mutations := by
  refine (List.map_congr_left fun saved hmem => ?_).trans (List.map_id mutations)
  refine if_neg fun hsame => ?_
  exact h (List.mem_map.mpr ⟨saved, hmem, eq_of_beq hsame⟩)

/-- The answer is noted at a mutation that was just saved. -/
theorem settle_append (saved : SavedMutation ρ) (answer : Answer β)
    {mutations : List (SavedMutation ρ)} (h : saved.id ∉ mutations.map (·.id)) :
    settle saved.id answer (mutations ++ [saved]) =
      mutations ++ [{ saved with succeeded := answer.isOk }] := by
  have hold := settle_absent answer h
  unfold settle Table.updateWhere at hold ⊢
  rw [List.map_append, hold, List.map_singleton, if_pos (beq_self_eq_true saved.id)]

/-- The operation ID of a call. -/
def Call.operationId : Call ρ β → Option OperationId
  | .request _ operationId _ => operationId
  | .retry operationId _ => some operationId

variable [DecidableEq ρ]

def Call.perform (size : ρ → Nat) (call : Call ρ β) (mutations : List (SavedMutation ρ)) :
    CallResult ρ β × List (SavedMutation ρ) :=
  match call with
  | .request sent operationId answer => Mcp.request size sent operationId answer mutations
  | .retry operationId answer => Mcp.retry size operationId answer mutations

/-- What a call does. -/
inductive Performed (size : ρ → Nat) (mutations : List (SavedMutation ρ)) :
    Call ρ β → CallResult ρ β → List (SavedMutation ρ) → Prop where
  /-- No mutation. -/
  | read (sent : ρ) (answer : Answer β) :
      Performed size mutations (.request sent none answer) (.dispatched sent answer) mutations
  /-- Other arguments under a saved ID, or a retry of what is not saved. -/
  | refused (call : Call ρ β) (code : RpcFailureCode) (message : String)
      (hsaved : ∀ sent id answer, call = .request sent (some id) answer →
        id ∈ mutations.map (·.id)) :
      Performed size mutations call (.refused code message) mutations
  | again (call : Call ρ β) (saved : SavedMutation ρ) (answer : Answer β)
      (hcall : call.operationId = some saved.id) (hmem : saved ∈ mutations) :
      Performed size mutations call (.dispatched saved.request answer)
        (settle saved.id answer mutations)
  | new (sent : ρ) (id : OperationId) (answer : Answer β) (left : List (SavedMutation ρ))
      (hnew : id ∉ mutations.map (·.id)) (hsublist : left.Sublist mutations)
      (hpending : pending left = pending mutations) (hroom : full left (size sent) = false) :
      Performed size mutations (.request sent (some id) answer) (.dispatched sent answer)
        (left ++ [{ id, request := sent, bytes := size sent, succeeded := answer.isOk }])
  | noRoom (sent : ρ) (id : OperationId) (answer : Answer β) (message : String)
      (hnew : id ∉ mutations.map (·.id)) (hfull : full (pending mutations) (size sent) = true) :
      Performed size mutations (.request sent (some id) answer) (.refused .conflict message)
        (pending mutations)

section Saving

variable {size : ρ → Nat} {sent : ρ} {id : OperationId} {mutations : List (SavedMutation ρ)}

theorem save_again {saved : SavedMutation ρ} (hfind : mutations.find? (·.id == id) = some saved) :
    save size saved.request id mutations = (.ok (), mutations) := by
  unfold save
  rw [hfind]
  exact if_neg (not_not.mpr rfl)

theorem save_changed (size : ρ → Nat) {saved : SavedMutation ρ}
    (hfind : mutations.find? (·.id == id) = some saved)
    (hchanged : saved.request ≠ sent) :
    ∃ code message, save size sent id mutations = (.error (code, message), mutations) := by
  unfold save
  rw [hfind]
  exact ⟨_, _, if_pos hchanged⟩

theorem save_new (size : ρ → Nat) (sent : ρ) (hnew : id ∉ mutations.map (·.id)) :
    ∃ left, left.Sublist mutations ∧ pending left = pending mutations ∧
      (full left (size sent) = false ∧ save size sent id mutations =
          (.ok (), left ++ [{ id, request := sent, bytes := size sent, succeeded := false }]) ∨
        left = pending mutations ∧ full left (size sent) = true ∧ ∃ message,
          save size sent id mutations = (.error (.conflict, message), left)) := by
  have hfind : mutations.find? (·.id == id) = none := by
    refine List.find?_eq_none.mpr fun saved hmem hsame => ?_
    exact hnew (List.mem_map.mpr ⟨saved, hmem, eq_of_beq hsame⟩)
  obtain ⟨fits, left, hmake, hsublist, hpending, hroom, hrefused⟩ :=
    makeRoom_spec (size sent) (Nat.le_refl mutations.length)
  refine ⟨left, hsublist, hpending, ?_⟩
  unfold save
  rw [hfind]
  dsimp only
  rw [hmake]
  cases fits with
  | true => exact .inl ⟨hroom rfl, rfl⟩
  | false => exact .inr ⟨(hrefused rfl).1, (hrefused rfl).2, _, rfl⟩

end Saving

theorem performed (size : ρ → Nat) (call : Call ρ β) (mutations : List (SavedMutation ρ)) :
    Performed size mutations call (call.perform size mutations).1
      (call.perform size mutations).2 := by
  cases call with
  | request sent operationId answer =>
      unfold Call.perform request
      cases operationId with
      | none => exact .read sent answer
      | some id =>
          dsimp only
          by_cases hnew : id ∈ mutations.map (·.id)
          · obtain ⟨saved, hfind⟩ : ∃ saved, mutations.find? (·.id == id) = some saved := by
              obtain ⟨saved, hmem, rfl⟩ := List.mem_map.mp hnew
              exact Option.isSome_iff_exists.mp
                (List.find?_isSome.mpr ⟨saved, hmem, beq_self_eq_true _⟩)
            obtain rfl : saved.id = id := by simpa using List.find?_some hfind
            by_cases hsame : saved.request = sent
            · rw [← hsame, save_again hfind]
              exact .again _ saved answer rfl (List.mem_of_find?_eq_some hfind)
            · obtain ⟨code, message, hsave⟩ := save_changed size hfind hsame
              rw [hsave]
              refine .refused _ code message ?_
              rintro _ _ _ hcall
              cases hcall
              exact hnew
          · obtain ⟨left, hsublist, hpending, hsave⟩ := save_new size sent hnew
            rcases hsave with ⟨hroom, hsave⟩ | ⟨rfl, hfull, message, hsave⟩
            · have habsent : id ∉ left.map (·.id) := fun hmem =>
                hnew ((hsublist.map (·.id)).mem hmem)
              have hsettle :=
                settle_append ⟨id, sent, size sent, false⟩ answer habsent
              rw [hsave]
              dsimp only at hsettle ⊢
              rw [hsettle]
              exact .new sent id answer left hnew hsublist hpending hroom
            · rw [hsave]
              exact .noRoom sent id answer message hnew hfull
  | retry operationId answer =>
      unfold Call.perform retry
      dsimp only
      cases hfind : mutations.find? (·.id == operationId) with
      | none =>
          refine .refused _ _ _ ?_
          rintro _ _ _ hcall
          cases hcall
      | some saved =>
          obtain rfl : saved.id = operationId := by simpa using List.find?_some hfind
          dsimp only
          unfold request
          dsimp only
          rw [save_again hfind]
          exact .again _ saved answer rfl (List.mem_of_find?_eq_some hfind)

end Calls

/-! ## The bridge and what it was answered -/

/-- The saved mutations, with the answers to each of them since it was saved. -/
structure Bridge (ρ β : Type) where
  mutations : List (SavedMutation ρ)
  answers : OperationId → List (Answer β)

section Bridge

variable {ρ β : Type} [DecidableEq ρ]

/-- The answers after a call. -/
def Bridge.note (before : Bridge ρ β) (operationId : Option OperationId) :
    CallResult ρ β → OperationId → List (Answer β)
  | .refused _ _, id => before.answers id
  | .dispatched _ answer, id =>
      if operationId = some id then
        if id ∈ before.mutations.map (·.id) then before.answers id ++ [answer] else [answer]
      else before.answers id

/-- The bridge as a machine of its calls. -/
def bridgeMachine (size : ρ → Nat) : Machine (Bridge ρ β) (Call ρ β) where
  start := { mutations := [], answers := fun _ => [] }
  step call before := {
    mutations := (call.perform size before.mutations).2
    answers := before.note call.operationId (call.perform size before.mutations).1 }

/-- The saved mutations without any definitive answer. -/
def Bridge.undecided (bridge : Bridge ρ β) : List (SavedMutation ρ) :=
  bridge.mutations.filter fun saved => !(bridge.answers saved.id).any (·.isDefinitive)

/-- The bookkeeping of a call. -/
structure Bookkept (size : ρ → Nat) (before : Bridge ρ β) (call : Call ρ β) : Prop where
  count : (call.perform size before.mutations).2.length ≤ maxRetries
  bytes : ((call.perform size before.mutations).2.map (size ·.request)).sum ≤ maxRetryBytes
  single : Table.Keyed (·.id) (call.perform size before.mutations).2
  /-- A mutation is dispatched with the saved request. -/
  exact : ∀ id sent answer, call.operationId = some id →
    (call.perform size before.mutations).1 = .dispatched sent answer →
    ∃ saved ∈ (call.perform size before.mutations).2, saved.id = id ∧ saved.request = sent
  /-- The saved request stays. -/
  same : ∀ saved ∈ before.mutations, ∀ saved' ∈ (call.perform size before.mutations).2,
    saved'.id = saved.id → saved'.request = saved.request
  /-- Only a mutation that succeeded is dropped. -/
  kept : ∀ saved ∈ before.mutations,
    saved.id ∉ (call.perform size before.mutations).2.map (·.id) →
    ∃ response, (before.answers saved.id).getLast? = some (.success response)
  refused : ∀ code message, (call.perform size before.mutations).1 = .refused code message →
    (call.perform size before.mutations).2 = before.mutations
  /-- The mutations with a definitive answer do not stand in the way of a new one. -/
  room : ∀ sent id answer code message, call = .request sent (some id) answer →
    id ∉ before.mutations.map (·.id) → size sent ≤ maxRetryBytes →
    (call.perform size before.mutations).1 = .refused code message →
    full before.undecided (size sent) = true

/-- Where a new mutation has no room beside those that did not succeed, none did succeed, and it
    has no room beside those without a definitive answer. -/
def Roomy (size : ρ → Nat) (before : Bridge ρ β) : Call ρ β → Prop
  | .request sent (some id) _ =>
      id ∉ before.mutations.map (·.id) →
      full (pending before.mutations) (size sent) = true →
      pending before.mutations = before.mutations ∧
        (size sent ≤ maxRetryBytes → full before.undecided (size sent) = true)
  | .request _ none _ | .retry _ _ => True

/-- What holds of the bridge after any calls. -/
structure Bridge.Consistent (size : ρ → Nat) (bridge : Bridge ρ β) : Prop where
  count : bridge.mutations.length ≤ maxRetries
  sizes : ∀ saved ∈ bridge.mutations, saved.bytes = size saved.request
  bytes : (bridge.mutations.map (·.bytes)).sum ≤ maxRetryBytes
  single : Table.Keyed (·.id) bridge.mutations
  succeeded : ∀ saved ∈ bridge.mutations, saved.succeeded = true →
    ∃ response, (bridge.answers saved.id).getLast? = some (.success response)

section Invariant

variable {size : ρ → Nat} {before : Bridge ρ β} {call : Call ρ β} {result : CallResult ρ β}
  {after : List (SavedMutation ρ)}

omit [DecidableEq ρ] in
theorem Bridge.Consistent.sublist (h : before.Consistent size)
    (hsublist : after.Sublist before.mutations) :
    ({ before with mutations := after } : Bridge ρ β).Consistent size where
  count := Nat.le_trans hsublist.length_le h.count
  sizes saved hmem := h.sizes saved (hsublist.mem hmem)
  bytes := Nat.le_trans ((hsublist.map (·.bytes)).sum_le_sum fun _ _ => Nat.zero_le _) h.bytes
  single := h.single.sublist (hsublist.map (·.id))
  succeeded saved hmem := h.succeeded saved (hsublist.mem hmem)

/-- A mutation that was settled with a success was answered so. -/
theorem Answer.isOk_iff {answer : Answer β} :
    answer.isOk = true ↔ ∃ response, answer = .success response := by
  cases answer with
  | success response => exact ⟨fun _ => ⟨response, rfl⟩, fun _ => rfl⟩
  | rejection code message => exact ⟨fun h => (nomatch h), fun ⟨_, h⟩ => (nomatch h)⟩
  | lost => exact ⟨fun h => (nomatch h), fun ⟨_, h⟩ => (nomatch h)⟩

omit [DecidableEq ρ] in
theorem Bridge.Consistent.performed (h : before.Consistent size)
    (hperformed : Performed size before.mutations call result after) :
    ({ mutations := after, answers := before.note call.operationId result } :
      Bridge ρ β).Consistent size := by
  cases hperformed with
  | read sent answer => exact ⟨h.count, h.sizes, h.bytes, h.single, h.succeeded⟩
  | refused call code message _ => exact ⟨h.count, h.sizes, h.bytes, h.single, h.succeeded⟩
  | again call saved answer hcall hmem =>
      constructor
      · rw [settle, Table.updateWhere, List.length_map]
        exact h.count
      · intro saved' hmem'
        obtain ⟨old, hold, rfl⟩ := Table.mem_updateWhere.mp hmem'
        by_cases hsame : (old.id == saved.id) = true
        · rw [if_pos hsame]
          exact h.sizes old hold
        · rw [if_neg hsame]
          exact h.sizes old hold
      · rw [settle, Table.map_updateWhere]
        · exact h.bytes
        · intro _ _
          rfl
      · exact Table.keyed_updateWhere (fun _ _ => rfl) h.single
      · intro saved' hmem' hsucceeded
        obtain ⟨old, hold, rfl⟩ := Table.mem_updateWhere.mp hmem'
        by_cases hsame : (old.id == saved.id) = true
        · rw [if_pos hsame] at hsucceeded ⊢
          obtain ⟨response, rfl⟩ := Answer.isOk_iff.mp hsucceeded
          have hid : old.id = saved.id := eq_of_beq hsame
          refine ⟨response, ?_⟩
          dsimp only
          rw [hid, Bridge.note, if_pos hcall, if_pos (List.mem_map_of_mem hmem),
            List.getLast?_concat]
        · rw [if_neg hsame] at hsucceeded ⊢
          have hother : ¬ call.operationId = some old.id := by
            rw [hcall]
            exact fun hid => hsame (beq_iff_eq.mpr (Option.some.inj hid).symm)
          dsimp only
          rw [Bridge.note, if_neg hother]
          exact h.succeeded old hold hsucceeded
  | new sent id answer left hnew hsublist hpending hroom =>
      have hleft := h.sublist hsublist
      obtain ⟨hcount, hbytes⟩ := full_eq_false.mp hroom
      have habsent : ∀ saved ∈ left, saved.id ≠ id := by
        rintro saved hmem rfl
        exact hnew (List.mem_map_of_mem (hsublist.mem hmem))
      constructor
      · rw [List.length_append]
        exact hcount
      · intro saved hmem
        rcases List.mem_append.mp hmem with hmem | hmem
        · exact hleft.sizes saved hmem
        · rw [List.mem_singleton.mp hmem]
      · rw [List.map_append, List.sum_append, List.map_singleton, List.sum_singleton]
        exact hbytes
      · exact Table.keyed_append hleft.single habsent
      · intro saved hmem hsucceeded
        rcases List.mem_append.mp hmem with hmem | hmem
        · have hother : ¬ some id = some saved.id := fun hid =>
            habsent saved hmem (Option.some.inj hid).symm
          dsimp only [Call.operationId]
          rw [Bridge.note, if_neg hother]
          exact hleft.succeeded saved hmem hsucceeded
        · obtain rfl := List.mem_singleton.mp hmem
          obtain ⟨response, rfl⟩ := Answer.isOk_iff.mp hsucceeded
          refine ⟨response, ?_⟩
          dsimp only [Call.operationId]
          rw [Bridge.note, if_pos rfl, if_neg hnew]
          rfl
  | noRoom sent id answer message hnew hfull =>
      exact h.sublist List.filter_sublist

theorem bridgeMachine_step (h : before.Consistent size) (call : Call ρ β) :
    ((bridgeMachine size).step call before).Consistent size :=
  h.performed (Mcp.performed size call before.mutations)

omit [DecidableEq ρ] in
/-- A mutation that is no longer saved had succeeded. -/
theorem Bridge.Consistent.dropped (h : before.Consistent size)
    (hpending : pending after = pending before.mutations) {saved : SavedMutation ρ}
    (hmem : saved ∈ before.mutations) (hgone : saved.id ∉ after.map (·.id)) :
    ∃ response, (before.answers saved.id).getLast? = some (.success response) := by
  refine h.succeeded saved hmem ?_
  by_contra hsucceeded
  have hkept : saved ∈ pending after := by
    rw [hpending, mem_pending]
    exact ⟨hmem, Bool.eq_false_iff.mpr hsucceeded⟩
  exact hgone (List.mem_map_of_mem (mem_pending.mp hkept).1)

omit [DecidableEq ρ] in
/-- What is saved stays as it was saved, or had succeeded. -/
theorem Bridge.Consistent.keeps (h : before.Consistent size)
    (hperformed : Performed size before.mutations call result after) :
    (∀ id sent answer, call.operationId = some id → result = .dispatched sent answer →
        ∃ saved ∈ after, saved.id = id ∧ saved.request = sent) ∧
      (∀ saved ∈ before.mutations, ∀ saved' ∈ after,
        saved'.id = saved.id → saved'.request = saved.request) ∧
      ∀ saved ∈ before.mutations, saved.id ∉ after.map (·.id) →
        ∃ response, (before.answers saved.id).getLast? = some (.success response) := by
  have hsame : ∀ saved ∈ before.mutations, ∀ saved' ∈ before.mutations,
      saved'.id = saved.id → saved'.request = saved.request := by
    intro saved hmem saved' hmem' hid
    rw [h.single.eq_of_key_eq hmem' hmem hid]
  cases hperformed with
  | read sent answer =>
      refine ⟨fun id _ _ hcall _ => (nomatch hcall), hsame, fun saved hmem hgone => ?_⟩
      exact absurd (List.mem_map_of_mem hmem) hgone
  | refused call code message hsaved =>
      refine ⟨fun id _ _ _ hresult => (nomatch hresult), hsame, fun saved hmem hgone => ?_⟩
      exact absurd (List.mem_map_of_mem hmem) hgone
  | again call saved answer hcall hmem =>
      refine ⟨?_, ?_, ?_⟩
      · intro id sent answer' hid hresult
        cases hresult
        rw [hcall] at hid
        cases hid
        exact ⟨_, Table.mem_updateWhere_of_pos hmem (beq_self_eq_true saved.id), rfl, rfl⟩
      · intro first hfirst saved' hmem' hid
        obtain ⟨old, hold, rfl⟩ := Table.mem_updateWhere.mp hmem'
        by_cases hnoted : (old.id == saved.id) = true
        · rw [if_pos hnoted] at hid ⊢
          exact hsame first hfirst old hold hid
        · rw [if_neg hnoted] at hid ⊢
          exact hsame first hfirst old hold hid
      · intro first hfirst hgone
        rw [settle, Table.map_updateWhere] at hgone
        · exact absurd (List.mem_map_of_mem hfirst) hgone
        · intro _ _
          rfl
  | new sent id answer left hnew hsublist hpending hroom =>
      refine ⟨?_, ?_, ?_⟩
      · intro id' sent' answer' hid hresult
        cases hid
        cases hresult
        exact ⟨_, List.mem_append_right _ (List.mem_singleton_self _), rfl, rfl⟩
      · intro saved hmem saved' hmem' hid
        rcases List.mem_append.mp hmem' with hmem' | hmem'
        · exact hsame saved hmem saved' (hsublist.mem hmem') hid
        · rw [List.mem_singleton.mp hmem'] at hid
          exact absurd (List.mem_map.mpr ⟨saved, hmem, hid.symm⟩) hnew
      · intro saved hmem hgone
        refine h.dropped hpending hmem fun hmem' => hgone ?_
        rw [List.map_append]
        exact List.mem_append_left _ hmem'
  | noRoom sent id answer message hnew hfull =>
      refine ⟨fun id _ _ _ hresult => (nomatch hresult), ?_, fun saved hmem hgone => ?_⟩
      · intro saved hmem saved' hmem' hid
        exact hsame saved hmem saved' (mem_pending.mp hmem').1 hid
      · refine h.dropped ?_ hmem hgone
        rw [pending, pending, List.filter_filter]
        simp only [Bool.and_self]

/-- The bookkeeping fails exactly where a call makes room in vain, or for want of room that the
    mutations with a definitive answer take. -/
theorem Bridge.Consistent.bookkept_iff (h : before.Consistent size) (call : Call ρ β) :
    Bookkept size before call ↔ Roomy size before call := by
  have hafter := bridgeMachine_step h call
  have hperformed := Mcp.performed size call before.mutations
  obtain ⟨hexact, hsame, hkept⟩ := h.keeps hperformed
  have hbytes : ((call.perform size before.mutations).2.map (size ·.request)).sum ≤
      maxRetryBytes := by
    have hsizes : (call.perform size before.mutations).2.map (size ·.request) =
        (call.perform size before.mutations).2.map (·.bytes) :=
      List.map_congr_left fun saved hmem => (hafter.sizes saved hmem).symm
    rw [hsizes]
    exact hafter.bytes
  -- what is left are the refusals
  have hparts : Bookkept size before call ↔
      (∀ code message, (call.perform size before.mutations).1 = .refused code message →
        (call.perform size before.mutations).2 = before.mutations) ∧
      ∀ sent id answer code message, call = .request sent (some id) answer →
        id ∉ before.mutations.map (·.id) → size sent ≤ maxRetryBytes →
        (call.perform size before.mutations).1 = .refused code message →
        full before.undecided (size sent) = true :=
    ⟨fun hbook => ⟨hbook.refused, hbook.room⟩, fun ⟨hrefused, hroom⟩ =>
      ⟨hafter.count, hbytes, hafter.single, hexact, hsame, hkept, hrefused, hroom⟩⟩
  rw [hparts]
  generalize (call.perform size before.mutations).1 = result at hperformed
  generalize (call.perform size before.mutations).2 = after at hperformed
  cases hperformed with
  | read sent answer =>
      exact ⟨fun _ => trivial, fun _ => ⟨fun _ _ _ => rfl, fun _ _ _ _ _ _ _ _ h => (nomatch h)⟩⟩
  | refused call code message hsaved =>
      have hroomy : Roomy size before call := by
        unfold Roomy
        split
        · next sent id answer =>
            intro hnew
            exact absurd (hsaved sent id answer rfl) hnew
        · trivial
        · trivial
      refine ⟨fun _ => hroomy, fun _ => ⟨fun _ _ _ => rfl, ?_⟩⟩
      intro sent id answer _ _ hcall hnew
      exact absurd (hsaved sent id answer hcall) hnew
  | again call saved answer hcall hmem =>
      have hroomy : Roomy size before call := by
        unfold Roomy
        split
        · next sent id answer' =>
            intro hnew
            cases hcall
            exact absurd (List.mem_map_of_mem hmem) hnew
        · trivial
        · trivial
      exact ⟨fun _ => hroomy,
        fun _ => ⟨fun _ _ h => (nomatch h), fun _ _ _ _ _ _ _ _ h => (nomatch h)⟩⟩
  | new sent id answer left hnew hsublist hpending hroom =>
      have hroomy : Roomy size before (.request sent (some id) answer) := by
        intro _ hfull
        have hpart : full (pending left) (size sent) = false :=
          full_of_sublist List.filter_sublist hroom
        rw [← hpending, hpart] at hfull
        cases hfull
      exact ⟨fun _ => hroomy,
        fun _ => ⟨fun _ _ h => (nomatch h), fun _ _ _ _ _ _ _ _ h => (nomatch h)⟩⟩
  | noRoom sent id answer message hnew hfull =>
      constructor
      · rintro ⟨hrefused, hroom⟩ _ _
        exact ⟨hrefused _ _ rfl, fun hfits => hroom sent id answer _ _ rfl hnew hfits rfl⟩
      · intro hroomy
        obtain ⟨hnone, hroom⟩ := hroomy hnew hfull
        refine ⟨fun _ _ _ => hnone, ?_⟩
        intro _ _ _ _ _ hcall _ hfits _
        cases hcall
        exact hroom hfits

end Invariant

instance (size : ρ → Nat) (before : Bridge ρ β) (call : Call ρ β) :
    Decidable (Roomy size before call) := by
  cases call with
  | request sent operationId answer =>
      cases operationId with
      | none => exact .isTrue trivial
      | some id => exact inferInstanceAs (Decidable (_ → _ → _ ∧ (_ → _)))
  | retry operationId answer => exact .isTrue trivial

theorem bridgeMachine_start (size : ρ → Nat) :
    ((bridgeMachine size).start : Bridge ρ β).Consistent size where
  count := Nat.zero_le _
  sizes _ hmem := nomatch hmem
  bytes := Nat.zero_le _
  single := List.nodup_nil
  succeeded _ hmem := nomatch hmem

/-- The retries are kept as they should in exactly the runs in which a new mutation without room
    beside the mutations that did not succeed finds none that succeeded, and has no room beside
    those without a definitive answer. -/
theorem retry_bookkeeping (size : ρ → Nat) (calls : List (Call ρ β)) :
    (bridgeMachine size).Meets (Bookkept size) (bridgeMachine size).start calls ↔
      (bridgeMachine size).Meets (Roomy size) (bridgeMachine size).start calls :=
  Machine.meets_congr (I := Bridge.Consistent size) (fun _ call h => bridgeMachine_step h call)
    (fun _ call h => h.bookkept_iff call) (bridgeMachine_start size) calls

/-! ## Rejected mutations -/

/-- A new mutation that finds room is saved and dispatched. -/
theorem perform_new {size : ρ → Nat} {sent : ρ} {id : OperationId} (answer : Answer β)
    {mutations : List (SavedMutation ρ)} (hnew : id ∉ mutations.map (·.id))
    (hroom : full mutations (size sent) = false) :
    (Call.request sent (some id) answer).perform size mutations =
      (.dispatched sent answer, mutations ++ [⟨id, sent, size sent, answer.isOk⟩]) := by
  have hfind : mutations.find? (·.id == id) = none := by
    refine List.find?_eq_none.mpr fun saved hmem hsame => ?_
    exact hnew (List.mem_map.mpr ⟨saved, hmem, eq_of_beq hsame⟩)
  have hmake : makeRoom (size sent) mutations.length mutations = (true, mutations) := by
    cases mutations with
    | nil =>
        rw [List.length_nil, makeRoom, hroom]
        rfl
    | cons saved rest =>
        rw [List.length_cons, makeRoom, hroom]
        rfl
  have hsave : save size sent id mutations =
      (.ok (), mutations ++ [⟨id, sent, size sent, false⟩]) := by
    unfold save
    rw [hfind]
    dsimp only
    rw [hmake]
  unfold Call.perform Mcp.request
  dsimp only
  rw [hsave]
  dsimp only
  rw [settle_append ⟨id, sent, size sent, false⟩ answer hnew]

/-- Every saved mutation has a definitive answer, and none succeeded. -/
def Bridge.Rejected (bridge : Bridge ρ β) : Prop :=
  ∀ saved ∈ bridge.mutations,
    saved.succeeded = false ∧ (bridge.answers saved.id).any (·.isDefinitive) = true

omit [DecidableEq ρ] in
theorem Bridge.Rejected.pending {bridge : Bridge ρ β} (h : bridge.Rejected) :
    pending bridge.mutations = bridge.mutations := by
  refine List.filter_eq_self.mpr fun saved hmem => ?_
  rw [(h saved hmem).1]
  rfl

omit [DecidableEq ρ] in
theorem Bridge.Rejected.undecided {bridge : Bridge ρ β} (h : bridge.Rejected) :
    bridge.undecided = [] := by
  refine List.filter_eq_nil_iff.mpr fun saved hmem => ?_
  rw [(h saved hmem).2]
  exact Bool.false_ne_true

/-- A mutation under a new operation ID that is rejected. -/
def rejectedCall (code : RpcFailureCode) (message : String) (entry : ρ × OperationId) : Call ρ β :=
  .request entry.1 (some entry.2) (.rejection code message)

/-- Rejected mutations are all saved while there is room. -/
theorem runFrom_rejected (size : ρ → Nat) (code : RpcFailureCode) (message : String)
    (entries : List (ρ × OperationId)) {before : Bridge ρ β} (hbefore : before.Rejected)
    (hnew : (before.mutations.map (·.id) ++ entries.map (·.2)).Nodup)
    (hcount : before.mutations.length + entries.length ≤ maxRetries)
    (hbytes : (before.mutations.map (·.bytes)).sum + (entries.map (size ·.1)).sum ≤
      maxRetryBytes) :
    ((bridgeMachine size).runFrom before (entries.map (rejectedCall code message))).Rejected ∧
      ((bridgeMachine size).runFrom before (entries.map (rejectedCall code message))).mutations =
        before.mutations ++ entries.map fun entry => ⟨entry.2, entry.1, size entry.1, false⟩ := by
  induction entries generalizing before with
  | nil => exact ⟨hbefore, (List.append_nil _).symm⟩
  | cons entry rest ih =>
      obtain ⟨sent, id⟩ := entry
      rw [List.map_cons] at hnew
      rw [List.map_cons, List.sum_cons] at hbytes
      rw [List.length_cons] at hcount
      dsimp only at hnew hbytes
      have hid : id ∉ before.mutations.map (·.id) := fun hmem =>
        (List.nodup_append.mp hnew).2.2 id hmem id List.mem_cons_self rfl
      have hroom : full before.mutations (size sent) = false :=
        full_eq_false.mpr ⟨by omega, by omega⟩
      have hperform := perform_new (.rejection code message : Answer β) hid hroom
      let next : Bridge ρ β :=
        (bridgeMachine size).step (rejectedCall code message (sent, id)) before
      have hmutations : next.mutations = before.mutations ++ [⟨id, sent, size sent, false⟩] :=
        congrArg Prod.snd hperform
      have hanswers : ∀ other, next.answers other =
          if id = other then [.rejection code message] else before.answers other := by
        intro other
        show before.note (some id) ((Call.request sent (some id)
          (.rejection code message : Answer β)).perform size before.mutations).1 other = _
        rw [hperform]
        unfold Bridge.note
        dsimp only
        by_cases hother : id = other
        · rw [if_pos (congrArg some hother), if_pos hother, if_neg (hother ▸ hid)]
        · rw [if_neg (mt Option.some.inj hother), if_neg hother]
      have hrejected : next.Rejected := by
        intro saved hmem
        rw [hmutations] at hmem
        rw [hanswers]
        rcases List.mem_append.mp hmem with hold | hlast
        · have hother : id ≠ saved.id := fun hsame =>
            hid (List.mem_map.mpr ⟨saved, hold, hsame.symm⟩)
          rw [if_neg hother]
          exact hbefore saved hold
        · rw [List.mem_singleton.mp hlast]
          exact ⟨rfl, by rw [if_pos rfl]; rfl⟩
      obtain ⟨hend, hsaved⟩ := ih hrejected
        (by rw [hmutations, List.map_append, List.append_assoc]; exact hnew)
        (by rw [hmutations, List.length_append, List.length_singleton]; omega)
        (by
          rw [hmutations, List.map_append, List.sum_append, List.map_singleton, List.sum_singleton]
          dsimp only
          omega)
      refine ⟨hend, hsaved.trans ?_⟩
      rw [hmutations, List.append_assoc]
      rfl

end Bridge

/-- Acknowledge the messages of the inbox up to one of them. -/
structure InboxAcknowledge where
  operationId : OperationId
  through : Nat
deriving DecidableEq, Repr

/-- The request as JSON. -/
def InboxAcknowledge.text (request : InboxAcknowledge) : String :=
  "\x7b\"method\":\"inbox_acknowledge\",\"parameters\":\x7b\"operation_id\":\"" ++
    request.operationId.text ++ "\",\"through\":" ++ toString request.through ++ "\x7d\x7d"

def InboxAcknowledge.size (request : InboxAcknowledge) : Nat :=
  request.text.utf8ByteSize

/-- Calls under fresh operation IDs that all want to acknowledge through a message that an empty
    inbox does not have. -/
def rejectedCalls : List (Call InboxAcknowledge (Nat × Nat)) :=
  (List.range 65).map fun n =>
    let id := ⟨Id.render .operation ("01ARZ3NDEKTSV4RRFFQ69G5F".toList ++
      [Id.alphabet[n / 32]?.getD '0', Id.alphabet[n % 32]?.getD '0'])⟩
    .request { operationId := id, through := 1 } (some id)
      (.rejection .invalidArgument "inbox cursor 1 does not exist; highest cursor is 0")

/-- The operation IDs of these calls. -/
def rejectedId (n : Nat) : OperationId :=
  ⟨Id.render .operation ("01ARZ3NDEKTSV4RRFFQ69G5F".toList ++
    [Id.alphabet[n / 32]?.getD '0', Id.alphabet[n % 32]?.getD '0'])⟩

/-- The calls that the bridge has room for. -/
def rejectedEntries : List (InboxAcknowledge × OperationId) :=
  (List.range 64).map fun n => (⟨rejectedId n, 1⟩, rejectedId n)

theorem rejectedCalls_eq : rejectedCalls =
    rejectedEntries.map
        (rejectedCall .invalidArgument "inbox cursor 1 does not exist; highest cursor is 0") ++
      [rejectedCall .invalidArgument "inbox cursor 1 does not exist; highest cursor is 0"
        (⟨rejectedId 64, 1⟩, rejectedId 64)] := by
  have hrange : List.range 65 = List.range 64 ++ [64] := List.range_succ
  unfold rejectedCalls rejectedEntries
  rw [hrange, List.map_append, List.map_map]
  rfl

theorem rejectedId_inj {n m : Nat} (hn : n < 65) (hm : m < 65) (h : rejectedId n = rejectedId m) :
    n = m := by
  have hletters : ∀ i < 32, ∀ j < 32,
      Id.alphabet[i]?.getD '0' = Id.alphabet[j]?.getD '0' → i = j := by
    decide +kernel
  have htext := congrArg String.toList (congrArg Id.text h)
  simp only [rejectedId, Id.render, String.toList_append, String.toList_ofList,
    List.append_cancel_left_eq, List.cons.injEq, and_true] at htext
  have hhigh := hletters (n / 32) (by omega) (m / 32) (by omega) htext.1
  have hlow := hletters (n % 32) (by omega) (m % 32) (by omega) htext.2
  omega

theorem rejectedEntries_ids : rejectedEntries.map (·.2) = (List.range 64).map rejectedId := by
  unfold rejectedEntries
  rw [List.map_map]
  rfl

theorem rejectedEntries_length : rejectedEntries.length = 64 := by
  rw [rejectedEntries, List.length_map, List.length_range]

theorem rejectedEntries_nodup : (rejectedEntries.map (·.2)).Nodup := by
  rw [rejectedEntries_ids]
  refine List.Nodup.map_on (fun n hn m hm hsame => ?_) List.nodup_range
  rw [List.mem_range] at hn hm
  exact rejectedId_inj (by omega) (by omega) hsame

theorem rejectedId_notMem : rejectedId 64 ∉ rejectedEntries.map (·.2) := by
  intro hmem
  rw [rejectedEntries_ids] at hmem
  obtain ⟨n, hn, hsame⟩ := List.mem_map.mp hmem
  rw [List.mem_range] at hn
  exact absurd (rejectedId_inj (by omega) (by omega) hsame) (by omega)

theorem rejectedId_size : ∀ n < 65, InboxAcknowledge.size ⟨rejectedId n, 1⟩ ≤ 200 := by
  decide +kernel

theorem rejectedEntries_bytes :
    (rejectedEntries.map (InboxAcknowledge.size ·.1)).sum ≤ maxRetryBytes := by
  have hbound := List.sum_le_card_nsmul (rejectedEntries.map (InboxAcknowledge.size ·.1)) 200 ?_
  · rw [List.length_map, rejectedEntries_length] at hbound
    exact hbound.trans (by decide)
  · intro bytes hmem
    rw [rejectedEntries, List.map_map] at hmem
    obtain ⟨n, hn, rfl⟩ := List.mem_map.mp hmem
    rw [List.mem_range] at hn
    exact rejectedId_size n (by omega)

/-- Mutations that were rejected fill the bridge. -/
theorem retry_rejections_block :
    ¬ (bridgeMachine InboxAcknowledge.size).Meets (Bookkept InboxAcknowledge.size)
      (bridgeMachine InboxAcknowledge.size).start rejectedCalls := by
  rw [Machine.meets_congr (I := Bridge.Consistent InboxAcknowledge.size)
    (fun _ call h => bridgeMachine_step h call) (fun _ call h => h.bookkept_iff call)
    (bridgeMachine_start _)]
  rw [rejectedCalls_eq, Machine.meets_append]
  rintro ⟨-, hroomy, -⟩
  have hstart : Bridge.Rejected
      (bridgeMachine (β := Nat × Nat) InboxAcknowledge.size).start := nofun
  have hnone : (bridgeMachine (β := Nat × Nat) InboxAcknowledge.size).start.mutations = [] := rfl
  obtain ⟨hrejected, hmutations⟩ := runFrom_rejected InboxAcknowledge.size
    .invalidArgument "inbox cursor 1 does not exist; highest cursor is 0" rejectedEntries
    hstart rejectedEntries_nodup (by rw [rejectedEntries_length]; decide)
    (by
      rw [hnone, List.map_nil, List.sum_nil, Nat.zero_add]
      exact rejectedEntries_bytes)
  -- Only what is known of the bridge with all of them is used from here on.
  generalize (bridgeMachine InboxAcknowledge.size).runFrom _ _ = after
    at hroomy hrejected hmutations
  have hfull : after.mutations.length = maxRetries := by
    rw [hmutations, List.length_append, List.length_map, rejectedEntries_length]
    rfl
  have hnew : rejectedId 64 ∉ after.mutations.map (·.id) := by
    rw [hmutations, List.map_append, List.map_map]
    exact rejectedId_notMem
  have hlast : InboxAcknowledge.size ⟨rejectedId 64, 1⟩ ≤ maxRetryBytes :=
    (rejectedId_size 64 (by omega)).trans (by decide)
  obtain ⟨-, hblocked⟩ := hroomy hnew (by
    rw [hrejected.pending, full, hfull, decide_eq_true le_rfl, Bool.true_or])
  have hempty : full after.undecided (InboxAcknowledge.size ⟨rejectedId 64, 1⟩) = false := by
    rw [hrejected.undecided, full_eq_false, List.map_nil, List.sum_nil, Nat.zero_add]
    exact ⟨by decide, hlast⟩
  exact Bool.false_ne_true (hempty.symm.trans (hblocked hlast))

end Mcp

end Coterie
