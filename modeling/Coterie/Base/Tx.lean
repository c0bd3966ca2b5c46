/-
  Coterie.Base.Tx

  Store computations and transactions.  A `Tx σ ε α` reads and writes a store of type `σ` and
  either returns an `α` or stops with an error.  The store reached is part of the outcome in both
  cases, so that undoing the writes of a failed computation is a step of its own:
  `Tx.transaction`.

  Two notions carry the proofs about such computations:

  - `Tx.Keeps R x`: whatever `x` does, successful or not, `R` relates the store before to the
    store after (a frame condition when `R` says which tables agree);
  - `Tx.Preserves I x`: a successful run of `x` from a store satisfying `I` ends in one.

  Both compose along `pure`, `>>=`, `throw`, conditionals and loops.  `Tx.Succeeds Q x s` is the
  total form: from `s`, `x` succeeds and ends in `Q`.  `Tx.Matches R T x y` is about two
  computations: from related stores, what `x` does successfully `y` does as well.
-/

import Mathlib.Logic.Basic
import Mathlib.Order.Defs.Unbundled

/-- A computation on a store of type `σ` with errors in `ε`.  The store reached is returned on
    an error too. -/
structure Tx (σ ε α : Type) where
  run : σ → Except ε α × σ

namespace Tx

variable {σ ε α β : Type}

/-- Return a value and leave the store as it is. -/
protected def pure (a : α) : Tx σ ε α := ⟨fun s => (.ok a, s)⟩

/-- Run `x`; on success continue with `f` from the store reached. -/
protected def bind (x : Tx σ ε α) (f : α → Tx σ ε β) : Tx σ ε β :=
  ⟨fun s =>
    match x.run s with
    | (.ok a, s') => (f a).run s'
    | (.error e, s') => (.error e, s')⟩

instance : Monad (Tx σ ε) where
  pure := Tx.pure
  bind := Tx.bind

/-- Stop with an error. -/
protected def throw (e : ε) : Tx σ ε α := ⟨fun s => (.error e, s)⟩

/-- Run `handler` on an error of `x`, from the store that `x` reached. -/
protected def tryCatch (x : Tx σ ε α) (handler : ε → Tx σ ε α) : Tx σ ε α :=
  ⟨fun s =>
    match x.run s with
    | (.ok a, s') => (.ok a, s')
    | (.error e, s') => (handler e).run s'⟩

instance : MonadExceptOf ε (Tx σ ε) where
  throw := Tx.throw
  tryCatch := Tx.tryCatch

/-- Read a value computed from the store. -/
def read (f : σ → α) : Tx σ ε α := ⟨fun s => (.ok (f s), s)⟩

/-- Write the store. -/
def write (f : σ → σ) : Tx σ ε Unit := ⟨fun s => (.ok (), f s)⟩

/-- Stop with `e` unless `p` holds of the store. -/
def require (e : ε) (p : σ → Bool) : Tx σ ε Unit :=
  ⟨fun s => if p s then (.ok (), s) else (.error e, s)⟩

/-- Return the content of an optional value, or stop with `e`. -/
def okOr (e : ε) : Option α → Tx σ ε α
  | some a => Tx.pure a
  | none => Tx.throw e

/-- Use the outcome of a computation that has no store. -/
def ofExcept (r : Except ε α) : Tx σ ε α := ⟨fun s => (r, s)⟩

/-- Run `x` when a condition holds. -/
def when (c : Prop) [Decidable c] (x : Tx σ ε Unit) : Tx σ ε Unit :=
  if c then x else Tx.pure ()

/-- Apply `f` to the elements of a list from left to right. -/
def each (f : β → Tx σ ε Unit) : List β → Tx σ ε Unit
  | [] => Tx.pure ()
  | b :: bs => Tx.bind (f b) fun _ => each f bs

/-- Commit the writes of `x` when it succeeds; take all of them back when it fails. -/
def transaction (x : Tx σ ε α) : Tx σ ε α :=
  ⟨fun s =>
    match x.run s with
    | (.ok a, s') => (.ok a, s')
    | (.error e, _) => (.error e, s)⟩

-- ============================================================================
-- Successful runs
-- ============================================================================

@[simp]
theorem run_pure (a : α) (s : σ) : (pure a : Tx σ ε α).run s = (.ok a, s) := rfl

theorem run_bind (x : Tx σ ε α) (f : α → Tx σ ε β) (s : σ) :
    (x >>= f).run s = match x.run s with
      | (.ok a, s') => (f a).run s'
      | (.error e, s') => (.error e, s') := rfl

@[simp]
theorem run_throw (e : ε) (s : σ) : (throw e : Tx σ ε α).run s = (.error e, s) := rfl

@[simp]
theorem run_read (f : σ → α) (s : σ) : (read f : Tx σ ε α).run s = (.ok (f s), s) := rfl

@[simp]
theorem run_write (f : σ → σ) (s : σ) : (write f : Tx σ ε Unit).run s = (.ok (), f s) := rfl

theorem run_require (e : ε) (p : σ → Bool) (s : σ) :
    (require e p).run s = if p s then (.ok (), s) else (.error e, s) := rfl

@[simp]
theorem run_ofExcept (r : Except ε α) (s : σ) : (ofExcept r : Tx σ ε α).run s = (r, s) := rfl

@[simp]
theorem run_okOr_some (e : ε) (a : α) (s : σ) :
    (okOr e (some a) : Tx σ ε α).run s = (.ok a, s) := rfl

@[simp]
theorem run_okOr_none (e : ε) (s : σ) :
    (okOr e (none : Option α) : Tx σ ε α).run s = (.error e, s) := rfl

theorem run_ite (c : Prop) [Decidable c] (x y : Tx σ ε α) (s : σ) :
    (if c then x else y).run s = if c then x.run s else y.run s := by
  split <;> rfl

/-- Continue after a first part that succeeded. -/
theorem run_bind_of_ok {x : Tx σ ε α} {f : α → Tx σ ε β} {s s' : σ} {a : α}
    (h : x.run s = (.ok a, s')) : (x >>= f).run s = (f a).run s' := by
  rw [run_bind, h]

/-- A sequence stops where its first part stops. -/
theorem run_bind_of_error {x : Tx σ ε α} {f : α → Tx σ ε β} {s s' : σ} {e : ε}
    (h : x.run s = (.error e, s')) : (x >>= f).run s = (.error e, s') := by
  rw [run_bind, h]

/-- A successful run of a sequence splits into two successful runs. -/
@[simp]
theorem bind_eq_ok {x : Tx σ ε α} {f : α → Tx σ ε β} {s s' : σ} {b : β} :
    (x >>= f).run s = (.ok b, s') ↔
      ∃ a s₁, x.run s = (.ok a, s₁) ∧ (f a).run s₁ = (.ok b, s') := by
  rw [run_bind]
  constructor
  · intro h
    split at h
    · next a s₁ hx => exact ⟨a, s₁, hx, h⟩
    · simp at h
  · rintro ⟨a, s₁, hx, hf⟩
    rw [hx]
    exact hf

/-- A failed run of a sequence fails in the first part or in the second. -/
theorem bind_eq_error {x : Tx σ ε α} {f : α → Tx σ ε β} {s s' : σ} {e : ε} :
    (x >>= f).run s = (.error e, s') ↔
      x.run s = (.error e, s') ∨
        ∃ a s₁, x.run s = (.ok a, s₁) ∧ (f a).run s₁ = (.error e, s') := by
  rw [run_bind]
  constructor
  · intro h
    split at h
    · next a s₁ hx => exact .inr ⟨a, s₁, hx, h⟩
    · next e' s₁ hx =>
        simp only [Prod.mk.injEq, Except.error.injEq] at h
        obtain ⟨rfl, rfl⟩ := h
        exact .inl hx
  · rintro (hx | ⟨a, s₁, hx, hf⟩)
    · rw [hx]
    · rw [hx]
      exact hf

/-- The only successful run of a `pure`. -/
theorem pure_eq_ok {a b : α} {s s' : σ} :
    (pure a : Tx σ ε α).run s = (.ok b, s') ↔ a = b ∧ s = s' := by
  simp

theorem throw_eq_ok {e : ε} {a : α} {s s' : σ} :
    ¬ (throw e : Tx σ ε α).run s = (.ok a, s') := by
  simp

theorem read_eq_ok {f : σ → α} {a : α} {s s' : σ} :
    (read f : Tx σ ε α).run s = (.ok a, s') ↔ f s = a ∧ s = s' := by
  simp

theorem write_eq_ok {f : σ → σ} {u : Unit} {s s' : σ} :
    (write f : Tx σ ε Unit).run s = (.ok u, s') ↔ f s = s' := by
  simp

@[simp]
theorem require_eq_ok {e : ε} {p : σ → Bool} {u : Unit} {s s' : σ} :
    (require e p).run s = (.ok u, s') ↔ p s = true ∧ s = s' := by
  rw [run_require]
  split <;> simp_all

theorem require_eq_error {e e' : ε} {p : σ → Bool} {s s' : σ} :
    (require e p).run s = (.error e', s') ↔ p s = false ∧ e = e' ∧ s = s' := by
  rw [run_require]
  split <;> simp_all

@[simp]
theorem okOr_eq_ok {e : ε} {o : Option α} {a : α} {s s' : σ} :
    (okOr e o : Tx σ ε α).run s = (.ok a, s') ↔ o = some a ∧ s = s' := by
  cases o <;> simp

theorem ofExcept_eq_ok {r : Except ε α} {a : α} {s s' : σ} :
    (ofExcept r : Tx σ ε α).run s = (.ok a, s') ↔ r = .ok a ∧ s = s' := by
  simp

/-- A conditional step that succeeded either ran or was passed over. -/
theorem when_eq_ok {c : Prop} [Decidable c] {x : Tx σ ε Unit} {u : Unit} {s s' : σ} :
    (when c x).run s = (.ok u, s') ↔ (c ∧ x.run s = (.ok u, s')) ∨ (¬ c ∧ s = s') := by
  unfold when
  split
  · next h => simp [h]
  · next h => simp [h, Tx.pure]

theorem each_nil (f : β → Tx σ ε Unit) : each f [] = pure () := rfl

theorem each_cons (f : β → Tx σ ε Unit) (b : β) (bs : List β) :
    each f (b :: bs) = f b >>= fun _ => each f bs := rfl

theorem transaction_eq_ok {x : Tx σ ε α} {a : α} {s s' : σ} :
    (transaction x).run s = (.ok a, s') ↔ x.run s = (.ok a, s') := by
  unfold transaction
  dsimp only
  split
  · next h => rw [h]
  · next h => simp [h]

/-- A transaction either commits a successful run or leaves the store as it was. -/
theorem transaction_cases (x : Tx σ ε α) (s : σ) :
    (∃ a s', x.run s = (.ok a, s') ∧ (transaction x).run s = (.ok a, s')) ∨
      ∃ e, (x.run s).1 = .error e ∧ (transaction x).run s = (.error e, s) := by
  unfold transaction
  dsimp only
  split
  · next a s' h => exact .inl ⟨a, s', h, rfl⟩
  · next e s' h => exact .inr ⟨e, by rw [h], rfl⟩

/-- What a transaction makes of its result does not matter to the store. -/
theorem transaction_map (x : Tx σ ε α) (f : α → β) (s : σ) :
    ((transaction (x >>= fun a => pure (f a))).run s).2 = ((transaction x).run s).2 := by
  unfold transaction
  dsimp only
  rw [run_bind]
  obtain ⟨outcome, s'⟩ := x.run s
  cases outcome <;> rfl

-- ============================================================================
-- Frame conditions
-- ============================================================================

/-- `R` relates the store before `x` to the store after it, whatever the outcome. -/
def Keeps (R : σ → σ → Prop) (x : Tx σ ε α) : Prop :=
  ∀ s, R s (x.run s).2

namespace Keeps

variable {R : σ → σ → Prop} {x : Tx σ ε α} {f : α → Tx σ ε β}

theorem of_ok {a : α} {s s' : σ} (h : Keeps R x) (hx : x.run s = (.ok a, s')) : R s s' := by
  simpa [hx] using h s

/-- What comes first leaves the store as it is: it fails, or the rest runs on the same store. -/
theorem bind_run {f : α → Tx σ ε β} {r : Except ε β} {s s' : σ} (h : Keeps Eq x)
    (hrun : (x >>= f).run s = (r, s')) :
    (∃ e, r = .error e ∧ s' = s) ∨ ∃ a, x.run s = (.ok a, s) ∧ (f a).run s = (r, s') := by
  cases r with
  | ok b =>
      obtain ⟨a, s₁, hx, hf⟩ := Tx.bind_eq_ok.mp hrun
      obtain rfl : s = s₁ := h.of_ok hx
      exact .inr ⟨a, hx, hf⟩
  | error e =>
      rcases Tx.bind_eq_error.mp hrun with hx | ⟨a, s₁, hx, hf⟩
      · have hsame := h s
        rw [hx] at hsame
        exact .inl ⟨e, rfl, hsame.symm⟩
      · obtain rfl : s = s₁ := h.of_ok hx
        exact .inr ⟨a, hx, hf⟩

theorem mono {R' : σ → σ → Prop} (h : Keeps R x) (hR : ∀ s s', R s s' → R' s s') :
    Keeps R' x :=
  fun s => hR _ _ (h s)

theorem pure [Std.Refl R] (a : α) : Keeps R (pure a : Tx σ ε α) :=
  fun s => Std.Refl.refl s

theorem throw [Std.Refl R] (e : ε) : Keeps R (throw e : Tx σ ε α) :=
  fun s => Std.Refl.refl s

theorem read [Std.Refl R] (g : σ → α) : Keeps R (Tx.read g : Tx σ ε α) :=
  fun s => Std.Refl.refl s

theorem require [Std.Refl R] (e : ε) (p : σ → Bool) : Keeps R (Tx.require e p) := by
  intro s
  rw [run_require]
  split <;> exact Std.Refl.refl s

theorem okOr [Std.Refl R] (e : ε) (o : Option α) : Keeps R (Tx.okOr e o : Tx σ ε α) := by
  intro s
  cases o <;> exact Std.Refl.refl s

theorem ofExcept [Std.Refl R] (r : Except ε α) : Keeps R (Tx.ofExcept r : Tx σ ε α) :=
  fun s => Std.Refl.refl s

theorem write {g : σ → σ} (h : ∀ s, R s (g s)) : Keeps R (Tx.write g : Tx σ ε Unit) :=
  h

/-- At one store: a sequence continues with what its first part returned there. -/
theorem bind_at [IsTrans σ R] {s : σ} (hx : R s (x.run s).2)
    (hf : ∀ a s', x.run s = (.ok a, s') → R s' ((f a).run s').2) : R s ((x >>= f).run s).2 := by
  rw [run_bind]
  split
  · next a s₁ heq =>
      rw [heq] at hx
      exact IsTrans.trans _ _ _ hx (hf a s₁ heq)
  · next e s₁ heq =>
      rw [heq] at hx
      exact hx

theorem bind [IsTrans σ R] (hx : Keeps R x) (hf : ∀ a, Keeps R (f a)) : Keeps R (x >>= f) :=
  fun s => bind_at (hx s) fun a s' _ => hf a s'

/-- Read, then continue: what was read is a value of the store at the start. -/
theorem read_bind {g : σ → α} (h : ∀ s, R s ((f (g s)).run s).2) :
    Keeps R (Tx.read g >>= f) :=
  h

/-- Check at one store, then continue from it when it passed the check. -/
theorem require_bind_at [Std.Refl R] {e : ε} {p : σ → Bool} {g : Unit → Tx σ ε β} {s : σ}
    (h : p s = true → R s ((g ()).run s).2) : R s ((Tx.require e p >>= g).run s).2 := by
  rw [run_bind, run_require]
  split
  · next hrun =>
      split at hrun
      · next hp =>
          cases hrun
          exact h hp
      · cases hrun
  · next hrun =>
      split at hrun
      · cases hrun
      · cases hrun
        exact Std.Refl.refl s

/-- Check, then continue from a store that passed the check. -/
theorem require_bind [Std.Refl R] {e : ε} {p : σ → Bool} {g : Unit → Tx σ ε β}
    (h : ∀ s, p s = true → R s ((g ()).run s).2) : Keeps R (Tx.require e p >>= g) :=
  fun s => require_bind_at (h s)

theorem ite {c : Prop} [Decidable c] {y : Tx σ ε α} (hx : Keeps R x) (hy : Keeps R y) :
    Keeps R (if c then x else y) := by
  split <;> assumption

theorem when [Std.Refl R] {c : Prop} [Decidable c] {y : Tx σ ε Unit} (hy : Keeps R y) :
    Keeps R (Tx.when c y) :=
  Keeps.ite hy (Keeps.pure ())

theorem each [Std.Refl R] [IsTrans σ R] {g : β → Tx σ ε Unit} (h : ∀ b, Keeps R (g b)) :
    ∀ bs : List β, Keeps R (Tx.each g bs)
  | [] => Keeps.pure ()
  | b :: bs => Keeps.bind (h b) fun _ => Keeps.each h bs

/-- Only the elements of the list matter. -/
theorem each_mem [Std.Refl R] [IsTrans σ R] {g : β → Tx σ ε Unit} {bs : List β}
    (h : ∀ b ∈ bs, Keeps R (g b)) : Keeps R (Tx.each g bs) := by
  induction bs with
  | nil => exact Keeps.pure ()
  | cons b bs ih =>
      refine Keeps.bind (h b List.mem_cons_self) fun _ => ?_
      exact ih fun c hc => h c (List.mem_cons_of_mem _ hc)

/-- After `okOr`, the option holds the value. -/
theorem okOr_bind [Std.Refl R] {e : ε} {o : Option α}
    (hf : ∀ a, o = some a → Keeps R (f a)) : Keeps R (Tx.okOr e o >>= f) := by
  cases o with
  | none => intro s; exact Std.Refl.refl s
  | some a => exact hf a rfl

theorem tryCatch [IsTrans σ R] {handler : ε → Tx σ ε α} (hx : Keeps R x)
    (hh : ∀ e, Keeps R (handler e)) : Keeps R (Tx.tryCatch x handler) := by
  intro s
  have h := hx s
  unfold Tx.tryCatch
  dsimp only
  split
  · next heq => simpa [heq] using h
  · next e s₁ heq => exact IsTrans.trans _ _ _ (by simpa [heq] using h) (hh e s₁)

theorem transaction [Std.Refl R] (h : Keeps R x) : Keeps R (Tx.transaction x) := by
  intro s
  rcases transaction_cases x s with ⟨a, s', hx, ht⟩ | ⟨e, -, ht⟩
  · rw [ht]
    exact h.of_ok hx
  · rw [ht]
    exact Std.Refl.refl s

end Keeps

-- ============================================================================
-- Postconditions
-- ============================================================================

/-- A successful run of `x` relates the store before to the store after by `R`. -/
def Ensures (R : σ → σ → Prop) (x : Tx σ ε α) : Prop :=
  ∀ s a s', x.run s = (.ok a, s') → R s s'

namespace Ensures

variable {R : σ → σ → Prop} {x : Tx σ ε α} {f : α → Tx σ ε β}

theorem of_keeps {Q : σ → σ → Prop} (h : Keeps Q x) (hQ : ∀ s s', Q s s' → R s s') :
    Ensures R x :=
  fun s _ s' hx => hQ s s' (h.of_ok hx)

theorem throw (e : ε) : Ensures R (throw e : Tx σ ε α) :=
  fun _ _ _ hx => absurd hx throw_eq_ok

/-- A sequence ensures the composition of what its parts ensure. -/
theorem bind {Q T : σ → σ → Prop} (hx : Ensures Q x) (hf : ∀ a, Ensures T (f a))
    (hR : ∀ s t u, Q s t → T t u → R s u) : Ensures R (x >>= f) := by
  intro s b s' h
  obtain ⟨a, s₁, h₁, h₂⟩ := bind_eq_ok.mp h
  exact hR s s₁ s' (hx s a s₁ h₁) (hf a s₁ b s' h₂)

theorem pure [Std.Refl R] (a : α) : Ensures R (pure a : Tx σ ε α) :=
  of_keeps (Keeps.pure a) fun _ _ h => h

theorem read [Std.Refl R] (g : σ → α) : Ensures R (Tx.read g : Tx σ ε α) :=
  of_keeps (Keeps.read g) fun _ _ h => h

theorem require [Std.Refl R] (e : ε) (p : σ → Bool) : Ensures R (Tx.require e p) :=
  of_keeps (Keeps.require e p) fun _ _ h => h

theorem okOr [Std.Refl R] (e : ε) (o : Option α) : Ensures R (Tx.okOr e o : Tx σ ε α) :=
  of_keeps (Keeps.okOr e o) fun _ _ h => h

/-- A sequence ensures a transitive relation that its parts ensure. -/
theorem seq [IsTrans σ R] (hx : Ensures R x) (hf : ∀ a, Ensures R (f a)) :
    Ensures R (x >>= f) :=
  bind hx hf fun _ _ _ hst htu => IsTrans.trans _ _ _ hst htu

theorem ite {c : Prop} [Decidable c] {y : Tx σ ε α} (hx : Ensures R x) (hy : Ensures R y) :
    Ensures R (if c then x else y) := by
  split <;> assumption

theorem when [Std.Refl R] {c : Prop} [Decidable c] {y : Tx σ ε Unit} (hy : Ensures R y) :
    Ensures R (Tx.when c y) :=
  ite hy (pure ())

end Ensures

-- ============================================================================
-- Successful outcomes
-- ============================================================================

/-- From `s`, `x` succeeds, with a result and a store that satisfy `Q`. -/
def Succeeds (Q : α → σ → Prop) (x : Tx σ ε α) (s : σ) : Prop :=
  ∃ a s', x.run s = (.ok a, s') ∧ Q a s'

namespace Succeeds

variable {Q : α → σ → Prop} {T : β → σ → Prop} {x : Tx σ ε α} {f : α → Tx σ ε β} {s : σ}

theorem pure {a : α} (h : Q a s) : Succeeds Q (pure a : Tx σ ε α) s :=
  ⟨a, s, rfl, h⟩

theorem write {g : σ → σ} {P : Unit → σ → Prop} (h : P () (g s)) :
    Succeeds P (Tx.write g : Tx σ ε Unit) s :=
  ⟨(), g s, rfl, h⟩

theorem mono {P : α → σ → Prop} (h : Succeeds P x s) (hQ : ∀ a s', P a s' → Q a s') :
    Succeeds Q x s := by
  obtain ⟨a, s', hx, hP⟩ := h
  exact ⟨a, s', hx, hQ a s' hP⟩

/-- A success also keeps what every run keeps. -/
theorem keeps {R : σ → σ → Prop} (h : Succeeds Q x s) (hx : Keeps R x) :
    Succeeds (fun a s' => Q a s' ∧ R s s') x s := by
  obtain ⟨a, s', hrun, hQ⟩ := h
  exact ⟨a, s', hrun, hQ, hx.of_ok hrun⟩

theorem bind (hx : Succeeds Q x s) (hf : ∀ a s', Q a s' → Succeeds T (f a) s') :
    Succeeds T (x >>= f) s := by
  obtain ⟨a, s₁, h₁, hQ⟩ := hx
  obtain ⟨b, s₂, h₂, hT⟩ := hf a s₁ hQ
  exact ⟨b, s₂, bind_eq_ok.mpr ⟨a, s₁, h₁, h₂⟩, hT⟩

theorem read_bind {g : σ → α} (h : Succeeds T (f (g s)) s) : Succeeds T (Tx.read g >>= f) s :=
  h

theorem require_bind {e : ε} {p : σ → Bool} {g : Unit → Tx σ ε β} (hp : p s = true)
    (h : Succeeds T (g ()) s) : Succeeds T (Tx.require e p >>= g) s := by
  refine bind (Q := fun _ s' => s' = s) ⟨(), s, ?_, rfl⟩ ?_
  · rw [run_require, if_pos hp]
  · rintro _ _ rfl
    exact h

/-- A loop succeeds when each step succeeds from where the invariant holds; what a step reaches for
    its element is there at the end, as long as later steps keep it. -/
theorem each {I : σ → Prop} {P : β → σ → Prop} {g : β → Tx σ ε Unit} {bs : List β}
    (h : ∀ b ∈ bs, ∀ t, I t →
      Succeeds (fun _ t' => I t' ∧ P b t' ∧ ∀ c, P c t → P c t') (g b) t)
    (hI : I s) :
    Succeeds (fun _ t => I t ∧ (∀ b ∈ bs, P b t) ∧ ∀ c, P c s → P c t) (Tx.each g bs) s := by
  induction bs generalizing s with
  | nil => exact ⟨(), s, rfl, hI, fun b hb => absurd hb List.not_mem_nil, fun _ hc => hc⟩
  | cons b rest ih =>
      refine bind (h b List.mem_cons_self s hI) fun _ t ⟨ht, hb, hkept⟩ => ?_
      refine (ih (fun c hc => h c (List.mem_cons_of_mem _ hc)) ht).mono ?_
      rintro _ u ⟨hu, hrest, hkept'⟩
      refine ⟨hu, ?_, fun c hc => hkept' c (hkept c hc)⟩
      intro c hc
      rcases List.mem_cons.mp hc with rfl | hc
      · exact hkept' c hb
      · exact hrest c hc

end Succeeds

-- ============================================================================
-- Two computations
-- ============================================================================

/-- From stores related by `R`, a success of `x` is one of `y` with the same result, in stores
    related by `T`. -/
def Matches (R T : σ → σ → Prop) (x y : Tx σ ε α) : Prop :=
  ∀ s s' a t, R s s' → x.run s = (.ok a, t) → ∃ t', y.run s' = (.ok a, t') ∧ T t t'

namespace Matches

variable {R S T : σ → σ → Prop} {x y : Tx σ ε α} {f g : α → Tx σ ε β}

theorem pure (a : α) : Matches R R (pure a : Tx σ ε α) (pure a) := by
  intro s s' b t hR h
  obtain ⟨rfl, rfl⟩ := pure_eq_ok.mp h
  exact ⟨s', rfl, hR⟩

theorem throw (e : ε) : Matches R T (throw e : Tx σ ε α) y :=
  fun _ _ _ _ _ h => absurd h throw_eq_ok

theorem ofExcept (r : Except ε α) : Matches R R (Tx.ofExcept r : Tx σ ε α) (Tx.ofExcept r) := by
  intro s s' a t hR h
  obtain ⟨hr, rfl⟩ := ofExcept_eq_ok.mp h
  exact ⟨s', ofExcept_eq_ok.mpr ⟨hr, rfl⟩, hR⟩

theorem write {f g : σ → σ} (h : ∀ s s', R s s' → T (f s) (g s')) :
    Matches R T (Tx.write f : Tx σ ε Unit) (Tx.write g) := by
  intro s s' a t hR hrun
  obtain rfl := Tx.write_eq_ok.mp hrun
  exact ⟨g s', rfl, h s s' hR⟩

theorem bind (hx : Matches R S x y) (hf : ∀ a, Matches S T (f a) (g a)) :
    Matches R T (x >>= f) (y >>= g) := by
  intro s s' b t hR h
  obtain ⟨a, s₁, h₁, h₂⟩ := bind_eq_ok.mp h
  obtain ⟨s₁', h₁', hS⟩ := hx s s' a s₁ hR h₁
  obtain ⟨t', h₂', hT⟩ := hf a s₁ s₁' b t hS h₂
  exact ⟨t', bind_eq_ok.mpr ⟨a, s₁', h₁', h₂'⟩, hT⟩

/-- What they read is related, and what they go on with matches. -/
theorem read_bind_of {γ : Type} {V : γ → γ → Prop} {p q : σ → γ} {f g : γ → Tx σ ε β}
    (h : ∀ s s', R s s' → V (p s) (q s')) (hf : ∀ a b, V a b → Matches R T (f a) (g b)) :
    Matches R T (Tx.read p >>= f) (Tx.read q >>= g) := by
  intro s s' b t hR hrun
  rw [run_bind, run_read] at hrun ⊢
  exact hf _ _ (h s s' hR) s s' b t hR hrun

/-- Both read the same. -/
theorem read_bind {p q : σ → α} (h : ∀ s s', R s s' → q s' = p s)
    (hf : ∀ a, Matches R T (f a) (g a)) : Matches R T (Tx.read p >>= f) (Tx.read q >>= g) := by
  refine read_bind_of (V := fun a b => b = a) h ?_
  intro found found' hfound
  rw [hfound]
  exact hf found

/-- What the first one requires entails what the second one requires. -/
theorem require_bind {e e' : ε} {p q : σ → Bool} {f g : Unit → Tx σ ε β}
    (h : ∀ s s', R s s' → p s = true → q s' = true) (hf : Matches R T (f ()) (g ())) :
    Matches R T (Tx.require e p >>= f) (Tx.require e' q >>= g) := by
  intro s s' b t hR hrun
  obtain ⟨_, s₁, h₁, h₂⟩ := bind_eq_ok.mp hrun
  obtain ⟨hp, rfl⟩ := require_eq_ok.mp h₁
  obtain ⟨t', h₂', hT⟩ := hf s s' b t hR h₂
  exact ⟨t', bind_eq_ok.mpr ⟨(), s', require_eq_ok.mpr ⟨h s s' hR hp, rfl⟩, h₂'⟩, hT⟩

theorem ite {c : Prop} [Decidable c] {x' y' : Tx σ ε α} (hx : c → Matches R T x y)
    (hy : ¬c → Matches R T x' y') :
    Matches R T (if c then x else x') (if c then y else y') := by
  split
  · next hc => exact hx hc
  · next hc => exact hy hc

theorem mono {Q U : σ → σ → Prop} (h : Matches R T x y) (hR : ∀ s s', Q s s' → R s s')
    (hT : ∀ s s', T s s' → U s s') : Matches Q U x y := by
  intro s s' a t hQ hrun
  obtain ⟨t', hrun', htt⟩ := h s s' a t (hR s s' hQ) hrun
  exact ⟨t', hrun', hT t t' htt⟩

end Matches

-- ============================================================================
-- Invariants
-- ============================================================================

/-- A successful run of `x` from a store satisfying `I` ends in one. -/
def Preserves (I : σ → Prop) (x : Tx σ ε α) : Prop :=
  ∀ s a s', I s → x.run s = (.ok a, s') → I s'

namespace Preserves

variable {I : σ → Prop} {x : Tx σ ε α} {f : α → Tx σ ε β}

theorem of_keeps {R : σ → σ → Prop} (h : Keeps R x) (hR : ∀ s s', R s s' → I s → I s') :
    Preserves I x :=
  fun s _ _ hI hx => hR s _ (h.of_ok hx) hI

theorem pure (a : α) : Preserves I (pure a : Tx σ ε α) := by
  intro s b s' hI h
  obtain ⟨-, rfl⟩ := pure_eq_ok.mp h
  exact hI

theorem bind (hx : Preserves I x) (hf : ∀ a, Preserves I (f a)) : Preserves I (x >>= f) := by
  intro s b s' hI h
  obtain ⟨a, s₁, h₁, h₂⟩ := bind_eq_ok.mp h
  exact hf a s₁ b s' (hx s a s₁ hI h₁) h₂

/-- A transaction carries an invariant over, also when its body fails. -/
theorem transaction (h : Preserves I x) {s : σ} (hI : I s) :
    I ((Tx.transaction x).run s).2 := by
  rcases transaction_cases x s with ⟨a, s', hx, ht⟩ | ⟨e, -, ht⟩
  · rw [ht]
    exact h s a s' hI hx
  · rw [ht]
    exact hI

end Preserves

-- ============================================================================
-- Errors that do not occur
-- ============================================================================

/-- From a store that satisfies `I`, `x` stops with no error in `bad`. -/
def Avoids (I : σ → Prop) (bad : ε → Prop) (x : Tx σ ε α) : Prop :=
  ∀ s e s', I s → x.run s = (.error e, s') → ¬ bad e

namespace Avoids

variable {I : σ → Prop} {bad : ε → Prop} {x : Tx σ ε α} {f : α → Tx σ ε β}

theorem pure (a : α) : Avoids I bad (pure a : Tx σ ε α) := by
  intro s e s' _ h
  simp at h

theorem read (g : σ → α) : Avoids I bad (Tx.read g : Tx σ ε α) := by
  intro s e s' _ h
  simp at h

theorem write (g : σ → σ) : Avoids I bad (Tx.write g : Tx σ ε Unit) := by
  intro s e s' _ h
  simp at h

theorem throw {e : ε} (he : ¬ bad e) : Avoids I bad (throw e : Tx σ ε α) := by
  intro s e' s' _ h
  simp only [run_throw, Prod.mk.injEq, Except.error.injEq] at h
  rw [← h.1]
  exact he

theorem require {e : ε} (he : ¬ bad e) (p : σ → Bool) : Avoids I bad (Tx.require e p) := by
  intro s e' s' _ h
  rw [← (require_eq_error.mp h).2.1]
  exact he

theorem okOr {e : ε} (he : ¬ bad e) (o : Option α) : Avoids I bad (Tx.okOr e o : Tx σ ε α) := by
  cases o with
  | none => exact throw he
  | some a => exact pure a

theorem ofExcept {r : Except ε α} (hr : ∀ e, r = .error e → ¬ bad e) :
    Avoids I bad (Tx.ofExcept r : Tx σ ε α) := by
  intro s e s' _ h
  simp only [run_ofExcept, Prod.mk.injEq] at h
  exact hr e h.1

/-- A sequence: what the first part establishes, about its result too, is what the second part may
    start from. -/
theorem bind {J : α → σ → Prop} (hx : Avoids I bad x)
    (hmid : ∀ s a s', I s → x.run s = (.ok a, s') → J a s') (hf : ∀ a, Avoids (J a) bad (f a)) :
    Avoids I bad (x >>= f) := by
  intro s e s' hI h
  rcases bind_eq_error.mp h with hfirst | ⟨a, s₁, h₁, h₂⟩
  · exact hx s e s' hI hfirst
  · exact hf a s₁ e s' (hmid s a s₁ hI h₁) h₂

/-- A sequence whose first part keeps what the second part starts from. -/
theorem bind_keep (hx : Avoids I bad x) (hI : Preserves I x) (hf : ∀ a, Avoids I bad (f a)) :
    Avoids I bad (x >>= f) :=
  bind hx (fun s a s' hs hrun => hI s a s' hs hrun) hf

/-- Read, then continue with a value of a store that satisfies `I`. -/
theorem read_bind {g : σ → α} (h : ∀ s, I s → Avoids I bad (f (g s))) :
    Avoids I bad (Tx.read g >>= f) :=
  fun s e s' hI hrun => h s hI s e s' hI hrun

/-- A sequence whose second part needs nothing of the first. -/
theorem seq (hx : Avoids I bad x) (hf : ∀ a, Avoids (fun _ => True) bad (f a)) :
    Avoids I bad (x >>= f) :=
  bind hx (fun _ _ _ _ _ => trivial) hf

theorem of_true (h : Avoids (fun _ => True) bad x) : Avoids I bad x :=
  fun s e s' _ hx => h s e s' trivial hx

/-- A fact about the store at the start may be used for the whole computation. -/
theorem of_pre (h : ∀ s, I s → Avoids (fun _ => True) bad x) : Avoids I bad x :=
  fun s e s' hI hx => h s hI s e s' trivial hx

theorem ite {c : Prop} [Decidable c] {y : Tx σ ε α} (hx : Avoids I bad x)
    (hy : Avoids I bad y) : Avoids I bad (if c then x else y) := by
  split <;> assumption

theorem when {c : Prop} [Decidable c] {y : Tx σ ε Unit} (hy : Avoids I bad y) :
    Avoids I bad (Tx.when c y) :=
  ite hy (pure ())

theorem each {g : β → Tx σ ε Unit} (h : ∀ b, Avoids (fun _ => True) bad (g b)) (bs : List β) :
    Avoids I bad (Tx.each g bs) := by
  apply of_true
  induction bs with
  | nil => exact pure ()
  | cons b bs ih => exact seq (h b) fun _ => ih

end Avoids

end Tx
