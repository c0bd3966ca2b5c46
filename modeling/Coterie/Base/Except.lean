/-
  Coterie.Base.Except

  Computations that return a value or an error: what a successful sequence of them went through,
  and the invariant rule for loops that may fail.
-/

import Mathlib.Logic.Basic

namespace Except

variable {ε α β : Type}

theorem bind_eq_ok {x : Except ε α} {f : α → Except ε β} {b : β} :
    (x >>= f) = .ok b ↔ ∃ a, x = .ok a ∧ f a = .ok b := by
  cases x with
  | error e =>
      constructor
      · intro h
        cases h
      · rintro ⟨a, h, -⟩
        cases h
  | ok a =>
      constructor
      · intro h
        exact ⟨a, rfl, h⟩
      · rintro ⟨_, h, hf⟩
        cases h
        exact hf

/-- A sequence fails in its first part or after it. -/
theorem bind_eq_error {x : Except ε α} {f : α → Except ε β} {e : ε} :
    (x >>= f) = .error e ↔ x = .error e ∨ ∃ a, x = .ok a ∧ f a = .error e := by
  cases x with
  | error e' =>
      constructor
      · intro h
        cases h
        exact .inl rfl
      · rintro (h | ⟨a, ha, -⟩)
        · cases h
          rfl
        · cases ha
  | ok a =>
      constructor
      · intro h
        exact .inr ⟨a, rfl, h⟩
      · rintro (h | ⟨a', ha, hf⟩)
        · cases h
        · cases ha
          exact hf

theorem pure_eq_ok {a b : α} : (pure a : Except ε α) = .ok b ↔ a = b := by
  constructor
  · intro h
    cases h
    rfl
  · intro h
    rw [h]
    rfl

/-- Another error, the same value. -/
theorem mapError_eq_ok {ε' : Type} {f : ε → ε'} {x : Except ε α} {a : α} :
    x.mapError f = .ok a ↔ x = .ok a := by
  cases x with
  | error e =>
      constructor
      · intro h
        cases h
      · intro h
        cases h
  | ok b =>
      constructor
      · intro h
        cases h
        rfl
      · intro h
        cases h
        rfl

/-- A value is tested without the error. -/
theorem exists_ok_of_any {x : Except ε α} {p : α → Bool} (h : x.toOption.any p = true) :
    ∃ a, x = .ok a ∧ p a = true := by
  cases x with
  | error e => cases h
  | ok a => exact ⟨a, rfl, h⟩

theorem exists_of_isOk {x : Except ε α} (h : x.isOk = true) : ∃ a, x = .ok a := by
  cases x with
  | error e => cases h
  | ok a => exact ⟨a, rfl⟩

/-- Fail when a condition holds. -/
def refuseIf (p : Prop) [Decidable p] (e : ε) : Except ε Unit :=
  if p then .error e else .ok ()

theorem refuseIf_eq_ok {p : Prop} [Decidable p] {e : ε} {u : Unit} :
    refuseIf p e = .ok u ↔ ¬p := by
  unfold refuseIf
  by_cases h : p
  · rw [if_pos h]
    constructor
    · intro hok
      cases hok
    · intro hno
      exact absurd h hno
  · rw [if_neg h]
    exact ⟨fun _ => h, fun _ => rfl⟩

/-- A loop whose step succeeds exactly on the images of some function. -/
theorem mapM_eq_ok_of_inverse {f : α → Except ε β} {g : β → α}
    (hf : ∀ a b, f a = .ok b ↔ a = g b) {l : List α} {r : List β} :
    l.mapM f = .ok r ↔ l = r.map g := by
  induction l generalizing r with
  | nil =>
      rw [List.mapM_nil, pure_eq_ok]
      cases r <;> simp
  | cons a rest ih =>
      rw [List.mapM_cons, bind_eq_ok]
      constructor
      · rintro ⟨b, ha, h⟩
        obtain ⟨bs, hrest, hpure⟩ := bind_eq_ok.mp h
        obtain rfl := pure_eq_ok.mp hpure
        rw [List.map_cons, ← (hf a b).mp ha, ← ih.mp hrest]
      · intro h
        cases r with
        | nil => cases h
        | cons b bs =>
            obtain ⟨ha, hrest⟩ := List.cons.inj h
            exact ⟨b, (hf a b).mpr ha, bind_eq_ok.mpr ⟨bs, ih.mpr hrest, rfl⟩⟩

/-- A loop keeps what each of its steps keeps. -/
theorem foldlM_keeps {P : β → Prop} {f : β → α → Except ε β} {entries : List α}
    (hstep : ∀ b, ∀ a ∈ entries, ∀ b', P b → f b a = .ok b' → P b') {b b' : β} (hb : P b)
    (h : entries.foldlM f b = .ok b') : P b' := by
  induction entries generalizing b with
  | nil =>
      rw [List.foldlM_nil, pure_eq_ok] at h
      rwa [← h]
  | cons entry rest ih =>
      rw [List.foldlM_cons] at h
      obtain ⟨next, hnext, hrest⟩ := bind_eq_ok.mp h
      refine ih (fun b a ha => hstep b a (List.mem_cons_of_mem _ ha)) ?_ hrest
      exact hstep b entry List.mem_cons_self next hb hnext

end Except
