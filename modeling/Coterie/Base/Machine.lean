/-
  Coterie.Base.Machine

  Deterministic machines and their runs.  What is nondeterministic in the modelled system (another
  party's choice, a clock reading, a crash point) is part of the input, so that a run is the list of
  its inputs and a property of every run is a property of every list.

  A run `Meets` a condition when every input satisfies it in the state in which it is taken.
-/

import Mathlib.Data.List.Induction
import Mathlib.Logic.Basic
import Mathlib.Order.Defs.Unbundled

/-- A deterministic machine: where its runs start, and what an input does. -/
structure Machine (σ α : Type) where
  start : σ
  step : α → σ → σ

namespace Machine

variable {σ α : Type} (m : Machine σ α)

/-- The state after some inputs. -/
def runFrom (s : σ) (inputs : List α) : σ :=
  inputs.foldl (fun s a => m.step a s) s

/-- The state after some inputs from the start. -/
def run (inputs : List α) : σ :=
  m.runFrom m.start inputs

/-- Every input satisfies `cond` in the state in which it is taken. -/
def Meets (m : Machine σ α) (cond : σ → α → Prop) : σ → List α → Prop
  | _, [] => True
  | s, a :: rest => cond s a ∧ Meets m cond (m.step a s) rest

instance decidableMeets {cond : σ → α → Prop} [∀ s a, Decidable (cond s a)] :
    ∀ s inputs, Decidable (m.Meets cond s inputs)
  | _, [] => .isTrue trivial
  | s, a :: rest =>
      have : Decidable (m.Meets cond (m.step a s) rest) := decidableMeets (m.step a s) rest
      instDecidableAnd (p := cond s a)

@[simp]
theorem runFrom_nil (s : σ) : m.runFrom s [] = s := rfl

@[simp]
theorem runFrom_cons (s : σ) (a : α) (rest : List α) :
    m.runFrom s (a :: rest) = m.runFrom (m.step a s) rest := rfl

theorem runFrom_append (s : σ) (before after : List α) :
    m.runFrom s (before ++ after) = m.runFrom (m.runFrom s before) after := by
  rw [runFrom, List.foldl_append]
  rfl

theorem run_append (before after : List α) :
    m.run (before ++ after) = m.runFrom (m.run before) after :=
  m.runFrom_append m.start before after

/-- A run meets a condition when its first part does and its second part does from where the first
    ends. -/
theorem meets_append {cond : σ → α → Prop} (s : σ) (before after : List α) :
    m.Meets cond s (before ++ after) ↔
      m.Meets cond s before ∧ m.Meets cond (m.runFrom s before) after := by
  induction before generalizing s with
  | nil => simp [Meets]
  | cons a rest ih =>
      rw [List.cons_append, Meets, ih, Meets, runFrom_cons, and_assoc]

variable {m}

/-- A condition that is always satisfied is met by every run. -/
theorem meets_of_forall {cond : σ → α → Prop} (h : ∀ s a, cond s a) (s : σ) (inputs : List α) :
    m.Meets cond s inputs := by
  induction inputs generalizing s with
  | nil => trivial
  | cons a rest ih => exact ⟨h s a, ih _⟩

/-- A condition on the inputs alone is met by a run whose inputs all satisfy it. -/
theorem meets_of_mem {cond : α → Prop} (s : σ) (inputs : List α) (h : ∀ a ∈ inputs, cond a) :
    m.Meets (fun _ a => cond a) s inputs := by
  induction inputs generalizing s with
  | nil => trivial
  | cons a rest ih =>
      exact ⟨h a List.mem_cons_self, ih _ fun b hb => h b (List.mem_cons_of_mem _ hb)⟩

/-- Two conditions are met together. -/
theorem meets_and {cond cond' : σ → α → Prop} {s : σ} {inputs : List α} (h : m.Meets cond s inputs)
    (h' : m.Meets cond' s inputs) : m.Meets (fun s a => cond s a ∧ cond' s a) s inputs := by
  induction inputs generalizing s with
  | nil => trivial
  | cons a rest ih => exact ⟨⟨h.1, h'.1⟩, ih h.2 h'.2⟩

/-- Invariant rule: what holds before a run and survives each of its steps holds after it. -/
theorem invariant_runFrom {I : σ → Prop} {cond : σ → α → Prop}
    (hstep : ∀ s a, I s → cond s a → I (m.step a s)) {s : σ} {inputs : List α} (hI : I s)
    (hmeets : m.Meets cond s inputs) : I (m.runFrom s inputs) := by
  induction inputs generalizing s with
  | nil => exact hI
  | cons a rest ih =>
      obtain ⟨ha, hrest⟩ := hmeets
      exact ih (hstep s a hI ha) hrest

/-- The invariant rule for machines whose steps are unconditional. -/
theorem invariant_from {I : σ → Prop} (hstep : ∀ s a, I s → I (m.step a s)) {s : σ} (hI : I s)
    (inputs : List α) : I (m.runFrom s inputs) := by
  have hmeets : m.Meets (fun _ _ => True) s inputs := meets_of_forall (fun _ _ => trivial) _ _
  exact invariant_runFrom (fun s a hI _ => hstep s a hI) hI hmeets

theorem invariant_run {I : σ → Prop} (hstart : I m.start) (hstep : ∀ s a, I s → I (m.step a s))
    (inputs : List α) : I (m.run inputs) :=
  invariant_from hstep hstart inputs

/-- History rule: what holds of the inputs so far and the state after them, when every further
    input keeps it. -/
theorem history_run {P : List α → σ → Prop} (hstart : P [] m.start)
    (hstep : ∀ inputs a, P inputs (m.run inputs) → P (inputs ++ [a]) (m.step a (m.run inputs)))
    (inputs : List α) : P inputs (m.run inputs) := by
  induction inputs using List.reverseRecOn with
  | nil => exact hstart
  | append_singleton inputs a ih =>
      rw [run_append]
      exact hstep inputs a ih

/-- Conditions that agree wherever a run can be are met by the same runs. -/
theorem meets_congr {I : σ → Prop} {cond cond' : σ → α → Prop}
    (hstep : ∀ s a, I s → I (m.step a s)) (hiff : ∀ s a, I s → (cond s a ↔ cond' s a)) {s : σ}
    (hI : I s) (inputs : List α) : m.Meets cond s inputs ↔ m.Meets cond' s inputs := by
  induction inputs generalizing s with
  | nil => exact Iff.rfl
  | cons a rest ih => exact and_congr (hiff s a hI) (ih (hstep s a hI))

/-- Relation rule: a reflexive and transitive relation between the states around every step of an
    invariant machine relates the ends of its runs. -/
theorem relation_runFrom {I : σ → Prop} {R : σ → σ → Prop} [Std.Refl R] [IsTrans σ R]
    (hinv : ∀ s a, I s → I (m.step a s)) (hstep : ∀ s a, I s → R s (m.step a s)) {s : σ}
    (hI : I s) (inputs : List α) : R s (m.runFrom s inputs) := by
  induction inputs generalizing s with
  | nil => exact Std.Refl.refl s
  | cons a rest ih => exact IsTrans.trans _ _ _ (hstep s a hI) (ih (hinv s a hI))

end Machine
