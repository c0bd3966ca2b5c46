/-
  Coterie.Base.Numeral

  Numerals of a fixed length, the most significant digit first.  `Numeral.digits` and
  `Numeral.value` undo each other, and numerals of one length are ordered as what they stand for.
-/

import Mathlib.Algebra.GroupWithZero.Nat
import Mathlib.Data.List.Basic
import Mathlib.Data.Fin.Basic

namespace Numeral

variable {base : Nat}

/-- What a numeral stands for. -/
def value : List (Fin base) → Nat
  | [] => 0
  | digit :: rest => digit * base ^ rest.length + value rest

/-- The last `length` digits of a number. -/
def digits (base : Nat) [NeZero base] : Nat → Nat → List (Fin base)
  | 0, _ => []
  | length + 1, n => Fin.ofNat base (n / base ^ length) :: digits base length (n % base ^ length)

@[simp]
theorem length_digits [NeZero base] (length n : Nat) : (digits base length n).length = length := by
  induction length generalizing n with
  | zero => rfl
  | succ length ih => rw [digits, List.length_cons, ih]

theorem value_lt (numeral : List (Fin base)) : value numeral < base ^ numeral.length := by
  induction numeral with
  | nil => exact Nat.one_pos
  | cons digit rest ih =>
      rw [value, List.length_cons, Nat.pow_succ]
      have hdigit : digit.val + 1 ≤ base := digit.isLt
      have hle := Nat.mul_le_mul_right (base ^ rest.length) hdigit
      rw [Nat.add_mul, Nat.one_mul, Nat.mul_comm base] at hle
      omega

theorem value_digits [NeZero base] {length n : Nat} (h : n < base ^ length) :
    value (digits base length n) = n := by
  induction length generalizing n with
  | zero =>
      rw [Nat.pow_zero] at h
      rw [digits, value]
      omega
  | succ length ih =>
      have hpos : 0 < base ^ length := Nat.pow_pos (Nat.pos_of_neZero base)
      have hdigit : n / base ^ length < base := by
        rw [Nat.div_lt_iff_lt_mul hpos, Nat.mul_comm, ← Nat.pow_succ]
        exact h
      rw [digits, value, length_digits, ih (Nat.mod_lt _ hpos), Fin.val_ofNat,
        Nat.mod_eq_of_lt hdigit, Nat.mul_comm]
      exact Nat.div_add_mod _ _

theorem digits_value [NeZero base] (numeral : List (Fin base)) :
    digits base numeral.length (value numeral) = numeral := by
  induction numeral with
  | nil => rfl
  | cons digit rest ih =>
      have hpos : 0 < base ^ rest.length := Nat.pow_pos (Nat.pos_of_neZero base)
      have hlt := value_lt rest
      rw [List.length_cons, digits, value, Nat.mul_comm, Nat.mul_add_mod, Nat.mod_eq_of_lt hlt, ih,
        Nat.mul_add_div hpos, Nat.div_eq_of_lt hlt, Nat.add_zero, Fin.ofNat_val_eq_self]

theorem value_inj {numeral numeral' : List (Fin base)} (hlength : numeral.length = numeral'.length)
    (h : value numeral = value numeral') : numeral = numeral' := by
  rcases Nat.eq_zero_or_pos base with rfl | hbase
  · cases numeral with
    | nil => exact (List.eq_nil_of_length_eq_zero hlength.symm).symm
    | cons digit _ => exact digit.elim0
  · have : NeZero base := ⟨by omega⟩
    rw [← digits_value numeral, ← digits_value numeral', hlength, h]

/-- Numerals of one length are ordered as what they stand for. -/
theorem value_lt_iff {numeral numeral' : List (Fin base)}
    (hlength : numeral.length = numeral'.length) :
    value numeral < value numeral' ↔ numeral < numeral' := by
  induction numeral generalizing numeral' with
  | nil =>
      rw [List.eq_nil_of_length_eq_zero hlength.symm]
      exact iff_of_false (Nat.lt_irrefl _) (List.lt_irrefl [])
  | cons digit rest ih =>
      cases numeral' with
      | nil => cases hlength
      | cons digit' rest' =>
          rw [List.length_cons, List.length_cons, Nat.add_right_cancel_iff] at hlength
          have hrest := value_lt rest
          have hrest' := value_lt rest'
          rw [List.cons_lt_cons_iff, ← ih hlength, value, value, hlength]
          rw [hlength] at hrest
          -- the first digits decide unless they are equal
          rcases Nat.lt_trichotomy digit.val digit'.val with hlt | heq | hgt
          · have hle := Nat.mul_le_mul_right (base ^ rest'.length) (Nat.succ_le_of_lt hlt)
            rw [Nat.succ_mul] at hle
            exact iff_of_true (by omega) (.inl hlt)
          · rw [heq]
            have hne : ¬ digit < digit' := fun h => absurd heq (Nat.ne_of_lt h)
            constructor
            · intro h
              exact .inr ⟨Fin.ext heq, by omega⟩
            · rintro (h | ⟨-, h⟩)
              · exact absurd h hne
              · omega
          · have hle := Nat.mul_le_mul_right (base ^ rest'.length) (Nat.succ_le_of_lt hgt)
            rw [Nat.succ_mul] at hle
            refine iff_of_false (by omega) ?_
            rintro (h | ⟨rfl, -⟩)
            · exact absurd hgt (Nat.lt_asymm h)
            · exact absurd hgt (Nat.lt_irrefl _)

end Numeral
