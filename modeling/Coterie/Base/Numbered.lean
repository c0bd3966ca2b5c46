/-
  Coterie.Base.Numbered

  Rows that are numbered 1, 2, … in the order in which they were written, and marks on them that
  cover a first part (`MarkedThrough`), as a cumulative acknowledgement leaves them.  The number of
  the last row is the greatest one, the rows after a cursor are the ones behind it, and the greatest
  marked number says which rows are marked.
-/

import Coterie.Base.Paging
import Coterie.Base.Table
import Mathlib.Data.List.Range

namespace Paging

variable {α : Type} {key : α → Nat} {rows : List α}

/-- The rows are numbered from 1. -/
def Numbered (key : α → Nat) (rows : List α) : Prop :=
  rows.map key = List.range' 1 rows.length

theorem numbered_nil : Numbered key [] := rfl

/-- A row with the next number. -/
theorem Numbered.concat (h : Numbered key rows) {row : α} (hnext : key row = rows.length + 1) :
    Numbered key (rows ++ [row]) := by
  unfold Numbered at h ⊢
  rw [List.map_append, h, List.length_append, List.length_singleton, List.range'_concat,
    List.map_singleton, hnext, Nat.one_mul, Nat.add_comm]

/-- Rewriting rows keeps their numbers. -/
theorem Numbered.map (h : Numbered key rows) {f : α → α} (hf : ∀ row, key (f row) = key row) :
    Numbered key (rows.map f) := by
  unfold Numbered at h ⊢
  rw [List.map_map, List.length_map, ← h]
  exact List.map_congr_left fun row _ => hf row

theorem Numbered.pos (h : Numbered key rows) {row : α} (hrow : row ∈ rows) :
    1 ≤ key row ∧ key row ≤ rows.length := by
  have hmem : key row ∈ rows.map key := List.mem_map_of_mem hrow
  rw [h, List.mem_range'_1] at hmem
  omega

/-- Every number up to the length is given. -/
theorem Numbered.exists_key (h : Numbered key rows) {number : Nat} (hpos : 0 < number)
    (hle : number ≤ rows.length) : ∃ row ∈ rows, key row = number := by
  have hmem : number ∈ rows.map key := by
    rw [h, List.mem_range'_1]
    omega
  exact List.mem_map.mp hmem

/-- The greatest number is the length. -/
theorem Numbered.foldl_max (h : Numbered key rows) : (rows.map key).foldl max 0 = rows.length := by
  refine Nat.le_antisymm (Table.foldl_max_le_iff.mpr ⟨Nat.zero_le _, fun number hnumber => ?_⟩) ?_
  · obtain ⟨row, hrow, rfl⟩ := List.mem_map.mp hnumber
    exact (h.pos hrow).2
  · by_cases hempty : rows.length = 0
    · omega
    · obtain ⟨row, hrow, hkey⟩ := h.exists_key (Nat.pos_of_ne_zero hempty) (Nat.le_refl _)
      exact Table.le_foldl_max (hkey ▸ List.mem_map_of_mem hrow)

theorem Numbered.ordered (h : Numbered key rows) : Ordered key rows := by
  have hsorted := List.pairwise_lt_range' (s := 1) (n := rows.length) 1
  rw [← h, List.pairwise_map] at hsorted
  exact hsorted

theorem later_eq_drop_of_range' {start : Nat} (h : rows.map key = List.range' start rows.length)
    (cursor : Nat) : later key rows cursor = rows.drop (cursor + 1 - start) := by
  induction rows generalizing start with
  | nil => simp [later]
  | cons row rest ih =>
      rw [List.map_cons, List.length_cons, List.range'_succ, List.cons.injEq] at h
      obtain ⟨hkey, hrest⟩ := h
      have hih := ih hrest
      unfold later at hih ⊢
      by_cases hlater : cursor < key row
      · have hstart : cursor + 1 - start = 0 := by omega
        have hnext : cursor + 1 - (start + 1) = 0 := by omega
        rw [List.filter_cons_of_pos (by simpa using hlater), hih, hnext, hstart, List.drop_zero,
          List.drop_zero]
      · have hstart : cursor + 1 - start = (cursor + 1 - (start + 1)) + 1 := by omega
        rw [List.filter_cons_of_neg (by simpa using hlater), hih, hstart, List.drop_succ_cons]

/-- The rows after a cursor are the ones behind it. -/
theorem Numbered.later_eq_drop (h : Numbered key rows) (cursor : Nat) :
    later key rows cursor = rows.drop cursor :=
  later_eq_drop_of_range' h cursor

/-- The number of the last row behind the first ones. -/
theorem Numbered.cursorAfter_drop (h : Numbered key rows) {cursor : Nat} :
    cursorAfter key cursor (rows.drop cursor) = max cursor rows.length := by
  rcases List.eq_nil_or_concat rows with hnil | ⟨front, last, hconcat⟩
  · simp [hnil, cursorAfter]
  · have hlast : key last = rows.length := by
      have hkeys := h
      rw [Numbered, hconcat, List.concat_eq_append, List.map_append, List.length_append,
        List.length_singleton, List.range'_concat, List.map_singleton, Nat.one_mul] at hkeys
      obtain ⟨-, hsingle⟩ := List.append_inj' hkeys rfl
      rw [List.singleton_inj.mp hsingle, hconcat, List.concat_eq_append, List.length_append,
        List.length_singleton, Nat.add_comm]
    by_cases hbehind : cursor < rows.length
    · have hdrop : rows.drop cursor = front.drop cursor ++ [last] := by
        rw [hconcat, List.concat_eq_append, List.length_append, List.length_singleton] at hbehind
        rw [hconcat, List.concat_eq_append,
          List.drop_append_of_le_length (Nat.le_of_lt_succ hbehind)]
      rw [hdrop, cursorAfter_concat, hlast, max_eq_right (Nat.le_of_lt hbehind)]
    · rw [List.drop_eq_nil_of_le (Nat.le_of_not_lt hbehind), cursorAfter_nil,
        max_eq_left (Nat.le_of_not_lt hbehind)]

/-! ## Cumulative marks -/

variable {mark : α → Bool} {through : Nat}

/-- Exactly the rows up to a number are marked. -/
structure MarkedThrough (mark : α → Bool) (key : α → Nat) (rows : List α) (through : Nat) :
    Prop where
  numbered : Numbered key rows
  bounded : through ≤ rows.length
  marked : ∀ row ∈ rows, mark row = true ↔ key row ≤ through

theorem markedThrough_nil : MarkedThrough mark key [] 0 where
  numbered := numbered_nil
  bounded := Nat.le_refl 0
  marked := nofun

/-- A new row is not marked. -/
theorem MarkedThrough.concat (h : MarkedThrough mark key rows through) {row : α}
    (hnext : key row = rows.length + 1) (hunmarked : mark row = false) :
    MarkedThrough mark key (rows ++ [row]) through where
  numbered := h.numbered.concat hnext
  bounded := by
    rw [List.length_append]
    exact Nat.le_add_right_of_le h.bounded
  marked := by
    intro other hother
    rcases List.mem_append.mp hother with hold | hnew
    · exact h.marked other hold
    · have hbounded := h.bounded
      rw [List.mem_singleton.mp hnew, hunmarked, hnext]
      simp only [Bool.false_eq_true, false_iff]
      omega

/-- More rows are marked, up to a number that is given. -/
theorem MarkedThrough.map (h : MarkedThrough mark key rows through) {next : Nat} {f : α → α}
    (hnext : next ≤ rows.length) (hkey : ∀ row, key (f row) = key row)
    (hmark : ∀ row ∈ rows, mark (f row) = (mark row || decide (key row ≤ next))) :
    MarkedThrough mark key (rows.map f) (max through next) where
  numbered := h.numbered.map hkey
  bounded := by
    rw [List.length_map]
    exact max_le h.bounded hnext
  marked := by
    intro row' hrow'
    obtain ⟨row, hrow, rfl⟩ := List.mem_map.mp hrow'
    rw [hmark row hrow, hkey, Bool.or_eq_true, h.marked row hrow, decide_eq_true_eq, le_max_iff]

/-- The greatest marked number. -/
theorem MarkedThrough.foldl_max (h : MarkedThrough mark key rows through) :
    ((rows.filter mark).map key).foldl max 0 = through := by
  refine Nat.le_antisymm (Table.foldl_max_le_iff.mpr ⟨Nat.zero_le _, fun number hnumber => ?_⟩) ?_
  · obtain ⟨row, hrow, rfl⟩ := List.mem_map.mp hnumber
    obtain ⟨hmem, hmarked⟩ := List.mem_filter.mp hrow
    exact (h.marked row hmem).mp hmarked
  · by_cases hzero : through = 0
    · omega
    · obtain ⟨row, hrow, hkey⟩ := h.numbered.exists_key (Nat.pos_of_ne_zero hzero) h.bounded
      have hmarked : mark row = true := (h.marked row hrow).mpr (Nat.le_of_eq hkey)
      refine Table.le_foldl_max ?_
      rw [← hkey]
      exact List.mem_map_of_mem (List.mem_filter.mpr ⟨hrow, hmarked⟩)

theorem Numbered.take (h : Numbered key rows) {count : Nat} (hcount : count ≤ rows.length) :
    Numbered key (rows.take count) := by
  unfold Numbered at h ⊢
  rw [List.map_take, h, List.take_range'_of_length_ge hcount, List.length_take_of_le hcount]

theorem Numbered.mem_drop (h : Numbered key rows) {cursor : Nat} {row : α} :
    row ∈ rows.drop cursor ↔ row ∈ rows ∧ cursor < key row := by
  rw [← h.later_eq_drop, mem_later]

theorem Numbered.mem_take (h : Numbered key rows) {count : Nat} {row : α} (hrow : row ∈ rows)
    (hle : key row ≤ count) : row ∈ rows.take count := by
  rw [← List.take_append_drop count rows] at hrow
  rcases List.mem_append.mp hrow with hfirst | hlater
  · exact hfirst
  · have hlt := (h.mem_drop.mp hlater).2
    omega

/-- No row behind the marks is marked. -/
theorem MarkedThrough.takeWhile_drop_of_le (h : MarkedThrough mark key rows through) {cursor : Nat}
    (hcursor : through ≤ cursor) : (rows.drop cursor).takeWhile mark = [] := by
  cases hrows : rows.drop cursor with
  | nil => rfl
  | cons row rest =>
      have hmem : row ∈ rows.drop cursor := by
        rw [hrows]
        exact List.mem_cons_self
      obtain ⟨hrow, hlater⟩ := h.numbered.mem_drop.mp hmem
      refine List.takeWhile_cons_of_neg fun hmarked => ?_
      have hle := (h.marked row hrow).mp hmarked
      omega

/-- The marked rows are the first ones. -/
theorem MarkedThrough.takeWhile_drop (h : MarkedThrough mark key rows through) (cursor : Nat) :
    (rows.drop cursor).takeWhile mark = (rows.take through).drop cursor := by
  have hlength : (rows.take through).length = through := List.length_take_of_le h.bounded
  by_cases hbehind : cursor ≤ through
  · have hparts : rows.drop cursor = (rows.take through).drop cursor ++ rows.drop through := by
      conv_lhs => rw [← List.take_append_drop through rows]
      rw [List.drop_append_of_le_length (by rw [hlength]; exact hbehind)]
    have hall : ∀ row ∈ (rows.take through).drop cursor, mark row = true := by
      intro row hrow
      have hmem := List.mem_of_mem_drop hrow
      have hle := ((h.numbered.take h.bounded).pos hmem).2
      rw [hlength] at hle
      exact (h.marked row (List.mem_of_mem_take hmem)).mpr hle
    rw [hparts, List.takeWhile_append_of_pos hall, h.takeWhile_drop_of_le (Nat.le_refl _),
      List.append_nil]
  · have hle : through ≤ cursor := Nat.le_of_not_le hbehind
    rw [h.takeWhile_drop_of_le hle, List.drop_eq_nil_of_le (by rw [hlength]; exact hle)]

/-- Behind a cursor that is marked stand all the rows that are not. -/
theorem MarkedThrough.filter_drop (h : MarkedThrough mark key rows through) {cursor : Nat}
    (hcursor : cursor ≤ through) :
    (rows.drop cursor).filter (fun row => !mark row) = rows.filter fun row => !mark row := by
  have hfirst : (rows.take cursor).filter (fun row => !mark row) = [] := by
    rw [List.filter_eq_nil_iff]
    intro row hrow hunmarked
    have hle := ((h.numbered.take (Nat.le_trans hcursor h.bounded)).pos hrow).2
    rw [List.length_take_of_le (Nat.le_trans hcursor h.bounded)] at hle
    rw [(h.marked row (List.mem_of_mem_take hrow)).mpr (Nat.le_trans hle hcursor)] at hunmarked
    cases hunmarked
  conv_rhs => rw [← List.take_append_drop cursor rows]
  rw [List.filter_append, hfirst, List.nil_append]

theorem cursorAfter_map {β : Type} (f : α → β) (g : β → Nat) (cursor : Nat) (rows : List α) :
    cursorAfter g cursor (rows.map f) = cursorAfter (fun row => g (f row)) cursor rows := by
  unfold cursorAfter
  rw [List.getLast?_map]
  cases rows.getLast? <;> rfl

/-- Of the rows behind a cursor, the marked ones come first. -/
theorem MarkedThrough.cursorAfter_takeWhile (h : MarkedThrough mark key rows through)
    {cursor : Nat} :
    cursorAfter key cursor ((rows.drop cursor).takeWhile mark) = max cursor through := by
  have hcursor := @Numbered.cursorAfter_drop _ _ _ (h.numbered.take h.bounded) cursor
  rwa [List.length_take_of_le h.bounded, ← h.takeWhile_drop] at hcursor

end Paging
