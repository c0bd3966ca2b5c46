/-
  Coterie.Base.Paging

  Reading an ordered log in pages.  The rows of the log stand in the order of a key; a reader keeps
  the key of the last row it has scanned, the cursor, and asks for the rows after it.  A page scans
  some of these rows and shows what a partial view makes of them: a row that is not shown still
  moves the cursor.

  - `IsPage`: one page, from the cursor it starts at to the cursor it returns;
  - `IsPages`: pages one after the other, each from the cursor that the one before it returned.

  Pages conserve the log (`IsPages.conserves`: what was shown, followed by what is still to be
  shown, is what was to be shown at the start) and make progress (`IsPages.drained`).
-/

import Mathlib.Data.List.Basic
import Mathlib.Data.List.Sort

namespace Paging

variable {α β : Type}

/-- The keys of the rows grow. -/
def Ordered (key : α → Nat) (rows : List α) : Prop :=
  rows.Pairwise fun a b => key a < key b

/-- The rows after a cursor. -/
def later (key : α → Nat) (rows : List α) (cursor : Nat) : List α :=
  rows.filter fun row => cursor < key row

/-- The cursor after some rows were scanned. -/
def cursorAfter (key : α → Nat) (cursor : Nat) (taken : List α) : Nat :=
  taken.getLast?.elim cursor key

/-- From `cursor` on, a page shows `items` and returns the cursor `next`: it scans a first part of
    the later rows, at least one row if there is any. -/
def IsPage (key : α → Nat) (view : α → Option β) (rows : List α) (cursor : Nat) (items : List β)
    (next : Nat) : Prop :=
  ∃ taken rest, later key rows cursor = taken ++ rest ∧ items = taken.filterMap view ∧
    next = cursorAfter key cursor taken ∧ (taken = [] → rest = [])

/-- Pages one after the other, with the cursors they return. -/
inductive IsPages (key : α → Nat) (view : α → Option β) (rows : List α) :
    Nat → List (List β × Nat) → Nat → Prop where
  | nil (cursor : Nat) : IsPages key view rows cursor [] cursor
  | cons {cursor next last : Nat} {items : List β} {pages : List (List β × Nat)}
      (page : IsPage key view rows cursor items next)
      (rest : IsPages key view rows next pages last) :
      IsPages key view rows cursor ((items, next) :: pages) last

section

variable {key : α → Nat} {view : α → Option β} {rows : List α} {cursor next last : Nat}

/-! ## The rows after a cursor -/

theorem mem_later {row : α} : row ∈ later key rows cursor ↔ row ∈ rows ∧ cursor < key row := by
  rw [later, List.mem_filter, decide_eq_true_eq]

theorem Ordered.later (h : Ordered key rows) (cursor : Nat) :
    Ordered key (later key rows cursor) :=
  List.Pairwise.filter _ h

theorem cursorAfter_nil : cursorAfter key cursor [] = cursor := rfl

theorem cursorAfter_concat (taken : List α) (row : α) :
    cursorAfter key cursor (taken ++ [row]) = key row := by
  rw [cursorAfter, List.getLast?_concat]
  rfl

theorem cursorAfter_cons (row : α) (taken : List α) :
    cursorAfter key cursor (row :: taken) = cursorAfter key (key row) taken := by
  cases taken with
  | nil => rfl
  | cons next rest => simp [cursorAfter, List.getLast?_cons]

/-- Rows with keys of their own, sorted by their keys. -/
theorem ordered_mergeSort {rows : List α} (h : (rows.map key).Nodup) :
    Ordered key (rows.mergeSort fun a b => key a ≤ key b) := by
  have hperm := List.mergeSort_perm rows fun a b => decide (key a ≤ key b)
  have hsorted : (rows.mergeSort fun a b => decide (key a ≤ key b)).Pairwise
      fun a b => decide (key a ≤ key b) = true := by
    apply List.pairwise_mergeSort
    · intro a b c hab hbc
      simp only [decide_eq_true_eq] at hab hbc ⊢
      omega
    · intro a b
      simp only [Bool.or_eq_true, decide_eq_true_eq]
      omega
  have hdistinct : (rows.mergeSort fun a b => decide (key a ≤ key b)).Pairwise
      fun a b => key a ≠ key b :=
    List.pairwise_map.mp ((hperm.map key).nodup_iff.mpr h)
  refine (hsorted.and hdistinct).imp ?_
  rintro a b ⟨hle, hne⟩
  simp only [decide_eq_true_eq] at hle
  omega

/-- The greatest key is the cursor at which nothing is left. -/
theorem later_eq_nil : later key rows cursor = [] ↔ ∀ row ∈ rows, key row ≤ cursor := by
  rw [later, List.filter_eq_nil_iff]
  simp only [decide_eq_true_eq, not_lt]

/-- A later cursor leaves the rows that come after it. -/
theorem later_later (h : cursor ≤ next) :
    later key (later key rows cursor) next = later key rows next := by
  rw [later, later, later, List.filter_filter]
  apply List.filter_congr
  intro row _
  simp only [← Bool.decide_and, decide_eq_decide]
  omega

/-- The rows after a cursor that stands between two parts of an ordered log. -/
theorem later_append {front back : List α} (hfront : ∀ row ∈ front, key row ≤ cursor)
    (hback : ∀ row ∈ back, cursor < key row) : later key (front ++ back) cursor = back := by
  rw [later, List.filter_append]
  have hnone : front.filter (fun row => decide (cursor < key row)) = [] := by
    rw [List.filter_eq_nil_iff]
    intro row hrow
    have := hfront row hrow
    simp only [decide_eq_true_eq]
    omega
  have hall : back.filter (fun row => decide (cursor < key row)) = back := by
    rw [List.filter_eq_self]
    intro row hrow
    exact decide_eq_true (hback row hrow)
  rw [hnone, hall, List.nil_append]

/-- What a page leaves unscanned are the rows after the cursor it returns. -/
theorem later_cursorAfter (hrows : Ordered key rows) {taken rest : List α}
    (h : later key rows cursor = taken ++ rest) :
    cursor ≤ cursorAfter key cursor taken ∧
      later key rows (cursorAfter key cursor taken) = rest := by
  have hordered := hrows.later cursor
  rw [h] at hordered
  obtain ⟨htaken, -, hcross⟩ := List.pairwise_append.mp hordered
  rcases List.eq_nil_or_concat taken with rfl | ⟨front, row, rfl⟩
  · exact ⟨Nat.le_refl _, h⟩
  · rw [List.concat_eq_append] at h htaken hcross ⊢
    rw [cursorAfter_concat]
    have hlt : cursor < key row := by
      have hmem : row ∈ later key rows cursor := by
        rw [h]
        simp
      exact (mem_later.mp hmem).2
    refine ⟨by omega, ?_⟩
    rw [← later_later (by omega : cursor ≤ key row), h]
    apply later_append
    · intro other hother
      rcases List.mem_append.mp hother with hfront | hlast
      · have := (List.pairwise_append.mp htaken).2.2 other hfront row (List.mem_singleton_self _)
        omega
      · exact Nat.le_of_eq (congrArg key (List.mem_singleton.mp hlast))
    · intro other hother
      exact hcross row (by simp) other hother

/-! ## One page -/

namespace IsPage

variable {items : List β}

/-- A page moves the cursor forward unless no row was left. -/
theorem lt (h : IsPage key view rows cursor items next)
    (hleft : later key rows cursor ≠ []) : cursor < next := by
  obtain ⟨taken, rest, hsplit, -, rfl, hsome⟩ := h
  rcases List.eq_nil_or_concat taken with rfl | ⟨front, row, rfl⟩
  · rw [hsome rfl] at hsplit
    exact absurd hsplit hleft
  · rw [List.concat_eq_append] at hsplit ⊢
    rw [cursorAfter_concat]
    have hmem : row ∈ later key rows cursor := by
      rw [hsplit]
      simp
    exact (mem_later.mp hmem).2

theorem le (hrows : Ordered key rows) (h : IsPage key view rows cursor items next) :
    cursor ≤ next := by
  obtain ⟨taken, rest, hsplit, -, rfl, -⟩ := h
  exact (later_cursorAfter hrows hsplit).1

/-- A page never moves the cursor beyond a bound of the keys. -/
theorem le_of_bound {high : Nat} (h : IsPage key view rows cursor items next)
    (hhigh : ∀ row ∈ rows, key row ≤ high) (hcursor : cursor ≤ high) : next ≤ high := by
  obtain ⟨taken, rest, hsplit, -, rfl, -⟩ := h
  rcases List.eq_nil_or_concat taken with rfl | ⟨front, row, rfl⟩
  · exact hcursor
  · rw [List.concat_eq_append] at hsplit ⊢
    rw [cursorAfter_concat]
    have hmem : row ∈ later key rows cursor := by
      rw [hsplit]
      simp
    exact hhigh row (mem_later.mp hmem).1

/-- What a page shows, followed by what it leaves to be shown. -/
theorem conserves (hrows : Ordered key rows) (h : IsPage key view rows cursor items next) :
    items ++ (later key rows next).filterMap view = (later key rows cursor).filterMap view := by
  obtain ⟨taken, rest, hsplit, rfl, rfl, -⟩ := h
  rw [(later_cursorAfter hrows hsplit).2, hsplit, List.filterMap_append]

/-- A page leaves fewer rows unless none was left. -/
theorem length_lt (hrows : Ordered key rows) (h : IsPage key view rows cursor items next)
    (hleft : later key rows cursor ≠ []) :
    (later key rows next).length < (later key rows cursor).length := by
  obtain ⟨taken, rest, hsplit, -, rfl, hsome⟩ := h
  rw [(later_cursorAfter hrows hsplit).2, hsplit, List.length_append]
  have htaken : taken ≠ [] := by
    intro hnil
    rw [hnil, hsome hnil] at hsplit
    exact hleft hsplit
  have := List.length_pos_of_ne_nil htaken
  omega

/-- Two pages, read as one. -/
theorem trans (hrows : Ordered key rows) {middle : Nat} {items' : List β}
    (h : IsPage key view rows cursor items middle)
    (h' : IsPage key view rows middle items' next) :
    IsPage key view rows cursor (items ++ items') next := by
  obtain ⟨taken, rest, hsplit, rfl, rfl, hsome⟩ := h
  obtain ⟨taken', rest', hsplit', rfl, rfl, hsome'⟩ := h'
  rw [(later_cursorAfter hrows hsplit).2] at hsplit'
  refine ⟨taken ++ taken', rest', ?_, ?_, ?_, ?_⟩
  · rw [hsplit, hsplit', List.append_assoc]
  · rw [List.filterMap_append]
  · rcases List.eq_nil_or_concat taken' with rfl | ⟨front, row, rfl⟩
    · rw [List.append_nil]
      rfl
    · rw [List.concat_eq_append, ← List.append_assoc, cursorAfter_concat, cursorAfter_concat]
  · intro hnil
    obtain ⟨hnil, hnil'⟩ := List.append_eq_nil_iff.mp hnil
    exact hsome' hnil'

end IsPage

/-! ## Pages one after the other -/

namespace IsPages

variable {pages : List (List β × Nat)}

theorem le (hrows : Ordered key rows) (h : IsPages key view rows cursor pages last) :
    cursor ≤ last := by
  induction h with
  | nil => exact Nat.le_refl _
  | cons page _ ih =>
      have := page.le hrows
      omega

/-- What the pages show, followed by what they leave to be shown, is what was to be shown. -/
theorem conserves (hrows : Ordered key rows) (h : IsPages key view rows cursor pages last) :
    pages.flatMap (·.1) ++ (later key rows last).filterMap view =
      (later key rows cursor).filterMap view := by
  induction h with
  | nil => rfl
  | cons page _ ih =>
      rw [List.flatMap_cons, List.append_assoc, ih]
      exact page.conserves hrows

/-- Each page takes at least one row, as long as there is one. -/
theorem length_later (hrows : Ordered key rows)
    (h : IsPages key view rows cursor pages last) :
    (later key rows last).length ≤ (later key rows cursor).length - pages.length := by
  induction h with
  | nil => simp
  | @cons cursor next last items pages page _ ih =>
      rw [List.length_cons]
      by_cases hleft : later key rows cursor = []
      · -- nothing was left: the page stays where it is
        have hconserved := page.le hrows
        have hnone : later key rows next = [] := by
          rw [← later_later hconserved, hleft]
          rfl
        rw [hnone] at ih
        simp only [List.length_nil] at ih
        omega
      · have := page.length_lt hrows hleft
        omega

/-- As many pages as there are rows reach the end. -/
theorem drained (hrows : Ordered key rows) (h : IsPages key view rows cursor pages last)
    (henough : (later key rows cursor).length ≤ pages.length) : later key rows last = [] := by
  have := h.length_later hrows
  rw [← List.length_eq_zero_iff]
  omega

end IsPages

end

end Paging
