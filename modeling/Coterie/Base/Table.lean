/-
  Coterie.Base.Table

  Tables as lists of rows: the rows stand in insertion order, an update rewrites the rows that
  satisfy a condition in place, and a key is a function on rows whose values differ from row to
  row.
-/

import Mathlib.Data.List.Forall2
import Mathlib.Data.List.Induction
import Mathlib.Data.List.Nodup
import Mathlib.Order.MinMax

namespace Table

variable {ρ κ : Type}

/-- Rewrite the rows that satisfy `p`. -/
def updateWhere (p : ρ → Bool) (f : ρ → ρ) (rows : List ρ) : List ρ :=
  rows.map fun row => if p row then f row else row

/-- The row with the greatest `measure`; among equals the one inserted last. -/
def latestBy (measure : ρ → Int) (rows : List ρ) : Option ρ :=
  rows.foldl
    (fun best row =>
      match best with
      | none => some row
      | some b => if measure b ≤ measure row then some row else some b)
    none

/-- `key` identifies the rows of a table. -/
def Keyed (key : ρ → κ) (rows : List ρ) : Prop :=
  (rows.map key).Nodup

/-- One more row: it is the latest unless an earlier one measures more. -/
theorem latestBy_concat (measure : ρ → Int) (rows : List ρ) (row : ρ) :
    latestBy measure (rows ++ [row]) =
      match latestBy measure rows with
      | none => some row
      | some b => if measure b ≤ measure row then some row else some b := by
  unfold latestBy
  rw [List.foldl_append]
  rfl

theorem latestBy_eq_none {measure : ρ → Int} {rows : List ρ} :
    latestBy measure rows = none ↔ rows = [] := by
  constructor
  · intro h
    induction rows using List.reverseRecOn with
    | nil => rfl
    | append_singleton rest row _ =>
        rw [latestBy_concat] at h
        split at h
        · cases h
        · split at h <;> cases h
  · rintro rfl
    rfl

/-- Among rows that stand in the order of `measure`, the latest is the last. -/
theorem latestBy_eq_getLast? {measure : ρ → Int} {rows : List ρ}
    (h : rows.Pairwise fun a b => measure a ≤ measure b) :
    latestBy measure rows = rows.getLast? := by
  induction rows using List.reverseRecOn with
  | nil => rfl
  | append_singleton rest row ih =>
      obtain ⟨hrest, -, hlast⟩ := List.pairwise_append.mp h
      rw [latestBy_concat, ih hrest, List.getLast?_concat]
      cases hbest : rest.getLast? with
      | none => rfl
      | some best =>
          have hle : measure best ≤ measure row :=
            hlast best (List.mem_of_getLast? hbest) row (List.mem_singleton_self row)
          dsimp only
          rw [if_pos hle]

theorem mem_updateWhere {p : ρ → Bool} {f : ρ → ρ} {rows : List ρ} {row : ρ} :
    row ∈ updateWhere p f rows ↔ ∃ r ∈ rows, (if p r then f r else r) = row := by
  simp [updateWhere]

/-- A row that the condition selects appears rewritten. -/
theorem mem_updateWhere_of_pos {p : ρ → Bool} {f : ρ → ρ} {rows : List ρ} {row : ρ}
    (hmem : row ∈ rows) (hp : p row = true) : f row ∈ updateWhere p f rows :=
  mem_updateWhere.mpr ⟨row, hmem, by rw [if_pos hp]⟩

/-- A row that the condition leaves out stays. -/
theorem mem_updateWhere_of_neg {p : ρ → Bool} {f : ρ → ρ} {rows : List ρ} {row : ρ}
    (hmem : row ∈ rows) (hp : p row = false) : row ∈ updateWhere p f rows :=
  mem_updateWhere.mpr ⟨row, hmem, by rw [if_neg (by simp [hp])]⟩

/-- An update that touches and leaves only rows outside `P` keeps the rows in `P`. -/
theorem mem_updateWhere_iff {p : ρ → Bool} {f : ρ → ρ} {P : ρ → Prop} {rows : List ρ}
    (hbefore : ∀ row ∈ rows, p row = true → ¬ P row)
    (hafter : ∀ row ∈ rows, p row = true → ¬ P (f row)) {row : ρ} (hrow : P row) :
    row ∈ updateWhere p f rows ↔ row ∈ rows := by
  rw [mem_updateWhere]
  constructor
  · rintro ⟨old, hold, hupdated⟩
    by_cases hp : p old = true
    · rw [if_pos hp] at hupdated
      subst hupdated
      exact absurd hrow (hafter old hold hp)
    · rw [if_neg hp] at hupdated
      subst hupdated
      exact hold
  · intro hmem
    have hp : ¬ p row = true := fun hp => hbefore row hmem hp hrow
    exact ⟨row, hmem, by rw [if_neg hp]⟩

/-- Conditions that agree on the rows of a table select the same rows. -/
theorem updateWhere_congr {p q : ρ → Bool} (f : ρ → ρ) {rows : List ρ}
    (h : ∀ row ∈ rows, p row = q row) : updateWhere p f rows = updateWhere q f rows := by
  unfold updateWhere
  apply List.map_congr_left
  intro row hrow
  rw [h row hrow]

/-- An update that selects no row. -/
theorem updateWhere_eq_self {p : ρ → Bool} (f : ρ → ρ) {rows : List ρ}
    (h : ∀ row ∈ rows, p row = false) : updateWhere p f rows = rows := by
  unfold updateWhere
  refine (List.map_congr_left fun row hrow => ?_).trans (List.map_id rows)
  rw [h row hrow]
  rfl

/-- An update that a selection does not see changes the selected rows. -/
theorem filter_updateWhere {p q : ρ → Bool} {f : ρ → ρ}
    (hf : ∀ row, p row = true → q (f row) = q row) (rows : List ρ) :
    (updateWhere p f rows).filter q = updateWhere p f (rows.filter q) := by
  unfold updateWhere
  rw [List.filter_map]
  refine congrArg (List.map _) (List.filter_congr fun row _ => ?_)
  rw [Function.comp_apply]
  split
  · next hp => exact hf row hp
  · rfl

/-- What holds of some row, and of its rewritten form, holds of some row after the update. -/
theorem exists_mem_updateWhere {p : ρ → Bool} {f : ρ → ρ} {P : ρ → Prop} {rows : List ρ}
    (hf : ∀ row, p row = true → P row → P (f row)) (h : ∃ row ∈ rows, P row) :
    ∃ row ∈ updateWhere p f rows, P row := by
  obtain ⟨row, hmem, hP⟩ := h
  by_cases hp : p row = true
  · exact ⟨f row, mem_updateWhere_of_pos hmem hp, hf row hp hP⟩
  · exact ⟨row, mem_updateWhere_of_neg hmem (Bool.eq_false_iff.mpr hp), hP⟩

/-- Looking up after an update that the lookup's condition does not see. -/
theorem find?_updateWhere {p q : ρ → Bool} {f : ρ → ρ}
    (hf : ∀ row, p row = true → q (f row) = q row) (rows : List ρ) :
    (updateWhere p f rows).find? q =
      (rows.find? q).map fun row => if p row then f row else row := by
  have hq : (q ∘ fun row => if p row then f row else row) = q := by
    funext row
    simp only [Function.comp_apply]
    split
    · next hp => exact hf row hp
    · rfl
  rw [updateWhere, List.find?_map, hq]

/-- A row found in a table is found again after rows were appended. -/
theorem find?_append_of_some {q : ρ → Bool} {rows new : List ρ} {row : ρ}
    (h : rows.find? q = some row) : (rows ++ new).find? q = some row := by
  rw [List.find?_append, h, Option.some_or]

/-- An update that keeps a column keeps the list of its values. -/
theorem map_updateWhere {p : ρ → Bool} {f : ρ → ρ} {key : ρ → κ}
    (hf : ∀ row, p row = true → key (f row) = key row) (rows : List ρ) :
    (updateWhere p f rows).map key = rows.map key := by
  rw [updateWhere, List.map_map]
  apply List.map_congr_left
  intro row _
  simp only [Function.comp_apply]
  split
  · next hp => exact hf row hp
  · rfl

/-- The same update of two tables that agree in a key. -/
theorem map_updateWhere_congr {p : ρ → Bool} {f g : ρ → ρ} {key : ρ → κ}
    (hp : ∀ row row', key row' = key row → p row' = p row)
    (hfg : ∀ row row', key row' = key row → key (g row') = key (f row)) {rows rows' : List ρ}
    (hrows : rows'.map key = rows.map key) :
    (updateWhere p g rows').map key = (updateWhere p f rows).map key := by
  induction rows generalizing rows' with
  | nil =>
      rw [List.map_eq_nil_iff.mp hrows]
      rfl
  | cons row rest ih =>
      cases rows' with
      | nil => cases hrows
      | cons row' rest' =>
          rw [List.map_cons, List.map_cons, List.cons.injEq] at hrows
          obtain ⟨hkey, hrest⟩ := hrows
          have htail := ih hrest
          unfold updateWhere at htail ⊢
          rw [List.map_cons, List.map_cons, List.map_cons, List.map_cons, htail]
          congr 1
          by_cases hrow : p row = true
          · have hrow' : p row' = true := by rwa [hp row row' hkey]
            rw [if_pos hrow, if_pos hrow']
            exact hfg row row' hkey
          · have hrow' : ¬ p row' = true := by rwa [hp row row' hkey]
            rw [if_neg hrow, if_neg hrow']
            exact hkey

theorem keyed_updateWhere {p : ρ → Bool} {f : ρ → ρ} {key : ρ → κ} {rows : List ρ}
    (hf : ∀ row, p row = true → key (f row) = key row) (h : Keyed key rows) :
    Keyed key (updateWhere p f rows) := by
  rw [Keyed, map_updateWhere hf]
  exact h

theorem keyed_append {key : ρ → κ} {rows : List ρ} {row : ρ} (h : Keyed key rows)
    (hnew : ∀ r ∈ rows, key r ≠ key row) : Keyed key (rows ++ [row]) := by
  rw [Keyed, List.map_append, List.nodup_append]
  refine ⟨h, by simp, ?_⟩
  intro a ha b hb
  obtain ⟨r, hr, rfl⟩ := List.mem_map.mp ha
  rw [List.map_singleton, List.mem_singleton] at hb
  rw [hb]
  exact hnew r hr

/-- An update relates the rows before to the rows after. -/
theorem forall₂_updateWhere {p : ρ → Bool} {f : ρ → ρ} {R : ρ → ρ → Prop} [Std.Refl R]
    (hf : ∀ row, p row = true → R row (f row)) (rows : List ρ) :
    List.Forall₂ R rows (updateWhere p f rows) := by
  induction rows with
  | nil => exact .nil
  | cons row rest ih =>
      refine .cons ?_ ih
      dsimp only
      split
      · next hp => exact hf row hp
      · exact Std.Refl.refl row

/-- A row of the later table comes from a row of the earlier one. -/
theorem exists_mem_of_forall₂ {R : ρ → ρ → Prop} {rows rows' : List ρ}
    (h : List.Forall₂ R rows rows') {row' : ρ} (hrow' : row' ∈ rows') :
    ∃ row ∈ rows, R row row' := by
  induction h with
  | nil => cases hrow'
  | @cons row _ _ _ hrow _ ih =>
      rcases List.mem_cons.mp hrow' with rfl | hrest
      · exact ⟨row, List.mem_cons_self, hrow⟩
      · obtain ⟨old, hold, hR⟩ := ih hrest
        exact ⟨old, List.mem_cons_of_mem _ hold, hR⟩

/-- A row of the earlier table has become a row of the later one. -/
theorem exists_mem_forall₂ {R : ρ → ρ → Prop} {rows rows' : List ρ}
    (h : List.Forall₂ R rows rows') {row : ρ} (hrow : row ∈ rows) :
    ∃ row' ∈ rows', R row row' := by
  induction h with
  | nil => cases hrow
  | @cons _ row' _ _ hR _ ih =>
      rcases List.mem_cons.mp hrow with rfl | hrest
      · exact ⟨row', List.mem_cons_self, hR⟩
      · obtain ⟨new, hnew, hR⟩ := ih hrest
        exact ⟨new, List.mem_cons_of_mem _ hnew, hR⟩

/-- A column that the relation keeps has the same values in both tables. -/
theorem map_eq_of_forall₂ {R : ρ → ρ → Prop} {rows rows' : List ρ} {key : ρ → κ}
    (hkey : ∀ a b, R a b → key b = key a) (h : List.Forall₂ R rows rows') :
    rows'.map key = rows.map key := by
  induction h with
  | nil => rfl
  | cons hrow _ ih => rw [List.map_cons, List.map_cons, hkey _ _ hrow, ih]

theorem forall₂_trans {R : ρ → ρ → Prop} [IsTrans ρ R] {a b c : List ρ}
    (hab : List.Forall₂ R a b) (hbc : List.Forall₂ R b c) : List.Forall₂ R a c := by
  induction hab generalizing c with
  | nil => exact hbc
  | cons hrow _ ih =>
      cases hbc with
      | cons hrow' hrest' => exact .cons (IsTrans.trans _ _ _ hrow hrow') (ih hrest')

/-- Rows that are counted afterwards come from rows that were counted before. -/
theorem countP_le_of_forall₂ {R : ρ → ρ → Prop} {p q : ρ → Bool} {rows rows' : List ρ}
    (hcount : ∀ a b, R a b → q b = true → p a = true) (h : List.Forall₂ R rows rows') :
    rows'.countP q ≤ rows.countP p := by
  induction h with
  | nil => exact Nat.le_refl 0
  | @cons row row' _ _ hrow _ ih =>
      rw [List.countP_cons, List.countP_cons]
      by_cases hq : q row' = true
      · rw [if_pos hq, if_pos (hcount row row' hrow hq)]
        omega
      · rw [if_neg hq]
        omega

/-- An update adds at most the rows that it selects to a count. -/
theorem countP_updateWhere_le (p q : ρ → Bool) (f : ρ → ρ) (rows : List ρ) :
    (updateWhere p f rows).countP q ≤ rows.countP q + rows.countP p := by
  induction rows with
  | nil => exact Nat.le_refl 0
  | cons row rest ih =>
      unfold updateWhere at ih ⊢
      rw [List.map_cons, List.countP_cons, List.countP_cons, List.countP_cons]
      by_cases hp : p row = true
      · rw [if_pos hp, if_pos hp]
        split <;> split <;> omega
      · rw [if_neg hp, if_neg hp]
        omega

/-- An update that the counted condition does not see. -/
theorem countP_updateWhere_of_eq {p q : ρ → Bool} {f : ρ → ρ}
    (hf : ∀ row, p row = true → q (f row) = q row) (rows : List ρ) :
    (updateWhere p f rows).countP q = rows.countP q := by
  unfold updateWhere
  rw [List.countP_map]
  refine List.countP_congr fun row _ => ?_
  rw [Function.comp_apply]
  split
  · next hp => rw [hf row hp]
  · rfl

/-- An update that makes the condition true of a row, and false of none, raises the count. -/
theorem countP_lt_updateWhere {p q : ρ → Bool} {f : ρ → ρ}
    (hf : ∀ row, p row = true → q row = true → q (f row) = true) {rows : List ρ} {row : ρ}
    (hmem : row ∈ rows) (hp : p row = true) (hold : q row = false) (hnew : q (f row) = true) :
    rows.countP q < (updateWhere p f rows).countP q := by
  obtain ⟨before, after, rfl⟩ := List.append_of_mem hmem
  have hkeep : ∀ rest : List ρ, rest.countP q ≤ (updateWhere p f rest).countP q := by
    intro rest
    unfold updateWhere
    rw [List.countP_map]
    refine List.countP_mono_left fun other _ hq => ?_
    rw [Function.comp_apply]
    split
    · next hother => exact hf other hother hq
    · exact hq
  have hbefore := hkeep before
  have hafter := hkeep after
  unfold updateWhere at hbefore hafter ⊢
  rw [List.map_append, List.map_cons, List.countP_append, List.countP_append, List.countP_cons,
    List.countP_cons, if_pos hp, hold, hnew]
  simp only [Bool.false_eq_true, if_false, if_true]
  omega

/-- Two rows of which at most one is counted are the same row. -/
theorem eq_of_countP_le_one {p : ρ → Bool} {rows : List ρ} (h : rows.countP p ≤ 1) {a b : ρ}
    (ha : a ∈ rows) (hpa : p a = true) (hb : b ∈ rows) (hpb : p b = true) : a = b := by
  have hina : a ∈ rows.filter p := List.mem_filter.mpr ⟨ha, hpa⟩
  have hinb : b ∈ rows.filter p := List.mem_filter.mpr ⟨hb, hpb⟩
  rw [List.countP_eq_length_filter] at h
  match hrows : rows.filter p with
  | [] =>
      rw [hrows] at hina
      cases hina
  | [row] =>
      rw [hrows, List.mem_singleton] at hina hinb
      rw [hina, hinb]
  | _ :: _ :: _ =>
      rw [hrows] at h
      simp at h

/-- The keys of the open rows after an update that closes the rows it selects: `q` says on keys what
    `p` says on open rows. -/
theorem map_filter_close {p isOpen : ρ → Bool} {f : ρ → ρ} {key : ρ → κ} {q : κ → Bool}
    (hclose : ∀ row, p row = true → isOpen (f row) = false)
    (hkey : ∀ row, isOpen row = true → p row = q (key row)) (rows : List ρ) :
    ((updateWhere p f rows).filter isOpen).map key =
      ((rows.filter isOpen).map key).filter fun k => !q k := by
  induction rows with
  | nil => rfl
  | cons row rest ih =>
      rw [updateWhere, List.map_cons, ← updateWhere]
      by_cases hp : p row = true
      · rw [if_pos hp, List.filter_cons, if_neg (by rw [hclose row hp]; decide), ih]
        by_cases hopen : isOpen row = true
        · -- the row was open: its key is filtered out on the right
          have hq : q (key row) = true := by rw [← hkey row hopen, hp]
          rw [List.filter_cons, if_pos hopen, List.map_cons, List.filter_cons,
            if_neg (by rw [hq]; decide)]
        · rw [List.filter_cons, if_neg hopen]
      · rw [if_neg hp, List.filter_cons, List.filter_cons]
        by_cases hopen : isOpen row = true
        · have hq : q (key row) = false := by
            rw [← hkey row hopen]
            exact Bool.eq_false_iff.mpr hp
          rw [if_pos hopen, if_pos hopen, List.map_cons, List.map_cons, List.filter_cons,
            if_pos (by rw [hq]; rfl), ih]
        · rw [if_neg hopen, if_neg hopen, ih]

/-- The keys of the open rows after an update that neither opens nor closes a row. -/
theorem map_filter_updateWhere {p isOpen : ρ → Bool} {f : ρ → ρ} {key : ρ → κ}
    (hopen : ∀ row, p row = true → isOpen (f row) = isOpen row)
    (hkey : ∀ row, p row = true → key (f row) = key row) (rows : List ρ) :
    ((updateWhere p f rows).filter isOpen).map key = (rows.filter isOpen).map key := by
  induction rows with
  | nil => rfl
  | cons row rest ih =>
      rw [updateWhere, List.map_cons, ← updateWhere]
      by_cases hp : p row = true
      · rw [if_pos hp, List.filter_cons, List.filter_cons, hopen row hp]
        by_cases ho : isOpen row = true
        · rw [if_pos ho, if_pos ho, List.map_cons, List.map_cons, hkey row hp, ih]
        · rw [if_neg ho, if_neg ho, ih]
      · rw [if_neg hp, List.filter_cons, List.filter_cons]
        by_cases ho : isOpen row = true
        · rw [if_pos ho, if_pos ho, List.map_cons, List.map_cons, ih]
        · rw [if_neg ho, if_neg ho, ih]

theorem Keyed.filter {key : ρ → κ} {rows : List ρ} (h : Keyed key rows) (q : ρ → Bool) :
    Keyed key (rows.filter q) :=
  List.Nodup.sublist (List.filter_sublist.map _) h

/-- Two rows with the same key are the same row. -/
theorem Keyed.eq_of_key_eq {key : ρ → κ} {rows : List ρ} (h : Keyed key rows) {a b : ρ}
    (ha : a ∈ rows) (hb : b ∈ rows) (hab : key a = key b) : a = b :=
  List.inj_on_of_nodup_map h ha hb hab

/-- A condition that only rows with one key satisfy selects at most one row. -/
theorem Keyed.length_filter_le_one {key : ρ → κ} {rows : List ρ} (h : Keyed key rows)
    {q : ρ → Bool}
    (hq : ∀ a ∈ rows, ∀ b ∈ rows, q a = true → q b = true → key a = key b) :
    (rows.filter q).length ≤ 1 := by
  have hkeyed : Keyed key (rows.filter q) := h.filter q
  match hrows : rows.filter q with
  | [] => simp
  | [a] => simp
  | a :: b :: rest =>
      rw [hrows] at hkeyed
      have hmem : ∀ row ∈ a :: b :: rest, row ∈ rows ∧ q row = true := by
        intro row hrow
        rw [← hrows] at hrow
        exact List.mem_filter.mp hrow
      obtain ⟨ha, hqa⟩ := hmem a (by simp)
      obtain ⟨hb, hqb⟩ := hmem b (by simp)
      have hkey : key a = key b := hq a ha b hb hqa hqb
      simp [Keyed, hkey] at hkeyed

/-- Such a condition selects exactly the row that satisfies it. -/
theorem Keyed.filter_eq_singleton {key : ρ → κ} {rows : List ρ} (h : Keyed key rows)
    {q : ρ → Bool} (hq : ∀ a ∈ rows, ∀ b ∈ rows, q a = true → q b = true → key a = key b)
    {row : ρ} (hmem : row ∈ rows) (hrow : q row = true) : rows.filter q = [row] := by
  have hin : row ∈ rows.filter q := List.mem_filter.mpr ⟨hmem, hrow⟩
  have hle := h.length_filter_le_one hq
  match hrows : rows.filter q with
  | [] => simp [hrows] at hin
  | [a] =>
      rw [hrows, List.mem_singleton] at hin
      rw [hin]
  | a :: b :: rest => simp [hrows] at hle

/-- Looking a row up by its key finds it. -/
theorem Keyed.find?_eq_some [BEq κ] [LawfulBEq κ] {key : ρ → κ} {rows : List ρ}
    (h : Keyed key rows) {row : ρ} (hmem : row ∈ rows) :
    rows.find? (fun r => key r == key row) = some row := by
  cases hfind : rows.find? (fun r => key r == key row) with
  | none =>
      have := List.find?_eq_none.mp hfind row hmem
      simp at this
  | some r =>
      have hkey := List.find?_some hfind
      rw [h.eq_of_key_eq (List.mem_of_find?_eq_some hfind) hmem (by simpa using hkey)]

/-! ## The greatest value of a column -/

section

variable {μ : Type} [LinearOrder μ]

theorem foldl_max_le_iff {values : List μ} {start bound : μ} :
    values.foldl max start ≤ bound ↔ start ≤ bound ∧ ∀ value ∈ values, value ≤ bound := by
  induction values generalizing start with
  | nil => simp
  | cons value rest ih =>
      rw [List.foldl_cons, ih, max_le_iff, List.forall_mem_cons, and_assoc]

theorem lt_foldl_max_iff {values : List μ} {start bound : μ} :
    bound < values.foldl max start ↔ bound < start ∨ ∃ value ∈ values, bound < value := by
  rw [← not_le, foldl_max_le_iff, not_and_or, not_le]
  push Not
  rfl

/-- No value exceeds the greatest one. -/
theorem le_foldl_max {values : List μ} {start value : μ} (h : value ∈ values) :
    value ≤ values.foldl max start :=
  (foldl_max_le_iff.mp (le_refl (values.foldl max start))).2 value h

end

end Table
