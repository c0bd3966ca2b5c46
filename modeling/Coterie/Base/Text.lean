/-
  Coterie.Base.Text

  The text operations of a program that reads structured strings: cutting a prefix off, splitting
  at the first separator, unsigned decimal numbers, the first bytes of a text, and names of the
  values of an enumeration.  Each reader comes with the lemma that it reads back what the
  corresponding writer wrote.
-/

import Mathlib.Logic.Basic

namespace Text

/-- The rest of a text that starts with `start`. -/
def stripPrefix? (start text : String) : Option String :=
  if start.toList.isPrefixOf text.toList = true then
    some (.ofList (text.toList.drop start.toList.length))
  else none

theorem stripPrefix?_append (start rest : String) :
    stripPrefix? start (start ++ rest) = some rest := by
  have hbegins : start.toList.isPrefixOf (start ++ rest).toList = true := by
    rw [List.isPrefixOf_iff_prefix, String.toList_append]
    exact List.prefix_append _ _
  rw [stripPrefix?, if_pos hbegins, String.toList_append, List.drop_left, String.ofList_toList]

/-- The characters before and after the first separator. -/
def splitChars (separator : Char) : List Char → Option (List Char × List Char)
  | [] => none
  | c :: rest =>
      if c = separator then some ([], rest)
      else (splitChars separator rest).map fun halves => (c :: halves.1, halves.2)

/-- The texts before and after the first separator. -/
def splitOnce? (separator : Char) (text : String) : Option (String × String) :=
  (splitChars separator text.toList).map fun halves => (.ofList halves.1, .ofList halves.2)

theorem stripPrefix?_eq_some {start text rest : String} (h : stripPrefix? start text = some rest) :
    text = start ++ rest := by
  unfold stripPrefix? at h
  split at h
  · next hbegins =>
      cases h
      obtain ⟨later, hlater⟩ := List.isPrefixOf_iff_prefix.mp hbegins
      rw [← String.toList_inj, String.toList_append, String.toList_ofList, ← hlater, List.drop_left]
  · cases h

/-- Behind the last separator, a text has one reading. -/
theorem splitLast_unique {separator : Char} {a b c d : List Char} (hb : separator ∉ b)
    (hd : separator ∉ d) (h : a ++ separator :: b = c ++ separator :: d) : a = c ∧ b = d := by
  rcases List.append_eq_append_iff.mp h with ⟨more, hc, hrest⟩ | ⟨more, ha, hrest⟩
  · cases more with
    | nil =>
        rw [List.nil_append, List.cons.injEq] at hrest
        rw [List.append_nil] at hc
        exact ⟨hc.symm, hrest.2⟩
    | cons first more =>
        rw [List.cons_append, List.cons.injEq] at hrest
        rw [hrest.2] at hb
        exact absurd (List.mem_append_right _ List.mem_cons_self) hb
  · cases more with
    | nil =>
        rw [List.nil_append, List.cons.injEq] at hrest
        rw [List.append_nil] at ha
        exact ⟨ha, hrest.2.symm⟩
    | cons first more =>
        rw [List.cons_append, List.cons.injEq] at hrest
        rw [hrest.2] at hd
        exact absurd (List.mem_append_right _ List.mem_cons_self) hd

/-- The number that a nonempty text of decimal digits stands for. -/
def decimal? (text : String) : Option Nat :=
  if text.toList ≠ [] ∧ text.toList.all Char.isDigit = true then
    some (Nat.ofDigitChars 10 text.toList 0)
  else none

theorem all_isDigit_toDigits (n : Nat) : (Nat.toDigits 10 n).all Char.isDigit = true := by
  rw [List.all_eq_true]
  intro c hc
  exact Nat.isDigit_of_mem_toDigits (by omega) (by omega) hc

/-- A number is read back from its decimal text. -/
theorem decimal?_repr (n : Nat) : decimal? n.repr = some n := by
  have hdigits : n.repr.toList ≠ [] ∧ n.repr.toList.all Char.isDigit = true := by
    rw [Nat.toList_repr]
    exact ⟨Nat.toDigits_ne_nil, all_isDigit_toDigits n⟩
  rw [decimal?, if_pos hdigits, Nat.toList_repr, Nat.ofDigitChars_ten_toDigits]

/-- The first characters that take at most `size` bytes; `none` when the last byte stands inside a
    character. -/
def firstBytesOf (size : Nat) : List Char → Option (List Char)
  | [] => some []
  | c :: rest =>
      if c.utf8Size ≤ size then (firstBytesOf (size - c.utf8Size) rest).map (c :: ·)
      else if size = 0 then some []
      else none

/-- The first `size` bytes of a text, when they are a text. -/
def firstBytes? (size : Nat) (text : String) : Option String :=
  (firstBytesOf size text.toList).map .ofList

theorem firstBytesOf_eq_self {size : Nat} {cs : List Char} (hascii : ∀ c ∈ cs, c.utf8Size = 1)
    (hlen : cs.length ≤ size) : firstBytesOf size cs = some cs := by
  induction cs generalizing size with
  | nil => rfl
  | cons c rest ih =>
      have hc : c.utf8Size = 1 := hascii c List.mem_cons_self
      rw [List.length_cons] at hlen
      rw [firstBytesOf, hc, if_pos (by omega),
        ih (fun d hd => hascii d (List.mem_cons_of_mem _ hd)) (by omega)]
      rfl

/-- A short text of single-byte characters is kept whole. -/
theorem firstBytes?_eq_self {size : Nat} {text : String}
    (hascii : ∀ c ∈ text.toList, c.utf8Size = 1) (hlen : text.toList.length ≤ size) :
    firstBytes? size text = some text := by
  rw [firstBytes?, firstBytesOf_eq_self hascii hlen, Option.map_some, String.ofList_toList]

/-- The value of an enumeration that a text names. -/
def named? {α : Type} (name : α → String) (values : List α) (text : String) : Option α :=
  values.find? fun value => name value == text

/-- Only ASCII letters have another case. -/
theorem case_of_large {c : Char} (h : 128 ≤ c.toNat) : c.toLower = c ∧ c.toUpper = c := by
  have hlarge : ∀ {d : Char}, d.toNat < 128 → ¬ c.val ≤ d.val := by
    intro d hd hle
    have hnat : c.toNat ≤ d.toNat := hle
    omega
  constructor
  · unfold Char.toLower
    rw [dif_neg fun hrange => hlarge (by decide) hrange.2]
  · unfold Char.toUpper
    rw [dif_neg fun hrange => hlarge (by decide) hrange.2]

theorem toUpper_toLower (c : Char) :
    c.toLower.toUpper = c.toUpper ∧ c.toUpper.toLower = c.toLower := by
  by_cases h : c.toNat < 128
  · have hall : ∀ n : Fin 128, (Char.ofNat n).toLower.toUpper = (Char.ofNat n).toUpper ∧
        (Char.ofNat n).toUpper.toLower = (Char.ofNat n).toLower := by
      decide
    have hc := hall ⟨c.toNat, h⟩
    rw [Char.ofNat_toNat] at hc
    exact hc
  · have hlarge : 128 ≤ c.toNat := by omega
    obtain ⟨hlower, hupper⟩ := case_of_large hlarge
    exact ⟨by rw [hlower], by rw [hupper]⟩

/-- Letters are the same in one case when they are in the other. -/
theorem toLower_eq_iff {a b : Char} : a.toLower = b.toLower ↔ a.toUpper = b.toUpper := by
  constructor
  · intro h
    rw [← (toUpper_toLower a).1, ← (toUpper_toLower b).1, h]
  · intro h
    rw [← (toUpper_toLower a).2, ← (toUpper_toLower b).2, h]

theorem map_toLower_eq_iff {a b : List Char} :
    a.map Char.toLower = b.map Char.toLower ↔ a.map Char.toUpper = b.map Char.toUpper := by
  induction a generalizing b with
  | nil =>
      cases b with
      | nil => exact iff_of_true rfl rfl
      | cons d b => exact iff_of_false (by intro h; cases h) (by intro h; cases h)
  | cons c a ih =>
      cases b with
      | nil => exact iff_of_false (by intro h; cases h) (by intro h; cases h)
      | cons d b =>
          rw [List.map_cons, List.map_cons, List.map_cons, List.map_cons, List.cons.injEq,
            List.cons.injEq, ih, toLower_eq_iff]

/-- Texts with the same beginning are ordered as what follows it. -/
theorem append_lt_append_iff (start : List Char) {a b : List Char} :
    start ++ a < start ++ b ↔ a < b := by
  induction start with
  | nil => rfl
  | cons c start ih =>
      rw [List.cons_append, List.cons_append, List.cons_lt_cons_iff, ih]
      constructor
      · rintro (h | ⟨-, h⟩)
        · exact absurd h (Nat.lt_irrefl _)
        · exact h
      · exact fun h => .inr ⟨rfl, h⟩

end Text
