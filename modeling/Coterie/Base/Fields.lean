/-
  Coterie.Base.Fields

  Reading the fields of a text: cutting it at a separator, into words or to what stands between its
  outer white space, and reading unsigned numbers.  Texts are their bytes in UTF-8; white space is
  what Unicode calls so.

  What was written with single separators is read back (`splitOnce_append`, `rsplitOnce_append`,
  `splitWhitespace_fields`, `unsigned?_decimal`).
-/

import Mathlib.Data.List.Basic
import Coterie.Base.Utf8

namespace Fields

/-! ## Separators -/

/-- The parts before and behind the first place where a separator stands. -/
def splitOnce (separator : List UInt8) : List UInt8 → Option (List UInt8 × List UInt8)
  | [] => if separator = [] then some ([], []) else none
  | byte :: rest =>
      if separator.isPrefixOf (byte :: rest) = true then
        some ([], (byte :: rest).drop separator.length)
      else (splitOnce separator rest).map fun (before, after) => (byte :: before, after)

/-- The parts before and behind the last place where a separator stands. -/
def rsplitOnce (separator : UInt8) : List UInt8 → Option (List UInt8 × List UInt8)
  | [] => none
  | byte :: rest =>
      match rsplitOnce separator rest with
      | some (before, after) => some (byte :: before, after)
      | none => if byte = separator then some ([], rest) else none

/-- Where no byte before is the one that the separator begins with, the first place is found. -/
theorem splitOnce_append {first : UInt8} {before : List UInt8} (hbefore : first ∉ before)
    (separator after : List UInt8) :
    splitOnce (first :: separator) (before ++ (first :: separator) ++ after) =
      some (before, after) := by
  induction before with
  | nil =>
      rw [List.nil_append, List.cons_append, splitOnce, if_pos]
      · rw [← List.cons_append, List.drop_left]
      · rw [List.isPrefixOf_iff_prefix, ← List.cons_append]
        exact List.prefix_append _ _
  | cons byte before ih =>
      have hbyte : first ≠ byte := fun heq => hbefore (heq ▸ List.mem_cons_self)
      rw [List.cons_append, List.cons_append, splitOnce, if_neg]
      · rw [ih fun hmem => hbefore (List.mem_cons_of_mem _ hmem)]
        rfl
      · rw [List.isPrefixOf_iff_prefix, List.cons_prefix_cons]
        exact fun h => hbyte h.1

theorem rsplitOnce_eq_none {separator : UInt8} {text : List UInt8} (h : separator ∉ text) :
    rsplitOnce separator text = none := by
  induction text with
  | nil => rfl
  | cons byte rest ih =>
      have hbyte : byte ≠ separator := fun heq => h (heq ▸ List.mem_cons_self)
      rw [rsplitOnce, ih fun hmem => h (List.mem_cons_of_mem _ hmem)]
      exact if_neg hbyte

/-- Where no byte behind is the separator, the last place is found. -/
theorem rsplitOnce_append {separator : UInt8} (before : List UInt8) {after : List UInt8}
    (hafter : separator ∉ after) :
    rsplitOnce separator (before ++ separator :: after) = some (before, after) := by
  induction before with
  | nil =>
      rw [List.nil_append, rsplitOnce, rsplitOnce_eq_none hafter]
      exact if_pos rfl
  | cons byte before ih => rw [List.cons_append, rsplitOnce, ih]

/-! ## White space -/

/-- The characters of a text: each byte that continues one stands with those before it. -/
def characters : List UInt8 → List (List UInt8)
  | [] => []
  | byte :: rest =>
      match characters rest with
      | (next :: more) :: later =>
          if Utf8.isContinuation next = true then (byte :: next :: more) :: later
          else [byte] :: (next :: more) :: later
      | later => [byte] :: later

/-- The characters that Unicode calls white space. -/
def whitespace : List (List UInt8) :=
  [[0x09], [0x0a], [0x0b], [0x0c], [0x0d], [0x20], [0xc2, 0x85], [0xc2, 0xa0], [0xe1, 0x9a, 0x80],
    [0xe2, 0x80, 0x80], [0xe2, 0x80, 0x81], [0xe2, 0x80, 0x82], [0xe2, 0x80, 0x83],
    [0xe2, 0x80, 0x84], [0xe2, 0x80, 0x85], [0xe2, 0x80, 0x86], [0xe2, 0x80, 0x87],
    [0xe2, 0x80, 0x88], [0xe2, 0x80, 0x89], [0xe2, 0x80, 0x8a], [0xe2, 0x80, 0xa8],
    [0xe2, 0x80, 0xa9], [0xe2, 0x80, 0xaf], [0xe2, 0x81, 0x9f], [0xe3, 0x80, 0x80]]

def isWhitespace (character : List UInt8) : Bool :=
  decide (character ∈ whitespace)

/-- The words of a text. -/
def splitWhitespace (text : List UInt8) : List (List UInt8) :=
  (((characters text).splitOnP isWhitespace).filter (· ≠ [])).map List.flatten

/-- A text without the white space around it. -/
def trim (text : List UInt8) : List UInt8 :=
  (((characters text).dropWhile isWhitespace).reverse.dropWhile isWhitespace).reverse.flatten

/-- The characters of a text in ASCII are its bytes. -/
theorem characters_ascii {text : List UInt8} (h : text.all (· ≤ 0x7f) = true) :
    characters text = text.map fun byte => [byte] := by
  induction text with
  | nil => rfl
  | cons byte rest ih =>
      rw [List.all_cons, Bool.and_eq_true] at h
      rw [characters, ih h.2]
      cases rest with
      | nil => rfl
      | cons next rest =>
          have hnext : Utf8.isContinuation next = false := by
            have hall : ∀ n : Fin 256, UInt8.ofFin n ≤ 0x7f →
                Utf8.isContinuation (UInt8.ofFin n) = false := by
              decide +kernel
            have hle := (List.all_eq_true.mp h.2) next List.mem_cons_self
            exact hall next.toFin (of_decide_eq_true hle)
          rw [List.map_cons]
          dsimp only
          rw [hnext, if_neg (by decide)]
          rfl

/-- A word in ASCII: some bytes that are no white space. -/
structure IsField (word : List UInt8) : Prop where
  nonempty : word ≠ []
  visible : word.all (fun byte => 0x21 ≤ byte && byte ≤ 0x7f) = true

theorem flatten_map_singleton (text : List UInt8) : (text.map fun byte => [byte]).flatten = text := by
  induction text with
  | nil => rfl
  | cons byte rest ih => rw [List.map_cons, List.flatten_cons, ih, List.singleton_append]

namespace IsField

variable {word : List UInt8}

theorem ascii (h : IsField word) : word.all (· ≤ 0x7f) = true := by
  rw [List.all_eq_true]
  intro byte hbyte
  have hvisible := List.all_eq_true.mp h.visible byte hbyte
  rw [Bool.and_eq_true] at hvisible
  exact hvisible.2

theorem not_isWhitespace (h : IsField word) {character : List UInt8}
    (hmem : character ∈ word.map fun byte => [byte]) : isWhitespace character = false := by
  obtain ⟨byte, hbyte, rfl⟩ := List.mem_map.mp hmem
  have hall : ∀ n : Fin 256, (0x21 ≤ UInt8.ofFin n && UInt8.ofFin n ≤ 0x7f) = true →
      isWhitespace [UInt8.ofFin n] = false := by
    decide +kernel
  exact hall byte.toFin (List.all_eq_true.mp h.visible byte hbyte)

theorem map_ne_nil (h : IsField word) : (word.map fun byte => [byte]) ≠ [] := by
  rw [Ne, List.map_eq_nil_iff]
  exact h.nonempty

end IsField

/-- Some words, each behind a blank. -/
def spaced (words : List (List UInt8)) : List UInt8 :=
  words.flatMap fun word => 0x20 :: word

theorem spaced_ascii {words : List (List UInt8)} (h : ∀ word ∈ words, IsField word) :
    (spaced words).all (· ≤ 0x7f) = true := by
  rw [spaced, List.all_flatMap, List.all_eq_true]
  intro word hword
  rw [List.all_cons, (h word hword).ascii]
  rfl

theorem not_mem_spaced {byte : UInt8} (hbyte : byte ≠ 0x20) {words : List (List UInt8)}
    (h : ∀ word ∈ words, byte ∉ word) : byte ∉ spaced words := by
  intro hmem
  obtain ⟨word, hword, hmem⟩ := List.mem_flatMap.mp hmem
  rcases List.mem_cons.mp hmem with hblank | hinside
  · exact hbyte hblank
  · exact h word hword hinside

/-- The words of a line are read back. -/
theorem splitWhitespace_fields {words : List (List UInt8)} (h : ∀ word ∈ words, IsField word) :
    splitWhitespace (spaced words ++ [0x0a]) = words := by
  have hascii : (spaced words ++ [0x0a]).all (· ≤ 0x7f) = true := by
    rw [List.all_append, spaced_ascii h]
    rfl
  rw [splitWhitespace, characters_ascii hascii]
  -- each blank ends the piece before it, and the first piece is empty
  suffices hpieces : ∀ (words : List (List UInt8)), (∀ word ∈ words, IsField word) →
      ∀ piece : List UInt8, (piece = [] ∨ IsField piece) →
        (((piece ++ (spaced words ++ [0x0a])).map fun byte => [byte]).splitOnP isWhitespace) =
          (piece.map fun byte => [byte]) ::
            (words.map (List.map fun byte => [byte]) ++ [[]]) by
    have hall := hpieces words h [] (.inl rfl)
    rw [List.nil_append] at hall
    rw [hall, List.map_nil, List.filter_cons, if_neg (by decide), List.filter_append,
      List.filter_eq_self.mpr, List.filter_cons, if_neg (by decide), List.filter_nil,
      List.append_nil, List.map_map]
    · refine (List.map_congr_left fun word _ => ?_).trans (List.map_id words)
      exact flatten_map_singleton word
    · intro piece hpiece
      obtain ⟨word, hword, rfl⟩ := List.mem_map.mp hpiece
      exact decide_eq_true (h word hword).map_ne_nil
  intro words
  induction words with
  | nil =>
      intro _ piece hpiece
      rw [spaced, List.flatMap_nil, List.nil_append, List.map_append, List.map_singleton,
        List.splitOnP_append_cons_of_forall_mem _ _ (by decide) []]
      · rfl
      · intro character hcharacter
        rcases hpiece with rfl | hpiece
        · cases hcharacter
        · exact hpiece.not_isWhitespace hcharacter
  | cons word words ih =>
      intro h piece hpiece
      have hrest := ih (fun other hother => h other (List.mem_cons_of_mem _ hother)) word
        (.inr (h word List.mem_cons_self))
      rw [spaced, List.flatMap_cons, List.cons_append, List.cons_append, List.map_append,
        List.map_cons, List.splitOnP_append_cons_of_forall_mem _ _ (by decide), List.append_assoc]
      · exact congrArg _ hrest
      · intro character hcharacter
        rcases hpiece with rfl | hpiece
        · cases hcharacter
        · exact hpiece.not_isWhitespace hcharacter

/-- A word is what stands on a line of its own. -/
theorem trim_line {word : List UInt8} (h : IsField word) : trim (word ++ [0x0a]) = word := by
  have hascii : (word ++ [0x0a]).all (· ≤ 0x7f) = true := by
    rw [List.all_append, h.ascii]
    rfl
  have hkept : ∀ {characters : List (List UInt8)}, characters ≠ [] →
      (∀ character ∈ characters, character ∈ word.map fun byte => [byte]) →
        ∀ rest, (characters ++ rest).dropWhile isWhitespace = characters ++ rest := by
    intro characters hne hall rest
    cases characters with
    | nil => exact absurd rfl hne
    | cons character characters =>
        rw [List.cons_append, List.dropWhile_cons_of_neg]
        rw [h.not_isWhitespace (hall character List.mem_cons_self)]
        decide
  have hback := hkept (List.reverse_ne_nil_iff.mpr h.map_ne_nil)
    (fun _ hmem => List.mem_reverse.mp hmem) []
  rw [List.append_nil] at hback
  rw [trim, characters_ascii hascii, List.map_append, hkept h.map_ne_nil (fun _ hmem => hmem),
    List.reverse_append, List.map_singleton, List.reverse_singleton, List.singleton_append,
    List.dropWhile_cons_of_pos (by decide), hback, List.reverse_reverse, flatten_map_singleton]

/-! ## Numbers -/

def isDigit (byte : UInt8) : Bool :=
  0x30 ≤ byte && byte ≤ 0x39

/-- The number that some digits stand for. -/
def digitsValue (digits : List UInt8) : Nat :=
  digits.foldl (fun n digit => 10 * n + (digit.toNat - 0x30)) 0

/-- A text without the plus sign that it may begin with. -/
def withoutPlus : List UInt8 → List UInt8
  | [] => []
  | byte :: rest => if byte = 0x2b then rest else byte :: rest

/-- Read an unsigned number below a bound. -/
def unsigned? (bound : Nat) (text : List UInt8) : Option Nat :=
  let digits := withoutPlus text
  if digits ≠ [] ∧ digits.all isDigit = true ∧ digitsValue digits < bound then
    some (digitsValue digits)
  else none

/-- A number in decimal digits. -/
def decimal (n : Nat) : List UInt8 :=
  (Nat.toDigits 10 n).map fun c => UInt8.ofNat c.toNat

/-- A number in decimal digits, with its sign if it is negative. -/
def signed (n : Int) : List UInt8 :=
  if n < 0 then 0x2d :: decimal n.natAbs else decimal n.natAbs

theorem toNat_digit {c : Char} (h : c.isDigit = true) :
    (UInt8.ofNat c.toNat).toNat = c.toNat ∧ isDigit (UInt8.ofNat c.toNat) = true := by
  rw [Char.isDigit_iff_toNat] at h
  have hzero : '0'.toNat = 48 := rfl
  have hnine : '9'.toNat = 57 := rfl
  have hsmall : c.toNat < 256 := by omega
  have hnat : (UInt8.ofNat c.toNat).toNat = c.toNat := by
    rw [UInt8.toNat_ofNat']
    exact Nat.mod_eq_of_lt hsmall
  refine ⟨hnat, ?_⟩
  rw [isDigit, Bool.and_eq_true, decide_eq_true_eq, decide_eq_true_eq, UInt8.le_iff_toNat_le,
    UInt8.le_iff_toNat_le, hnat]
  exact ⟨by show 48 ≤ _; omega, by show _ ≤ 57; omega⟩

theorem decimal_ne_nil (n : Nat) : decimal n ≠ [] := by
  rw [Ne, decimal, List.map_eq_nil_iff]
  exact Nat.toDigits_ne_nil

theorem isDigit_decimal (n : Nat) : (decimal n).all isDigit = true := by
  rw [decimal, List.all_map, List.all_eq_true]
  intro c hc
  exact (toNat_digit (Nat.isDigit_of_mem_toDigits (by omega) (by omega) hc)).2

theorem not_mem_decimal {byte : UInt8} (hbyte : isDigit byte = false) (n : Nat) :
    byte ∉ decimal n := by
  intro hmem
  have hdigit := List.all_eq_true.mp (isDigit_decimal n) byte hmem
  rw [hbyte] at hdigit
  cases hdigit

theorem not_mem_signed {byte : UInt8} (hbyte : isDigit byte = false) (hminus : byte ≠ 0x2d)
    (n : Int) : byte ∉ signed n := by
  rw [signed]
  split
  · rw [List.mem_cons, not_or]
    exact ⟨hminus, not_mem_decimal hbyte n.natAbs⟩
  · exact not_mem_decimal hbyte n.natAbs

theorem digitsValue_decimal (n : Nat) : digitsValue (decimal n) = n := by
  have hread : ∀ (digits : List Char), (∀ c ∈ digits, c.isDigit = true) → ∀ init : Nat,
      (digits.map fun c => UInt8.ofNat c.toNat).foldl
        (fun n digit => 10 * n + (digit.toNat - 0x30)) init = Nat.ofDigitChars 10 digits init := by
    intro digits
    induction digits with
    | nil => exact fun _ _ => Nat.ofDigitChars_nil.symm
    | cons c digits ih =>
        intro hdigits init
        rw [List.map_cons, List.foldl_cons, Nat.ofDigitChars_cons,
          ih fun other hother => hdigits other (List.mem_cons_of_mem _ hother),
          (toNat_digit (hdigits c List.mem_cons_self)).1]
        rfl
  rw [digitsValue, decimal, hread]
  · exact Nat.ofDigitChars_ten_toDigits
  · intro c hc
    exact Nat.isDigit_of_mem_toDigits (by omega) (by omega) hc

/-- A number is read back. -/
theorem unsigned?_decimal {bound n : Nat} (h : n < bound) : unsigned? bound (decimal n) = some n := by
  have hplus : withoutPlus (decimal n) = decimal n := by
    have hdigits := isDigit_decimal n
    cases hn : decimal n with
    | nil => rfl
    | cons byte rest =>
        rw [hn, List.all_cons, Bool.and_eq_true] at hdigits
        rw [withoutPlus, if_neg]
        rintro rfl
        exact absurd hdigits.1 (by decide)
  unfold unsigned?
  dsimp only
  rw [hplus, digitsValue_decimal]
  exact if_pos ⟨decimal_ne_nil n, isDigit_decimal n, h⟩

theorem isField_of_digits {word : List UInt8} (hne : word ≠ []) (h : word.all isDigit = true) :
    IsField word := by
  refine ⟨hne, ?_⟩
  rw [List.all_eq_true] at h ⊢
  intro byte hbyte
  have hall : ∀ n : Fin 256, isDigit (UInt8.ofFin n) = true →
      (0x21 ≤ UInt8.ofFin n && UInt8.ofFin n ≤ 0x7f) = true := by
    decide +kernel
  exact hall byte.toFin (h byte hbyte)

theorem isField_decimal (n : Nat) : IsField (decimal n) :=
  isField_of_digits (decimal_ne_nil n) (isDigit_decimal n)

theorem isField_signed (n : Int) : IsField (signed n) := by
  rw [signed]
  split
  · refine ⟨List.cons_ne_nil _ _, ?_⟩
    rw [List.all_cons, (isField_decimal n.natAbs).visible]
    rfl
  · exact isField_decimal n.natAbs

end Fields
