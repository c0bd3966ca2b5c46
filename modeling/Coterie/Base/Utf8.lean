/-
  Coterie.Base.Utf8

  Decoding bytes that may not be UTF-8.  `Utf8.decision` looks at the next character: it is complete,
  it is a sequence that no character continues, or the bytes end inside of it.  `Utf8.check` is the
  validation of a byte string with the place and the length of its first error, and `Utf8.lossy` the
  decoding that puts the replacement character for each maximal part of a character that is not
  completed.

  Text that is decoded in pieces is not always the text that is decoded at once: `lossy_cut` says
  when a cut keeps the text, and `chars_lossy_le` that the pieces never have fewer characters.
-/

import Coterie.Base.Scanner

namespace Utf8

/-- Byte strings are looked up in a list by their bytes. -/
instance lawfulBEq_bytes : LawfulBEq (List UInt8) := inferInstance

/-! ## The next character -/

/-- A byte that continues a character. -/
def isContinuation (byte : UInt8) : Bool :=
  byte &&& 0xc0 == 0x80

/-- What the bytes begin with: a character of some length, a sequence of some length that is no
    part of a character, or the unfinished beginning of a character. -/
inductive Decision where
  | char (length : Nat)
  | invalid (length : Nat)
  | incomplete
deriving DecidableEq, Repr

/-- How many bytes a decision is about. -/
def Decision.length : Decision → Option Nat
  | .char length | .invalid length => some length
  | .incomplete => none

/-- The number of bytes owed after a first byte, and the range of the second one. -/
def lead (first : UInt8) : Option (Nat × UInt8 × UInt8) :=
  if first ≤ 0x7f then some (0, 0x80, 0xbf)
  else if 0xc2 ≤ first ∧ first ≤ 0xdf then some (1, 0x80, 0xbf)
  else if first = 0xe0 then some (2, 0xa0, 0xbf)
  else if first = 0xed then some (2, 0x80, 0x9f)
  else if 0xe1 ≤ first ∧ first ≤ 0xef then some (2, 0x80, 0xbf)
  else if first = 0xf0 then some (3, 0x90, 0xbf)
  else if 0xf1 ≤ first ∧ first ≤ 0xf3 then some (3, 0x80, 0xbf)
  else if first = 0xf4 then some (3, 0x80, 0x8f)
  else none

/-- Read the bytes that are owed after `seen` ones. -/
def follow : Nat → UInt8 → UInt8 → Nat → List UInt8 → Decision
  | 0, _, _, seen, _ => .char seen
  | _ + 1, _, _, _, [] => .incomplete
  | owed + 1, low, high, seen, byte :: rest =>
      if low ≤ byte ∧ byte ≤ high then follow owed 0x80 0xbf (seen + 1) rest else .invalid seen

/-- What the bytes begin with. -/
def decision : List UInt8 → Decision
  | [] => .incomplete
  | first :: rest =>
      match lead first with
      | none => .invalid 1
      | some (owed, low, high) => follow owed low high 1 rest

theorem isContinuation_iff (byte : UInt8) :
    isContinuation byte = true ↔ 0x80 ≤ byte ∧ byte ≤ 0xbf := by
  have hall : ∀ n : Fin 256, (isContinuation (UInt8.ofFin n) = true ↔
      0x80 ≤ UInt8.ofFin n ∧ UInt8.ofFin n ≤ 0xbf) := by
    decide +kernel
  exact hall byte.toFin

/-- A first byte owes at most three bytes, whose ranges are those of continuation bytes, and is none
    itself. -/
theorem lead_eq_some {first low high : UInt8} {owed : Nat} (h : lead first = some (owed, low, high)) :
    owed ≤ 3 ∧ 0x80 ≤ low ∧ high ≤ 0xbf ∧ isContinuation first = false := by
  have hall : ∀ n : Fin 256, ∀ found ∈ lead (UInt8.ofFin n),
      found.1 ≤ 3 ∧ 0x80 ≤ found.2.1 ∧ found.2.2 ≤ 0xbf ∧
        isContinuation (UInt8.ofFin n) = false := by
    decide +kernel
  exact hall first.toFin (owed, low, high) h

theorem lead_continuation {byte : UInt8} (h : isContinuation byte = true) : lead byte = none := by
  cases hlead : lead byte with
  | none => rfl
  | some found =>
      obtain ⟨owed, low, high⟩ := found
      obtain ⟨-, -, -, hno⟩ := lead_eq_some hlead
      rw [h] at hno
      cases hno

section Follow

variable {owed seen : Nat} {low high : UInt8} {rest : List UInt8}

/-- More bytes do not change a decision. -/
theorem follow_append (h : follow owed low high seen rest ≠ .incomplete) (more : List UInt8) :
    follow owed low high seen (rest ++ more) = follow owed low high seen rest := by
  induction owed generalizing low high seen rest with
  | zero => rfl
  | succ owed ih =>
      cases rest with
      | nil => exact absurd rfl h
      | cons byte rest =>
          rw [List.cons_append, follow, follow]
          rw [follow] at h
          split
          · next hfits =>
              rw [if_pos hfits] at h
              exact ih h
          · rfl

/-- A decision is about bytes that are there, and all of them but the first continue it. -/
theorem follow_length {length : Nat} (hlow : 0x80 ≤ low) (hhigh : high ≤ 0xbf)
    (h : (follow owed low high seen rest).length = some length) :
    ∃ count, length = seen + count ∧ count ≤ rest.length ∧
      ∀ byte ∈ rest.take count, isContinuation byte = true := by
  induction owed generalizing low high seen rest with
  | zero =>
      cases h
      exact ⟨0, rfl, Nat.zero_le _, by simp⟩
  | succ owed ih =>
      cases rest with
      | nil => cases h
      | cons byte rest =>
          rw [follow] at h
          split at h
          · next hfits =>
              obtain ⟨count, hlength, hcount, hall⟩ := ih (Std.le_refl _) (Std.le_refl _) h
              refine ⟨count + 1, by omega, Nat.succ_le_succ hcount, ?_⟩
              rw [List.take_succ_cons]
              intro other hother
              rcases List.mem_cons.mp hother with rfl | hlater
              · exact (isContinuation_iff other).mpr ⟨Std.le_trans hlow hfits.1,
                  Std.le_trans hfits.2 hhigh⟩
              · exact hall other hlater
          · cases h
            exact ⟨0, rfl, Nat.zero_le _, by simp⟩

theorem follow_length_le {length : Nat} (h : (follow owed low high seen rest).length = some length) :
    length ≤ seen + owed := by
  induction owed generalizing low high seen rest with
  | zero =>
      cases h
      exact Nat.le_refl _
  | succ owed ih =>
      cases rest with
      | nil => cases h
      | cons byte rest =>
          rw [follow] at h
          split at h
          · have hle := ih h
            omega
          · cases h
            exact Nat.le_add_right _ _

/-- Bytes that end inside of a character are fewer than owed, and all of them continue it. -/
theorem follow_incomplete (hlow : 0x80 ≤ low) (hhigh : high ≤ 0xbf)
    (h : follow owed low high seen rest = .incomplete) :
    rest.length < owed ∧ ∀ byte ∈ rest, isContinuation byte = true := by
  induction owed generalizing low high seen rest with
  | zero => cases h
  | succ owed ih =>
      cases rest with
      | nil => exact ⟨Nat.succ_pos _, by simp⟩
      | cons first rest =>
          rw [follow] at h
          split at h
          · next hfits =>
              obtain ⟨hlength, hall⟩ := ih (Std.le_refl _) (Std.le_refl _) h
              refine ⟨Nat.succ_lt_succ hlength, ?_⟩
              intro byte hbyte
              rcases List.mem_cons.mp hbyte with rfl | hlater
              · exact (isContinuation_iff byte).mpr ⟨Std.le_trans hlow hfits.1,
                  Std.le_trans hfits.2 hhigh⟩
              · exact hall byte hlater
          · cases h

/-- What is decided with more bytes is about more bytes, unless they are refused. -/
theorem follow_longer {more : List UInt8} {length : Nat} (hlow : 0x80 ≤ low) (hhigh : high ≤ 0xbf)
    (h : follow owed low high seen rest = .incomplete)
    (hmore : (follow owed low high seen (rest ++ more)).length = some length) :
    seen + rest.length < length ∨
      follow owed low high seen (rest ++ more) = .invalid (seen + rest.length) := by
  induction owed generalizing low high seen rest with
  | zero => cases h
  | succ owed ih =>
      cases rest with
      | nil =>
          cases more with
          | nil => cases hmore
          | cons byte more =>
              rw [List.nil_append, follow] at hmore ⊢
              split at hmore
              · next hfits =>
                  obtain ⟨count, hlength, -⟩ :=
                    follow_length (Std.le_refl _) (Std.le_refl _) hmore
                  left
                  rw [List.length_nil]
                  omega
              · next hrefused =>
                  rw [if_neg hrefused]
                  exact .inr rfl
      | cons first rest =>
          rw [follow] at h
          rw [List.cons_append, follow] at hmore ⊢
          split at h
          · next hfits =>
              rw [if_pos hfits] at hmore ⊢
              have hrest := ih (Std.le_refl _) (Std.le_refl _) h hmore
              rw [List.length_cons]
              rwa [Nat.add_assoc, Nat.add_comm 1] at hrest
          · cases h

end Follow

/-! ## Decisions -/

theorem decision_none {first : UInt8} (h : lead first = none) (rest : List UInt8) :
    decision (first :: rest) = .invalid 1 := by
  dsimp only [decision]
  rw [h]

theorem decision_some {first low high : UInt8} {owed : Nat} (h : lead first = some (owed, low, high))
    (rest : List UInt8) : decision (first :: rest) = follow owed low high 1 rest := by
  dsimp only [decision]
  rw [h]

theorem decision_append {bytes : List UInt8} (h : decision bytes ≠ .incomplete)
    (more : List UInt8) : decision (bytes ++ more) = decision bytes := by
  cases bytes with
  | nil => exact absurd rfl h
  | cons first rest =>
      rw [List.cons_append]
      cases hlead : lead first with
      | none => rw [decision_none hlead, decision_none hlead]
      | some found =>
          obtain ⟨owed, low, high⟩ := found
          rw [decision_some hlead] at h
          rw [decision_some hlead, decision_some hlead, follow_append h more]

theorem decision_length {first : UInt8} {rest : List UInt8} {length : Nat}
    (h : (decision (first :: rest)).length = some length) :
    ∃ count, length = 1 + count ∧ count ≤ rest.length ∧
      ∀ byte ∈ rest.take count, isContinuation byte = true := by
  cases hlead : lead first with
  | none =>
      rw [decision_none hlead] at h
      cases h
      exact ⟨0, rfl, Nat.zero_le _, by simp⟩
  | some found =>
      obtain ⟨owed, low, high⟩ := found
      rw [decision_some hlead] at h
      obtain ⟨-, hlow, hhigh, -⟩ := lead_eq_some hlead
      exact follow_length hlow hhigh h

/-- A character starts with no continuation byte and has at most four bytes. -/
theorem decision_char {first : UInt8} {rest : List UInt8} {length : Nat}
    (h : decision (first :: rest) = .char length) :
    isContinuation first = false ∧ length ≤ 4 := by
  cases hlead : lead first with
  | none =>
      rw [decision_none hlead] at h
      cases h
  | some found =>
      obtain ⟨owed, low, high⟩ := found
      rw [decision_some hlead] at h
      obtain ⟨howed, -, -, hfirst⟩ := lead_eq_some hlead
      have hlength : (follow owed low high 1 rest).length = some length := by
        rw [h]
        rfl
      have hle := follow_length_le hlength
      exact ⟨hfirst, by omega⟩

/-- A continuation byte starts no character. -/
theorem decision_continuation {first : UInt8} (h : isContinuation first = true)
    (rest : List UInt8) : decision (first :: rest) = .invalid 1 :=
  decision_none (lead_continuation h) rest

/-- Bytes that end inside of a character are at most three: the first one, which continues no
    character, and ones that do. -/
theorem decision_incomplete {first : UInt8} {rest : List UInt8}
    (h : decision (first :: rest) = .incomplete) :
    rest.length < 3 ∧ isContinuation first = false ∧
      ∀ byte ∈ rest, isContinuation byte = true := by
  cases hlead : lead first with
  | none =>
      rw [decision_none hlead] at h
      cases h
  | some found =>
      obtain ⟨owed, low, high⟩ := found
      rw [decision_some hlead] at h
      obtain ⟨howed, hlow, hhigh, hfirst⟩ := lead_eq_some hlead
      obtain ⟨hlength, hall⟩ := follow_incomplete hlow hhigh h
      exact ⟨by omega, hfirst, hall⟩

/-- What is decided with more bytes about an unfinished character is about more bytes, unless they
    are refused. -/
theorem decision_longer {bytes more : List UInt8} {length : Nat} (hne : bytes ≠ [])
    (h : decision bytes = .incomplete)
    (hmore : (decision (bytes ++ more)).length = some length) :
    bytes.length < length ∨ decision (bytes ++ more) = .invalid bytes.length := by
  cases bytes with
  | nil => exact absurd rfl hne
  | cons first rest =>
      rw [List.cons_append] at hmore ⊢
      cases hlead : lead first with
      | none =>
          rw [decision_none hlead] at h
          cases h
      | some found =>
          obtain ⟨owed, low, high⟩ := found
          rw [decision_some hlead] at h hmore ⊢
          obtain ⟨-, hlow, hhigh, -⟩ := lead_eq_some hlead
          have hlonger := follow_longer hlow hhigh h hmore
          rw [List.length_cons]
          rwa [Nat.add_comm 1] at hlonger

/-- A byte that continues no character ends an unfinished one. -/
theorem decision_refused {bytes more : List UInt8} {byte : UInt8} (hne : bytes ≠ [])
    (h : decision bytes = .incomplete) (hbyte : isContinuation byte = false) :
    decision (bytes ++ byte :: more) = .invalid bytes.length := by
  cases bytes with
  | nil => exact absurd rfl hne
  | cons first rest =>
      cases hlength : (decision (first :: rest ++ byte :: more)).length with
      | none =>
          have hincomplete : decision (first :: (rest ++ byte :: more)) = .incomplete := by
            cases hdecision : decision (first :: (rest ++ byte :: more)) with
            | incomplete => rfl
            | _ =>
                rw [List.cons_append, hdecision] at hlength
                cases hlength
          have hcontinues := (decision_incomplete hincomplete).2.2 byte (by simp)
          rw [hbyte] at hcontinues
          cases hcontinues
      | some length =>
          rcases decision_longer hne h hlength with hlonger | hrefused
          · rw [List.cons_append] at hlength
            obtain ⟨count, rfl, -, hall⟩ := decision_length hlength
            rw [List.length_cons] at hlonger
            have hcontinues := hall byte (by
              rw [List.take_append, List.mem_append]
              right
              obtain ⟨extra, hextra⟩ : ∃ extra, count - rest.length = extra + 1 :=
                ⟨count - rest.length - 1, by omega⟩
              rw [hextra, List.take_succ_cons]
              exact List.mem_cons_self)
            rw [hbyte] at hcontinues
            cases hcontinues
          · exact hrefused

/-! ## Lossy decoding -/

/-- The encoding of U+FFFD. -/
def replacement : List UInt8 := [0xef, 0xbf, 0xbd]

/-- Keep characters, and replace what is none. -/
def scanner : Scanner UInt8 UInt8 where
  hold bytes := decide (decision bytes = .incomplete)
  next bytes :=
    match decision bytes with
    | .char length => (length, bytes.take length)
    | .invalid length => (length, replacement)
    | .incomplete => (bytes.length, replacement)
  progress := by
    intro bytes hne hgo
    cases bytes with
    | nil => exact absurd rfl hne
    | cons first rest =>
        cases hdecision : decision (first :: rest) with
        | incomplete => exact absurd (decide_eq_true hdecision) (by rw [hgo]; decide)
        | char length =>
            obtain ⟨count, hlength, -⟩ := decision_length (by rw [hdecision]; rfl)
            dsimp only
            omega
        | invalid length =>
            obtain ⟨count, hlength, -⟩ := decision_length (by rw [hdecision]; rfl)
            dsimp only
            omega

theorem scanner_hold {bytes : List UInt8} :
    scanner.hold bytes = true ↔ decision bytes = .incomplete :=
  decide_eq_true_iff

theorem scanner_go {bytes : List UInt8} (h : scanner.hold bytes = false) :
    decision bytes ≠ .incomplete :=
  of_decide_eq_false h

theorem scanner_stable : scanner.Stable where
  hold bytes more hne hgo := by
    refine decide_eq_false ?_
    rw [decision_append (scanner_go hgo)]
    exact scanner_go hgo
  next bytes more hne hgo := by
    have hsame := decision_append (scanner_go hgo) more
    cases bytes with
    | nil => exact absurd rfl hne
    | cons first rest =>
        dsimp only [scanner]
        rw [hsame]
        cases hdecision : decision (first :: rest) with
        | incomplete => exact absurd hdecision (scanner_go hgo)
        | invalid length => rfl
        | char length =>
            obtain ⟨count, rfl, hcount, -⟩ := decision_length (by rw [hdecision]; rfl)
            dsimp only
            rw [List.take_append_of_le_length (by rw [List.length_cons]; omega)]
  within bytes hne hgo := by
    cases bytes with
    | nil => exact absurd rfl hne
    | cons first rest =>
        dsimp only [scanner]
        cases hdecision : decision (first :: rest) with
        | incomplete => exact absurd hdecision (scanner_go hgo)
        | _ =>
            obtain ⟨count, rfl, hcount, -⟩ := decision_length (by rw [hdecision]; rfl)
            dsimp only
            rw [List.length_cons]
            omega

/-- The unfinished character at the end of some bytes. -/
def held (bytes : List UInt8) : List UInt8 :=
  (scanner.scan bytes).2

/-- What an unfinished character at the end is decoded as. -/
def closing (held : List UInt8) : List UInt8 :=
  if held = [] then [] else replacement

/-- Decode bytes, with the replacement character for each maximal part of a character that is not
    completed. -/
def lossy (bytes : List UInt8) : List UInt8 :=
  (scanner.scan bytes).1 ++ closing (held bytes)

@[simp]
theorem held_nil : held [] = [] := by
  rw [held, scanner.scan_stop (.inl rfl)]

@[simp]
theorem lossy_nil : lossy [] = [] := by
  rw [lossy, held_nil, scanner.scan_stop (.inl rfl)]
  rfl

theorem held_decision {bytes : List UInt8} (h : held bytes ≠ []) :
    decision (held bytes) = .incomplete :=
  scanner_hold.mp ((scanner.scan_left bytes).resolve_left h)

theorem held_incomplete {bytes : List UInt8} (h : decision bytes = .incomplete) :
    held bytes = bytes := by
  rw [held, scanner.scan_stop (.inr (scanner_hold.mpr h))]

theorem lossy_incomplete {bytes : List UInt8} (hne : bytes ≠ []) (h : decision bytes = .incomplete) :
    lossy bytes = replacement := by
  rw [lossy, held_incomplete h, scanner.scan_stop (.inr (scanner_hold.mpr h)), closing, if_neg hne]
  rfl

/-- One step of the decoding. -/
theorem scan_decided {bytes : List UInt8} (hne : bytes ≠ []) (h : decision bytes ≠ .incomplete) :
    scanner.scan bytes =
      ((scanner.next bytes).2 ++ (scanner.scan (bytes.drop (scanner.next bytes).1)).1,
        held (bytes.drop (scanner.next bytes).1)) :=
  scanner.scan_step hne (decide_eq_false h)

theorem lossy_decided {bytes : List UInt8} (hne : bytes ≠ []) (h : decision bytes ≠ .incomplete) :
    lossy bytes = (scanner.next bytes).2 ++ lossy (bytes.drop (scanner.next bytes).1) := by
  rw [lossy, held, scan_decided hne h]
  dsimp only
  rw [List.append_assoc]
  rfl

theorem held_decided {bytes : List UInt8} (hne : bytes ≠ []) (h : decision bytes ≠ .incomplete) :
    held bytes = held (bytes.drop (scanner.next bytes).1) := by
  rw [held, scan_decided hne h]

/-- Decoding a part first. -/
theorem lossy_append (a b : List UInt8) :
    lossy (a ++ b) = (scanner.scan a).1 ++ lossy (held a ++ b) := by
  rw [lossy, held, scanner_stable.scan_append, List.append_assoc]
  rfl

theorem held_append (a b : List UInt8) : held (a ++ b) = held (held a ++ b) := by
  rw [held, scanner_stable.scan_append]
  rfl

/-- A byte that continues no character always starts one. -/
theorem held_append_cons (a : List UInt8) {byte : UInt8} (hbyte : isContinuation byte = false)
    (b : List UInt8) : held (a ++ byte :: b) = held (byte :: b) := by
  rw [held_append]
  by_cases hempty : held a = []
  · rw [hempty, List.nil_append]
  · have hrefused : decision (held a ++ byte :: b) = .invalid (held a).length :=
      decision_refused hempty (held_decision hempty) hbyte
    rw [held_decided (by simp) (by rw [hrefused]; simp)]
    dsimp only [scanner]
    rw [hrefused, List.drop_left]

/-- Continuation bytes alone are no beginning of a character. -/
theorem held_continuations {bytes : List UInt8} (h : ∀ byte ∈ bytes, isContinuation byte = true) :
    held bytes = [] := by
  induction bytes with
  | nil => exact held_nil
  | cons byte bytes ih =>
      have hdecision := decision_continuation (h byte List.mem_cons_self) bytes
      rw [held_decided (by simp) (by rw [hdecision]; simp)]
      dsimp only [scanner]
      rw [hdecision, List.drop_succ_cons, List.drop_zero]
      exact ih fun other hother => h other (List.mem_cons_of_mem _ hother)

/-! ## Decoding in pieces -/

/-- A cut behind an unfinished character that the next bytes continue. -/
def Splits (a b : List UInt8) : Prop :=
  held a ≠ [] ∧ b ≠ [] ∧ decision (held a ++ b) ≠ .invalid (held a).length

instance (a b : List UInt8) : Decidable (Splits a b) :=
  inferInstanceAs (Decidable (_ ∧ _ ∧ _))

/-- Pieces decode to the whole where no character is split. -/
theorem lossy_cut {a b : List UInt8} (h : ¬ Splits a b) : lossy (a ++ b) = lossy a ++ lossy b := by
  rw [lossy_append, lossy.eq_1 a, List.append_assoc]
  refine congrArg (_ ++ ·) ?_
  by_cases hheld : held a = []
  · rw [hheld]
    rfl
  · rw [closing, if_neg hheld]
    by_cases hb : b = []
    · rw [hb, List.append_nil, lossy_nil, List.append_nil,
        lossy_incomplete hheld (held_decision hheld)]
    · have hrefused : decision (held a ++ b) = .invalid (held a).length := by
        by_contra hcontinues
        exact h ⟨hheld, hb, hcontinues⟩
      rw [lossy_decided (by simp [hheld]) (by rw [hrefused]; simp)]
      dsimp only [scanner]
      rw [hrefused, List.drop_left]

/-- What ends a text behind a cut that splits no character is what ends the second piece. -/
theorem held_cut {a b : List UInt8} (h : ¬ Splits a b) (hb : b ≠ []) : held (a ++ b) = held b := by
  rw [held_append]
  by_cases hheld : held a = []
  · rw [hheld, List.nil_append]
  · have hrefused : decision (held a ++ b) = .invalid (held a).length := by
      by_contra hcontinues
      exact h ⟨hheld, hb, hcontinues⟩
    rw [held_decided (by simp [hheld]) (by rw [hrefused]; simp)]
    dsimp only [scanner]
    rw [hrefused, List.drop_left]

/-- Whether a cut splits a character is decided by the bytes right behind it. -/
theorem Splits.mono {a b c : List UInt8} (h : Splits a c) (hbegins : c <+: b) :
    Splits a b := by
  obtain ⟨hheld, hc, hcontinues⟩ := h
  obtain ⟨more, rfl⟩ := hbegins
  refine ⟨hheld, by simp [hc], fun hrefused => hcontinues ?_⟩
  by_cases hincomplete : decision (held a ++ c) = .incomplete
  · rw [← List.append_assoc] at hrefused
    have hne : held a ++ c ≠ [] := by simp [hheld]
    have hpos := List.length_pos_iff.mpr hc
    rcases decision_longer hne hincomplete (by rw [hrefused]; rfl) with hlonger | hsame
    · rw [List.length_append] at hlonger
      omega
    · rw [hrefused] at hsame
      injection hsame with hlength
      rw [List.length_append] at hlength
      omega
  · rw [← List.append_assoc, decision_append hincomplete] at hrefused
    exact hrefused

/-- The characters of a text. -/
def chars (text : List UInt8) : Nat :=
  text.countP fun byte => !isContinuation byte

theorem chars_append (a b : List UInt8) : chars (a ++ b) = chars a + chars b :=
  List.countP_append

theorem chars_continuations {bytes : List UInt8} (h : ∀ byte ∈ bytes, isContinuation byte = true) :
    chars bytes = 0 := by
  rw [chars, List.countP_eq_zero]
  intro byte hbyte
  rw [h byte hbyte]
  decide

/-- Each step of the decoding emits one character. -/
theorem chars_next {bytes : List UInt8} (hne : bytes ≠ []) :
    chars (scanner.next bytes).2 = 1 := by
  cases bytes with
  | nil => exact absurd rfl hne
  | cons first rest =>
      dsimp only [scanner]
      cases hdecision : decision (first :: rest) with
      | incomplete =>
          show chars replacement = 1
          decide
      | invalid length =>
          show chars replacement = 1
          decide
      | char length =>
          obtain ⟨count, rfl, -, hall⟩ := decision_length (by rw [hdecision]; rfl)
          dsimp only
          rw [Nat.add_comm, List.take_succ_cons, chars,
            List.countP_cons_of_pos (by rw [(decision_char hdecision).1]; rfl)]
          have hrest := chars_continuations hall
          rw [chars] at hrest
          rw [hrest]

theorem chars_lossy_decided {bytes : List UInt8} (hne : bytes ≠ [])
    (h : decision bytes ≠ .incomplete) :
    chars (lossy bytes) = 1 + chars (lossy (bytes.drop (scanner.next bytes).1)) := by
  rw [lossy_decided hne h, chars_append, chars_next hne]

/-- Continuation bytes on their own are replaced one by one. -/
theorem chars_lossy_continuations {bytes : List UInt8} (rest : List UInt8)
    (h : ∀ byte ∈ bytes, isContinuation byte = true) :
    chars (lossy (bytes ++ rest)) = bytes.length + chars (lossy rest) := by
  induction bytes with
  | nil => rw [List.nil_append, List.length_nil, Nat.zero_add]
  | cons byte bytes ih =>
      have hdecision := decision_continuation (h byte List.mem_cons_self) (bytes ++ rest)
      rw [List.cons_append, chars_lossy_decided (by simp) (by rw [hdecision]; simp)]
      dsimp only [scanner]
      rw [hdecision, List.drop_succ_cons, List.drop_zero,
        ih fun other hother => h other (List.mem_cons_of_mem _ hother), List.length_cons]
      omega

/-- A split character decodes to more characters than one. -/
theorem chars_lossy_lt {a b : List UInt8} (h : Splits a b) :
    chars (lossy (a ++ b)) < chars (lossy a) + chars (lossy b) := by
  obtain ⟨hheld, hb, hcontinues⟩ := h
  rw [lossy_append, chars_append, lossy.eq_1 a, chars_append, closing, if_neg hheld, Nat.add_assoc]
  refine Nat.add_lt_add_left ?_ _
  have hone : chars replacement = 1 := by decide
  have hdecision := held_decision hheld
  rw [hone]
  cases hlength : (decision (held a ++ b)).length with
  | none =>
      -- everything that comes continues the character
      have hincomplete : decision (held a ++ b) = .incomplete := by
        cases hwhole : decision (held a ++ b) with
        | incomplete => rfl
        | _ =>
            rw [hwhole] at hlength
            cases hlength
      rw [lossy_incomplete (by simp [hheld]) hincomplete, hone]
      have hall : ∀ byte ∈ b, isContinuation byte = true := by
        cases hstart : held a with
        | nil => exact absurd hstart hheld
        | cons first rest =>
            rw [hstart, List.cons_append] at hincomplete
            intro byte hbyte
            exact (decision_incomplete hincomplete).2.2 byte (List.mem_append_right _ hbyte)
      have hcount := chars_lossy_continuations [] hall
      rw [List.append_nil] at hcount
      have hpos := List.length_pos_iff.mpr hb
      omega
  | some length =>
      have hlonger := (decision_longer hheld hdecision hlength).resolve_right hcontinues
      have hdecided : decision (held a ++ b) ≠ .incomplete := by
        intro hincomplete
        rw [hincomplete] at hlength
        cases hlength
      rw [chars_lossy_decided (by simp [hheld]) hdecided]
      have hnext : (scanner.next (held a ++ b)).1 = length := by
        dsimp only [scanner]
        cases hwhole : decision (held a ++ b) with
        | incomplete => exact absurd hwhole hdecided
        | _ =>
            rw [hwhole] at hlength
            cases hlength
            rfl
      -- the bytes of the character that lie behind the cut
      obtain ⟨extra, hextra⟩ : ∃ extra, length = (held a).length + extra :=
        ⟨length - (held a).length, by omega⟩
      have hall : ∀ byte ∈ b.take extra, isContinuation byte = true := by
        cases hstart : held a with
        | nil => exact absurd hstart hheld
        | cons first rest =>
            rw [hstart, List.cons_append] at hlength
            obtain ⟨count, hcount, -, hrest⟩ := decision_length hlength
            rw [hstart, List.length_cons] at hextra
            intro byte hbyte
            refine hrest byte ?_
            rw [List.take_append, List.mem_append,
              show count - rest.length = extra by omega]
            exact .inr hbyte
      have hextraLe : extra ≤ b.length := by
        cases hstart : held a with
        | nil => exact absurd hstart hheld
        | cons first rest =>
            rw [hstart, List.cons_append] at hlength
            obtain ⟨count, hcount, hle, -⟩ := decision_length hlength
            rw [hstart, List.length_cons] at hextra
            rw [List.length_append] at hle
            omega
      have hsplit := chars_lossy_continuations (b.drop extra) hall
      rw [List.take_append_drop, List.length_take] at hsplit
      rw [hnext, hextra, List.drop_length_add_append]
      omega

/-- Pieces never decode to fewer characters than the whole. -/
theorem chars_lossy_le (a b : List UInt8) :
    chars (lossy (a ++ b)) ≤ chars (lossy a) + chars (lossy b) := by
  by_cases h : Splits a b
  · exact Nat.le_of_lt (chars_lossy_lt h)
  · rw [lossy_cut h, chars_append]

/-! ## Validation -/

/-- Where validation stops: how many bytes are valid before, and the length of what is no character,
    unless the bytes end there. -/
structure Utf8Error where
  validUpTo : Nat
  errorLen : Option Nat
deriving DecidableEq, Repr

/-- The first error of bytes of which `upTo` valid ones are already passed. -/
def check (upTo : Nat) : List UInt8 → Option Utf8Error
  | [] => none
  | first :: rest =>
      match h : decision (first :: rest) with
      | .char length => check (upTo + length) ((first :: rest).drop length)
      | .invalid length => some { validUpTo := upTo, errorLen := some length }
      | .incomplete => some { validUpTo := upTo, errorLen := none }
termination_by bytes => bytes.length
decreasing_by
  obtain ⟨count, rfl, -⟩ := decision_length (by rw [h]; rfl)
  rw [List.length_drop, List.length_cons]
  omega

@[simp]
theorem check_nil (upTo : Nat) : check upTo [] = none := by
  rw [check]

theorem check_char {upTo length : Nat} {bytes : List UInt8} (h : decision bytes = .char length) :
    check upTo bytes = check (upTo + length) (bytes.drop length) := by
  cases bytes with
  | nil => cases h
  | cons first rest =>
      rw [check]
      split
      · next found hfound =>
          rw [h] at hfound
          cases hfound
          rfl
      · next hfound =>
          rw [h] at hfound
          cases hfound
      · next hfound =>
          rw [h] at hfound
          cases hfound

theorem check_invalid {upTo length : Nat} {bytes : List UInt8}
    (h : decision bytes = .invalid length) :
    check upTo bytes = some { validUpTo := upTo, errorLen := some length } := by
  cases bytes with
  | nil => cases h
  | cons first rest =>
      rw [check]
      split
      · next hfound =>
          rw [h] at hfound
          cases hfound
      · next hfound =>
          rw [h] at hfound
          cases hfound
          rfl
      · next hfound =>
          rw [h] at hfound
          cases hfound

theorem check_incomplete {upTo : Nat} {bytes : List UInt8} (hne : bytes ≠ [])
    (h : decision bytes = .incomplete) :
    check upTo bytes = some { validUpTo := upTo, errorLen := none } := by
  cases bytes with
  | nil => exact absurd rfl hne
  | cons first rest =>
      rw [check]
      split
      · next hfound =>
          rw [h] at hfound
          cases hfound
      · next hfound =>
          rw [h] at hfound
          cases hfound
      · rfl

/-- How a validation goes: over characters, up to the end or the first error. -/
theorem check_induction {motive : Nat → List UInt8 → Prop} (nil : ∀ upTo, motive upTo [])
    (char : ∀ upTo bytes length, decision bytes = .char length → 0 < length →
      length ≤ bytes.length → motive (upTo + length) (bytes.drop length) → motive upTo bytes)
    (invalid : ∀ upTo bytes length, decision bytes = .invalid length → motive upTo bytes)
    (incomplete : ∀ upTo bytes, bytes ≠ [] → decision bytes = .incomplete → motive upTo bytes)
    (upTo : Nat) (bytes : List UInt8) : motive upTo bytes := by
  induction hn : bytes.length using Nat.strongRecOn generalizing upTo bytes with
  | ind n ih =>
      cases bytes with
      | nil => exact nil upTo
      | cons first rest =>
          cases hdecision : decision (first :: rest) with
          | invalid length => exact invalid upTo _ length hdecision
          | incomplete => exact incomplete upTo _ (by simp) hdecision
          | char length =>
              obtain ⟨count, rfl, hcount, -⟩ := decision_length (by rw [hdecision]; rfl)
              refine char upTo _ _ hdecision (by omega) (by rw [List.length_cons]; omega) ?_
              refine ih _ ?_ _ _ rfl
              rw [List.length_drop, ← hn, List.length_cons]
              omega

/-- Valid bytes are valid wherever they stand, and lossy decoding keeps them. -/
theorem check_none {upTo : Nat} {bytes : List UInt8} (h : check upTo bytes = none) :
    (∀ upTo', check upTo' bytes = none) ∧ lossy bytes = bytes ∧ held bytes = [] := by
  induction upTo, bytes using check_induction with
  | nil => exact ⟨fun _ => check_nil _, lossy_nil, held_nil⟩
  | char upTo bytes length hdecision hpos hle ih =>
      have hne : bytes ≠ [] := List.length_pos_iff.mp (by omega)
      rw [check_char hdecision] at h
      obtain ⟨hall, hlossy, hheld⟩ := ih h
      have hnext : scanner.next bytes = (length, bytes.take length) := by
        dsimp only [scanner]
        rw [hdecision]
      refine ⟨fun upTo' => ?_, ?_, ?_⟩
      · rw [check_char hdecision]
        exact hall _
      · rw [lossy_decided hne (by rw [hdecision]; simp), hnext, hlossy, List.take_append_drop]
      · rw [held_decided hne (by rw [hdecision]; simp), hnext, hheld]
  | invalid upTo bytes length hdecision =>
      rw [check_invalid hdecision] at h
      cases h
  | incomplete upTo bytes hne hdecision =>
      rw [check_incomplete hne hdecision] at h
      cases h

/-- Validation goes on behind valid bytes. -/
theorem check_append {upTo : Nat} {a : List UInt8} (h : check upTo a = none) (b : List UInt8) :
    check upTo (a ++ b) = check (upTo + a.length) b := by
  induction upTo, a using check_induction with
  | nil => rw [List.nil_append, List.length_nil, Nat.add_zero]
  | char upTo a length hdecision hpos hle ih =>
      rw [check_char hdecision] at h
      rw [check_char (by rw [decision_append (by rw [hdecision]; simp), hdecision]),
        List.drop_append_of_le_length hle, ih h, List.length_drop]
      congr 1
      omega
  | invalid upTo a length hdecision =>
      rw [check_invalid hdecision] at h
      cases h
  | incomplete upTo a hne hdecision =>
      rw [check_incomplete hne hdecision] at h
      cases h

/-- A character on its own is valid. -/
theorem check_single {length : Nat} {bytes : List UInt8} (h : decision bytes = .char length)
    (hpos : 0 < length) (hle : length ≤ bytes.length) (upTo : Nat) :
    check upTo (bytes.take length) = none := by
  have hne : bytes.take length ≠ [] := by
    rw [Ne, ← List.length_eq_zero_iff, List.length_take]
    omega
  -- the decision about the character sees nothing behind it
  have hwhole : decision (bytes.take length ++ bytes.drop length) = .char length := by
    rw [List.take_append_drop]
    exact h
  have hshort : decision (bytes.take length) ≠ .incomplete := by
    intro hincomplete
    have hlength : (decision (bytes.take length ++ bytes.drop length)).length = some length := by
      rw [hwhole]
      rfl
    rcases decision_longer hne hincomplete hlength with hlonger | hrefused
    · rw [List.length_take] at hlonger
      omega
    · rw [hwhole] at hrefused
      cases hrefused
  rw [decision_append hshort] at hwhole
  rw [check_char hwhole, List.drop_take, Nat.sub_self, List.take_zero, check_nil]

/-- Where bytes end inside of a character, what comes before it is valid. -/
theorem check_unfinished {upTo validUpTo : Nat} {bytes : List UInt8}
    (h : check upTo bytes = some { validUpTo, errorLen := none }) :
    ∃ count ≤ bytes.length, validUpTo = upTo + count ∧ check upTo (bytes.take count) = none ∧
      bytes.drop count ≠ [] ∧ decision (bytes.drop count) = .incomplete := by
  induction upTo, bytes using check_induction with
  | nil =>
      rw [check_nil] at h
      cases h
  | char upTo bytes length hdecision hpos hle ih =>
      rw [check_char hdecision] at h
      obtain ⟨count, hcount, rfl, hvalid, hne, hincomplete⟩ := ih h
      rw [List.length_drop] at hcount
      rw [List.drop_drop] at hne hincomplete
      refine ⟨length + count, by omega, by omega, ?_, hne, hincomplete⟩
      have htake : bytes.take (length + count) =
          bytes.take length ++ (bytes.drop length).take count := List.take_add
      rw [htake, check_append (check_single hdecision hpos hle upTo), List.length_take,
        Nat.min_eq_left hle]
      exact hvalid
  | invalid upTo bytes length hdecision =>
      rw [check_invalid hdecision] at h
      cases h
  | incomplete upTo bytes hne hdecision =>
      rw [check_incomplete hne hdecision] at h
      cases h
      exact ⟨0, Nat.zero_le _, rfl, by simp, by simpa using hne, by simpa using hdecision⟩

/-- What valid bytes begin with is valid, or ends inside of a character. -/
theorem check_begins {upTo : Nat} {a b : List UInt8} (h : check upTo (a ++ b) = none) :
    check upTo a = none ∨ ∃ validUpTo, check upTo a = some { validUpTo, errorLen := none } := by
  induction upTo, a using check_induction with
  | nil => exact .inl (check_nil _)
  | char upTo a length hdecision hpos hle ih =>
      rw [check_char (by rw [decision_append (by rw [hdecision]; simp), hdecision]),
        List.drop_append_of_le_length hle] at h
      rw [check_char hdecision]
      exact ih h
  | invalid upTo a length hdecision =>
      rw [check_invalid (by rw [decision_append (by rw [hdecision]; simp), hdecision])] at h
      cases h
  | incomplete upTo a hne hdecision => exact .inr ⟨upTo, check_incomplete hne hdecision⟩

/-- The bytes are UTF-8. -/
def Valid (bytes : List UInt8) : Prop :=
  check 0 bytes = none

instance (bytes : List UInt8) : Decidable (Valid bytes) :=
  inferInstanceAs (Decidable (_ = _))

theorem Valid.nil : Valid [] :=
  check_nil 0

theorem Valid.append {a b : List UInt8} (ha : Valid a) (hb : Valid b) : Valid (a ++ b) := by
  unfold Valid
  rw [check_append ha]
  exact (check_none hb).1 _

/-- ASCII text is valid. -/
theorem Valid.ascii {bytes : List UInt8} (h : bytes.all (· ≤ 0x7f) = true) : Valid bytes := by
  induction bytes with
  | nil => exact .nil
  | cons byte bytes ih =>
      rw [List.all_cons, Bool.and_eq_true, decide_eq_true_eq] at h
      have hlead : lead byte = some (0, 0x80, 0xbf) := if_pos h.1
      have hdecision : decision (byte :: bytes) = .char 1 := decision_some hlead bytes
      unfold Valid
      rw [check_char hdecision]
      exact (check_none (ih h.2)).1 _

/-- What comes behind valid bytes in valid bytes is valid. -/
theorem Valid.of_append {a b : List UInt8} (h : Valid (a ++ b)) (ha : Valid a) : Valid b := by
  unfold Valid at h
  rw [check_append ha] at h
  exact (check_none h).1 0

theorem Valid.held_append {a : List UInt8} (h : Valid a) (b : List UInt8) :
    held (a ++ b) = held b := by
  rw [Utf8.held_append, (check_none h).2.2, List.nil_append]

/-- What valid bytes begin with is valid when it does not end inside of a character. -/
theorem Valid.of_held {a b : List UInt8} (h : Valid (a ++ b)) (ha : held a = []) : Valid a := by
  rcases check_begins h with hvalid | ⟨validUpTo, hunfinished⟩
  · exact hvalid
  · obtain ⟨count, hcount, -, hvalid, hne, hincomplete⟩ := check_unfinished hunfinished
    have hsplit : held (a.take count ++ a.drop count) = a.drop count := by
      rw [Valid.held_append hvalid, held_incomplete hincomplete]
    rw [List.take_append_drop, ha] at hsplit
    exact absurd hsplit.symm hne

theorem Valid.lossy_eq {bytes : List UInt8} (h : Valid bytes) : lossy bytes = bytes :=
  (check_none h).2.1

/-- The character of valid bytes that a place lies in: where it starts, its length, and that the
    bytes from its start up to the place continue it. -/
theorem Valid.char_at {bytes : List UInt8} (h : Valid bytes) {place : Nat}
    (hplace : place < bytes.length) :
    ∃ start length, start ≤ place ∧ place < start + length ∧ length ≤ 4 ∧
      start + length ≤ bytes.length ∧ Valid (bytes.take start) ∧
      decision (bytes.drop start) = .char length := by
  have hsplit : check 0 (bytes.take place ++ bytes.drop place) = none := by
    rw [List.take_append_drop]
    exact h
  -- the place where the character starts is the end of the valid bytes before the place
  obtain ⟨start, hstart, hvalid, hbehind⟩ : ∃ start ≤ place, Valid (bytes.take start) ∧
      (start = place ∨ (start < place ∧
        decision ((bytes.drop start).take (place - start)) = .incomplete)) := by
    rcases check_begins hsplit with hall | ⟨validUpTo, hunfinished⟩
    · exact ⟨place, Nat.le_refl _, hall, .inl rfl⟩
    · obtain ⟨count, hcount, -, hvalid, hne, hincomplete⟩ := check_unfinished hunfinished
      rw [List.length_take] at hcount
      rw [List.take_take, Nat.min_eq_left (by omega)] at hvalid
      rw [List.drop_take] at hne hincomplete
      refine ⟨count, by omega, hvalid, .inr ⟨?_, hincomplete⟩⟩
      by_contra hge
      rw [show place - count = 0 by omega, List.take_zero] at hne
      exact hne rfl
  have hrest : Valid (bytes.drop start) := by
    refine Valid.of_append (a := bytes.take start) ?_ hvalid
    rw [List.take_append_drop]
    exact h
  have hdropNe : bytes.drop start ≠ [] := by
    rw [Ne, List.drop_eq_nil_iff]
    omega
  cases hdrop : bytes.drop start with
  | nil => exact absurd hdrop hdropNe
  | cons first rest =>
      rw [hdrop] at hrest hbehind
      have hlengths := congrArg List.length hdrop
      rw [List.length_drop, List.length_cons] at hlengths
      cases hdecision : decision (first :: rest) with
      | invalid length =>
          unfold Valid at hrest
          rw [check_invalid hdecision] at hrest
          cases hrest
      | incomplete =>
          unfold Valid at hrest
          rw [check_incomplete (by simp) hdecision] at hrest
          cases hrest
      | char length =>
          obtain ⟨count, rfl, hcount, -⟩ := decision_length (by rw [hdecision]; rfl)
          refine ⟨start, 1 + count, hstart, ?_, (decision_char hdecision).2, by omega, hvalid, ?_⟩
          · rcases hbehind with rfl | ⟨hlt, hincomplete⟩
            · omega
            · have htakeNe : (first :: rest).take (place - start) ≠ [] := by
                rw [Ne, List.take_eq_nil_iff]
                rintro (hzero | hnil)
                · omega
                · cases hnil
              have hlength : (decision ((first :: rest).take (place - start) ++
                  (first :: rest).drop (place - start))).length = some (1 + count) := by
                rw [List.take_append_drop, hdecision]
                rfl
              rcases decision_longer htakeNe hincomplete hlength with hlonger | hrefused
              · rw [List.length_take, List.length_cons] at hlonger
                omega
              · rw [List.take_append_drop, hdecision] at hrefused
                cases hrefused
          · rw [hdrop]
            exact hdecision

/-! ## Boundaries -/

/-- No character lies on both sides of the place. -/
def isBoundary (bytes : List UInt8) (place : Nat) : Bool :=
  place == 0 ||
    match bytes[place]? with
    | none => place == bytes.length
    | some byte => !isContinuation byte

/-- The first boundary from a place on, within some steps. -/
def ceilBoundary (bytes : List UInt8) : Nat → Nat → Nat
  | 0, place => place
  | more + 1, place => if isBoundary bytes place then place else ceilBoundary bytes more (place + 1)

/-- The bytes inside of a character continue it, and a character is valid with what is before it. -/
theorem Valid.char_split {bytes : List UInt8} (h : Valid bytes) {place : Nat}
    (hplace : place < bytes.length) :
    ∃ start length, start ≤ place ∧ place < start + length ∧ length ≤ 4 ∧
      start + length ≤ bytes.length ∧ Valid (bytes.take start) ∧
      Valid (bytes.take (start + length)) ∧ isContinuation (bytes[start]?.getD 0) = false ∧
      ∀ inside, start < inside → inside < start + length →
        isContinuation (bytes[inside]?.getD 0) = true := by
  obtain ⟨start, length, hstart, hend, hlength, hwithin, hbefore, hdecision⟩ := h.char_at hplace
  have hfirstLt : start < bytes.length := by omega
  have hsingle : Valid ((bytes.drop start).take length) :=
    check_single hdecision (by omega) (by rw [List.length_drop]; omega) 0
  rw [List.drop_eq_getElem_cons hfirstLt] at hdecision
  obtain ⟨count, rfl, -, hall⟩ := decision_length (by rw [hdecision]; rfl)
  refine ⟨start, 1 + count, hstart, hend, hlength, hwithin, hbefore, ?_, ?_, ?_⟩
  · rw [List.take_add]
    exact hbefore.append hsingle
  · rw [List.getElem?_eq_getElem hfirstLt]
    exact (decision_char hdecision).1
  · intro inside hlow hhigh
    have hinside : inside < bytes.length := by omega
    rw [List.getElem?_eq_getElem hinside]
    refine hall _ (List.mem_take_iff_getElem.mpr ⟨inside - (start + 1), ?_, ?_⟩)
    · rw [List.length_drop]
      omega
    · rw [List.getElem_drop]
      congr 1
      omega

/-- In valid bytes, the boundaries are where the bytes before are valid. -/
theorem Valid.isBoundary_iff {bytes : List UInt8} (h : Valid bytes) (place : Nat) :
    isBoundary bytes place = true ↔ place ≤ bytes.length ∧ Valid (bytes.take place) := by
  unfold isBoundary
  by_cases hzero : place = 0
  · subst hzero
    simpa using Valid.nil
  · have hne : (place == 0) = false := by simpa using hzero
    rw [hne, Bool.false_or]
    by_cases hlt : place < bytes.length
    · rw [List.getElem?_eq_getElem hlt]
      dsimp only
      obtain ⟨start, length, hstart, hend, -, -, hbefore, -, hfirst, hinside⟩ :=
        h.char_split hlt
      constructor
      · intro hbyte
        -- a byte that continues no character is the first of its own
        have hfound : start = place := by
          by_contra hother
          have hcontinues := hinside place (by omega) hend
          rw [List.getElem?_eq_getElem hlt, Option.getD_some] at hcontinues
          rw [hcontinues] at hbyte
          cases hbyte
        rw [← hfound]
        exact ⟨by omega, hbefore⟩
      · rintro ⟨-, hvalid⟩
        have hrest : Valid (bytes.drop place) := by
          refine Valid.of_append (a := bytes.take place) ?_ hvalid
          rw [List.take_append_drop]
          exact h
        rw [List.drop_eq_getElem_cons hlt] at hrest
        cases hbyte : isContinuation bytes[place] with
        | false => rfl
        | true =>
            unfold Valid at hrest
            rw [check_invalid (decision_continuation hbyte _)] at hrest
            cases hrest
    · rw [List.getElem?_eq_none (by omega)]
      constructor
      · intro hend
        rw [eq_of_beq hend, List.take_length]
        exact ⟨Nat.le_refl _, h⟩
      · rintro ⟨hle, -⟩
        simp only [beq_iff_eq]
        omega

theorem ceilBoundary_eq {bytes : List UInt8} {more place stop : Nat} (hle : place ≤ stop)
    (hmore : stop ≤ place + more) (hstop : isBoundary bytes stop = true)
    (hinside : ∀ inside, place ≤ inside → inside < stop → isBoundary bytes inside = false) :
    ceilBoundary bytes more place = stop := by
  induction more generalizing place with
  | zero => exact Nat.le_antisymm hle hmore
  | succ more ih =>
      unfold ceilBoundary
      by_cases hsame : place = stop
      · rw [hsame, if_pos hstop]
      · rw [hinside place (Nat.le_refl _) (by omega), if_neg (by decide)]
        exact ih (by omega) (by omega) fun inside hlow hhigh => hinside inside (by omega) hhigh

/-- In valid bytes, the next boundary is at most three bytes away. -/
theorem Valid.ceilBoundary {bytes : List UInt8} (h : Valid bytes) {place : Nat}
    (hplace : place ≤ bytes.length) :
    ∃ added ≤ 3, Utf8.ceilBoundary bytes (bytes.length - place) place = place + added ∧
      place + added ≤ bytes.length ∧ Valid (bytes.take (place + added)) := by
  by_cases hend : place = bytes.length
  · refine ⟨0, by omega, ?_, by omega, ?_⟩
    · rw [hend, Nat.sub_self]
      rfl
    · rw [Nat.add_zero, hend, List.take_length]
      exact h
  · obtain ⟨start, length, hstart, hlt, hlength, hwithin, hbefore, hafter, -, hinside⟩ :=
      h.char_split (by omega : place < bytes.length)
    by_cases hfirst : start = place
    · refine ⟨0, by omega, ?_, by omega, ?_⟩
      · refine ceilBoundary_eq (by omega) (by omega) ?_ (by omega)
        rw [Nat.add_zero, h.isBoundary_iff, ← hfirst]
        exact ⟨by omega, hbefore⟩
      · rw [Nat.add_zero, ← hfirst]
        exact hbefore
    · refine ⟨start + length - place, by omega, ?_, by omega, ?_⟩
      · refine ceilBoundary_eq (by omega) (by omega) ?_ ?_
        · rw [show place + (start + length - place) = start + length by omega, h.isBoundary_iff]
          exact ⟨hwithin, hafter⟩
        · intro inside hlow hhigh
          have hcontinues := hinside inside (by omega) (by omega)
          have hlt : inside < bytes.length := by omega
          have hne : (inside == 0) = false := by
            rw [beq_eq_false_iff_ne]
            omega
          rw [List.getElem?_eq_getElem hlt, Option.getD_some] at hcontinues
          unfold isBoundary
          rw [hne, Bool.false_or, List.getElem?_eq_getElem hlt]
          dsimp only
          rw [hcontinues]
          rfl
      · rw [show place + (start + length - place) = start + length by omega]
        exact hafter

/-- Text: bytes that are UTF-8. -/
@[ext]
structure Str where
  bytes : List UInt8
  valid : Valid bytes
deriving DecidableEq

namespace Str

/-- The text before the place is whole. -/
def Boundary (text : Str) (place : Nat) : Prop :=
  place ≤ text.bytes.length ∧ Valid (text.bytes.take place)

variable {text : Str} {place size : Nat}

theorem boundary_iff : text.Boundary place ↔ isBoundary text.bytes place = true :=
  (text.valid.isBoundary_iff place).symm

theorem boundary_zero (text : Str) : text.Boundary 0 :=
  ⟨Nat.zero_le _, Valid.nil⟩

/-- The text between two boundaries is whole. -/
theorem Boundary.between (h : text.Boundary place) (hnext : text.Boundary (place + size)) :
    Valid ((text.bytes.drop place).take size) := by
  have htaken := hnext.2
  rw [List.take_add] at htaken
  exact Valid.of_append htaken h.2

end Str

end Utf8
