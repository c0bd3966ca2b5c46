/-
  Coterie.Model.Ulid

  The typed identifiers of the program (`id.rs`): a prefix for each type and a ULID, which is 128
  bits written as 26 digits of the Crockford alphabet.  The ULID library reads the digits in either
  case and need not notice that they stand for more than 128 bits; the program does, by comparing
  what it has read with its canonical form.

  The text of `Model.Ids` is this canonical form.
-/

import Coterie.Base.Numeral
import Coterie.Model.Ids

namespace Coterie

namespace Ulid

/-! ## Digits -/

/-- The letter of a digit. -/
def letter (digit : Fin 32) : Char :=
  Id.alphabet.getD digit.val '0'

/-- The digit of a letter, in either case. -/
def digit? (c : Char) : Option (Fin 32) :=
  (List.finRange 32).find? fun digit => letter digit = c.toUpper

/-- The canonical text of a number. -/
def canonical (ulid : BitVec 128) : List Char :=
  (Numeral.digits 32 26 ulid.toNat).map letter

/-- The digits of a text, when it is one of digits. -/
def digits? (encoded : List Char) : Option (List (Fin 32)) :=
  encoded.mapM digit?

theorem digit?_letter (digit : Fin 32) : digit? (letter digit) = some digit := by
  have h : ∀ digit : Fin 32, digit? (letter digit) = some digit := by decide
  exact h digit

theorem letter_lt_iff (a b : Fin 32) : letter a < letter b ↔ a < b := by
  have h : ∀ a b : Fin 32, letter a < letter b ↔ a < b := by decide
  exact h a b

theorem toUpper_letter (digit : Fin 32) : (letter digit).toUpper = letter digit := by
  have h : ∀ digit : Fin 32, (letter digit).toUpper = letter digit := by decide
  exact h digit

/-- A letter is that of a digit in either case. -/
theorem digit?_eq_some {c : Char} {digit : Fin 32} :
    digit? c = some digit ↔ c.toUpper = letter digit := by
  constructor
  · intro h
    have hfound := List.find?_some h
    rw [decide_eq_true_eq] at hfound
    exact hfound.symm
  · intro h
    have hsame : digit? c = digit? (letter digit) := by
      unfold digit?
      rw [h, toUpper_letter]
    rw [hsame, digit?_letter]

/-- The digits of a text are those of a number when its capitals are the canonical text. -/
theorem digits?_eq_some {encoded : List Char} {digits : List (Fin 32)} :
    digits? encoded = some digits ↔ encoded.map Char.toUpper = digits.map letter := by
  induction encoded generalizing digits with
  | nil =>
      cases digits with
      | nil => exact iff_of_true rfl rfl
      | cons digit digits => exact iff_of_false (by intro h; cases h) (by intro h; cases h)
  | cons c encoded ih =>
      rw [digits?, List.mapM_cons]
      cases digits with
      | nil =>
          refine iff_of_false ?_ (by intro h; cases h)
          intro h
          obtain ⟨digit, -, h⟩ := Option.bind_eq_some_iff.mp h
          obtain ⟨rest, -, h⟩ := Option.bind_eq_some_iff.mp h
          cases h
      | cons digit digits =>
          rw [List.map_cons, List.map_cons, List.cons.injEq, ← digit?_eq_some, ← ih]
          constructor
          · intro h
            obtain ⟨first, hfirst, h⟩ := Option.bind_eq_some_iff.mp h
            obtain ⟨rest, hrest, h⟩ := Option.bind_eq_some_iff.mp h
            cases h
            exact ⟨hfirst, hrest⟩
          · rintro ⟨hfirst, hrest⟩
            exact Option.bind_eq_some_iff.mpr ⟨digit, hfirst,
              Option.bind_eq_some_iff.mpr ⟨digits, hrest, rfl⟩⟩

/-! ## The library -/

/-- Why a text is no ULID. -/
inductive DecodeError where
  | invalidLength
  | invalidChar
deriving DecidableEq, Repr

/-- The ULID library: it writes the canonical text, and reads the digits of every number that has
    128 bits. -/
structure Library where
  decode : String → Except DecodeError (BitVec 128)
  encode : BitVec 128 → String
  encodes : ∀ ulid, encode ulid = .ofList (canonical ulid)
  decodes : ∀ encoded digits, digits? encoded.toList = some digits → digits.length = 26 →
    Numeral.value digits < 2 ^ 128 → decode encoded = .ok (.ofNat 128 (Numeral.value digits))

/-- A library that forgets what is above 128 bits. -/
def wrapping : Library where
  decode encoded :=
    if encoded.toList.length ≠ 26 then .error .invalidLength
    else
      match digits? encoded.toList with
      | some digits => .ok (.ofNat 128 (Numeral.value digits))
      | none => .error .invalidChar
  encode ulid := .ofList (canonical ulid)
  encodes _ := rfl
  decodes := by
    intro encoded digits hdigits hlength _
    have hsame : encoded.toList.length = 26 := by
      have hcapitals := congrArg List.length (digits?_eq_some.mp hdigits)
      rw [List.length_map, List.length_map, hlength] at hcapitals
      exact hcapitals
    rw [if_neg (not_not_intro hsame), hdigits]

end Ulid

/-! ## Identifiers -/

/-- Why a text is no identifier of a type. -/
inductive ParseIdError where
  | invalidPrefix (expected : String)
  | invalidUlid (source : Ulid.DecodeError)
  | nonCanonicalUlid
deriving DecidableEq, Repr

/-- An identifier of a type. -/
structure TypedId (kind : IdKind) where
  ulid : BitVec 128
deriving DecidableEq, Repr

namespace TypedId

variable (library : Ulid.Library) {kind : IdKind}

/-- The texts are the same but for the case of their letters. -/
def eqIgnoreAsciiCase (a b : String) : Bool :=
  a.toList.map Char.toLower == b.toList.map Char.toLower

/-- Read an identifier. -/
def fromStr (input : String) : Except ParseIdError (TypedId kind) :=
  match Text.stripPrefix? (kind.tag ++ "-") input with
  | none => .error (.invalidPrefix (kind.tag ++ "-"))
  | some encoded =>
      match library.decode encoded with
      | .error source => .error (.invalidUlid source)
      | .ok ulid =>
          if eqIgnoreAsciiCase (library.encode ulid) encoded then .ok ⟨ulid⟩
          else .error .nonCanonicalUlid

/-- The text of an identifier. -/
def display (id : TypedId kind) : String :=
  kind.tag ++ "-" ++ library.encode id.ulid

/-- The column value of an identifier, which is its JSON form too. -/
def toSql (id : TypedId kind) : String :=
  id.display library

/-- Read a column value. -/
def columnResult (value : String) : Option (TypedId kind) :=
  (fromStr library value).toOption

variable {library}

/-- The canonical text as a list of digits. -/
theorem digits?_of_canonical {encoded : List Char} {ulid : BitVec 128}
    (h : encoded.map Char.toUpper = Ulid.canonical ulid) :
    Ulid.digits? encoded = some (Numeral.digits 32 26 ulid.toNat) :=
  Ulid.digits?_eq_some.mpr h

theorem eqIgnoreAsciiCase_encode {encoded : String} {ulid : BitVec 128} :
    eqIgnoreAsciiCase (library.encode ulid) encoded = true ↔
      encoded.toList.map Char.toUpper = Ulid.canonical ulid := by
  have hcapitals : (Ulid.canonical ulid).map Char.toUpper = Ulid.canonical ulid := by
    rw [Ulid.canonical, List.map_map]
    exact List.map_congr_left fun digit _ => Ulid.toUpper_letter digit
  rw [eqIgnoreAsciiCase, library.encodes, String.toList_ofList, beq_iff_eq,
    Text.map_toLower_eq_iff, hcapitals]
  exact eq_comm

/-- What is read: the prefix of the type, and a text whose capitals are the canonical text. -/
theorem fromStr_eq_ok {input : String} {id : TypedId kind} :
    fromStr library input = .ok id ↔
      ∃ encoded, input = kind.tag ++ "-" ++ encoded ∧
        encoded.toList.map Char.toUpper = Ulid.canonical id.ulid := by
  unfold fromStr
  constructor
  · intro h
    cases hstrip : Text.stripPrefix? (kind.tag ++ "-") input with
    | none =>
        rw [hstrip] at h
        cases h
    | some encoded =>
        rw [hstrip] at h
        dsimp only at h
        cases hdecode : library.decode encoded with
        | error source =>
            rw [hdecode] at h
            cases h
        | ok ulid =>
            rw [hdecode] at h
            dsimp only at h
            by_cases hsame : eqIgnoreAsciiCase (library.encode ulid) encoded = true
            · rw [if_pos hsame] at h
              cases h
              exact ⟨encoded, Text.stripPrefix?_eq_some hstrip, eqIgnoreAsciiCase_encode.mp hsame⟩
            · rw [if_neg hsame] at h
              cases h
  · rintro ⟨encoded, rfl, hcanonical⟩
    have hlt : id.ulid.toNat < 2 ^ 128 := id.ulid.isLt
    have hvalue : Numeral.value (Numeral.digits 32 26 id.ulid.toNat) = id.ulid.toNat :=
      Numeral.value_digits (by omega)
    have hdecode := library.decodes encoded _ (digits?_of_canonical hcanonical)
      (Numeral.length_digits _ _) (by rw [hvalue]; exact hlt)
    rw [hvalue, BitVec.ofNat_toNat, BitVec.setWidth_eq] at hdecode
    rw [Text.stripPrefix?_append]
    dsimp only
    rw [hdecode]
    dsimp only
    rw [if_pos (eqIgnoreAsciiCase_encode.mpr hcanonical)]

theorem start_inj {start a b : String} : start ++ a = start ++ b ↔ a = b := by
  rw [← String.toList_inj, String.toList_append, String.toList_append, List.append_cancel_left_eq,
    String.toList_inj]

theorem start_lt_iff {start a b : String} : start ++ a < start ++ b ↔ a < b := by
  rw [String.lt_iff, String.toList_append, String.toList_append, Text.append_lt_append_iff,
    String.lt_iff]

/-- A text of digits is the canonical text of what it stands for, when that has 128 bits. -/
theorem canonical_of_digits {encoded : List Char} {digits : List (Fin 32)}
    (hdigits : Ulid.digits? encoded = some digits) (hlength : digits.length = 26)
    (hvalue : Numeral.value digits < 2 ^ 128) :
    encoded.map Char.toUpper = Ulid.canonical (.ofNat 128 (Numeral.value digits)) := by
  rw [Ulid.digits?_eq_some.mp hdigits, Ulid.canonical, BitVec.toNat_ofNat, Nat.mod_eq_of_lt hvalue,
    ← hlength, Numeral.digits_value]

/-- Texts are ordered as the lists of their digits. -/
theorem map_letter_lt_iff {a b : List (Fin 32)} :
    a.map Ulid.letter < b.map Ulid.letter ↔ a < b := by
  induction a generalizing b with
  | nil =>
      cases b with
      | nil => exact iff_of_false (List.lt_irrefl _) (List.lt_irrefl _)
      | cons digit b => exact iff_of_true List.Lex.nil List.Lex.nil
  | cons digit a ih =>
      cases b with
      | nil => exact iff_of_false (List.not_lt_nil _) (List.not_lt_nil _)
      | cons digit' b =>
          rw [List.map_cons, List.map_cons, List.cons_lt_cons_iff, List.cons_lt_cons_iff, ih,
            Ulid.letter_lt_iff]
          have hinj : Ulid.letter digit = Ulid.letter digit' ↔ digit = digit' := by
            constructor
            · intro h
              have hsame := Ulid.digit?_letter digit
              rw [h, Ulid.digit?_letter, Option.some.injEq] at hsame
              exact hsame.symm
            · exact congrArg _
          rw [hinj]

theorem canonical_lt_iff {ulid ulid' : BitVec 128} :
    Ulid.canonical ulid < Ulid.canonical ulid' ↔ ulid < ulid' := by
  have hbound : ∀ ulid : BitVec 128, ulid.toNat < 32 ^ 26 := by
    intro ulid
    have hlt := ulid.isLt
    omega
  rw [Ulid.canonical, Ulid.canonical, map_letter_lt_iff, ← Numeral.value_lt_iff (by simp),
    Numeral.value_digits (hbound ulid), Numeral.value_digits (hbound ulid'), BitVec.lt_def]

theorem canonical_inj {ulid ulid' : BitVec 128} :
    Ulid.canonical ulid = Ulid.canonical ulid' ↔ ulid = ulid' := by
  constructor
  · intro h
    have hless : ¬ ulid < ulid' := by
      rw [← canonical_lt_iff, h]
      exact List.lt_irrefl _
    have hmore : ¬ ulid' < ulid := by
      rw [← canonical_lt_iff, h]
      exact List.lt_irrefl _
    rw [BitVec.lt_def] at hless hmore
    exact BitVec.eq_of_toNat_eq (by omega)
  · exact congrArg _

/-- The canonical text in capitals is itself. -/
theorem canonical_capitals (ulid : BitVec 128) :
    (Ulid.canonical ulid).map Char.toUpper = Ulid.canonical ulid := by
  rw [Ulid.canonical, List.map_map]
  exact List.map_congr_left fun digit _ => Ulid.toUpper_letter digit

theorem display_eq (id : TypedId kind) :
    id.display library = kind.tag ++ "-" ++ .ofList (Ulid.canonical id.ulid) := by
  rw [display, library.encodes]

/-- An identifier is read back from its text. -/
theorem fromStr_display (id : TypedId kind) : fromStr library (id.display library) = .ok id := by
  rw [fromStr_eq_ok, display_eq]
  refine ⟨.ofList (Ulid.canonical id.ulid), rfl, ?_⟩
  rw [String.toList_ofList]
  exact canonical_capitals id.ulid

/-- Identifiers are ordered as their texts. -/
theorem display_lt_iff {a b : TypedId kind} :
    a.display library < b.display library ↔ a.ulid < b.ulid := by
  rw [display_eq, display_eq, start_lt_iff, String.lt_iff, String.toList_ofList,
    String.toList_ofList, canonical_lt_iff]

/-- The canonical texts are those of `Model.Ids`. -/
theorem isUlid_iff {encoded : List Char} :
    Id.isUlid encoded = true ↔ ∃ ulid, encoded = Ulid.canonical ulid := by
  have hfirst : ∀ digit : Fin 32, Ulid.letter digit ≤ '7' ↔ digit.val < 8 := by decide
  constructor
  · intro h
    have hmem := Id.mem_alphabet h
    have hlength := Id.length_of_isUlid h
    obtain ⟨digits, rfl⟩ : ∃ digits : List (Fin 32), encoded = digits.map Ulid.letter := by
      have hletters : ∀ c ∈ Id.alphabet, ∃ digit, Ulid.letter digit = c := by
        have hall : Id.alphabet.all (fun c => (Ulid.digit? c).any (Ulid.letter · == c)) = true := by
          decide
        intro c hc
        have hdigit := List.all_eq_true.mp hall c hc
        rw [Option.any_eq_true] at hdigit
        obtain ⟨digit, -, hsame⟩ := hdigit
        exact ⟨digit, by simpa using hsame⟩
      clear h hlength
      induction encoded with
      | nil => exact ⟨[], rfl⟩
      | cons c encoded ih =>
          obtain ⟨digit, rfl⟩ := hletters c (hmem c List.mem_cons_self)
          obtain ⟨digits, rfl⟩ := ih fun d hd => hmem d (List.mem_cons_of_mem _ hd)
          exact ⟨digit :: digits, rfl⟩
    rw [List.length_map] at hlength
    cases digits with
    | nil => cases hlength
    | cons digit digits =>
        have hrest : digits.length = 25 := Nat.succ.inj hlength
        have hdigit : digit.val < 8 := by
          rw [← hfirst]
          simp only [Id.isUlid, Bool.and_eq_true] at h
          simpa using h.2
        have hvalue : Numeral.value (digit :: digits) < 2 ^ 128 := by
          have hlt := Numeral.value_lt digits
          rw [hrest] at hlt
          rw [Numeral.value, hrest]
          omega
        refine ⟨.ofNat 128 (Numeral.value (digit :: digits)), ?_⟩
        rw [Ulid.canonical, BitVec.toNat_ofNat, Nat.mod_eq_of_lt hvalue, ← hlength,
          Numeral.digits_value]
  · rintro ⟨ulid, rfl⟩
    have hletter : ∀ digit : Fin 32, Id.alphabet.contains (Ulid.letter digit) = true := by decide
    have hlt : ulid.toNat / 32 ^ 25 < 8 := by
      have hbound := ulid.isLt
      omega
    have hhead : Ulid.letter (Fin.ofNat 32 (ulid.toNat / 32 ^ 25)) ≤ '7' := by
      rw [hfirst, Fin.val_ofNat, Nat.mod_eq_of_lt (by omega)]
      exact hlt
    simp only [Id.isUlid, Bool.and_eq_true]
    refine ⟨⟨?_, ?_⟩, ?_⟩
    · rw [Ulid.canonical, List.length_map, Numeral.length_digits]
      rfl
    · rw [List.all_eq_true]
      intro c hc
      obtain ⟨digit, -, rfl⟩ := List.mem_map.mp hc
      exact hletter digit
    · rw [Ulid.canonical, Numeral.digits, List.map_cons, List.head?_cons, Option.any_some]
      exact decide_eq_true hhead

/-- The text of `Model.Ids` is that of an identifier. -/
theorem ofText?_eq_some {text : String} {id : TypedId kind} :
    Id.ofText? text = some (⟨id.display library⟩ : Id kind) ↔
      fromStr library text = .ok id := by
  rw [fromStr_eq_ok, display_eq, Id.ofText?]
  constructor
  · intro h
    obtain ⟨encoded, hstrip, h⟩ := Option.bind_eq_some_iff.mp h
    dsimp only at h
    split at h
    · have htext := congrArg Id.text (Option.some.inj h)
      dsimp only at htext
      rw [Id.render, start_inj, String.ofList_inj] at htext
      exact ⟨encoded, Text.stripPrefix?_eq_some hstrip, htext⟩
    · cases h
  · rintro ⟨encoded, rfl, hcanonical⟩
    rw [Text.stripPrefix?_append, Option.bind_some]
    dsimp only
    rw [hcanonical, if_pos (isUlid_iff.mpr ⟨_, rfl⟩)]
    rfl

end TypedId

/-- Identifiers have one grammar.  A text is read exactly when it is the prefix of the type and 26
    digits, in either case, of a number of 128 bits; it is read as this number, whose text is the
    canonical one; what is displayed is read back; two texts are read as the same identifier exactly
    when they have the same canonical form; and identifiers are ordered as their texts. -/
theorem TypedId.grammar (library : Ulid.Library) (kind : IdKind) :
    (∀ input : String, (∃ id : TypedId kind, fromStr library input = .ok id) ↔
      ∃ encoded digits, input = kind.tag ++ "-" ++ encoded ∧
        Ulid.digits? encoded.toList = some digits ∧ digits.length = 26 ∧
        Numeral.value digits < 2 ^ 128) ∧
    (∀ (encoded : String) (id : TypedId kind),
      fromStr library (kind.tag ++ "-" ++ encoded) = .ok id →
        id.display library = kind.tag ++ "-" ++ .ofList (encoded.toList.map Char.toUpper)) ∧
    (∀ id : TypedId kind, fromStr library (id.display library) = .ok id ∧
      columnResult library (id.toSql library) = some id) ∧
    (∀ (encoded encoded' : String) (id id' : TypedId kind),
      fromStr library (kind.tag ++ "-" ++ encoded) = .ok id →
      fromStr library (kind.tag ++ "-" ++ encoded') = .ok id' →
        (id = id' ↔ encoded.toList.map Char.toUpper = encoded'.toList.map Char.toUpper)) ∧
    (∀ a b : TypedId kind, (a.display library < b.display library ↔ a.ulid < b.ulid) ∧
      (a.display library = b.display library ↔ a = b)) := by
  have hread : ∀ {encoded : String} {id : TypedId kind},
      fromStr library (kind.tag ++ "-" ++ encoded) = .ok id →
        encoded.toList.map Char.toUpper = Ulid.canonical id.ulid := by
    intro encoded id h
    obtain ⟨encoded', hinput, hcanonical⟩ := fromStr_eq_ok.mp h
    rw [start_inj] at hinput
    rw [hinput]
    exact hcanonical
  have hinj : ∀ {a b : TypedId kind}, Ulid.canonical a.ulid = Ulid.canonical b.ulid ↔ a = b := by
    rintro ⟨a⟩ ⟨b⟩
    rw [canonical_inj, TypedId.mk.injEq]
  refine ⟨?_, ?_, ?_, ?_, ?_⟩
  · intro input
    constructor
    · rintro ⟨id, h⟩
      obtain ⟨encoded, hinput, hcanonical⟩ := fromStr_eq_ok.mp h
      have hlt : id.ulid.toNat < 2 ^ 128 := id.ulid.isLt
      refine ⟨encoded, _, hinput, digits?_of_canonical hcanonical, Numeral.length_digits _ _, ?_⟩
      rw [Numeral.value_digits (by omega)]
      exact hlt
    · rintro ⟨encoded, digits, hinput, hdigits, hlength, hvalue⟩
      exact ⟨⟨.ofNat 128 (Numeral.value digits)⟩, fromStr_eq_ok.mpr
        ⟨encoded, hinput, canonical_of_digits hdigits hlength hvalue⟩⟩
  · intro encoded id h
    rw [display_eq, hread h]
  · intro id
    refine ⟨fromStr_display id, ?_⟩
    rw [columnResult, toSql, fromStr_display]
    rfl
  · intro encoded encoded' id id' h h'
    rw [hread h, hread h', hinj]
  · intro a b
    refine ⟨display_lt_iff, ?_⟩
    rw [display_eq, display_eq, start_inj, ← hinj, String.ofList_inj]

/-- The identifier of a task is read in small letters and displayed in capital ones; with a first
    digit above `7` its number has more than 128 bits. -/
theorem TypedId.grammar_task :
    (∃ id : TypedId .task,
      fromStr Ulid.wrapping "ct-01arz3ndektsv4rrffq69g5fav" = .ok id ∧
        id.display Ulid.wrapping = "ct-01ARZ3NDEKTSV4RRFFQ69G5FAV" ∧
        fromStr Ulid.wrapping "ct-01ARZ3NDEKTSV4RRFFQ69G5FAV" = .ok id) ∧
    ¬ ∃ id : TypedId .task, fromStr Ulid.wrapping "ct-81ARZ3NDEKTSV4RRFFQ69G5FAV" = .ok id := by
  obtain ⟨hread, hcanonical, hdisplayed, -⟩ := TypedId.grammar Ulid.wrapping .task
  have hsmall : "ct-01arz3ndektsv4rrffq69g5fav" =
      IdKind.task.tag ++ "-" ++ "01arz3ndektsv4rrffq69g5fav" := by
    decide +kernel
  have hlarge : "ct-81ARZ3NDEKTSV4RRFFQ69G5FAV" =
      IdKind.task.tag ++ "-" ++ "81ARZ3NDEKTSV4RRFFQ69G5FAV" := by
    decide +kernel
  constructor
  · obtain ⟨id, hid⟩ := (hread "ct-01arz3ndektsv4rrffq69g5fav").mpr
      ⟨_, _, hsmall, rfl, by decide +kernel, by decide +kernel⟩
    have hdisplay : id.display Ulid.wrapping = "ct-01ARZ3NDEKTSV4RRFFQ69G5FAV" :=
      (hcanonical _ _ (hsmall ▸ hid)).trans (by decide +kernel)
    exact ⟨id, hid, hdisplay, hdisplay ▸ (hdisplayed id).1⟩
  · rw [hread]
    rintro ⟨encoded, digits, hinput, hdigits, -, hvalue⟩
    rw [hlarge, start_inj] at hinput
    subst hinput
    revert hvalue
    rw [← Option.some.inj hdigits]
    decide +kernel

end Coterie
