/-
  Coterie.Base.JsonText

  The compact text of a JSON value: `JsonValue.render`, and its size in UTF-8.  A text takes at most
  six bytes for each byte it encodes (`size_str_le`).
-/

import Mathlib.Data.Nat.Digits.Defs
import Coterie.Base.Json

namespace JsonValue

/-! ## Rendering -/

/-- A character inside of a text. -/
def escape (c : Char) : List Char :=
  if c = '"' then ['\\', '"']
  else if c = '\\' then ['\\', '\\']
  else if c.toNat = 0x08 then ['\\', 'b']
  else if c = '\t' then ['\\', 't']
  else if c = '\n' then ['\\', 'n']
  else if c.toNat = 0x0c then ['\\', 'f']
  else if c = '\r' then ['\\', 'r']
  else if c.toNat < 0x20 then
    ['\\', 'u', '0', '0', Nat.digitChar (c.toNat / 16), Nat.digitChar (c.toNat % 16)]
  else [c]

def renderText (text : List Char) : List Char :=
  '"' :: (text.flatMap escape ++ ['"'])

def renderNum (value : Int) : List Char :=
  if value < 0 then '-' :: Nat.toDigits 10 value.natAbs else Nat.toDigits 10 value.natAbs

mutual

/-- The compact text of a value. -/
def render : JsonValue → List Char
  | .null => ['n', 'u', 'l', 'l']
  | .bool true => ['t', 'r', 'u', 'e']
  | .bool false => ['f', 'a', 'l', 's', 'e']
  | .num value => renderNum value
  | .float text => text.toList
  | .str text => renderText text.toList
  | .arr items => '[' :: renderItems items
  | .obj fields => '{' :: renderFields fields

/-- The items of an array, and its end. -/
def renderItems : List JsonValue → List Char
  | [] => [']']
  | [item] => render item ++ [']']
  | item :: items => render item ++ ',' :: renderItems items

/-- The fields of an object, and its end. -/
def renderFields : List (String × JsonValue) → List Char
  | [] => ['}']
  | [(key, value)] => renderText key.toList ++ ':' :: (render value ++ ['}'])
  | (key, value) :: fields =>
      renderText key.toList ++ ':' :: (render value ++ ',' :: renderFields fields)

end

/-! ## Sizes -/

/-- How many bytes a text takes. -/
def utf8Bytes (text : List Char) : Nat :=
  (text.map Char.utf8Size).sum

@[simp]
theorem utf8Bytes_nil : utf8Bytes [] = 0 := rfl

@[simp]
theorem utf8Bytes_cons (c : Char) (text : List Char) :
    utf8Bytes (c :: text) = c.utf8Size + utf8Bytes text := by
  rw [utf8Bytes, List.map_cons, List.sum_cons]
  rfl

@[simp]
theorem utf8Bytes_append (a b : List Char) : utf8Bytes (a ++ b) = utf8Bytes a + utf8Bytes b := by
  rw [utf8Bytes, List.map_append, List.sum_append]
  rfl

/-- The size of a value's text. -/
def size (value : JsonValue) : Nat :=
  utf8Bytes value.render

theorem utf8Size_digitChar {n : Nat} (h : n < 16) : (Nat.digitChar n).utf8Size = 1 := by
  have hall : ∀ n : Fin 16, (Nat.digitChar n.val).utf8Size = 1 := by decide
  exact hall ⟨n, h⟩

/-- An escaped character takes at most six times the bytes that it takes itself. -/
theorem utf8Bytes_escape_le (c : Char) : utf8Bytes (escape c) ≤ 6 * c.utf8Size := by
  have hpos := Char.utf8Size_pos c
  have hshort : ∀ next : Char, next.utf8Size = 1 → utf8Bytes ['\\', next] ≤ 6 * c.utf8Size := by
    intro next hnext
    have hslash : ('\\' : Char).utf8Size = 1 := rfl
    simp only [utf8Bytes_cons, utf8Bytes_nil]
    omega
  unfold escape
  split_ifs with hquote hslash hback htab hline hfeed hreturn hcontrol
  · exact hshort _ rfl
  · exact hshort _ rfl
  · exact hshort _ rfl
  · exact hshort _ rfl
  · exact hshort _ rfl
  · exact hshort _ rfl
  · exact hshort _ rfl
  · have hhigh := utf8Size_digitChar (by omega : c.toNat / 16 < 16)
    have hlow := utf8Size_digitChar (by omega : c.toNat % 16 < 16)
    have hfirst : utf8Bytes ['\\', 'u', '0', '0'] = 4 := by decide
    rw [show ['\\', 'u', '0', '0', Nat.digitChar (c.toNat / 16), Nat.digitChar (c.toNat % 16)] =
      ['\\', 'u', '0', '0'] ++ [Nat.digitChar (c.toNat / 16), Nat.digitChar (c.toNat % 16)] from rfl,
      utf8Bytes_append, hfirst]
    simp only [utf8Bytes_cons, utf8Bytes_nil]
    omega
  · simp only [utf8Bytes_cons, utf8Bytes_nil]
    omega

theorem utf8Bytes_flatMap_escape_le (text : List Char) :
    utf8Bytes (text.flatMap escape) ≤ 6 * utf8Bytes text := by
  induction text with
  | nil => exact Nat.le_refl _
  | cons c text ih =>
      have hc := utf8Bytes_escape_le c
      rw [List.flatMap_cons, utf8Bytes_append, utf8Bytes_cons]
      omega

theorem utf8Bytes_renderText (text : List Char) :
    utf8Bytes (renderText text) = utf8Bytes (text.flatMap escape) + 2 := by
  have hquote : ('"' : Char).utf8Size = 1 := rfl
  rw [renderText, utf8Bytes_cons, utf8Bytes_append, utf8Bytes_cons, utf8Bytes_nil, hquote]
  omega

/-- A text takes at most six bytes for each of its own, and two quotes. -/
theorem size_str_le (text : String) : (str text).size ≤ 6 * utf8Bytes text.toList + 2 := by
  have hescaped := utf8Bytes_flatMap_escape_le text.toList
  rw [size, render, utf8Bytes_renderText]
  omega

theorem utf8Bytes_eq_length {text : List Char} (h : ∀ c ∈ text, c.utf8Size = 1) :
    utf8Bytes text = text.length := by
  induction text with
  | nil => rfl
  | cons c text ih =>
      rw [utf8Bytes_cons, h c List.mem_cons_self,
        ih fun other hother => h other (List.mem_cons_of_mem _ hother), List.length_cons,
        Nat.add_comm]

theorem utf8Bytes_toDigits (n : Nat) : utf8Bytes (Nat.toDigits 10 n) = (Nat.toDigits 10 n).length := by
  apply utf8Bytes_eq_length
  intro c hc
  have hdigit := Nat.isDigit_of_mem_toDigits (by omega) (by omega) hc
  rw [Char.isDigit_iff_toNat] at hdigit
  have hnine : '9'.toNat = 57 := rfl
  rw [Char.utf8Size_eq_one_iff, UInt32.le_iff_toNat_le]
  show c.toNat ≤ 127
  omega

/-- A number of less than `length` digits. -/
theorem size_num_le {value : Int} {length : Nat} (hpos : 0 < length)
    (h : value.natAbs < 10 ^ length) : (num value).size ≤ length + 1 := by
  have hdigits := (Nat.length_toDigits_le_iff (b := 10) (k := length) (n := value.natAbs)
    (by omega) hpos).mpr h
  have hminus : ('-' : Char).utf8Size = 1 := rfl
  rw [size, render, renderNum]
  split
  · rw [utf8Bytes_cons, utf8Bytes_toDigits, hminus]
    omega
  · rw [utf8Bytes_toDigits]
    omega

theorem size_bool_le (value : Bool) : (bool value).size ≤ 5 := by
  cases value <;> decide

theorem size_null : null.size = 4 := by
  decide

/-- An array takes its brackets, and its items with what stands between them. -/
theorem size_arr_le (items : List JsonValue) :
    (arr items).size ≤ (items.map fun item => item.size + 1).sum + 2 := by
  have hitems : ∀ items : List JsonValue,
      utf8Bytes (renderItems items) ≤ (items.map fun item => item.size + 1).sum + 1 := by
    intro items
    induction items with
    | nil => decide
    | cons item items ih =>
        cases items with
        | nil =>
            have hend : utf8Bytes [']'] = 1 := by decide
            rw [renderItems, utf8Bytes_append, hend, List.map_singleton, List.sum_singleton, size]
            omega
        | cons next items =>
            have hcomma : (',' : Char).utf8Size = 1 := rfl
            rw [renderItems, utf8Bytes_append, utf8Bytes_cons, hcomma, List.map_cons, List.sum_cons,
              size]
            · omega
            · nofun
  have hopen : ('[' : Char).utf8Size = 1 := rfl
  have hle := hitems items
  rw [size, render, utf8Bytes_cons, hopen]
  omega

/-- An object takes its braces, and its fields with what stands between them. -/
theorem size_obj_le (fields : List (String × JsonValue)) :
    (obj fields).size ≤
      (fields.map fun field => (str field.1).size + field.2.size + 2).sum + 2 := by
  have hfields : ∀ fields : List (String × JsonValue), utf8Bytes (renderFields fields) ≤
      (fields.map fun field => (str field.1).size + field.2.size + 2).sum + 1 := by
    intro fields
    have hcolon : (':' : Char).utf8Size = 1 := rfl
    induction fields with
    | nil => decide
    | cons field fields ih =>
        obtain ⟨key, value⟩ := field
        cases fields with
        | nil =>
            have hend : utf8Bytes ['\x7d'] = 1 := by decide
            rw [renderFields, utf8Bytes_append, utf8Bytes_cons, utf8Bytes_append, hend, hcolon,
              List.map_singleton, List.sum_singleton]
            simp only [size, render]
            omega
        | cons next fields =>
            have hcomma : (',' : Char).utf8Size = 1 := rfl
            rw [renderFields, utf8Bytes_append, utf8Bytes_cons, utf8Bytes_append, utf8Bytes_cons,
              hcolon, hcomma, List.map_cons, List.sum_cons]
            · simp only [size, render]
              simp only [size, render] at ih
              omega
            · nofun
  have hopen : ('\x7b' : Char).utf8Size = 1 := rfl
  have hle := hfields fields
  rw [size, render, utf8Bytes_cons, hopen]
  omega

end JsonValue
