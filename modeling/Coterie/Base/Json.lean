/-
  Coterie.Base.Json

  JSON values as a program sees them after parsing.  The fields of an object stand in key order,
  each key once, which is the form a sorted map gives them; two objects are then the same value
  exactly when their field lists are the same list.  Integers are kept as numbers, and any other
  number as the text that stands for it.
-/

import Mathlib.Logic.Basic

/-- A parsed JSON value. -/
inductive JsonValue where
  | null
  | bool (value : Bool)
  | num (value : Int)
  | float (text : String)
  | str (value : String)
  | arr (items : List JsonValue)
  | obj (fields : List (String × JsonValue))
deriving Repr

namespace JsonValue

mutual

/-- Decide whether two values are the same. -/
def decEq : (v w : JsonValue) → Decidable (v = w)
  | .null, .null => isTrue rfl
  | .bool a, .bool b =>
      if h : a = b then isTrue (by rw [h]) else isFalse (by intro e; cases e; exact h rfl)
  | .num a, .num b =>
      if h : a = b then isTrue (by rw [h]) else isFalse (by intro e; cases e; exact h rfl)
  | .float a, .float b =>
      if h : a = b then isTrue (by rw [h]) else isFalse (by intro e; cases e; exact h rfl)
  | .str a, .str b =>
      if h : a = b then isTrue (by rw [h]) else isFalse (by intro e; cases e; exact h rfl)
  | .arr a, .arr b =>
      match decEqItems a b with
      | isTrue h => isTrue (by rw [h])
      | isFalse h => isFalse (by intro e; cases e; exact h rfl)
  | .obj a, .obj b =>
      match decEqFields a b with
      | isTrue h => isTrue (by rw [h])
      | isFalse h => isFalse (by intro e; cases e; exact h rfl)
  | .null, .bool _ | .null, .num _ | .null, .float _ | .null, .str _ | .null, .arr _ | .null, .obj _
  | .bool _, .null | .bool _, .num _ | .bool _, .float _
  | .bool _, .str _ | .bool _, .arr _ | .bool _, .obj _
  | .num _, .null | .num _, .bool _ | .num _, .float _
  | .num _, .str _ | .num _, .arr _ | .num _, .obj _
  | .float _, .null | .float _, .bool _ | .float _, .num _
  | .float _, .str _ | .float _, .arr _ | .float _, .obj _
  | .str _, .null | .str _, .bool _ | .str _, .num _
  | .str _, .float _ | .str _, .arr _ | .str _, .obj _
  | .arr _, .null | .arr _, .bool _ | .arr _, .num _
  | .arr _, .float _ | .arr _, .str _ | .arr _, .obj _
  | .obj _, .null | .obj _, .bool _ | .obj _, .num _
  | .obj _, .float _ | .obj _, .str _ | .obj _, .arr _ =>
      isFalse (by intro e; cases e)

/-- Decide whether two lists of items are the same. -/
def decEqItems : (vs ws : List JsonValue) → Decidable (vs = ws)
  | [], [] => isTrue rfl
  | [], _ :: _ => isFalse (by intro e; cases e)
  | _ :: _, [] => isFalse (by intro e; cases e)
  | v :: vs, w :: ws =>
      match decEq v w, decEqItems vs ws with
      | isTrue h₁, isTrue h₂ => isTrue (by rw [h₁, h₂])
      | isFalse h, _ => isFalse (by intro e; cases e; exact h rfl)
      | _, isFalse h => isFalse (by intro e; cases e; exact h rfl)

/-- Decide whether two lists of fields are the same. -/
def decEqFields : (fs gs : List (String × JsonValue)) → Decidable (fs = gs)
  | [], [] => isTrue rfl
  | [], _ :: _ => isFalse (by intro e; cases e)
  | _ :: _, [] => isFalse (by intro e; cases e)
  | (k, v) :: fs, (l, w) :: gs =>
      if hk : k = l then
        match decEq v w, decEqFields fs gs with
        | isTrue h₁, isTrue h₂ => isTrue (by rw [hk, h₁, h₂])
        | isFalse h, _ => isFalse (by intro e; cases e; exact h rfl)
        | _, isFalse h => isFalse (by intro e; cases e; exact h rfl)
      else isFalse (by intro e; cases e; exact hk rfl)

end

instance : DecidableEq JsonValue := decEq

instance : Inhabited JsonValue := ⟨.null⟩

/-- The value of a field; `none` when the value is no object or has no such field. -/
def get? (value : JsonValue) (key : String) : Option JsonValue :=
  match value with
  | .obj fields => fields.lookup key
  | _ => none

/-- A text value. -/
def asStr? : JsonValue → Option String
  | .str text => some text
  | _ => none

/-- An integer value. -/
def asInt? : JsonValue → Option Int
  | .num value => some value
  | _ => none

/-- A truth value. -/
def asBool? : JsonValue → Option Bool
  | .bool value => some value
  | _ => none

/-- A text field. -/
def text? (value : JsonValue) (key : String) : Option String :=
  (value.get? key).bind asStr?

/-- A text field that stands for a value of some type. -/
def named? {α : Type} (value : JsonValue) (key : String) (ofStr? : String → Option α) : Option α :=
  (value.text? key).bind ofStr?

/-- Follow a path of field names. -/
def path? (value : JsonValue) : List String → Option JsonValue
  | [] => some value
  | key :: keys => (value.get? key).bind fun field => field.path? keys

/-- A path is followed part by part. -/
theorem path?_append (value : JsonValue) (first rest : List String) :
    value.path? (first ++ rest) = (value.path? first).bind fun field => field.path? rest := by
  induction first generalizing value with
  | nil => rfl
  | cons key keys ih =>
      rw [List.cons_append, path?, path?, Option.bind_assoc]
      exact congrArg _ (funext fun field => ih field)

/-- Put a field at its place in key order, replacing an earlier value. -/
def insertField (key : String) (field : JsonValue) :
    List (String × JsonValue) → List (String × JsonValue)
  | [] => [(key, field)]
  | (k, v) :: rest =>
      if key < k then (key, field) :: (k, v) :: rest
      else if key = k then (key, field) :: rest
      else (k, v) :: insertField key field rest

/-- Set a field; `null` becomes an object.  Any other value that is no object has no fields to
    set. -/
def setField? (value : JsonValue) (key : String) (field : JsonValue) : Option JsonValue :=
  match value with
  | .obj fields => some (.obj (insertField key field fields))
  | .null => some (.obj [(key, field)])
  | _ => none

theorem lookup_insertField (key : String) (field : JsonValue) (fields : List (String × JsonValue)) :
    (insertField key field fields).lookup key = some field := by
  induction fields with
  | nil => simp [insertField]
  | cons entry rest ih =>
      obtain ⟨k, v⟩ := entry
      unfold insertField
      by_cases hlt : key < k
      · rw [if_pos hlt]
        simp
      · rw [if_neg hlt]
        by_cases heq : key = k
        · rw [if_pos heq]
          simp
        · rw [if_neg heq, List.lookup_cons, beq_false_of_ne heq]
          exact ih

theorem lookup_insertField_of_ne {key other : String} (hne : other ≠ key) (field : JsonValue)
    (fields : List (String × JsonValue)) :
    (insertField key field fields).lookup other = fields.lookup other := by
  induction fields with
  | nil => simp [insertField, List.lookup_cons, beq_false_of_ne hne]
  | cons entry rest ih =>
      obtain ⟨k, v⟩ := entry
      unfold insertField
      by_cases hlt : key < k
      · rw [if_pos hlt, List.lookup_cons, beq_false_of_ne hne]
      · rw [if_neg hlt]
        by_cases heq : key = k
        · subst heq
          rw [if_pos rfl, List.lookup_cons, List.lookup_cons, beq_false_of_ne hne]
        · rw [if_neg heq, List.lookup_cons, List.lookup_cons, ih]

/-- A field that was set is read back. -/
theorem get?_setField? {value updated : JsonValue} {key : String} {field : JsonValue}
    (h : value.setField? key field = some updated) : updated.get? key = some field := by
  cases value with
  | obj fields =>
      cases h
      exact lookup_insertField key field fields
  | null =>
      cases h
      simp [get?]
  | _ => cases h

/-- Setting a field leaves the other fields of an object alone. -/
theorem get?_setField?_of_ne {value updated : JsonValue} {key other : String} {field : JsonValue}
    (hne : other ≠ key) (h : value.setField? key field = some updated) :
    updated.get? other = value.get? other := by
  cases value with
  | obj fields =>
      cases h
      exact lookup_insertField_of_ne hne field fields
  | null =>
      cases h
      simp [get?, List.lookup_cons, beq_false_of_ne hne]
  | _ => cases h

/-- An optional value, with `null` for nothing. -/
def ofOption (f : α → JsonValue) : Option α → JsonValue
  | some a => f a
  | none => .null

end JsonValue
