/-
  Coterie.Base.Shape

  Reading a JSON value as a document of a known shape, the way a derived reader does.  A record
  stands as an object, its fields by name, or as an array, its fields by place.  What is read has
  every field under its name, with its default where the value leaves it out
  (`lookup_readNamed_cons`).
-/

import Coterie.Base.Json
import Mathlib.Algebra.Group.Int.Defs
import Mathlib.Data.List.Basic

/-- What a reader expects. -/
inductive Shape where
  | any
  | text
  /-- A text with a canonical form. -/
  | named (canonical : String → Option String)
  | variant (names : List String)
  | natural (bits : Nat)
  | boolean
  | object
  | list (item : Shape)
  | optional (shape : Shape) (otherwise : JsonValue)
  /-- A closed record has no other fields.  A field may have a default, which stands for it also
      behind the last item of an array. -/
  | record (closed : Bool) (fields : List (String × Shape × Option JsonValue))

namespace Shape

/-- What stands for a field that an object leaves out. -/
def missing? : Shape → Option JsonValue
  | .optional _ otherwise => some otherwise
  | _ => none

mutual

/-- Read a value. -/
def read : Shape → JsonValue → Option JsonValue
  | .any, value => some value
  | .text, value => value.asStr?.map .str
  | .named canonical, value => (value.asStr?.bind canonical).map .str
  | .variant names, value =>
      match value with
      | .str name => if names.contains name = true then some (.str name) else none
      | .obj [(name, .null)] => if names.contains name = true then some (.str name) else none
      | _ => none
  | .natural bits, value =>
      match value with
      | .num number => if 0 ≤ number ∧ number < 2 ^ bits then some (.num number) else none
      | _ => none
  | .boolean, value => value.asBool?.map .bool
  | .object, value =>
      match value with
      | .obj fields => some (.obj fields)
      | _ => none
  | .list item, value =>
      match value with
      | .arr values => (values.mapM fun value => read item value).map .arr
      | _ => none
  | .optional shape otherwise, value =>
      match value with
      | .null => some otherwise
      | value => read shape value
  | .record closed fields, value =>
      match value with
      | .obj entries =>
          if closed = true ∧ ∃ entry ∈ entries, entry.1 ∉ fields.map (·.1) then none
          else (readNamed fields entries).map .obj
      | .arr items => (readPlaced fields items).map .obj
      | _ => none

/-- Read the fields of an object. -/
def readNamed : List (String × Shape × Option JsonValue) → List (String × JsonValue) →
    Option (List (String × JsonValue))
  | [], _ => some []
  | (name, shape, absent) :: fields, entries =>
      (match entries.lookup name with
        | some value => read shape value
        | none => absent.or shape.missing?).bind fun value =>
          (readNamed fields entries).map fun rest => JsonValue.insertField name value rest

/-- Read the items of an array as fields. -/
def readPlaced : List (String × Shape × Option JsonValue) → List JsonValue →
    Option (List (String × JsonValue))
  | [], [] => some []
  | [], _ :: _ => none
  | (name, _, absent) :: fields, [] =>
      absent.bind fun value =>
        (readPlaced fields []).map fun rest => JsonValue.insertField name value rest
  | (name, shape, _) :: fields, item :: items =>
      (read shape item).bind fun value =>
        (readPlaced fields items).map fun rest => JsonValue.insertField name value rest

end

/-! ## Fields of an object -/

section Named

variable {fields : List (String × Shape × Option JsonValue)}
  {entries document : List (String × JsonValue)}

/-- Only the names of fields are read. -/
theorem lookup_readNamed_of_notMem (h : readNamed fields entries = some document) {name : String}
    (hname : name ∉ fields.map (·.1)) : document.lookup name = none := by
  induction fields generalizing document with
  | nil =>
      cases h
      rfl
  | cons field fields ih =>
      obtain ⟨other, shape, absent⟩ := field
      rw [readNamed] at h
      obtain ⟨value, -, h⟩ := Option.bind_eq_some_iff.mp h
      obtain ⟨rest, hrest, rfl⟩ := Option.map_eq_some_iff.mp h
      rw [List.map_cons, List.mem_cons, not_or] at hname
      rw [JsonValue.lookup_insertField_of_ne hname.1]
      exact ih hrest hname.2

/-- The first field is read as its shape says. -/
theorem lookup_readNamed_cons {name : String} {shape : Shape} {absent : Option JsonValue}
    (h : readNamed ((name, shape, absent) :: fields) entries = some document) :
    ∃ value, document.lookup name = some value ∧
      (match entries.lookup name with
        | some value => read shape value
        | none => absent.or shape.missing?) = some value := by
  rw [readNamed] at h
  obtain ⟨value, hvalue, h⟩ := Option.bind_eq_some_iff.mp h
  obtain ⟨rest, -, rfl⟩ := Option.map_eq_some_iff.mp h
  exact ⟨value, JsonValue.lookup_insertField _ _ _, hvalue⟩

end Named

/-- A closed record accepts no other fields. -/
theorem mem_of_read_record {fields : List (String × Shape × Option JsonValue)}
    {entries : List (String × JsonValue)} {document : JsonValue}
    (h : read (.record true fields) (.obj entries) = some document) :
    (∀ entry ∈ entries, entry.1 ∈ fields.map (·.1)) ∧
      ∃ found, readNamed fields entries = some found ∧ document = .obj found := by
  rw [read] at h
  split at h
  · cases h
  · next hclosed =>
      obtain ⟨found, hfound, rfl⟩ := Option.map_eq_some_iff.mp h
      refine ⟨fun entry hentry => ?_, found, hfound, rfl⟩
      by_contra hother
      exact hclosed ⟨rfl, entry, hentry, hother⟩

end Shape
