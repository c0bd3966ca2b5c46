/-
  Coterie.Protocol.Context

  Bounded parts of responses (`protocol/context.rs`, `protocol/admission.rs`): a preview is what a
  text begins with, up to 512 bytes and never in the middle of a character.  The JSON text of a
  preview is bounded whatever the text is (`TextPreview.size_toJson_le`).
-/

import Coterie.Base.JsonText
import Coterie.Model.Types

namespace Coterie

/-! ## Numbers on the wire -/

/-- A count, which is a 64-bit number in the program. -/
def wireCount (count : Nat) : JsonValue :=
  .num (count % 2 ^ 64 : Nat)

theorem size_wireCount_le (count : Nat) : (wireCount count).size ≤ 21 := by
  refine JsonValue.size_num_le (by omega) ?_
  have hlt : count % 2 ^ 64 < 2 ^ 64 := Nat.mod_lt _ (by omega)
  rw [Int.natAbs_natCast]
  omega

/-! ## Previews -/

def previewBytes : Nat := 512

/-- The longest beginning of a text that takes at most some bytes. -/
def floorPart : Nat → List Char → List Char
  | _, [] => []
  | budget, c :: rest =>
      if c.utf8Size ≤ budget then c :: floorPart (budget - c.utf8Size) rest else []

/-- A lossless prefix, explicitly distinguished from the complete stored text. -/
structure TextPreview where
  text : String
  totalBytes : Nat
  truncated : Bool
deriving DecidableEq, Repr

namespace TextPreview

def new (text : String) : TextPreview where
  text := .ofList (floorPart previewBytes text.toList)
  totalBytes := JsonValue.utf8Bytes text.toList
  truncated := decide (JsonValue.utf8Bytes (floorPart previewBytes text.toList) ≠
    JsonValue.utf8Bytes text.toList)

def toJson (preview : TextPreview) : JsonValue :=
  .obj [("text", .str preview.text), ("total_bytes", wireCount preview.totalBytes),
    ("truncated", .bool preview.truncated)]

theorem utf8Bytes_floorPart_le (budget : Nat) (text : List Char) :
    JsonValue.utf8Bytes (floorPart budget text) ≤ budget := by
  induction text generalizing budget with
  | nil => exact Nat.zero_le budget
  | cons c text ih =>
      rw [floorPart]
      split
      · next hfits =>
          have hrest := ih (budget - c.utf8Size)
          rw [JsonValue.utf8Bytes_cons]
          omega
      · exact Nat.zero_le budget

/-- A preview takes little more than six bytes for each of its 512. -/
theorem size_toJson_le (text : String) : (new text).toJson.size ≤ 3138 := by
  have htext := JsonValue.size_str_le (new text).text
  have hbytes := utf8Bytes_floorPart_le previewBytes text.toList
  have htotal := size_wireCount_le (new text).totalBytes
  have htruncated := JsonValue.size_bool_le (new text).truncated
  have hkeys : (JsonValue.str "text").size = 6 ∧ (JsonValue.str "total_bytes").size = 13 ∧
      (JsonValue.str "truncated").size = 11 := by
    decide
  rw [show (new text).text.toList = floorPart previewBytes text.toList from String.toList_ofList]
    at htext
  rw [previewBytes] at hbytes htext
  refine (JsonValue.size_obj_le _).trans ?_
  simp only [List.map_cons, List.map_nil, List.sum_cons, List.sum_nil, hkeys]
  omega

end TextPreview

end Coterie
