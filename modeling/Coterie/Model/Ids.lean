/-
  Coterie.Model.Ids

  The text form of identifiers (`id.rs`): the tag of the table and a ULID.  The ULID is 26 letters
  and digits of the Crockford alphabet that stand for 128 bits, so that the first is at most `7`;
  it is written in capitals and read in either case.
-/

import Coterie.Base.Text
import Coterie.Model.Types

namespace Coterie

/-- What the identifiers of a table start with. -/
def IdKind.tag : IdKind → String
  | .run => "cr"
  | .project => "cp"
  | .agent => "cg"
  | .session => "cs"
  | .task => "ct"
  | .assignment => "ca"
  | .message => "cm"
  | .operation => "co"
  | .event => "ce"

namespace Id

/-- The digits of a ULID. -/
def alphabet : List Char := "0123456789ABCDEFGHJKMNPQRSTVWXYZ".toList

/-- A ULID in canonical form. -/
def isUlid (encoded : List Char) : Bool :=
  encoded.length == 26 && encoded.all (alphabet.contains ·) && encoded.head?.any (· ≤ '7')

/-- The text of an identifier. -/
def render (kind : IdKind) (encoded : List Char) : String :=
  kind.tag ++ "-" ++ .ofList encoded

/-- Read an identifier of one table. -/
def ofText? {kind : IdKind} (text : String) : Option (Id kind) :=
  (Text.stripPrefix? (kind.tag ++ "-") text).bind fun encoded =>
    let capitals := encoded.toList.map Char.toUpper
    if isUlid capitals then some ⟨render kind capitals⟩ else none

/-- The form that every identifier of the program has. -/
def Canonical {kind : IdKind} (id : Id kind) : Prop :=
  ∃ encoded, isUlid encoded = true ∧ id.text = render kind encoded

theorem mem_alphabet {encoded : List Char} (h : isUlid encoded = true) :
    ∀ c ∈ encoded, c ∈ alphabet := by
  intro c hc
  simp only [isUlid, Bool.and_eq_true, List.all_eq_true, List.contains_iff_mem] at h
  exact h.1.2 c hc

theorem toUpper_of_mem_alphabet : ∀ c ∈ alphabet, c.toUpper = c := by
  have h : alphabet.all (fun c => c.toUpper == c) = true := by decide
  simpa using h

theorem utf8Size_of_mem_alphabet : ∀ c ∈ alphabet, c.utf8Size = 1 := by
  have h : alphabet.all (fun c => c.utf8Size == 1) = true := by decide
  simpa using h

theorem length_of_isUlid {encoded : List Char} (h : isUlid encoded = true) :
    encoded.length = 26 := by
  simp only [isUlid, Bool.and_eq_true, beq_iff_eq] at h
  exact h.1.1

/-- An identifier is read back from its text. -/
theorem Canonical.ofText? {kind : IdKind} {id : Id kind} (h : id.Canonical) :
    Id.ofText? id.text = some id := by
  obtain ⟨encoded, hulid, htext⟩ := h
  have hcapitals : encoded.map Char.toUpper = encoded := by
    have hsame : ∀ c ∈ encoded, c.toUpper = c := fun c hc =>
      toUpper_of_mem_alphabet c (mem_alphabet hulid c hc)
    rw [List.map_congr_left hsame, List.map_id'']
    exact fun c => rfl
  have hid : id = ⟨render kind encoded⟩ := by
    rw [← Id.text_inj, htext]
  rw [Id.ofText?, htext, render, Text.stripPrefix?_append, Option.bind_some]
  simp only [String.toList_ofList, hcapitals, hulid, if_true, hid]

/-- What is read is in the form that every identifier has. -/
theorem canonical_iff {kind : IdKind} (id : Id kind) :
    id.Canonical ↔ Id.ofText? id.text = some id := by
  constructor
  · exact Canonical.ofText?
  · intro hread
    obtain ⟨encoded, -, hulid⟩ := Option.bind_eq_some_iff.mp hread
    dsimp only at hulid
    split at hulid
    · next hencoded =>
        have hid := Option.some.inj hulid
        exact ⟨_, hencoded, by rw [← hid]⟩
    · cases hulid

instance {kind : IdKind} : DecidablePred (@Canonical kind) := fun id =>
  decidable_of_iff _ (canonical_iff id).symm

/-- The text of an identifier takes 29 bytes. -/
theorem Canonical.ascii {kind : IdKind} {id : Id kind} (h : id.Canonical) :
    (∀ c ∈ id.text.toList, c.utf8Size = 1) ∧ id.text.toList.length = 29 := by
  obtain ⟨encoded, hulid, htext⟩ := h
  have htag : (∀ c ∈ kind.tag.toList, c.utf8Size = 1) ∧ kind.tag.toList.length = 2 := by
    have hsizes : kind.tag.toList.all (fun c => c.utf8Size == 1) = true := by
      cases kind <;> decide
    exact ⟨by simpa using hsizes, by cases kind <;> decide⟩
  have hdash : ∀ c ∈ "-".toList, c.utf8Size = 1 := by
    intro c hc
    obtain rfl : c = '-' := by simpa using hc
    rfl
  rw [htext, render]
  simp only [String.toList_append, String.toList_ofList, List.length_append, length_of_isUlid hulid,
    htag.2]
  refine ⟨?_, rfl⟩
  intro c hc
  rcases List.mem_append.mp hc with hc | hc
  · rcases List.mem_append.mp hc with hc | hc
    · exact htag.1 c hc
    · exact hdash c hc
  · exact utf8Size_of_mem_alphabet c (mem_alphabet hulid c hc)

end Id

end Coterie
