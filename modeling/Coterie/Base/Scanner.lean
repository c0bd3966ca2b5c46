/-
  Coterie.Base.Scanner

  Scanners over a stream.  A `Scanner` looks at the input that remains and either holds it back,
  since more input could change the decision, or consumes a part of it and emits something.  When
  decisions are stable under more input, scanning in chunks emits what one scan of the whole does
  (`Scanner.feed_flatten`), however the input is cut.

  The second half is the text that such a scanner is to produce when it conceals words:
  `Redacts words marker input output` replaces, from left to right, an unfinished word at the end of
  the input and the longest word at each place by a marker.  No word is left in the output unless it
  can overlap the marker (`Redacts.conceals`).
-/

import Mathlib.Data.List.Infix
import Mathlib.Data.Set.Defs

universe u v

/-! ## Scanning in chunks -/

/-- When to wait for more input, and otherwise how much to consume and what to emit. -/
structure Scanner (α : Type u) (β : Type v) where
  hold : List α → Bool
  next : List α → Nat × List β
  progress : ∀ input, input ≠ [] → hold input = false → 0 < (next input).1

namespace Scanner

variable {α : Type u} {β : Type v} (s : Scanner α β)

/-- Scan until the input is used up or held back: what is emitted, and what is left. -/
def scan (input : List α) : List β × List α :=
  if h : input = [] ∨ s.hold input = true then ([], input)
  else
    let rest := scan (input.drop (s.next input).1)
    ((s.next input).2 ++ rest.1, rest.2)
termination_by input.length
decreasing_by
  rw [not_or, Bool.not_eq_true] at h
  have hprogress := s.progress input h.1 h.2
  have hlength := List.length_pos_iff.mpr h.1
  rw [List.length_drop]
  omega

theorem scan_stop {input : List α} (h : input = [] ∨ s.hold input = true) :
    s.scan input = ([], input) := by
  rw [scan, dif_pos h]

theorem scan_step {input : List α} (hne : input ≠ []) (hgo : s.hold input = false) :
    s.scan input = ((s.next input).2 ++ (s.scan (input.drop (s.next input).1)).1,
      (s.scan (input.drop (s.next input).1)).2) := by
  rw [scan, dif_neg (by simp [hne, hgo])]

/-- What is left is empty or held back. -/
theorem scan_left (input : List α) :
    (s.scan input).2 = [] ∨ s.hold (s.scan input).2 = true := by
  induction hn : input.length using Nat.strongRecOn generalizing input with
  | ind n ih =>
      by_cases hstop : input = [] ∨ s.hold input = true
      · rw [s.scan_stop hstop]
        exact hstop
      · rw [not_or, Bool.not_eq_true] at hstop
        have hprogress := s.progress input hstop.1 hstop.2
        have hlength := List.length_pos_iff.mpr hstop.1
        rw [s.scan_step hstop.1 hstop.2]
        exact ih _ (by rw [List.length_drop]; omega) _ rfl

/-- A decision that was taken stays the same when more input comes. -/
structure Stable (s : Scanner α β) : Prop where
  hold : ∀ input more, input ≠ [] → s.hold input = false → s.hold (input ++ more) = false
  next : ∀ input more, input ≠ [] → s.hold input = false → s.next (input ++ more) = s.next input
  within : ∀ input, input ≠ [] → s.hold input = false → (s.next input).1 ≤ input.length

variable {s}

/-- Scanning a part first, and what it leaves together with the rest. -/
theorem Stable.scan_append (h : s.Stable) (input more : List α) :
    s.scan (input ++ more) = ((s.scan input).1 ++ (s.scan ((s.scan input).2 ++ more)).1,
      (s.scan ((s.scan input).2 ++ more)).2) := by
  induction hn : input.length using Nat.strongRecOn generalizing input with
  | ind n ih =>
      by_cases hstop : input = [] ∨ s.hold input = true
      · rw [s.scan_stop hstop]
        rfl
      · rw [not_or, Bool.not_eq_true] at hstop
        obtain ⟨hne, hgo⟩ := hstop
        have hprogress := s.progress input hne hgo
        have hlength := List.length_pos_iff.mpr hne
        have hwithin := h.within input hne hgo
        have hne' : input ++ more ≠ [] := List.append_ne_nil_of_left_ne_nil hne more
        rw [s.scan_step hne' (h.hold input more hne hgo), h.next input more hne hgo,
          List.drop_append_of_le_length hwithin,
          ih _ (by rw [List.length_drop]; omega) (input.drop (s.next input).1) rfl,
          s.scan_step hne hgo, List.append_assoc]

/-- Feed one chunk after what was held back. -/
def feed (s : Scanner α β) (state : List β × List α) (chunk : List α) : List β × List α :=
  let scanned := s.scan (state.2 ++ chunk)
  (state.1 ++ scanned.1, scanned.2)

/-- However the input is cut, feeding the pieces emits and leaves what one scan does. -/
theorem Stable.feed_flatten (h : s.Stable) (chunks : List (List α)) (emitted : List β)
    {held : List α} (hheld : held = [] ∨ s.hold held = true) :
    chunks.foldl s.feed (emitted, held) =
      (emitted ++ (s.scan (held ++ chunks.flatten)).1, (s.scan (held ++ chunks.flatten)).2) := by
  induction chunks generalizing emitted held with
  | nil => rw [List.foldl_nil, List.flatten_nil, List.append_nil, s.scan_stop hheld,
      List.append_nil]
  | cons chunk chunks ih =>
      rw [List.foldl_cons, List.flatten_cons, ← List.append_assoc, h.scan_append (held ++ chunk)]
      dsimp only [feed]
      rw [ih _ (s.scan_left _), List.append_assoc]

end Scanner

/-! ## Concealed words -/

section Redacts

variable {α : Type u}

/-- The input is the unfinished beginning of a word. -/
def Unfinished (words : Set (List α)) (input : List α) : Prop :=
  ∃ word ∈ words, input <+: word ∧ input.length < word.length

/-- The output for an input in which every unfinished word at the end and every longest word, from
    left to right, is replaced by the marker. -/
inductive Redacts (words : Set (List α)) (marker : List α) : List α → List α → Prop where
  | done : Redacts words marker [] []
  | unfinished {input : List α} (hne : input ≠ []) (hopen : Unfinished words input) :
      Redacts words marker input marker
  | word {word rest output : List α} (hne : word ++ rest ≠ [])
      (hclosed : ¬ Unfinished words (word ++ rest)) (hword : word ∈ words)
      (hlongest : ∀ other ∈ words, other <+: word ++ rest → other.length ≤ word.length)
      (hrest : Redacts words marker rest output) :
      Redacts words marker (word ++ rest) (marker ++ output)
  | copy {a : α} {rest output : List α} (hclosed : ¬ Unfinished words (a :: rest))
      (hnone : ∀ other ∈ words, ¬ other <+: a :: rest) (hrest : Redacts words marker rest output) :
      Redacts words marker (a :: rest) (a :: output)

/-- Some part of the word, possibly all of it, can lie on some part of the marker. -/
def Overlaps (word marker : List α) : Prop :=
  word <:+: marker ∨ marker <:+: word ∨ (∃ part ∈ marker.tails, part ≠ [] ∧ part <+: word) ∨
    ∃ part ∈ word.tails, part ≠ [] ∧ part <+: marker

instance [DecidableEq α] (word marker : List α) : Decidable (Overlaps word marker) :=
  inferInstanceAs (Decidable (_ ∨ _ ∨ _ ∨ _))

namespace Redacts

variable {words : Set (List α)} {marker : List α}

/-- There is one output for an input. -/
theorem unique {input output output' : List α} (h : Redacts words marker input output)
    (h' : Redacts words marker input output') : output = output' := by
  induction h generalizing output' with
  | done =>
      generalize hinput : ([] : List α) = input at h'
      cases h' with
      | done => rfl
      | unfinished hne => exact absurd hinput.symm hne
      | word hne => exact absurd hinput.symm hne
      | copy => cases hinput
  | @unfinished input hne hopen =>
      cases h' with
      | done => exact absurd rfl hne
      | unfinished => rfl
      | word _ hclosed => exact absurd hopen hclosed
      | copy hclosed => exact absurd hopen hclosed
  | @word word rest output hne hclosed hword hlongest hrest ih =>
      generalize hinput : word ++ rest = input at h' hne hclosed
      cases h' with
      | done => exact absurd rfl hne
      | unfinished _ hopen => exact absurd hopen hclosed
      | @word word' rest' output' _ _ hword' hlongest' hrest' =>
          -- both words are longest at this place
          have hle := hlongest word' hword' (by rw [hinput]; exact List.prefix_append word' rest')
          have hge := hlongest' word hword (by rw [← hinput]; exact List.prefix_append word rest)
          obtain ⟨rfl, rfl⟩ := List.append_inj hinput (by omega)
          rw [ih hrest']
      | copy _ hnone =>
          exact absurd (by rw [← hinput]; exact List.prefix_append word rest) (hnone word hword)
  | @copy a rest output hclosed hnone hrest ih =>
      generalize hinput : a :: rest = input at h' hclosed
      cases h' with
      | done => cases hinput
      | unfinished _ hopen => exact absurd hopen hclosed
      | @word word' rest' output' _ _ hword' hlongest' hrest' =>
          exact absurd (by rw [hinput]; exact List.prefix_append word' rest') (hnone word' hword')
      | copy _ _ hrest' =>
          obtain ⟨rfl, rfl⟩ := List.cons.inj hinput
          rw [ih hrest']

/-- No tail of a text can begin or be begun by the marker. -/
def MarkerFree (marker part : List α) : Prop :=
  ∀ tail ∈ part.tails, tail ≠ [] → ¬ tail <+: marker ∧ ¬ marker <+: tail

theorem MarkerFree.tail {a : α} {part : List α} (h : MarkerFree marker (a :: part)) :
    MarkerFree marker part := by
  intro tail htail
  refine h tail ((List.mem_tails _ _).mpr ?_)
  exact ((List.mem_tails _ _).mp htail).trans (List.suffix_cons a part)

/-- Where the marker begins, only an empty text is free of it. -/
theorem MarkerFree.eq_nil {part output : List α} (h : MarkerFree marker part)
    (hpart : part <+: marker ++ output) : part = [] := by
  by_contra hne
  have hself := h part ((List.mem_tails _ _).mpr (List.suffix_refl part)) hne
  rcases List.prefix_or_prefix_of_prefix hpart (List.prefix_append marker output) with hle | hle
  · exact hself.1 hle
  · exact hself.2 hle

/-- What the output begins with, free of the marker, is what the input begins with. -/
theorem prefix_input {input output part : List α} (h : Redacts words marker input output)
    (hpart : part <+: output) (hfree : MarkerFree marker part) : part <+: input := by
  induction h generalizing part with
  | done => exact hpart
  | unfinished =>
      have hmarker : part <+: marker ++ [] := by rwa [List.append_nil]
      rw [hfree.eq_nil hmarker]
      exact List.nil_prefix
  | word =>
      rw [hfree.eq_nil hpart]
      exact List.nil_prefix
  | @copy a rest output hclosed hnone hrest ih =>
      cases part with
      | nil => exact List.nil_prefix
      | cons b part =>
          obtain ⟨rfl, hrestPart⟩ := List.cons_prefix_cons.mp hpart
          exact List.cons_prefix_cons.mpr ⟨rfl, ih hrestPart hfree.tail⟩

/-- A word that cannot overlap the marker is nowhere in the output. -/
theorem conceals {input output word : List α} (h : Redacts words marker input output)
    (hword : word ∈ words) (hne : word ≠ []) (hfree : ¬ Overlaps word marker) :
    ¬ word <:+: output := by
  obtain ⟨hinside, haround, hafter, hbefore⟩ : ¬ word <:+: marker ∧ ¬ marker <:+: word ∧
      (∀ part ∈ marker.tails, part ≠ [] → ¬ part <+: word) ∧
      ∀ part ∈ word.tails, part ≠ [] → ¬ part <+: marker := by
    simpa [Overlaps] using hfree
  have htails : MarkerFree marker word := by
    intro tail htail hne
    refine ⟨hbefore tail htail hne, fun hle => haround ?_⟩
    exact hle.isInfix.trans ((List.mem_tails _ _).mp htail).isInfix
  induction h with
  | done =>
      intro hin
      exact hne (List.infix_nil.mp hin)
  | unfinished => exact hinside
  | @word _ rest output _ _ _ _ hrest ih =>
      intro hin
      rcases List.infix_append_iff.mp hin with hleft | hright | ⟨left, right, rfl, hleft, hright⟩
      · exact hinside hleft
      · exact ih hright
      · -- the word begins in the marker and ends behind it
        by_cases hempty : left = []
        · subst hempty
          exact ih hright.isInfix
        · exact hafter left ((List.mem_tails _ _).mpr hleft) hempty (List.prefix_append left right)
  | @copy a rest output hclosed hnone hrest ih =>
      intro hin
      rcases List.infix_cons_iff.mp hin with hbegins | hlater
      · exact hnone word hword ((Redacts.copy hclosed hnone hrest).prefix_input hbegins htails)
      · exact ih hlater

end Redacts

end Redacts
