/-
  Coterie.Base.Window

  Counting in fixed windows.  A limiter that remembers only when its current window opened and how
  many slots it has given out in it starts a new window with the first slot that comes a window's
  length later.  `FixedWindows` is what such a limiter leaves behind, newest slot first, and
  `FixedWindows.countIn_le` is the law over every interval that follows: an interval as long as a
  window reaches into at most two of them, and of the older one it misses the opening slot.
-/

import Mathlib.Data.List.Pairwise

/-- A slot that a limiter gave out, and when the window opened in which it was counted. -/
structure Slot where
  time : Int
  opened : Int
deriving DecidableEq, Repr

namespace Slot

/-- The slots given out in the half-open interval of some length from `start`. -/
def countIn (slots : List Slot) (start length : Int) : Nat :=
  slots.countP fun slot => decide (start ≤ slot.time) && decide (slot.time < start + length)

/-- The slots counted in the window that opened at a time. -/
def countOf (slots : List Slot) (opened : Int) : Nat :=
  slots.countP fun slot => slot.opened == opened

@[simp]
theorem countOf_nil (opened : Int) : countOf [] opened = 0 := rfl

theorem countOf_cons (slot : Slot) (slots : List Slot) (opened : Int) :
    countOf (slot :: slots) opened = countOf slots opened + if slot.opened = opened then 1 else 0 := by
  rw [countOf, List.countP_cons]
  by_cases h : slot.opened = opened
  · simp [h, countOf]
  · simp [h, countOf]

end Slot

/-- Slots, newest first, counted in windows of one length. -/
structure FixedWindows (length : Int) (slots : List Slot) : Prop where
  within : ∀ slot ∈ slots, slot.opened ≤ slot.time ∧ slot.time < slot.opened + length
  spaced : slots.Pairwise fun newer older =>
    older.opened = newer.opened ∨ older.opened + length ≤ newer.opened
  opening : ∀ slot ∈ slots, ∃ first ∈ slots, first.time = slot.opened ∧ first.opened = slot.opened

namespace FixedWindows

variable {length : Int} {slots : List Slot}

theorem nil : FixedWindows length [] where
  within _ h := by cases h
  spaced := .nil
  opening _ h := by cases h

/-- The newest slot is in the newest window. -/
theorem opened_le_head {latest slot : Slot} {older : List Slot} (hlength : 0 < length)
    (h : FixedWindows length (latest :: older)) (hslot : slot ∈ latest :: older) :
    slot.opened ≤ latest.opened := by
  rcases List.mem_cons.mp hslot with rfl | hold
  · exact Int.le_refl _
  · rcases (List.pairwise_cons.mp h.spaced).1 slot hold with heq | hle
    · omega
    · omega

/-- A slot in the window of the latest one. -/
theorem push {latest : Slot} {older : List Slot} {time : Int}
    (h : FixedWindows length (latest :: older)) (hfrom : latest.opened ≤ time)
    (hto : time < latest.opened + length) :
    FixedWindows length (⟨time, latest.opened⟩ :: latest :: older) where
  within slot hslot := by
    rcases List.mem_cons.mp hslot with rfl | hold
    · exact ⟨hfrom, hto⟩
    · exact h.within slot hold
  spaced := by
    refine List.pairwise_cons.mpr ⟨fun slot hslot => ?_, h.spaced⟩
    rcases List.mem_cons.mp hslot with rfl | hold
    · exact .inl rfl
    · exact (List.pairwise_cons.mp h.spaced).1 slot hold
  opening slot hslot := by
    have hfirst : ∀ slot ∈ latest :: older, ∃ first ∈ ⟨time, latest.opened⟩ :: latest :: older,
        first.time = slot.opened ∧ first.opened = slot.opened := by
      intro slot hslot
      obtain ⟨first, hmem, htime⟩ := h.opening slot hslot
      exact ⟨first, List.mem_cons_of_mem _ hmem, htime⟩
    rcases List.mem_cons.mp hslot with rfl | hold
    · exact hfirst latest List.mem_cons_self
    · exact hfirst slot hold

/-- A slot that opens a window, not before the latest window is over. -/
theorem push_opening {time : Int} (hlength : 0 < length) (h : FixedWindows length slots)
    (hover : ∀ slot ∈ slots, slot.opened + length ≤ time) :
    FixedWindows length (⟨time, time⟩ :: slots) where
  within slot hslot := by
    rcases List.mem_cons.mp hslot with rfl | hold
    · exact ⟨Int.le_refl time, by dsimp only; omega⟩
    · exact h.within slot hold
  spaced := List.pairwise_cons.mpr ⟨fun slot hslot => .inr (hover slot hslot), h.spaced⟩
  opening slot hslot := by
    rcases List.mem_cons.mp hslot with rfl | hold
    · exact ⟨_, List.mem_cons_self, rfl, rfl⟩
    · obtain ⟨first, hmem, htime⟩ := h.opening slot hold
      exact ⟨first, List.mem_cons_of_mem _ hmem, htime⟩

/-- Two windows are the same or at least a window's length apart. -/
theorem apart (h : FixedWindows length slots) {a b : Slot} (ha : a ∈ slots) (hb : b ∈ slots) :
    a.opened = b.opened ∨ a.opened + length ≤ b.opened ∨ b.opened + length ≤ a.opened := by
  let Apart : Slot → Slot → Prop := fun a b =>
    a.opened = b.opened ∨ a.opened + length ≤ b.opened ∨ b.opened + length ≤ a.opened
  have hsymm : Std.Symm Apart := by
    refine ⟨fun a b hpair => ?_⟩
    rcases hpair with heq | hle | hle
    · exact .inl heq.symm
    · exact .inr (.inr hle)
    · exact .inr (.inl hle)
  have hpairs : slots.Pairwise Apart := by
    refine h.spaced.imp fun hpair => ?_
    rcases hpair with heq | hle
    · exact .inl heq.symm
    · exact .inr (.inr hle)
  exact hpairs.forall_of_forall (fun _ _ => .inl rfl) ha hb

/-- An interval that starts after a window opened misses a slot of that window. -/
theorem countP_lt_countOf (h : FixedWindows length slots) {slot : Slot} (hslot : slot ∈ slots)
    {p : Slot → Bool} (hp : ∀ s ∈ slots, p s = true → s.opened = slot.opened)
    (hmiss : ∀ s ∈ slots, p s = true → s.time ≠ slot.opened) :
    slots.countP p + 1 ≤ Slot.countOf slots slot.opened := by
  obtain ⟨first, hfirst, htime, hopened⟩ := h.opening slot hslot
  have hsplit := List.countP_eq_countP_filter_add slots (fun s => s.opened == slot.opened) p
  have hall : (slots.filter p).countP (fun s => s.opened == slot.opened) = slots.countP p := by
    rw [List.countP_eq_length_filter (p := p), List.countP_eq_length]
    intro s hs
    rw [List.mem_filter] at hs
    exact beq_iff_eq.mpr (hp s hs.1 hs.2)
  have hrest : 0 < (slots.filter fun s => !p s).countP (fun s => s.opened == slot.opened) := by
    rw [List.countP_pos_iff]
    refine ⟨first, List.mem_filter.mpr ⟨hfirst, ?_⟩, beq_iff_eq.mpr hopened⟩
    cases hkept : p first with
    | false => rfl
    | true => exact absurd htime (hmiss first hfirst hkept)
  rw [Slot.countOf, hsplit, hall]
  omega

/-- The law over every interval: when a window holds at most `full` slots, and a window that was
    followed by another one less than that, then an interval of a window's length holds at most
    `full` slots, or twice as many less two. -/
theorem countIn_le (hlength : 0 < length) (h : FixedWindows length slots) {full : Nat}
    (hfull : ∀ slot ∈ slots, Slot.countOf slots slot.opened ≤ full)
    (hclosed : ∀ slot ∈ slots, (∃ later ∈ slots, slot.opened < later.opened) →
      Slot.countOf slots slot.opened + 1 ≤ full) (start : Int) :
    Slot.countIn slots start length ≤ max full (2 * full - 2) := by
  let inside : Slot → Bool := fun slot =>
    decide (start ≤ slot.time) && decide (slot.time < start + length)
  have hinside : ∀ slot, inside slot = true ↔ start ≤ slot.time ∧ slot.time < start + length := by
    intro slot
    simp only [inside, Bool.and_eq_true, decide_eq_true_eq]
  cases hslots : slots.filter inside with
  | nil =>
      have hnone : Slot.countIn slots start length = 0 := by
        rw [Slot.countIn, List.countP_eq_length_filter]
        exact congrArg List.length hslots
      omega
  | cons latest rest =>
      have hlatest : latest ∈ slots ∧ inside latest = true := by
        rw [← List.mem_filter, hslots]
        exact List.mem_cons_self
      have hlatestIn := (hinside latest).mp hlatest.2
      have hsorted : (slots.filter inside).Pairwise fun newer older =>
          older.opened = newer.opened ∨ older.opened + length ≤ newer.opened :=
        h.spaced.filter _
      -- inside the interval, every slot is of the latest window or of one a length before it
      have hsplit : ∀ slot ∈ slots, inside slot = true →
          slot.opened = latest.opened ∨ slot.opened + length ≤ latest.opened := by
        intro slot hslot hin
        have hmem : slot ∈ latest :: rest := by
          rw [← hslots]
          exact List.mem_filter.mpr ⟨hslot, hin⟩
        rcases List.mem_cons.mp hmem with rfl | hold
        · exact .inl rfl
        · rw [hslots] at hsorted
          exact (List.pairwise_cons.mp hsorted).1 slot hold
      have hcount := List.countP_eq_countP_filter_add slots inside
        (fun slot => slot.opened == latest.opened)
      have hcurrent : (slots.filter fun slot => slot.opened == latest.opened).countP inside ≤
          Slot.countOf slots latest.opened := by
        have hlength := List.countP_le_length (p := inside)
          (l := slots.filter fun slot => slot.opened == latest.opened)
        rwa [← List.countP_eq_length_filter] at hlength
      have hearlier : (slots.filter fun slot => !(slot.opened == latest.opened)).countP inside =
          slots.countP fun slot => inside slot && !(slot.opened == latest.opened) :=
        List.countP_filter ..
      have hbound := hfull latest hlatest.1
      by_cases hmore : ∃ slot ∈ slots, inside slot = true ∧ slot.opened ≠ latest.opened
      · obtain ⟨slot, hslot, hin, hne⟩ := hmore
        have hslotIn := (hinside slot).mp hin
        have hbefore : slot.opened + length ≤ latest.opened :=
          (hsplit slot hslot hin).resolve_left hne
        have hslotWithin := h.within slot hslot
        have hlatestWithin := h.within latest hlatest.1
        have hpart : slots.countP (fun s => inside s && !(s.opened == latest.opened)) + 1 ≤
            Slot.countOf slots slot.opened := by
          refine h.countP_lt_countOf hslot (fun s hs hs' => ?_) fun s hs hs' => ?_
          · rw [Bool.and_eq_true, hinside] at hs'
            have hsne : s.opened ≠ latest.opened := by simpa using hs'.2
            have hsbefore := (hsplit s hs ((hinside s).mpr hs'.1)).resolve_left hsne
            have hswithin := h.within s hs
            rcases h.apart hs hslot with heq | hle | hle
            · exact heq
            · omega
            · omega
          · rw [Bool.and_eq_true, hinside] at hs'
            omega
        have hless := hclosed slot hslot ⟨latest, hlatest.1, by omega⟩
        rw [Slot.countIn, hcount, hearlier]
        omega
      · have hnone : slots.countP (fun s => inside s && !(s.opened == latest.opened)) = 0 := by
          rw [List.countP_eq_zero]
          intro s hs hs'
          rw [Bool.and_eq_true] at hs'
          exact hmore ⟨s, hs, hs'.1, by simpa using hs'.2⟩
        rw [Slot.countIn, hcount, hearlier, hnone]
        omega

end FixedWindows
