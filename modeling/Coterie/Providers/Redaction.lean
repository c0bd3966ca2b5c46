/-
  Coterie.Providers.Redaction

  Credential filtering (`redaction.rs`).  A `Redactor` knows some secrets and the grammar of the
  service's own tokens.  Each chunk is scanned after what the last one left; the bytes that could
  still become a credential stay pending, and a stream that ends there is closed with a marker.

  `Redactor.scanner` is the loop of `drain` as a scanner, so that how a stream is cut into chunks
  does not matter; `redaction_streams` says what comes out.
-/

import Coterie.Base.Utf8

namespace Coterie

/-! ## The redactor -/

-- b"[REDACTED]"
def replacement : List UInt8 := [0x5b, 0x52, 0x45, 0x44, 0x41, 0x43, 0x54, 0x45, 0x44, 0x5d]

-- b"cot1_"
def tokenPrefix : List UInt8 := [0x63, 0x6f, 0x74, 0x31, 0x5f]

def tokenLength : Nat := 69

/-- A digit or a letter from `a` to `f` in either case. -/
def isAsciiHexdigit (byte : UInt8) : Bool :=
  (0x30 ≤ byte && byte ≤ 0x39) || (0x41 ≤ byte && byte ≤ 0x46) || (0x61 ≤ byte && byte ≤ 0x66)

/-- Retains only an ambiguous suffix between chunks, so a split secret is never written. -/
structure Redactor where
  secrets : List (List UInt8)
  pending : List UInt8
  nonempty : ∀ secret ∈ secrets, secret ≠ []

namespace Redactor

/-- A redactor without secrets. -/
def empty : Redactor where
  secrets := []
  pending := []
  nonempty _ h := by cases h

/-- Conceal another secret. -/
def add (r : Redactor) (secret : List UInt8) : Redactor :=
  if h : secret ≠ [] ∧ secret ∉ r.secrets then
    { r with
      secrets := r.secrets ++ [secret]
      nonempty := by
        intro other hother
        rcases List.mem_append.mp hother with hold | hnew
        · exact r.nonempty other hold
        · rw [List.mem_singleton.mp hnew]
          exact h.1 }
  else r

/-- The remaining bytes are the unfinished beginning of a token. -/
def opensToken (remaining : List UInt8) : Bool :=
  decide (remaining.length < tokenLength) &&
    (remaining.isPrefixOf tokenPrefix ||
      (tokenPrefix.isPrefixOf remaining &&
        (remaining.drop tokenPrefix.length).all isAsciiHexdigit))

/-- More input could make the remaining bytes a credential. -/
def isPartial (secrets : List (List UInt8)) (remaining : List UInt8) : Bool :=
  opensToken remaining ||
    secrets.any fun secret =>
      decide (remaining.length < secret.length) && remaining.isPrefixOf secret

/-- The length of the longest secret at this place. -/
def exact (secrets : List (List UInt8)) (remaining : List UInt8) : Option Nat :=
  ((secrets.filter (·.isPrefixOf remaining)).map List.length).max?

/-- The length of a token at this place. -/
def token (remaining : List UInt8) : Option Nat :=
  if tokenLength ≤ remaining.length ∧ tokenPrefix.isPrefixOf remaining = true ∧
      ((remaining.take tokenLength).drop tokenPrefix.length).all isAsciiHexdigit = true then
    some tokenLength
  else none

/-- The length of the longest credential at this place. -/
def longest (secrets : List (List UInt8)) (remaining : List UInt8) : Option Nat :=
  ((exact secrets remaining).toList ++ (token remaining).toList).max?

theorem longest_pos {secrets : List (List UInt8)} (hne : ∀ secret ∈ secrets, secret ≠ [])
    {remaining : List UInt8} {length : Nat} (h : longest secrets remaining = some length) :
    0 < length := by
  rcases List.mem_append.mp (List.max?_eq_some_iff.mp h).1 with hexact | htoken
  · obtain ⟨hmem, -⟩ := List.max?_eq_some_iff.mp (Option.mem_toList.mp hexact)
    obtain ⟨secret, hsecret, rfl⟩ := List.mem_map.mp hmem
    exact List.length_pos_iff.mpr (hne secret (List.mem_filter.mp hsecret).1)
  · have hlength := Option.mem_toList.mp htoken
    unfold token at hlength
    split at hlength
    · cases hlength
      decide
    · cases hlength

/-- The loop of `drain` over the remaining bytes: the output, and what stays pending. -/
def drain (r : Redactor) (atEnd : Bool) : List UInt8 → List UInt8 × List UInt8
  | [] => ([], [])
  | byte :: rest =>
      if isPartial r.secrets (byte :: rest) then
        if atEnd then (replacement, []) else ([], byte :: rest)
      else
        match h : longest r.secrets (byte :: rest) with
        | some length =>
            let drained := r.drain atEnd ((byte :: rest).drop length)
            (replacement ++ drained.1, drained.2)
        | none =>
            let drained := r.drain atEnd rest
            (byte :: drained.1, drained.2)
termination_by remaining => remaining.length
decreasing_by
  · have hpos := longest_pos r.nonempty h
    rw [List.length_drop, List.length_cons]
    omega
  · exact Nat.lt_succ_self _

/-- Redact a chunk. -/
def push (r : Redactor) (bytes : List UInt8) : List UInt8 × Redactor :=
  let drained := r.drain false (r.pending ++ bytes)
  (drained.1, { r with pending := drained.2 })

/-- Conceals an unfinished credential prefix if a stream ends or is interrupted. -/
def finish (r : Redactor) : List UInt8 × Redactor :=
  let drained := r.drain true r.pending
  (drained.1, { r with pending := drained.2 })

/-- All that is emitted for a stream of chunks. -/
def stream (r : Redactor) (chunks : List (List UInt8)) : List UInt8 :=
  let pushed := chunks.foldl
    (fun (emitted, r) chunk =>
      let pushed := r.push chunk
      (emitted ++ pushed.1, pushed.2))
    ([], r)
  pushed.1 ++ pushed.2.finish.1

end Redactor

/-- A redactor that was given these secrets, one after the other. -/
def redactorOf (secrets : List (List UInt8)) : Redactor :=
  secrets.foldl Redactor.add Redactor.empty

/-! ## The credentials at a place -/

/-- A complete token. -/
structure IsToken (word : List UInt8) : Prop where
  length : word.length = tokenLength
  begins : tokenPrefix <+: word
  digits : (word.drop tokenPrefix.length).all isAsciiHexdigit = true

/-- What a redactor with these secrets conceals. -/
def credentials (secrets : List (List UInt8)) : Set (List UInt8) :=
  {word | (word ∈ secrets ∧ word ≠ []) ∨ IsToken word}

namespace Redactor

variable {secrets : List (List UInt8)} {remaining : List UInt8}

/-- The remaining bytes can become a token when they are a proper prefix of one. -/
theorem opensToken_iff :
    opensToken remaining = true ↔
      ∃ word, IsToken word ∧ remaining <+: word ∧ remaining.length < word.length := by
  unfold opensToken
  rw [Bool.and_eq_true, decide_eq_true_eq, Bool.or_eq_true, Bool.and_eq_true,
    List.isPrefixOf_iff_prefix, List.isPrefixOf_iff_prefix]
  constructor
  · rintro ⟨hlength, hshort | ⟨hbegins, hdigits⟩⟩
    · -- the beginning of the prefix continues with any digits
      have hword : IsToken (tokenPrefix ++ List.replicate 64 0x30) := ⟨by decide, by decide, by decide⟩
      refine ⟨_, hword, hshort.trans (List.prefix_append _ _), ?_⟩
      rw [hword.length]
      exact hlength
    · have hfive : tokenPrefix.length ≤ remaining.length := hbegins.length_le
      have hword : IsToken (remaining ++ List.replicate (tokenLength - remaining.length) 0x30) := by
        constructor
        · rw [List.length_append, List.length_replicate]
          omega
        · exact hbegins.trans (List.prefix_append _ _)
        · rw [List.drop_append_of_le_length hfive, List.all_append, hdigits, Bool.true_and,
            List.all_eq_true]
          intro byte hbyte
          rw [(List.mem_replicate.mp hbyte).2]
          decide
      refine ⟨_, hword, List.prefix_append _ _, ?_⟩
      rw [hword.length]
      exact hlength
  · rintro ⟨word, hword, hbegins, hlength⟩
    refine ⟨by rwa [hword.length] at hlength, ?_⟩
    rcases List.prefix_or_prefix_of_prefix hbegins hword.begins with hshort | hlong
    · exact .inl hshort
    · right
      refine ⟨hlong, List.all_eq_true.mpr fun byte hbyte => ?_⟩
      obtain ⟨rest, rfl⟩ := hbegins
      have hfive : tokenPrefix.length ≤ remaining.length := hlong.length_le
      have hdigits := hword.digits
      rw [List.drop_append_of_le_length hfive, List.all_append, Bool.and_eq_true] at hdigits
      exact List.all_eq_true.mp hdigits.1 byte hbyte

theorem isPartial_iff (hne : ∀ secret ∈ secrets, secret ≠ []) :
    isPartial secrets remaining = true ↔ Unfinished (credentials secrets) remaining := by
  unfold isPartial Unfinished credentials
  rw [Bool.or_eq_true, opensToken_iff, List.any_eq_true]
  constructor
  · rintro (⟨word, hword, hbegins⟩ | ⟨secret, hsecret, hbegins⟩)
    · exact ⟨word, .inr hword, hbegins⟩
    · rw [Bool.and_eq_true, decide_eq_true_eq, List.isPrefixOf_iff_prefix] at hbegins
      exact ⟨secret, .inl ⟨hsecret, hne secret hsecret⟩, hbegins.2, hbegins.1⟩
  · rintro ⟨word, ⟨hsecret, -⟩ | hword, hbegins, hlength⟩
    · right
      refine ⟨word, hsecret, ?_⟩
      rw [Bool.and_eq_true, decide_eq_true_eq, List.isPrefixOf_iff_prefix]
      exact ⟨hlength, hbegins⟩
    · exact .inl ⟨word, hword, hbegins, hlength⟩

theorem token_eq_some {length : Nat} :
    token remaining = some length ↔ length = tokenLength ∧ ∃ word, IsToken word ∧ word <+: remaining := by
  unfold token
  simp only [List.isPrefixOf_iff_prefix]
  split
  · next h =>
      obtain ⟨hlength, hbegins, hdigits⟩ := h
      have hword : IsToken (remaining.take tokenLength) := by
        constructor
        · rw [List.length_take]
          omega
        · exact List.prefix_take_iff.mpr ⟨hbegins, by decide⟩
        · exact hdigits
      constructor
      · intro heq
        cases heq
        exact ⟨rfl, _, hword, List.take_prefix _ _⟩
      · rintro ⟨rfl, -⟩
        rfl
  · next h =>
      constructor
      · intro heq
        cases heq
      · rintro ⟨-, word, hword, hbegins⟩
        exfalso
        apply h
        have htake : remaining.take tokenLength = word := by
          rw [← hword.length]
          exact (List.prefix_iff_eq_take.mp hbegins).symm
        refine ⟨?_, hword.begins.trans hbegins, ?_⟩
        · rw [← hword.length]
          exact hbegins.length_le
        · rw [htake]
          exact hword.digits

theorem exact_eq_some {length : Nat} :
    exact secrets remaining = some length ↔
      (∃ secret ∈ secrets, secret <+: remaining ∧ secret.length = length) ∧
        ∀ secret ∈ secrets, secret <+: remaining → secret.length ≤ length := by
  unfold exact
  rw [List.max?_eq_some_iff]
  simp only [List.mem_map, List.mem_filter, List.isPrefixOf_iff_prefix]
  constructor
  · rintro ⟨⟨secret, ⟨hsecret, hbegins⟩, hlength⟩, hmax⟩
    refine ⟨⟨secret, hsecret, hbegins, hlength⟩, fun other hother hbegins => ?_⟩
    exact hmax _ ⟨other, ⟨hother, hbegins⟩, rfl⟩
  · rintro ⟨⟨secret, hsecret, hbegins, hlength⟩, hmax⟩
    refine ⟨⟨secret, ⟨hsecret, hbegins⟩, hlength⟩, ?_⟩
    rintro _ ⟨other, ⟨hother, hbegins⟩, rfl⟩
    exact hmax other hother hbegins

/-- The longest credential at a place. -/
theorem longest_eq_some (hne : ∀ secret ∈ secrets, secret ≠ []) {length : Nat} :
    longest secrets remaining = some length ↔
      (∃ word ∈ credentials secrets, word <+: remaining ∧ word.length = length) ∧
        ∀ word ∈ credentials secrets, word <+: remaining → word.length ≤ length := by
  unfold longest
  rw [List.max?_eq_some_iff]
  simp only [List.mem_append, Option.mem_toList]
  constructor
  · rintro ⟨hmem, hmax⟩
    constructor
    · rcases hmem with hexact | htoken
      · obtain ⟨⟨secret, hsecret, hbegins, hlength⟩, -⟩ := exact_eq_some.mp hexact
        exact ⟨secret, .inl ⟨hsecret, hne secret hsecret⟩, hbegins, hlength⟩
      · obtain ⟨rfl, word, hword, hbegins⟩ := token_eq_some.mp htoken
        exact ⟨word, .inr hword, hbegins, hword.length⟩
    · rintro word (⟨hsecret, -⟩ | hword) hbegins
      · have hsome : (exact secrets remaining).isSome = true :=
          List.isSome_max?_of_mem (List.mem_map.mpr ⟨word, List.mem_filter.mpr
            ⟨hsecret, List.isPrefixOf_iff_prefix.mpr hbegins⟩, rfl⟩)
        obtain ⟨longest, hlongest⟩ := Option.isSome_iff_exists.mp hsome
        have hle := (exact_eq_some.mp hlongest).2 word hsecret hbegins
        exact Nat.le_trans hle (hmax longest (.inl hlongest))
      · rw [hword.length]
        exact hmax _ (.inr (token_eq_some.mpr ⟨rfl, word, hword, hbegins⟩))
  · rintro ⟨⟨word, hword, hbegins, hlength⟩, hmax⟩
    constructor
    · rcases hword with ⟨hsecret, -⟩ | htoken
      · left
        refine exact_eq_some.mpr ⟨⟨word, hsecret, hbegins, hlength⟩, fun other hother hbegins => ?_⟩
        exact hmax other (.inl ⟨hother, hne other hother⟩) hbegins
      · right
        exact token_eq_some.mpr ⟨by rw [← hlength, htoken.length], word, htoken, hbegins⟩
    · rintro other (hexact | htoken)
      · obtain ⟨⟨secret, hsecret, hbegins, rfl⟩, -⟩ := exact_eq_some.mp hexact
        exact hmax secret (.inl ⟨hsecret, hne secret hsecret⟩) hbegins
      · obtain ⟨rfl, word, hword, hbegins⟩ := token_eq_some.mp htoken
        rw [← hword.length]
        exact hmax word (.inr hword) hbegins

/-- No credential at a place. -/
theorem longest_eq_none (h : longest secrets remaining = none) :
    ∀ word ∈ credentials secrets, ¬ word <+: remaining := by
  unfold longest at h
  rw [List.max?_eq_none_iff, List.append_eq_nil_iff, Option.toList_eq_nil_iff,
    Option.toList_eq_nil_iff] at h
  rintro word (⟨hsecret, -⟩ | hword) hbegins
  · have hsome : (exact secrets remaining).isSome = true :=
      List.isSome_max?_of_mem (List.mem_map.mpr ⟨word, List.mem_filter.mpr
        ⟨hsecret, List.isPrefixOf_iff_prefix.mpr hbegins⟩, rfl⟩)
    rw [h.1] at hsome
    cases hsome
  · have htoken := token_eq_some.mpr ⟨rfl, word, hword, hbegins⟩
    rw [h.2] at htoken
    cases htoken

/-! ## The loop as a scanner -/

/-- The decisions of the loop. -/
def scanner (r : Redactor) : Scanner UInt8 UInt8 where
  hold := isPartial r.secrets
  next input :=
    match longest r.secrets input with
    | some length => (length, replacement)
    | none => (1, input.take 1)
  progress := by
    intro input _ _
    split
    · next length h => exact longest_pos r.nonempty h
    · exact Nat.one_pos

variable (r : Redactor)

theorem scanner_next_some {input : List UInt8} {length : Nat}
    (h : longest r.secrets input = some length) : r.scanner.next input = (length, replacement) := by
  dsimp only [scanner]
  rw [h]

theorem scanner_next_none {input : List UInt8} (h : longest r.secrets input = none) :
    r.scanner.next input = (1, input.take 1) := by
  dsimp only [scanner]
  rw [h]

/-- Before the end of the stream, `drain` scans. -/
theorem drain_open (input : List UInt8) : r.drain false input = r.scanner.scan input := by
  fun_induction r.drain false input with
  | case1 => rw [r.scanner.scan_stop (.inl rfl)]
  | case2 byte rest _ hend => cases hend
  | case3 byte rest hpartial => rw [r.scanner.scan_stop (.inr hpartial)]
  | case4 byte rest hpartial length hlength drained ih =>
      rw [r.scanner.scan_step (List.cons_ne_nil byte rest) (Bool.eq_false_iff.mpr hpartial),
        r.scanner_next_some hlength, ← ih]
  | case5 byte rest hpartial hnone drained ih =>
      rw [r.scanner.scan_step (List.cons_ne_nil byte rest) (Bool.eq_false_iff.mpr hpartial),
        r.scanner_next_none hnone, List.drop_succ_cons, List.drop_zero, ← ih]
      rfl

/-- What the end of the stream adds for the bytes that were held back. -/
def closing (held : List UInt8) : List UInt8 :=
  if held = [] then [] else replacement

/-- At the end of the stream, `drain` scans and conceals what is held back. -/
theorem drain_end (input : List UInt8) :
    r.drain true input = ((r.scanner.scan input).1 ++ closing (r.scanner.scan input).2, []) := by
  fun_induction r.drain true input with
  | case1 =>
      rw [r.scanner.scan_stop (.inl rfl)]
      rfl
  | case2 byte rest hpartial _ =>
      rw [r.scanner.scan_stop (.inr hpartial)]
      rfl
  | case3 byte rest _ hend => exact absurd rfl hend
  | case4 byte rest hpartial length hlength drained ih =>
      rw [r.scanner.scan_step (List.cons_ne_nil byte rest) (Bool.eq_false_iff.mpr hpartial),
        r.scanner_next_some hlength]
      dsimp only [drained]
      rw [ih, List.append_assoc]
  | case5 byte rest hpartial hnone drained ih =>
      rw [r.scanner.scan_step (List.cons_ne_nil byte rest) (Bool.eq_false_iff.mpr hpartial),
        r.scanner_next_none hnone, List.drop_succ_cons, List.drop_zero]
      dsimp only [drained]
      rw [ih]
      rfl

/-- More input does not change what the loop has decided. -/
theorem scanner_stable : r.scanner.Stable where
  hold input more hne hgo := by
    rw [Bool.eq_false_iff] at hgo ⊢
    intro hpartial
    obtain ⟨word, hword, hbegins, hlength⟩ := (isPartial_iff r.nonempty).mp hpartial
    refine hgo ((isPartial_iff r.nonempty).mpr
      ⟨word, hword, (List.prefix_append input more).trans hbegins, ?_⟩)
    rw [List.length_append] at hlength
    omega
  next input more hne hgo := by
    have hclosed : ¬ Unfinished (credentials r.secrets) input := by
      rw [← isPartial_iff r.nonempty]
      exact Bool.eq_false_iff.mp hgo
    -- the credentials at this place are the same
    have hsame : ∀ word ∈ credentials r.secrets, word <+: input ++ more ↔ word <+: input := by
      intro word hword
      constructor
      · intro hbegins
        rcases List.prefix_or_prefix_of_prefix hbegins (List.prefix_append input more) with
          hshort | hlong
        · exact hshort
        · by_cases hlength : input.length < word.length
          · exact absurd ⟨word, hword, hlong, hlength⟩ hclosed
          · rw [hlong.eq_of_length_le (by omega)]
      · intro hbegins
        exact hbegins.trans (List.prefix_append input more)
    have hlongest : longest r.secrets (input ++ more) = longest r.secrets input := by
      apply Option.ext
      intro length
      rw [longest_eq_some r.nonempty, longest_eq_some r.nonempty]
      constructor
      · rintro ⟨⟨word, hword, hbegins, hlength⟩, hmax⟩
        refine ⟨⟨word, hword, (hsame word hword).mp hbegins, hlength⟩, fun other hother hother' => ?_⟩
        exact hmax other hother ((hsame other hother).mpr hother')
      · rintro ⟨⟨word, hword, hbegins, hlength⟩, hmax⟩
        refine ⟨⟨word, hword, (hsame word hword).mpr hbegins, hlength⟩, fun other hother hother' => ?_⟩
        exact hmax other hother ((hsame other hother).mp hother')
    cases hfound : longest r.secrets input with
    | some length =>
        rw [r.scanner_next_some hfound, r.scanner_next_some (hlongest.trans hfound)]
    | none =>
        have hpos := List.length_pos_iff.mpr hne
        rw [r.scanner_next_none hfound, r.scanner_next_none (hlongest.trans hfound),
          List.take_append_of_le_length (by omega)]
  within input hne hgo := by
    cases hfound : longest r.secrets input with
    | some length =>
        obtain ⟨⟨word, -, hbegins, rfl⟩, -⟩ := (longest_eq_some r.nonempty).mp hfound
        rw [r.scanner_next_some hfound]
        exact hbegins.length_le
    | none =>
        rw [r.scanner_next_none hfound]
        exact List.length_pos_iff.mpr hne

/-- What is emitted for an input is its redaction. -/
theorem redacts_scan (input : List UInt8) :
    Redacts (credentials r.secrets) replacement input
      ((r.scanner.scan input).1 ++ closing (r.scanner.scan input).2) := by
  induction hn : input.length using Nat.strongRecOn generalizing input with
  | ind n ih =>
      cases input with
      | nil =>
          rw [r.scanner.scan_stop (.inl rfl)]
          exact .done
      | cons byte rest =>
          have hne := List.cons_ne_nil byte rest
          by_cases hpartial : isPartial r.secrets (byte :: rest) = true
          · rw [r.scanner.scan_stop (.inr hpartial)]
            exact .unfinished hne ((isPartial_iff r.nonempty).mp hpartial)
          · have hclosed : ¬ Unfinished (credentials r.secrets) (byte :: rest) := by
              rw [← isPartial_iff r.nonempty]
              exact hpartial
            rw [r.scanner.scan_step hne (Bool.eq_false_iff.mpr hpartial)]
            cases hfound : longest r.secrets (byte :: rest) with
            | some length =>
                have hpos := longest_pos r.nonempty hfound
                obtain ⟨⟨word, hword, hbegins, rfl⟩, hmax⟩ :=
                  (longest_eq_some r.nonempty).mp hfound
                rw [r.scanner_next_some hfound, List.append_assoc]
                have hrest := ih _ (by rw [List.length_drop]; simp only [List.length_cons] at *; omega)
                  ((byte :: rest).drop word.length) rfl
                obtain ⟨after, hafter⟩ := hbegins
                rw [← hafter, List.drop_left] at hrest ⊢
                rw [← hafter] at hne hclosed hmax
                exact .word hne hclosed hword hmax hrest
            | none =>
                rw [r.scanner_next_none hfound, List.drop_succ_cons, List.drop_zero]
                have hrest := ih _ (by rw [← hn]; exact Nat.lt_succ_self _) rest rfl
                exact .copy hclosed (longest_eq_none hfound) hrest

/-! ## Streams -/

/-- What a push emits and leaves pending. -/
theorem push_eq (bytes : List UInt8) :
    r.push bytes = ((r.scanner.scan (r.pending ++ bytes)).1,
      { r with pending := (r.scanner.scan (r.pending ++ bytes)).2 }) := by
  unfold push
  rw [r.drain_open]

/-- A stream is one scan of all its bytes. -/
theorem stream_eq (hpending : r.pending = []) (chunks : List (List UInt8)) :
    r.stream chunks =
      (r.scanner.scan chunks.flatten).1 ++ closing (r.scanner.scan chunks.flatten).2 := by
  -- pushing is feeding the scanner, whose decisions do not depend on what is pending
  have hpushes : ∀ (chunks : List (List UInt8)) (emitted held : List UInt8),
      chunks.foldl
          (fun (state : List UInt8 × Redactor) chunk =>
            (state.1 ++ (state.2.push chunk).1, (state.2.push chunk).2))
          (emitted, { r with pending := held }) =
        ((chunks.foldl r.scanner.feed (emitted, held)).1,
          { r with pending := (chunks.foldl r.scanner.feed (emitted, held)).2 }) := by
    intro chunks
    induction chunks with
    | nil => exact fun _ _ => rfl
    | cons chunk chunks ih =>
        intro emitted held
        rw [List.foldl_cons, List.foldl_cons, push_eq]
        exact ih _ _
  have hself : r = { r with pending := [] } := by
    rw [← hpending]
  have hpushed := hpushes chunks [] []
  rw [← hself, r.scanner_stable.feed_flatten chunks [] (.inl rfl), List.nil_append,
    List.nil_append] at hpushed
  unfold stream
  dsimp only
  rw [hpushed]
  unfold finish
  dsimp only
  rw [drain_end]
  -- what is left over is held back again
  have hleft := r.scanner.scan_stop (r.scanner.scan_left chunks.flatten)
  show (r.scanner.scan chunks.flatten).1 ++
      ((r.scanner.scan (r.scanner.scan chunks.flatten).2).1 ++
        closing (r.scanner.scan (r.scanner.scan chunks.flatten).2).2) = _
  rw [hleft, List.nil_append]

/-- The secrets of a redactor to which some were added. -/
theorem mem_secrets_foldl_add (secrets : List (List UInt8)) (r : Redactor) {secret : List UInt8} :
    secret ∈ (secrets.foldl add r).secrets ↔
      secret ∈ r.secrets ∨ (secret ∈ secrets ∧ secret ≠ []) := by
  induction secrets generalizing r with
  | nil => simp
  | cons new secrets ih =>
      rw [List.foldl_cons, ih]
      unfold add
      split
      · next hnew =>
          simp only [List.mem_append, List.mem_cons, List.not_mem_nil, or_false]
          constructor
          · rintro ((hold | rfl) | ⟨hlater, hne⟩)
            · exact .inl hold
            · exact .inr ⟨.inl rfl, hnew.1⟩
            · exact .inr ⟨.inr hlater, hne⟩
          · rintro (hold | ⟨rfl | hlater, hne⟩)
            · exact .inl (.inl hold)
            · exact .inl (.inr rfl)
            · exact .inr ⟨hlater, hne⟩
      · next hknown =>
          simp only [List.mem_cons]
          constructor
          · rintro (hold | ⟨hlater, hne⟩)
            · exact .inl hold
            · exact .inr ⟨.inr hlater, hne⟩
          · rintro (hold | ⟨rfl | hlater, hne⟩)
            · exact .inl hold
            · exact .inl (by simpa [hne] using hknown)
            · exact .inr ⟨hlater, hne⟩

theorem pending_foldl_add (secrets : List (List UInt8)) (r : Redactor) :
    (secrets.foldl add r).pending = r.pending := by
  induction secrets generalizing r with
  | nil => rfl
  | cons secret secrets ih =>
      rw [List.foldl_cons, ih]
      unfold add
      split <;> rfl

end Redactor

/-- A token has no bracket, so that it cannot overlap the marker. -/
theorem IsToken.not_overlaps {word : List UInt8} (h : IsToken word) :
    ¬ Overlaps word replacement := by
  have hchars : ∀ byte ∈ word, byte ≠ 0x5b ∧ byte ≠ 0x5d := by
    intro byte hbyte
    rw [← List.take_append_drop tokenPrefix.length word, List.mem_append] at hbyte
    rcases hbyte with hfirst | hlater
    · rw [← List.prefix_iff_eq_take.mp h.begins] at hfirst
      have hletters : tokenPrefix.all (fun byte => byte != 0x5b && byte != 0x5d) = true := by
        decide
      simpa using List.all_eq_true.mp hletters byte hfirst
    · have hdigit := List.all_eq_true.mp h.digits byte hlater
      constructor
      · rintro rfl
        revert hdigit
        decide
      · rintro rfl
        revert hdigit
        decide
  have hopen : ∀ {part : List UInt8}, part ≠ [] → part <+: replacement → 0x5b ∈ part := by
    intro part hne hbegins
    cases part with
    | nil => exact absurd rfl hne
    | cons byte part =>
        obtain ⟨rfl, -⟩ := List.cons_prefix_cons.mp hbegins
        exact List.mem_cons_self
  have hclose : ∀ part ∈ replacement.tails, part ≠ [] → 0x5d ∈ part := by
    decide
  rintro (hinside | haround | ⟨part, hpart, hne, hbegins⟩ | ⟨part, hpart, hne, hbegins⟩)
  · have hlength := hinside.length_le
    rw [h.length] at hlength
    revert hlength
    decide
  · exact (hchars 0x5b (haround.subset (by decide))).1 rfl
  · exact (hchars 0x5d (hbegins.subset (hclose part hpart hne))).2 rfl
  · have hsuffix := (List.mem_tails _ _).mp hpart
    exact (hchars 0x5b (hsuffix.subset (hopen hne hbegins))).1 rfl

/-- For every set of secrets and every way of cutting an input into chunks: the chunks are emitted as
    the whole is; the output is the redaction of the input; and when no secret can overlap the marker,
    it contains no secret and no token. -/
theorem redaction_streams (secrets chunks : List (List UInt8)) :
    (redactorOf secrets).stream chunks = (redactorOf secrets).stream [chunks.flatten] ∧
      (∀ output, Redacts (credentials secrets) replacement chunks.flatten output ↔
        output = (redactorOf secrets).stream chunks) ∧
      ((∀ secret ∈ secrets, secret ≠ [] → ¬ Overlaps secret replacement) →
        ∀ word ∈ credentials secrets, ¬ word <:+: (redactorOf secrets).stream chunks) := by
  generalize hr : redactorOf secrets = r
  have hpending : r.pending = [] := by
    rw [← hr]
    exact Redactor.pending_foldl_add secrets Redactor.empty
  have hcredentials : credentials r.secrets = credentials secrets := by
    ext word
    have hmem : word ∈ r.secrets ↔ word ∈ secrets ∧ word ≠ [] := by
      rw [← hr, redactorOf, Redactor.mem_secrets_foldl_add]
      simp [Redactor.empty]
    show (word ∈ r.secrets ∧ word ≠ [] ∨ IsToken word) ↔
      (word ∈ secrets ∧ word ≠ [] ∨ IsToken word)
    rw [hmem, and_assoc, and_self]
  have hredacts : Redacts (credentials secrets) replacement chunks.flatten (r.stream chunks) := by
    rw [r.stream_eq hpending, ← hcredentials]
    exact r.redacts_scan chunks.flatten
  refine ⟨?_, fun output => ⟨fun h => h.unique hredacts, fun h => h ▸ hredacts⟩, ?_⟩
  · rw [r.stream_eq hpending, r.stream_eq hpending, List.flatten_singleton]
  · rintro hfree word (⟨hsecret, hne⟩ | htoken)
    · exact hredacts.conceals (.inl ⟨hsecret, hne⟩) hne (hfree word hsecret hne)
    · refine hredacts.conceals (.inr htoken) ?_ htoken.not_overlaps
      rintro rfl
      have hlength := htoken.length
      cases hlength

/-- A key in the environment does not overlap the marker. -/
theorem redaction_conceals_key :
    ∀ word ∈ credentials ["api-secret".toUTF8.toList],
      ¬ word <:+: (redactorOf ["api-secret".toUTF8.toList]).stream
        ["api-".toUTF8.toList, "secret".toUTF8.toList] :=
  (redaction_streams ["api-secret".toUTF8.toList]
    ["api-".toUTF8.toList, "secret".toUTF8.toList]).2.2 (by decide +kernel)

end Coterie
