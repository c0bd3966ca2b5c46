/-
  Coterie.Providers.Token

  Session tokens (`auth.rs`): 32 secret bytes, written as a prefix and lower-case hexadecimal digits.
  Texts are their bytes.

  The tokens that are accepted are those that the redactor conceals: the grammar of `IsToken` has
  them all, and more, since it takes digits in either case.
-/

import Coterie.Base.Except
import Coterie.Providers.Redaction

namespace Coterie

/-- A bearer credential supplied only to one provider session. -/
structure AgentToken where
  bytes : Vector UInt8 32
deriving DecidableEq

/-- Why a text is not read as a token: it is none, or the program panics. -/
inductive TokenFailure where
  | parse
  | panic
deriving DecidableEq, Repr

namespace AgentToken

/-! ## Reading and writing -/

/-- b"0123456789abcdef" -/
def hex : List UInt8 :=
  [0x30, 0x31, 0x32, 0x33, 0x34, 0x35, 0x36, 0x37, 0x38, 0x39, 0x61, 0x62, 0x63, 0x64, 0x65, 0x66]

/-- The digits of a byte. -/
def hexPair (byte : UInt8) : List UInt8 :=
  [hex.getD (byte >>> 4).toNat 0, hex.getD (byte &&& 0x0f).toNat 0]

/-- The value used for `COTERIE_TOKEN` and RPC authentication. -/
def exposeSecret (token : AgentToken) : List UInt8 :=
  tokenPrefix ++ token.bytes.toList.flatMap hexPair

/-- The value of a digit. -/
def decodeNibble (encoded : UInt8) : Except TokenFailure UInt8 :=
  if 0x30 ≤ encoded ∧ encoded ≤ 0x39 then .ok (encoded - 0x30)
  else if 0x61 ≤ encoded ∧ encoded ≤ 0x66 then .ok (encoded - 0x61 + 10)
  else .error .parse

/-- Read pairs of digits into the bytes from an index on. -/
def decodePairs : Nat → List UInt8 → Vector UInt8 32 → Except TokenFailure (Vector UInt8 32)
  | _, [], bytes => .ok bytes
  | _, [_], _ => .error .panic
  | index, first :: second :: rest, bytes => do
      let high ← decodeNibble first
      let low ← decodeNibble second
      if h : index < 32 then
        decodePairs (index + 1) rest (bytes.set index (high <<< 4 ||| low) h)
      else .error .panic

/-- Read a token. -/
def fromStr (encoded : List UInt8) : Except TokenFailure AgentToken :=
  if tokenPrefix.isPrefixOf encoded = true then
    let payload := encoded.drop tokenPrefix.length
    if payload.length = 64 then
      (decodePairs 0 payload (Vector.replicate 32 0)).map AgentToken.mk
    else .error .parse
  else .error .parse

/-! ## Digits -/

theorem decodeNibble_hex (nibble : Fin 16) :
    decodeNibble (hex.getD nibble.val 0) = .ok (UInt8.ofNat nibble.val) := by
  have h : ∀ nibble : Fin 16,
      decodeNibble (hex.getD nibble.val 0) = .ok (UInt8.ofNat nibble.val) := by
    decide +kernel
  exact h nibble

theorem decodeNibble_eq_ok {encoded nibble : UInt8} (h : decodeNibble encoded = .ok nibble) :
    nibble < 16 ∧ encoded = hex.getD nibble.toNat 0 := by
  have hall : ∀ n : Fin 256, ∀ nibble ∈ (decodeNibble (UInt8.ofFin n)).toOption,
      nibble < 16 ∧ UInt8.ofFin n = hex.getD nibble.toNat 0 := by
    decide +kernel
  refine hall encoded.toFin nibble ?_
  show nibble ∈ (decodeNibble encoded).toOption
  rw [h]
  rfl

/-- A byte is put together from its digits. -/
theorem decode_hexPair (byte : UInt8) :
    ∃ high low, decodeNibble (hex.getD (byte >>> 4).toNat 0) = .ok high ∧
      decodeNibble (hex.getD (byte &&& 0x0f).toNat 0) = .ok low ∧ high <<< 4 ||| low = byte := by
  have hall : ∀ n : Fin 256, ∃ high ∈ (decodeNibble
      (hex.getD (UInt8.ofFin n >>> 4).toNat 0)).toOption, ∃ low ∈ (decodeNibble
      (hex.getD (UInt8.ofFin n &&& 0x0f).toNat 0)).toOption, high <<< 4 ||| low = UInt8.ofFin n := by
    intro n
    refine ⟨UInt8.ofFin n >>> 4, ?_, UInt8.ofFin n &&& 0x0f, ?_, ?_⟩
    · revert n
      decide +kernel
    · revert n
      decide +kernel
    · revert n
      decide +kernel
  obtain ⟨high, hhigh, low, hlow, hbyte⟩ := hall byte.toFin
  have hof : ∀ {x : Except TokenFailure UInt8} {a : UInt8}, a ∈ x.toOption → x = .ok a := by
    intro x a h
    cases x with
    | error e => cases h
    | ok b =>
        cases h
        rfl
  exact ⟨high, low, hof hhigh, hof hlow, hbyte⟩

/-- The digits of a byte that was put together are the ones that it was put together from. -/
theorem hexPair_join {high low : UInt8} (hhigh : high < 16) (hlow : low < 16) :
    hexPair (high <<< 4 ||| low) = [hex.getD high.toNat 0, hex.getD low.toNat 0] := by
  have hall : ∀ a b : Fin 16, hexPair (UInt8.ofNat a.val <<< 4 ||| UInt8.ofNat b.val) =
      [hex.getD a.val 0, hex.getD b.val 0] := by
    decide +kernel
  have h := hall ⟨high.toNat, hhigh⟩ ⟨low.toNat, hlow⟩
  dsimp only at h
  rw [UInt8.ofNat_toNat, UInt8.ofNat_toNat] at h
  exact h

theorem decodeNibble_no_panic (encoded : UInt8) : decodeNibble encoded ≠ .error .panic := by
  unfold decodeNibble
  split
  · nofun
  · split
    · nofun
    · nofun

/-! ## Pairs -/

/-- The bytes after one of them is written behind those that were written before. -/
theorem set_toList (bytes : Vector UInt8 32) {index : Nat} (h : index < 32) (byte : UInt8) :
    (bytes.set index byte h).toList =
      bytes.toList.take index ++ byte :: bytes.toList.drop (index + 1) := by
  have hlength : index < bytes.toList.length := by
    rw [Vector.length_toList]
    exact h
  rw [Vector.toList_set, List.set_eq_take_append_cons_drop, if_pos hlength]

theorem take_set (bytes : Vector UInt8 32) {index : Nat} (h : index < 32) (byte : UInt8) :
    (bytes.set index byte h).toList.take (index + 1) = bytes.toList.take index ++ [byte] := by
  have hlength : (bytes.toList.take index).length = index := by
    rw [List.length_take, Vector.length_toList]
    omega
  rw [set_toList, List.take_append, hlength, Nat.add_sub_cancel_left, List.take_succ_cons,
    List.take_zero, List.take_of_length_le (by omega)]

theorem drop_set (bytes : Vector UInt8 32) {index : Nat} (h : index < 32) (byte : UInt8)
    (count : Nat) :
    (bytes.set index byte h).toList.drop (index + 1 + count) =
      bytes.toList.drop (index + 1 + count) := by
  have hlength : (bytes.toList.take index).length = index := by
    rw [List.length_take, Vector.length_toList]
    omega
  rw [set_toList, List.drop_append, hlength, List.drop_of_length_le (by omega), List.nil_append,
    show index + 1 + count - index = count + 1 by omega, List.drop_succ_cons, List.drop_drop]

/-- What is read from the digits of some bytes. -/
theorem decodePairs_hexPair (tail : List UInt8) (index : Nat) (bytes : Vector UInt8 32)
    (hroom : index + tail.length ≤ 32) :
    ∃ result, decodePairs index (tail.flatMap hexPair) bytes = .ok result ∧
      result.toList = bytes.toList.take index ++ tail ++
        bytes.toList.drop (index + tail.length) := by
  induction tail generalizing index bytes with
  | nil =>
      refine ⟨bytes, rfl, ?_⟩
      rw [List.append_nil, List.length_nil, Nat.add_zero, List.take_append_drop]
  | cons byte tail ih =>
      rw [List.length_cons] at hroom
      have hindex : index < 32 := by omega
      obtain ⟨high, low, hhigh, hlow, hbyte⟩ := decode_hexPair byte
      obtain ⟨result, hread, hresult⟩ := ih (index + 1) (bytes.set index byte hindex) (by omega)
      refine ⟨result, ?_, ?_⟩
      · rw [List.flatMap_cons, hexPair, List.cons_append, List.cons_append, List.nil_append,
          decodePairs, hhigh, hlow]
        show (if h : index < 32 then _ else _) = _
        rw [dif_pos hindex, hbyte]
        exact hread
      · rw [hresult, take_set, drop_set, List.length_cons, List.append_assoc, List.append_assoc,
          List.singleton_append, List.append_assoc, List.cons_append,
          show index + 1 + tail.length = index + (tail.length + 1) by omega]

/-- What is read are the digits of some bytes. -/
theorem exists_of_decodePairs {index : Nat} {payload : List UInt8} {bytes result : Vector UInt8 32}
    (h : decodePairs index payload bytes = .ok result) :
    ∃ tail : List UInt8, payload = tail.flatMap hexPair := by
  fun_induction decodePairs index payload bytes with
  | case1 => exact ⟨[], rfl⟩
  | case2 => cases h
  | case3 index first second rest bytes ih =>
      obtain ⟨high, hhigh, h⟩ := Except.bind_eq_ok.mp h
      obtain ⟨low, hlow, h⟩ := Except.bind_eq_ok.mp h
      by_cases hindex : index < 32
      · rw [dif_pos hindex] at h
        obtain ⟨tail, htail⟩ := ih high low hindex h
        obtain ⟨hhigh16, hfirst⟩ := decodeNibble_eq_ok hhigh
        obtain ⟨hlow16, hsecond⟩ := decodeNibble_eq_ok hlow
        refine ⟨(high <<< 4 ||| low) :: tail, ?_⟩
        rw [List.flatMap_cons, hexPair_join hhigh16 hlow16, ← hfirst, ← hsecond, ← htail]
        rfl
      · rw [dif_neg hindex] at h
        cases h

theorem decodePairs_no_panic {index : Nat} {payload : List UInt8} {bytes : Vector UInt8 32}
    (heven : payload.length = 2 * (32 - index)) (hindex : index ≤ 32) :
    decodePairs index payload bytes ≠ .error .panic := by
  fun_induction decodePairs index payload bytes with
  | case1 => nofun
  | case2 =>
      rw [List.length_singleton] at heven
      omega
  | case3 index first second rest bytes ih =>
      rw [List.length_cons, List.length_cons] at heven
      have hlt : index < 32 := by omega
      intro h
      rcases Except.bind_eq_error.mp h with h | ⟨high, -, h⟩
      · exact decodeNibble_no_panic first h
      rcases Except.bind_eq_error.mp h with h | ⟨low, -, h⟩
      · exact decodeNibble_no_panic second h
      rw [dif_pos hlt] at h
      exact ih high low hlt (by omega) (by omega) h

/-! ## Tokens -/

theorem length_flatMap_hexPair (bytes : List UInt8) :
    (bytes.flatMap hexPair).length = 2 * bytes.length := by
  induction bytes with
  | nil => rfl
  | cons byte bytes ih =>
      rw [List.flatMap_cons, List.length_append, ih, List.length_cons]
      show 2 + _ = _
      omega

theorem length_digits (token : AgentToken) : (token.bytes.toList.flatMap hexPair).length = 64 := by
  rw [length_flatMap_hexPair, Vector.length_toList]

/-- A token that was written is read. -/
theorem fromStr_exposeSecret (token : AgentToken) : fromStr (exposeSecret token) = .ok token := by
  obtain ⟨result, hread, hresult⟩ :=
    decodePairs_hexPair token.bytes.toList 0 (Vector.replicate 32 0)
      (by rw [Vector.length_toList])
  have hbytes : result = token.bytes := by
    apply Vector.toList_inj.mp
    rw [hresult, List.take_zero, List.nil_append, Vector.length_toList, List.drop_of_length_le,
      List.append_nil]
    rw [Vector.length_toList]
  unfold fromStr exposeSecret
  rw [if_pos (List.isPrefixOf_iff_prefix.mpr (List.prefix_append _ _)), List.drop_left]
  dsimp only
  rw [if_pos (length_digits token), hread, hbytes]
  rfl

/-- What is accepted begins with the prefix, and the digits are read. -/
theorem of_fromStr_ok {encoded : List UInt8} {token : AgentToken}
    (h : fromStr encoded = .ok token) :
    ∃ payload, encoded = tokenPrefix ++ payload ∧ payload.length = 64 ∧
      decodePairs 0 payload (Vector.replicate 32 0) = .ok token.bytes := by
  unfold fromStr at h
  split at h
  · next hbegins =>
      obtain ⟨payload, rfl⟩ := List.isPrefixOf_iff_prefix.mp hbegins
      rw [List.drop_left] at h
      dsimp only at h
      split at h
      · next hlength =>
          refine ⟨payload, rfl, hlength, ?_⟩
          cases hread : decodePairs 0 payload (Vector.replicate 32 0) with
          | error e =>
              rw [hread] at h
              cases h
          | ok bytes =>
              rw [hread] at h
              cases h
              rfl
      · cases h
  · cases h

/-- Only a token that was written is read. -/
theorem fromStr_eq_ok {encoded : List UInt8} {token : AgentToken} :
    fromStr encoded = .ok token ↔ encoded = exposeSecret token := by
  constructor
  · intro h
    obtain ⟨payload, rfl, hlength, hread⟩ := of_fromStr_ok h
    obtain ⟨tail, rfl⟩ := exists_of_decodePairs hread
    rw [length_flatMap_hexPair] at hlength
    obtain ⟨result, hagain, hresult⟩ :=
      decodePairs_hexPair tail 0 (Vector.replicate 32 0) (by omega)
    rw [hread] at hagain
    cases hagain
    have htail : token.bytes.toList = tail := by
      rw [hresult, List.take_zero, List.nil_append, List.drop_of_length_le, List.append_nil]
      rw [Vector.length_toList]
      omega
    rw [exposeSecret, htail]
  · rintro rfl
    exact fromStr_exposeSecret token

/-- No text makes the reader panic. -/
theorem fromStr_no_panic (encoded : List UInt8) : fromStr encoded ≠ .error .panic := by
  unfold fromStr
  split
  · dsimp only
    split
    · next hlength =>
        cases hread : decodePairs 0 (encoded.drop tokenPrefix.length) (Vector.replicate 32 0) with
        | error e =>
            intro h
            cases h
            exact decodePairs_no_panic hlength (Nat.zero_le 32) hread
        | ok bytes => nofun
    · nofun
  · nofun

/-- The digits that are written are those that are read. -/
theorem mem_hexPair {byte digit : UInt8} (h : digit ∈ hexPair byte) : digit ∈ hex := by
  have hall : ∀ n : Fin 256, (hexPair (UInt8.ofFin n)).all (fun digit => decide (digit ∈ hex)) =
      true := by
    decide +kernel
  exact of_decide_eq_true (List.all_eq_true.mp (hall byte.toFin) digit h)

theorem exists_hex {digit : UInt8} (h : digit ∈ hex) :
    ∃ nibble, decodeNibble digit = .ok nibble := by
  obtain ⟨index, hlt, rfl⟩ := List.mem_iff_getElem.mp h
  have hread := decodeNibble_hex ⟨index, hlt⟩
  rw [List.getD_eq_getElem?_getD, List.getElem?_eq_getElem hlt] at hread
  exact ⟨_, hread⟩

/-- Pairs of digits are read. -/
theorem exists_decodePairs {payload : List UInt8} (hdigits : ∀ digit ∈ payload, digit ∈ hex)
    {index : Nat} (hindex : index ≤ 32) (hlength : payload.length = 2 * (32 - index))
    (bytes : Vector UInt8 32) : ∃ result, decodePairs index payload bytes = .ok result := by
  fun_induction decodePairs index payload bytes with
  | case1 => exact ⟨_, rfl⟩
  | case2 =>
      rw [List.length_singleton] at hlength
      omega
  | case3 index first second rest bytes ih =>
      rw [List.length_cons, List.length_cons] at hlength
      have hlt : index < 32 := by omega
      obtain ⟨high, hhigh⟩ := exists_hex (hdigits first List.mem_cons_self)
      obtain ⟨low, hlow⟩ := exists_hex (hdigits second (List.mem_cons_of_mem _ List.mem_cons_self))
      have hrest : ∀ digit ∈ rest, digit ∈ hex := fun digit hdigit =>
        hdigits digit (List.mem_cons_of_mem _ (List.mem_cons_of_mem _ hdigit))
      obtain ⟨result, hresult⟩ := ih high low hlt hrest (by omega) (by omega)
      refine ⟨result, ?_⟩
      rw [hhigh, hlow]
      show (if h : index < 32 then _ else _) = _
      rw [dif_pos hlt]
      exact hresult

/-- The texts that are accepted. -/
theorem exists_fromStr {encoded : List UInt8} :
    (∃ token, fromStr encoded = .ok token) ↔
      tokenPrefix <+: encoded ∧ encoded.length = tokenLength ∧
        ∀ digit ∈ encoded.drop tokenPrefix.length, digit ∈ hex := by
  constructor
  · rintro ⟨token, h⟩
    obtain rfl := fromStr_eq_ok.mp h
    refine ⟨List.prefix_append _ _, ?_, ?_⟩
    · rw [exposeSecret, List.length_append, length_digits]
      rfl
    · rw [exposeSecret, List.drop_left]
      intro digit hdigit
      obtain ⟨byte, -, hbyte⟩ := List.mem_flatMap.mp hdigit
      exact mem_hexPair hbyte
  · rintro ⟨⟨payload, rfl⟩, hlength, hdigits⟩
    rw [List.drop_left] at hdigits
    have hpayload : payload.length = 64 := by
      rw [List.length_append] at hlength
      have hfive : tokenPrefix.length = 5 := rfl
      have htotal : tokenLength = 69 := rfl
      omega
    obtain ⟨bytes, hread⟩ :=
      exists_decodePairs hdigits (Nat.zero_le 32) hpayload (Vector.replicate 32 0)
    refine ⟨⟨bytes⟩, ?_⟩
    unfold fromStr
    rw [if_pos (List.isPrefixOf_iff_prefix.mpr (List.prefix_append _ _)), List.drop_left]
    dsimp only
    rw [if_pos hpayload, hread]
    rfl

/-! ## The grammar of the redactor -/

theorem hex_isAsciiHexdigit {digit : UInt8} (h : digit ∈ hex) : isAsciiHexdigit digit = true := by
  have hall : hex.all isAsciiHexdigit = true := by decide
  exact List.all_eq_true.mp hall digit h

theorem isToken {encoded : List UInt8} {token : AgentToken} (h : fromStr encoded = .ok token) :
    IsToken encoded := by
  obtain ⟨hbegins, hlength, hdigits⟩ := exists_fromStr.mp ⟨token, h⟩
  exact ⟨hlength, hbegins, List.all_eq_true.mpr fun digit hdigit =>
    hex_isAsciiHexdigit (hdigits digit hdigit)⟩

end AgentToken

namespace IsToken

variable {word : List UInt8}

/-- Whatever follows a token, it is complete. -/
theorem token_append (h : IsToken word) (rest : List UInt8) :
    Redactor.token (word ++ rest) = some word.length := by
  rw [Redactor.token_eq_some]
  exact ⟨h.length, word, h, List.prefix_append word rest⟩

theorem not_opensToken (h : IsToken word) (rest : List UInt8) :
    Redactor.opensToken (word ++ rest) = false := by
  unfold Redactor.opensToken
  rw [decide_eq_false, Bool.false_and]
  rw [List.length_append, h.length]
  omega

/-- A part of a token that it begins with is unfinished. -/
theorem opensToken_part (h : IsToken word) {part : List UInt8} (hpart : part <+: word)
    (hne : part ≠ word) : Redactor.opensToken part = true ∧ Redactor.token part = none := by
  have hlength : part.length < word.length := by
    have hle := hpart.length_le
    have hsame : part.length ≠ word.length := fun heq => hne (hpart.eq_of_length heq)
    omega
  refine ⟨Redactor.opensToken_iff.mpr ⟨word, h, hpart, hlength⟩, ?_⟩
  unfold Redactor.token
  rw [if_neg]
  rintro ⟨hfull, -, -⟩
  rw [h.length] at hlength
  omega

/-- A redactor holds a token back only as the beginning of a longer secret. -/
theorem held (h : IsToken word) {r : Redactor} {held : List UInt8} (hin : word <:+: held)
    (hheld : Redactor.isPartial r.secrets held = true) :
    ∃ secret ∈ r.secrets, held <+: secret ∧ held.length < secret.length := by
  unfold Redactor.isPartial at hheld
  rw [Bool.or_eq_true] at hheld
  rcases hheld with hopens | hsecret
  · obtain ⟨other, hother, -, hlength⟩ := Redactor.opensToken_iff.mp hopens
    have hle := hin.length_le
    rw [h.length] at hle
    rw [hother.length] at hlength
    omega
  · obtain ⟨secret, hmem, hsecret⟩ := List.any_eq_true.mp hsecret
    rw [Bool.and_eq_true, decide_eq_true_eq, List.isPrefixOf_iff_prefix] at hsecret
    exact ⟨secret, hmem, hsecret.2, hsecret.1⟩

/-- Where a token is not the beginning of a longer secret, the loop replaces it, and with it the
    bytes of the longest secret at this place if that is longer. -/
theorem drain_append (h : IsToken word) (r : Redactor) (atEnd : Bool) {rest : List UInt8}
    (hopen : Redactor.isPartial r.secrets (word ++ rest) = false) :
    ∃ length, word.length ≤ length ∧
      r.drain atEnd (word ++ rest) =
        (replacement ++ (r.drain atEnd ((word ++ rest).drop length)).1,
          (r.drain atEnd ((word ++ rest).drop length)).2) := by
  have htoken : word ∈ credentials r.secrets := .inr h
  cases hlongest : Redactor.longest r.secrets (word ++ rest) with
  | none =>
      exact absurd (List.prefix_append word rest)
        (Redactor.longest_eq_none hlongest word htoken)
  | some length =>
      have hle := ((Redactor.longest_eq_some r.nonempty).mp hlongest).2 word htoken
        (List.prefix_append word rest)
      refine ⟨length, hle, ?_⟩
      generalize hinput : word ++ rest = input at hopen hlongest
      fun_cases Redactor.drain r atEnd input with
      | case1 =>
          have hempty : word = [] := (List.append_eq_nil_iff.mp hinput).1
          rw [hempty] at h
          cases h.length
      | case2 _ _ hpartial | case3 _ _ hpartial =>
          rw [hopen] at hpartial
          cases hpartial
      | case4 _ _ _ found hfound =>
          rw [hlongest] at hfound
          cases hfound
          rfl
      | case5 _ _ _ hnone =>
          rw [hlongest] at hnone
          cases hnone

/-- At the end of the bytes, the beginning of a token is held back, and when no more will come it is
    replaced. -/
theorem drain_part (h : IsToken word) (r : Redactor) (atEnd : Bool) {part : List UInt8}
    (hempty : part ≠ []) (hpart : part <+: word) (hne : part ≠ word) :
    r.drain atEnd part = if atEnd then (replacement, []) else ([], part) := by
  have hpartial : Redactor.isPartial r.secrets part = true := by
    rw [Redactor.isPartial, (h.opensToken_part hpart hne).1, Bool.true_or]
  cases part with
  | nil => exact absurd rfl hempty
  | cons byte part => rw [Redactor.drain, if_pos hpartial]

/-- No stream has a token in what it emits. -/
theorem not_mem_stream (h : IsToken word) (secrets chunks : List (List UInt8)) :
    ¬ word <:+: (redactorOf secrets).stream chunks := by
  have hpending : (redactorOf secrets).pending = [] :=
    Redactor.pending_foldl_add secrets Redactor.empty
  rw [Redactor.stream_eq _ hpending]
  refine (Redactor.redacts_scan _ chunks.flatten).conceals (.inr h) ?_ h.not_overlaps
  rintro rfl
  cases h.length

end IsToken

/-- A token that was written is read; the texts that are read are those that are written, one for each
    token: the prefix and 64 lower-case digits; and no text makes the reader panic.

    For the redactor, a text that is read is complete at every place, and each part it begins with is
    unfinished.  So a stream has it nowhere in its output, and what is held back has it only as a part
    of the beginning of a longer secret. -/
theorem AgentToken.credential_grammar :
    (∀ token, fromStr (exposeSecret token) = .ok token) ∧
      (∀ encoded token, fromStr encoded = .ok token ↔ encoded = exposeSecret token) ∧
      (∀ encoded, (∃ token, fromStr encoded = .ok token) ↔
        tokenPrefix <+: encoded ∧ encoded.length = tokenLength ∧
          ∀ digit ∈ encoded.drop tokenPrefix.length, digit ∈ hex) ∧
      (∀ encoded, fromStr encoded ≠ .error .panic) ∧
      ∀ encoded token, fromStr encoded = .ok token →
        (∀ rest, Redactor.token (encoded ++ rest) = some encoded.length ∧
          Redactor.opensToken (encoded ++ rest) = false) ∧
        (∀ part, part ≠ [] → part <+: encoded → part ≠ encoded →
          Redactor.opensToken part = true ∧ Redactor.token part = none) ∧
        (∀ (r : Redactor) (atEnd : Bool) (rest : List UInt8),
          Redactor.isPartial r.secrets (encoded ++ rest) = false →
            ∃ length, encoded.length ≤ length ∧
              r.drain atEnd (encoded ++ rest) =
                (replacement ++ (r.drain atEnd ((encoded ++ rest).drop length)).1,
                  (r.drain atEnd ((encoded ++ rest).drop length)).2)) ∧
        (∀ (r : Redactor) (atEnd : Bool) (part : List UInt8),
          part ≠ [] → part <+: encoded → part ≠ encoded →
            r.drain atEnd part = if atEnd then (replacement, []) else ([], part)) ∧
        (∀ (r : Redactor) (bytes : List UInt8), encoded <:+: (r.push bytes).2.pending →
          ∃ secret ∈ r.secrets, (r.push bytes).2.pending <+: secret ∧
            (r.push bytes).2.pending.length < secret.length) ∧
        ∀ secrets chunks, ¬ encoded <:+: (redactorOf secrets).stream chunks := by
  refine ⟨fromStr_exposeSecret, fun _ _ => fromStr_eq_ok, fun _ => exists_fromStr,
    fromStr_no_panic, fun encoded token hread => ?_⟩
  have htoken := isToken hread
  refine ⟨fun rest => ⟨htoken.token_append rest, htoken.not_opensToken rest⟩,
    fun part _ hpart hne => htoken.opensToken_part hpart hne,
    fun r atEnd rest hopen => htoken.drain_append r atEnd hopen,
    fun r atEnd part hempty hpart hne => htoken.drain_part r atEnd hempty hpart hne,
    fun r bytes hin => ?_, htoken.not_mem_stream⟩
  rw [Redactor.push_eq] at hin ⊢
  rcases r.scanner.scan_left (r.pending ++ bytes) with hnone | hheld
  · -- nothing is held back
    dsimp only at hin
    rw [hnone, List.infix_nil] at hin
    rw [hin] at htoken
    cases htoken.length
  · exact htoken.held hin hheld

end Coterie
