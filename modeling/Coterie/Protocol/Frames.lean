/-
  Coterie.Protocol.Frames

  Frames of the local RPC (`protocol.rs`: `write_frame`, `read_frame`): four bytes of length, most
  significant first, and the encoded message.

  A stream of frames is read back frame by frame.  `read_cut` is the main result: of a stream that is
  cut anywhere, exactly the frames before the cut are read, and the next read fails.
-/

import Coterie.Base.Except
import Coterie.Base.Numeral
import Coterie.Base.Tx

namespace Coterie

namespace Frames

/-! ## Frames -/

/-- The longest message. -/
def maximumFrameLength : Nat := 1024 * 1024

/-- Why a frame is not transmitted. -/
inductive FrameError where
  | unexpectedEof
  | tooLarge (length maximum : Nat)
  | encode (error : String)
  | decode (error : String)
deriving DecidableEq, Repr

/-- The JSON form of a message type. -/
structure Codec (T : Type) where
  toVec : T → Except String (List UInt8)
  fromSlice : List UInt8 → Except String T

/-- Decoding undoes encoding. -/
def Codec.Undoes {T : Type} (codec : Codec T) : Prop :=
  ∀ value encoded, codec.toVec value = .ok encoded → codec.fromSlice encoded = .ok value

/-- A 32-bit length as four bytes. -/
def toBeBytes (length : Nat) : List UInt8 :=
  (Numeral.digits 256 4 length).map UInt8.ofFin

/-- The length that four bytes stand for. -/
def fromBeBytes (header : List UInt8) : Nat :=
  Numeral.value (header.map UInt8.toFin)

variable {T : Type}

/-- Write a message as a frame. -/
def writeFrame (codec : Codec T) (value : T) : Tx (List UInt8) FrameError Unit := do
  let encoded ← Tx.ofExcept ((codec.toVec value).mapError .encode)
  Tx.require (.tooLarge encoded.length maximumFrameLength) fun _ =>
    encoded.length ≤ maximumFrameLength
  Tx.require (.tooLarge encoded.length maximumFrameLength) fun _ => encoded.length < 2 ^ 32
  Tx.write (· ++ toBeBytes encoded.length)
  Tx.write (· ++ encoded)

/-- Read some bytes, all of them or none. -/
def readExact (length : Nat) : Tx (List UInt8) FrameError (List UInt8) :=
  ⟨fun stream =>
    if length ≤ stream.length then (.ok (stream.take length), stream.drop length)
    else (.error .unexpectedEof, [])⟩

/-- Read a message from a frame. -/
def readFrame (codec : Codec T) : Tx (List UInt8) FrameError T := do
  let header ← readExact 4
  Tx.require (.tooLarge (fromBeBytes header) maximumFrameLength) fun _ =>
    fromBeBytes header ≤ maximumFrameLength
  let encoded ← readExact (fromBeBytes header)
  Tx.ofExcept ((codec.fromSlice encoded).mapError .decode)

/-- Read some messages, one after the other. -/
def readFrames (codec : Codec T) : Nat → Tx (List UInt8) FrameError (List T)
  | 0 => pure []
  | count + 1 => do
      let value ← readFrame codec
      let values ← readFrames codec count
      pure (value :: values)

/-! ## One frame -/

@[simp]
theorem length_toBeBytes (length : Nat) : (toBeBytes length).length = 4 := by
  rw [toBeBytes, List.length_map, Numeral.length_digits]

theorem fromBeBytes_toBeBytes {length : Nat} (h : length < 2 ^ 32) :
    fromBeBytes (toBeBytes length) = length := by
  rw [fromBeBytes, toBeBytes, List.map_map]
  have hid : UInt8.toFin ∘ UInt8.ofFin = id := by
    funext digit
    rfl
  rw [hid, List.map_id]
  exact Numeral.value_digits (by omega)

theorem readExact_append (bytes rest : List UInt8) :
    (readExact bytes.length).run (bytes ++ rest) = (.ok bytes, rest) := by
  unfold readExact
  dsimp only
  rw [if_pos (by rw [List.length_append]; omega), List.take_left, List.drop_left]

theorem readExact_short {length : Nat} {stream : List UInt8} (h : stream.length < length) :
    (readExact length).run stream = (.error .unexpectedEof, []) := by
  unfold readExact
  dsimp only
  rw [if_neg (by omega)]

variable {codec : Codec T}

/-- The frame of an encoded message. -/
def frameOf (encoded : List UInt8) : List UInt8 :=
  toBeBytes encoded.length ++ encoded

theorem length_frameOf (encoded : List UInt8) : (frameOf encoded).length = 4 + encoded.length := by
  rw [frameOf, List.length_append, length_toBeBytes]

/-- A length within the limit is accepted. -/
theorem require_fits {length : Nat} {error : FrameError} (hfits : length ≤ maximumFrameLength)
    (stream : List UInt8) :
    (Tx.require error fun _ => length ≤ maximumFrameLength).run stream = (.ok (), stream) := by
  rw [Tx.run_require, if_pos (decide_eq_true hfits)]

theorem require_exceeds {length : Nat} {error : FrameError} (hlong : maximumFrameLength < length)
    (stream : List UInt8) :
    (Tx.require error fun _ => length ≤ maximumFrameLength).run stream = (.error error, stream) := by
  rw [Tx.run_require, if_neg (by rw [decide_eq_true_eq]; exact Nat.not_le_of_lt hlong)]

/-- What fits a frame has a 32-bit length. -/
theorem lt_of_fits {length : Nat} (hfits : length ≤ maximumFrameLength) : length < 2 ^ 32 :=
  Nat.lt_of_le_of_lt hfits (by decide)

theorem encode_ok {value : T} {encoded : List UInt8} (h : codec.toVec value = .ok encoded)
    (stream : List UInt8) :
    (Tx.ofExcept ((codec.toVec value).mapError FrameError.encode)).run stream =
      (.ok encoded, stream) := by
  rw [Tx.run_ofExcept, h]
  rfl

/-- A message that fits is appended as its frame. -/
theorem writeFrame_fits {value : T} {encoded : List UInt8} (h : codec.toVec value = .ok encoded)
    (hfits : encoded.length ≤ maximumFrameLength) (written : List UInt8) :
    (writeFrame codec value).run written = (.ok (), written ++ frameOf encoded) := by
  have hlength : (Tx.require (FrameError.tooLarge encoded.length maximumFrameLength) fun _ =>
      encoded.length < 2 ^ 32).run written = (.ok (), written) := by
    rw [Tx.run_require, if_pos (decide_eq_true (lt_of_fits hfits))]
  unfold writeFrame
  rw [Tx.run_bind_of_ok (encode_ok h written), Tx.run_bind_of_ok (require_fits hfits written),
    Tx.run_bind_of_ok hlength, Tx.run_bind_of_ok (Tx.run_write _ _), Tx.run_write,
    List.append_assoc, ← frameOf]

/-- A message that is too long writes nothing. -/
theorem writeFrame_tooLarge {value : T} {encoded : List UInt8}
    (h : codec.toVec value = .ok encoded) (hlong : maximumFrameLength < encoded.length)
    (written : List UInt8) :
    (writeFrame codec value).run written =
      (.error (.tooLarge encoded.length maximumFrameLength), written) := by
  unfold writeFrame
  rw [Tx.run_bind_of_ok (encode_ok h written),
    Tx.run_bind_of_error (require_exceeds hlong written)]

/-- A frame with a body of the length that its header gives is read as a whole, whatever the body
    decodes to. -/
theorem readFrame_body {header body : List UInt8} (hheader : header.length = 4)
    (hlength : fromBeBytes header = body.length) (hfits : body.length ≤ maximumFrameLength)
    (rest : List UInt8) :
    (readFrame codec).run (header ++ body ++ rest) =
      ((codec.fromSlice body).mapError .decode, rest) := by
  have hread := readExact_append header (body ++ rest)
  rw [hheader] at hread
  unfold readFrame
  rw [List.append_assoc, Tx.run_bind_of_ok hread, hlength,
    Tx.run_bind_of_ok (require_fits hfits _), Tx.run_bind_of_ok (readExact_append body rest),
    Tx.run_ofExcept]

/-- A length above the limit is refused with the body unread. -/
theorem readFrame_tooLarge {header : List UInt8} (hheader : header.length = 4)
    (hlong : maximumFrameLength < fromBeBytes header) (rest : List UInt8) :
    (readFrame codec).run (header ++ rest) =
      (.error (.tooLarge (fromBeBytes header) maximumFrameLength), rest) := by
  have hread := readExact_append header rest
  rw [hheader] at hread
  unfold readFrame
  rw [Tx.run_bind_of_ok hread, Tx.run_bind_of_error (require_exceeds hlong rest)]

theorem readFrame_frameOf {encoded : List UInt8} (hfits : encoded.length ≤ maximumFrameLength)
    (rest : List UInt8) :
    (readFrame codec).run (frameOf encoded ++ rest) =
      ((codec.fromSlice encoded).mapError .decode, rest) := by
  rw [frameOf]
  exact readFrame_body (length_toBeBytes _) (fromBeBytes_toBeBytes (lt_of_fits hfits)) hfits rest

/-- A message is read back from its frame. -/
theorem readFrame_encoded (hundoes : codec.Undoes) {value : T} {encoded : List UInt8}
    (h : codec.toVec value = .ok encoded) (hfits : encoded.length ≤ maximumFrameLength)
    (rest : List UInt8) :
    (readFrame codec).run (frameOf encoded ++ rest) = (.ok value, rest) := by
  rw [readFrame_frameOf hfits, hundoes value encoded h]
  rfl

/-- A part of a frame is no frame. -/
theorem readFrame_cut {encoded : List UInt8} (hfits : encoded.length ≤ maximumFrameLength)
    {cut : Nat} (hcut : cut < (frameOf encoded).length) :
    (readFrame codec).run ((frameOf encoded).take cut) = (.error .unexpectedEof, []) := by
  rw [length_frameOf] at hcut
  unfold readFrame
  by_cases hheader : cut < 4
  · have hshort : ((frameOf encoded).take cut).length < 4 := by
      rw [List.length_take]
      omega
    rw [Tx.run_bind_of_error (readExact_short hshort)]
  · have hsplit : (frameOf encoded).take cut =
        toBeBytes encoded.length ++ encoded.take (cut - 4) := by
      rw [frameOf, List.take_append, length_toBeBytes, List.take_of_length_le]
      rw [length_toBeBytes]
      omega
    have hread := readExact_append (toBeBytes encoded.length) (encoded.take (cut - 4))
    rw [length_toBeBytes] at hread
    have hshort : (encoded.take (cut - 4)).length < encoded.length := by
      rw [List.length_take]
      omega
    rw [hsplit, Tx.run_bind_of_ok hread, fromBeBytes_toBeBytes (lt_of_fits hfits),
      Tx.run_bind_of_ok (require_fits hfits _), Tx.run_bind_of_error (readExact_short hshort)]

/-! ## Streams of frames -/

/-- The messages with their encodings, each of which fits a frame. -/
def Encodes (codec : Codec T) : List T → List (List UInt8) → Prop :=
  List.Forall₂ fun value encoded =>
    codec.toVec value = .ok encoded ∧ encoded.length ≤ maximumFrameLength

theorem Encodes.exists {values : List T}
    (h : ∀ value ∈ values, ∃ encoded, codec.toVec value = .ok encoded ∧
      encoded.length ≤ maximumFrameLength) :
    ∃ bodies, Encodes codec values bodies := by
  induction values with
  | nil => exact ⟨[], .nil⟩
  | cons value values ih =>
      obtain ⟨encoded, hvalue⟩ := h value List.mem_cons_self
      obtain ⟨bodies, hvalues⟩ := ih fun other hother => h other (List.mem_cons_of_mem _ hother)
      exact ⟨encoded :: bodies, .cons hvalue hvalues⟩

/-- Messages are written one frame after the other. -/
theorem write_all {values : List T} {bodies : List (List UInt8)} (h : Encodes codec values bodies)
    (written : List UInt8) :
    (Tx.each (writeFrame codec) values).run written = (.ok (), written ++ bodies.flatMap frameOf) := by
  induction h generalizing written with
  | nil => rw [List.flatMap_nil, List.append_nil]; rfl
  | cons hvalue _ ih =>
      rw [Tx.each_cons, Tx.run_bind_of_ok (writeFrame_fits hvalue.1 hvalue.2 written), ih,
        List.flatMap_cons, List.append_assoc]

theorem readFrames_zero (stream : List UInt8) :
    (readFrames codec 0).run stream = (.ok [], stream) := by
  rw [readFrames, Tx.run_pure]

theorem readFrames_succ {value : T} {values : List T} {count : Nat}
    {stream stream' left : List UInt8} (hread : (readFrame codec).run stream = (.ok value, stream'))
    (hrest : (readFrames codec count).run stream' = (.ok values, left)) :
    (readFrames codec (count + 1)).run stream = (.ok (value :: values), left) := by
  rw [readFrames, Tx.run_bind_of_ok hread, Tx.run_bind_of_ok hrest, Tx.run_pure]

/-- All messages are read back. -/
theorem read_all (hundoes : codec.Undoes) {values : List T} {bodies : List (List UInt8)}
    (h : Encodes codec values bodies) :
    (readFrames codec values.length).run (bodies.flatMap frameOf) = (.ok values, []) := by
  induction h with
  | nil => exact readFrames_zero []
  | @cons value encoded values bodies hvalue _ ih =>
      rw [List.flatMap_cons, List.length_cons]
      exact readFrames_succ (readFrame_encoded hundoes hvalue.1 hvalue.2 _) ih

/-- Of a stream that is cut, the frames before the cut are read, and then reading fails. -/
theorem read_cut (hundoes : codec.Undoes) {values : List T} {bodies : List (List UInt8)}
    (h : Encodes codec values bodies) (cut : Nat) :
    ∃ whole : Nat, whole ≤ values.length ∧
      (∀ count ≤ values.length,
        count ≤ whole ↔ ((bodies.take count).flatMap frameOf).length ≤ cut) ∧
      ∃ left, (readFrames codec whole).run ((bodies.flatMap frameOf).take cut) =
          (.ok (values.take whole), left) ∧
        (readFrame codec).run left = (.error .unexpectedEof, []) := by
  induction h generalizing cut with
  | nil =>
      refine ⟨0, Nat.le_refl _, ?_, [], ?_, rfl⟩
      · intro count hcount
        rw [Nat.le_zero.mp hcount]
        exact iff_of_true (Nat.le_refl 0) (Nat.zero_le cut)
      · rw [List.flatMap_nil, List.take_nil, List.take_nil]
        exact readFrames_zero []
  | @cons value encoded values bodies hvalue hvalues ih =>
      obtain ⟨hencoded, hfits⟩ := hvalue
      by_cases hcut : cut < (frameOf encoded).length
      · refine ⟨0, Nat.zero_le _, ?_, (frameOf encoded).take cut, ?_, readFrame_cut hfits hcut⟩
        · intro count _
          cases count with
          | zero => simp
          | succ count =>
              rw [List.take_succ_cons, List.flatMap_cons, List.length_append]
              omega
        · rw [List.flatMap_cons, List.take_append_of_le_length (by omega)]
          exact readFrames_zero _
      · obtain ⟨whole, hwhole, hcounts, left, hread, hend⟩ := ih (cut - (frameOf encoded).length)
        refine ⟨whole + 1, Nat.succ_le_succ hwhole, ?_, left, ?_, hend⟩
        · intro count hcount
          cases count with
          | zero => simp
          | succ count =>
              have hrest := hcounts count (Nat.le_of_succ_le_succ hcount)
              rw [List.take_succ_cons, List.flatMap_cons, List.length_append]
              omega
        · have hsplit : ((encoded :: bodies).flatMap frameOf).take cut = frameOf encoded ++
              (bodies.flatMap frameOf).take (cut - (frameOf encoded).length) := by
            rw [List.flatMap_cons, List.take_append, List.take_of_length_le (by omega)]
          rw [hsplit, List.take_succ_cons]
          exact readFrames_succ (readFrame_encoded hundoes hencoded hfits _) hread

end Frames

/-- Frames round trip.  Messages that fit are written one frame after the other, and from any cut of
    the stream exactly the messages whose frames end before the cut are read, and then the end of
    the stream; without a cut these are all of them.  A body that does not decode takes its own
    frame only, a length above the limit is refused with the body unread, and a message above the
    limit is refused with nothing written. -/
theorem Frames.frames_round_trip {T : Type} (codec : Codec T) (hundoes : codec.Undoes) :
    (∀ values : List T,
      (∀ value ∈ values, ∃ encoded, codec.toVec value = .ok encoded ∧
        encoded.length ≤ maximumFrameLength) →
      ∃ bodies, Encodes codec values bodies ∧
        (Tx.each (writeFrame codec) values).run [] = (.ok (), bodies.flatMap frameOf) ∧
        (readFrames codec values.length).run (bodies.flatMap frameOf) = (.ok values, []) ∧
        (readFrame codec).run [] = (.error .unexpectedEof, []) ∧
        ∀ cut, ∃ whole : Nat, whole ≤ values.length ∧
          (∀ count ≤ values.length,
            count ≤ whole ↔ ((bodies.take count).flatMap frameOf).length ≤ cut) ∧
          ∃ left, (readFrames codec whole).run ((bodies.flatMap frameOf).take cut) =
              (.ok (values.take whole), left) ∧
            (readFrame codec).run left = (.error .unexpectedEof, [])) ∧
    (∀ header body rest error, header.length = 4 → fromBeBytes header = body.length →
      body.length ≤ maximumFrameLength → codec.fromSlice body = .error error →
        (readFrame codec).run (header ++ body ++ rest) = (.error (.decode error), rest)) ∧
    (∀ header rest, header.length = 4 → maximumFrameLength < fromBeBytes header →
      (readFrame codec).run (header ++ rest) =
        (.error (.tooLarge (fromBeBytes header) maximumFrameLength), rest)) ∧
    (∀ value encoded written, codec.toVec value = .ok encoded →
      maximumFrameLength < encoded.length →
        (writeFrame codec value).run written =
          (.error (.tooLarge encoded.length maximumFrameLength), written)) := by
  refine ⟨?_, ?_, ?_, ?_⟩
  · intro values hvalues
    obtain ⟨bodies, hbodies⟩ := Encodes.exists hvalues
    refine ⟨bodies, hbodies, write_all hbodies [], ?_, rfl, read_cut hundoes hbodies⟩
    exact read_all hundoes hbodies
  · intro header body rest error hheader hlength hfits herror
    rw [readFrame_body hheader hlength hfits, herror]
    rfl
  · intro header rest hheader hlong
    exact readFrame_tooLarge hheader hlong rest
  · intro value encoded written hencoded hlong
    exact writeFrame_tooLarge hencoded hlong written

namespace Frames

/-- The JSON form of a truth value. -/
def boolBytes : Bool → List UInt8
  | true => [0x74, 0x72, 0x75, 0x65]
  | false => [0x66, 0x61, 0x6c, 0x73, 0x65]

def boolCodec : Codec Bool where
  toVec value := .ok (boolBytes value)
  fromSlice encoded :=
    if encoded = boolBytes true then .ok true
    else if encoded = boolBytes false then .ok false
    else .error "expected a boolean"

theorem frames_round_trip_bool :
    ∃ stream, (Tx.each (writeFrame boolCodec) [true, false]).run [] = (.ok (), stream) ∧
      (readFrames boolCodec 2).run stream = (.ok [true, false], []) := by
  have hundoes : boolCodec.Undoes := by
    intro value encoded h
    cases h
    cases value with
    | true => rfl
    | false => rfl
  obtain ⟨bodies, -, hwrite, hread, -⟩ := (frames_round_trip boolCodec hundoes).1 [true, false] (by
    intro value _
    refine ⟨boolBytes value, rfl, ?_⟩
    cases value with
    | true => exact Nat.le_of_ble_eq_true rfl
    | false => exact Nat.le_of_ble_eq_true rfl)
  exact ⟨_, hwrite, hread⟩

end Frames

end Coterie
