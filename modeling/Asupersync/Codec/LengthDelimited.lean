/-
Length-prefixed framing (`codec/length_delimited.rs`): an encoder that
writes each frame after its length, and a decoder that reads frames
back from a byte stream that arrives in pieces.

# Integers

`usize` is a `Nat` checked against `usize::MAX` where the source checks
it. `isize` and `i64` are `Int`, with the range checks of
`i64::try_from` and of `checked_add` and `checked_sub`; `u64::try_from`
and `usize::try_from` of an `i64` succeed exactly on its non-negative
values. The encoder cuts its `u64` length into bytes with `as` casts and
shifts, so that length is a `UInt64`. `new_codec` asserts that a length
field has 1 to 8 bytes and the codec carries that fact, so the
decoder's `u64` accumulator never overflows and is a `Nat`.

# The decoder's loop

`decode` loops over `DecodeState`, but the loop only goes from `Skip` to
`Head` and from `Head` to `Data`, and it returns from `Data`: it makes
at most three passes, and it is unrolled here into its arms
(`decodeDataArm`, `decodeHeadArm`, which goes on to the `Data` arm, and
`decode`, which starts from the codec's state). An arm returns the
result with the state and the buffer after it.

# Errors

`io::Error::new(kind, message)` is an `IoError` with its kind and text.
-/
import Asupersync.Types.Basic
import Asupersync.Types.BytesMut
import Asupersync.Bytes.Slice

namespace Asupersync

namespace Codec

-- ================================================================ errors

/-- The `io::ErrorKind`s the codec raises. -/
inductive IoErrorKind where
  | InvalidData
  | UnexpectedEof
  deriving DecidableEq, Repr

/-- `io::Error::new(kind, message)`. -/
structure IoError where
  kind : IoErrorKind
  message : String
  deriving DecidableEq, Repr

/-- `io::Error::new(io::ErrorKind::InvalidData, message)`. -/
def invalidData (message : String) : IoError := ⟨.InvalidData, message⟩

/-- `option.ok_or(e)`. -/
def okOr {α ε : Type} (o : Option α) (e : ε) : Except ε α :=
  match o with
  | some a => .ok a
  | none => .error e

-- ======================================================= machine integers

/-- `i64::try_from`, of an integer of any range. -/
def i64TryFrom (x : Int) : Option Int := if -2 ^ 63 ≤ x ∧ x < 2 ^ 63 then some x else none

/-- `u64::try_from` and `usize::try_from` of an integer. -/
def u64TryFrom (x : Int) : Option Nat := if 0 ≤ x ∧ x < 2 ^ 64 then some x.toNat else none

/-- `usize::checked_add`. -/
def usizeCheckedAdd (a b : Nat) : Option Nat := if a + b ≤ usizeMax then some (a + b) else none

theorem i64TryFrom_of_mem {x : Int} (h₁ : -2 ^ 63 ≤ x) (h₂ : x < 2 ^ 63) : i64TryFrom x = some x :=
  if_pos ⟨h₁, h₂⟩

theorem u64TryFrom_of_mem {x : Int} (h₁ : 0 ≤ x) (h₂ : x < 2 ^ 64) : u64TryFrom x = some x.toNat :=
  if_pos ⟨h₁, h₂⟩

theorem usizeCheckedAdd_of_le {a b : Nat} (h : a + b ≤ usizeMax) : usizeCheckedAdd a b = some (a + b) :=
  if_pos h

theorem usizeCheckedAdd_eq_some {a b n : Nat} (h : usizeCheckedAdd a b = some n) :
    n = a + b ∧ a + b ≤ usizeMax := by
  unfold usizeCheckedAdd at h
  split at h
  · cases h
    exact ⟨rfl, ‹_›⟩
  · cases h

theorem okOr_eq_ok {α ε : Type} {o : Option α} {e : ε} {a : α} : okOr o e = .ok a ↔ o = some a := by
  cases o with
  | none => exact ⟨nofun, nofun⟩
  | some b => exact ⟨fun h => by cases h; rfl, fun h => by cases h; rfl⟩

theorem i64TryFrom_eq_some {x y : Int} (h : i64TryFrom x = some y) :
    y = x ∧ -2 ^ 63 ≤ x ∧ x < 2 ^ 63 := by
  unfold i64TryFrom at h
  split at h
  · cases h
    exact ⟨rfl, ‹_›⟩
  · cases h

theorem u64TryFrom_eq_some {x : Int} {n : Nat} (h : u64TryFrom x = some n) :
    n = x.toNat ∧ 0 ≤ x ∧ x < 2 ^ 64 := by
  unfold u64TryFrom at h
  split at h
  · cases h
    exact ⟨rfl, ‹_›⟩
  · cases h

/-- `LengthDelimitedCodecBuilder`. -/
structure LengthDelimitedCodecBuilder where
  lengthFieldOffset : Nat
  lengthFieldLength : Nat
  lengthAdjustment : Int
  numSkip : Option Nat
  maxFrameLength : Nat
  bigEndian : Bool
  deriving DecidableEq, Repr

/-- `LengthDelimitedCodec::builder`: a 4-byte big-endian length in front,
and frames of at most 8 MiB. -/
def LengthDelimitedCodecBuilder.default : LengthDelimitedCodecBuilder where
  lengthFieldOffset := 0
  lengthFieldLength := 4
  lengthAdjustment := 0
  numSkip := none
  maxFrameLength := 8 * 1024 * 1024
  bigEndian := true

/-- `DecodeState`. -/
inductive DecodeState where
  | Head
  | Data (frameLen : Nat)
  | Skip (remaining : Nat)
  deriving DecidableEq, Repr

/-- `LengthDelimitedCodec`, whose length field has 1 to 8 bytes. -/
structure LengthDelimitedCodec where
  builder : LengthDelimitedCodecBuilder
  state : DecodeState
  lengthFieldLength_mem : 1 ≤ builder.lengthFieldLength ∧ builder.lengthFieldLength ≤ 8

/-- `new_codec`, which panics unless the length field has 1 to 8 bytes. -/
def LengthDelimitedCodecBuilder.newCodec (b : LengthDelimitedCodecBuilder) :
    Option LengthDelimitedCodec :=
  if h : 1 ≤ b.lengthFieldLength ∧ b.lengthFieldLength ≤ 8 then some ⟨b, .Head, h⟩ else none

/-- `max_length_field_value`. -/
def maxLengthFieldValue (lengthFieldLength : Nat) : Except IoError Nat :=
  if 1 ≤ lengthFieldLength ∧ lengthFieldLength ≤ 7 then .ok (2 ^ (lengthFieldLength * 8) - 1)
  else if lengthFieldLength = 8 then .ok u64Max
  else .error (invalidData "invalid length_field_length")

/-- A length field holds less than `256 ^ length_field_length`. -/
theorem maxLengthFieldValue_lt {L m : Nat} (h : maxLengthFieldValue L = .ok m) : m < 256 ^ L := by
  unfold maxLengthFieldValue at h
  split at h
  · cases h
    rw [Nat.mul_comm, pow_mul]
    exact Nat.sub_lt (Nat.pow_pos (by decide : 0 < 256)) Nat.one_pos
  · split at h
    · cases h
      subst L
      decide
    · cases h

namespace LengthDelimitedCodec

variable (c : LengthDelimitedCodec)

-- ============================================================== decoding

/-- `decode_head`: the length field at `length_field_offset`, in the
configured byte order. -/
def decodeHead (src : List UInt8) : Except IoError Nat :=
  let offset := c.builder.lengthFieldOffset
  let len := c.builder.lengthFieldLength
  let end_ := min (offset + len) usizeMax
  if src.length < end_ then .error ⟨.UnexpectedEof, "not enough bytes for length field"⟩
  else
    let bytes := Bytes.slice src offset end_
    if c.builder.bigEndian then
      -- `value = (value << 8) | u64::from(b)`
      .ok (bytes.foldl (fun value b => (value <<< 8) ||| b.toNat) 0)
    else
      -- `value |= u64::from(b) << shift.saturating_mul(8)`, `shift` the index
      .ok ((bytes.zipIdx 0).foldl (fun value p => value ||| (p.1.toNat <<< (p.2 * 8))) 0)

/-- `adjusted_frame_len`: the frame's length after the adjustment, checked
against `max_frame_length`. -/
def adjustedFrameLen (len : Nat) : Except IoError Nat := do
  let lenI64 ← okOr (i64TryFrom len) (invalidData "length exceeds i64")
  let adjustment ← okOr (i64TryFrom c.builder.lengthAdjustment)
    (invalidData "length adjustment exceeds i64")
  let adjusted ← okOr (i64TryFrom (lenI64 + adjustment)) (invalidData "length overflow")
  if adjusted < 0 then throw (invalidData "negative frame length")
  let lenUsize ← okOr (u64TryFrom adjusted) (invalidData "length exceeds usize")
  if lenUsize > c.builder.maxFrameLength then
    throw (invalidData "frame length exceeds max_frame_length")
  pure lenUsize

/-- `num_skip`: by default the whole header. -/
def numSkip (headerLen : Nat) : Nat := c.builder.numSkip.getD headerLen

/-- `recovery_wire_suffix_len`: what is left of a refused frame on the
wire, `u64::MAX` when its length is not known. -/
def recoveryWireSuffixLen (headerLen : Nat) (adjustedFrameLen : Option Nat) : Nat :=
  match adjustedFrameLen with
  | none => u64Max
  | some adjustedFrameLen => min (c.numSkip headerLen - headerLen + adjustedFrameLen) u64Max

/-- What one pass of the loop returns: the result, the state and the
buffer after it. -/
abbrev Step := Except IoError (Option (List UInt8)) × DecodeState × List UInt8

/-- The `Data(frame_len)` arm: the frame once all of it is buffered. -/
def decodeDataArm (frameLen : Nat) (src : List UInt8) : Step :=
  if src.length < frameLen then (.ok none, .Data frameLen, src)
  else (.ok (some (src.take frameLen)), .Head, src.drop frameLen)

/-- The `Head` arm, and the `Data` arm it goes on to. A length that fails
its checks is consumed with the header, and the rest of its frame is
skipped. -/
def decodeHeadArm (src : List UInt8) : Step :=
  match usizeCheckedAdd c.builder.lengthFieldOffset c.builder.lengthFieldLength with
  | none =>
    (.error (invalidData "header length (offset + length_field_length) overflows usize"), .Head, src)
  | some headerLen =>
    if src.length < headerLen then (.ok none, .Head, src) else
    match c.decodeHead src with
    | .error e => (.error e, .Head, src)
    | .ok rawLen =>
      let numSkip := c.numSkip headerLen
      match c.adjustedFrameLen rawLen with
      | .error e =>
        -- the body still to come, from the adjusted length when it has one
        let adjustedFrameLen := ((i64TryFrom c.builder.lengthAdjustment).bind fun adj =>
          (i64TryFrom rawLen).bind fun l => i64TryFrom (l + adj)).filter (fun adjusted => 0 ≤ adjusted)
          |>.bind u64TryFrom
        (.error e, .Skip (c.recoveryWireSuffixLen headerLen adjustedFrameLen), src.drop headerLen)
      | .ok frameLen =>
        let wirePrefixLen := max headerLen numSkip
        -- `u64::try_from(usize)` always succeeds on a 64-bit target
        let adjustedFrameLen := some frameLen
        match usizeCheckedAdd wirePrefixLen frameLen with
        | none =>
          (.error (invalidData "frame length overflow"),
            .Skip (c.recoveryWireSuffixLen headerLen adjustedFrameLen), src.drop headerLen)
        | some totalFrameLen =>
          if totalFrameLen < numSkip then
            (.error (invalidData "num_skip exceeds total frame length"),
              .Skip (c.recoveryWireSuffixLen headerLen adjustedFrameLen), src.drop headerLen)
          else
            let retainedLen := totalFrameLen - numSkip
            if src.length < totalFrameLen then (.ok none, .Head, src) else
            let src := if numSkip > 0 then src.drop numSkip else src
            decodeDataArm retainedLen src

/-- `Decoder::decode`, from the codec's state. -/
def decode (src : List UInt8) :
    Except IoError (Option (List UInt8)) × LengthDelimitedCodec × List UInt8 :=
  let (result, state, src) : Step := match c.state with
    | .Head => c.decodeHeadArm src
    | .Data frameLen => decodeDataArm frameLen src
    | .Skip remaining =>
      -- drain what is buffered of the refused frame, then read on
      let drain := min remaining src.length
      let src := if drain > 0 then src.drop drain else src
      let newRemaining := remaining - drain
      if newRemaining = 0 then c.decodeHeadArm src else (.ok none, .Skip newRemaining, src)
  (result, { c with state }, src)

-- ============================================================== encoding

/-- The length field as `encode` writes it, in each byte order and for
each width; the source spells out every case. -/
def writeLengthField (bigEndian : Bool) (lengthFieldLength : Nat) (v : UInt64) :
    EStateM IoError (List UInt8) Unit :=
  if bigEndian then
    match lengthFieldLength with
    | 1 => BytesMut.putU8 v.toUInt8
    | 2 => BytesMut.putU16 v.toUInt16
    | 3 => do
      BytesMut.putU8 (v >>> 16).toUInt8
      BytesMut.extendFromSlice (Bytes.putU16 v.toUInt16)
    | 4 => BytesMut.extendFromSlice (Bytes.putU32 v.toUInt32)
    | 5 => do
      BytesMut.putU8 (v >>> 32).toUInt8
      BytesMut.extendFromSlice (Bytes.putU32 v.toUInt32)
    | 6 => do
      BytesMut.extendFromSlice (Bytes.putU16 (v >>> 32).toUInt16)
      BytesMut.extendFromSlice (Bytes.putU32 v.toUInt32)
    | 7 => do
      BytesMut.putU8 (v >>> 48).toUInt8
      BytesMut.extendFromSlice (Bytes.putU16 (v >>> 32).toUInt16)
      BytesMut.extendFromSlice (Bytes.putU32 v.toUInt32)
    | 8 => BytesMut.extendFromSlice (Bytes.putU64 v)
    | _ => throw (invalidData "invalid length_field_length")
  else
    match lengthFieldLength with
    | 1 => BytesMut.putU8 v.toUInt8
    | 2 => BytesMut.putU16Le v.toUInt16
    | 3 => do
      BytesMut.putU16Le v.toUInt16
      BytesMut.putU8 (v >>> 16).toUInt8
    | 4 => BytesMut.putU32Le v.toUInt32
    | 5 => do
      BytesMut.putU32Le v.toUInt32
      BytesMut.putU8 (v >>> 32).toUInt8
    | 6 => do
      BytesMut.putU32Le v.toUInt32
      BytesMut.putU16Le (v >>> 32).toUInt16
    | 7 => do
      BytesMut.putU32Le v.toUInt32
      BytesMut.putU16Le (v >>> 32).toUInt16
      BytesMut.putU8 (v >>> 48).toUInt8
    | 8 => BytesMut.putU64Le v
    | _ => throw (invalidData "invalid length_field_length")

/-- `Encoder::encode`: the length `frame_len - length_adjustment` in the
length field, then the frame. `length_field_offset` and `num_skip`
change nothing on the wire. -/
def encode (item : List UInt8) : EStateM IoError (List UInt8) Unit := do
  let frameLen := item.length
  if c.builder.lengthFieldOffset = usizeMax then
    throw (invalidData "header length overflow: length_field_offset at maximum value")
  let headerLen ← MonadExcept.ofExcept
    (okOr (usizeCheckedAdd c.builder.lengthFieldOffset c.builder.lengthFieldLength)
      (invalidData "header length overflow"))
  let _totalReservation ← MonadExcept.ofExcept
    (okOr (usizeCheckedAdd headerLen frameLen) (invalidData "total reservation overflow"))
  let adjustment ← MonadExcept.ofExcept
    (okOr (i64TryFrom c.builder.lengthAdjustment) (invalidData "length adjustment exceeds i64"))
  let frameLenI64 ← MonadExcept.ofExcept
    (okOr (i64TryFrom frameLen) (invalidData "frame length exceeds i64"))
  let adjustedLen ← MonadExcept.ofExcept
    (okOr (i64TryFrom (frameLenI64 - adjustment)) (invalidData "length underflow"))
  if adjustedLen < 0 then throw (invalidData "negative encoded length")
  let lengthToEncode ← MonadExcept.ofExcept
    (okOr (u64TryFrom adjustedLen) (invalidData "encoded length exceeds u64"))
  let maxLengthValue ← MonadExcept.ofExcept (maxLengthFieldValue c.builder.lengthFieldLength)
  if lengthToEncode > maxLengthValue then
    throw (invalidData "encoded length exceeds length_field_length capacity")
  if frameLen > c.builder.maxFrameLength then
    throw (invalidData "frame length exceeds max_frame_length")
  let _totalLen ← MonadExcept.ofExcept
    (okOr (usizeCheckedAdd headerLen frameLen) (invalidData "frame buffer reservation overflows usize"))
  let _wireLen ← MonadExcept.ofExcept
    (okOr (usizeCheckedAdd c.builder.lengthFieldLength frameLen)
      (invalidData "wire buffer reservation overflows usize"))
  writeLengthField c.builder.bigEndian c.builder.lengthFieldLength lengthToEncode.toUInt64
  BytesMut.extendFromSlice item

end LengthDelimitedCodec

end Codec

end Asupersync
