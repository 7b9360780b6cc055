/-
Length-delimited framing round-trips (`codec/length_delimited.rs`):
frames that `encode` writes, fed to `decode` in pieces of any sizes,
come back whole and in order, with no error.

# The encoder

`encode` makes all of its checks before it writes (`encode_appends`,
against `wire`). When it succeeds it appends the length field, which
holds `frame_len - length_adjustment` in `length_field_length` bytes,
and then the frame. The source spells out the field for each width and
byte order; each of the sixteen layouts is the low bytes of the length
in that order (`writeLengthField_appends`). What `encode` accepts is
`Accepted`: its checks, as facts about the frame's length.

# The decoder on a stream of frames

With the length field at offset 0 and the whole header skipped, a codec
in its `Head` state returns a frame once all of it is buffered and is
ready for the next header (`decode_frame`). A buffer of whole frames is
therefore drained to nothing, each frame returned in turn
(`drainsTo_frames`). What the decoder returns does not depend on the
chunking (`feedsTo_iff_drainsTo`, in `Decode`), so the chunks of any
split yield the frames too (`length_delimited_chunked_round_trip`).
-/
import Asupersync.Proofs.Codec.Decode
import Mathlib

namespace Asupersync

namespace Codec

open Machine (Appends)

namespace LengthDelimitedCodec

-- ========================================================= the length field

/-- The bytes of a length field of \x60L\x60 bytes holding \x60v\x60. -/
def fieldBytes (bigEndian : Bool) (L v : Nat) : List UInt8 :=
  if bigEndian then Bytes.bytesBE L v else Bytes.bytesLE L v

@[simp] theorem length_fieldBytes (bigEndian : Bool) (L v : Nat) :
    (fieldBytes bigEndian L v).length = L := by
  cases bigEndian <;> simp [fieldBytes, Bytes.bytesBE]

/-- Each layout of the length field is the low bytes of the length, in the
configured order. -/
theorem writeLengthField_appends (bigEndian : Bool) {L : Nat} (hL : 1 ≤ L ∧ L ≤ 8) (v : UInt64) :
    Appends (writeLengthField bigEndian L v) (.ok (fieldBytes bigEndian L v.toNat)) := by
  obtain ⟨h1, h8⟩ := hL
  intro s
  -- one case for each width and byte order the source writes out
  interval_cases L <;> cases bigEndian <;>
  · simp only [writeLengthField, fieldBytes, BytesMut.putU8, BytesMut.putU16, BytesMut.putU16Le,
      BytesMut.putU32Le, BytesMut.putU64Le, BytesMut.extendFromSlice, EStateM.run_bind,
      EStateM.run_modify, Bool.false_eq_true, if_true, if_false, List.append_assoc,
      EStateM.Result.ok.injEq, List.append_cancel_left_eq, true_and]
    apply List.map_injective_iff.mpr (fun _ _ h => UInt8.toNat_inj.mp h)
    simp [Bytes.bytesBE, Bytes.bytesLE, Bytes.putU16, Bytes.putU32, Bytes.putU64, Bytes.putU16Le,
      Bytes.putU32Le, Bytes.putU64Le, Nat.shiftRight_eq_div_pow] <;> omega

/-- The decoder's reading of a length field: the value, when it fits. -/
theorem fold_fieldBytes (bigEndian : Bool) {L v : Nat} (hv : v < 256 ^ L) :
    (if bigEndian then (fieldBytes bigEndian L v).foldl (fun value b => (value <<< 8) ||| b.toNat) 0
      else ((fieldBytes bigEndian L v).zipIdx 0).foldl
        (fun value p => value ||| (p.1.toNat <<< (p.2 * 8))) 0) = v := by
  cases bigEndian with
  | true =>
    rw [if_pos rfl, fieldBytes, if_pos rfl, Bytes.foldl_shift_or, Bytes.bytesBE, List.reverse_reverse,
      Bytes.ofBytesLE_bytesLE, Nat.mod_eq_of_lt hv]
    simp
  | false =>
    rw [if_neg Bool.false_ne_true, fieldBytes, if_neg Bool.false_ne_true,
      Bytes.foldl_zipIdx_or_shift _ 0 0 Nat.one_pos, Bytes.ofBytesLE_bytesLE, Nat.mod_eq_of_lt hv]
    simp

-- ================================================================ encoding

variable (c : LengthDelimitedCodec)

/-- What \x60encode\x60 does, as a value: the first check that fails, or the
bytes it appends. -/
def wire (item : List UInt8) : Except IoError (List UInt8) :=
  if c.builder.lengthFieldOffset = usizeMax then
    .error (invalidData "header length overflow: length_field_offset at maximum value") else
  (okOr (usizeCheckedAdd c.builder.lengthFieldOffset c.builder.lengthFieldLength)
    (invalidData "header length overflow")).bind fun headerLen =>
  (okOr (usizeCheckedAdd headerLen item.length) (invalidData "total reservation overflow")).bind
    fun _ =>
  (okOr (i64TryFrom c.builder.lengthAdjustment) (invalidData "length adjustment exceeds i64")).bind
    fun adjustment =>
  (okOr (i64TryFrom item.length) (invalidData "frame length exceeds i64")).bind fun frameLenI64 =>
  (okOr (i64TryFrom (frameLenI64 - adjustment)) (invalidData "length underflow")).bind
    fun adjustedLen =>
  if adjustedLen < 0 then .error (invalidData "negative encoded length") else
  (okOr (u64TryFrom adjustedLen) (invalidData "encoded length exceeds u64")).bind
    fun lengthToEncode =>
  (maxLengthFieldValue c.builder.lengthFieldLength).bind fun maxLengthValue =>
  if lengthToEncode > maxLengthValue then
    .error (invalidData "encoded length exceeds length_field_length capacity") else
  if item.length > c.builder.maxFrameLength then
    .error (invalidData "frame length exceeds max_frame_length") else
  (okOr (usizeCheckedAdd headerLen item.length)
    (invalidData "frame buffer reservation overflows usize")).bind fun _ =>
  (okOr (usizeCheckedAdd c.builder.lengthFieldLength item.length)
    (invalidData "wire buffer reservation overflows usize")).bind fun _ =>
  .ok (fieldBytes c.builder.bigEndian c.builder.lengthFieldLength lengthToEncode.toUInt64.toNat ++
    item)

/-- \x60encode\x60 makes all of its checks before it writes. -/
theorem encode_appends (item : List UInt8) : Appends (c.encode item) (c.wire item) := by
  unfold encode wire
  dsimp only
  exact Appends.guard _ (Appends.ofExcept_bind fun _ => Appends.ofExcept_bind fun _ =>
    Appends.ofExcept_bind fun _ => Appends.ofExcept_bind fun _ => Appends.ofExcept_bind fun _ =>
    Appends.guard _ (Appends.ofExcept_bind fun _ => Appends.ofExcept_bind fun _ =>
    Appends.guard _ (Appends.guard _ (Appends.ofExcept_bind fun _ => Appends.ofExcept_bind fun _ =>
    Appends.seq (writeLengthField_appends _ c.lengthFieldLength_mem _)
      (BytesMut.extendFromSlice_appends item)))))

/-- What \x60encode\x60 accepting a frame says of it, with \x60v\x60 the value it
puts in the length field: the checks that decoding the frame relies on. -/
structure Accepted (item : List UInt8) (v : Nat) : Prop where
  header : c.builder.lengthFieldOffset + c.builder.lengthFieldLength ≤ usizeMax
  adjustment : -2 ^ 63 ≤ c.builder.lengthAdjustment ∧ c.builder.lengthAdjustment < 2 ^ 63
  value : (v : Int) = item.length - c.builder.lengthAdjustment
  value_lt : v < 2 ^ 63
  length_lt : item.length < 2 ^ 63
  fits : v < 256 ^ c.builder.lengthFieldLength
  maxFrame : item.length ≤ c.builder.maxFrameLength
  total : c.builder.lengthFieldOffset + c.builder.lengthFieldLength + item.length ≤ usizeMax

/-- A frame \x60encode\x60 accepts goes on the wire as its length field and
itself. -/
theorem wire_eq_ok {item out : List UInt8} (h : c.wire item = .ok out) :
    ∃ v, c.Accepted item v ∧ out = fieldBytes c.builder.bigEndian c.builder.lengthFieldLength v ++ item := by
  unfold wire at h
  by_cases hoff : c.builder.lengthFieldOffset = usizeMax
  · rw [if_pos hoff] at h
    nomatch h
  rw [if_neg hoff] at h
  -- peel the checks off in the order \x60encode\x60 makes them
  obtain ⟨headerLen, hhl, h⟩ := Machine.bind_eq_ok.mp h
  obtain ⟨_, -, h⟩ := Machine.bind_eq_ok.mp h
  obtain ⟨adjustment, hadj, h⟩ := Machine.bind_eq_ok.mp h
  obtain ⟨frameLen, hfl, h⟩ := Machine.bind_eq_ok.mp h
  obtain ⟨adjusted, hal, h⟩ := Machine.bind_eq_ok.mp h
  by_cases hneg : adjusted < 0
  · rw [if_pos hneg] at h
    nomatch h
  rw [if_neg hneg] at h
  obtain ⟨v, hv, h⟩ := Machine.bind_eq_ok.mp h
  obtain ⟨maxValue, hmax, h⟩ := Machine.bind_eq_ok.mp h
  by_cases hcap : v > maxValue
  · rw [if_pos hcap] at h
    nomatch h
  rw [if_neg hcap] at h
  by_cases hmaxFrame : item.length > c.builder.maxFrameLength
  · rw [if_pos hmaxFrame] at h
    nomatch h
  rw [if_neg hmaxFrame] at h
  obtain ⟨_, htotal, h⟩ := Machine.bind_eq_ok.mp h
  obtain ⟨_, -, h⟩ := Machine.bind_eq_ok.mp h
  cases h
  -- what each check gave
  obtain ⟨rfl, hheader⟩ := usizeCheckedAdd_eq_some (okOr_eq_ok.mp hhl)
  obtain ⟨rfl, hadjustment⟩ := i64TryFrom_eq_some (okOr_eq_ok.mp hadj)
  obtain ⟨rfl, hlength⟩ := i64TryFrom_eq_some (okOr_eq_ok.mp hfl)
  obtain ⟨rfl, hencoded⟩ := i64TryFrom_eq_some (okOr_eq_ok.mp hal)
  obtain ⟨rfl, -⟩ := u64TryFrom_eq_some (okOr_eq_ok.mp hv)
  have hfits := maxLengthFieldValue_lt hmax
  obtain ⟨-, htotal⟩ := usizeCheckedAdd_eq_some (okOr_eq_ok.mp htotal)
  refine ⟨((item.length : Int) - c.builder.lengthAdjustment).toNat,
    ⟨hheader, hadjustment, by omega, by omega, by omega, by omega, by omega, htotal⟩, ?_⟩
  rw [UInt64.toNat_ofNat', Nat.mod_eq_of_lt (by omega)]

-- ====================================================== decoding a frame

/-- The decoder reads back the length field \x60encode\x60 writes. -/
theorem decodeHead_fieldBytes (hoff : c.builder.lengthFieldOffset = 0) {v : Nat}
    (hv : v < 256 ^ c.builder.lengthFieldLength) (x : List UInt8) :
    c.decodeHead (fieldBytes c.builder.bigEndian c.builder.lengthFieldLength v ++ x) = .ok v := by
  have hfold := fold_fieldBytes c.builder.bigEndian hv
  have hlen : c.builder.lengthFieldLength ≤ (fieldBytes c.builder.bigEndian c.builder.lengthFieldLength v).length :=
    (length_fieldBytes _ _ _).ge
  unfold decodeHead
  dsimp only
  rw [hoff, Nat.zero_add, Nat.min_eq_left (by have := c.lengthFieldLength_mem.2; unfold usizeMax; omega),
    if_neg (by rw [List.length_append]; omega), Bytes.slice_append_of_le _ _ hlen,
    Bytes.slice_zero_of_length (length_fieldBytes _ _ _)]
  split
  · next hb =>
    rw [if_pos hb] at hfold
    rw [hfold]
  · next hb =>
    rw [if_neg hb] at hfold
    rw [hfold]

/-- With the length field in front, the header fits a \x60usize\x60. -/
theorem header_le_of_offset_zero (hoff : c.builder.lengthFieldOffset = 0) :
    c.builder.lengthFieldOffset + c.builder.lengthFieldLength ≤ usizeMax := by
  have := c.lengthFieldLength_mem.2
  rw [hoff]
  unfold usizeMax
  omega

section stream

variable {c : LengthDelimitedCodec} (hs : c.state = .Head) (hoff : c.builder.lengthFieldOffset = 0)
  (hskip : c.builder.numSkip = none ∨ c.builder.numSkip = some c.builder.lengthFieldLength)
include hs hoff hskip

/-- A frame \x60encode\x60 wrote comes back whole once all of it is buffered,
and the decoder is ready for the next header. -/
theorem decode_frame {item : List UInt8} {v : Nat} (hacc : c.Accepted item v) (rest : List UInt8) :
    c.decode (fieldBytes c.builder.bigEndian c.builder.lengthFieldLength v ++ item ++ rest) =
      (.ok (some item), c, rest) := by
  have hL := length_fieldBytes c.builder.bigEndian c.builder.lengthFieldLength v
  have hv := hacc.value
  have hlenItem := hacc.length_lt
  -- the whole header is skipped: \x60num_skip\x60 is the header's length
  have hns : c.numSkip (c.builder.lengthFieldOffset + c.builder.lengthFieldLength) =
      c.builder.lengthFieldLength := by
    unfold numSkip
    rcases hskip with h | h <;> rw [h, hoff, Nat.zero_add] <;> rfl
  have hraw : c.decodeHead (fieldBytes c.builder.bigEndian c.builder.lengthFieldLength v ++ item ++ rest) =
      .ok v := by
    rw [List.append_assoc]
    exact decodeHead_fieldBytes c hoff hacc.fits _
  have hadj : c.adjustedFrameLen v = .ok item.length := by
    rw [adjustedFrameLen_of_mem hacc.adjustment hacc.value_lt (by omega) (by omega),
      if_neg (by have := hacc.maxFrame; omega)]
    congr 1
    omega
  have hadd : usizeCheckedAdd (max (c.builder.lengthFieldOffset + c.builder.lengthFieldLength)
      (c.numSkip (c.builder.lengthFieldOffset + c.builder.lengthFieldLength))) item.length =
      some (c.builder.lengthFieldLength + item.length) := by
    rw [hns, hoff, Nat.zero_add, Nat.max_self]
    exact usizeCheckedAdd_of_le (by have := hacc.total; omega)
  have hlen : (fieldBytes c.builder.bigEndian c.builder.lengthFieldLength v ++ item ++ rest).length =
      c.builder.lengthFieldLength + item.length + rest.length := by
    rw [List.length_append, List.length_append, hL]
  rw [decode_of_Head hs, decodeHeadArm_of_frame hacc.header (by omega) hraw hadj hadd,
    if_neg (by omega), hns, withState_self c hs, List.append_assoc,
    List.drop_left' hL, Nat.add_sub_cancel_left, List.take_left' rfl, ← List.drop_drop,
    List.drop_left' hL, List.drop_left' rfl]

/-- A buffer of whole frames is drained to nothing, each frame returned in
turn. -/
theorem drainsTo_frames {frames outs : List (List UInt8)}
    (hall : List.Forall₂ (fun item out => c.wire item = .ok out) frames outs) :
    DrainsTo c outs.flatten (frames.map fun item => .ok (some item)) c [] := by
  induction hall with
  | nil =>
    rw [List.flatten_nil]
    exact .done (decode_nil (header_le_of_offset_zero c hoff) hs)
  | cons hwire _ ih =>
    obtain ⟨v, hacc, rfl⟩ := wire_eq_ok c hwire
    rw [List.flatten_cons]
    exact .step (decode_frame hs hoff hskip hacc _) nofun ih

end stream

/-- Each encoded frame is its length field and itself. -/
theorem length_flatten_wire {frames outs : List (List UInt8)}
    (hall : List.Forall₂ (fun item out => c.wire item = .ok out) frames outs) :
    outs.flatten.length = (frames.map fun item => c.builder.lengthFieldLength + item.length).sum := by
  induction hall with
  | nil => rfl
  | cons hwire _ ih =>
    obtain ⟨v, -, rfl⟩ := wire_eq_ok c hwire
    rw [List.flatten_cons, List.length_append, ih, List.map_cons, List.sum_cons, List.length_append,
      length_fieldBytes]

end LengthDelimitedCodec

theorem LengthDelimitedCodecBuilder.newCodec_eq_some {b : LengthDelimitedCodecBuilder} {c : LengthDelimitedCodec}
    (h : b.newCodec = some c) : c.builder = b ∧ c.state = .Head := by
  unfold LengthDelimitedCodecBuilder.newCodec at h
  split at h
  · cases h
    exact ⟨rfl, rfl⟩
  · cases h

open LengthDelimitedCodec in
/-- Frames \x60encode\x60 accepts, fed back to the decoder in chunks of any
sizes, come back whole, in order and with no error, and leave the buffer
empty and the decoder in its first state. -/
theorem length_delimited_chunked_round_trip (b : LengthDelimitedCodecBuilder) (c : LengthDelimitedCodec)
    (hc : b.newCodec = some c) (hoff : b.lengthFieldOffset = 0)
    (hskip : b.numSkip = none ∨ b.numSkip = some b.lengthFieldLength)
    (frames : List (List UInt8)) (w : List UInt8) (hw : (frames.forM c.encode).run [] = .ok () w)
    (chunks : List (List UInt8)) (hsplit : chunks.flatten = w) :
    w.length = (frames.map fun item => b.lengthFieldLength + item.length).sum ∧
    ∀ outs c' rest, FeedsTo c [] chunks outs c' rest ↔
      outs = frames.map (fun item => .ok (some item)) ∧ c' = c ∧ rest = [] := by
  obtain ⟨rfl, hs⟩ := LengthDelimitedCodecBuilder.newCodec_eq_some hc
  obtain ⟨outs, hall, hw⟩ := Machine.Appends.forM_run_ok (encode_appends c) frames hw
  rw [List.nil_append] at hw
  subst hw
  have hh := header_le_of_offset_zero c hoff
  have hrun := drainsTo_frames hs hoff hskip hall
  refine ⟨length_flatten_wire c hall, fun outs' c' rest => ?_⟩
  -- the decoder starts idle, so the chunking does not matter
  rw [feedsTo_iff_drainsTo hh (decode_nil hh hs), List.nil_append, hsplit]
  exact hrun.iff_of

theorem length_delimited_chunked_round_trip_default :
    ([[1, 2]].forM (LengthDelimitedCodec.encode ⟨.default, .Head, by decide⟩)).run [] =
      .ok () [0, 0, 0, 2, 1, 2] ∧
    ∀ outs c' rest, LengthDelimitedCodec.FeedsTo ⟨.default, .Head, by decide⟩ [] [[0, 0], [0, 2, 1], [2]] outs c' rest ↔
      outs = [.ok (some [1, 2])] ∧ c' = ⟨.default, .Head, by decide⟩ ∧ rest = [] :=
  have hw : ([[1, 2]].forM (LengthDelimitedCodec.encode ⟨.default, .Head, by decide⟩)).run [] =
      .ok () [0, 0, 0, 2, 1, 2] := rfl
  ⟨hw, (length_delimited_chunked_round_trip .default ⟨.default, .Head, by decide⟩ rfl rfl (.inl rfl)
    [[1, 2]] [0, 0, 0, 2, 1, 2] hw [[0, 0], [0, 2, 1], [2]] rfl).2⟩

end Codec

end Asupersync
