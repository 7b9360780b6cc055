/-
Recovering the framing after a bad length (`codec/length_delimited.rs`).

# Errors make progress

With a header whose length fits in a `usize`, every error `decode`
returns consumes at least the header (`decode_error_consumes`), so a
caller that keeps calling `decode` never sees the same error forever.

# Skipping a refused frame

A length the decoder refuses (past `max_frame_length`, or making the
frame's extent overflow) is consumed with its header, and the decoder
goes on to skip what the frame has on the wire after it
(`recovery_wire_suffix_len`). When the adjusted length is known, that is
`num_skip - header_len` (when positive) plus the adjusted length, so the
decoder drops the refused frame exactly (`decode_bad_length`) and reads
what follows it as a fresh decoder would (`decode_skip_append`).

The recovery length is only known when the raw length, the adjustment
and their sum each fit an `i64`, and it is capped at `u64::MAX`. A raw
length of `2^63` or more is refused with `length exceeds i64` and the
decoder skips `u64::MAX` bytes, whatever the frame's real extent. With
an adjustment near `-2^63` such a length adjusts to a short frame, and
the stream behind that frame is swallowed
(`bad_length_past_i64_swallows_stream`).
-/
import Asupersync.Proofs.Codec.Decode

namespace Asupersync

namespace Codec

namespace LengthDelimitedCodec

-- ====================================================== a refused length

section refused

variable {c : LengthDelimitedCodec}

/-- After the skip, the decoder reads on as a fresh one: the `Skip` arm
drops the rest of the refused frame and hands what follows to the `Head`
arm, in the same call. -/
theorem decode_skip_append (hs : c.state = .Head) (body S : List UInt8) :
    ({ c with state := .Skip body.length } : LengthDelimitedCodec).decode (body ++ S) = c.decode S := by
  rw [decode_of_Skip_of_le rfl (by rw [List.length_append]; omega), List.drop_left' rfl,
    decodeHeadArm_withState c (.Skip _), decode_of_Head hs]

variable (hh : c.builder.lengthFieldOffset + c.builder.lengthFieldLength ≤ usizeMax) (hs : c.state = .Head)
include hh hs

/-- A header whose adjusted length is refused: the decoder returns an
error, consumes the header, and is left to skip exactly the body of the
refused frame. -/
theorem decode_bad_length {header body S : List UInt8} {raw : Nat}
    (hlen : header.length = c.builder.lengthFieldOffset + c.builder.lengthFieldLength)
    (hraw : c.decodeHead header = .ok raw) (hraw' : raw < 2 ^ 63)
    (hadj : -2 ^ 63 ≤ c.builder.lengthAdjustment ∧ c.builder.lengthAdjustment < 2 ^ 63)
    (hpos : 0 ≤ (raw : Int) + c.builder.lengthAdjustment)
    (hfit : (raw : Int) + c.builder.lengthAdjustment < 2 ^ 63)
    (hbad : c.builder.maxFrameLength < ((raw : Int) + c.builder.lengthAdjustment).toNat ∨
      usizeMax < max (c.builder.lengthFieldOffset + c.builder.lengthFieldLength)
        (c.numSkip (c.builder.lengthFieldOffset + c.builder.lengthFieldLength)) +
        ((raw : Int) + c.builder.lengthAdjustment).toNat)
    (hbody : body.length = c.numSkip (c.builder.lengthFieldOffset + c.builder.lengthFieldLength) -
      (c.builder.lengthFieldOffset + c.builder.lengthFieldLength) +
      ((raw : Int) + c.builder.lengthAdjustment).toNat)
    (hcap : body.length ≤ u64Max) :
    ∃ e, c.decode (header ++ body ++ S) = (.error e, { c with state := .Skip body.length }, body ++ S) := by
  have hlen' : c.builder.lengthFieldOffset + c.builder.lengthFieldLength ≤ (header ++ body ++ S).length := by
    rw [List.length_append, List.length_append]
    omega
  have hraw₁ : c.decodeHead (header ++ body ++ S) = .ok raw := by
    rw [List.append_assoc, decodeHead_append hh hlen.ge]
    exact hraw
  -- what the `Head` arm skips by: the body, as long as it is under the cap
  have hskip : c.recoveryWireSuffixLen (c.builder.lengthFieldOffset + c.builder.lengthFieldLength)
      (some ((raw : Int) + c.builder.lengthAdjustment).toNat) = body.length := by
    unfold recoveryWireSuffixLen
    dsimp only
    rw [← hbody, Nat.min_eq_left hcap]
  have hrest : (header ++ body ++ S).drop (c.builder.lengthFieldOffset + c.builder.lengthFieldLength) =
      body ++ S := by
    rw [List.append_assoc, List.drop_left' hlen]
  rw [decode_of_Head hs]
  by_cases hmax : c.builder.maxFrameLength < ((raw : Int) + c.builder.lengthAdjustment).toNat
  · -- `adjusted_frame_len` refuses the length
    have hrefuse := adjustedFrameLen_of_mem hadj hraw' hpos hfit (c := c)
    rw [if_pos hmax] at hrefuse
    refine ⟨invalidData "frame length exceeds max_frame_length", ?_⟩
    rw [decodeHeadArm_of_adjusted_error hh hlen' hraw₁ hrefuse, recoveryLen_of_mem hadj hraw' hpos hfit,
      hskip, hrest]
  · -- the length passes, and the frame's extent overflows
    have hpass := adjustedFrameLen_of_mem hadj hraw' hpos hfit (c := c)
    rw [if_neg hmax] at hpass
    have hover : usizeCheckedAdd (max (c.builder.lengthFieldOffset + c.builder.lengthFieldLength)
        (c.numSkip (c.builder.lengthFieldOffset + c.builder.lengthFieldLength)))
        ((raw : Int) + c.builder.lengthAdjustment).toNat = none :=
      if_neg (by omega)
    refine ⟨invalidData "frame length overflow", ?_⟩
    rw [decodeHeadArm_of_overflow hh hlen' hraw₁ hpass hover, hskip, hrest]

end refused

/-- Every error consumes at least the header; and a header whose adjusted
length is in range and refused, followed by the rest of its frame and a
stream \x60S\x60, yields one error under any chunking, then what \x60S\x60 alone
yields from a fresh decoder. -/
theorem length_delimited_recovers_after_bad_length (c : LengthDelimitedCodec)
    (hh : c.builder.lengthFieldOffset + c.builder.lengthFieldLength ≤ usizeMax) :
    (∀ (src : List UInt8) (e : IoError), (c.decode src).1 = .error e →
      ∃ k, c.builder.lengthFieldOffset + c.builder.lengthFieldLength ≤ k ∧ k ≤ src.length ∧
        (c.decode src).2.2 = src.drop k) ∧
    (c.state = .Head → ∀ (header body S : List UInt8) (raw : Nat),
      header.length = c.builder.lengthFieldOffset + c.builder.lengthFieldLength →
      c.decodeHead header = .ok raw → raw < 2 ^ 63 →
      -2 ^ 63 ≤ c.builder.lengthAdjustment → c.builder.lengthAdjustment < 2 ^ 63 →
      0 ≤ (raw : Int) + c.builder.lengthAdjustment → (raw : Int) + c.builder.lengthAdjustment < 2 ^ 63 →
      (c.builder.maxFrameLength < ((raw : Int) + c.builder.lengthAdjustment).toNat ∨
        usizeMax < max (c.builder.lengthFieldOffset + c.builder.lengthFieldLength)
          (c.numSkip (c.builder.lengthFieldOffset + c.builder.lengthFieldLength)) +
          ((raw : Int) + c.builder.lengthAdjustment).toNat) →
      body.length = c.numSkip (c.builder.lengthFieldOffset + c.builder.lengthFieldLength) -
        (c.builder.lengthFieldOffset + c.builder.lengthFieldLength) +
        ((raw : Int) + c.builder.lengthAdjustment).toNat →
      body.length ≤ u64Max →
      ∀ chunks chunksS : List (List UInt8), chunks.flatten = header ++ body ++ S → chunksS.flatten = S →
        (∃ outs c' rest, FeedsTo c [] chunks outs c' rest) ∧
        ∃ e, ∀ outs c' rest, FeedsTo c [] chunks outs c' rest ↔
          ∃ outsS, outs = .error e :: outsS ∧ FeedsTo c [] chunksS outsS c' rest) := by
  refine ⟨fun src e he => decode_error_consumes hh he, ?_⟩
  intro hs header body S raw hlen hraw hraw' hadj₁ hadj₂ hpos hfit hbad hbody hcap chunks chunksS hsplit hsplitS
  obtain ⟨e, hdec⟩ := decode_bad_length hh hs hlen hraw hraw' ⟨hadj₁, hadj₂⟩ hpos hfit hbad hbody hcap (S := S)
  refine ⟨FeedsTo.exists c [] hh chunks, e, fun outs c' rest => ?_⟩
  -- both sides drain their whole input, from an idle decoder
  rw [feedsTo_iff_drainsTo hh (decode_nil hh hs), List.nil_append, hsplit, DrainsTo.iff_cons hdec nofun]
  refine exists_congr fun outsS => and_congr_right fun _ => ?_
  rw [feedsTo_iff_drainsTo hh (decode_nil hh hs), List.nil_append, hsplitS]
  exact DrainsTo.congr_decode (decode_skip_append hs body S)

theorem length_delimited_recovers_one_byte_frame :
    (∃ k, 1 ≤ k ∧ k ≤ 3 ∧
      ((⟨{ LengthDelimitedCodecBuilder.default with lengthFieldLength := 1, maxFrameLength := 0 }, .Head,
        by decide⟩ : LengthDelimitedCodec).decode [1, 0, 0]).2.2 = [1, 0, 0].drop k) ∧
    (∃ outs c' rest, FeedsTo ⟨{ LengthDelimitedCodecBuilder.default with lengthFieldLength := 1, maxFrameLength := 0 },
      .Head, by decide⟩ [] [[1], [0, 0]] outs c' rest) ∧
    ∃ e, ∀ outs c' rest,
      FeedsTo ⟨{ LengthDelimitedCodecBuilder.default with lengthFieldLength := 1, maxFrameLength := 0 }, .Head,
        by decide⟩ [] [[1], [0, 0]] outs c' rest ↔
      ∃ outsS, outs = .error e :: outsS ∧
        FeedsTo ⟨{ LengthDelimitedCodecBuilder.default with lengthFieldLength := 1, maxFrameLength := 0 }, .Head,
          by decide⟩ [] [[0]] outsS c' rest := by
  have h := length_delimited_recovers_after_bad_length
    ⟨{ LengthDelimitedCodecBuilder.default with lengthFieldLength := 1, maxFrameLength := 0 }, .Head, by decide⟩
    (by decide)
  exact ⟨h.1 [1, 0, 0] _ rfl,
    h.2 rfl [1] [0] [0] 1 rfl rfl (by decide) (by decide) (by decide) (by decide) (by decide) (.inl (by decide))
      rfl (by decide) [[1], [0, 0]] [[0]] rfl rfl⟩

/-- A codec whose 8-byte length field is adjusted by \x601 - 2^63\x60, with no
room for a frame of one byte. -/
def farAdjustedCodec : LengthDelimitedCodec :=
  ⟨{ lengthFieldOffset := 0, lengthFieldLength := 8, lengthAdjustment := 1 - 2 ^ 63, numSkip := none,
     maxFrameLength := 0, bigEndian := true }, .Head, by decide⟩

/-- A raw length of \x602^63\x60 adjusts to 1, past \x60max_frame_length\x60, and its
frame has one byte after the header; but \x60i64::try_from\x60 refuses the raw
length itself, so the decoder skips \x60u64::MAX\x60 bytes and swallows the
frame behind it, which alone decodes to an empty frame. -/
theorem bad_length_past_i64_swallows_stream :
    farAdjustedCodec.decodeHead [0x80, 0, 0, 0, 0, 0, 0, 0] = .ok (2 ^ 63) ∧
    (2 ^ 63 : Int) + farAdjustedCodec.builder.lengthAdjustment = 1 ∧
    (∀ outs c' rest, FeedsTo farAdjustedCodec []
        [[0x80, 0, 0, 0, 0, 0, 0, 0, 0, 0x7f, 0xff, 0xff, 0xff, 0xff, 0xff, 0xff, 0xff]] outs c' rest ↔
      outs = [.error (invalidData "length exceeds i64")] ∧
        c' = { farAdjustedCodec with state := .Skip (u64Max - 9) } ∧ rest = []) ∧
    (∀ outs c' rest, FeedsTo farAdjustedCodec [] [[0x7f, 0xff, 0xff, 0xff, 0xff, 0xff, 0xff, 0xff]] outs c' rest ↔
      outs = [.ok (some [])] ∧ c' = farAdjustedCodec ∧ rest = []) := by
  have hh : farAdjustedCodec.builder.lengthFieldOffset + farAdjustedCodec.builder.lengthFieldLength ≤ usizeMax := by
    decide
  have hidle := decode_nil hh rfl
  refine ⟨rfl, by decide, fun outs c' rest => ?_, fun outs c' rest => ?_⟩
  · -- the error, then the skip takes the rest of the stream
    rw [feedsTo_iff_drainsTo hh hidle, List.nil_append, List.flatten_singleton]
    exact DrainsTo.iff_of (.step rfl nofun (.done (decode_of_Skip_of_lt rfl (by decide))))
  · -- alone, the second header is an empty frame
    rw [feedsTo_iff_drainsTo hh hidle, List.nil_append, List.flatten_singleton]
    exact DrainsTo.iff_of (.step rfl nofun (.done hidle))

end LengthDelimitedCodec

end Codec

end Asupersync
