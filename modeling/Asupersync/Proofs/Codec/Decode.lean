/-
Decoding a length-delimited stream (`Decoder::decode` in
`codec/length_delimited.rs`) the way a caller runs it: after each
append, `decode` until it returns `Ok(None)`.

# The `Head` arm

Once the header is buffered, the `Head` arm decides from the length
field alone: it refuses the length, consumes the header and skips the
rest of the frame, or it takes a frame of a known extent once all of it
is buffered. `decodeHeadArm_cases` says everything the arm can return;
the lemmas after it read off one branch each.

`i64::try_from` compares against `2^63`, and on a symbolic length the
kernel unfolds that comparison one step at a time. The proof of
`decodeHeadArm_cases` therefore names `adjusted_frame_len` and
`i64::try_from` by variables before it reduces the arm, and every other
proof goes through the lemmas.

# Deciding on what is buffered

`decode` decides on a prefix of its buffer. Once it returns a frame or
an error, bytes behind the buffer change nothing but what is left
(`decode_append`); when it returns `Ok(None)` it has kept what it needs
to go on where it stopped (`decode_append_of_none`). So feeding a
stream in chunks returns what feeding it whole does
(`feedsTo_iff_drainsTo`): the results do not depend on the chunking.

# Progress

With a header whose length fits in a `usize`, every result other than
`Ok(None)` consumes a byte or leaves the `Data` state, and an error
consumes at least the header (`decode_error_consumes`). The caller's
loop therefore ends (`DrainsTo.exists`, `FeedsTo.exists`), and since
`decode` is a function its results are unique (`DrainsTo.unique`).
-/
import Asupersync.Codec.LengthDelimited

namespace Asupersync

namespace Codec

namespace LengthDelimitedCodec

-- ================================================================ buffers

/-- `if n > 0 { src.split_to(n); }` drops `n` bytes either way. -/
theorem ite_pos_drop (l : List UInt8) (n : Nat) : (if n > 0 then l.drop n else l) = l.drop n := by
  split
  · rfl
  · rw [show n = 0 by omega, List.drop_zero]

-- ============================================================== the header

section header

variable {c : LengthDelimitedCodec}
  (hh : c.builder.lengthFieldOffset + c.builder.lengthFieldLength ≤ usizeMax)
include hh

/-- The length field lies inside the header, so bytes behind it do not
change what `decode_head` reads. -/
theorem decodeHead_append {src : List UInt8}
    (hlen : c.builder.lengthFieldOffset + c.builder.lengthFieldLength ≤ src.length) (x : List UInt8) :
    c.decodeHead (src ++ x) = c.decodeHead src := by
  have hlen' : c.builder.lengthFieldOffset + c.builder.lengthFieldLength ≤ (src ++ x).length := by
    rw [List.length_append]
    omega
  unfold decodeHead
  dsimp only
  rw [Nat.min_eq_left hh, if_neg (Nat.not_lt.mpr hlen'), if_neg (Nat.not_lt.mpr hlen),
    Bytes.slice_append_of_le _ _ hlen]

/-- With the header buffered, `decode_head` reads a length. -/
theorem decodeHead_ok {src : List UInt8}
    (hlen : c.builder.lengthFieldOffset + c.builder.lengthFieldLength ≤ src.length) :
    ∃ raw, c.decodeHead src = .ok raw := by
  unfold decodeHead
  dsimp only
  rw [Nat.min_eq_left hh, if_neg (Nat.not_lt.mpr hlen)]
  split <;> exact ⟨_, rfl⟩

-- ============================================================ the Head arm

/-- Everything the `Head` arm can return: wait for the header; refuse
the length `adjusted_frame_len` refuses; refuse a frame whose extent
overflows; or wait for, then take, a frame of a known extent. -/
theorem decodeHeadArm_cases (src : List UInt8) :
    (src.length < c.builder.lengthFieldOffset + c.builder.lengthFieldLength ∧
      c.decodeHeadArm src = (.ok none, .Head, src)) ∨
    ∃ raw, c.builder.lengthFieldOffset + c.builder.lengthFieldLength ≤ src.length ∧
      c.decodeHead src = .ok raw ∧
      ((∃ e, c.adjustedFrameLen raw = .error e ∧
        c.decodeHeadArm src = (.error e,
          .Skip (c.recoveryWireSuffixLen (c.builder.lengthFieldOffset + c.builder.lengthFieldLength)
            ((((i64TryFrom c.builder.lengthAdjustment).bind fun adj =>
              (i64TryFrom raw).bind fun l => i64TryFrom (l + adj)).filter (fun adjusted => 0 ≤ adjusted)).bind
              u64TryFrom)),
          src.drop (c.builder.lengthFieldOffset + c.builder.lengthFieldLength))) ∨
      (∃ frameLen, c.adjustedFrameLen raw = .ok frameLen ∧
        usizeCheckedAdd (max (c.builder.lengthFieldOffset + c.builder.lengthFieldLength)
          (c.numSkip (c.builder.lengthFieldOffset + c.builder.lengthFieldLength))) frameLen = none ∧
        c.decodeHeadArm src = (.error (invalidData "frame length overflow"),
          .Skip (c.recoveryWireSuffixLen (c.builder.lengthFieldOffset + c.builder.lengthFieldLength)
            (some frameLen)),
          src.drop (c.builder.lengthFieldOffset + c.builder.lengthFieldLength))) ∨
      (∃ frameLen total, c.adjustedFrameLen raw = .ok frameLen ∧
        usizeCheckedAdd (max (c.builder.lengthFieldOffset + c.builder.lengthFieldLength)
          (c.numSkip (c.builder.lengthFieldOffset + c.builder.lengthFieldLength))) frameLen = some total ∧
        c.decodeHeadArm src =
          if src.length < total then (.ok none, .Head, src)
          else (.ok (some ((src.drop (c.numSkip (c.builder.lengthFieldOffset + c.builder.lengthFieldLength))).take
              (total - c.numSkip (c.builder.lengthFieldOffset + c.builder.lengthFieldLength)))),
            .Head, src.drop total))) := by
  -- keep the two callees that compare against `2^63` opaque to the kernel
  obtain ⟨A, hA⟩ : ∃ A, c.adjustedFrameLen = A := ⟨_, rfl⟩
  obtain ⟨I, hI⟩ : ∃ I, i64TryFrom = I := ⟨_, rfl⟩
  unfold decodeHeadArm
  rw [hA, hI, usizeCheckedAdd_of_le hh]
  dsimp only
  by_cases hlt : src.length < c.builder.lengthFieldOffset + c.builder.lengthFieldLength
  · exact .inl ⟨hlt, if_pos hlt⟩
  obtain ⟨raw, hraw⟩ := decodeHead_ok hh (Nat.le_of_not_lt hlt)
  refine .inr ⟨raw, Nat.le_of_not_lt hlt, hraw, ?_⟩
  rw [if_neg hlt, hraw]
  dsimp only
  cases A raw with
  | error e =>
    -- `adjusted_frame_len` refuses the length
    exact .inl ⟨e, rfl, rfl⟩
  | ok frameLen =>
    dsimp only
    cases hadd : usizeCheckedAdd (max (c.builder.lengthFieldOffset + c.builder.lengthFieldLength)
      (c.numSkip (c.builder.lengthFieldOffset + c.builder.lengthFieldLength))) frameLen with
    | none =>
      -- the frame's extent overflows
      exact .inr (.inl ⟨frameLen, rfl, hadd, rfl⟩)
    | some total =>
      refine .inr (.inr ⟨frameLen, total, rfl, hadd, ?_⟩)
      dsimp only
      -- `num_skip` never exceeds the extent, which starts past it
      have hns : c.numSkip (c.builder.lengthFieldOffset + c.builder.lengthFieldLength) ≤ total := by
        have := (usizeCheckedAdd_eq_some hadd).1
        omega
      rw [if_neg (Nat.not_lt.mpr hns)]
      by_cases hshort : src.length < total
      · rw [if_pos hshort, if_pos hshort]
      · rw [if_neg hshort, if_neg hshort, ite_pos_drop, decodeDataArm, if_neg (by simp; omega),
          List.drop_drop, Nat.add_sub_cancel' hns]

/-- Without the whole header the arm waits. -/
theorem decodeHeadArm_of_lt {src : List UInt8}
    (hlt : src.length < c.builder.lengthFieldOffset + c.builder.lengthFieldLength) :
    c.decodeHeadArm src = (.ok none, .Head, src) := by
  rcases decodeHeadArm_cases hh src with ⟨-, h⟩ | ⟨raw, hlen, -⟩
  · exact h
  · omega

/-- A length `adjusted_frame_len` refuses: the header is consumed, and
the decoder goes on to skip what is left of the frame. -/
theorem decodeHeadArm_of_adjusted_error {src : List UInt8} {raw : Nat} {e : IoError}
    (hlen : c.builder.lengthFieldOffset + c.builder.lengthFieldLength ≤ src.length)
    (hraw : c.decodeHead src = .ok raw) (hadj : c.adjustedFrameLen raw = .error e) :
    c.decodeHeadArm src = (.error e,
      .Skip (c.recoveryWireSuffixLen (c.builder.lengthFieldOffset + c.builder.lengthFieldLength)
        ((((i64TryFrom c.builder.lengthAdjustment).bind fun adj =>
          (i64TryFrom raw).bind fun l => i64TryFrom (l + adj)).filter (fun adjusted => 0 ≤ adjusted)).bind
          u64TryFrom)),
      src.drop (c.builder.lengthFieldOffset + c.builder.lengthFieldLength)) := by
  rcases decodeHeadArm_cases hh src with ⟨hlt, -⟩ | ⟨raw', -, hraw', hcases⟩
  · omega
  obtain rfl := Except.ok.inj (hraw'.symm.trans hraw)
  rcases hcases with ⟨e', hadj', h⟩ | ⟨_, hadj', -⟩ | ⟨_, _, hadj', -⟩
  · obtain rfl := Except.error.inj (hadj'.symm.trans hadj)
    exact h
  · nomatch hadj'.symm.trans hadj
  · nomatch hadj'.symm.trans hadj

/-- A length whose frame's extent overflows a `usize`: refused like the
lengths `adjusted_frame_len` refuses. -/
theorem decodeHeadArm_of_overflow {src : List UInt8} {raw frameLen : Nat}
    (hlen : c.builder.lengthFieldOffset + c.builder.lengthFieldLength ≤ src.length)
    (hraw : c.decodeHead src = .ok raw) (hadj : c.adjustedFrameLen raw = .ok frameLen)
    (hadd : usizeCheckedAdd (max (c.builder.lengthFieldOffset + c.builder.lengthFieldLength)
      (c.numSkip (c.builder.lengthFieldOffset + c.builder.lengthFieldLength))) frameLen = none) :
    c.decodeHeadArm src = (.error (invalidData "frame length overflow"),
      .Skip (c.recoveryWireSuffixLen (c.builder.lengthFieldOffset + c.builder.lengthFieldLength)
        (some frameLen)),
      src.drop (c.builder.lengthFieldOffset + c.builder.lengthFieldLength)) := by
  rcases decodeHeadArm_cases hh src with ⟨hlt, -⟩ | ⟨raw', -, hraw', hcases⟩
  · omega
  obtain rfl := Except.ok.inj (hraw'.symm.trans hraw)
  rcases hcases with ⟨_, hadj', -⟩ | ⟨fl, hadj', -, h⟩ | ⟨fl, _, hadj', hadd', -⟩
  · nomatch hadj'.symm.trans hadj
  · obtain rfl := Except.ok.inj (hadj'.symm.trans hadj)
    exact h
  · obtain rfl := Except.ok.inj (hadj'.symm.trans hadj)
    nomatch hadd'.symm.trans hadd

/-- A frame of a known extent: the arm waits until all of it is
buffered, then drops the first `num_skip` bytes and returns the rest. -/
theorem decodeHeadArm_of_frame {src : List UInt8} {raw frameLen total : Nat}
    (hlen : c.builder.lengthFieldOffset + c.builder.lengthFieldLength ≤ src.length)
    (hraw : c.decodeHead src = .ok raw) (hadj : c.adjustedFrameLen raw = .ok frameLen)
    (hadd : usizeCheckedAdd (max (c.builder.lengthFieldOffset + c.builder.lengthFieldLength)
      (c.numSkip (c.builder.lengthFieldOffset + c.builder.lengthFieldLength))) frameLen = some total) :
    c.decodeHeadArm src =
      if src.length < total then (.ok none, .Head, src)
      else (.ok (some ((src.drop (c.numSkip (c.builder.lengthFieldOffset + c.builder.lengthFieldLength))).take
          (total - c.numSkip (c.builder.lengthFieldOffset + c.builder.lengthFieldLength)))),
        .Head, src.drop total) := by
  rcases decodeHeadArm_cases hh src with ⟨hlt, -⟩ | ⟨raw', -, hraw', hcases⟩
  · omega
  obtain rfl := Except.ok.inj (hraw'.symm.trans hraw)
  rcases hcases with ⟨_, hadj', -⟩ | ⟨fl, hadj', hadd', -⟩ | ⟨fl, t, hadj', hadd', h⟩
  · nomatch hadj'.symm.trans hadj
  · obtain rfl := Except.ok.inj (hadj'.symm.trans hadj)
    nomatch hadd'.symm.trans hadd
  · obtain rfl := Except.ok.inj (hadj'.symm.trans hadj)
    obtain rfl := Option.some.inj (hadd'.symm.trans hadd)
    exact h

/-- Once the arm has decided, bytes behind the buffer stay behind it. -/
theorem decodeHeadArm_append {src : List UInt8} (hne : (c.decodeHeadArm src).1 ≠ .ok none)
    (x : List UInt8) :
    c.decodeHeadArm (src ++ x) =
      ((c.decodeHeadArm src).1, (c.decodeHeadArm src).2.1, (c.decodeHeadArm src).2.2 ++ x) := by
  have hlenx : ∀ {n}, n ≤ src.length → n ≤ (src ++ x).length := fun h => by
    rw [List.length_append]
    omega
  rcases decodeHeadArm_cases hh src with ⟨-, h⟩ | ⟨raw, hlen, hraw, hcases⟩
  · rw [h] at hne
    exact absurd rfl hne
  have hraw' := (decodeHead_append hh hlen x).trans hraw
  rcases hcases with ⟨e, hadj, h⟩ | ⟨frameLen, hadj, hadd, h⟩ | ⟨frameLen, total, hadj, hadd, h⟩
  · rw [h, decodeHeadArm_of_adjusted_error hh (hlenx hlen) hraw' hadj, List.drop_append_of_le_length hlen]
  · rw [h, decodeHeadArm_of_overflow hh (hlenx hlen) hraw' hadj hadd, List.drop_append_of_le_length hlen]
  · have hns : c.numSkip (c.builder.lengthFieldOffset + c.builder.lengthFieldLength) ≤ total := by
      have := (usizeCheckedAdd_eq_some hadd).1
      omega
    by_cases hshort : src.length < total
    · rw [h, if_pos hshort] at hne
      exact absurd rfl hne
    · -- the frame lies inside `src`
      rw [h, if_neg hshort, decodeHeadArm_of_frame hh (hlenx hlen) hraw' hadj hadd,
        if_neg (by rw [List.length_append]; omega), List.drop_append_of_le_length (by omega),
        List.take_append_of_le_length (by rw [List.length_drop]; omega),
        List.drop_append_of_le_length (by omega)]

/-- When the arm returns nothing it has changed nothing. -/
theorem decodeHeadArm_none {src : List UInt8} (h : (c.decodeHeadArm src).1 = .ok none) :
    (c.decodeHeadArm src).2.1 = .Head ∧ (c.decodeHeadArm src).2.2 = src := by
  rcases decodeHeadArm_cases hh src with ⟨-, h'⟩ | ⟨raw, -, -, hcases⟩
  · rw [h']
    exact ⟨rfl, rfl⟩
  rcases hcases with ⟨e, -, h'⟩ | ⟨frameLen, -, -, h'⟩ | ⟨frameLen, total, -, -, h'⟩
  · rw [h'] at h
    nomatch h
  · rw [h'] at h
    nomatch h
  · by_cases hshort : src.length < total
    · rw [h', if_pos hshort]
      exact ⟨rfl, rfl⟩
    · rw [h', if_neg hshort] at h
      nomatch h

/-- An arm that returns something has consumed at least the header, and
leaves the decoder out of the `Data` state. -/
theorem decodeHeadArm_consumes {src : List UInt8} (hne : (c.decodeHeadArm src).1 ≠ .ok none) :
    ∃ k, c.builder.lengthFieldOffset + c.builder.lengthFieldLength ≤ k ∧ k ≤ src.length ∧
      (c.decodeHeadArm src).2.2 = src.drop k ∧ ∀ frameLen, (c.decodeHeadArm src).2.1 ≠ .Data frameLen := by
  rcases decodeHeadArm_cases hh src with ⟨-, h⟩ | ⟨raw, hlen, -, hcases⟩
  · rw [h] at hne
    exact absurd rfl hne
  rcases hcases with ⟨e, -, h⟩ | ⟨frameLen, -, -, h⟩ | ⟨frameLen, total, -, hadd, h⟩
  · rw [h]
    exact ⟨_, Nat.le_refl _, hlen, rfl, fun _ => nofun⟩
  · rw [h]
    exact ⟨_, Nat.le_refl _, hlen, rfl, fun _ => nofun⟩
  · by_cases hshort : src.length < total
    · rw [h, if_pos hshort] at hne
      exact absurd rfl hne
    · have := (usizeCheckedAdd_eq_some hadd).1
      rw [h, if_neg hshort]
      exact ⟨total, by omega, by omega, rfl, fun _ => nofun⟩

end header

-- ======================================================== adjusted lengths

section adjusted

variable {c : LengthDelimitedCodec} {raw : Nat}
  (hadj : -2 ^ 63 ≤ c.builder.lengthAdjustment ∧ c.builder.lengthAdjustment < 2 ^ 63)
  (hraw : raw < 2 ^ 63) (hlen : 0 ≤ (raw : Int) + c.builder.lengthAdjustment)
  (hlen' : (raw : Int) + c.builder.lengthAdjustment < 2 ^ 63)
include hadj hraw hlen hlen'

/-- A length whose adjustment stays in range is refused by
`max_frame_length` only. -/
theorem adjustedFrameLen_of_mem :
    c.adjustedFrameLen raw =
      if ((raw : Int) + c.builder.lengthAdjustment).toNat > c.builder.maxFrameLength then
        .error (invalidData "frame length exceeds max_frame_length")
      else .ok ((raw : Int) + c.builder.lengthAdjustment).toNat := by
  -- each conversion in turn, since the next one reads what the last returned
  unfold adjustedFrameLen
  rw [i64TryFrom_of_mem (x := raw) (by omega) (by omega), i64TryFrom_of_mem hadj.1 hadj.2]
  simp only [okOr, bind, Except.bind]
  rw [i64TryFrom_of_mem (by omega) hlen']
  simp only [if_neg (Int.not_lt.mpr hlen)]
  rw [u64TryFrom_of_mem hlen (by omega)]
  rfl

/-- The length the `Head` arm skips by when it refuses such a length: the
adjusted length, as the refused frame has it. -/
theorem recoveryLen_of_mem :
    ((((i64TryFrom c.builder.lengthAdjustment).bind fun adj =>
      (i64TryFrom raw).bind fun l => i64TryFrom (l + adj)).filter (fun adjusted => 0 ≤ adjusted)).bind
      u64TryFrom) = some ((raw : Int) + c.builder.lengthAdjustment).toNat := by
  rw [i64TryFrom_of_mem hadj.1 hadj.2, Option.bind_some, i64TryFrom_of_mem (x := raw) (by omega) (by omega),
    Option.bind_some, i64TryFrom_of_mem (by omega) hlen', Option.filter_some, if_pos (decide_eq_true hlen),
    Option.bind_some, u64TryFrom_of_mem hlen (by omega)]

end adjusted

-- ============================================================= the Data arm

theorem decodeDataArm_of_lt {frameLen : Nat} {src : List UInt8} (h : src.length < frameLen) :
    decodeDataArm frameLen src = (.ok none, .Data frameLen, src) := if_pos h

theorem decodeDataArm_of_le {frameLen : Nat} {src : List UInt8} (h : frameLen ≤ src.length) :
    decodeDataArm frameLen src = (.ok (some (src.take frameLen)), .Head, src.drop frameLen) :=
  if_neg (Nat.not_lt.mpr h)

-- ================================================================= decode

/-- `adjusted_frame_len` reads the builder only. -/
theorem adjustedFrameLen_withState (c : LengthDelimitedCodec) (s : DecodeState) :
    ({ c with state := s } : LengthDelimitedCodec).adjustedFrameLen = c.adjustedFrameLen := rfl

/-- The `Head` arm reads the builder only. -/
theorem decodeHeadArm_withState (c : LengthDelimitedCodec) (s : DecodeState) :
    ({ c with state := s } : LengthDelimitedCodec).decodeHeadArm = c.decodeHeadArm := by
  -- with the two callees named, the two arms agree up to the state they never read
  funext src
  obtain ⟨A, hA⟩ : ∃ A, c.adjustedFrameLen = A := ⟨_, rfl⟩
  obtain ⟨I, hI⟩ : ∃ I, i64TryFrom = I := ⟨_, rfl⟩
  unfold decodeHeadArm
  rw [adjustedFrameLen_withState, hA, hI]
  rfl

/-- A codec with its own state put back is itself. -/
theorem withState_self (c : LengthDelimitedCodec) {s : DecodeState} (h : c.state = s) :
    { c with state := s } = c := by
  cases c
  cases h
  rfl

section decode

variable {c : LengthDelimitedCodec}

theorem decode_of_Head (hs : c.state = .Head) (src : List UInt8) :
    c.decode src = ((c.decodeHeadArm src).1, { c with state := (c.decodeHeadArm src).2.1 },
      (c.decodeHeadArm src).2.2) := by
  simp only [decode, hs]

theorem decode_of_Data {frameLen : Nat} (hs : c.state = .Data frameLen) (src : List UInt8) :
    c.decode src = ((decodeDataArm frameLen src).1, { c with state := (decodeDataArm frameLen src).2.1 },
      (decodeDataArm frameLen src).2.2) := by
  simp only [decode, hs]

/-- In the `Skip` state with the rest of the refused frame buffered, the
decoder drops it and reads on from the `Head` state, in the same call. -/
theorem decode_of_Skip_of_le {n : Nat} {src : List UInt8} (hs : c.state = .Skip n) (hn : n ≤ src.length) :
    c.decode src = ((c.decodeHeadArm (src.drop n)).1, { c with state := (c.decodeHeadArm (src.drop n)).2.1 },
      (c.decodeHeadArm (src.drop n)).2.2) := by
  simp only [decode, hs, Nat.min_eq_left hn, ite_pos_drop, Nat.sub_self, if_true]

theorem decode_of_Skip_of_lt {n : Nat} {src : List UInt8} (hs : c.state = .Skip n) (hn : src.length < n) :
    c.decode src = (.ok none, { c with state := .Skip (n - src.length) }, []) := by
  simp only [decode, hs, Nat.min_eq_right (Nat.le_of_lt hn), if_neg (show n - src.length ≠ 0 by omega)]
  rw [ite_pos_drop, List.drop_length]

theorem decode_builder (src : List UInt8) : (c.decode src).2.1.builder = c.builder := by
  cases hs : c.state with
  | Head => rw [decode_of_Head hs]
  | Data frameLen => rw [decode_of_Data hs]
  | Skip n =>
    by_cases hn : n ≤ src.length
    · rw [decode_of_Skip_of_le hs hn]
    · rw [decode_of_Skip_of_lt hs (by omega)]

variable (hh : c.builder.lengthFieldOffset + c.builder.lengthFieldLength ≤ usizeMax)
include hh

/-- Once `decode` has returned a frame or an error, bytes behind the
buffer stay behind it. -/
theorem decode_append {src : List UInt8} (hne : (c.decode src).1 ≠ .ok none) (x : List UInt8) :
    c.decode (src ++ x) = ((c.decode src).1, (c.decode src).2.1, (c.decode src).2.2 ++ x) := by
  cases hs : c.state with
  | Head =>
    rw [decode_of_Head hs src] at hne
    rw [decode_of_Head hs src, decode_of_Head hs (src ++ x), decodeHeadArm_append hh hne]
  | Data frameLen =>
    rw [decode_of_Data hs src] at hne
    by_cases hshort : src.length < frameLen
    · rw [decodeDataArm_of_lt hshort] at hne
      exact absurd rfl hne
    · rw [decode_of_Data hs src, decode_of_Data hs (src ++ x), decodeDataArm_of_le (Nat.le_of_not_lt hshort),
        decodeDataArm_of_le (by rw [List.length_append]; omega),
        List.take_append_of_le_length (by omega), List.drop_append_of_le_length (by omega)]
  | Skip n =>
    by_cases hn : n ≤ src.length
    · rw [decode_of_Skip_of_le hs hn] at hne
      rw [decode_of_Skip_of_le hs hn, decode_of_Skip_of_le hs (by rw [List.length_append]; omega),
        List.drop_append_of_le_length hn, decodeHeadArm_append hh hne]
    · rw [decode_of_Skip_of_lt hs (by omega)] at hne
      exact absurd rfl hne

/-- When `decode` returns nothing, the bytes that arrive next are read as
if they had been there: it kept what it needs to go on. -/
theorem decode_append_of_none {src src' : List UInt8} {c' : LengthDelimitedCodec}
    (h : c.decode src = (.ok none, c', src')) (x : List UInt8) :
    c.decode (src ++ x) = c'.decode (src' ++ x) := by
  cases hs : c.state with
  | Head =>
    rw [decode_of_Head hs, Prod.mk.injEq, Prod.mk.injEq] at h
    obtain ⟨h1, rfl, rfl⟩ := h
    obtain ⟨hstate, hsrc⟩ := decodeHeadArm_none hh h1
    rw [hstate, hsrc, withState_self c hs]
  | Data frameLen =>
    rw [decode_of_Data hs, Prod.mk.injEq, Prod.mk.injEq] at h
    obtain ⟨h1, rfl, rfl⟩ := h
    by_cases hshort : src.length < frameLen
    · rw [decodeDataArm_of_lt hshort, withState_self c hs]
    · rw [decodeDataArm_of_le (Nat.le_of_not_lt hshort)] at h1
      nomatch h1
  | Skip n =>
    by_cases hn : n ≤ src.length
    · -- the rest of the refused frame was buffered: the `Head` arm waits on what follows it
      rw [decode_of_Skip_of_le hs hn, Prod.mk.injEq, Prod.mk.injEq] at h
      obtain ⟨h1, rfl, rfl⟩ := h
      obtain ⟨hstate, hsrc⟩ := decodeHeadArm_none hh h1
      rw [hstate, hsrc, decode_of_Skip_of_le hs (by rw [List.length_append]; omega),
        List.drop_append_of_le_length hn, decode_of_Head rfl, decodeHeadArm_withState c .Head]
    · -- the whole buffer was skipped: the count goes on in the bytes that follow
      rw [decode_of_Skip_of_lt hs (by omega), Prod.mk.injEq, Prod.mk.injEq] at h
      obtain ⟨-, rfl, rfl⟩ := h
      rw [List.nil_append]
      by_cases hx : n ≤ src.length + x.length
      · rw [decode_of_Skip_of_le hs (by rw [List.length_append]; exact hx),
          decode_of_Skip_of_le rfl (by omega), decodeHeadArm_withState c (.Skip _), List.drop_append,
          List.drop_eq_nil_of_le (by omega), List.nil_append]
      · rw [decode_of_Skip_of_lt hs (by rw [List.length_append]; omega), decode_of_Skip_of_lt rfl (by omega),
          List.length_append, Nat.sub_add_eq]

/-- A decoder in its `Head` state returns nothing on an empty buffer. -/
theorem decode_nil (hs : c.state = .Head) : c.decode [] = (.ok none, c, []) := by
  rw [decode_of_Head hs, decodeHeadArm_of_lt hh (by rw [List.length_nil]; have := c.lengthFieldLength_mem.1; omega),
    withState_self c hs]

/-- `decode` returns nothing again from where it returned nothing. -/
theorem decode_idle_of_none {src src' : List UInt8} {c' : LengthDelimitedCodec}
    (h : c.decode src = (.ok none, c', src')) : c'.decode src' = (.ok none, c', src') := by
  have h' := decode_append_of_none hh h []
  rw [List.append_nil, List.append_nil] at h'
  rw [← h', h]

/-- A result other than `Ok(None)` consumes part of the buffer and leaves
the decoder out of the `Data` state; from any other state it consumes at
least the header. -/
theorem decode_consumes {src : List UInt8} (hne : (c.decode src).1 ≠ .ok none) :
    ∃ k, k ≤ src.length ∧ (c.decode src).2.2 = src.drop k ∧
      (∀ frameLen, (c.decode src).2.1.state ≠ .Data frameLen) ∧
      ((∀ frameLen, c.state ≠ .Data frameLen) →
        c.builder.lengthFieldOffset + c.builder.lengthFieldLength ≤ k) := by
  cases hs : c.state with
  | Head =>
    rw [decode_of_Head hs] at hne ⊢
    obtain ⟨k, hk, hklen, hsrc, hstate⟩ := decodeHeadArm_consumes hh hne
    exact ⟨k, hklen, hsrc, hstate, fun _ => hk⟩
  | Data frameLen =>
    rw [decode_of_Data hs] at hne ⊢
    by_cases hshort : src.length < frameLen
    · rw [decodeDataArm_of_lt hshort] at hne
      exact absurd rfl hne
    · rw [decodeDataArm_of_le (Nat.le_of_not_lt hshort)]
      exact ⟨frameLen, by omega, rfl, fun _ => nofun, fun h => absurd rfl (h frameLen)⟩
  | Skip n =>
    by_cases hn : n ≤ src.length
    · -- the skipped bytes and then what the `Head` arm consumes
      rw [decode_of_Skip_of_le hs hn] at hne ⊢
      obtain ⟨k, hk, hklen, hsrc, hstate⟩ := decodeHeadArm_consumes hh hne
      rw [List.length_drop] at hklen
      refine ⟨n + k, by omega, ?_, hstate, fun _ => by omega⟩
      rw [hsrc, List.drop_drop]
    · rw [decode_of_Skip_of_lt hs (by omega)] at hne
      exact absurd rfl hne

/-- An error consumes at least the header. -/
theorem decode_error_consumes {src : List UInt8} {e : IoError} (he : (c.decode src).1 = .error e) :
    ∃ k, c.builder.lengthFieldOffset + c.builder.lengthFieldLength ≤ k ∧ k ≤ src.length ∧
      (c.decode src).2.2 = src.drop k := by
  obtain ⟨k, hklen, hsrc, -, hk⟩ := decode_consumes hh (show (c.decode src).1 ≠ .ok none by rw [he]; nofun)
  -- the `Data` arm never fails
  have hdata : ∀ frameLen, c.state ≠ .Data frameLen := by
    intro frameLen hs
    rw [decode_of_Data hs] at he
    by_cases hshort : src.length < frameLen
    · rw [decodeDataArm_of_lt hshort] at he
      nomatch he
    · rw [decodeDataArm_of_le (Nat.le_of_not_lt hshort)] at he
      nomatch he
  exact ⟨k, hk hdata, hklen, hsrc⟩

end decode

-- ================================================================ progress

/-- What is left for the caller's loop: the buffer, and a `Data` arm that
has yet to return its frame. -/
def pending (c : LengthDelimitedCodec) (src : List UInt8) : Nat :=
  2 * src.length + match c.state with
    | .Data _ => 1
    | _ => 0

theorem pending_of_not_data {c : LengthDelimitedCodec} (h : ∀ frameLen, c.state ≠ .Data frameLen)
    (src : List UInt8) : pending c src = 2 * src.length := by
  unfold pending
  cases hs : c.state with
  | Data frameLen => exact absurd hs (h frameLen)
  | Head => rfl
  | Skip n => rfl

theorem pending_of_data {c : LengthDelimitedCodec} {frameLen : Nat} (h : c.state = .Data frameLen)
    (src : List UInt8) : pending c src = 2 * src.length + 1 := by
  unfold pending
  rw [h]

/-- Every result other than `Ok(None)` leaves the loop less to do. -/
theorem decode_pending_lt {c : LengthDelimitedCodec}
    (hh : c.builder.lengthFieldOffset + c.builder.lengthFieldLength ≤ usizeMax) {src : List UInt8}
    (hne : (c.decode src).1 ≠ .ok none) :
    pending (c.decode src).2.1 (c.decode src).2.2 < pending c src := by
  obtain ⟨k, hklen, hsrc, hstate, hk⟩ := decode_consumes hh hne
  rw [pending_of_not_data hstate, hsrc, List.length_drop]
  have hL := c.lengthFieldLength_mem.1
  by_cases hdata : ∃ frameLen, c.state = .Data frameLen
  · obtain ⟨frameLen, hs⟩ := hdata
    rw [pending_of_data hs]
    omega
  · -- outside the `Data` state at least the header, one byte or more, went
    have := hk fun frameLen hs => hdata ⟨frameLen, hs⟩
    rw [pending_of_not_data fun frameLen hs => hdata ⟨frameLen, hs⟩]
    omega

-- ========================================================= the caller's loop

/-- `decode` called until it returns `Ok(None)`: the results it returned
before that, and the decoder and the buffer it left. There is no case for
running forever; `DrainsTo.exists` shows none is needed. -/
inductive DrainsTo : LengthDelimitedCodec → List UInt8 → List (Except IoError (Option (List UInt8))) →
    LengthDelimitedCodec → List UInt8 → Prop where
  | done {c c' : LengthDelimitedCodec} {src src' : List UInt8} :
      c.decode src = (.ok none, c', src') → DrainsTo c src [] c' src'
  | step {c c' c'' : LengthDelimitedCodec} {src src' src'' : List UInt8}
      {r : Except IoError (Option (List UInt8))} {outs : List (Except IoError (Option (List UInt8)))} :
      c.decode src = (r, c', src') → r ≠ .ok none → DrainsTo c' src' outs c'' src'' →
      DrainsTo c src (r :: outs) c'' src''

/-- The chunks appended to the buffer one at a time, and the buffer drained
after each. -/
inductive FeedsTo : LengthDelimitedCodec → List UInt8 → List (List UInt8) →
    List (Except IoError (Option (List UInt8))) → LengthDelimitedCodec → List UInt8 → Prop where
  | nil {c : LengthDelimitedCodec} {src : List UInt8} : FeedsTo c src [] [] c src
  | cons {c c' c'' : LengthDelimitedCodec} {src src' src'' chunk : List UInt8} {chunks : List (List UInt8)}
      {outs outs' : List (Except IoError (Option (List UInt8)))} :
      DrainsTo c (src ++ chunk) outs c' src' → FeedsTo c' src' chunks outs' c'' src'' →
      FeedsTo c src (chunk :: chunks) (outs ++ outs') c'' src''

namespace DrainsTo

variable {c c' c'' : LengthDelimitedCodec} {src src' src'' : List UInt8}
  {outs outs' : List (Except IoError (Option (List UInt8)))}

/-- A run depends on its start only through what the first call returns. -/
theorem of_decode_eq {d : LengthDelimitedCodec} {s : List UInt8} (h : DrainsTo c src outs c' src')
    (heq : c.decode src = d.decode s) : DrainsTo d s outs c' src' := by
  cases h with
  | done hdec => exact .done (heq ▸ hdec)
  | step hdec hne hrest => exact .step (heq ▸ hdec) hne hrest

/-- `decode` is a function, so the loop has one outcome. -/
theorem unique {c₂ : LengthDelimitedCodec} {s₂ : List UInt8}
    (h : DrainsTo c src outs c' src') (h₂ : DrainsTo c src outs' c₂ s₂) :
    outs = outs' ∧ c' = c₂ ∧ src' = s₂ := by
  induction h generalizing outs' with
  | done hdec =>
    cases h₂ with
    | done hdec₂ =>
      rw [hdec, Prod.mk.injEq, Prod.mk.injEq] at hdec₂
      exact ⟨rfl, hdec₂.2.1, hdec₂.2.2⟩
    | step hdec₂ hne _ =>
      rw [hdec, Prod.mk.injEq] at hdec₂
      exact absurd hdec₂.1.symm hne
  | step hdec hne _ ih =>
    cases h₂ with
    | done hdec₂ =>
      rw [hdec, Prod.mk.injEq] at hdec₂
      exact absurd hdec₂.1 hne
    | step hdec₂ _ hrest =>
      rw [hdec, Prod.mk.injEq, Prod.mk.injEq] at hdec₂
      obtain ⟨rfl, rfl, rfl⟩ := hdec₂
      obtain ⟨rfl, rfl, rfl⟩ := ih hrest
      exact ⟨rfl, rfl, rfl⟩

theorem builder (h : DrainsTo c src outs c' src') : c'.builder = c.builder := by
  induction h with
  | @done c c' src src' hdec =>
    have := decode_builder (c := c) src
    rwa [hdec] at this
  | @step c c₁ c' src s₁ src' r outs hdec _ _ ih =>
    have := decode_builder (c := c) src
    rw [hdec] at this
    rw [ih, this]

/-- A known run is the only one. -/
theorem iff_of {c₂ : LengthDelimitedCodec} {s₂ : List UInt8} (h : DrainsTo c src outs c' src') :
    DrainsTo c src outs' c₂ s₂ ↔ outs' = outs ∧ c₂ = c' ∧ s₂ = src' := by
  constructor
  · intro h₂
    obtain ⟨rfl, rfl, rfl⟩ := h.unique h₂
    exact ⟨rfl, rfl, rfl⟩
  · rintro ⟨rfl, rfl, rfl⟩
    exact h

/-- Two starts whose first calls return the same have the same runs. -/
theorem congr_decode {d : LengthDelimitedCodec} {s : List UInt8} (heq : c.decode src = d.decode s) :
    DrainsTo c src outs c' src' ↔ DrainsTo d s outs c' src' :=
  ⟨fun h => h.of_decode_eq heq, fun h => h.of_decode_eq heq.symm⟩

/-- A run whose first call returns something is that result, then a run
from where the call left the decoder. -/
theorem iff_cons {r : Except IoError (Option (List UInt8))} {d : LengthDelimitedCodec} {s : List UInt8}
    (hdec : c.decode src = (r, d, s)) (hr : r ≠ .ok none) :
    DrainsTo c src outs c' src' ↔ ∃ outs₁, outs = r :: outs₁ ∧ DrainsTo d s outs₁ c' src' := by
  constructor
  · intro h
    cases h with
    | done hdec' =>
      rw [hdec, Prod.mk.injEq] at hdec'
      exact absurd hdec'.1 hr
    | step hdec' _ hrest =>
      rw [hdec, Prod.mk.injEq, Prod.mk.injEq] at hdec'
      obtain ⟨rfl, rfl, rfl⟩ := hdec'
      exact ⟨_, rfl, hrest⟩
  · rintro ⟨outs₁, rfl, h⟩
    exact .step hdec hr h

variable (hh : c.builder.lengthFieldOffset + c.builder.lengthFieldLength ≤ usizeMax)
include hh

/-- Where the loop stops, `decode` returns nothing again. -/
theorem idle (h : DrainsTo c src outs c' src') : c'.decode src' = (.ok none, c', src') := by
  induction h with
  | done hdec => exact decode_idle_of_none hh hdec
  | @step c c₁ c' src s₁ src' r outs hdec _ _ ih =>
    have := decode_builder (c := c) src
    rw [hdec] at this
    exact ih (by rwa [this])

/-- Bytes appended behind a drained buffer are read as if they had been
there from the start. -/
theorem append (h : DrainsTo c src outs c' src') (x : List UInt8)
    (h₂ : DrainsTo c' (src' ++ x) outs' c'' src'') : DrainsTo c (src ++ x) (outs ++ outs') c'' src'' := by
  induction h with
  | done hdec => exact h₂.of_decode_eq (decode_append_of_none hh hdec x).symm
  | @step c c₁ c' src s₁ src' r outs hdec hne _ ih =>
    have hdec' := decode_append hh (show (c.decode src).1 ≠ .ok none by rw [hdec]; exact hne) x
    rw [hdec] at hdec'
    have hb := decode_builder (c := c) src
    rw [hdec] at hb
    exact .step hdec' hne (ih (by rwa [hb]) h₂)

end DrainsTo

/-- The loop ends: each result other than `Ok(None)` lowers `pending`. -/
theorem DrainsTo.exists (c : LengthDelimitedCodec) (src : List UInt8)
    (hh : c.builder.lengthFieldOffset + c.builder.lengthFieldLength ≤ usizeMax) :
    ∃ outs c' src', DrainsTo c src outs c' src' := by
  induction hn : pending c src using Nat.strong_induction_on generalizing c src with
  | _ n ih =>
    rcases hdec : c.decode src with ⟨r, c₁, s₁⟩
    by_cases hr : r = .ok none
    · exact ⟨[], c₁, s₁, .done (hr ▸ hdec)⟩
    have hlt := decode_pending_lt hh (show (c.decode src).1 ≠ .ok none by rw [hdec]; exact hr)
    have hb := decode_builder (c := c) src
    rw [hdec] at hlt hb
    obtain ⟨outs, c', src', h⟩ := ih _ (hn ▸ hlt) c₁ s₁ (by rwa [hb]) rfl
    exact ⟨r :: outs, c', src', .step hdec hr h⟩

/-- Every chunking has an outcome. -/
theorem FeedsTo.exists (c : LengthDelimitedCodec) (src : List UInt8)
    (hh : c.builder.lengthFieldOffset + c.builder.lengthFieldLength ≤ usizeMax) (chunks : List (List UInt8)) :
    ∃ outs c' src', FeedsTo c src chunks outs c' src' := by
  induction chunks generalizing c src with
  | nil => exact ⟨[], c, src, .nil⟩
  | cons chunk chunks ih =>
    obtain ⟨outs, c₁, s₁, h⟩ := DrainsTo.exists c (src ++ chunk) hh
    obtain ⟨outs', c', src', h'⟩ := ih c₁ s₁ (by rwa [h.builder])
    exact ⟨outs ++ outs', c', src', .cons h h'⟩

/-- Fed in chunks from where it is idle, the decoder returns what it returns
on the whole of them. -/
theorem FeedsTo.drainsTo {c c' : LengthDelimitedCodec} {src src' : List UInt8} {chunks : List (List UInt8)}
    {outs : List (Except IoError (Option (List UInt8)))}
    (hh : c.builder.lengthFieldOffset + c.builder.lengthFieldLength ≤ usizeMax)
    (hidle : c.decode src = (.ok none, c, src)) (h : FeedsTo c src chunks outs c' src') :
    DrainsTo c (src ++ chunks.flatten) outs c' src' := by
  induction h with
  | nil =>
    rw [List.flatten_nil, List.append_nil]
    exact .done hidle
  | @cons c c₁ c' src s₁ src' chunk chunks outs outs' hd _ ih =>
    rw [List.flatten_cons, ← List.append_assoc]
    -- each chunk is drained down to where the decoder is idle again
    have hh₁ : c₁.builder.lengthFieldOffset + c₁.builder.lengthFieldLength ≤ usizeMax := by
      rwa [hd.builder]
    exact hd.append hh _ (ih hh₁ (hd.idle hh))

/-- What the decoder returns does not depend on how its input is chunked. -/
theorem feedsTo_iff_drainsTo {c c' : LengthDelimitedCodec} {src src' : List UInt8}
    {chunks : List (List UInt8)} {outs : List (Except IoError (Option (List UInt8)))}
    (hh : c.builder.lengthFieldOffset + c.builder.lengthFieldLength ≤ usizeMax)
    (hidle : c.decode src = (.ok none, c, src)) :
    FeedsTo c src chunks outs c' src' ↔ DrainsTo c (src ++ chunks.flatten) outs c' src' := by
  constructor
  · exact FeedsTo.drainsTo hh hidle
  · intro h
    -- the chunked run exists, and drains the same way as the whole input
    obtain ⟨outs₁, c₁, s₁, h₁⟩ := FeedsTo.exists c src hh chunks
    obtain ⟨rfl, rfl, rfl⟩ := (FeedsTo.drainsTo hh hidle h₁).unique h
    exact h₁

end LengthDelimitedCodec

end Codec

end Asupersync
