/-
The decoder's literal budget (`Decoder::decode`, `decode_literal` and
`decode_string_bounded` in `http/h2/hpack.rs`).

# Where it fails

`decode` gives each header what the list may still hold,
`max_header_list_size - total_size`, and `decode_literal` gives the value
that budget less the name's length. The budget bounds the decoded
string, but `decode_string_bounded` compares it with the length prefix,
which for a Huffman-coded string is its length on the wire. Codes run up
to 30 bits a byte, so a value can fit the list and still take more bytes
on the wire than the budget: the decoder then refuses the block the
encoder wrote for it (`decode_encode_static_name_over_budget`), with any
table size. `hpack_decode_rejects_encoded_value` is one such header, a
`user-agent` of 3195 `é`, whose list size is 6432 bytes and whose value
takes 16375 bytes on the wire against a budget of 16374.

# Method

The encoder's block for one header of a fresh encoder is fixed by the
header: the name's static index, then the value's string literal
(`encode_withMaxSize_static_name`). The decoder reads that index back
(`decodeInteger_encodeInteger`), finds the name, and stops at the value's
length prefix.
-/
import Asupersync.Http.Hpack.Coder
import Asupersync.Proofs.Hpack.Integer
import Mathlib

namespace Asupersync

namespace Hpack

-- ======================================================== static table

/-- `find_static_name` finds an entry that `get_indexed_name` reads back. -/
theorem getStatic_of_findStaticName {name : List UInt8} {idx : Nat}
    (h : findStaticName name = some idx) :
    0 < idx ∧ idx ≤ staticTable.length ∧ ∃ value, getStatic idx = some (name, value) := by
  unfold findStaticName at h
  obtain ⟨i, hi, rfl⟩ := Option.map_eq_some_iff.mp h
  obtain ⟨hlt, hmatch, -⟩ := List.findIdx?_eq_some_iff_getElem.mp hi
  refine ⟨Nat.succ_pos i, hlt, asciiBytes staticTable[i].2, ?_⟩
  have hname : asciiBytes staticTable[i].1 = name := beq_iff_eq.mp hmatch
  rw [getStatic, if_neg (by omega), Nat.add_sub_cancel, List.getElem?_eq_getElem hlt, Option.map_some,
    hname]

/-- No static entry has a value longer than `gzip, deflate`. -/
theorem length_static_value_le : ∀ e ∈ staticTable, (asciiBytes e.2).length ≤ 13 := by
  decide

theorem findStatic_eq_none_of_length {name value : List UInt8} (h : 13 < value.length) :
    findStatic name value = none := by
  unfold findStatic
  rw [Option.map_eq_none_iff, List.findIdx?_eq_none_iff]
  intro e he
  have hlen := length_static_value_le e he
  -- the value differs from every static value in length
  have hne : asciiBytes e.2 ≠ value := fun heq => by rw [heq] at hlen; omega
  simp [hne]

-- ============================================================ encoder

theorem DynamicTable.find_withMaxSize (m : Nat) (name value : List UInt8) :
    (DynamicTable.withMaxSize m).find name value = none := rfl

theorem DynamicTable.findName_withMaxSize (m : Nat) (name : List UInt8) :
    (DynamicTable.withMaxSize m).findName name = none := rfl

/-- A fresh encoder's block for one header whose name is in the static
table and whose pair is not: the name's index with incremental indexing,
then the value's Huffman-coded literal. -/
theorem encode_withMaxSize_static_name (m : Nat) (h : Header) {idx : Nat}
    (hname : findStaticName (Encoder.normalizedName h.name) = some idx)
    (hexact : findStatic (Encoder.normalizedName h.name) h.value = none) :
    ((Encoder.withMaxSize m).encode [h]).1 = encodeInteger idx 6 0x40 ++ encodeString h.value true := by
  simp only [Encoder.encode, Encoder.encodeWith, List.foldl_cons, List.foldl_nil]
  have hpending : (Encoder.withMaxSize m).emitPendingSizeUpdate = ([], Encoder.withMaxSize m) := rfl
  rw [hpending, List.nil_append]
  simp only [Encoder.encodeHeader, hexact, hname, Encoder.withMaxSize,
    DynamicTable.find_withMaxSize, Option.or_none, Option.some_or, if_true]

-- ============================================================ decoder

/-- The first byte of a literal with incremental indexing and an index
below 64: not a size update, not an indexed field, indexing. -/
theorem literal_first_byte {i : Nat} (hi : i < 64) :
    (0x40 ||| i.toUInt8) &&& 0xe0 ≠ 0x20 ∧ (0x40 ||| i.toUInt8) &&& 0x80 = 0 ∧
      (0x40 ||| i.toUInt8) &&& 0x40 ≠ 0 := by
  have hb : (0x40 ||| i.toUInt8).toNat = 2 ^ 6 * 1 + i := by
    rw [UInt8.toNat_or, toNat_toUInt8_of_lt (by omega), show (0x40 : UInt8).toNat = 2 ^ 6 * 1 from rfl,
      ← Nat.two_pow_add_eq_or_of_lt (show i < 2 ^ 6 from hi)]
  -- bit 6 is set: it tells the byte from a size update and from zero
  have hbit : (0x40 ||| i.toUInt8).toNat.testBit 6 = true := by
    rw [hb, Nat.mul_one, Nat.testBit_two_pow_add_eq, Nat.testBit_lt_two_pow (show i < 2 ^ 6 from hi)]
    rfl
  refine ⟨fun h => ?_, (and_0x80_eq_zero_iff _).mpr (by omega), fun h => ?_⟩
  · have h6 := congrArg (fun c : UInt8 => c.toNat.testBit 6) h
    simp only [UInt8.toNat_and, Nat.testBit_and, hbit] at h6
    exact absurd h6 (by decide)
  · have h6 := congrArg (fun c : UInt8 => c.toNat.testBit 6) h
    simp only [UInt8.toNat_and, Nat.testBit_and, hbit] at h6
    exact absurd h6 (by decide)

/-- `decode_string_bounded` refuses a length prefix above its budget
before it reads any byte of the string. -/
theorem decodeStringBounded_over_budget {src rest : List UInt8} {maxLen length : Nat}
    (hne : src ≠ []) (hlen : decodeInteger src 7 = .ok (length, rest))
    (hover : min maxLen maxStringLength < length) :
    decodeStringBounded src maxLen = .error (.compression "string length exceeds budget") := by
  obtain ⟨first, tail, rfl⟩ := List.exists_cons_of_ne_nil hne
  simp only [decodeStringBounded, hlen, bind, Except.bind, if_pos hover]
  rfl

/-- A literal whose name is an index: an error on the value is the
literal's error. -/
theorem decodeLiteral_value_error (d : Decoder) {src rest : List UInt8} {p budget idx : Nat}
    {name : List UInt8} {e : H2Error} (hidx : decodeInteger src p = .ok (idx, rest)) (hidx0 : idx ≠ 0)
    (hname : d.getIndexedName idx = .ok name)
    (hvalue : decodeStringBounded rest (budget - name.length) = .error e) :
    d.decodeLiteral src p budget = .error e := by
  simp only [Decoder.decodeLiteral, hidx, if_neg hidx0, hname, hvalue, bind, Except.bind, pure,
    Except.pure]

theorem getIndexedName_of_findStaticName (d : Decoder) {name : List UInt8} {idx : Nat}
    (h : findStaticName name = some idx) : d.getIndexedName idx = .ok name := by
  obtain ⟨hpos, hle, value, hget⟩ := getStatic_of_findStaticName h
  rw [Decoder.getIndexedName, if_neg (by omega), if_pos hle, hget]

/-- A block that opens with an indexed-name literal whose value is over
its budget: `decode` reads no size update and fails on that header. -/
theorem decode_literal_over_budget (d : Decoder) {i : Nat} {tail : List UInt8} {e : H2Error}
    (hi : i < 64)
    (hlit : d.decodeLiteral ((0x40 ||| i.toUInt8) :: tail) 6 d.maxHeaderListSize = .error e) :
    (d.decode ((0x40 ||| i.toUInt8) :: tail)).1 = .error e := by
  obtain ⟨hupdate, hindexed, hindexing⟩ := literal_first_byte hi
  have hsize : Decoder.sizeUpdateLoop (maxSizeUpdates + 1) 0 d ((0x40 ||| i.toUInt8) :: tail) =
      (.ok ((0x40 ||| i.toUInt8) :: tail), d) := by
    simp only [Decoder.sizeUpdateLoop, if_neg hupdate]
  have hheader : d.decodeHeader ((0x40 ||| i.toUInt8) :: tail) d.maxHeaderListSize = .error e := by
    simp only [Decoder.decodeHeader, hindexed, hindexing, ne_eq, not_true_eq_false, not_false_eq_true,
      if_false, if_true, hlit, bind, Except.bind]
  simp only [Decoder.decode, hsize, List.length_cons, Decoder.headerLoop, List.isEmpty_cons,
    Bool.false_eq_true, if_false, Nat.sub_zero, hheader]

/-- A fresh decoder refuses a fresh encoder's block for one header whose
name is in the static table, when the value's Huffman coding is longer
than the budget the header list leaves it, whatever the table size. -/
theorem decode_encode_static_name_over_budget (m : Nat) (h : Header) {idx : Nat}
    (hname : findStaticName (Encoder.normalizedName h.name) = some idx)
    (hexact : findStatic (Encoder.normalizedName h.name) h.value = none)
    (hover : (Decoder.withMaxSize m).maxHeaderListSize - (Encoder.normalizedName h.name).length <
      huffmanEncodedSize h.value)
    (hwire : huffmanEncodedSize h.value < 2 ^ 35) :
    ((Decoder.withMaxSize m).decode ((Encoder.withMaxSize m).encode [h]).1).1 =
      .error (.compression "string length exceeds budget") := by
  obtain ⟨hpos, hle, -⟩ := getStatic_of_findStaticName hname
  have hidx : idx < 63 := Nat.lt_of_le_of_lt hle (by decide)
  rw [encode_withMaxSize_static_name m h hname hexact]
  -- the index fits the six-bit prefix: one byte
  have hbyte : encodeInteger idx 6 0x40 = [0x40 ||| idx.toUInt8] := by
    rw [encodeInteger, if_pos (show idx < 2 ^ 6 - 1 by omega)]
  have hname' : decodeInteger (encodeInteger idx 6 0x40 ++ encodeString h.value true) 6 =
      .ok (idx, encodeString h.value true) :=
    decodeInteger_encodeInteger idx 6 0x40 _ (by omega) rfl (by omega)
  have hvalue : decodeInteger (encodeString h.value true) 7 =
      .ok (huffmanEncodedSize h.value, encodeHuffmanToBuffer h.value) := by
    rw [encodeString, if_pos rfl]
    exact decodeInteger_encodeInteger _ 7 0x80 _ (by omega) rfl (by omega)
  have hne : encodeString h.value true ≠ [] := by
    rw [encodeString, if_pos rfl, encodeInteger]
    split <;> simp
  have hbudget : min ((Decoder.withMaxSize m).maxHeaderListSize - (Encoder.normalizedName h.name).length)
      maxStringLength < huffmanEncodedSize h.value :=
    Nat.lt_of_le_of_lt (Nat.min_le_left _ _) hover
  rw [hbyte, List.singleton_append] at hname' ⊢
  exact decode_literal_over_budget _ (by omega)
    (decodeLiteral_value_error _ hname' (by omega) (getIndexedName_of_findStaticName _ hname)
      (decodeStringBounded_over_budget hne hvalue hbudget))

-- ======================================================= the failing input

theorem huffmanEncodedSize_flatten_replicate (n : Nat) (bytes : List UInt8) :
    huffmanEncodedSize (List.replicate n bytes).flatten =
      (n * (bytes.map fun byte => (huffmanCode byte).2).sum + 7) / 8 := by
  rw [huffmanEncodedSize, List.map_flatten, List.map_replicate, List.sum_flatten, List.map_replicate,
    List.sum_replicate_nat]

/-- A `user-agent` of 3195 `é` (`0xc3 0xa9` in UTF-8) meets every
condition on a header list: its name is lowercase and valid, its value
has no NUL, CR or LF, both are below 64 KiB, and its list size is 6432
bytes of the decoder's 16384; the value is valid UTF-8. Its value takes 16375 bytes in Huffman
coding, one more than the 16374 the budget leaves after the name, and
the decoder refuses the encoder's block. -/
theorem hpack_decode_rejects_encoded_value :
    validateHeaderName (Encoder.normalizedName (asciiBytes "user-agent")) = .ok () ∧
    validateHeaderValue (List.replicate 3195 [0xc3, 0xa9]).flatten = .ok () ∧
    fromUtf8 (List.replicate 3195 [0xc3, 0xa9]).flatten = some (List.replicate 3195 [0xc3, 0xa9]).flatten ∧
    (asciiBytes "user-agent").length ≤ 65536 ∧
    (List.replicate 3195 ([0xc3, 0xa9] : List UInt8)).flatten.length ≤ 65536 ∧
    (Header.mk (asciiBytes "user-agent") (List.replicate 3195 [0xc3, 0xa9]).flatten).size ≤
      (Decoder.withMaxSize 4096).maxHeaderListSize ∧
    ((Decoder.withMaxSize 4096).decode ((Encoder.withMaxSize 4096).encode
        [⟨asciiBytes "user-agent", (List.replicate 3195 [0xc3, 0xa9]).flatten⟩]).1).1 =
      .error (.compression "string length exceeds budget") := by
  have hname : Encoder.normalizedName (asciiBytes "user-agent") = asciiBytes "user-agent" := by decide
  have hlen : (List.replicate 3195 ([0xc3, 0xa9] : List UInt8)).flatten.length = 6390 := by
    simp only [List.length_flatten, List.map_replicate, List.sum_replicate_nat]
    rfl
  -- `0xc3` takes 19 bits and `0xa9` 22
  have hcode : ([0xc3, 0xa9] : List UInt8).map (fun byte => (huffmanCode byte).2) = [19, 22] := by
    set_option maxRecDepth 4000 in decide
  have hwire : huffmanEncodedSize (List.replicate 3195 ([0xc3, 0xa9] : List UInt8)).flatten = 16375 := by
    rw [huffmanEncodedSize_flatten_replicate, hcode]
    rfl
  refine ⟨by decide, ?_, ?_, by decide, by rw [hlen]; decide, ?_, ?_⟩
  · simp only [validateHeaderValue, List.any_flatten, List.any_replicate]
    decide
  · -- the value is the UTF-8 of the text `é` × 3195
    have hchar : String.utf8EncodeChar 'é' = [0xc3, 0xa9] := by decide
    have htext : ByteArray.mk (List.replicate 3195 ([0xc3, 0xa9] : List UInt8)).flatten.toArray =
        (List.replicate 3195 'é').utf8Encode := by
      apply ByteArray.ext
      simp only [List.utf8Encode, List.data_toByteArray, List.flatMap, List.map_replicate, hchar]
    rw [fromUtf8, if_pos ⟨List.replicate 3195 'é', htext⟩]
  · simp only [Header.size, hlen]
    decide
  · have hstatic : findStaticName (Encoder.normalizedName (asciiBytes "user-agent")) = some 58 := by
      rw [hname]
      set_option maxRecDepth 4000 in decide
    have hover : (Decoder.withMaxSize 4096).maxHeaderListSize -
        (Encoder.normalizedName (asciiBytes "user-agent")).length <
        huffmanEncodedSize (List.replicate 3195 ([0xc3, 0xa9] : List UInt8)).flatten := by
      rw [hname, hwire]
      decide
    exact decode_encode_static_name_over_budget 4096 _ hstatic
      (findStatic_eq_none_of_length (by rw [hlen]; decide)) hover (by rw [hwire]; decide)

end Hpack

end Asupersync
