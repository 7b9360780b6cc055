/-
The QUIC varint codec (`encode_varint` and `decode_varint` in
`net/quic_core/mod.rs`) against RFC 9000 §16.

# The encoding

RFC 9000 §16 writes an integer in 1, 2, 4 or 8 bytes: the base-2
logarithm of the length in the two top bits of the first byte, and the
integer in the remaining bits, high byte first (`rfcVarint`).
`encode_varint` picks the fewest bytes that hold the value
(`varintLen`, `varintLen_le`) and writes that encoding: each of its four
forms is the big-endian field with the tag ORed into the first byte
(`encodeVarint_appends`).

# Decoding

`decode_varint` reads the tag, then shifts in the bytes it names. On an
encoding followed by anything, it reads back the value and the
encoding's length (`decodeVarint_rfcVarint`): the first byte is the tag
over the value's top six bits, and the bytes after it are the rest of
the value (`Bytes.foldl_shift_or`).
-/
import Asupersync.Net.QuicCore

namespace Asupersync

namespace QuicCore

open Bytes (bytesBE bytesBE_succ length_bytesBE)
open Machine (Appends OkAppends)

/-- The length RFC 9000 §16 gives an integer: the fewest of 1, 2, 4 and 8
bytes whose 6, 14, 30 or 62 value bits hold it. -/
def varintLen (v : Nat) : Nat :=
  if v < 2 ^ 6 then 1 else if v < 2 ^ 14 then 2 else if v < 2 ^ 30 then 4 else 8

/-- RFC 9000 §16's encoding of `v` in `len` bytes: the base-2 logarithm
of `len` in the two top bits, and `v` in the rest, high byte first. -/
def rfcVarint (len v : Nat) : List UInt8 := bytesBE len (v + Nat.log2 len * 2 ^ (8 * len - 2))

@[simp] theorem length_rfcVarint (len v : Nat) : (rfcVarint len v).length = len := length_bytesBE _ _

theorem varintLen_mem (v : Nat) : varintLen v = 1 ∨ varintLen v = 2 ∨ varintLen v = 4 ∨ varintLen v = 8 := by
  unfold varintLen
  split_ifs <;> simp

/-- A varint length holds the value. -/
theorem lt_varintLen {v : Nat} (hv : v ≤ quicVarintMax) : v < 2 ^ (8 * varintLen v - 2) := by
  have hmax : quicVarintMax = 2 ^ 62 - 1 := rfl
  unfold varintLen
  split_ifs <;> omega

/-- No shorter form holds the value: the encoding is the shortest. -/
theorem varintLen_le {v L : Nat} (hL : L = 1 ∨ L = 2 ∨ L = 4 ∨ L = 8) (hv : v < 2 ^ (8 * L - 2)) :
    varintLen v ≤ L := by
  unfold varintLen
  rcases hL with rfl | rfl | rfl | rfl <;> split_ifs <;> omega

-- ================================================================ bytes

theorem toUInt8_eq_of_mod_eq {a b : Nat} (h : a % 256 = b % 256) : a.toUInt8 = b.toUInt8 := by
  apply UInt8.toNat_inj.mp
  rw [Nat.toUInt8_eq, Nat.toUInt8_eq, UInt8.toNat_ofNat', UInt8.toNat_ofNat']
  exact h

/-- A tag in the two top bits, ORed over the low six bits of a byte. -/
theorem toNat_and_3f_or {b t : UInt8} (ht : t.toNat % 64 = 0) :
    (b &&& 0x3f ||| t).toNat = b.toNat % 64 + t.toNat := by
  rw [UInt8.toNat_or, UInt8.toNat_and, show (0x3f : UInt8).toNat = 2 ^ 6 - 1 from rfl,
    Nat.and_two_pow_sub_one_eq_mod, Nat.or_comm]
  have ht' : t.toNat = t.toNat / 2 ^ 6 * 2 ^ 6 := by omega
  rw [ht', Bytes.mul_two_pow_or 6 (Nat.mod_lt _ (by decide))]
  omega

theorem toNat_toUInt8 (a : Nat) : a.toUInt8.toNat = a % 256 := by
  rw [Nat.toUInt8_eq, UInt8.toNat_ofNat']

-- ======================================================== the four forms

theorem rfcVarint_one (v : Nat) : [v.toUInt8] = rfcVarint 1 v := by
  rw [rfcVarint, show Nat.log2 1 = 0 by decide, bytesBE_succ]
  simp only [Nat.zero_mul, Nat.add_zero, Nat.pow_zero, Nat.div_one, bytesBE, Bytes.bytesLE, List.reverse_nil]
  exact congrArg (· :: []) (toUInt8_eq_of_mod_eq (by omega))

theorem rfcVarint_two {v : Nat} (hv : v < 2 ^ 14) :
    [((v % 2 ^ 16) >>> 8).toUInt8 &&& 0x3f ||| 0x40, (v % 2 ^ 16).toUInt8] = rfcVarint 2 v := by
  rw [rfcVarint, show Nat.log2 2 = 1 by decide, bytesBE_succ, bytesBE_succ]
  simp only [bytesBE, Bytes.bytesLE, List.reverse_nil, List.cons.injEq, and_true, Nat.shiftRight_eq_div_pow]
  refine ⟨UInt8.toNat_inj.mp ?_, toUInt8_eq_of_mod_eq (by omega)⟩
  rw [toNat_and_3f_or (by decide), toNat_toUInt8, toNat_toUInt8, show (0x40 : UInt8).toNat = 64 from rfl]
  omega

theorem rfcVarint_four {v : Nat} (hv : v < 2 ^ 30) :
    [((v % 2 ^ 32) >>> 24).toUInt8 &&& 0x3f ||| 0x80, ((v % 2 ^ 32) >>> 16).toUInt8,
      ((v % 2 ^ 32) >>> 8).toUInt8, (v % 2 ^ 32).toUInt8] = rfcVarint 4 v := by
  rw [rfcVarint, show Nat.log2 4 = 2 by decide, bytesBE_succ, bytesBE_succ, bytesBE_succ, bytesBE_succ]
  simp only [bytesBE, Bytes.bytesLE, List.reverse_nil, List.cons.injEq, and_true, Nat.shiftRight_eq_div_pow]
  refine ⟨UInt8.toNat_inj.mp ?_, toUInt8_eq_of_mod_eq (by omega), toUInt8_eq_of_mod_eq (by omega),
    toUInt8_eq_of_mod_eq (by omega)⟩
  rw [toNat_and_3f_or (by decide), toNat_toUInt8, toNat_toUInt8, show (0x80 : UInt8).toNat = 128 from rfl]
  omega

theorem rfcVarint_eight {v : Nat} (hv : v < 2 ^ 62) :
    [(v >>> 56).toUInt8 &&& 0x3f ||| 0xc0, (v >>> 48).toUInt8, (v >>> 40).toUInt8, (v >>> 32).toUInt8,
      (v >>> 24).toUInt8, (v >>> 16).toUInt8, (v >>> 8).toUInt8, v.toUInt8] = rfcVarint 8 v := by
  rw [rfcVarint, show Nat.log2 8 = 3 by decide, bytesBE_succ, bytesBE_succ, bytesBE_succ, bytesBE_succ,
    bytesBE_succ, bytesBE_succ, bytesBE_succ, bytesBE_succ]
  simp only [bytesBE, Bytes.bytesLE, List.reverse_nil, List.cons.injEq, and_true, Nat.shiftRight_eq_div_pow]
  refine ⟨UInt8.toNat_inj.mp ?_, toUInt8_eq_of_mod_eq (by omega), toUInt8_eq_of_mod_eq (by omega),
    toUInt8_eq_of_mod_eq (by omega), toUInt8_eq_of_mod_eq (by omega), toUInt8_eq_of_mod_eq (by omega),
    toUInt8_eq_of_mod_eq (by omega), toUInt8_eq_of_mod_eq (by omega)⟩
  rw [toNat_and_3f_or (by decide), toNat_toUInt8, toNat_toUInt8, show (0xc0 : UInt8).toNat = 192 from rfl]
  omega

/-- `encode_varint` appends the shortest RFC 9000 encoding, or fails on
a value past `QUIC_VARINT_MAX` before writing. -/
theorem encodeVarint_appends (v : Nat) :
    Appends (encodeVarint v)
      (if v > quicVarintMax then .error (.VarIntOutOfRange v) else .ok (rfcVarint (varintLen v) v)) := by
  have hmax : quicVarintMax = 2 ^ 62 - 1 := rfl
  unfold encodeVarint
  simp only [Nat.one_shiftLeft]
  by_cases hbig : v > quicVarintMax
  · simp only [if_pos hbig]
    intro s
    rfl
  simp only [if_neg hbig]
  unfold varintLen
  split_ifs with h6 h14 h30
  · rw [← rfcVarint_one v]
    exact BytesMut.putU8_appends _
  · rw [← rfcVarint_two h14]
    exact BytesMut.extendFromSlice_appends _
  · rw [← rfcVarint_four h30]
    exact BytesMut.extendFromSlice_appends _
  · rw [← rfcVarint_eight (by omega)]
    exact BytesMut.extendFromSlice_appends _

/-- What a successful `encode_varint` shows. -/
theorem encodeVarint_okAppends (v : Nat) :
    OkAppends (encodeVarint v) (v ≤ quicVarintMax) (rfcVarint (varintLen v) v) := by
  by_cases hbig : v > quicVarintMax
  · have h := encodeVarint_appends v
    rw [if_pos hbig] at h
    exact OkAppends.mono (OkAppends.of_appends_error h) False.elim rfl
  · have h := encodeVarint_appends v
    rw [if_neg hbig] at h
    exact OkAppends.mono (OkAppends.of_appends_ok h) (fun _ => Nat.le_of_not_lt hbig) rfl

-- ============================================================= decoding

/-- `decode_varint` reads an RFC 9000 encoding back, whatever follows it. -/
theorem decodeVarint_rfcVarint {len v : Nat} (hlen : len = 1 ∨ len = 2 ∨ len = 4 ∨ len = 8)
    (hv : v < 2 ^ (8 * len - 2)) (rest : List UInt8) :
    decodeVarint (rfcVarint len v ++ rest) = .ok (v, len) := by
  have htag : Nat.log2 len < 4 ∧ 1 <<< Nat.log2 len = len := by
    rcases hlen with rfl | rfl | rfl | rfl <;> decide
  obtain ⟨m, rfl⟩ : ∃ m, len = m + 1 := ⟨len - 1, by omega⟩
  unfold rfcVarint
  generalize Nat.log2 (m + 1) = tag at htag ⊢
  -- the tag sits 64 times above the top byte of the value bits
  have h64 : 2 ^ (8 * (m + 1) - 2) = 64 * 256 ^ m := by
    rw [show 8 * (m + 1) - 2 = 6 + 8 * m by omega, Nat.pow_add, Nat.pow_mul]
  have hpos : 0 < 256 ^ m := Nat.pow_pos (by decide)
  have hvhigh : v / 256 ^ m < 64 := Nat.div_lt_of_lt_mul (by rw [Nat.mul_comm, ← h64]; exact hv)
  have hhigh : (v + tag * 2 ^ (8 * (m + 1) - 2)) / 256 ^ m = v / 256 ^ m + 64 * tag := by
    rw [h64, show tag * (64 * 256 ^ m) = 64 * tag * 256 ^ m by rw [← Nat.mul_assoc, Nat.mul_comm tag],
      Nat.add_mul_div_right _ _ hpos]
  have hlow : (v + tag * 2 ^ (8 * (m + 1) - 2)) % 256 ^ m = v % 256 ^ m := by
    rw [h64, show tag * (64 * 256 ^ m) = 64 * tag * 256 ^ m by rw [← Nat.mul_assoc, Nat.mul_comm tag],
      Nat.add_mul_mod_self_right]
  rw [bytesBE_succ, List.cons_append]
  generalize v + tag * 2 ^ (8 * (m + 1) - 2) = n at hhigh hlow
  generalize hhi : v / 256 ^ m = hi at hvhigh hhigh
  -- the first byte is the tag over the top six bits of `v`
  have hfirst : (n / 256 ^ m % 256).toUInt8.toNat = hi + 64 * tag := by
    rw [toNat_toUInt8, hhigh]
    omega
  have hshift : ((n / 256 ^ m % 256).toUInt8 >>> 6).toNat = tag := by
    rw [UInt8.toNat_shiftRight, hfirst, Nat.shiftRight_eq_div_pow]
    simp only [show (6 : UInt8).toNat % 8 = 6 from rfl]
    omega
  have hmask : ((n / 256 ^ m % 256).toUInt8 &&& 0x3f).toNat = hi := by
    rw [UInt8.toNat_and, show (0x3f : UInt8).toNat = 2 ^ 6 - 1 from rfl, Nat.and_two_pow_sub_one_eq_mod,
      hfirst]
    omega
  unfold decodeVarint
  simp only [hshift, htag.2, List.length_cons, List.length_append, length_bytesBE]
  rw [if_neg (by omega)]
  -- the bytes after the first are the low `m` bytes of the field
  have hslice : Bytes.slice ((n / 256 ^ m % 256).toUInt8 :: (bytesBE m n ++ rest)) 1 (m + 1) =
      bytesBE m n := by
    rw [Bytes.slice, List.drop_one, List.tail_cons, Nat.add_sub_cancel,
      List.take_left' (length_bytesBE m n)]
  rw [hslice, Bytes.foldl_shift_or, hmask, length_bytesBE, Bytes.ofBytesLE_reverse_bytesBE, hlow, ← hhi,
    Nat.div_add_mod']

/-- A value within 62 bits, encoded and read back. -/
theorem decodeVarint_encoding {v : Nat} (hv : v ≤ quicVarintMax) (rest : List UInt8) :
    decodeVarint (rfcVarint (varintLen v) v ++ rest) = .ok (v, varintLen v) :=
  decodeVarint_rfcVarint (varintLen_mem v) (lt_varintLen hv) rest

end QuicCore

end Asupersync
