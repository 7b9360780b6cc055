/-
Big-endian integers in byte strings, as network protocols write them.

`putU16` and `putU32` are the bytes `put_u16` and `put_u32` append, most
significant first. `be16`, `be24` and `be32` are what a parser reads
back with an OR of shifts, `(b0 << 24) | (b1 << 16) | (b2 << 8) | b3`.

# Reading and writing

Each OR in a reading joins a shifted byte to a value below the shift,
so it is a sum (`mul_two_pow_or`), and a reading is its bytes in base
256 (`toNat_be16`, `toNat_be24`, `toNat_be32`). A reading therefore
inverts the writing (`be16_putU16`, `be32_putU32`), and three bytes
hold the low 24 bits of a word (`be24_of_lt`).

# Trailing zeros

`trailingZeros32` is `u32::trailing_zeros`, counted bit by bit from the
bottom; at least `k` of them means the low `k` bits are clear
(`le_trailingZerosAux_iff`).

Nothing here names the modelled program.
-/
import Mathlib

namespace Bytes

/-- A multiple of `2 ^ i` ORed with a value below `2 ^ i` is their sum. -/
theorem mul_two_pow_or {q y : Nat} (i : Nat) (hy : y < 2 ^ i) : q * 2 ^ i ||| y = q * 2 ^ i + y := by
  rw [Nat.mul_comm, Nat.two_pow_add_eq_or_of_lt hy]

-- =============================================================== writing

/-- `put_u16`: the two bytes of a `u16`, high first. -/
def putU16 (x : UInt16) : List UInt8 := [(x >>> 8).toUInt8, x.toUInt8]

/-- `put_u32`: the four bytes of a `u32`, high first. -/
def putU32 (x : UInt32) : List UInt8 :=
  [(x >>> 24).toUInt8, (x >>> 16).toUInt8, (x >>> 8).toUInt8, x.toUInt8]

/-- `to_be_bytes` of a `u64`. -/
def putU64 (x : UInt64) : List UInt8 :=
  [(x >>> 56).toUInt8, (x >>> 48).toUInt8, (x >>> 40).toUInt8, (x >>> 32).toUInt8,
    (x >>> 24).toUInt8, (x >>> 16).toUInt8, (x >>> 8).toUInt8, x.toUInt8]

/-- `put_u16_le`: low byte first. -/
def putU16Le (x : UInt16) : List UInt8 := [x.toUInt8, (x >>> 8).toUInt8]

/-- `put_u32_le`. -/
def putU32Le (x : UInt32) : List UInt8 :=
  [x.toUInt8, (x >>> 8).toUInt8, (x >>> 16).toUInt8, (x >>> 24).toUInt8]

/-- `put_u64_le`. -/
def putU64Le (x : UInt64) : List UInt8 :=
  [x.toUInt8, (x >>> 8).toUInt8, (x >>> 16).toUInt8, (x >>> 24).toUInt8,
    (x >>> 32).toUInt8, (x >>> 40).toUInt8, (x >>> 48).toUInt8, (x >>> 56).toUInt8]

@[simp] theorem length_putU16 (x : UInt16) : (putU16 x).length = 2 := rfl

@[simp] theorem length_putU32 (x : UInt32) : (putU32 x).length = 4 := rfl

-- =============================================================== reading

/-- `(u16::from(b0) << 8) | u16::from(b1)`. -/
def be16 (b0 b1 : UInt8) : UInt16 := (b0.toUInt16 <<< 8) ||| b1.toUInt16

/-- `(u32::from(b0) << 16) | (u32::from(b1) << 8) | u32::from(b2)`. -/
def be24 (b0 b1 b2 : UInt8) : UInt32 := (b0.toUInt32 <<< 16) ||| (b1.toUInt32 <<< 8) ||| b2.toUInt32

/-- `(u32::from(b0) << 24) | (u32::from(b1) << 16) | (u32::from(b2) << 8) | u32::from(b3)`. -/
def be32 (b0 b1 b2 b3 : UInt8) : UInt32 :=
  (b0.toUInt32 <<< 24) ||| (b1.toUInt32 <<< 16) ||| (b2.toUInt32 <<< 8) ||| b3.toUInt32

theorem toNat_be16 (b0 b1 : UInt8) : (be16 b0 b1).toNat = b0.toNat * 256 + b1.toNat := by
  have h0 := b0.toNat_lt
  have h1 := b1.toNat_lt
  simp only [be16, UInt16.toNat_or, UInt16.toNat_shiftLeft, UInt8.toNat_toUInt16, UInt16.reduceToNat,
    Nat.reduceMod, Nat.shiftLeft_eq]
  rw [Nat.mod_eq_of_lt (by omega), mul_two_pow_or 8 (by omega)]
  norm_num

theorem toNat_be24 (b0 b1 b2 : UInt8) :
    (be24 b0 b1 b2).toNat = (b0.toNat * 256 + b1.toNat) * 256 + b2.toNat := by
  have h0 := b0.toNat_lt
  have h1 := b1.toNat_lt
  have h2 := b2.toNat_lt
  simp only [be24, UInt32.toNat_or, UInt32.toNat_shiftLeft, UInt8.toNat_toUInt32, UInt32.reduceToNat,
    Nat.reduceMod, Nat.shiftLeft_eq]
  rw [Nat.mod_eq_of_lt (by omega), Nat.mod_eq_of_lt (by omega), mul_two_pow_or 16 (by omega),
    show b0.toNat * 2 ^ 16 + b1.toNat * 2 ^ 8 = (b0.toNat * 256 + b1.toNat) * 2 ^ 8 by omega,
    mul_two_pow_or 8 (by omega)]
  norm_num

theorem toNat_be32 (b0 b1 b2 b3 : UInt8) :
    (be32 b0 b1 b2 b3).toNat = ((b0.toNat * 256 + b1.toNat) * 256 + b2.toNat) * 256 + b3.toNat := by
  have h0 := b0.toNat_lt
  have h1 := b1.toNat_lt
  have h2 := b2.toNat_lt
  have h3 := b3.toNat_lt
  simp only [be32, UInt32.toNat_or, UInt32.toNat_shiftLeft, UInt8.toNat_toUInt32, UInt32.reduceToNat,
    Nat.reduceMod, Nat.shiftLeft_eq]
  -- join the bytes from the top: each OR adds a byte below the bits so far
  rw [Nat.mod_eq_of_lt (by omega), Nat.mod_eq_of_lt (by omega), Nat.mod_eq_of_lt (by omega),
    mul_two_pow_or 24 (by omega),
    show b0.toNat * 2 ^ 24 + b1.toNat * 2 ^ 16 = (b0.toNat * 256 + b1.toNat) * 2 ^ 16 by omega,
    mul_two_pow_or 16 (by omega),
    show (b0.toNat * 256 + b1.toNat) * 2 ^ 16 + b2.toNat * 2 ^ 8 =
      ((b0.toNat * 256 + b1.toNat) * 256 + b2.toNat) * 2 ^ 8 by omega,
    mul_two_pow_or 8 (by omega)]
  norm_num

-- ============================================================ round trips

theorem be16_putU16 (x : UInt16) : be16 (x >>> 8).toUInt8 x.toUInt8 = x := by
  apply UInt16.toNat_inj.mp
  have hx := x.toNat_lt
  rw [toNat_be16]
  simp only [UInt16.toNat_toUInt8, UInt16.toNat_shiftRight, UInt16.reduceToNat, Nat.reduceMod,
    Nat.shiftRight_eq_div_pow]
  omega

theorem be32_putU32 (x : UInt32) :
    be32 (x >>> 24).toUInt8 (x >>> 16).toUInt8 (x >>> 8).toUInt8 x.toUInt8 = x := by
  apply UInt32.toNat_inj.mp
  have hx := x.toNat_lt
  rw [toNat_be32]
  simp only [UInt32.toNat_toUInt8, UInt32.toNat_shiftRight, UInt32.reduceToNat, Nat.reduceMod,
    Nat.shiftRight_eq_div_pow]
  omega

theorem be24_of_lt (x : UInt32) (h : x.toNat < 2 ^ 24) :
    be24 (x >>> 16).toUInt8 (x >>> 8).toUInt8 x.toUInt8 = x := by
  apply UInt32.toNat_inj.mp
  rw [toNat_be24]
  simp only [UInt32.toNat_toUInt8, UInt32.toNat_shiftRight, UInt32.reduceToNat, Nat.reduceMod,
    Nat.shiftRight_eq_div_pow]
  omega

/-- The reserved bit cleared: `b & 0x7f` keeps the low seven bits. -/
theorem toNat_and_7f (b : UInt8) : (b &&& 0x7f).toNat = b.toNat % 128 := by
  rw [UInt8.toNat_and, show (0x7f : UInt8).toNat = 2 ^ 7 - 1 from rfl, Nat.and_two_pow_sub_one_eq_mod]

/-- `x & 0x7fff_ffff` keeps the low 31 bits. -/
theorem toNat_and_7fffffff (x : UInt32) : (x &&& 0x7fffffff).toNat = x.toNat % 2 ^ 31 := by
  rw [UInt32.toNat_and, show (0x7fffffff : UInt32).toNat = 2 ^ 31 - 1 from rfl,
    Nat.and_two_pow_sub_one_eq_mod]

/-- A 31-bit field read back from the bytes of a word: its low 31 bits. -/
theorem be32_and_7f_putU32 (x : UInt32) :
    be32 ((x >>> 24).toUInt8 &&& 0x7f) (x >>> 16).toUInt8 (x >>> 8).toUInt8 x.toUInt8 =
      x &&& 0x7fffffff := by
  apply UInt32.toNat_inj.mp
  have hx := x.toNat_lt
  rw [toNat_be32, toNat_and_7f, toNat_and_7fffffff]
  simp only [UInt32.toNat_toUInt8, UInt32.toNat_shiftRight, UInt32.reduceToNat, Nat.reduceMod,
    Nat.shiftRight_eq_div_pow]
  omega

-- ===================================================== fields of n bytes

/-- The low `n` bytes of `v`, least significant first. -/
def bytesLE : Nat → Nat → List UInt8
  | 0, _ => []
  | n + 1, v => (v % 256).toUInt8 :: bytesLE n (v / 256)

/-- The low `n` bytes of `v`, most significant first. -/
def bytesBE (n v : Nat) : List UInt8 := (bytesLE n v).reverse

/-- The value of a little-endian byte string. -/
def ofBytesLE : List UInt8 → Nat
  | [] => 0
  | b :: bs => b.toNat + 256 * ofBytesLE bs

@[simp] theorem length_bytesLE : ∀ n v, (bytesLE n v).length = n
  | 0, _ => rfl
  | n + 1, v => by rw [bytesLE, List.length_cons, length_bytesLE n]

theorem ofBytesLE_lt : ∀ bytes : List UInt8, ofBytesLE bytes < 256 ^ bytes.length
  | [] => Nat.one_pos
  | b :: bs => by
    have hb := b.toNat_lt
    have ih := ofBytesLE_lt bs
    rw [ofBytesLE, List.length_cons, Nat.pow_succ]
    omega

theorem ofBytesLE_bytesLE : ∀ n v, ofBytesLE (bytesLE n v) = v % 256 ^ n
  | 0, v => by rw [bytesLE, ofBytesLE, Nat.pow_zero, Nat.mod_one]
  | n + 1, v => by
    have h : v % 256 % 2 ^ 8 = v % 256 := Nat.mod_eq_of_lt (Nat.mod_lt v (by decide))
    rw [bytesLE, ofBytesLE, ofBytesLE_bytesLE n, Nat.toUInt8_eq, UInt8.toNat_ofNat', h,
      Nat.pow_succ', Nat.mod_mul]

theorem ofBytesLE_append_singleton :
    ∀ (l : List UInt8) (b : UInt8), ofBytesLE (l ++ [b]) = ofBytesLE l + b.toNat * 256 ^ l.length
  | [], b => by simp [ofBytesLE]
  | a :: l, b => by
    rw [List.cons_append, ofBytesLE, ofBytesLE_append_singleton l b, ofBytesLE, List.length_cons,
      Nat.pow_succ]
    ring

/-- Shifting in a byte at a time from the top reads a big-endian string
(`value = (value << 8) | b` for each byte). -/
theorem foldl_shift_or (bytes : List UInt8) (acc : Nat) :
    bytes.foldl (fun value b => (value <<< 8) ||| b.toNat) acc =
      acc * 256 ^ bytes.length + ofBytesLE bytes.reverse := by
  induction bytes generalizing acc with
  | nil => simp [ofBytesLE]
  | cons b bs ih =>
    have hb := b.toNat_lt
    rw [List.foldl_cons, ih, Nat.shiftLeft_eq, mul_two_pow_or 8 (by omega)]
    -- the new byte sits below the bits of `acc` and above those of `bs`
    have hrev : ofBytesLE (b :: bs).reverse = ofBytesLE bs.reverse + b.toNat * 256 ^ bs.length := by
      rw [List.reverse_cons, ofBytesLE_append_singleton, List.length_reverse]
    rw [hrev, List.length_cons, Nat.pow_succ]
    ring

/-- ORing in each byte at its own shift reads a little-endian string
(`value |= b << (8 * i)` for the `i`-th byte). -/
theorem foldl_zipIdx_or_shift (bytes : List UInt8) (k acc : Nat) (hacc : acc < 256 ^ k) :
    (bytes.zipIdx k).foldl (fun value p => value ||| (p.1.toNat <<< (p.2 * 8))) acc =
      acc + ofBytesLE bytes * 256 ^ k := by
  induction bytes generalizing k acc with
  | nil => simp [ofBytesLE]
  | cons b bs ih =>
    have hb := b.toNat_lt
    have h256 : (256 : Nat) ^ k = 2 ^ (k * 8) := by rw [Nat.pow_mul']
    -- `b << 8k` lies above every bit of `acc`
    have hor : acc ||| b.toNat <<< (k * 8) = b.toNat * 256 ^ k + acc := by
      rw [Nat.shiftLeft_eq, h256, Nat.or_comm, mul_two_pow_or (k * 8) (h256 ▸ hacc)]
    have hnext : b.toNat * 256 ^ k + acc < 256 ^ (k + 1) := by
      have := Nat.mul_le_mul_right (256 ^ k) (show b.toNat ≤ 255 by omega)
      rw [Nat.pow_succ]
      omega
    rw [List.zipIdx_cons, List.foldl_cons, hor, ih (k + 1) _ hnext, ofBytesLE, Nat.pow_succ]
    ring

/-- An `n + 1`-byte field is the low `n` bytes with the top byte above. -/
theorem bytesLE_succ' : ∀ n v, bytesLE (n + 1) v = bytesLE n v ++ [(v / 256 ^ n % 256).toUInt8]
  | 0, v => by simp [bytesLE]
  | n + 1, v => by
    rw [bytesLE, bytesLE_succ' n (v / 256), bytesLE, List.cons_append, Nat.div_div_eq_div_mul,
      ← Nat.pow_succ']

/-- Big-endian, the top byte comes first. -/
theorem bytesBE_succ (n v : Nat) : bytesBE (n + 1) v = (v / 256 ^ n % 256).toUInt8 :: bytesBE n v := by
  rw [bytesBE, bytesLE_succ', List.reverse_append, bytesBE]
  rfl

@[simp] theorem length_bytesBE (n v : Nat) : (bytesBE n v).length = n := by
  rw [bytesBE, List.length_reverse, length_bytesLE]

theorem ofBytesLE_reverse_bytesBE (n v : Nat) : ofBytesLE (bytesBE n v).reverse = v % 256 ^ n := by
  rw [bytesBE, List.reverse_reverse, ofBytesLE_bytesLE]

/-- A value below `256^w` in `k + w` bytes: `k` zero bytes, then its
`w`-byte field. -/
theorem bytesBE_add_of_lt {w v : Nat} (hv : v < 256 ^ w) :
    ∀ k, bytesBE (k + w) v = List.replicate k 0 ++ bytesBE w v
  | 0 => by rw [Nat.zero_add, List.replicate_zero, List.nil_append]
  | k + 1 => by
    rw [Nat.add_right_comm, bytesBE_succ, bytesBE_add_of_lt hv k, List.replicate_succ, List.cons_append,
      Nat.div_eq_of_lt (Nat.lt_of_lt_of_le hv (Nat.pow_le_pow_right (by decide) (by omega)))]
    rfl

/-- The low `w` bytes of a `k + w`-byte field are its `w`-byte field. -/
theorem drop_bytesBE (w v : Nat) : ∀ k, (bytesBE (k + w) v).drop k = bytesBE w v
  | 0 => by rw [Nat.zero_add, List.drop_zero]
  | k + 1 => by rw [Nat.add_right_comm, bytesBE_succ, List.drop_succ_cons, drop_bytesBE w v k]

/-- A four-byte field read back as a `u32`: the value's low 32 bits. -/
theorem toNat_be32_bytesBE (v : Nat) :
    (be32 (bytesBE 4 v)[0]! (bytesBE 4 v)[1]! (bytesBE 4 v)[2]! (bytesBE 4 v)[3]!).toNat = v % 2 ^ 32 := by
  rw [bytesBE_succ, bytesBE_succ, bytesBE_succ, bytesBE_succ]
  simp only [bytesBE, bytesLE, List.reverse_nil, List.getElem!_cons_zero, List.getElem!_cons_succ, toNat_be32,
    Nat.toUInt8_eq, UInt8.toNat_ofNat']
  omega

-- ========================================================= trailing zeros

/-- The zero bits of `x` below its lowest one, among its low `n` bits:
`n` when those are all clear. -/
def trailingZerosAux (x : Nat) : Nat → Nat
  | 0 => 0
  | n + 1 => if x % 2 = 1 then 0 else trailingZerosAux (x / 2) n + 1

/-- `u32::trailing_zeros`, which is `32` for zero. -/
def trailingZeros32 (x : UInt32) : Nat := trailingZerosAux x.toNat 32

theorem le_trailingZerosAux_iff : ∀ {n k : Nat} (x : Nat), k ≤ n →
    (k ≤ trailingZerosAux x n ↔ x % 2 ^ k = 0)
  | 0, k, x, hk => by
    obtain rfl : k = 0 := Nat.le_zero.mp hk
    simp [Nat.mod_one]
  | n + 1, 0, x, _ => by simp [Nat.mod_one]
  | n + 1, k + 1, x, hk => by
    -- the low `k + 1` bits are the lowest one and `k` bits of `x / 2`
    have hsplit : x % 2 ^ (k + 1) = x % 2 + 2 * (x / 2 % 2 ^ k) := by
      rw [Nat.pow_succ', Nat.mod_mul]
    rw [trailingZerosAux]
    split
    · rename_i h
      simp only [Nat.le_zero, Nat.add_one_ne_zero, false_iff]
      omega
    · rename_i h
      rw [Nat.add_le_add_iff_right, le_trailingZerosAux_iff (x / 2) (by omega)]
      omega

end Bytes
