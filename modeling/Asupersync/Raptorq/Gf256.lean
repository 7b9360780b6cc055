/-
GF(256) as `raptorq/gf256.rs` computes in it: a field element is a
byte, addition is XOR, and multiplication goes through the log and
exp tables of the generator 2 modulo x^8 + x^4 + x^3 + x^2 + 1.

# The tables

`build_exp_table` and `build_log_table` walk the powers of the
generator with one doubling step (`nextPower`), writing each power and,
for `LOG`, its exponent. They are modelled as the loops they are, over
`Vector`s of the tables' sizes; `EXP[i]` and `LOG[a]` are `getElem!`,
which, like Rust's indexing, only panics out of bounds.

# The bulk kernels

`gf256_add_slice`, `gf256_mul_slice` and `gf256_addmul_slice` are given
here by what they do to each byte: past the shortcuts for the scalars
zero and one, every byte goes through the row `MUL_TABLES[c]`, whose
entries are the shift-and-add product `gf256_mul_const`. The length
checks of the two-slice kernels are their panics, `none`.
`Gf256Kernels.lean` models the portable build's chunked loops, and
`Proofs/Raptorq/Gf256Kernels.lean` shows they compute exactly this.
-/
import Mathlib

namespace Asupersync

namespace Raptorq

/-- `POLY`: x^8 + x^4 + x^3 + x^2 + 1 without its x^8 term. -/
def poly : UInt16 := 0x1D

/-- The step both table loops take from one power of the generator to
the next: `val <<= 1`, reduced by `0x100 | POLY` when bit 8 is set. -/
def nextPower (val : UInt16) : UInt16 :=
  let val := val <<< 1
  if val &&& 0x100 != 0 then val ^^^ (0x100 ||| poly) else val

/-- `build_exp_table`: the first 255 powers, mirrored 255 places up, and
`table[255] = table[510] = 1`. -/
def buildExpTable : Vector UInt8 512 :=
  let table := ((List.range 255).foldl fill (Vector.replicate 512 0, (1 : UInt16))).1
  (table.set! 255 1).set! 510 1
where
  /-- One pass of the `while i < 255` loop, on the table and `val`. -/
  fill : Vector UInt8 512 × UInt16 → Nat → Vector UInt8 512 × UInt16
    | (table, val), i => ((table.set! i val.toUInt8).set! (i + 255) val.toUInt8, nextPower val)

/-- `build_log_table`: `table[GENERATOR^i] = i` for `i = 0, …, 254`. -/
def buildLogTable : Vector UInt8 256 :=
  ((List.range 255).foldl fill (Vector.replicate 256 0, (1 : UInt16))).1
where
  /-- One pass of the loop, on the table and `val`. -/
  fill : Vector UInt8 256 × UInt16 → Nat → Vector UInt8 256 × UInt16
    | (table, val), i => (table.set! val.toNat i.toUInt8, nextPower val)

/-- `EXP`. -/
def exp : Vector UInt8 512 := buildExpTable

/-- `LOG`. -/
def log : Vector UInt8 256 := buildLogTable

/-- `gf256_mul_const`: `acc ^= a` for each set bit of `b`, from the
lowest, doubling `a` modulo `POLY` between rounds. -/
def gf256MulConst (a b : UInt8) : UInt8 :=
  loop 8 a b 0
where
  /-- The `while i < 8` loop with `n` rounds to go. -/
  loop : Nat → UInt8 → UInt8 → UInt8 → UInt8
    | 0, _, _, acc => acc
    | n + 1, a, b, acc =>
      let acc := if b &&& 1 != 0 then acc ^^^ a else acc
      let hi := a &&& 0x80
      let a := a <<< 1
      let a := if hi != 0 then a ^^^ poly.toUInt8 else a
      loop n a (b >>> 1) acc

-- ======================================================= field elements

/-- `Gf256`: an element of GF(256), as its byte. -/
@[ext]
structure Gf256 where
  raw : UInt8
deriving DecidableEq, Repr, Inhabited

namespace Gf256

/-- `Gf256::ZERO`. -/
instance : Zero Gf256 := ⟨⟨0⟩⟩

/-- `Gf256::ONE`. -/
instance : One Gf256 := ⟨⟨1⟩⟩

/-- `is_zero`. -/
def isZero (a : Gf256) : Bool := a.raw == 0

/-- `add`: XOR. -/
def add (a b : Gf256) : Gf256 := ⟨a.raw ^^^ b.raw⟩

/-- `mul_field`: zero if either side is, else `EXP[LOG[a] + LOG[b]]`. -/
def mulField (a b : Gf256) : Gf256 :=
  if a.raw == 0 || b.raw == 0 then 0
  else ⟨exp[(log[a.raw.toNat]!).toNat + (log[b.raw.toNat]!).toNat]!⟩

/-- `inv`: `EXP[255 - LOG[a]]`; its `assert!` on zero is the panic `none`. -/
def inv (a : Gf256) : Option Gf256 :=
  if a.isZero then none
  else some ⟨exp[255 - (log[a.raw.toNat]!).toNat]!⟩

instance : Add Gf256 := ⟨add⟩

instance : Mul Gf256 := ⟨mulField⟩

end Gf256

/-- `mul_table_for(c)[x]`, that is `MUL_TABLES[c][x] = gf256_mul_const(x, c)`. -/
def mulTableFor (c : Gf256) (x : UInt8) : UInt8 := gf256MulConst x c.raw

-- ========================================================= bulk kernels

/-- `gf256_add_slice_scalar`: `dst[i] ^= src[i]`, after
`assert_eq!(dst.len(), src.len())`. -/
def gf256AddSlice (dst src : List UInt8) : Option (List UInt8) :=
  if dst.length = src.length then some (List.zipWith (· ^^^ ·) dst src) else none

/-- `gf256_mul_slice`: zero fills the slice, one leaves it, and any other
scalar sends each byte through `MUL_TABLES[c]`. -/
def gf256MulSlice (dst : List UInt8) (c : Gf256) : List UInt8 :=
  if c.isZero then dst.map fun _ => 0
  else if c = 1 then dst
  else dst.map (mulTableFor c)

/-- `gf256_addmul_slice`: `dst[i] ^= MUL_TABLES[c][src[i]]`, after the
length check; zero leaves `dst`, one is `gf256_add_slice`. -/
def gf256AddmulSlice (dst src : List UInt8) (c : Gf256) : Option (List UInt8) :=
  if dst.length ≠ src.length then none
  else if c.isZero then some dst
  else if c = 1 then gf256AddSlice dst src
  else some (List.zipWith (fun d s => d ^^^ mulTableFor c s) dst src)

end Raptorq

end Asupersync
