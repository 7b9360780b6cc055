/-
The bulk GF(256) kernels of `raptorq/gf256.rs` in the portable build
(without the `simd-intrinsics` feature), as the source writes them:
slices cut into chunks of 32 and 8 bytes and a byte tail, and the
two-slice variants running a common prefix jointly before each slice
finishes its own tail. `Gf256.lean` gives what they compute per byte.

# Dispatch

Without the feature `detect_dispatch` can only pick the scalar kernels:
`Gf256Kernel` has the one variant `Scalar`, `NibbleTables` is an empty
struct (its argument is left out), and the public `gf256_add_slice`,
`gf256_mul_slice` and `gf256_addmul_slice` are `detectDispatch`'s three
fields. The dual-kernel policy `DUAL_POLICY`, read once from the
environment, is a parameter, so both the fused and the sequential path
of `gf256_mul_slices2` are modelled.

# Tables

`MUL_TABLES` is `build_mul_tables`, 256 rows of 256 entries filled by
two nested loops, and `build_mul_nibble_tables` the two 16-entry tables
per scalar that the SIMD build's `mul16` reads; one lane of `mul16` is
`mulNibble`. Indexing a `[u8; 256]` by a `u8`, or a `[u8; 16]` by a
masked nibble, cannot panic, and is `getElem!`.

`u64::from_ne_bytes` and `to_ne_bytes` are `Bytes.wordOfBytes` and
`Bytes.bytesOfWord`, on a little-endian target.
-/
import Asupersync.Raptorq.Gf256
import Asupersync.Types.Basic
import Asupersync.Bytes.Slice
import Asupersync.Machine.Loop

namespace Asupersync

namespace Raptorq

open Bytes

-- ================================================================ tables

/-- `build_mul_tables`: `tables[c][x] = gf256_mul_const(x as u8, c as u8)`. -/
def buildMulTables : Vector (Vector UInt8 256) 256 :=
  (List.range 256).foldl fillRow (Vector.replicate 256 (Vector.replicate 256 0))
where
  /-- One pass of the `while c < 256` loop: the inner loop over `x`. -/
  fillRow (tables : Vector (Vector UInt8 256) 256) (c : Nat) : Vector (Vector UInt8 256) 256 :=
    (List.range 256).foldl (fillEntry c) tables
  /-- One pass of the `while x < 256` loop. -/
  fillEntry (c : Nat) (tables : Vector (Vector UInt8 256) 256) (x : Nat) :
      Vector (Vector UInt8 256) 256 :=
    tables.set! c (tables[c]!.set! x (gf256MulConst x.toUInt8 c.toUInt8))

/-- `MUL_TABLES`. -/
def mulTables : Vector (Vector UInt8 256) 256 := buildMulTables

/-- The low and high nibble tables, 16 entries for each scalar. -/
abbrev NibbleTableSet := Vector (Vector UInt8 16) 256 × Vector (Vector UInt8 16) 256

/-- `build_mul_nibble_tables`: `low[c][i] = gf256_mul_const(i, c)` and
`high[c][i] = gf256_mul_const(i << 4, c)`. -/
def buildMulNibbleTables : NibbleTableSet :=
  (List.range 256).foldl fillScalar
    (Vector.replicate 256 (Vector.replicate 16 0), Vector.replicate 256 (Vector.replicate 16 0))
where
  /-- One pass of the `while c < 256` loop: the inner loop over `i`. -/
  fillScalar (tables : NibbleTableSet) (c : Nat) : NibbleTableSet :=
    (List.range 16).foldl (fillNibble c) tables
  /-- One pass of the `while i < 16` loop. -/
  fillNibble (c : Nat) (tables : NibbleTableSet) (i : Nat) : NibbleTableSet :=
    (tables.1.set! c (tables.1[c]!.set! i (gf256MulConst i.toUInt8 c.toUInt8)),
      tables.2.set! c (tables.2[c]!.set! i (gf256MulConst (i.toUInt8 <<< 4) c.toUInt8)))

/-- `MUL_NIBBLE_TABLES`. -/
def mulNibbleTables : NibbleTableSet := buildMulNibbleTables

/-- One lane of `NibbleTables::mul16`: the low nibble through `lo`, the
high one through `hi`, `lo[x & 0x0F] ^ hi[(x >> 4) & 0x0F]`. -/
def mulNibble (lo hi : Vector UInt8 16) (x : UInt8) : UInt8 :=
  lo[(x &&& 0x0F).toNat]! ^^^ hi[((x >>> 4) &&& 0x0F).toNat]!

-- ============================================================ addition

/-- `xor_chunk_32_in_place`: four `u64` XORs, and nothing at all unless
both slices are 32 bytes long. -/
def xorChunk32InPlace (dst src : List UInt8) : List UInt8 :=
  if dst.length ≠ 32 ∨ src.length ≠ 32 then dst
  else
    let part0 := wordOfBytes (slice dst 0 8) ^^^ wordOfBytes (slice src 0 8)
    let part1 := wordOfBytes (slice dst 8 16) ^^^ wordOfBytes (slice src 8 16)
    let part2 := wordOfBytes (slice dst 16 24) ^^^ wordOfBytes (slice src 16 24)
    let part3 := wordOfBytes (slice dst 24 32) ^^^ wordOfBytes (slice src 24 32)
    bytesOfWord 8 part0 ++ bytesOfWord 8 part1 ++ bytesOfWord 8 part2 ++ bytesOfWord 8 part3

/-- `xor_chunk_8_in_place`: one `u64` XOR, and nothing unless both slices
are 8 bytes long. -/
def xorChunk8InPlace (dst src : List UInt8) : List UInt8 :=
  if dst.length ≠ 8 ∨ src.length ≠ 8 then dst
  else bytesOfWord 8 (wordOfBytes dst ^^^ wordOfBytes src)

/-- `gf256_add_slice_scalar`: 32-byte chunks, then 8-byte chunks of the
remainder, then its bytes, after `assert_eq!(dst.len(), src.len())`. -/
def gf256AddSliceScalar (dst src : List UInt8) : Option (List UInt8) :=
  if dst.length ≠ src.length then none
  else
    let d32 := chunksExact 32 dst
    let s32 := chunksExact 32 src
    let wide := zipInPlace xorChunk32InPlace d32.1 s32.1
    let d8 := chunksExact 8 d32.2
    let s8 := chunksExact 8 s32.2
    let mid := zipInPlace xorChunk8InPlace d8.1 s8.1
    let tail := zipInPlace (· ^^^ ·) d8.2 s8.2
    some (wide.flatten ++ (mid.flatten ++ tail))

/-- A pass of the first two loops of `gf256_add_slices2_scalar`: `chunk`
on `[offset, offset + width)` of both prefixes. -/
def xorChunkStep (width : Nat) (chunk : List UInt8 → List UInt8 → List UInt8)
    (srcA srcB : List UInt8) (offset : Nat) (ab : List UInt8 × List UInt8) :
    List UInt8 × List UInt8 :=
  let stop := offset + width
  (modifySlice ab.1 offset stop fun d => chunk d (slice srcA offset stop),
    modifySlice ab.2 offset stop fun d => chunk d (slice srcB offset stop))

/-- A pass of the third loop: `common_dst_a[offset] ^= common_src_a[offset]`,
and the same for `b`. -/
def xorByteStep (srcA srcB : List UInt8) (offset : Nat) (ab : List UInt8 × List UInt8) :
    List UInt8 × List UInt8 :=
  (ab.1.set offset (ab.1[offset]! ^^^ srcA[offset]!),
    ab.2.set offset (ab.2[offset]! ^^^ srcB[offset]!))

/-- `gf256_add_slices2_scalar`: both slices split at the shorter length;
the common prefixes XORed together by three `while` loops of strides 32,
8 and 1 (the last one's `offset < common`), each picking up at the
offset the one before stopped at; then each longer tail by itself. Each
loop makes at most `common` passes. -/
def gf256AddSlices2Scalar (dstA srcA dstB srcB : List UInt8) :
    Option (List UInt8 × List UInt8) := do
  let common := min dstA.length dstB.length
  let (commonDstA, tailDstA) ← trySplitAt dstA common
  let (commonSrcA, tailSrcA) ← trySplitAt srcA common
  let (commonDstB, tailDstB) ← trySplitAt dstB common
  let (commonSrcB, tailSrcB) ← trySplitAt srcB common
  -- each loop's result is its final `offset` and the two prefixes
  let r32 := Machine.strideLoop 32 common
    (xorChunkStep 32 xorChunk32InPlace commonSrcA commonSrcB) common 0 (commonDstA, commonDstB)
  let r8 := Machine.strideLoop 8 common
    (xorChunkStep 8 xorChunk8InPlace commonSrcA commonSrcB) common r32.1 r32.2
  let r1 := Machine.strideLoop 1 common (xorByteStep commonSrcA commonSrcB) common r8.1 r8.2
  let tailDstA ← if tailDstA.isEmpty then pure tailDstA else gf256AddSliceScalar tailDstA tailSrcA
  let tailDstB ← if tailDstB.isEmpty then pure tailDstB else gf256AddSliceScalar tailDstB tailSrcB
  return (r1.2.1 ++ tailDstA, r1.2.2 ++ tailDstB)

/-- `gf256_add_slices2` in the portable build: its two length asserts,
then the scalar kernel. -/
def gf256AddSlices2 (dstA srcA dstB srcB : List UInt8) : Option (List UInt8 × List UInt8) :=
  if dstA.length ≠ srcA.length then none
  else if dstB.length ≠ srcB.length then none
  else gf256AddSlices2Scalar dstA srcA dstB srcB

-- ====================================================== multiplication

/-- `MUL_TABLE_THRESHOLD` of the portable build. -/
def mulTableThreshold : Nat := 16

/-- `ADDMUL_TABLE_THRESHOLD` of the portable build. -/
def addmulTableThreshold : Nat := 16

/-- The eight lookups of one 8-byte chunk,
`[table[chunk[0] as usize], …, table[chunk[7] as usize]]`. -/
def lookup8 (table : Vector UInt8 256) (chunk : List UInt8) : List UInt8 :=
  [table[chunk[0]!.toNat]!, table[chunk[1]!.toNat]!, table[chunk[2]!.toNat]!,
    table[chunk[3]!.toNat]!, table[chunk[4]!.toNat]!, table[chunk[5]!.toNat]!,
    table[chunk[6]!.toNat]!, table[chunk[7]!.toNat]!]

/-- The body that the portable `mul_with_table_wide` and
`mul_with_table_scalar` share: 8-byte chunks through the table, then
the remainder byte by byte. -/
def mulWithTable8 (dst : List UInt8) (table : Vector UInt8 256) : List UInt8 :=
  let chunks := chunksExact 8 dst
  (chunks.1.map (lookup8 table)).flatten ++ chunks.2.map fun d => table[d.toNat]!

/-- `mul_with_table_wide` of the portable build. -/
def mulWithTableWide (dst : List UInt8) (table : Vector UInt8 256) : List UInt8 :=
  mulWithTable8 dst table

/-- `mul_with_table_scalar`. -/
def mulWithTableScalar (dst : List UInt8) (table : Vector UInt8 256) : List UInt8 :=
  mulWithTable8 dst table

/-- `mul_with_table_wide2` of the portable build: both slices split at
the shorter length (which cannot panic), the common prefixes cut into
8-byte chunks by one zip, and each longer tail by `mul_with_table_wide`.
The zip pairs two chunk lists of one length, so each side's chunks are
all rewritten. -/
def mulWithTableWide2 (dstA dstB : List UInt8) (table : Vector UInt8 256) :
    List UInt8 × List UInt8 :=
  let common := min dstA.length dstB.length
  let chunksA := chunksExact 8 (dstA.take common)
  let chunksB := chunksExact 8 (dstB.take common)
  let commonA := (chunksA.1.map (lookup8 table)).flatten ++ chunksA.2.map fun d => table[d.toNat]!
  let commonB := (chunksB.1.map (lookup8 table)).flatten ++ chunksB.2.map fun d => table[d.toNat]!
  let tailA := dstA.drop common
  let tailB := dstB.drop common
  let tailA := if tailA.isEmpty then tailA else mulWithTableWide tailA table
  let tailB := if tailB.isEmpty then tailB else mulWithTableWide tailB table
  (commonA ++ tailA, commonB ++ tailB)

/-- `gf256_mul_slice_scalar`: zero fills the slice and one leaves it;
otherwise the row `MUL_TABLES[c]`, by the wide loop from
`MUL_TABLE_THRESHOLD` bytes on. -/
def gf256MulSliceScalar (dst : List UInt8) (c : Gf256) : List UInt8 :=
  if c.isZero then dst.map fun _ => 0
  else if c = 1 then dst
  else
    let table := mulTables[c.raw.toNat]!
    if dst.length ≥ mulTableThreshold then mulWithTableWide dst table
    else mulWithTableScalar dst table

/-- `gf256_addmul_slice_scalar`'s inner loops share this body: per 8-byte
chunk one `u64` XOR of `dst` with the looked-up `src`, then the
remainder byte by byte. -/
def addmulWithTable8 (dst src : List UInt8) (table : Vector UInt8 256) : List UInt8 :=
  let dChunks := chunksExact 8 dst
  let sChunks := chunksExact 8 src
  (zipInPlace (fun d s => bytesOfWord 8 (wordOfBytes d ^^^ wordOfBytes (lookup8 table s)))
      dChunks.1 sChunks.1).flatten ++
    zipInPlace (fun d s => d ^^^ table[s.toNat]!) dChunks.2 sChunks.2

/-- `addmul_with_table_wide` of the portable build. -/
def addmulWithTableWide (dst src : List UInt8) (table : Vector UInt8 256) : List UInt8 :=
  addmulWithTable8 dst src table

/-- `addmul_with_table_scalar`. -/
def addmulWithTableScalar (dst src : List UInt8) (table : Vector UInt8 256) : List UInt8 :=
  addmulWithTable8 dst src table

/-- `gf256_addmul_slice_scalar`: after the length assert, zero changes
nothing and one is `gf256_add_slice_scalar`; otherwise the row
`MUL_TABLES[c]`, by the wide loop from `ADDMUL_TABLE_THRESHOLD` bytes on. -/
def gf256AddmulSliceScalar (dst src : List UInt8) (c : Gf256) : Option (List UInt8) :=
  if dst.length ≠ src.length then none
  else if c.isZero then some dst
  else if c = 1 then gf256AddSliceScalar dst src
  else
    let table := mulTables[c.raw.toNat]!
    if src.length ≥ addmulTableThreshold then some (addmulWithTableWide dst src table)
    else some (addmulWithTableScalar dst src table)

-- ============================================================ dispatch

/-- `Gf256Kernel` of the portable build. -/
inductive Gf256Kernel where
  | Scalar
deriving DecidableEq, Repr

/-- `Gf256Dispatch`. -/
structure Gf256Dispatch where
  kind : Gf256Kernel
  addSlice : List UInt8 → List UInt8 → Option (List UInt8)
  mulSlice : List UInt8 → Gf256 → List UInt8
  addmulSlice : List UInt8 → List UInt8 → Gf256 → Option (List UInt8)

/-- `detect_dispatch` without `simd-intrinsics`: the scalar kernels. -/
def detectDispatch : Gf256Dispatch where
  kind := .Scalar
  addSlice := gf256AddSliceScalar
  mulSlice := gf256MulSliceScalar
  addmulSlice := gf256AddmulSliceScalar

/-- `DualKernelOverride`. -/
inductive DualKernelOverride where
  | Auto
  | ForceSequential
  | ForceFused
deriving DecidableEq, Repr

/-- The fields of `DualKernelPolicy` that the `mul` decision reads. -/
structure DualKernelPolicy where
  mode : DualKernelOverride
  mulMinTotal : Nat
  mulMaxTotal : Nat
  maxLaneRatio : Nat

/-- `DualKernelDecision`. -/
inductive DualKernelDecision where
  | Sequential
  | Fused
deriving DecidableEq, Repr

/-- The `DualKernelDecisionReason`s of the `mul` decision. -/
inductive DualKernelDecisionReason where
  | ForcedSequentialMode
  | ForcedFusedMode
  | WindowDisabledByProfile
  | InvalidWindowConfiguration
  | TotalBelowWindow
  | TotalAboveWindow
  | LaneRatioExceeded
  | EligibleAutoWindow
deriving DecidableEq, Repr

/-- `DualKernelDecisionDetail`. -/
structure DualKernelDecisionDetail where
  decision : DualKernelDecision
  reason : DualKernelDecisionReason
deriving DecidableEq, Repr

/-- `DualKernelDecisionDetail::is_fused`. -/
def DualKernelDecisionDetail.isFused (d : DualKernelDecisionDetail) : Bool :=
  d.decision == .Fused

/-- `lane_ratio_within`. -/
def laneRatioWithin (lenA lenB maxRatio : Nat) : Bool :=
  let lo := min lenA lenB
  let hi := max lenA lenB
  lo > 0 && min (lo * maxRatio) usizeMax ≥ hi

/-- `window_gate_reason`. -/
def windowGateReason (total minTotal maxTotal : Nat) : Option DualKernelDecisionReason :=
  if minTotal = usizeMax ∧ maxTotal = 0 then some .WindowDisabledByProfile
  else if minTotal > maxTotal then some .InvalidWindowConfiguration
  else if total < minTotal then some .TotalBelowWindow
  else if total > maxTotal then some .TotalAboveWindow
  else none

/-- `dual_mul_decision_detail_with_policy`. -/
def dualMulDecisionDetailWithPolicy (policy : DualKernelPolicy) (lenA lenB : Nat) :
    DualKernelDecisionDetail :=
  match policy.mode with
  | .ForceSequential => ⟨.Sequential, .ForcedSequentialMode⟩
  | .ForceFused => ⟨.Fused, .ForcedFusedMode⟩
  | .Auto =>
    let total := min (lenA + lenB) usizeMax
    match windowGateReason total policy.mulMinTotal policy.mulMaxTotal with
    | some reason => ⟨.Sequential, reason⟩
    | none =>
      if !laneRatioWithin lenA lenB policy.maxLaneRatio then ⟨.Sequential, .LaneRatioExceeded⟩
      else ⟨.Fused, .EligibleAutoWindow⟩

/-- `DualExecutionPath`. -/
inductive DualExecutionPath where
  | Sequential
  | FusedSharedSetup
  | FusedArchWide
deriving DecidableEq, Repr

/-- `SingleMulExecutionPath` of the portable build. -/
inductive SingleMulExecutionPath where
  | ScalarTable
  | WideTable
deriving DecidableEq, Repr

/-- `arch_pair_kernel_min_lane`: the scalar kernel's architecture class
is `GenericScalar`, which has no pair kernel. -/
def archPairKernelMinLane : Gf256Kernel → Nat
  | .Scalar => usizeMax

/-- `can_use_arch_pair_kernel`. -/
def canUseArchPairKernel (kind : Gf256Kernel) (lenA lenB : Nat) : Bool :=
  let minLane := archPairKernelMinLane kind
  minLane != usizeMax && min lenA lenB ≥ minLane

/-- `single_mul_execution_path` of the portable build, where the
`ArchWide` return inside the first test is compiled out and only the
table threshold decides. -/
def singleMulExecutionPath (_kind : Gf256Kernel) (len : Nat) : SingleMulExecutionPath :=
  if len ≥ mulTableThreshold then .WideTable else .ScalarTable

/-- `dual_mul_execution_path_with_policy`. -/
def dualMulExecutionPathWithPolicy (policy : DualKernelPolicy) (kind : Gf256Kernel)
    (lenA lenB : Nat) : DualExecutionPath :=
  if !(dualMulDecisionDetailWithPolicy policy lenA lenB).isFused then .Sequential
  else if canUseArchPairKernel kind lenA lenB then .FusedArchWide
  else .FusedSharedSetup

/-- `mul_slices2_sequential_with_shared_setup` of the portable build:
each slice by the path its own length picks. -/
def mulSlices2SequentialWithSharedSetup (dstA dstB : List UInt8) (c : Gf256)
    (dispatch : Gf256Dispatch) : List UInt8 × List UInt8 :=
  let table := mulTables[c.raw.toNat]!
  (mulOne table dstA, mulOne table dstB)
where
  /-- The body of `for dst in [dst_a, dst_b]`. -/
  mulOne (table : Vector UInt8 256) (dst : List UInt8) : List UInt8 :=
    match singleMulExecutionPath dispatch.kind dst.length with
    | .ScalarTable => mulWithTableScalar dst table
    | .WideTable => mulWithTableWide dst table

/-- `gf256_mul_slices2` of the portable build under the policy `policy`:
the shortcuts for zero and one, then the sequential path or, for a fused
decision, `mul_with_table_wide2` (the architecture kernels in between
are compiled out). -/
def gf256MulSlices2 (policy : DualKernelPolicy) (dstA dstB : List UInt8) (c : Gf256) :
    List UInt8 × List UInt8 :=
  if c.isZero then (dstA.map fun _ => 0, dstB.map fun _ => 0)
  else if c = 1 then (dstA, dstB)
  else
    let dispatch := detectDispatch
    match dualMulExecutionPathWithPolicy policy dispatch.kind dstA.length dstB.length with
    | .Sequential => mulSlices2SequentialWithSharedSetup dstA dstB c dispatch
    | .FusedSharedSetup => mulWithTableWide2 dstA dstB mulTables[c.raw.toNat]!
    | .FusedArchWide => mulWithTableWide2 dstA dstB mulTables[c.raw.toNat]!

end Raptorq

end Asupersync
