/-
How an object is cut into source blocks on the two sides of the RaptorQ
pipeline: `EncodingPipeline::plan_blocks` (`encoding.rs`) and the free
`plan_blocks` of `decoding.rs`.

# The loops

Both walk `[0, n)` in blocks of `max_block_size` bytes, the last one
possibly shorter, number the blocks with a `u8` that wraps, and give each
its symbol count `k = len.div_ceil(T)`. The encoder also checks every `k`
against RFC 6330 Table 2 (`validate_source_block_k`); the decoder does
not. The two loops are kept apart, as the source has them.

The `while offset < n` loops are recursions on a fuel, `n` passes: each
pass takes at least one byte, because both functions refuse a nonempty
object when `max_block_size` is 0 (its limit `0 * 256` is then 0).

`usize` arithmetic: `saturating_mul` is `min (M * 256) usizeMax`; the
offsets stay at most `n`, so nothing else can overflow.

# The configuration

`validate_config` reads `symbol_size` (a `u16`), `max_block_size`, and two
checks that `plan_blocks` only passes on: `repair_overhead` finite and at
least 1.0 (an `f64`, here the result of that test), and the symbol size of
the buffer pool when the pool is enabled (`poolSymbolSize`).
-/
import Asupersync.Raptorq.SystematicParams

namespace Asupersync

namespace Raptorq

/-- `usize::div_ceil`. -/
def divCeil (a b : Nat) : Nat :=
  let d := a / b
  let r := a % b
  if r > 0 then d + 1 else d

-- ============================================================== encoder

namespace Encoding

/-- `MAX_SOURCE_BLOCKS`: `u8::MAX as usize + 1`. -/
def maxSourceBlocks : Nat := 256

/-- `max_object_size`. -/
def maxObjectSize (maxBlockSize : Nat) : Nat := min (maxBlockSize * maxSourceBlocks) usizeMax

/-- The fields of `EncodingConfig` and of the pipeline's pool that
`validate_config` reads. -/
structure EncodingConfig where
  symbolSize : UInt16
  maxBlockSize : Nat
  /-- `repair_overhead.is_finite() && repair_overhead >= 1.0`. -/
  repairOverheadValid : Bool
  /-- The pool's `symbol_size` when `pool_enabled()`, else `none`. -/
  poolSymbolSize : Option UInt16

/-- The `EncodingError`s of block planning. -/
inductive EncodingError where
  | DataTooLarge (size limit : Nat)
  | InvalidConfig (reason : String)
deriving DecidableEq, Repr

/-- `BlockPlan` (`encoding.rs`). -/
structure BlockPlan where
  sbn : UInt8
  start : Nat
  len : Nat
  k : Nat
deriving DecidableEq, Repr

/-- `EncodingPipeline::validate_config`: the symbol size, or the first
check that fails. -/
def validateConfig (cfg : EncodingConfig) : Except EncodingError Nat :=
  let symbolSize := cfg.symbolSize.toNat
  if symbolSize = 0 then .error (.InvalidConfig "symbol_size must be non-zero")
  else if cfg.maxBlockSize = 0 then .error (.InvalidConfig "max_block_size must be non-zero")
  else if !cfg.repairOverheadValid then
    .error (.InvalidConfig "repair_overhead must be finite and >= 1.0")
  else
    match cfg.poolSymbolSize with
    | some poolSize =>
      if poolSize ≠ cfg.symbolSize then
        let encodingSize := cfg.symbolSize
        .error (.InvalidConfig
          s!"pool symbol_size {poolSize} does not match encoding symbol_size {encodingSize}")
      else .ok symbolSize
    | none => .ok symbolSize

/-- `validate_source_block_k`: `SystematicParams::try_for_source_block`,
with its errors turned into `InvalidConfig`. -/
def validateSourceBlockK (blockLen symbolSize k : Nat) : Except EncodingError Unit :=
  match SystematicParams.tryForSourceBlock k symbolSize with
  | .ok _ => .ok ()
  | .error (.UnsupportedSourceBlockSize requested maxSupported) =>
    .error (.InvalidConfig (s!"block of {blockLen} bytes with symbol_size {symbolSize} requires " ++
      s!"unsupported source block K={requested}; supported range is 1..={maxSupported}"))
  | .error (.KPrimeExceedsU32 kPrime maxU32) =>
    .error (.InvalidConfig (s!"block of {blockLen} bytes with symbol_size {symbolSize} requires " ++
      s!"K'={kPrime} which exceeds u32::MAX ({maxU32}); ESI calculations would overflow"))
  | .error (.RfcTableInvariantViolation invariant details) =>
    .error (.InvalidConfig (s!"block of {blockLen} bytes with symbol_size {symbolSize} triggers " ++
      s!"RFC 6330 table invariant violation: {invariant} - {details}"))

/-- The `while offset < data.len()` loop of `plan_blocks`, with `fuel`
passes left. -/
def planLoop (n symbolSize maxBlockSize : Nat) :
    Nat → Nat → UInt8 → Except EncodingError (List BlockPlan)
  | 0, _, _ => .ok []
  | fuel + 1, offset, sbn =>
    if offset < n then
      let len := min maxBlockSize (n - offset)
      let k := divCeil len symbolSize
      do
        validateSourceBlockK len symbolSize k
        let rest ← planLoop n symbolSize maxBlockSize fuel (offset + len) (sbn + 1)
        return { sbn, start := offset, len, k } :: rest
    else .ok []

/-- `EncodingPipeline::plan_blocks` on data of `n` bytes. -/
def planBlocks (cfg : EncodingConfig) (n : Nat) : Except EncodingError (List BlockPlan × Nat) := do
  let symbolSize ← validateConfig cfg
  if n = 0 then return ([], symbolSize)
  let maxTotal := maxObjectSize cfg.maxBlockSize
  if n > maxTotal then throw (.DataTooLarge n maxTotal)
  let blocks ← planLoop n symbolSize cfg.maxBlockSize n 0 0
  return (blocks, symbolSize)

end Encoding

-- ============================================================== decoder

namespace Decoding

/-- The `DecodingError` of block planning. -/
inductive DecodingError where
  | InconsistentMetadata (sbn : UInt8) (details : String)
deriving DecidableEq, Repr

/-- `BlockPlan` (`decoding.rs`). -/
structure BlockPlan where
  sbn : UInt8
  len : Nat
  k : Nat
deriving DecidableEq, Repr

/-- The `while offset < object_size` loop of `plan_blocks`, with `fuel`
passes left. -/
def planLoop (objectSize symbolSize maxBlockSize : Nat) : Nat → Nat → UInt8 → List BlockPlan
  | 0, _, _ => []
  | fuel + 1, offset, sbn =>
    if offset < objectSize then
      let len := min maxBlockSize (objectSize - offset)
      let k := divCeil len symbolSize
      { sbn, len, k } :: planLoop objectSize symbolSize maxBlockSize fuel (offset + len) (sbn + 1)
    else []

/-- `plan_blocks` (`decoding.rs`). -/
def planBlocks (objectSize symbolSize maxBlockSize : Nat) : Except DecodingError (List BlockPlan) :=
  if objectSize = 0 then .ok []
  else if symbolSize = 0 then .error (.InconsistentMetadata 0 "symbol_size must be > 0")
  else
    let maxBlocks := 256
    let maxTotal := min (maxBlockSize * maxBlocks) usizeMax
    if objectSize > maxTotal then
      .error (.InconsistentMetadata 0 s!"object size {objectSize} exceeds limit {maxTotal}")
    else .ok (planLoop objectSize symbolSize maxBlockSize objectSize 0 0)

end Decoding

end Raptorq

end Asupersync
