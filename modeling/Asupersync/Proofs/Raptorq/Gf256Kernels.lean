/-
The portable kernels of `Raptorq/Gf256Kernels.lean` compute, at every
length, what `Gf256.lean` says the bulk operations do byte by byte, and
so what the field says.

# Chunks

Every chunk kernel is elementwise on a chunk of its own size
(`xorChunk32InPlace_eq`, `xorChunk8InPlace_eq`, `lookup8_eq`), so the
loop rules of `Bytes.Slice` turn each chunked loop into one `zipWith`
or `map` over the whole slice. The XOR helpers leave a chunk of another
size alone; no loop hands them one.

# The two-slice kernels

The three loops of `gf256_add_slices2_scalar` keep `XoredTo`: both
common prefixes XORed up to the offset. Each loop stops within one
stride of `common`, and the byte loop, of stride 1, ends exactly there.
The tails beyond `common` go through the one-slice kernel, the shorter
side's being empty.

# The tables

`MUL_TABLES[c][x]` is `gf256_mul_const(x, c)`, the field product. The
nibble tables split `x` into `x & 0x0F` and `((x >> 4) & 0x0F) << 4`,
whose products with `c` add up to `c * x` by distributivity.
-/
import Asupersync.Raptorq.Gf256Kernels
import Asupersync.Proofs.Raptorq.Gf256Field

namespace Asupersync

namespace Raptorq

open Bytes

-- ================================================================ tables

theorem toUInt8_toNat (x : UInt8) : x.toNat.toUInt8 = x := UInt8.ofNat_toNat

/-- `MUL_TABLES[c][x]` is `gf256_mul_const(x, c)`. -/
theorem mulTables_getElem (c x : UInt8) : (mulTables[c.toNat]!)[x.toNat]! = gf256MulConst x c := by
  have h := Machine.fill_getElem! (fun c x => gf256MulConst x.toUInt8 c.toUInt8)
    (Vector.replicate 256 (Vector.replicate 256 (0 : UInt8))) c.toNat_lt x.toNat_lt
  rw [toUInt8_toNat, toUInt8_toNat] at h
  exact h

/-- The row `MUL_TABLES[c]` is the multiplication by `c` of `Gf256.lean`. -/
theorem mulTables_row (c : Gf256) :
    (fun d : UInt8 => (mulTables[c.raw.toNat]!)[d.toNat]!) = mulTableFor c :=
  funext fun d => mulTables_getElem c.raw d

theorem mulTables_eq_mulField (c x : UInt8) :
    (mulTables[c.toNat]!)[x.toNat]! = (Gf256.mulField ⟨x⟩ ⟨c⟩).raw := by
  have hrow : (mulTables[c.toNat]!)[x.toNat]! = mulTableFor ⟨c⟩ x := mulTables_getElem c x
  rw [hrow, mulTableFor_eq, Gf256.mul_comm']
  rfl

/-- The low nibble tables, as the table fill they are. -/
theorem mulNibbleTables_fst :
    mulNibbleTables.1 = (List.range 256).foldl (fun t r => (List.range 16).foldl
      (fun t x => t.set! r (t[r]!.set! x (gf256MulConst x.toUInt8 r.toUInt8))) t)
      (Vector.replicate 256 (Vector.replicate 16 0)) :=
  Machine.foldl_fst (fun _ _ => Machine.foldl_fst (fun _ _ => rfl) _ _) _ _

/-- The high nibble tables, as the table fill they are. -/
theorem mulNibbleTables_snd :
    mulNibbleTables.2 = (List.range 256).foldl (fun t r => (List.range 16).foldl
      (fun t x => t.set! r (t[r]!.set! x (gf256MulConst (x.toUInt8 <<< 4) r.toUInt8))) t)
      (Vector.replicate 256 (Vector.replicate 16 0)) :=
  Machine.foldl_snd (fun _ _ => Machine.foldl_snd (fun _ _ => rfl) _ _) _ _

/-- A byte is its low nibble and its high nibble shifted back. -/
theorem nibble_split (x : UInt8) :
    (x &&& (0x0F : UInt8)) ^^^ (((x >>> 4) &&& (0x0F : UInt8)) <<< (4 : UInt8)) = x := by
  revert x
  set_option maxRecDepth 8000 in decide

theorem nibble_lt (x : UInt8) :
    (x &&& (0x0F : UInt8)).toNat < 16 ∧ ((x >>> 4) &&& (0x0F : UInt8)).toNat < 16 := by
  revert x
  set_option maxRecDepth 8000 in decide

/-- One lane of `mul16` is the field product: the two nibbles' products
add up to the byte's. -/
theorem mulNibble_eq (c x : UInt8) :
    mulNibble (mulNibbleTables.1[c.toNat]!) (mulNibbleTables.2[c.toNat]!) x =
      (Gf256.mulField ⟨x⟩ ⟨c⟩).raw := by
  obtain ⟨hlo, hhi⟩ := nibble_lt x
  have hlow : (mulNibbleTables.1[c.toNat]!)[(x &&& (0x0F : UInt8)).toNat]! =
      mulTableFor ⟨c⟩ (x &&& 0x0F) := by
    rw [mulNibbleTables_fst, Machine.fill_getElem! _ _ c.toNat_lt hlo, toUInt8_toNat,
      toUInt8_toNat]
    rfl
  have hhigh : (mulNibbleTables.2[c.toNat]!)[((x >>> 4) &&& (0x0F : UInt8)).toNat]! =
      mulTableFor ⟨c⟩ (((x >>> 4) &&& 0x0F) <<< 4) := by
    rw [mulNibbleTables_snd, Machine.fill_getElem! _ _ c.toNat_lt hhi, toUInt8_toNat,
      toUInt8_toNat]
    rfl
  rw [mulNibble, hlow, hhigh, mulTableFor_eq, mulTableFor_eq]
  calc ((⟨c⟩ : Gf256) * ⟨x &&& 0x0F⟩).raw ^^^ ((⟨c⟩ : Gf256) * ⟨((x >>> 4) &&& 0x0F) <<< 4⟩).raw
      = ((⟨c⟩ : Gf256) * (⟨x &&& 0x0F⟩ + ⟨((x >>> 4) &&& 0x0F) <<< 4⟩)).raw := by
        rw [Gf256.mul_add', Gf256.raw_add]
    _ = ((⟨c⟩ : Gf256) * ⟨x⟩).raw := by
        congr 2
        exact Gf256.ext (nibble_split x)
    _ = (Gf256.mulField ⟨x⟩ ⟨c⟩).raw := by
        rw [Gf256.mul_comm']
        rfl

-- ================================================================ chunks

theorem xorChunk8InPlace_eq {d s : List UInt8} (hd : d.length = 8) (hs : s.length = 8) :
    xorChunk8InPlace d s = List.zipWith (· ^^^ ·) d s := by
  rw [xorChunk8InPlace, if_neg (by omega), bytesOfWord_xor_wordOfBytes hd hs]

theorem xorChunk32InPlace_eq {d s : List UInt8} (hd : d.length = 32) (hs : s.length = 32) :
    xorChunk32InPlace d s = List.zipWith (· ^^^ ·) d s := by
  -- each `u64` part unpacks to its eight bytes' XOR, a slice of the whole XOR
  have hpart : ∀ i j, j = i + 8 → j ≤ 32 →
      bytesOfWord 8 (wordOfBytes (slice d i j) ^^^ wordOfBytes (slice s i j)) =
        slice (List.zipWith (· ^^^ ·) d s) i j := by
    intro i j hj hj32
    rw [bytesOfWord_xor_wordOfBytes (by simp [hd]; omega) (by simp [hs]; omega), slice_zipWith]
  rw [xorChunk32InPlace, if_neg (by omega)]
  dsimp only
  rw [hpart 0 8 rfl (by omega), hpart 8 16 rfl (by omega), hpart 16 24 rfl (by omega),
    hpart 24 32 rfl (by omega), slice_append_slice _ (by omega) (by omega),
    slice_append_slice _ (by omega) (by omega), slice_append_slice _ (by omega) (by omega),
    slice_zero_of_length (by simp [hd, hs])]

theorem lookup8_eq (table : Vector UInt8 256) {c : List UInt8} (h : c.length = 8) :
    lookup8 table c = c.map fun d => table[d.toNat]! := by
  obtain ⟨a0, a1, a2, a3, a4, a5, a6, a7, rfl⟩ :
      ∃ a0 a1 a2 a3 a4 a5 a6 a7, c = [a0, a1, a2, a3, a4, a5, a6, a7] := by
    rcases c with _ | ⟨a0, _ | ⟨a1, _ | ⟨a2, _ | ⟨a3, _ | ⟨a4, _ | ⟨a5, _ | ⟨a6, _ | ⟨a7, _ | ⟨a8, c⟩⟩⟩⟩⟩⟩⟩⟩⟩ <;>
      simp only [List.length_cons, List.length_nil] at h <;>
      first | omega | exact ⟨a0, a1, a2, a3, a4, a5, a6, a7, rfl⟩
  rfl

theorem length_lookup8 (table : Vector UInt8 256) (c : List UInt8) : (lookup8 table c).length = 8 :=
  rfl

theorem mulWithTable8_eq (dst : List UInt8) (table : Vector UInt8 256) :
    mulWithTable8 dst table = dst.map fun d => table[d.toNat]! :=
  flatten_map_chunksExact dst fun _ hc => lookup8_eq table hc

theorem addmulWithTable8_eq {dst src : List UInt8} (h : dst.length = src.length)
    (table : Vector UInt8 256) :
    addmulWithTable8 dst src table = List.zipWith (fun d s => d ^^^ table[s.toNat]!) dst src := by
  have hrem : (chunksExact 8 dst).2.length = (chunksExact 8 src).2.length := by
    rw [length_chunksExact_snd, length_chunksExact_snd, h]
  -- a chunk's word XOR is the XOR with the looked-up bytes
  have hchunk : ∀ c d : List UInt8, c.length = 8 → d.length = 8 →
      bytesOfWord 8 (wordOfBytes c ^^^ wordOfBytes (lookup8 table d)) =
        List.zipWith (fun d s => d ^^^ table[s.toNat]!) c d := by
    intro c d hc hd
    rw [bytesOfWord_xor_wordOfBytes hc (length_lookup8 table d), lookup8_eq table hd,
      List.zipWith_map_right]
  rw [addmulWithTable8, zipInPlace_eq_zipWith _ hrem]
  exact flatten_zipInPlace_chunksExact h hchunk

-- ===================================================== one-slice kernels

theorem gf256AddSliceScalar_eq {dst src : List UInt8} (h : dst.length = src.length) :
    gf256AddSliceScalar dst src = some (List.zipWith (· ^^^ ·) dst src) := by
  have h32 : (chunksExact 32 dst).2.length = (chunksExact 32 src).2.length := by
    rw [length_chunksExact_snd, length_chunksExact_snd, h]
  have h8 : (chunksExact 8 (chunksExact 32 dst).2).2.length =
      (chunksExact 8 (chunksExact 32 src).2).2.length := by
    rw [length_chunksExact_snd 8 (chunksExact 32 dst).2,
      length_chunksExact_snd 8 (chunksExact 32 src).2, h32]
  rw [gf256AddSliceScalar, if_neg (not_not.mpr h)]
  dsimp only
  rw [zipInPlace_eq_zipWith _ h8,
    flatten_zipInPlace_chunksExact h32 fun _ _ hc hd => xorChunk8InPlace_eq hc hd,
    flatten_zipInPlace_chunksExact h fun _ _ hc hd => xorChunk32InPlace_eq hc hd]

/-- The scalar `gf256_add_slice` is `Gf256.lean`'s, on every input. -/
theorem gf256AddSliceScalar_eq_spec (dst src : List UInt8) :
    gf256AddSliceScalar dst src = gf256AddSlice dst src := by
  by_cases h : dst.length = src.length
  · rw [gf256AddSliceScalar_eq h, gf256AddSlice, if_pos h]
  · rw [gf256AddSliceScalar, if_pos h, gf256AddSlice, if_neg h]

/-- The scalar `gf256_mul_slice` is `Gf256.lean`'s. -/
theorem gf256MulSliceScalar_eq_spec (dst : List UInt8) (c : Gf256) :
    gf256MulSliceScalar dst c = gf256MulSlice dst c := by
  unfold gf256MulSliceScalar gf256MulSlice
  split_ifs
  all_goals first
    | rfl
    | rw [mulWithTableWide, mulWithTable8_eq, mulTables_row]
    | rw [mulWithTableScalar, mulWithTable8_eq, mulTables_row]

/-- The scalar `gf256_addmul_slice` is `Gf256.lean`'s. -/
theorem gf256AddmulSliceScalar_eq_spec (dst src : List UInt8) (c : Gf256) :
    gf256AddmulSliceScalar dst src c = gf256AddmulSlice dst src c := by
  unfold gf256AddmulSliceScalar gf256AddmulSlice
  split_ifs with hlen
  · rfl
  · rfl
  · exact gf256AddSliceScalar_eq_spec dst src
  all_goals
    have h : dst.length = src.length := not_not.mp hlen
    dsimp only
    first
      | rw [addmulWithTableWide, addmulWithTable8_eq h, ← mulTables_row]
      | rw [addmulWithTableScalar, addmulWithTable8_eq h, ← mulTables_row]

-- ===================================================== two-slice kernels

section AddSlices2

variable {dA sA dB sB : List UInt8} {n : Nat}

/-- What the three loops of `gf256_add_slices2_scalar` keep: both common
prefixes XORed up to the offset. -/
def XoredTo (dA sA dB sB : List UInt8) (offset : Nat) (ab : List UInt8 × List UInt8) : Prop :=
  offset ≤ dA.length ∧ ab.1 = zipPrefix (· ^^^ ·) dA sA offset ∧
    ab.2 = zipPrefix (· ^^^ ·) dB sB offset

/-- A chunk step that is elementwise on its width moves the XORed front
one width on. -/
theorem modifySlice_xorChunk {w o : Nat} {chunk : List UInt8 → List UInt8 → List UInt8}
    (hchunk : ∀ d s, d.length = w → s.length = w → chunk d s = List.zipWith (· ^^^ ·) d s)
    {as bs : List UInt8} (hlen : as.length = bs.length) (ho : o + w ≤ as.length) :
    modifySlice (zipPrefix (· ^^^ ·) as bs o) o (o + w) (fun d => chunk d (slice bs o (o + w))) =
      zipPrefix (· ^^^ ·) as bs (o + w) := by
  calc modifySlice (zipPrefix (· ^^^ ·) as bs o) o (o + w) (fun d => chunk d (slice bs o (o + w)))
      = modifySlice (zipPrefix (· ^^^ ·) as bs o) o (o + w)
          (fun c => List.zipWith (· ^^^ ·) c (slice bs o (o + w))) := by
        apply modifySlice_congr
        rw [slice_zipPrefix hlen (by omega)]
        exact hchunk _ _ (by simp; omega) (by simp; omega)
    _ = zipPrefix (· ^^^ ·) as bs (o + w) := modifySlice_zipPrefix hlen (Nat.le_add_right o w) ho

theorem xorChunkStep_keeps {w : Nat} {chunk : List UInt8 → List UInt8 → List UInt8}
    (hchunk : ∀ d s, d.length = w → s.length = w → chunk d s = List.zipWith (· ^^^ ·) d s)
    (hA : dA.length = n) (hsA : sA.length = n) (hB : dB.length = n) (hsB : sB.length = n)
    {o : Nat} {ab : List UInt8 × List UInt8} (ho : o + w ≤ n) (hinv : XoredTo dA sA dB sB o ab) :
    XoredTo dA sA dB sB (o + w) (xorChunkStep w chunk sA sB o ab) := by
  obtain ⟨-, ha, hb⟩ := hinv
  refine ⟨by omega, ?_, ?_⟩
  · show modifySlice ab.1 o (o + w) (fun d => chunk d (slice sA o (o + w))) = _
    rw [ha]
    exact modifySlice_xorChunk hchunk (by omega) (by omega)
  · show modifySlice ab.2 o (o + w) (fun d => chunk d (slice sB o (o + w))) = _
    rw [hb]
    exact modifySlice_xorChunk hchunk (by omega) (by omega)

theorem xorByteStep_keeps (hA : dA.length = n) (hsA : sA.length = n) (hB : dB.length = n)
    (hsB : sB.length = n) {o : Nat} {ab : List UInt8 × List UInt8} (ho : o + 1 ≤ n)
    (hinv : XoredTo dA sA dB sB o ab) :
    XoredTo dA sA dB sB (o + 1) (xorByteStep sA sB o ab) := by
  obtain ⟨-, ha, hb⟩ := hinv
  refine ⟨by omega, ?_, ?_⟩
  · show ab.1.set o (ab.1[o]! ^^^ sA[o]!) = _
    rw [ha]
    exact set_zipPrefix (by omega) (by omega)
  · show ab.2.set o (ab.2[o]! ^^^ sB[o]!) = _
    rw [hb]
    exact set_zipPrefix (by omega) (by omega)

/-- The three loops XOR both common prefixes whole: each keeps
`XoredTo`, and the last, of stride 1, stops at the end. -/
theorem strideLoops_xor (hA : dA.length = n) (hsA : sA.length = n) (hB : dB.length = n)
    (hsB : sB.length = n) :
    (Machine.strideLoop 1 n (xorByteStep sA sB) n
        (Machine.strideLoop 8 n (xorChunkStep 8 xorChunk8InPlace sA sB) n
          (Machine.strideLoop 32 n (xorChunkStep 32 xorChunk32InPlace sA sB) n 0 (dA, dB)).1
          (Machine.strideLoop 32 n (xorChunkStep 32 xorChunk32InPlace sA sB) n 0 (dA, dB)).2).1
        (Machine.strideLoop 8 n (xorChunkStep 8 xorChunk8InPlace sA sB) n
          (Machine.strideLoop 32 n (xorChunkStep 32 xorChunk32InPlace sA sB) n 0 (dA, dB)).1
          (Machine.strideLoop 32 n (xorChunkStep 32 xorChunk32InPlace sA sB) n 0 (dA, dB)).2).2).2 =
      (List.zipWith (· ^^^ ·) dA sA, List.zipWith (· ^^^ ·) dB sB) := by
  have h0 : XoredTo dA sA dB sB 0 (dA, dB) :=
    ⟨Nat.zero_le _, zipPrefix_zero.symm, zipPrefix_zero.symm⟩
  have h32 := (@Machine.strideLoop_induction _ 32 n (xorChunkStep 32 xorChunk32InPlace sA sB)
    (XoredTo dA sA dB sB) (by decide)
    (fun _ _ ho hinv => xorChunkStep_keeps (fun _ _ => xorChunk32InPlace_eq) hA hsA hB hsB ho hinv)
    n 0 (dA, dB) (Nat.sub_le n 0) h0).1
  have h8 := (@Machine.strideLoop_induction _ 8 n (xorChunkStep 8 xorChunk8InPlace sA sB)
    (XoredTo dA sA dB sB) (by decide)
    (fun _ _ ho hinv => xorChunkStep_keeps (fun _ _ => xorChunk8InPlace_eq) hA hsA hB hsB ho hinv)
    n _ _ (Nat.sub_le n _) h32).1
  obtain ⟨⟨hle, ha, hb⟩, hend⟩ := @Machine.strideLoop_induction _ 1 n (xorByteStep sA sB)
    (XoredTo dA sA dB sB) (by decide) (fun _ _ ho hinv => xorByteStep_keeps hA hsA hB hsB ho hinv)
    n _ _ (Nat.sub_le n _) h8
  -- the byte loop ends exactly at `n`
  have hdone : n = dA.length := hA.symm
  rw [show (Machine.strideLoop 1 n (xorByteStep sA sB) n _ _).1 = n by omega] at ha hb
  refine Prod.ext ?_ ?_
  · rw [ha, hdone, zipPrefix_of_length (by omega)]
  · rw [hb, show n = dB.length from hB.symm, zipPrefix_of_length (by omega)]

/-- A tail that may be empty, through the one-slice kernel, before the
rest `k` of the kernel. -/
theorem tail_bind {β : Type} (t ts : List UInt8) (h : t.length = ts.length)
    (k : List UInt8 → Option β) :
    (if t.isEmpty = true then (pure t : Option (List UInt8)).bind k
      else (gf256AddSliceScalar t ts).bind k) =
      k (List.zipWith (· ^^^ ·) t ts) := by
  cases t with
  | nil =>
    cases ts with
    | nil => rfl
    | cons y ts => simp at h
  | cons x t =>
    rw [List.isEmpty_cons, if_neg Bool.false_ne_true, gf256AddSliceScalar_eq h, Option.bind_some]

theorem gf256AddSlices2Scalar_eq (hA : dA.length = sA.length) (hB : dB.length = sB.length) :
    gf256AddSlices2Scalar dA sA dB sB =
      some (List.zipWith (· ^^^ ·) dA sA, List.zipWith (· ^^^ ·) dB sB) := by
  have hcA : min dA.length dB.length ≤ dA.length := Nat.min_le_left _ _
  have hcB : min dA.length dB.length ≤ dB.length := Nat.min_le_right _ _
  have hloops := @strideLoops_xor (dA.take (min dA.length dB.length))
    (sA.take (min dA.length dB.length)) (dB.take (min dA.length dB.length))
    (sB.take (min dA.length dB.length)) (min dA.length dB.length)
    (by rw [List.length_take]; omega) (by rw [List.length_take]; omega)
    (by rw [List.length_take]; omega) (by rw [List.length_take]; omega)
  simp only [gf256AddSlices2Scalar, trySplitAt_of_le hcA,
    trySplitAt_of_le (show min dA.length dB.length ≤ sA.length by omega), trySplitAt_of_le hcB,
    trySplitAt_of_le (show min dA.length dB.length ≤ sB.length by omega), Option.bind_eq_bind,
    Option.bind_some, hloops]
  -- the tails, of equal lengths on each side
  simp only [tail_bind (dA.drop (min dA.length dB.length)) (sA.drop (min dA.length dB.length))
      (by rw [List.length_drop, List.length_drop, hA]),
    tail_bind (dB.drop (min dA.length dB.length)) (sB.drop (min dA.length dB.length))
      (by rw [List.length_drop, List.length_drop, hB]),
    zipWith_take_append_drop _ hA, zipWith_take_append_drop _ hB]
  rfl

theorem gf256AddSlices2_eq (hA : dA.length = sA.length) (hB : dB.length = sB.length) :
    gf256AddSlices2 dA sA dB sB =
      some (List.zipWith (· ^^^ ·) dA sA, List.zipWith (· ^^^ ·) dB sB) := by
  rw [gf256AddSlices2, if_neg (not_not.mpr hA), if_neg (not_not.mpr hB),
    gf256AddSlices2Scalar_eq hA hB]

end AddSlices2

/-- A tail that may be empty, through the wide table loop. -/
theorem mulTail_eq (t : List UInt8) (table : Vector UInt8 256) :
    (if t.isEmpty then t else mulWithTableWide t table) = t.map fun d => table[d.toNat]! := by
  cases t with
  | nil => rfl
  | cons x t => rw [List.isEmpty_cons, if_neg Bool.false_ne_true, mulWithTableWide, mulWithTable8_eq]

theorem mulWithTableWide2_eq (dA dB : List UInt8) (table : Vector UInt8 256) :
    mulWithTableWide2 dA dB table =
      (dA.map fun d => table[d.toNat]!, dB.map fun d => table[d.toNat]!) := by
  rw [mulWithTableWide2, flatten_map_chunksExact _ fun _ hc => lookup8_eq table hc,
    flatten_map_chunksExact _ fun _ hc => lookup8_eq table hc, mulTail_eq, mulTail_eq,
    ← List.map_append, ← List.map_append, List.take_append_drop, List.take_append_drop]

theorem mulOne_eq (dispatch : Gf256Dispatch) (table : Vector UInt8 256) (dst : List UInt8) :
    mulSlices2SequentialWithSharedSetup.mulOne dispatch table dst = mulWithTable8 dst table := by
  unfold mulSlices2SequentialWithSharedSetup.mulOne
  split <;> rfl

/-- `gf256_mul_slices2` is `Gf256.lean`'s `gf256_mul_slice` on each
slice, whichever path the policy picks. -/
theorem gf256MulSlices2_eq_spec (policy : DualKernelPolicy) (dA dB : List UInt8) (c : Gf256) :
    gf256MulSlices2 policy dA dB c = (gf256MulSlice dA c, gf256MulSlice dB c) := by
  unfold gf256MulSlices2 gf256MulSlice
  split_ifs
  · rfl
  · rfl
  · -- every path sends each byte through the row `MUL_TABLES[c]`
    dsimp only
    split
    · rw [mulSlices2SequentialWithSharedSetup, mulOne_eq, mulOne_eq, mulWithTable8_eq,
        mulWithTable8_eq, mulTables_row]
    · rw [mulWithTableWide2_eq, mulTables_row]
    · rw [mulWithTableWide2_eq, mulTables_row]

-- ============================================================== the field

/-- `gf256_mul_slice`, in the field's words: each byte becomes
`Gf256(byte).mul_field(c)`. -/
theorem gf256MulSlice_eq_mulField (dst : List UInt8) (c : Gf256) :
    gf256MulSlice dst c = dst.map fun d => (Gf256.mulField ⟨d⟩ c).raw := by
  rw [gf256MulSlice_eq]
  exact List.map_congr_left fun d _ => congrArg Gf256.raw (Gf256.mul_comm' c ⟨d⟩)

/-- The portable build's bulk kernels agree with the field at every
length and scalar: the one- and two-slice XOR, the one- and two-slice
scale under any dual-kernel policy, and the multiply-accumulate, with
the multiplication and nibble tables they read. -/
theorem gf256_bulk_kernels_match_field :
    (∀ dst src : List UInt8, dst.length = src.length →
      detectDispatch.addSlice dst src = some (List.zipWith (· ^^^ ·) dst src)) ∧
    (∀ dstA srcA dstB srcB : List UInt8, dstA.length = srcA.length →
      dstB.length = srcB.length →
      gf256AddSlices2 dstA srcA dstB srcB =
        some (List.zipWith (· ^^^ ·) dstA srcA, List.zipWith (· ^^^ ·) dstB srcB)) ∧
    (∀ (dst : List UInt8) (c : Gf256),
      detectDispatch.mulSlice dst c = dst.map fun d => (Gf256.mulField ⟨d⟩ c).raw) ∧
    (∀ (policy : DualKernelPolicy) (dstA dstB : List UInt8) (c : Gf256),
      gf256MulSlices2 policy dstA dstB c =
        (dstA.map fun d => (Gf256.mulField ⟨d⟩ c).raw,
          dstB.map fun d => (Gf256.mulField ⟨d⟩ c).raw)) ∧
    (∀ (dst src : List UInt8) (c : Gf256), dst.length = src.length →
      detectDispatch.addmulSlice dst src c =
        some (List.zipWith (fun d s => d ^^^ (Gf256.mulField ⟨s⟩ c).raw) dst src)) ∧
    (∀ c x : UInt8, (mulTables[c.toNat]!)[x.toNat]! = (Gf256.mulField ⟨x⟩ ⟨c⟩).raw) ∧
    (∀ c x : UInt8, mulNibble (mulNibbleTables.1[c.toNat]!) (mulNibbleTables.2[c.toNat]!) x =
      (Gf256.mulField ⟨x⟩ ⟨c⟩).raw) := by
  refine ⟨fun dst src h => gf256AddSliceScalar_eq h, fun _ _ _ _ hA hB => gf256AddSlices2_eq hA hB,
    fun dst c => ?_, fun policy dA dB c => ?_, fun dst src c h => ?_, mulTables_eq_mulField,
    mulNibble_eq⟩
  · show gf256MulSliceScalar dst c = _
    rw [gf256MulSliceScalar_eq_spec, gf256MulSlice_eq_mulField]
  · rw [gf256MulSlices2_eq_spec, gf256MulSlice_eq_mulField, gf256MulSlice_eq_mulField]
  · show gf256AddmulSliceScalar dst src c = _
    rw [gf256AddmulSliceScalar_eq_spec, gf256AddmulSlice_eq h]
    congr 1
    exact zipWith_congr_mem fun d _ s _ => by rw [Gf256.mul_comm']; rfl

/-- Each kernel with a length hypothesis, on short slices: one pair, two
pairs of different lengths, and the multiply-accumulate by 7. -/
theorem gf256_bulk_kernels_match_field_short :
    detectDispatch.addSlice [1, 2, 3] [4, 5, 6] =
        some (List.zipWith (· ^^^ ·) [1, 2, 3] [4, 5, 6]) ∧
      gf256AddSlices2 [1, 2, 3] [4, 5, 6] [7] [8] =
        some (List.zipWith (· ^^^ ·) [1, 2, 3] [4, 5, 6], List.zipWith (· ^^^ ·) [7] [8]) ∧
      detectDispatch.addmulSlice [1, 2, 3] [4, 5, 6] ⟨7⟩ =
        some (List.zipWith (fun d s => d ^^^ (Gf256.mulField ⟨s⟩ ⟨7⟩).raw) [1, 2, 3] [4, 5, 6]) :=
  ⟨gf256_bulk_kernels_match_field.1 _ _ rfl, gf256_bulk_kernels_match_field.2.1 _ _ _ _ rfl rfl,
    gf256_bulk_kernels_match_field.2.2.2.2.1 _ _ _ rfl⟩

end Raptorq

end Asupersync
