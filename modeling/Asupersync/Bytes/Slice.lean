/-
Byte slices as bulk kernels cut them: `&l[i..j]`, `split_at`,
`chunks_exact`, an in-place zip, and `u64` words packed from bytes.
A range that can fall outside the slice, where the source would panic,
is an `Option` (`trySplitAt`, `trySliceFrom`, `trySliceTo`,
`tryCopyFromSlice`).

# Slices and chunks

`slice l i j` is `&l[i..j]`, and `modifySlice l i j f` runs `f` on
`&mut l[i..j]`. `chunksExact k l` is what `l.chunks_exact(k)` yields:
its full chunks in order, with its `remainder`. A loop over
`dst.chunks_exact_mut(k).zip(src.chunks_exact(k))` that rewrites each
chunk leaves `dst` as its rewritten chunks followed by the remainder;
`zipInPlace f` is the loop `for (d, s) in dst.iter_mut().zip(src)`.

Cutting commutes with an elementwise operation (`slice_zipWith`,
`chunksExact_zipWith`, `chunksExact_map`), so a kernel whose every
piece is elementwise is elementwise: `flatten_zipInPlace_chunksExact`
and `flatten_map_chunksExact` are those loop rules. A loop that walks a
slice by offsets instead keeps `zipPrefix`, the slice rewritten up to
the offset; `modifySlice_zipPrefix` and `set_zipPrefix` are its step
rules.

# Words

`wordOfBytes` and `bytesOfWord` are `u64::from_ne_bytes` and
`u64::to_ne_bytes` on a little-endian target. The XOR of two packed
words unpacks to the XOR of their bytes (`bytesOfWord_xor_wordOfBytes`);
that holds in either byte order, and the model fixes one.

Nothing here names the modelled program.
-/
import Mathlib

namespace Bytes

variable {α β : Type}

-- ================================================================ slices

/-- `&l[i..j]`. -/
def slice (l : List α) (i j : Nat) : List α := (l.drop i).take (j - i)

/-- `f(&mut l[i..j])`: the slice replaced by what `f` makes of it. -/
def modifySlice (l : List α) (i j : Nat) (f : List α → List α) : List α :=
  l.take i ++ f (slice l i j) ++ l.drop j

/-- `l.split_at(mid)`, which panics when `mid` is past the end. -/
def trySplitAt (l : List α) (mid : Nat) : Option (List α × List α) :=
  if mid ≤ l.length then some (l.take mid, l.drop mid) else none

/-- `l.slice(i..)`, which panics when `i` is past the end. -/
def trySliceFrom (l : List α) (i : Nat) : Option (List α) :=
  if i ≤ l.length then some (l.drop i) else none

/-- `l.slice(..j)`, which panics when `j` is past the end. -/
def trySliceTo (l : List α) (j : Nat) : Option (List α) :=
  if j ≤ l.length then some (l.take j) else none

/-- `a.copy_from_slice(src)` into an array of `n`, which panics unless
`src` has `n` elements. -/
def tryCopyFromSlice {n : Nat} (src : List α) : Option (Vector α n) :=
  if h : src.length = n then some ⟨src.toArray, by simpa using h⟩ else none

/-- Copying a vector's own elements back gives the vector. -/
theorem tryCopyFromSlice_toList {n : Nat} (v : Vector α n) : tryCopyFromSlice v.toList = some v := by
  unfold tryCopyFromSlice
  rw [dif_pos (by simp)]
  congr

@[simp]
theorem length_slice (l : List α) (i j : Nat) :
    (slice l i j).length = min (j - i) (l.length - i) := by
  simp [slice]

theorem slice_zipWith {γ : Type} (f : α → β → γ) (as : List α) (bs : List β) (i j : Nat) :
    slice (List.zipWith f as bs) i j = List.zipWith f (slice as i j) (slice bs i j) := by
  rw [slice, List.drop_zipWith, List.take_zipWith, slice, slice]

theorem take_append_slice (l : List α) {i j : Nat} (hij : i ≤ j) :
    l.take i ++ slice l i j = l.take j := by
  rw [slice, ← List.take_add, Nat.add_sub_cancel' hij]

theorem slice_append_slice (l : List α) {i j k : Nat} (hij : i ≤ j) (hjk : j ≤ k) :
    slice l i j ++ slice l j k = slice l i k := by
  have h := take_append_slice (l.drop i) (Nat.sub_le_sub_right hjk i)
  have hdrop : (l.drop i).drop (j - i) = l.drop j := by
    rw [List.drop_drop]
    congr 1
    omega
  rw [slice, slice, slice, ← h, slice, hdrop, Nat.sub_sub_sub_cancel_right hij]

theorem slice_zero_of_length {l : List α} {n : Nat} (h : l.length = n) : slice l 0 n = l := by
  rw [slice, List.drop_zero, Nat.sub_zero, ← h, List.take_length]

/-- Bytes behind the end of a slice do not change it. -/
theorem slice_append_of_le (l x : List α) {i j : Nat} (h : j ≤ l.length) :
    slice (l ++ x) i j = slice l i j := by
  unfold slice
  rw [List.drop_append, List.take_append_of_le_length (by simp; omega)]

theorem trySplitAt_of_le {l : List α} {mid : Nat} (h : mid ≤ l.length) :
    trySplitAt l mid = some (l.take mid, l.drop mid) := if_pos h

theorem trySliceFrom_of_le {l : List α} {i : Nat} (h : i ≤ l.length) :
    trySliceFrom l i = some (l.drop i) := if_pos h

theorem trySliceTo_of_le {l : List α} {j : Nat} (h : j ≤ l.length) :
    trySliceTo l j = some (l.take j) := if_pos h

theorem modifySlice_congr {l : List α} {i j : Nat} {f f' : List α → List α}
    (h : f (slice l i j) = f' (slice l i j)) : modifySlice l i j f = modifySlice l i j f' := by
  rw [modifySlice, modifySlice, h]

theorem slice_succ [Inhabited α] {l : List α} {i : Nat} (h : i < l.length) :
    slice l i (i + 1) = [l[i]!] := by
  rw [slice, Nat.add_sub_cancel_left, List.drop_eq_getElem_cons h, getElem!_pos l i h]
  rfl

/-- `l[i] = v`, as the one-element slice at `i` replaced. -/
theorem set_eq_modifySlice {l : List α} {i : Nat} (h : i < l.length) (v : α) :
    l.set i v = modifySlice l i (i + 1) fun _ => [v] := by
  rw [List.set_eq_take_append_cons_drop, if_pos h, modifySlice, List.append_assoc]
  rfl

theorem zipWith_take_append_drop {γ : Type} (g : α → β → γ) {as : List α} {bs : List β}
    (h : as.length = bs.length) (n : Nat) :
    List.zipWith g (as.take n) (bs.take n) ++ List.zipWith g (as.drop n) (bs.drop n) =
      List.zipWith g as bs := by
  rw [← List.zipWith_append (by simp [h]), List.take_append_drop, List.take_append_drop]

/-- `as` with its first `i` elements combined with those of `bs` by `g`:
what a loop that rewrites `as` from the front has made of it after `i`
elements. -/
def zipPrefix (g : α → β → α) (as : List α) (bs : List β) (i : Nat) : List α :=
  List.zipWith g (as.take i) (bs.take i) ++ as.drop i

section ZipPrefix

variable {g : α → β → α} {as : List α} {bs : List β}

theorem zipPrefix_zero : zipPrefix g as bs 0 = as := by
  simp [zipPrefix]

theorem zipPrefix_of_length (h : as.length = bs.length) :
    zipPrefix g as bs as.length = List.zipWith g as bs := by
  rw [zipPrefix, List.take_length, h, List.take_length, ← h, List.drop_length, List.append_nil]

theorem length_zipPrefix (hlen : as.length = bs.length) {i : Nat} (hi : i ≤ as.length) :
    (zipPrefix g as bs i).length = as.length := by
  simp only [zipPrefix, List.length_append, List.length_zipWith, List.length_take, List.length_drop]
  omega

/-- Past the rewritten front, the slices are those of `as`. -/
theorem slice_zipPrefix (hlen : as.length = bs.length) {i j : Nat} (hi : i ≤ as.length) :
    slice (zipPrefix g as bs i) i j = slice as i j := by
  have hpre : (List.zipWith g (as.take i) (bs.take i)).length = i := by
    simp only [List.length_zipWith, List.length_take]
    omega
  rw [zipPrefix, slice, List.drop_append_of_le_length (by omega), List.drop_of_length_le (by omega),
    List.nil_append]
  rfl

/-- The step rule of a loop that rewrites `as` at growing offsets:
rewriting `[i, j)` elementwise takes the front from `i` to `j`. -/
theorem modifySlice_zipPrefix (hlen : as.length = bs.length) {i j : Nat} (hij : i ≤ j)
    (hj : j ≤ as.length) :
    modifySlice (zipPrefix g as bs i) i j (fun c => List.zipWith g c (slice bs i j)) =
      zipPrefix g as bs j := by
  have hpre : (List.zipWith g (as.take i) (bs.take i)).length = i := by
    simp only [List.length_zipWith, List.length_take]
    omega
  have hdrop : (zipPrefix g as bs i).drop j = as.drop j := by
    rw [zipPrefix, List.drop_append, hpre, List.drop_of_length_le (by omega), List.nil_append,
      List.drop_drop, Nat.add_sub_cancel' hij]
  rw [modifySlice, slice_zipPrefix hlen (by omega), hdrop, zipPrefix,
    List.take_append_of_le_length (by omega), List.take_of_length_le (by omega), ← slice_zipWith,
    ← List.take_zipWith, take_append_slice _ hij, List.take_zipWith, zipPrefix]

/-- The step rule of a loop that rewrites one element of `as` a pass. -/
theorem set_zipPrefix [Inhabited α] [Inhabited β] (hlen : as.length = bs.length) {i : Nat}
    (hi : i < as.length) :
    (zipPrefix g as bs i).set i (g (zipPrefix g as bs i)[i]! bs[i]!) = zipPrefix g as bs (i + 1) := by
  have hP : i < (zipPrefix g as bs i).length := by
    rw [length_zipPrefix hlen (by omega)]
    exact hi
  have hcell : slice (zipPrefix g as bs i) i (i + 1) = [(zipPrefix g as bs i)[i]!] := slice_succ hP
  rw [set_eq_modifySlice hP, ← modifySlice_zipPrefix hlen (Nat.le_succ i) hi]
  apply modifySlice_congr
  rw [hcell, slice_succ (show i < bs.length by omega), List.zipWith_cons_cons, List.zipWith_nil_left]

end ZipPrefix

-- ================================================================ chunks

/-- `l.chunks_exact(k)`: the `l.length / k` full chunks of `k` elements,
in order, and the remainder. -/
def chunksExact (k : Nat) (l : List α) : List (List α) × List α :=
  ((List.range (l.length / k)).map (fun i => slice l (i * k) (i * k + k)),
    l.drop (l.length / k * k))

/-- `for (d, s) in dst.iter_mut().zip(src) { *d = f(*d, s) }`: the zip
stops at the shorter side, and the rest of `dst` stays. -/
def zipInPlace (f : α → β → α) : List α → List β → List α
  | [], _ => []
  | as, [] => as
  | a :: as, b :: bs => f a b :: zipInPlace f as bs

theorem zipInPlace_eq_zipWith (f : α → β → α) :
    ∀ {as : List α} {bs : List β}, as.length = bs.length →
      zipInPlace f as bs = List.zipWith f as bs
  | [], [], _ => rfl
  | a :: as, b :: bs, h => by
    rw [zipInPlace, zipInPlace_eq_zipWith f (Nat.succ.inj h), List.zipWith_cons_cons]

@[simp]
theorem length_chunksExact_fst (k : Nat) (l : List α) :
    (chunksExact k l).1.length = l.length / k := by
  simp [chunksExact]

theorem length_chunksExact_snd (k : Nat) (l : List α) :
    (chunksExact k l).2.length = l.length % k := by
  rw [chunksExact, List.length_drop, Nat.mul_comm, ← Nat.mod_eq_sub_mul_div]

theorem length_of_mem_chunksExact {k : Nat} {l c : List α} (h : c ∈ (chunksExact k l).1) :
    c.length = k := by
  obtain ⟨i, hi, rfl⟩ := List.mem_map.mp h
  have hi : i + 1 ≤ l.length / k := List.mem_range.mp hi
  have hle : (i + 1) * k ≤ l.length := Nat.le_trans (Nat.mul_le_mul_right k hi) (Nat.div_mul_le_self _ _)
  rw [length_slice, Nat.add_sub_cancel_left]
  rw [Nat.succ_mul] at hle
  omega

/-- The first `n` chunks are the first `n * k` elements. -/
theorem flatten_map_range_slice (l : List α) (k : Nat) :
    ∀ n, ((List.range n).map fun i => slice l (i * k) (i * k + k)).flatten = l.take (n * k)
  | 0 => by simp
  | n + 1 => by
    rw [List.range_succ, List.map_append, List.flatten_append, flatten_map_range_slice l k n,
      List.map_singleton, List.flatten_singleton, take_append_slice _ (Nat.le_add_right _ _),
      Nat.succ_mul]

theorem flatten_chunksExact (k : Nat) (l : List α) :
    (chunksExact k l).1.flatten ++ (chunksExact k l).2 = l := by
  rw [chunksExact, flatten_map_range_slice, List.take_append_drop]

theorem chunksExact_zipWith {γ : Type} (k : Nat) (f : α → β → γ) {as : List α} {bs : List β}
    (h : as.length = bs.length) :
    chunksExact k (List.zipWith f as bs) =
      (List.zipWith (List.zipWith f) (chunksExact k as).1 (chunksExact k bs).1,
        List.zipWith f (chunksExact k as).2 (chunksExact k bs).2) := by
  have hlen : (List.zipWith f as bs).length = as.length := by
    rw [List.length_zipWith, h, Nat.min_self]
  simp only [chunksExact, hlen, h, List.zipWith_map, List.zipWith_self, slice_zipWith,
    List.drop_zipWith]

theorem chunksExact_map {γ : Type} (k : Nat) (f : α → γ) (l : List α) :
    chunksExact k (l.map f) = ((chunksExact k l).1.map (List.map f), (chunksExact k l).2.map f) := by
  simp only [chunksExact, List.length_map, List.map_map, Function.comp_def, slice, List.map_drop,
    List.map_take]

/-- Two zips agree where the operations agree on the pairs they meet. -/
theorem zipWith_congr_mem {γ : Type} {f f' : α → β → γ} :
    ∀ {as : List α} {bs : List β}, (∀ a ∈ as, ∀ b ∈ bs, f a b = f' a b) →
      List.zipWith f as bs = List.zipWith f' as bs
  | [], _, _ => by simp
  | _ :: _, [], _ => by simp
  | a :: as, b :: bs, h => by
    rw [List.zipWith_cons_cons, List.zipWith_cons_cons,
      h a List.mem_cons_self b List.mem_cons_self,
      zipWith_congr_mem fun a ha b hb => h a (List.mem_cons_of_mem _ ha) b (List.mem_cons_of_mem _ hb)]

/-- The loop rule of a kernel over `chunks_exact(k)` of two slices of
one length: chunks rewritten elementwise, then the remainder, is the
whole zip. -/
theorem flatten_zipInPlace_chunksExact {k : Nat} {g : α → β → α} {op : List α → List β → List α}
    {as : List α} {bs : List β} (h : as.length = bs.length)
    (hop : ∀ c d, c.length = k → d.length = k → op c d = List.zipWith g c d) :
    (zipInPlace op (chunksExact k as).1 (chunksExact k bs).1).flatten ++
        List.zipWith g (chunksExact k as).2 (chunksExact k bs).2 =
      List.zipWith g as bs := by
  have hchunks : zipInPlace op (chunksExact k as).1 (chunksExact k bs).1 =
      List.zipWith (List.zipWith g) (chunksExact k as).1 (chunksExact k bs).1 := by
    rw [zipInPlace_eq_zipWith _ (by simp [h])]
    exact zipWith_congr_mem fun c hc d hd =>
      hop c d (length_of_mem_chunksExact hc) (length_of_mem_chunksExact hd)
  have hcut := chunksExact_zipWith k g h
  rw [hchunks, ← flatten_chunksExact k (List.zipWith g as bs), hcut]

/-- The loop rule of a kernel over `chunks_exact_mut(k)` of one slice. -/
theorem flatten_map_chunksExact {k : Nat} {g : α → α} {op : List α → List α} (l : List α)
    (hop : ∀ c, c.length = k → op c = c.map g) :
    ((chunksExact k l).1.map op).flatten ++ (chunksExact k l).2.map g = l.map g := by
  have hchunks : (chunksExact k l).1.map op = (chunksExact k l).1.map (List.map g) :=
    List.map_congr_left fun c hc => hop c (length_of_mem_chunksExact hc)
  rw [hchunks, ← flatten_chunksExact k (l.map g), chunksExact_map]

-- ================================================================= words

/-- `u64::from_ne_bytes` on a little-endian target: the first byte lowest. -/
def wordOfBytes : List UInt8 → UInt64
  | [] => 0
  | b :: bs => b.toUInt64 + wordOfBytes bs * 256

/-- `u64::to_ne_bytes`, the lowest `n` bytes first. -/
def bytesOfWord : Nat → UInt64 → List UInt8
  | 0, _ => []
  | n + 1, w => w.toUInt8 :: bytesOfWord n (w >>> 8)

theorem bytesOfWord_xor (x y : UInt64) : ∀ n,
    bytesOfWord n (x ^^^ y) = List.zipWith (· ^^^ ·) (bytesOfWord n x) (bytesOfWord n y)
  | 0 => rfl
  | n + 1 => by
    rw [bytesOfWord, bytesOfWord, bytesOfWord, UInt64.toUInt8_xor, UInt64.shiftRight_xor,
      bytesOfWord_xor _ _ n, List.zipWith_cons_cons]

theorem toNat_wordOfBytes_lt : ∀ {bs : List UInt8}, bs.length ≤ 8 →
    (wordOfBytes bs).toNat < 2 ^ (8 * bs.length)
  | [], _ => by simp [wordOfBytes]
  | b :: bs, h => by
    have hlen : bs.length ≤ 7 := by simp only [List.length_cons] at h; omega
    have ih : (wordOfBytes bs).toNat < 2 ^ (8 * bs.length) := toNat_wordOfBytes_lt (by omega)
    have hpow : 2 ^ (8 * bs.length) ≤ 2 ^ 56 := Nat.pow_le_pow_right (by omega) (by omega)
    have hsucc : 2 ^ (8 * (b :: bs).length) = 2 ^ (8 * bs.length) * 256 := by
      rw [List.length_cons, Nat.mul_succ, Nat.pow_add]
    have hb := b.toNat_lt
    rw [hsucc, wordOfBytes, UInt64.toNat_add, UInt64.toNat_mul, UInt8.toNat_toUInt64]
    simp only [UInt64.reduceToNat]
    omega

/-- Unpacking a packed word gives its bytes back. -/
theorem bytesOfWord_wordOfBytes : ∀ {bs : List UInt8}, bs.length ≤ 8 →
    bytesOfWord bs.length (wordOfBytes bs) = bs
  | [], _ => rfl
  | b :: bs, h => by
    have hlen : bs.length ≤ 7 := by simp only [List.length_cons] at h; omega
    have hlt : (wordOfBytes bs).toNat < 2 ^ (8 * bs.length) := toNat_wordOfBytes_lt (by omega)
    have hpow : 2 ^ (8 * bs.length) ≤ 2 ^ 56 := Nat.pow_le_pow_right (by omega) (by omega)
    have hb := b.toNat_lt
    have hval : (b.toUInt64 + wordOfBytes bs * 256).toNat = b.toNat + (wordOfBytes bs).toNat * 256 := by
      rw [UInt64.toNat_add, UInt64.toNat_mul, UInt8.toNat_toUInt64]
      simp only [UInt64.reduceToNat]
      omega
    have hlow : (b.toUInt64 + wordOfBytes bs * 256).toUInt8 = b := by
      apply UInt8.toNat_inj.mp
      rw [UInt64.toNat_toUInt8, hval]
      omega
    have hhigh : (b.toUInt64 + wordOfBytes bs * 256) >>> 8 = wordOfBytes bs := by
      apply UInt64.toNat_inj.mp
      rw [UInt64.toNat_shiftRight, hval, Nat.shiftRight_eq_div_pow]
      simp only [UInt64.reduceToNat, Nat.reduceMod, Nat.reducePow]
      omega
    rw [List.length_cons, bytesOfWord, wordOfBytes, hlow, hhigh, bytesOfWord_wordOfBytes (by omega)]

/-- XOR on packed words is XOR on their bytes. -/
theorem bytesOfWord_xor_wordOfBytes {a b : List UInt8} (ha : a.length = 8) (hb : b.length = 8) :
    bytesOfWord 8 (wordOfBytes a ^^^ wordOfBytes b) = List.zipWith (· ^^^ ·) a b := by
  rw [bytesOfWord_xor]
  nth_rewrite 1 [← ha]
  nth_rewrite 1 [← hb]
  rw [bytesOfWord_wordOfBytes (Nat.le_of_eq ha), bytesOfWord_wordOfBytes (Nat.le_of_eq hb)]

end Bytes
