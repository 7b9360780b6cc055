/-
The arithmetic of `raptorq/gf256.rs` is a field, and its bulk kernels
compute in it.

# Doubling

`xtime` doubles a byte modulo `POLY`: it is the step between two rounds
of `gf256_mul_const` and, below bit 8, the step of the table loops. It
is additive (`xtime_xor`) and sends only zero to zero, so each of its
iterates is injective.

# The tables

The powers `alphaPow k = xtime^[k] 1` come back to 1 first at 255
(`alphaPow_255`, `alphaPow_ne_one`), so below 255 they are distinct and
nonzero, and by counting they are all 255 nonzero bytes
(`exists_alphaPow`). The table loops write exactly these: `EXP[i]` is
the power `i` for `i ≤ 510` and `LOG` takes a power below 255 back to
its exponent (`exp_getElem`, `logOf_alphaPow`).

# Multiplication

For `a ≠ 0`, `a * b` is `b` doubled `LOG[a]` times (`raw_mul`), and
every field law follows from the additivity and the period of `xtime`;
`inv a` is the inverse of `a`.
-/
import Asupersync.Raptorq.Gf256
import Asupersync.Machine.Loop
import Mathlib

namespace Asupersync

namespace Raptorq

-- ============================================================= doubling

/-- Doubling modulo `POLY`: the step between two rounds of
`gf256_mul_const`. -/
def xtime (a : UInt8) : UInt8 :=
  let hi := a &&& 0x80
  let a := a <<< 1
  if hi != 0 then a ^^^ poly.toUInt8 else a

/-- A fact about every byte, as one check. -/
def allBytes (p : UInt8 → Bool) : Bool := (List.range 256).all fun n => p n.toUInt8

theorem allBytes_spec {p : UInt8 → Bool} (h : allBytes p = true) (a : UInt8) : p a = true := by
  have hmem : a.toNat ∈ List.range 256 := List.mem_range.mpr a.toNat_lt
  simpa using List.all_eq_true.mp h _ hmem

theorem hi_xor (a b : UInt8) : (a ^^^ b) &&& 0x80 = (a &&& 0x80) ^^^ (b &&& 0x80) := by
  apply UInt8.toBitVec_inj.mp
  ext i
  simp only [UInt8.toBitVec_and, UInt8.toBitVec_xor, BitVec.getElem_and, BitVec.getElem_xor]
  cases a.toBitVec[i] <;> cases b.toBitVec[i] <;> simp

theorem hi_eq (a : UInt8) : a &&& 0x80 = 0 ∨ a &&& 0x80 = 0x80 := by
  have h : allBytes (fun a => a &&& 0x80 == 0 || a &&& 0x80 == 0x80) = true := by
    set_option maxRecDepth 2000 in decide
  simpa using allBytes_spec h a

/-- Doubling is additive: the reduction is added once for each side whose
high bit is set, and twice (not at all) when both are. -/
theorem xtime_xor (a b : UInt8) : xtime (a ^^^ b) = xtime a ^^^ xtime b := by
  have h0 : ((0 : UInt8) != 0) = false := rfl
  have h1 : ((128 : UInt8) != 0) = true := rfl
  have h2 : ((128 : UInt8) ^^^ 128 != 0) = false := rfl
  simp only [xtime, hi_xor, UInt8.shiftLeft_xor]
  rcases hi_eq a with ha | ha <;> rcases hi_eq b with hb | hb
  all_goals simp only [ha, hb, xor_zero, zero_xor, h0, h1, h2, Bool.false_eq_true, if_true,
    if_false]
  · ac_rfl
  · ac_rfl
  · rw [xor_comm (b <<< 1) poly.toUInt8, ← xor_assoc, xor_cancel_right]

theorem xtime_zero : xtime 0 = 0 := rfl

theorem xtime_injective : Function.Injective xtime := by
  have hzero : allBytes (fun a => xtime a != 0 || a == 0) = true := by
    set_option maxRecDepth 2000 in decide
  intro a b h
  have hab : xtime (a ^^^ b) = 0 := by rw [xtime_xor, h, LawfulXor.xor_self]
  have := allBytes_spec hzero (a ^^^ b)
  simp only [hab, bne_self_eq_false, Bool.false_or, beq_iff_eq] at this
  rw [← xor_cancel_right a b, this, zero_xor]

theorem xtime_iterate_xor (k : Nat) (a b : UInt8) :
    xtime^[k] (a ^^^ b) = xtime^[k] a ^^^ xtime^[k] b := by
  induction k with
  | zero => rfl
  | succ k ih => rw [Function.iterate_succ_apply', ih, xtime_xor, Function.iterate_succ_apply',
      Function.iterate_succ_apply']

theorem xtime_iterate_zero (k : Nat) : xtime^[k] 0 = 0 :=
  Function.iterate_fixed xtime_zero k

-- =============================================================== powers

/-- The `k`-th power of the generator. -/
def alphaPow (k : Nat) : UInt8 := xtime^[k] 1

/-- `p` at `v` and at the next `n - 1` doublings, walked once. -/
def orbitAll (p : UInt8 → Bool) : Nat → UInt8 → Bool
  | 0, _ => true
  | n + 1, v => p v && orbitAll p n (xtime v)

theorem orbitAll_spec {p : UInt8 → Bool} {n : Nat} {v : UInt8} (h : orbitAll p n v = true)
    {j : Nat} (hj : j < n) : p (xtime^[j] v) = true := by
  induction n generalizing v j with
  | zero => omega
  | succ n ih =>
    simp only [orbitAll, Bool.and_eq_true] at h
    cases j with
    | zero => exact h.1
    | succ j => exact ih h.2 (by omega)

theorem alphaPow_add (i j : Nat) : alphaPow (i + j) = xtime^[i] (alphaPow j) :=
  Function.iterate_add_apply xtime i j 1

theorem alphaPow_255 : alphaPow 255 = 1 := by set_option maxRecDepth 16000 in decide

theorem alphaPow_ne_one {m : Nat} (h0 : 0 < m) (hm : m < 255) : alphaPow m ≠ 1 := by
  have hwalk : orbitAll (· != 1) 254 (xtime 1) = true := by set_option maxRecDepth 2000 in decide
  obtain ⟨j, rfl⟩ : ∃ j, m = j + 1 := ⟨m - 1, by omega⟩
  have := orbitAll_spec hwalk (j := j) (by omega)
  rw [alphaPow, Function.iterate_succ_apply]
  simpa using this

theorem alphaPow_ne_zero (k : Nat) : alphaPow k ≠ 0 := by
  intro h
  rw [alphaPow, ← xtime_iterate_zero k] at h
  exact absurd ((xtime_injective.iterate k) h) (by decide)

/-- Below 255 the powers are distinct: two equal ones would make a
smaller positive power equal to 1. -/
theorem alphaPow_injOn {i j : Nat} (hi : i < 255) (hj : j < 255) (h : alphaPow i = alphaPow j) :
    i = j := by
  rcases Nat.lt_trichotomy i j with hij | hij | hij
  · have hsplit : alphaPow j = xtime^[i] (alphaPow (j - i)) := by
      rw [← alphaPow_add]; congr 1; omega
    rw [hsplit, alphaPow] at h
    exact absurd ((xtime_injective.iterate i) h).symm (alphaPow_ne_one (by omega) (by omega))
  · exact hij
  · have hsplit : alphaPow i = xtime^[j] (alphaPow (i - j)) := by
      rw [← alphaPow_add]; congr 1; omega
    rw [hsplit, alphaPow] at h
    exact absurd ((xtime_injective.iterate j) h) (alphaPow_ne_one (by omega) (by omega))

/-- The 255 powers below 255 are the 255 nonzero bytes. -/
theorem exists_alphaPow {a : UInt8} (ha : a ≠ 0) : ∃ k < 255, alphaPow k = a := by
  classical
  let S := (Finset.range 255).image alphaPow
  have hsub : S ⊆ Finset.univ.erase 0 := by
    intro x hx
    obtain ⟨k, -, rfl⟩ := Finset.mem_image.mp hx
    exact Finset.mem_erase.mpr ⟨alphaPow_ne_zero k, Finset.mem_univ _⟩
  have hcard : (Finset.univ.erase (0 : UInt8)).card ≤ S.card := by
    have hinj : Set.InjOn alphaPow (Finset.range 255) := fun i hi j hj h =>
      alphaPow_injOn (Finset.mem_range.mp hi) (Finset.mem_range.mp hj) h
    rw [Finset.card_image_of_injOn hinj, Finset.card_range,
      Finset.card_erase_of_mem (Finset.mem_univ _), Finset.card_univ,
      ← FinEnum.card_eq_fintypeCard, FinEnum.card_UInt8]
    decide
  have hmem : a ∈ S := by
    rw [Finset.eq_of_subset_of_card_le hsub hcard]
    exact Finset.mem_erase.mpr ⟨ha, Finset.mem_univ _⟩
  obtain ⟨k, hk, rfl⟩ := Finset.mem_image.mp hmem
  exact ⟨k, Finset.mem_range.mp hk, rfl⟩

/-- Doubling 255 times is the identity on every byte. -/
theorem xtime_periodic (a : UInt8) : Function.IsPeriodicPt xtime 255 a := by
  by_cases ha : a = 0
  · rw [ha]
    exact xtime_iterate_zero 255
  · obtain ⟨k, -, rfl⟩ := exists_alphaPow ha
    show xtime^[255] (alphaPow k) = alphaPow k
    rw [← alphaPow_add, Nat.add_comm, alphaPow_add, alphaPow_255]
    rfl

theorem xtime_iterate_mod (k : Nat) (a : UInt8) : xtime^[k % 255] a = xtime^[k] a :=
  (xtime_periodic a).iterate_mod_apply k

theorem alphaPow_mod (k : Nat) : alphaPow (k % 255) = alphaPow k :=
  xtime_iterate_mod k 1

-- =============================================================== tables

theorem nextPower_byte {v : UInt16} (hv : v < 256) :
    nextPower v < 256 ∧ (nextPower v).toUInt8 = xtime v.toUInt8 := by
  have hcheck : (List.range 256).all (fun n => nextPower n.toUInt16 < 256 &&
      (nextPower n.toUInt16).toUInt8 == xtime n.toUInt8) = true := by
    set_option maxRecDepth 2000 in decide
  have h := List.all_eq_true.mp hcheck v.toNat (List.mem_range.mpr hv)
  have h16 : v.toNat.toUInt16 = v := UInt16.ofNat_toNat
  have h8 : v.toNat.toUInt8 = v.toUInt8 := UInt8.ofNat_uInt16ToNat v
  rw [h16, h8] at h
  simpa using h

/-- The loops' `val` after `k` passes: the `k`-th power, below 256. -/
theorem nextPower_iterate (k : Nat) :
    nextPower^[k] 1 < 256 ∧ (nextPower^[k] 1).toUInt8 = alphaPow k := by
  induction k with
  | zero => exact ⟨by decide, rfl⟩
  | succ k ih =>
    rw [Function.iterate_succ_apply', alphaPow, Function.iterate_succ_apply', ← alphaPow, ← ih.2]
    exact nextPower_byte ih.1

theorem toNat_nextPower_iterate (k : Nat) : (nextPower^[k] 1).toNat = (alphaPow k).toNat := by
  rw [← (nextPower_iterate k).2, UInt16.toNat_toUInt8]
  exact (Nat.mod_eq_of_lt (nextPower_iterate k).1).symm

/-- What `build_exp_table`'s loop has written at `i` after `k` passes. -/
def expFilled (k i : Nat) : UInt8 :=
  if i < k then alphaPow i else if 255 ≤ i ∧ i - 255 < k then alphaPow (i - 255) else 0

/-- Pass `k` writes the power `k` at `k` and at `k + 255`. -/
theorem expFill_spec :
    ((List.range 255).foldl buildExpTable.fill (Vector.replicate 512 0, 1)).2 =
        nextPower^[255] 1 ∧
      ∀ i (h : i < 512),
        ((List.range 255).foldl buildExpTable.fill (Vector.replicate 512 0, 1)).1[i] =
          expFilled 255 i := by
  refine Machine.foldl_range_induction _
    (fun k (r : Vector UInt8 512 × UInt16) => r.2 = nextPower^[k] 1 ∧
      ∀ i (h : i < 512), r.1[i] = expFilled k i) ⟨rfl, ?_⟩ ?_
  · intro i h
    simp [expFilled]
  · rintro k ⟨t, v⟩ hk ⟨hv, ht⟩
    dsimp only at hv ht
    refine ⟨by rw [buildExpTable.fill, hv, Function.iterate_succ_apply'], fun i h => ?_⟩
    rw [buildExpTable.fill, Vector.getElem_set! h, Vector.getElem_set! h, ht i h, hv,
      (nextPower_iterate k).2]
    by_cases hhi : i = k + 255
    · rw [if_pos hhi.symm, expFilled, if_neg (by omega), if_pos (by omega),
        show i - 255 = k by omega]
    · by_cases hlo : i = k
      · rw [if_neg (Ne.symm hhi), if_pos hlo.symm, hlo, expFilled, if_pos (by omega)]
      · rw [if_neg (Ne.symm hhi), if_neg (Ne.symm hlo)]
        simp only [expFilled]
        split_ifs <;> first | omega | rfl

/-- `EXP[i]` is the power `i`, for every `i` that `mul_field` can ask for. -/
theorem exp_getElem {i : Nat} (hi : i ≤ 510) : exp[i]! = alphaPow i := by
  rw [getElem!_pos exp i (by omega), exp, buildExpTable]
  rw [Vector.getElem_set! (by omega), Vector.getElem_set! (by omega), expFill_spec.2 i (by omega)]
  split_ifs with h510 h255
  · rw [← h510, show 510 = 255 + 255 from rfl, alphaPow_add, alphaPow_255]
    exact alphaPow_255.symm
  · rw [← h255, alphaPow_255]
  · simp only [expFilled]
    split_ifs with hlt hhi
    · rfl
    · rw [← alphaPow_mod i, show i - 255 = i % 255 by omega]
    · omega

/-- Pass `k` writes `k` at the power `k`; the powers below 255 being
distinct, no later pass writes there again. -/
theorem logFill_spec :
    ∀ j < 255, ((List.range 255).foldl buildLogTable.fill
      (Vector.replicate 256 0, 1)).1[(alphaPow j).toNat]! = j.toUInt8 := by
  refine (Machine.foldl_range_induction _
    (fun k (r : Vector UInt8 256 × UInt16) => r.2 = nextPower^[k] 1 ∧
      ∀ j < k, r.1[(alphaPow j).toNat]! = j.toUInt8) ⟨rfl, fun j hj => absurd hj (by omega)⟩
    ?_).2
  rintro k ⟨t, v⟩ hk ⟨hv, ht⟩
  dsimp only at hv ht
  refine ⟨by rw [buildLogTable.fill, hv, Function.iterate_succ_apply'], fun j hj => ?_⟩
  have hlt : (alphaPow j).toNat < 256 := UInt8.toNat_lt _
  rw [buildLogTable.fill]
  dsimp only
  rw [getElem!_pos (t.set! v.toNat k.toUInt8) _ hlt, Vector.getElem_set! hlt, hv,
    toNat_nextPower_iterate]
  by_cases hjk : j = k
  · rw [if_pos (by rw [hjk])]
    rw [hjk]
  · have hne : (alphaPow k).toNat ≠ (alphaPow j).toNat := fun h =>
      hjk (alphaPow_injOn hk (by omega) (UInt8.toNat_inj.mp h)).symm
    rw [if_neg hne, ← getElem!_pos t _ hlt]
    exact ht j (by omega)

/-- `LOG[a]`, as a number. -/
def logOf (a : UInt8) : Nat := (log[a.toNat]!).toNat

theorem logOf_alphaPow {k : Nat} (hk : k < 255) : logOf (alphaPow k) = k := by
  rw [logOf, log, buildLogTable, logFill_spec k hk]
  exact UInt8.toNat_ofNat_of_lt' (show k < 256 by omega)

theorem logOf_lt {a : UInt8} (ha : a ≠ 0) : logOf a < 255 := by
  obtain ⟨k, hk, rfl⟩ := exists_alphaPow ha
  rw [logOf_alphaPow hk]
  exact hk

theorem alphaPow_logOf {a : UInt8} (ha : a ≠ 0) : alphaPow (logOf a) = a := by
  obtain ⟨k, hk, rfl⟩ := exists_alphaPow ha
  rw [logOf_alphaPow hk]

-- ======================================================= multiplication

namespace Gf256

@[simp] theorem raw_zero : (0 : Gf256).raw = 0 := rfl

@[simp] theorem raw_one : (1 : Gf256).raw = 1 := rfl

@[simp] theorem raw_add (a b : Gf256) : (a + b).raw = a.raw ^^^ b.raw := rfl

theorem eq_zero_iff {a : Gf256} : a = 0 ↔ a.raw = 0 := Gf256.ext_iff

theorem add_self' (a : Gf256) : a + a = 0 := Gf256.ext (LawfulXor.xor_self a.raw)

theorem isZero_iff {a : Gf256} : a.isZero = true ↔ a = 0 := by
  rw [isZero, beq_iff_eq, eq_zero_iff]

/-- `a * b` doubles `b` `LOG[a]` times: `EXP[LOG[a] + LOG[b]]` is the
power `LOG[a]` steps past `b`'s. -/
theorem raw_mul (a b : Gf256) :
    (a * b).raw = if a.raw = 0 then 0 else xtime^[logOf a.raw] b.raw := by
  show (mulField a b).raw = _
  unfold mulField
  by_cases ha : a.raw = 0
  · simp [ha]
  by_cases hb : b.raw = 0
  · simp [ha, hb, xtime_iterate_zero]
  have hsum : logOf a.raw + logOf b.raw ≤ 510 := by
    have := logOf_lt ha
    have := logOf_lt hb
    omega
  rw [if_neg (by simp [ha, hb]), if_neg ha]
  show exp[logOf a.raw + logOf b.raw]! = _
  rw [exp_getElem hsum, alphaPow_add, alphaPow_logOf hb]

/-- The product of two nonzero elements, as a power. -/
theorem raw_mul_of_ne {a b : Gf256} (ha : a.raw ≠ 0) (hb : b.raw ≠ 0) :
    (a * b).raw = alphaPow (logOf a.raw + logOf b.raw) := by
  rw [raw_mul, if_neg ha, alphaPow_add, alphaPow_logOf hb]

theorem mul_comm' (a b : Gf256) : a * b = b * a := by
  show mulField a b = mulField b a
  unfold mulField
  rw [Bool.or_comm, Nat.add_comm]

theorem zero_mul' (a : Gf256) : 0 * a = 0 := by
  apply Gf256.ext
  rw [raw_mul, if_pos raw_zero]
  rfl

theorem mul_zero' (a : Gf256) : a * 0 = 0 := (mul_comm' a 0).trans (zero_mul' a)

theorem one_mul' (a : Gf256) : 1 * a = a := by
  have hlog : logOf 1 = 0 := logOf_alphaPow (k := 0) (by decide)
  apply Gf256.ext
  rw [raw_mul, if_neg (by decide), raw_one, hlog]
  rfl

theorem mul_add' (a b c : Gf256) : a * (b + c) = a * b + a * c := by
  apply Gf256.ext
  rw [raw_add, raw_mul, raw_mul, raw_mul, raw_add]
  split_ifs
  · rfl
  · exact xtime_iterate_xor _ _ _

/-- Associativity: `LOG[a * b]` is `LOG[a] + LOG[b]` modulo 255, which is
the period of doubling. -/
theorem mul_assoc' (a b c : Gf256) : a * b * c = a * (b * c) := by
  by_cases ha : a.raw = 0
  · rw [eq_zero_iff.mpr ha, zero_mul', zero_mul', zero_mul']
  by_cases hb : b.raw = 0
  · rw [eq_zero_iff.mpr hb, mul_zero', zero_mul', mul_zero']
  have hab := raw_mul_of_ne ha hb
  have hne : (a * b).raw ≠ 0 := by
    rw [hab]
    exact alphaPow_ne_zero _
  have hlog : logOf (a * b).raw = (logOf a.raw + logOf b.raw) % 255 := by
    rw [hab, ← alphaPow_mod, logOf_alphaPow (Nat.mod_lt _ (by decide))]
  apply Gf256.ext
  rw [raw_mul, if_neg hne, hlog, xtime_iterate_mod, raw_mul, if_neg ha, raw_mul, if_neg hb,
    Function.iterate_add_apply]

/-- `inv a` is `EXP[255 - LOG[a]]`, the power that brings `a` to 255. -/
theorem inv_eq {a : Gf256} (ha : a.raw ≠ 0) :
    a.inv = some ⟨alphaPow (255 - logOf a.raw)⟩ := by
  have hle : 255 - logOf a.raw ≤ 510 := by omega
  rw [inv, if_neg (by simpa [isZero] using ha)]
  show some (⟨exp[255 - logOf a.raw]!⟩ : Gf256) = _
  rw [exp_getElem hle]

theorem mul_inv_eq_one {a : Gf256} (ha : a.raw ≠ 0) : a * ⟨alphaPow (255 - logOf a.raw)⟩ = 1 := by
  have hlt := logOf_lt ha
  apply Gf256.ext
  rw [raw_mul, if_neg ha, ← alphaPow_add, show logOf a.raw + (255 - logOf a.raw) = 255 by omega,
    alphaPow_255]
  rfl

/-- `inv` of a nonzero element returns, with a nonzero inverse. -/
theorem inv_spec {a : Gf256} (ha : a ≠ 0) : ∃ i, a.inv = some i ∧ a * i = 1 ∧ i ≠ 0 := by
  have hraw : a.raw ≠ 0 := fun h => ha (eq_zero_iff.mpr h)
  refine ⟨_, inv_eq hraw, mul_inv_eq_one hraw, fun h0 => ?_⟩
  have hone := mul_inv_eq_one hraw
  rw [h0, mul_zero'] at hone
  exact absurd hone (by decide)

instance : Neg Gf256 := ⟨id⟩

instance : CommRing Gf256 where
  add_assoc a b c := Gf256.ext (xor_assoc a.raw b.raw c.raw)
  zero_add a := Gf256.ext (zero_xor a.raw)
  add_zero a := Gf256.ext (xor_zero a.raw)
  add_comm a b := Gf256.ext (xor_comm a.raw b.raw)
  neg_add_cancel a := Gf256.ext (LawfulXor.xor_self a.raw)
  mul_assoc := mul_assoc'
  one_mul := one_mul'
  mul_one a := (mul_comm' a 1).trans (one_mul' a)
  zero_mul := zero_mul'
  mul_zero := mul_zero'
  left_distrib := mul_add'
  right_distrib a b c := by rw [mul_comm', mul_add', mul_comm' c, mul_comm' c]
  mul_comm := mul_comm'
  nsmul := nsmulRec
  zsmul := zsmulRec

/-- The field's inverse: `inv` where it does not panic, and zero at zero. -/
instance : Inv Gf256 := ⟨fun a => a.inv.getD 0⟩

instance : Field Gf256 where
  mul_inv_cancel a ha := by
    have hraw : a.raw ≠ 0 := fun h => ha (eq_zero_iff.mpr h)
    show a * a.inv.getD 0 = 1
    rw [inv_eq hraw]
    exact mul_inv_eq_one hraw
  inv_zero := rfl
  exists_pair_ne := ⟨0, 1, by decide⟩
  nnqsmul := _
  nnqsmul_def := fun _ _ => rfl
  qsmul := _
  qsmul_def := fun _ _ => rfl

end Gf256

-- =============================================================== kernels

namespace Gf256

/-- The generator. -/
def two : Gf256 := ⟨2⟩

theorem raw_two_mul (x : Gf256) : (two * x).raw = xtime x.raw := by
  have hlog : logOf 2 = 1 := logOf_alphaPow (k := 1) (by decide)
  rw [raw_mul, if_neg (by decide), show two.raw = 2 from rfl, hlog]
  rfl

theorem mul_of_bit (a b : UInt8) :
    (if b &&& 1 != 0 then a else 0) = ((⟨b &&& 1⟩ : Gf256) * ⟨a⟩).raw := by
  have hbit : allBytes (fun b => b &&& 1 == 0 || b &&& 1 == 1) = true := by
    set_option maxRecDepth 2000 in decide
  have := allBytes_spec hbit b
  simp only [Bool.or_eq_true, beq_iff_eq] at this
  rcases this with h | h
  · rw [h, if_neg (by decide)]
    exact (congrArg raw (zero_mul' ⟨a⟩)).symm
  · rw [h, if_pos (by decide)]
    exact (congrArg raw (one_mul' ⟨a⟩)).symm

end Gf256

open Gf256 in
theorem loop_succ (n : Nat) (a b acc : UInt8) :
    gf256MulConst.loop (n + 1) a b acc =
      gf256MulConst.loop n (xtime a) (b >>> 1) (if b &&& 1 != 0 then acc ^^^ a else acc) := rfl

/-- The rounds of `gf256_mul_const` only add to the accumulator. -/
theorem loop_acc (n : Nat) (a b acc : UInt8) :
    gf256MulConst.loop n a b acc = acc ^^^ gf256MulConst.loop n a b 0 := by
  induction n generalizing a b acc with
  | zero => exact (xor_zero acc).symm
  | succ n ih =>
    rw [loop_succ, loop_succ, ih _ _ (if b &&& 1 != 0 then acc ^^^ a else acc),
      ih _ _ (if b &&& 1 != 0 then 0 ^^^ a else 0)]
    split_ifs
    · rw [zero_xor, xor_assoc]
    · rw [zero_xor]

/-- The low `n` bits of a byte. -/
def lowBits (n : Nat) (b : UInt8) : UInt8 := (b.toNat % 2 ^ n).toUInt8

/-- The low `n + 1` bits are bit 0 and, doubled, the low `n` bits above
it. -/
theorem lowBits_succ {n : Nat} (hn : n < 8) (b : UInt8) :
    (b &&& (1 : UInt8)) ^^^ xtime (lowBits n (b >>> 1)) = lowBits (n + 1) b := by
  have hcheck : (List.range 8).all (fun n => allBytes fun b =>
      (b &&& (1 : UInt8)) ^^^ xtime (lowBits n (b >>> 1)) == lowBits (n + 1) b) = true := by
    set_option maxRecDepth 2000 in decide
  have := allBytes_spec (List.all_eq_true.mp hcheck n (List.mem_range.mpr hn)) b
  simpa using this

/-- `n` rounds of `gf256_mul_const` multiply `a` by the low `n` bits of
`b`: each round adds bit 0 times `a` and leaves the rest, shifted down,
to `a` doubled. -/
theorem loop_eq_mul {n : Nat} (hn : n ≤ 8) (a b : UInt8) :
    gf256MulConst.loop n a b 0 = ((⟨lowBits n b⟩ : Gf256) * ⟨a⟩).raw := by
  induction n generalizing a b with
  | zero =>
    have hlow : (⟨lowBits 0 b⟩ : Gf256) = 0 := by
      apply Gf256.ext
      rw [lowBits, pow_zero, Nat.mod_one]
      rfl
    rw [hlow, Gf256.zero_mul']
    rfl
  | succ n ih =>
    have hdouble : (⟨xtime a⟩ : Gf256) = Gf256.two * ⟨a⟩ :=
      Gf256.ext (Gf256.raw_two_mul ⟨a⟩).symm
    calc gf256MulConst.loop (n + 1) a b 0
        = (if b &&& 1 != 0 then a else 0) ^^^ gf256MulConst.loop n (xtime a) (b >>> 1) 0 := by
          rw [loop_succ, loop_acc, zero_xor]
      _ = ((⟨b &&& 1⟩ : Gf256) * ⟨a⟩ + ⟨lowBits n (b >>> 1)⟩ * (Gf256.two * ⟨a⟩)).raw := by
          rw [ih (by omega), Gf256.mul_of_bit, hdouble]
          rfl
      _ = (((⟨b &&& 1⟩ : Gf256) + Gf256.two * ⟨lowBits n (b >>> 1)⟩) * ⟨a⟩).raw := by
          rw [← mul_assoc, mul_comm _ Gf256.two, add_mul]
      _ = ((⟨lowBits (n + 1) b⟩ : Gf256) * ⟨a⟩).raw := by
          rw [← lowBits_succ (by omega) b]
          congr 2
          exact Gf256.ext (by rw [Gf256.raw_add, Gf256.raw_two_mul])

/-- `MUL_TABLES[c][x]` is the field product `c * x`. -/
theorem mulTableFor_eq (c : Gf256) (x : UInt8) : mulTableFor c x = (c * ⟨x⟩).raw := by
  have hlow : lowBits 8 c.raw = c.raw := by
    rw [lowBits, Nat.mod_eq_of_lt c.raw.toNat_lt]
    exact UInt8.ofNat_toNat
  rw [mulTableFor, gf256MulConst, loop_eq_mul le_rfl, hlow]

theorem zipWith_left {α β : Type} {xs : List α} {ys : List β} (h : xs.length = ys.length) :
    List.zipWith (fun x _ => x) xs ys = xs := by
  induction xs generalizing ys with
  | nil => rfl
  | cons x xs ih =>
    cases ys with
    | nil => simp at h
    | cons y ys => rw [List.zipWith_cons_cons, ih (by simpa using h)]

/-- `gf256_mul_slice` multiplies every byte by `c`. -/
theorem gf256MulSlice_eq (dst : List UInt8) (c : Gf256) :
    gf256MulSlice dst c = dst.map fun x => (c * ⟨x⟩).raw := by
  unfold gf256MulSlice
  split_ifs with h0 h1
  · have hc : c = 0 := Gf256.eq_zero_iff.mpr (by simpa [Gf256.isZero] using h0)
    simp [hc]
  · simp [h1]
  · exact List.map_congr_left fun x _ => mulTableFor_eq c x

/-- `gf256_addmul_slice` on slices of one length adds `c` times `src` to
`dst`. -/
theorem gf256AddmulSlice_eq {dst src : List UInt8} (h : dst.length = src.length) (c : Gf256) :
    gf256AddmulSlice dst src c =
      some (List.zipWith (fun d s => d ^^^ (c * ⟨s⟩).raw) dst src) := by
  unfold gf256AddmulSlice
  rw [if_neg (not_not.mpr h)]
  split_ifs with h0 h1
  · have hc : c = 0 := Gf256.eq_zero_iff.mpr (by simpa [Gf256.isZero] using h0)
    simp [hc, zipWith_left h]
  · rw [gf256AddSlice, if_pos h, h1]
    simp
  · simp [mulTableFor_eq]

end Raptorq

end Asupersync
