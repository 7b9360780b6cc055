/-
The encoder and the decoder cut an object into the same source blocks,
except where the encoder refuses one: `plan_blocks_agree`.

# The table

`try_for_source_block` succeeds exactly for `1 ≤ K ≤ 56403`, the last
`K'` of RFC 6330 Table 2 (`tryForSourceBlock_ok`,
`tryForSourceBlock_unsupported`): the table ends at 56403, so the row
search stops inside it, and every row has `S ≤ W ≤ K' + S + H`, so the
two invariant checks pass.

# The loops

The decoder's loop, from an offset with enough fuel and a positive block
size, yields `⌈r / M⌉` blocks for the `r` bytes left, all of `M` bytes but
the last, numbered from the starting `sbn` (`PlanShape`). The encoder's
loop yields the same blocks with their offsets (`withStarts`) when every
block's `k` is in the table's range, and an `InvalidConfig` error at the
first that is not. The blocks' `k` is largest for the first block, of
`min M n` bytes, so that one block decides.
-/
import Asupersync.Raptorq.BlockPlan
import Mathlib

namespace Asupersync

namespace Raptorq

-- ================================================================ table

theorem systematicIndexTable_getLast? :
    systematicIndexTable.getLast? = some (56403, 471, 907, 16, 56951) := by
  set_option maxRecDepth 4000 in rfl

/-- Every row is below the last, fits a `u32`, and has `S ≤ W ≤ K' + S + H`. -/
theorem systematicIndexTable_rows :
    ∀ row ∈ systematicIndexTable,
      row.1 ≤ 56403 ∧ row.2.2.1 ≤ row.2.2.2.2 ∧ row.2.2.2.2 ≤ row.1 + row.2.2.1 + row.2.2.2.1 := by
  set_option maxRecDepth 4000 in decide

/-- The search stops inside a list with an element that fails `pred`. -/
theorem partitionPoint_lt_length {α : Type} {pred : α → Bool} :
    ∀ {l : List α}, (∃ a ∈ l, pred a = false) → partitionPoint pred l < l.length
  | [], ⟨_, ha, _⟩ => absurd ha List.not_mem_nil
  | x :: xs, ⟨a, ha, hpa⟩ => by
    unfold partitionPoint
    rw [List.takeWhile_cons]
    cases hx : pred x
    · simp
    · rcases List.mem_cons.mp ha with rfl | ha
      · rw [hpa] at hx
        cases hx
      · have ih : partitionPoint pred xs < xs.length := partitionPoint_lt_length ⟨a, ha, hpa⟩
        unfold partitionPoint at ih
        simp only [if_true, List.length_cons]
        omega

theorem tryForSourceBlock_unsupported {k : Nat} (hk : k = 0 ∨ 56403 < k) (T : Nat) :
    SystematicParams.tryForSourceBlock k T = .error (.UnsupportedSourceBlockSize k 56403) := by
  unfold SystematicParams.tryForSourceBlock
  simp only [systematicIndexTable_getLast?]
  rw [if_pos hk]

theorem tryForSourceBlock_ok {k : Nat} (h0 : 0 < k) (hk : k ≤ 56403) (T : Nat) :
    ∃ p, SystematicParams.tryForSourceBlock k T = .ok p := by
  -- the search stops at a row of the table, at the latest at the last one
  have hlt : partitionPoint (fun row => decide (row.1 < k)) systematicIndexTable <
      systematicIndexTable.length :=
    partitionPoint_lt_length ⟨_, List.mem_of_getLast? systematicIndexTable_getLast?,
      by simp only [decide_eq_false_iff_not]; omega⟩
  obtain ⟨⟨kPrime, j, s, h, w⟩, hrow⟩ : ∃ row,
      systematicIndexTable[partitionPoint (fun row => decide (row.1 < k)) systematicIndexTable] =
        row := ⟨_, rfl⟩
  obtain ⟨hk', hsw, hwl⟩ := systematicIndexTable_rows _ (hrow ▸ List.getElem_mem hlt)
  unfold SystematicParams.tryForSourceBlock
  simp only [systematicIndexTable_getLast?]
  rw [if_neg (by omega), getElem!_pos systematicIndexTable _ hlt, hrow]
  dsimp only at hk' hsw hwl ⊢
  rw [if_neg (by unfold u32Max; omega), if_neg (by omega), if_neg (by omega)]
  exact ⟨_, rfl⟩

namespace Encoding

/-- Every error of the `k` check is an `InvalidConfig`. -/
theorem validateSourceBlockK_cases (len T k : Nat) :
    validateSourceBlockK len T k = .ok () ∨
      ∃ reason, validateSourceBlockK len T k = .error (.InvalidConfig reason) := by
  unfold validateSourceBlockK
  rcases SystematicParams.tryForSourceBlock k T with (_ | _ | _) | _
  · exact .inr ⟨_, rfl⟩
  · exact .inr ⟨_, rfl⟩
  · exact .inr ⟨_, rfl⟩
  · exact .inl rfl

theorem validateSourceBlockK_ok {k : Nat} (h0 : 0 < k) (hk : k ≤ 56403) (len T : Nat) :
    validateSourceBlockK len T k = .ok () := by
  obtain ⟨p, hp⟩ := tryForSourceBlock_ok h0 hk T
  unfold validateSourceBlockK
  rw [hp]

end Encoding

-- ============================================================== div_ceil

section DivCeil

variable {a b : Nat}

theorem divCeil_eq (a b : Nat) : divCeil a b = if a % b > 0 then a / b + 1 else a / b := rfl

theorem divCeil_zero_left (b : Nat) : divCeil 0 b = 0 := by
  simp [divCeil_eq]

theorem divCeil_pos (ha : 0 < a) : 0 < divCeil a b := by
  rw [divCeil_eq]
  split
  · exact Nat.succ_pos _
  · -- no remainder: the quotient times `b` is all of `a`
    have h := Nat.div_add_mod a b
    have hq : a / b ≠ 0 := fun hq => by rw [hq] at h; omega
    exact Nat.pos_of_ne_zero hq

theorem divCeil_of_le (ha : 0 < a) (hab : a ≤ b) : divCeil a b = 1 := by
  rw [divCeil_eq]
  rcases Nat.lt_or_eq_of_le hab with hlt | rfl
  · rw [Nat.div_eq_of_lt hlt, Nat.mod_eq_of_lt hlt, if_pos ha]
  · rw [Nat.div_self ha, Nat.mod_self, if_neg (Nat.lt_irrefl 0)]

/-- One block of `b` less: one fewer. -/
theorem divCeil_sub (hb : 0 < b) (hab : b < a) : divCeil a b = divCeil (a - b) b + 1 := by
  rw [divCeil_eq, divCeil_eq, Nat.div_eq_sub_div hb hab.le, Nat.mod_eq_sub_mod hab.le]
  split <;> rfl

theorem divCeil_mono {a' : Nat} (h : a ≤ a') : divCeil a b ≤ divCeil a' b := by
  have hq : a / b ≤ a' / b := Nat.div_le_div_right h
  rw [divCeil_eq, divCeil_eq]
  split
  · split
    · omega
    · -- `a'` is a multiple of `b` above `a`, which is not one
      rename_i hr hr'
      have h₁ := Nat.div_add_mod a b
      have h₂ := Nat.div_add_mod a' b
      have hlt : a / b * b < a' / b * b := by
        rw [Nat.mul_comm (a / b), Nat.mul_comm (a' / b)]
        omega
      have := Nat.lt_of_mul_lt_mul_right hlt
      omega
  · split <;> omega

theorem divCeil_le_of_le_mul {c : Nat} (h : a ≤ c * b) : divCeil a b ≤ c := by
  have hq : a / b ≤ c := Nat.div_le_of_le_mul (by rw [Nat.mul_comm]; exact h)
  rw [divCeil_eq]
  split
  · -- a remainder: `b * (a / b) < a ≤ b * c`
    rename_i hr
    have h₁ := Nat.div_add_mod a b
    have hlt : a / b * b < c * b := by
      rw [Nat.mul_comm (a / b)]
      omega
    have := Nat.lt_of_mul_lt_mul_right hlt
    omega
  · exact hq

end DivCeil

-- ================================================================ loops

variable {n T M : Nat}

namespace Decoding

theorem planLoop_succ_of_lt {fuel offset : Nat} {sbn : UInt8} (h : offset < n) :
    planLoop n T M (fuel + 1) offset sbn =
      { sbn, len := min M (n - offset), k := divCeil (min M (n - offset)) T } ::
        planLoop n T M fuel (offset + min M (n - offset)) (sbn + 1) := by
  rw [planLoop, if_pos h]

theorem planLoop_of_le {offset : Nat} (h : n ≤ offset) (fuel : Nat) (sbn : UInt8) :
    planLoop n T M fuel offset sbn = [] := by
  cases fuel with
  | zero => rfl
  | succ fuel => rw [planLoop, if_neg (Nat.not_lt.mpr h)]

/-- Every block is nonempty, at most `M` bytes and within what is left,
with its `k`. -/
theorem planLoop_mem (hM : 0 < M) :
    ∀ {fuel offset : Nat} {sbn : UInt8}, ∀ b ∈ planLoop n T M fuel offset sbn,
      0 < b.len ∧ b.len ≤ M ∧ b.len ≤ n - offset ∧ b.k = divCeil b.len T
  | 0, _, _, b, hb => absurd hb List.not_mem_nil
  | fuel + 1, offset, sbn, b, hb => by
    by_cases h : offset < n
    · rw [planLoop_succ_of_lt h] at hb
      rcases List.mem_cons.mp hb with rfl | hb
      · refine ⟨?_, Nat.min_le_left _ _, Nat.min_le_right _ _, rfl⟩
        show 0 < min M (n - offset)
        omega
      · obtain ⟨h₁, h₂, h₃, h₄⟩ := planLoop_mem hM b hb
        exact ⟨h₁, h₂, by omega, h₄⟩
    · rw [planLoop_of_le (Nat.not_lt.mp h)] at hb
      exact absurd hb List.not_mem_nil

/-- With enough fuel the blocks cover what is left. -/
theorem planLoop_sum (hM : 0 < M) :
    ∀ {fuel offset : Nat} {sbn : UInt8}, n - offset ≤ fuel →
      ((planLoop n T M fuel offset sbn).map (·.len)).sum = n - offset
  | 0, offset, sbn, hfuel => by
    rw [planLoop_of_le (by omega)]
    simp only [List.map_nil, List.sum_nil]
    omega
  | fuel + 1, offset, sbn, hfuel => by
    by_cases h : offset < n
    · have hrest : n - (offset + min M (n - offset)) ≤ fuel := by omega
      rw [planLoop_succ_of_lt h, List.map_cons, List.sum_cons, planLoop_sum hM hrest]
      show min M (n - offset) + (n - (offset + min M (n - offset))) = n - offset
      omega
    · rw [planLoop_of_le (Nat.not_lt.mp h)]
      simp only [List.map_nil, List.sum_nil]
      omega

/-- With enough fuel there are `⌈r / M⌉` blocks for the `r` bytes left. -/
theorem planLoop_length (hM : 0 < M) :
    ∀ {fuel offset : Nat} {sbn : UInt8}, n - offset ≤ fuel →
      (planLoop n T M fuel offset sbn).length = divCeil (n - offset) M
  | 0, offset, sbn, hfuel => by
    rw [planLoop_of_le (by omega), show n - offset = 0 by omega, divCeil_zero_left]
    rfl
  | fuel + 1, offset, sbn, hfuel => by
    by_cases h : offset < n
    · rw [planLoop_succ_of_lt h, List.length_cons]
      by_cases hlast : n - offset ≤ M
      · -- the last block takes the rest
        rw [Nat.min_eq_right hlast, planLoop_of_le (by omega), divCeil_of_le (by omega) hlast]
        rfl
      · -- a full block, and one block fewer for the rest
        have hfull : min M (n - offset) = M := Nat.min_eq_left (by omega)
        have hrest : n - (offset + M) ≤ fuel := by omega
        rw [hfull, planLoop_length hM hrest, divCeil_sub hM (show M < n - offset by omega),
          Nat.sub_add_eq]
    · rw [planLoop_of_le (Nat.not_lt.mp h), show n - offset = 0 by omega, divCeil_zero_left]
      rfl

/-- The blocks are numbered on from `sbn`, wrapping as a `u8`. -/
theorem planLoop_sbn :
    ∀ {fuel offset : Nat} {sbn : UInt8},
      (planLoop n T M fuel offset sbn).map (·.sbn) =
        (List.range (planLoop n T M fuel offset sbn).length).map fun i => sbn + i.toUInt8
  | 0, _, _ => rfl
  | fuel + 1, offset, sbn => by
    by_cases h : offset < n
    · rw [planLoop_succ_of_lt h, List.map_cons, List.length_cons, List.range_succ_eq_map,
        List.map_cons, List.map_map, planLoop_sbn]
      congr 1
      · show sbn = sbn + (0 : Nat).toUInt8
        simp
      · apply List.map_congr_left
        intro i _
        show sbn + 1 + i.toUInt8 = sbn + (i + 1).toUInt8
        rw [show (i + 1).toUInt8 = i.toUInt8 + 1 by simp]
        ac_rfl
    · rw [planLoop_of_le (Nat.not_lt.mp h)]
      rfl

end Decoding

/-- The decoder's blocks with the offsets they start at, from `offset`:
the encoder's blocks. -/
def withStarts : Nat → List Decoding.BlockPlan → List Encoding.BlockPlan
  | _, [] => []
  | offset, b :: bs =>
    { sbn := b.sbn, start := offset, len := b.len, k := b.k } :: withStarts (offset + b.len) bs

theorem withStarts_map (offset : Nat) :
    ∀ bs : List Decoding.BlockPlan,
      (withStarts offset bs).map (fun b => (b.sbn, b.len, b.k)) = bs.map fun b => (b.sbn, b.len, b.k)
  | [] => rfl
  | b :: bs => by
    rw [withStarts, List.map_cons, List.map_cons, withStarts_map (offset + b.len) bs]

theorem length_withStarts (offset : Nat) :
    ∀ bs : List Decoding.BlockPlan, (withStarts offset bs).length = bs.length
  | [] => rfl
  | b :: bs => by rw [withStarts, List.length_cons, List.length_cons, length_withStarts _ bs]

/-- Block `i` starts where the ones before it end. -/
theorem start_withStarts :
    ∀ (offset : Nat) (bs : List Decoding.BlockPlan) (i : Nat) (hi : i < (withStarts offset bs).length),
      (withStarts offset bs)[i].start = offset + ((bs.take i).map (·.len)).sum
  | _, [], _, hi => absurd hi (Nat.not_lt_zero _)
  | offset, b :: bs, 0, _ => by simp [withStarts]
  | offset, b :: bs, i + 1, hi => by
    have hi' : i < (withStarts (offset + b.len) bs).length := by
      simpa [withStarts] using hi
    simp only [withStarts, List.getElem_cons_succ]
    rw [start_withStarts (offset + b.len) bs i hi', List.take_succ_cons, List.map_cons,
      List.sum_cons, Nat.add_assoc]

namespace Encoding

theorem planLoop_succ_of_lt {fuel offset : Nat} {sbn : UInt8} (h : offset < n) :
    planLoop n T M (fuel + 1) offset sbn =
      (do
        validateSourceBlockK (min M (n - offset)) T (divCeil (min M (n - offset)) T)
        let rest ← planLoop n T M fuel (offset + min M (n - offset)) (sbn + 1)
        return ⟨sbn, offset, min M (n - offset), divCeil (min M (n - offset)) T⟩ :: rest) := by
  rw [planLoop, if_pos h]

theorem planLoop_of_le {offset : Nat} (h : n ≤ offset) (fuel : Nat) (sbn : UInt8) :
    planLoop n T M fuel offset sbn = .ok [] := by
  cases fuel with
  | zero => rfl
  | succ fuel => rw [planLoop, if_neg (Nat.not_lt.mpr h)]

/-- When every block's `k` is in the table's range, the encoder's loop
returns the decoder's blocks with their offsets. -/
theorem planLoop_ok :
    ∀ {fuel offset : Nat} {sbn : UInt8},
      (∀ b ∈ Decoding.planLoop n T M fuel offset sbn, 0 < b.k ∧ b.k ≤ 56403) →
      planLoop n T M fuel offset sbn = .ok (withStarts offset (Decoding.planLoop n T M fuel offset sbn))
  | 0, _, _, _ => rfl
  | fuel + 1, offset, sbn, hvalid => by
    by_cases h : offset < n
    · rw [Decoding.planLoop_succ_of_lt h] at hvalid ⊢
      obtain ⟨hk₀, hk⟩ := hvalid _ List.mem_cons_self
      rw [planLoop_succ_of_lt h, validateSourceBlockK_ok hk₀ hk,
        planLoop_ok fun b hb => hvalid b (List.mem_cons_of_mem _ hb)]
      rfl
    · rw [Decoding.planLoop_of_le (Nat.not_lt.mp h), planLoop_of_le (Nat.not_lt.mp h)]
      rfl

/-- A block whose `k` is past the table: the encoder's loop fails with an
`InvalidConfig`, at that block or an earlier one. -/
theorem planLoop_error :
    ∀ {fuel offset : Nat} {sbn : UInt8},
      (∃ b ∈ Decoding.planLoop n T M fuel offset sbn, 56403 < b.k) →
      ∃ reason, planLoop n T M fuel offset sbn = .error (.InvalidConfig reason)
  | 0, _, _, ⟨_, hb, _⟩ => absurd hb List.not_mem_nil
  | fuel + 1, offset, sbn, ⟨b, hb, hbk⟩ => by
    by_cases h : offset < n
    · rw [Decoding.planLoop_succ_of_lt h] at hb
      rw [planLoop_succ_of_lt h]
      rcases validateSourceBlockK_cases (min M (n - offset)) T (divCeil (min M (n - offset)) T)
        with hok | ⟨reason, herr⟩
      · rcases List.mem_cons.mp hb with rfl | hb
        · -- the first block itself is past the table
          have := hok
          rw [validateSourceBlockK, tryForSourceBlock_unsupported (.inr hbk)] at this
          cases this
        · obtain ⟨reason, hrest⟩ := planLoop_error ⟨b, hb, hbk⟩
          rw [hok]
          exact ⟨reason, by simp only [bind, Except.bind, hrest]⟩
      · exact ⟨reason, by rw [herr]; rfl⟩
    · rw [Decoding.planLoop_of_le (Nat.not_lt.mp h)] at hb
      exact absurd hb List.not_mem_nil

theorem validateConfig_ok {cfg : EncodingConfig} (hT : 0 < cfg.symbolSize.toNat)
    (hM : 0 < cfg.maxBlockSize) (hrep : cfg.repairOverheadValid = true)
    (hpool : ∀ s, cfg.poolSymbolSize = some s → s = cfg.symbolSize) :
    validateConfig cfg = .ok cfg.symbolSize.toNat := by
  unfold validateConfig
  dsimp only
  rw [if_neg (by omega), if_neg (by omega), hrep, Bool.not_true, if_neg Bool.false_ne_true]
  cases hp : cfg.poolSymbolSize with
  | none => rfl
  | some s => exact if_neg (not_not.mpr (hpool s hp))

end Encoding

-- ================================================================ plans

/-- A plan of an `n`-byte object in blocks of at most `M` bytes, with
symbols of `T` bytes: blocks covering the `n` bytes in order, `⌈n / M⌉` of
them and at most 256, each nonempty, at most `M` bytes and with its symbol
count, numbered `0, 1, …` without repeats. -/
structure PlanShape (n T M : Nat) (blocks : List Decoding.BlockPlan) : Prop where
  cover : (blocks.map (·.len)).sum = n
  count : blocks.length = divCeil n M
  count_le : blocks.length ≤ 256
  len_pos : ∀ b ∈ blocks, 0 < b.len
  len_le : ∀ b ∈ blocks, b.len ≤ M
  k_eq : ∀ b ∈ blocks, b.k = divCeil b.len T
  sbn_eq : blocks.map (·.sbn) = (List.range blocks.length).map Nat.toUInt8
  sbn_nodup : (blocks.map (·.sbn)).Nodup

theorem toUInt8_injOn {i j : Nat} (hi : i < 256) (hj : j < 256) (h : i.toUInt8 = j.toUInt8) :
    i = j := by
  have := congrArg UInt8.toNat h
  simpa [Nat.mod_eq_of_lt hi, Nat.mod_eq_of_lt hj] using this

/-- The decoder's loop over a whole object of at most 256 blocks. -/
theorem planLoop_shape (hM : 0 < M) (hn : n ≤ 256 * M) :
    PlanShape n T M (Decoding.planLoop n T M n 0 0) := by
  have hfuel : n - 0 ≤ n := Nat.sub_le n 0
  have hcount : (Decoding.planLoop n T M n 0 0).length = divCeil (n - 0) M :=
    Decoding.planLoop_length hM hfuel
  rw [Nat.sub_zero] at hcount
  have hle : (Decoding.planLoop n T M n 0 0).length ≤ 256 := by
    rw [hcount]
    exact divCeil_le_of_le_mul hn
  have hsbn : (Decoding.planLoop n T M n 0 0).map (·.sbn) =
      (List.range (Decoding.planLoop n T M n 0 0).length).map Nat.toUInt8 := by
    rw [Decoding.planLoop_sbn]
    simp only [UInt8.zero_add]
  refine ⟨?_, hcount, hle, fun b hb => (Decoding.planLoop_mem hM b hb).1,
    fun b hb => (Decoding.planLoop_mem hM b hb).2.1,
    fun b hb => (Decoding.planLoop_mem hM b hb).2.2.2, hsbn, ?_⟩
  · rw [Decoding.planLoop_sum hM hfuel, Nat.sub_zero]
  · -- below 256 the numbers do not wrap
    rw [hsbn]
    refine List.Nodup.map_on (fun i hi j hj h => ?_) List.nodup_range
    exact toUInt8_injOn (by rw [List.mem_range] at hi; omega) (by rw [List.mem_range] at hj; omega) h

/-- The first block of a nonempty object takes `min M n` bytes, and every
block at most that. -/
theorem planLoop_first (hn : 0 < n) :
    ∃ rest, Decoding.planLoop n T M n 0 0 =
      { sbn := 0, len := min M n, k := divCeil (min M n) T } :: rest := by
  obtain ⟨m, rfl⟩ : ∃ m, n = m + 1 := ⟨n - 1, by omega⟩
  rw [Decoding.planLoop_succ_of_lt hn, Nat.sub_zero]
  exact ⟨_, rfl⟩

-- ============================================================ agreement

/-- An object within the limit: the decoder plans it with its loop. -/
theorem Decoding.planBlocks_eq (hT : 0 < T) (hfit : n ≤ min (M * 256) usizeMax) :
    Decoding.planBlocks n T M = .ok (Decoding.planLoop n T M n 0 0) := by
  unfold Decoding.planBlocks
  by_cases hn : n = 0
  · subst hn
    rfl
  · rw [if_neg hn, if_neg (by omega), if_neg (Nat.not_lt.mpr hfit)]

/-- An object within the limit: the encoder plans it with its loop. -/
theorem Encoding.planBlocks_eq {cfg : Encoding.EncodingConfig} {n : Nat}
    (hcfg : Encoding.validateConfig cfg = .ok cfg.symbolSize.toNat)
    (hfit : n ≤ min (cfg.maxBlockSize * 256) usizeMax) :
    Encoding.planBlocks cfg n =
      (Encoding.planLoop n cfg.symbolSize.toNat cfg.maxBlockSize n 0 0).map
        fun blocks => (blocks, cfg.symbolSize.toNat) := by
  unfold Encoding.planBlocks
  rw [hcfg]
  by_cases hn : n = 0
  · subst hn
    rfl
  · have hmax : ¬ n > Encoding.maxObjectSize cfg.maxBlockSize := Nat.not_lt.mpr hfit
    simp only [bind, Except.bind, if_neg hn, if_neg hmax, pure, Except.pure]
    cases Encoding.planLoop n cfg.symbolSize.toNat cfg.maxBlockSize n 0 0 <;> rfl

/-- Encoder and decoder cut an object of at most 256 blocks into the same
blocks, the encoder adding their offsets, as long as the first block's
symbol count is in RFC 6330 Table 2; past it the encoder refuses the
object, which the decoder never checks. Both refuse a larger object. -/
theorem plan_blocks_agree (cfg : Encoding.EncodingConfig) (n : Nat) (hT : 0 < cfg.symbolSize.toNat)
    (hM : 0 < cfg.maxBlockSize) (hn : n ≤ usizeMax) (hrep : cfg.repairOverheadValid = true)
    (hpool : ∀ s, cfg.poolSymbolSize = some s → s = cfg.symbolSize) :
    (n ≤ 256 * cfg.maxBlockSize →
      ∃ blocks, Decoding.planBlocks n cfg.symbolSize.toNat cfg.maxBlockSize = .ok blocks ∧
        PlanShape n cfg.symbolSize.toNat cfg.maxBlockSize blocks ∧
        (divCeil (min cfg.maxBlockSize n) cfg.symbolSize.toNat ≤ 56403 →
          Encoding.planBlocks cfg n = .ok (withStarts 0 blocks, cfg.symbolSize.toNat)) ∧
        (56403 < divCeil (min cfg.maxBlockSize n) cfg.symbolSize.toNat →
          ∃ reason, Encoding.planBlocks cfg n = .error (.InvalidConfig reason))) ∧
    (256 * cfg.maxBlockSize < n →
      (∃ details, Decoding.planBlocks n cfg.symbolSize.toNat cfg.maxBlockSize =
        .error (.InconsistentMetadata 0 details)) ∧
      Encoding.planBlocks cfg n = .error (.DataTooLarge n (cfg.maxBlockSize * 256))) := by
  have hcfg := Encoding.validateConfig_ok hT hM hrep hpool
  constructor
  · intro hle
    have hfit : n ≤ min (cfg.maxBlockSize * 256) usizeMax := by omega
    refine ⟨_, Decoding.planBlocks_eq hT hfit, planLoop_shape hM hle, fun hk => ?_, fun hk => ?_⟩
    · -- every block is at most the first, so every `k` is in range
      have hvalid : ∀ b ∈ Decoding.planLoop n cfg.symbolSize.toNat cfg.maxBlockSize n 0 0,
          0 < b.k ∧ b.k ≤ 56403 := by
        intro b hb
        obtain ⟨hpos, hleM, hlen, hbk⟩ := Decoding.planLoop_mem hM b hb
        have hmin : b.len ≤ min cfg.maxBlockSize n := Nat.le_min.mpr ⟨hleM, by omega⟩
        rw [hbk]
        exact ⟨divCeil_pos hpos, le_trans (divCeil_mono hmin) hk⟩
      rw [Encoding.planBlocks_eq hcfg hfit, Encoding.planLoop_ok hvalid]
      rfl
    · -- the first block is past the table
      have hn0 : 0 < n := by
        rcases Nat.eq_zero_or_pos n with rfl | hn0
        · rw [Nat.min_zero, divCeil_zero_left] at hk
          omega
        · exact hn0
      obtain ⟨rest, hfirst⟩ := planLoop_first (T := cfg.symbolSize.toNat) (M := cfg.maxBlockSize) hn0
      have hbad : ∃ b ∈ Decoding.planLoop n cfg.symbolSize.toNat cfg.maxBlockSize n 0 0,
          56403 < b.k := ⟨_, hfirst ▸ List.mem_cons_self, hk⟩
      obtain ⟨reason, herr⟩ := Encoding.planLoop_error hbad
      rw [Encoding.planBlocks_eq hcfg hfit, herr]
      exact ⟨reason, rfl⟩
  · intro hgt
    have hmax : min (cfg.maxBlockSize * 256) usizeMax = cfg.maxBlockSize * 256 := by omega
    refine ⟨⟨s!"object size {n} exceeds limit {cfg.maxBlockSize * 256}", ?_⟩, ?_⟩
    · unfold Decoding.planBlocks
      rw [if_neg (by omega), if_neg (by omega), if_pos (by omega), hmax]
    · unfold Encoding.planBlocks
      rw [hcfg]
      have hover : n > cfg.maxBlockSize * 256 := by omega
      simp only [bind, Except.bind, if_neg (show n ≠ 0 by omega), Encoding.maxObjectSize,
        Encoding.maxSourceBlocks, hmax, if_pos hover, throw, throwThe, MonadExceptOf.throw]

/-- Ten bytes in blocks of four with three-byte symbols: both sides plan
blocks of 4, 4 and 2 bytes. -/
theorem plan_blocks_agree_ten :
    ∃ blocks, Decoding.planBlocks 10 3 4 = .ok blocks ∧
      Encoding.planBlocks ⟨3, 4, true, none⟩ 10 = .ok (withStarts 0 blocks, 3) := by
  obtain ⟨blocks, hdec, _, hok, _⟩ :=
    (plan_blocks_agree ⟨3, 4, true, none⟩ 10 (by decide) (by decide) (by decide) rfl
      (fun _ h => nomatch h)).1 (by decide)
  exact ⟨blocks, hdec, hok (by decide)⟩

/-- One block of 56404 one-byte symbols: the decoder plans it, the encoder
refuses it as past RFC 6330 Table 2. -/
theorem plan_blocks_k_past_table :
    Decoding.planBlocks 56404 1 56404 = .ok [⟨0, 56404, 56404⟩] ∧
      Encoding.planBlocks ⟨1, 56404, true, none⟩ 56404 = .error (.InvalidConfig
        ("block of 56404 bytes with symbol_size 1 requires unsupported source block K=56404; " ++
          "supported range is 1..=56403")) := by
  set_option maxRecDepth 4000 in decide

end Raptorq

end Asupersync
