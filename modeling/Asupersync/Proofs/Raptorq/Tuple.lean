/-
Tuple expansion (`tuple_indices` and `repair_indices_for_esi` in
`raptorq/rfc6330.rs`) is total and in range.

# What a tuple holds

`try_tuple` draws each field with `Rand` modulo its bound, so a tuple it
returns has the ranges `tuple_indices`' gate checks (`tryTuple_eq_some`);
the gate passes, and the expansion is what the two walks build
(`tupleIndices_of_tryTuple`).

# The walks

The LT side is the walk `b, b + a, b + 2a, ...` modulo `W`
(`ltSide_eq`). Its `d ≤ W - 2` indices are distinct when `a` is coprime
to `W`, which holds for every `0 < a < W` when `W` is prime, as every `W`
of RFC 6330 Table 2 is. For a composite `W` the walk can come back to a
point within `d` steps (`tuple_lt_indices_repeat_composite`).

The PI side skips forward while it is at or past `P`. `P1` is prime and
the step is below it, so within `P1` steps the walk reaches 0, which is
below `P`, and the skip ends (`piSkip_lt`).
-/
import Asupersync.Raptorq.Rfc6330
import Asupersync.Proofs.Raptorq.Prime
import Asupersync.Algebra.ModWalk

namespace Asupersync

namespace Raptorq

-- ================================================================= draws

/-- `Rand[y, i, m]` is below `m`. -/
theorem rand_lt (y : UInt32) (i : UInt8) {m : UInt32} (hm : 0 < m.toNat) : (rand y i m).toNat < m.toNat := by
  unfold rand
  rw [UInt32.toNat_mod]
  exact Nat.mod_lt _ hm

/-- Every degree of the table is between 1 and 30. -/
theorem deg_mem (v : UInt32) : 1 ≤ deg v ∧ deg v ≤ 30 := by
  unfold deg
  split
  · next row hrow =>
    have hall : ∀ row ∈ degreeTable, 1 ≤ row.2 ∧ row.2 ≤ 30 := by decide
    exact hall row (List.mem_of_find?_eq_some hrow)
  · exact ⟨by decide, le_refl _⟩

/-- A draw modulo a bound `n` below `2^32`. -/
theorem rand_toUInt32_lt {n : Nat} (h0 : 0 < n) (h : n < 2 ^ 32) (y : UInt32) (i : UInt8) :
    (rand y i n.toUInt32).toNat < n := by
  have hn : n.toUInt32.toNat = n := UInt32.toNat_ofNat_of_lt' h
  have := rand_lt y i (m := n.toUInt32) (by omega)
  rwa [hn] at this

/-- A step `1 + Rand[y, i, n - 1]`, for `2 ≤ n < 2^32`: between 1 and `n - 1`. -/
theorem one_add_rand_lt {n : Nat} (h2 : 2 ≤ n) (h : n < 2 ^ 32) (y : UInt32) (i : UInt8) :
    1 + (rand y i (n.toUInt32 - 1)).toNat < n := by
  have hn : n.toUInt32.toNat = n := UInt32.toNat_ofNat_of_lt' h
  have hsub : (n.toUInt32 - 1).toNat = n - 1 := by
    rw [UInt32.toNat_sub_of_le _ _ (UInt32.le_iff_toNat_le.mpr (by rw [hn]; exact Nat.le_of_lt h2)), hn]
    rfl
  have := rand_lt y i (m := n.toUInt32 - 1) (by omega)
  omega

/-- Two PI indices, or three after a short LT side. -/
theorem piDegree_mem (c : Prop) [Decidable c] (y : UInt32) :
    (if c then 2 + (rand y 3 2).toNat else 2) = 2 ∨ (if c then 2 + (rand y 3 2).toNat else 2) = 3 := by
  have : (rand y 3 2).toNat < 2 := rand_lt y 3 (m := 2) (by decide)
  split <;> omega

/-- A tuple `try_tuple` returns passes its gate, and has each field in the
range its draw gives it. -/
theorem tryTuple_eq_some {j w p p1 : Nat} {x : UInt32} {t : LtTuple} (h : tryTuple j w p p1 x = some t) :
    (2 < w ∧ 0 < p ∧ 1 < p1 ∧ p ≤ p1 ∧ nextPrimeGe p = some p1) ∧
    (1 ≤ t.d ∧ t.d ≤ 30 ∧ t.d ≤ w - 2) ∧ (t.d1 = 2 ∨ t.d1 = 3) ∧
    (0 < t.a ∧ t.a < w ∧ t.b < w) ∧ (0 < t.a1 ∧ t.a1 < p1 ∧ t.b1 < p1) := by
  unfold tryTuple at h
  cases hnext : nextPrimeGe p with
  | none =>
    rw [hnext] at h
    nomatch h
  | some q =>
    rw [hnext] at h
    dsimp only at h
    by_cases hgate : w > 2 ∧ p > 0 ∧ p1 > 1 ∧ p1 ≥ p ∧ p1 = q ∧ j < 2 ^ 32 ∧ w < 2 ^ 32 ∧ p1 < 2 ^ 32
    · rw [if_pos hgate] at h
      obtain ⟨hw, hp, hp1, hpp1, rfl, -, hw32, hp132⟩ := hgate
      cases h
      dsimp only
      exact ⟨⟨hw, hp, hp1, hpp1, rfl⟩,
        ⟨Nat.le_min.mpr ⟨(deg_mem _).1, by omega⟩, Nat.le_trans (Nat.min_le_left _ _) (deg_mem _).2,
          Nat.min_le_right _ _⟩, piDegree_mem _ _, ⟨by omega, one_add_rand_lt (by omega) hw32 _ _,
          rand_toUInt32_lt (by omega) hw32 _ _⟩,
        ⟨by omega, one_add_rand_lt (by omega) hp132 _ _, rand_toUInt32_lt (by omega) hp132 _ _⟩⟩
    · rw [if_neg hgate] at h
      nomatch h

/-- A tuple `try_tuple` returns passes the gate of `tuple_indices`, which
then expands it by its two walks. -/
theorem tupleIndices_of_tryTuple {j w p p1 : Nat} {x : UInt32} {t : LtTuple} (h : tryTuple j w p p1 x = some t) :
    tupleIndices t w p p1 = (t.b % w :: ltWalk t.a w (t.d - 1) (t.b % w)) ++
      (w + piSkip p p1 t.a1 p1 (t.b1 % p1)) ::
        (piWalk p p1 t.a1 (t.d1 - 1) (piSkip p p1 t.a1 p1 (t.b1 % p1))).map (w + ·) := by
  obtain ⟨⟨hw, hp, -, hpp1, hnext⟩, ⟨hd1, hd30, -⟩, hd1', ⟨ha, ha', hb⟩, ⟨ha1, ha1', hb1⟩⟩ := tryTuple_eq_some h
  unfold tupleIndices
  rw [hnext]
  dsimp only
  rw [if_pos ⟨hw, hp, hpp1, rfl, hd1, hd30, hd1', ha, ha', ha1, ha1', hb, hb1⟩]

-- ================================================================= walks

@[simp]
theorem length_ltWalk (a w : Nat) : ∀ n x, (ltWalk a w n x).length = n
  | 0, _ => rfl
  | n + 1, _ => by rw [ltWalk, List.length_cons, length_ltWalk a w n]

@[simp]
theorem length_piWalk (p p1 a1 : Nat) : ∀ n x1, (piWalk p p1 a1 n x1).length = n
  | 0, _ => rfl
  | n + 1, _ => by rw [piWalk, List.length_cons, length_piWalk p p1 a1 n]

/-- The LT walk from the `k`-th point of `b, b + a, ...` modulo `w` goes on
through the points after it. -/
theorem ltWalk_eq (a w b : Nat) : ∀ n k,
    ltWalk a w n ((b + k * a) % w) = (List.range n).map fun i => (b + (k + i + 1) * a) % w
  | 0, _ => rfl
  | n + 1, k => by
    rw [ltWalk, ModWalk.add_mod_add_mul_mod, ltWalk_eq a w b n (k + 1), List.range_succ_eq_map, List.map_cons,
      List.map_map]
    congr 1
    apply List.map_congr_left
    intro i _
    simp only [Function.comp_apply]
    congr 3
    omega

/-- The LT side of the expansion is the first `d` points of the walk from `b`. -/
theorem ltSide_eq (a w b d : Nat) :
    b % w :: ltWalk a w (d - 1) (b % w) = (List.range (d - 1 + 1)).map fun i => (b + i * a) % w := by
  have h0 : b % w = (b + 0 * a) % w := by rw [Nat.zero_mul, Nat.add_zero]
  rw [h0, ltWalk_eq, List.range_succ_eq_map, List.map_cons, List.map_map]
  congr 1
  apply List.map_congr_left
  intro i _
  simp only [Function.comp_apply, Nat.zero_add]

/-- With a step coprime to `w`, the first `d ≤ w` points of the walk are
distinct. -/
theorem nodup_walk {a w b d : Nat} (hcop : Nat.Coprime a w) (hd : d ≤ w) :
    ((List.range d).map fun i => (b + i * a) % w).Nodup := by
  apply List.Nodup.map_on ?_ List.nodup_range
  intro i hi i' hi' heq
  rw [List.mem_range] at hi hi'
  exact ModWalk.add_mul_mod_injective hcop b (by omega) (by omega) heq

/-- The skip loop ends below `p` when its walk gets below `p` within the fuel. -/
theorem piSkip_lt_of_exists {p p1 a1 : Nat} (hp1 : 0 < p1) :
    ∀ fuel x1, x1 < p1 → (∃ k < fuel, (x1 + k * a1) % p1 < p) → piSkip p p1 a1 fuel x1 < p
  | 0, _, _, ⟨_, hk, _⟩ => absurd hk (Nat.not_lt_zero _)
  | fuel + 1, x1, hx1, ⟨k, hk, hkp⟩ => by
    rw [piSkip]
    split
    · next hge =>
      -- the start is at or past `p`, so the point below `p` is one further on
      obtain ⟨k, rfl⟩ : ∃ k', k = k' + 1 := by
        refine ⟨k - 1, (Nat.succ_pred_eq_of_pos (Nat.pos_of_ne_zero fun hk0 => ?_)).symm⟩
        rw [hk0, Nat.zero_mul, Nat.add_zero, Nat.mod_eq_of_lt hx1] at hkp
        omega
      refine piSkip_lt_of_exists hp1 fuel _ (Nat.mod_lt _ hp1) ⟨k, by omega, ?_⟩
      rwa [ModWalk.add_mod_add_mul_mod']
    · omega

/-- With `P1` prime and a step `0 < a1 < P1`, the skip loop of
`tuple_indices` ends within its `P1` passes: the walk reaches 0. -/
theorem piSkip_lt {p p1 a1 : Nat} (hprime : p1.Prime) (ha1 : 0 < a1) (ha1' : a1 < p1) (hp : 0 < p)
    {x1 : Nat} (hx1 : x1 < p1) : piSkip p p1 a1 p1 x1 < p := by
  have hcop : Nat.Coprime a1 p1 :=
    Nat.coprime_comm.mp ((Nat.Prime.coprime_iff_not_dvd hprime).mpr fun hdvd => by
      have := Nat.le_of_dvd ha1 hdvd
      omega)
  obtain ⟨k, hk, hk0⟩ := ModWalk.exists_add_mul_mod_eq hcop hprime.pos x1 hprime.pos
  exact piSkip_lt_of_exists hprime.pos p1 x1 hx1 ⟨k, hk, by omega⟩

/-- Every point of the PI walk is below `p`, once each skip ends below it. -/
theorem piWalk_lt {p p1 a1 : Nat} (hp1 : 0 < p1) (hskip : ∀ x1, x1 < p1 → piSkip p p1 a1 p1 x1 < p) :
    ∀ n x1, ∀ y ∈ piWalk p p1 a1 n x1, y < p
  | 0, _ => nofun
  | n + 1, x1 => by
    intro y hy
    rw [piWalk, List.mem_cons] at hy
    rcases hy with rfl | hy
    · exact hskip _ (Nat.mod_lt _ hp1)
    · exact piWalk_lt hp1 hskip n _ y hy

-- ============================================================ expansion

/-- The expansion of every encoding symbol is total and in range: the skip
loop ends below `P`, the expansion has `d + d1` indices, the first `d` in
`0..W` and distinct when `W` is prime, the rest in `W..W+P`; and
`repair_indices_for_esi` is that expansion, empty only when there is no
tuple. -/
theorem tuple_expansion_total_in_range (j w p : Nat) (x : UInt32) :
    (∀ p1 t, nextPrimeGe p = some p1 → tryTuple j w p p1 x = some t →
      (∀ x1, x1 < p1 → piSkip p p1 t.a1 p1 x1 < p) ∧
      (tupleIndices t w p p1).length = t.d + t.d1 ∧
      (∀ i ∈ (tupleIndices t w p p1).take t.d, i < w) ∧
      (∀ i ∈ (tupleIndices t w p p1).drop t.d, w ≤ i ∧ i < w + p) ∧
      (w.Prime → ((tupleIndices t w p p1).take t.d).Nodup) ∧
      repairIndicesForEsi j w p x = tupleIndices t w p p1 ∧ repairIndicesForEsi j w p x ≠ []) ∧
    ((∀ p1, nextPrimeGe p = some p1 → tryTuple j w p p1 x = none) → repairIndicesForEsi j w p x = []) := by
  refine ⟨fun p1 t hnext h => ?_, fun hnone => ?_⟩
  · obtain ⟨⟨hw, hp, -, hpp1, -⟩, ⟨hd1, -, hdw⟩, hd1', ⟨ha, ha', -⟩, ⟨ha1, ha1', hb1⟩⟩ := tryTuple_eq_some h
    -- `try_tuple` only succeeds for a `P1` below `2^32`
    have hp1max : p1 ≤ usizeMax := by
      unfold tryTuple at h
      rw [hnext] at h
      dsimp only at h
      split at h
      · next hgate => exact Nat.le_trans (Nat.le_of_lt hgate.2.2.2.2.2.2.2) (by decide)
      · nomatch h
    have hprime : p1.Prime := ((nextPrimeGe_spec (Nat.le_trans hpp1 hp1max)).1 p1 hnext).1
    have hskip : ∀ x1, x1 < p1 → piSkip p p1 t.a1 p1 x1 < p := fun _ hx1 => piSkip_lt hprime ha1 ha1' hp hx1
    have hd : t.d - 1 + 1 = t.d := by omega
    have hlt : (t.b % w :: ltWalk t.a w (t.d - 1) (t.b % w)).length = t.d := by
      rw [List.length_cons, length_ltWalk, hd]
    have hrepair : repairIndicesForEsi j w p x = tupleIndices t w p p1 := by
      unfold repairIndicesForEsi
      rw [hnext]
      dsimp only
      rw [h]
    have hlen : (tupleIndices t w p p1).length = t.d + t.d1 := by
      rw [tupleIndices_of_tryTuple h, List.length_append, hlt, List.length_cons, List.length_map, length_piWalk]
      omega
    refine ⟨hskip, hlen, ?_, ?_, ?_, hrepair, ?_⟩
    · -- the LT side is reduced modulo `W`
      intro i hi
      rw [tupleIndices_of_tryTuple h, List.take_left' hlt, ltSide_eq, List.mem_map] at hi
      obtain ⟨k, -, rfl⟩ := hi
      exact Nat.mod_lt _ (by omega)
    · -- the PI side is `W` past points below `P`
      intro i hi
      rw [tupleIndices_of_tryTuple h, List.drop_left' hlt, List.mem_cons, List.mem_map] at hi
      rcases hi with rfl | ⟨y, hy, rfl⟩
      · have := hskip (t.b1 % p1) (Nat.mod_lt _ (by omega))
        omega
      · have := piWalk_lt (by omega) hskip _ _ y hy
        omega
    · intro hwprime
      have hcop : Nat.Coprime t.a w :=
        Nat.coprime_comm.mp ((Nat.Prime.coprime_iff_not_dvd hwprime).mpr fun hdvd => by
          have := Nat.le_of_dvd ha hdvd
          omega)
      rw [tupleIndices_of_tryTuple h, List.take_left' hlt, ltSide_eq]
      exact nodup_walk hcop (by omega)
    · rw [hrepair, ← List.length_pos_iff_ne_nil, hlen]
      omega
  · -- no tuple: `repair_indices_for_esi` falls through to the empty list
    unfold repairIndicesForEsi
    cases hnext : nextPrimeGe p with
    | none => rfl
    | some p1 =>
      dsimp only
      rw [hnone p1 hnext]

theorem tuple_expansion_seventeen :
    nextPrimeGe 2 = some 2 ∧ tryTuple 0 17 2 2 3 = some ⟨2, 16, 3, 3, 1, 0⟩ ∧
    repairIndicesForEsi 0 17 2 3 = [3, 2, 17, 18, 17] ∧
    ((tupleIndices ⟨2, 16, 3, 3, 1, 0⟩ 17 2 2).take 2).Nodup := by
  have hnext : nextPrimeGe 2 = some 2 := by decide
  have htuple : tryTuple 0 17 2 2 3 = some ⟨2, 16, 3, 3, 1, 0⟩ := by decide
  have h := (tuple_expansion_total_in_range 0 17 2 3).1 2 ⟨2, 16, 3, 3, 1, 0⟩ hnext htuple
  refine ⟨hnext, htuple, ?_, h.2.2.2.2.1 (by decide)⟩
  rw [h.2.2.2.2.2.1]
  decide

/-- For a composite `W` the LT side can repeat an index: `W = 6` and the
step `a = 4` share the factor 2, and the walk `3, 1, 5, 3` comes back. -/
theorem tuple_lt_indices_repeat_composite :
    nextPrimeGe 1 = some 2 ∧ tryTuple 0 6 1 2 2 = some ⟨4, 4, 3, 2, 1, 1⟩ ∧
    repairIndicesForEsi 0 6 1 2 = [3, 1, 5, 3, 6, 6] ∧
    ¬((repairIndicesForEsi 0 6 1 2).take 4).Nodup := by
  decide

end Raptorq

end Asupersync
