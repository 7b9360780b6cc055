/-
`ConstraintMatrix::solve` is exact Gauss-Jordan elimination on a square
system: it returns an answer exactly when the matrix is invertible, and
the answer then solves the system (`solve_exact`).

# The invariant

The working state is read as a pair of matrices over GF(256): `a` as an
`n × n` matrix (`SolveState.mat`) and the byte rows of `b` as an
`n × w` one (`bytesMat`). Every change `solve` makes to them is one of
the row operations of `Algebra/RowReduce.lean` (the swap, the scaling by
the pivot's inverse, `a[other] += factor * a[row]` with the same factor
on `b`), so the pair stays `RowEquiv` to the input.

`Inv` adds the bookkeeping: a row with a pivot column has 1 there and
every other row 0 in it, `used_row` marks exactly the rows with pivots,
and `used_col` only pivot columns. The elimination loop of one step
keeps its own invariant (`ElimInv`): the pivot row is untouched, and the
rows it has passed are cleared in the pivot column.

# Progress

A step that finds no pivot row `continue`s, which the invariant alone
does not explain: the search found no nonzero in an unused row and
column (`Exhausted`), and no later step changes that. `Progress n t`
says the first `t` rows are the used ones, or the search is exhausted.

# The answer

After `n` steps, either every column has a pivot, and then `a` is the
permutation matrix of the pivots, its transpose an inverse, and the
extracted rows a solution; or some column has none, and then a row
without a pivot is zero (an unused column because of `Exhausted`, a
used one because it is zero outside its pivot row), so the matrix is
singular.
-/
import Asupersync.Raptorq.ConstraintMatrix
import Asupersync.Proofs.Raptorq.Gf256Field
import Asupersync.Algebra.RowReduce
import Asupersync.Machine.Loop

namespace Asupersync

namespace Raptorq

open RowReduce

-- ================================================================ scans

/-- The scan keeps the first column it counts. -/
theorem scan_first (p : Nat → Bool) (xs : List Nat) (f0 : Option Nat) (d0 : Nat) :
    (xs.foldl (fun (firstCol, deg) c =>
        if p c then (if firstCol.isNone then some c else firstCol, deg + 1) else (firstCol, deg))
      (f0, d0)).1 = f0.or (xs.filter p).head? := by
  induction xs generalizing f0 d0 with
  | nil => cases f0 <;> rfl
  | cons c xs ih =>
    rw [List.foldl_cons, List.filter_cons]
    by_cases hc : p c
    · simp only [hc, if_true]
      rw [ih]
      cases f0 <;> rfl
    · simp only [hc, Bool.false_eq_true, if_false]
      exact ih f0 d0

theorem rowDegree_fst (st : SolveState) (cols r : Nat) :
    (rowDegree st cols r).1 =
      ((List.range cols).filter fun c => !st.usedCol c && !(st.a r c).isZero).head? :=
  (scan_first (fun c => !st.usedCol c && !(st.a r c).isZero) _ none 0).trans Option.none_or

theorem rowDegree_some {st : SolveState} {cols r c : Nat} (h : (rowDegree st cols r).1 = some c) :
    c < cols ∧ st.usedCol c = false ∧ st.a r c ≠ 0 := by
  rw [rowDegree_fst] at h
  have hmem := List.mem_of_mem_head? h
  simp only [List.mem_filter, List.mem_range, Bool.and_eq_true, Bool.not_eq_true'] at hmem
  obtain ⟨hc, hused, hzero⟩ := hmem
  exact ⟨hc, hused, fun h0 => by rw [Gf256.isZero_iff.mpr h0] at hzero; cases hzero⟩

theorem rowDegree_none {st : SolveState} {cols r : Nat} (h : (rowDegree st cols r).1 = none) :
    ∀ c < cols, st.usedCol c = false → st.a r c = 0 := by
  intro c hc hused
  rw [rowDegree_fst, List.head?_eq_none_iff, List.filter_eq_nil_iff] at h
  have := h c (List.mem_range.mpr hc)
  rw [hused, Bool.not_false, Bool.true_and, Bool.not_eq_true', Bool.not_eq_false] at this
  exact Gf256.isZero_iff.mp this

/-- The search returns the `best` it was given, or an unused row of its
list with a first column. -/
theorem findPivot_some {st : SolveState} {cols : Nat} {rs : List Nat}
    {best : Option (Nat × Nat × Nat)} {p : Nat × Nat × Nat}
    (h : findPivot st cols rs best = some p) :
    best = some p ∨ p.1 ∈ rs ∧ st.usedRow p.1 = false ∧ (rowDegree st cols p.1).1 = some p.2.1 := by
  induction rs generalizing best with
  | nil => exact .inl h
  | cons r rs ih =>
    -- what the rest of the list returns, as an answer for the whole list
    have hrest : ∀ {b}, findPivot st cols rs b = some p → b = some p ∨
        p.1 ∈ r :: rs ∧ st.usedRow p.1 = false ∧ (rowDegree st cols p.1).1 = some p.2.1 :=
      fun hb => (ih hb).imp_right fun ⟨hm, hr⟩ => ⟨List.mem_cons_of_mem r hm, hr⟩
    unfold findPivot at h
    by_cases hused : st.usedRow r = true
    · rw [if_pos hused] at h
      exact hrest h
    rw [if_neg hused] at h
    rcases hdeg : rowDegree st cols r with ⟨_ | fc, deg⟩
    · rw [hdeg] at h
      exact hrest h
    rw [hdeg] at h
    simp only at h
    have hself : some (r, fc, deg) = some p → p.1 ∈ r :: rs ∧ st.usedRow p.1 = false ∧
        (rowDegree st cols p.1).1 = some p.2.1 := by
      intro he
      cases he
      exact ⟨List.mem_cons_self, by simpa using hused, by rw [hdeg]⟩
    split_ifs at h with hbetter hone
    · exact .inr (hself h)
    · exact (hrest h).elim (fun he => .inr (hself he)) .inr
    · exact hrest h

/-- The search finds nothing only with no `best` and no unused row of
its list with a first column. -/
theorem findPivot_none {st : SolveState} {cols : Nat} {rs : List Nat}
    {best : Option (Nat × Nat × Nat)} (h : findPivot st cols rs best = none) :
    best = none ∧ ∀ r ∈ rs, st.usedRow r = false → (rowDegree st cols r).1 = none := by
  induction rs generalizing best with
  | nil => exact ⟨h, fun r hr => absurd hr List.not_mem_nil⟩
  | cons r rs ih =>
    unfold findPivot at h
    by_cases hused : st.usedRow r = true
    · rw [if_pos hused] at h
      obtain ⟨hb, hrs⟩ := ih h
      refine ⟨hb, fun r' hr' hfree => ?_⟩
      rcases List.mem_cons.mp hr' with rfl | hr'
      · rw [hused] at hfree
        cases hfree
      · exact hrs r' hr' hfree
    rw [if_neg hused] at h
    rcases hdeg : rowDegree st cols r with ⟨_ | fc, deg⟩
    · rw [hdeg] at h
      obtain ⟨hb, hrs⟩ := ih h
      refine ⟨hb, fun r' hr' hfree => ?_⟩
      rcases List.mem_cons.mp hr' with rfl | hr'
      · rw [hdeg]
      · exact hrs r' hr' hfree
    rw [hdeg] at h
    simp only at h
    -- a candidate ending the search is not `none`
    split_ifs at h with hbetter hone
    · exact absurd (ih h).1 (Option.some_ne_none _)
    · have hb := (ih h).1
      subst hb
      exact absurd rfl hbetter

/-- A pivot found over all rows: an unused row and an unused column with
a nonzero between them. -/
theorem findPivot_some_spec {st : SolveState} {rows cols p c d : Nat}
    (h : findPivot st cols (List.range rows) none = some (p, c, d)) :
    p < rows ∧ st.usedRow p = false ∧ c < cols ∧ st.usedCol c = false ∧ st.a p c ≠ 0 := by
  rcases findPivot_some h with h | ⟨hmem, hfree, hdeg⟩
  · cases h
  · obtain ⟨hc, hcol, hne⟩ := rowDegree_some hdeg
    exact ⟨List.mem_range.mp hmem, hfree, hc, hcol, hne⟩

/-- No pivot over all rows: every unused row is zero in every unused
column. -/
theorem findPivot_none_spec {st : SolveState} {rows cols : Nat}
    (h : findPivot st cols (List.range rows) none = none) :
    ∀ r < rows, st.usedRow r = false → ∀ c < cols, st.usedCol c = false → st.a r c = 0 :=
  fun r hr hfree => rowDegree_none ((findPivot_none h).2 r (List.mem_range.mpr hr) hfree)

-- ========================================================== as matrices

/-- The working coefficients, as an `n × n` matrix. -/
def SolveState.mat (st : SolveState) (n : Nat) : Matrix (Fin n) (Fin n) Gf256 :=
  fun i j => st.a i j

/-- Byte rows as a matrix over GF(256). -/
def bytesMat (rows : Nat → List UInt8) (n w : Nat) : Matrix (Fin n) (Fin w) Gf256 :=
  fun i j => ⟨(rows i)[j.val]!⟩

theorem swap_val {n : Nat} (i j r : Fin n) :
    (Equiv.swap i j r).val = Equiv.swap i.val j.val r.val := by
  rw [Equiv.swap_apply_def, Equiv.swap_apply_def]
  by_cases hi : r = i
  · rw [if_pos hi, if_pos (congrArg Fin.val hi)]
  · rw [if_neg hi, if_neg (fun h => hi (Fin.ext h))]
    by_cases hj : r = j
    · rw [if_pos hj, if_pos (congrArg Fin.val hj)]
    · rw [if_neg hj, if_neg (fun h => hj (Fin.ext h))]

theorem mat_swapRows (st : SolveState) {n : Nat} (i j : Fin n) :
    (st.swapRows i j).mat n = RowReduce.swapRows i j (st.mat n) := by
  funext r c
  rw [RowReduce.swapRows, Matrix.submatrix_apply]
  simp only [SolveState.mat, SolveState.swapRows, id, swap_val]

theorem bytesMat_swapRows (st : SolveState) {n w : Nat} (i j : Fin n) :
    bytesMat (st.swapRows i j).b n w = RowReduce.swapRows i j (bytesMat st.b n w) := by
  funext r j'
  rw [RowReduce.swapRows, Matrix.submatrix_apply]
  simp only [bytesMat, SolveState.swapRows, id, swap_val]

theorem mat_scalePivotRow (st : SolveState) {n : Nat} (t : Fin n) (inv : Gf256) :
    (scalePivotRow n t inv st).mat n = RowReduce.scaleRow t inv (st.mat n) := by
  funext r c
  rw [RowReduce.scaleRow, Matrix.updateRow_apply]
  by_cases hr : r = t
  · subst hr
    rw [if_pos rfl, Pi.smul_apply, smul_eq_mul]
    simp only [SolveState.mat, scalePivotRow, Function.update_self, if_pos c.isLt]
    exact mul_comm _ inv
  · rw [if_neg hr]
    simp only [SolveState.mat, scalePivotRow, Function.update_of_ne (fun h => hr (Fin.ext h))]

theorem getElem!_map_of_lt {l : List UInt8} {f : UInt8 → UInt8} {j : Nat} (h : j < l.length) :
    (l.map f)[j]! = f l[j]! := by
  rw [getElem!_pos (l.map f) j (by simpa using h), List.getElem_map, getElem!_pos l j h]

theorem bytesMat_scalePivotRow (st : SolveState) {n w : Nat} (t : Fin n) (inv : Gf256)
    (hw : (st.b t).length = w) :
    bytesMat (scalePivotRow n t inv st).b n w = RowReduce.scaleRow t inv (bytesMat st.b n w) := by
  funext r j
  rw [RowReduce.scaleRow, Matrix.updateRow_apply]
  by_cases hr : r = t
  · subst hr
    have hj : j.val < (st.b r).length := hw ▸ j.isLt
    rw [if_pos rfl, Pi.smul_apply, smul_eq_mul]
    simp only [bytesMat, scalePivotRow, Function.update_self, gf256MulSlice_eq]
    rw [getElem!_map_of_lt hj]
  · rw [if_neg hr]
    simp only [bytesMat, scalePivotRow, Function.update_of_ne (fun h => hr (Fin.ext h))]

-- ============================================================ placement

theorem swapRows_self (st : SolveState) (i : Nat) : st.swapRows i i = st := by
  cases st
  simp [SolveState.swapRows]

/-- Placing the pivot is one swap of the marked state, with or without
the source's `pivot_row != step` test. -/
theorem placePivot_eq (st : SolveState) (t p c : Nat) :
    placePivot st t p c =
      { ({ st with usedRow := Function.update st.usedRow p true } : SolveState).swapRows t p with
        usedCol := Function.update st.usedCol c true
        pivotCol := Function.update (fun r => st.pivotCol (Equiv.swap t p r)) t (some c) } := by
  unfold placePivot
  dsimp only
  by_cases h : p = t
  · subst h
    rw [if_neg (not_not.mpr rfl), swapRows_self]
    simp
  · rw [if_pos h]
    rfl

theorem placePivot_a (st : SolveState) (t p c : Nat) :
    (placePivot st t p c).a = (st.swapRows t p).a := by
  rw [placePivot_eq]
  rfl

theorem placePivot_b (st : SolveState) (t p c : Nat) :
    (placePivot st t p c).b = (st.swapRows t p).b := by
  rw [placePivot_eq]
  rfl

theorem placePivot_usedRow (st : SolveState) (t p c r : Nat) :
    (placePivot st t p c).usedRow r = if r = t then true else st.usedRow (Equiv.swap t p r) := by
  rw [placePivot_eq]
  show Function.update st.usedRow p true (Equiv.swap t p r) = _
  by_cases hr : r = t
  · rw [if_pos hr, hr, Equiv.swap_apply_left, Function.update_self]
  · have hne : Equiv.swap t p r ≠ p := by
      rw [Ne, Equiv.swap_apply_eq_iff, Equiv.swap_apply_right]
      exact hr
    rw [if_neg hr, Function.update_of_ne hne]

theorem placePivot_usedCol (st : SolveState) (t p c : Nat) :
    (placePivot st t p c).usedCol = Function.update st.usedCol c true := by
  rw [placePivot_eq]

theorem placePivot_pivotCol (st : SolveState) (t p c : Nat) :
    (placePivot st t p c).pivotCol =
      Function.update (fun r => st.pivotCol (Equiv.swap t p r)) t (some c) := by
  rw [placePivot_eq]

-- ========================================================== elimination

theorem mat_eliminate (st : SolveState) {n : Nat} (o t : Fin n) (f : Gf256) :
    ({ st with a := Function.update st.a o fun c =>
        if c < n then st.a o c + f * st.a t c else st.a o c } : SolveState).mat n =
      RowReduce.addRow o t f (st.mat n) := by
  funext r c
  rw [RowReduce.addRow, Matrix.updateRow_apply]
  by_cases hr : r = o
  · subst hr
    rw [if_pos rfl]
    simp only [SolveState.mat, Function.update_self, if_pos c.isLt, Pi.add_apply, Pi.smul_apply,
      smul_eq_mul]
  · rw [if_neg hr]
    simp only [SolveState.mat, Function.update_of_ne (fun h => hr (Fin.ext h))]

theorem getElem!_zipWith_of_lt {l₁ l₂ : List UInt8} {f : UInt8 → UInt8 → UInt8} {j : Nat}
    (h₁ : j < l₁.length) (h₂ : j < l₂.length) :
    (List.zipWith f l₁ l₂)[j]! = f l₁[j]! l₂[j]! := by
  rw [getElem!_pos (List.zipWith f l₁ l₂) j (by simp [h₁, h₂]), List.getElem_zipWith,
    getElem!_pos l₁ j h₁, getElem!_pos l₂ j h₂]

theorem bytesMat_eliminate (b : Nat → List UInt8) {n w : Nat} (o t : Fin n) (f : Gf256)
    (ho : (b o).length = w) (ht : (b t).length = w) :
    bytesMat (Function.update b o (List.zipWith (fun d s => d ^^^ (f * ⟨s⟩).raw) (b o) (b t))) n w =
      RowReduce.addRow o t f (bytesMat b n w) := by
  funext r j
  rw [RowReduce.addRow, Matrix.updateRow_apply]
  by_cases hr : r = o
  · subst hr
    have hjo : j.val < (b r).length := ho ▸ j.isLt
    have hjt : j.val < (b t).length := ht ▸ j.isLt
    rw [if_pos rfl]
    simp only [bytesMat, Function.update_self, Pi.add_apply, Pi.smul_apply, smul_eq_mul]
    rw [getElem!_zipWith_of_lt hjo hjt]
    rfl
  · rw [if_neg hr]
    simp only [bytesMat, Function.update_of_ne (fun h => hr (Fin.ext h))]

variable {n w : Nat} {A₀ : Matrix (Fin n) (Fin n) Gf256} {B₀ : Matrix (Fin n) (Fin w) Gf256}

/-- The elimination loop of the pivot `(t, c)` after `k` passes from the
scaled state `st₀`: still row-equivalent, the pivot row and the columns
where it is zero as they were, rows below `k` clear in column `c`, and
the bookkeeping untouched. -/
structure ElimInv (n w : Nat) (A₀ : Matrix (Fin n) (Fin n) Gf256)
    (B₀ : Matrix (Fin n) (Fin w) Gf256) (st₀ : SolveState) (t c k : Nat) (st : SolveState) :
    Prop where
  equiv : RowEquiv A₀ B₀ (st.mat n) (bytesMat st.b n w)
  width : ∀ r < n, (st.b r).length = w
  pivotRow : st.a t = st₀.a t
  frame : ∀ r c', r ≠ t → st₀.a t c' = 0 → st.a r c' = st₀.a r c'
  cleared : ∀ r < k, r ≠ t → st.a r c = 0
  pivotCol : st.pivotCol = st₀.pivotCol
  usedCol : st.usedCol = st₀.usedCol
  usedRow : st.usedRow = st₀.usedRow

/-- One pass of the elimination loop: row `k` gets `factor` times the
pivot row, which clears its column-`c` entry (`factor + factor * 1 = 0`)
and changes nothing where the pivot row is zero. -/
theorem ElimInv.step {st₀ st : SolveState} {t c k : Nat} (h : ElimInv n w A₀ B₀ st₀ t c k st)
    (hk : k < n) (ht : t < n) (hc : c < n) (hone : st₀.a t c = 1) :
    ∃ st', eliminate n t c st k = some st' ∧ ElimInv n w A₀ B₀ st₀ t c (k + 1) st' := by
  unfold eliminate
  by_cases hkt : k = t
  · rw [if_pos hkt]
    exact ⟨st, rfl, { h with cleared := fun r hr hrt => h.cleared r (by omega) hrt }⟩
  rw [if_neg hkt]
  dsimp only
  by_cases hf : (st.a k c).isZero = true
  · rw [if_pos hf]
    refine ⟨st, rfl, { h with cleared := fun r hr hrt => ?_ }⟩
    rcases Nat.lt_succ_iff_lt_or_eq.mp hr with hr | rfl
    · exact h.cleared r hr hrt
    · exact Gf256.isZero_iff.mp hf
  rw [if_neg hf]
  have hwk := h.width k hk
  have hwt := h.width t ht
  have hpiv : st.a t c = 1 := by rw [h.pivotRow]; exact hone
  rw [gf256AddmulSlice_eq (hwk.trans hwt.symm)]
  refine ⟨_, rfl, ⟨?_, ?_, ?_, ?_, ?_, h.pivotCol, h.usedCol, h.usedRow⟩⟩
  · have hequiv := h.equiv.addRow (i := ⟨k, hk⟩) (j := ⟨t, ht⟩)
      (fun e => hkt (congrArg Fin.val e)) (st.a k c)
    rw [← mat_eliminate, ← bytesMat_eliminate st.b ⟨k, hk⟩ ⟨t, ht⟩ _ hwk hwt] at hequiv
    exact hequiv
  · intro r hr
    dsimp only
    by_cases hrk : r = k
    · subst hrk
      rw [Function.update_self, List.length_zipWith, hwk, hwt, Nat.min_self]
    · rw [Function.update_of_ne hrk]
      exact h.width r hr
  · dsimp only
    rw [Function.update_of_ne (Ne.symm hkt)]
    exact h.pivotRow
  · intro r c' hrt hzero
    dsimp only
    by_cases hrk : r = k
    · subst hrk
      have hrow : st.a t c' = 0 := by rw [h.pivotRow]; exact hzero
      rw [Function.update_self, hrow, mul_zero, add_zero, ite_self]
      exact h.frame r c' hrt hzero
    · rw [Function.update_of_ne hrk]
      exact h.frame r c' hrt hzero
  · intro r hr hrt
    dsimp only
    by_cases hrk : r = k
    · subst hrk
      rw [Function.update_self, if_pos hc, hpiv, mul_one, Gf256.add_self']
    · rw [Function.update_of_ne hrk]
      exact h.cleared r (by omega) hrt

/-- The whole elimination loop returns, with every other row clear in
the pivot column. -/
theorem eliminate_loop {st₀ : SolveState} {t c : Nat}
    (hequiv : RowEquiv A₀ B₀ (st₀.mat n) (bytesMat st₀.b n w)) (hw : ∀ r < n, (st₀.b r).length = w)
    (ht : t < n) (hc : c < n) (hone : st₀.a t c = 1) :
    ∃ st, (List.range n).foldlM (eliminate n t c) st₀ = some st ∧
      ElimInv n w A₀ B₀ st₀ t c n st :=
  Machine.foldlM_range_induction _ (fun k st => ElimInv n w A₀ B₀ st₀ t c k st)
    ⟨hequiv, hw, rfl, fun _ _ _ _ => rfl, fun _ hr => absurd hr (Nat.not_lt_zero _), rfl, rfl, rfl⟩
    fun _ _ hk h => h.step hk ht hc hone

-- ============================================================== the step

/-- The solver's invariant on an `n × n` system with right sides of
width `w`: row-equivalent to the input, and a row with a pivot column
has 1 there and every other row 0; `used_row` marks the rows with
pivots, `used_col` their columns. -/
structure Inv (n w : Nat) (A₀ : Matrix (Fin n) (Fin n) Gf256) (B₀ : Matrix (Fin n) (Fin w) Gf256)
    (st : SolveState) : Prop where
  equiv : RowEquiv A₀ B₀ (st.mat n) (bytesMat st.b n w)
  width : ∀ r < n, (st.b r).length = w
  pivot : ∀ r < n, ∀ c, st.pivotCol r = some c →
    c < n ∧ st.usedCol c = true ∧ ∀ r' < n, st.a r' c = if r' = r then 1 else 0
  usedRow : ∀ r < n, st.usedRow r = (st.pivotCol r).isSome
  usedCol : ∀ c < n, st.usedCol c = true → ∃ r < n, st.pivotCol r = some c

/-- No unused row has a nonzero in an unused column. -/
def Exhausted (n : Nat) (st : SolveState) : Prop :=
  ∀ r < n, st.usedRow r = false → ∀ c < n, st.usedCol c = false → st.a r c = 0

/-- After `t` steps: the used rows are the first `t`, or the search is
exhausted. -/
def Progress (n t : Nat) (st : SolveState) : Prop :=
  (∀ r < n, st.usedRow r = decide (r < t)) ∨ Exhausted n st

theorem mat_congr {st st' : SolveState} (h : st.a = st'.a) (n : Nat) : st.mat n = st'.mat n := by
  unfold SolveState.mat
  rw [h]

theorem swap_lt {t p r n : Nat} (ht : t < n) (hp : p < n) (hr : r < n) : Equiv.swap t p r < n := by
  rw [Equiv.swap_apply_def]
  split_ifs <;> assumption

/-- The chosen row swapped into place and scaled: row-equivalent, and the
pivot is 1. -/
theorem Inv.scaled {st : SolveState} {t p c : Nat} {inv : Gf256} (h : Inv n w A₀ B₀ st)
    (ht : t < n) (hp : p < n) (hc : c < n) (hinv : st.a p c * inv = 1) (hinv0 : inv ≠ 0) :
    RowEquiv A₀ B₀ ((scalePivotRow n t inv (placePivot st t p c)).mat n)
        (bytesMat (scalePivotRow n t inv (placePivot st t p c)).b n w) ∧
      (∀ r < n, ((scalePivotRow n t inv (placePivot st t p c)).b r).length = w) ∧
      (scalePivotRow n t inv (placePivot st t p c)).a t c = 1 := by
  have hwidth : ∀ r < n, ((placePivot st t p c).b r).length = w := fun r hr => by
    rw [placePivot_b]
    exact h.width _ (swap_lt ht hp hr)
  refine ⟨?_, fun r hr => ?_, ?_⟩
  · rw [mat_scalePivotRow _ ⟨t, ht⟩, bytesMat_scalePivotRow _ ⟨t, ht⟩ _ (hwidth t ht),
      mat_congr (placePivot_a st t p c), placePivot_b, mat_swapRows _ ⟨t, ht⟩ ⟨p, hp⟩,
      bytesMat_swapRows _ ⟨t, ht⟩ ⟨p, hp⟩]
    exact (h.equiv.swapRows _ _).scaleRow _ hinv0
  · by_cases hrt : r = t
    · subst hrt
      simp only [scalePivotRow, Function.update_self, gf256MulSlice_eq, List.length_map]
      exact hwidth r hr
    · simp only [scalePivotRow, Function.update_of_ne hrt]
      exact hwidth r hr
  · simp only [scalePivotRow, Function.update_self, if_pos hc, placePivot_a,
      SolveState.swapRows, Equiv.swap_apply_left]
    exact hinv

/-- After the elimination loop of the pivot `(t, c)`, the invariant holds
again with row `t` the pivot of column `c`. Every earlier pivot column
is zero in the chosen row, so the loop leaves it alone. -/
theorem Inv.afterPivot {st st₅ : SolveState} {t p c : Nat} {inv : Gf256} (h : Inv n w A₀ B₀ st)
    (ht : t < n) (hp : p < n) (hfree : st.usedRow p = false) (hc : c < n)
    (he : ElimInv n w A₀ B₀ (scalePivotRow n t inv (placePivot st t p c)) t c n st₅)
    (hone : (scalePivotRow n t inv (placePivot st t p c)).a t c = 1) :
    Inv n w A₀ B₀ st₅ := by
  have hnone : st.pivotCol p = none := by
    have hisSome := h.usedRow p hp
    rw [hfree] at hisSome
    exact Option.not_isSome_iff_eq_none.mp (by rw [← hisSome]; decide)
  have hpc : st₅.pivotCol = Function.update (fun r => st.pivotCol (Equiv.swap t p r)) t (some c) :=
    he.pivotCol.trans (placePivot_pivotCol st t p c)
  have huc : st₅.usedCol = Function.update st.usedCol c true :=
    he.usedCol.trans (placePivot_usedCol st t p c)
  -- rows other than `t` are the swapped rows of `st`, unscaled
  have hrow : ∀ r, r ≠ t →
      (scalePivotRow n t inv (placePivot st t p c)).a r = st.a (Equiv.swap t p r) := fun r hr => by
    simp only [scalePivotRow, Function.update_of_ne hr, placePivot_a, SolveState.swapRows]
  refine ⟨he.equiv, he.width, ?_, ?_, ?_⟩
  · intro r hr c' hrc
    rw [hpc] at hrc
    by_cases hrt : r = t
    · -- the new pivot
      subst hrt
      rw [Function.update_self, Option.some.injEq] at hrc
      subst hrc
      refine ⟨hc, by rw [huc, Function.update_self], fun r' hr' => ?_⟩
      by_cases hr't : r' = r
      · rw [if_pos hr't, hr't, he.pivotRow]
        exact hone
      · rw [if_neg hr't]
        exact he.cleared r' hr' hr't
    · -- an earlier pivot, moved by the swap
      rw [Function.update_of_ne hrt] at hrc
      obtain ⟨hc', hused', hcol'⟩ := h.pivot _ (swap_lt ht hp hr) c' hrc
      have hσp : Equiv.swap t p r ≠ p := by
        rw [Ne, Equiv.swap_apply_eq_iff, Equiv.swap_apply_right]
        exact hrt
      have hzero : (scalePivotRow n t inv (placePivot st t p c)).a t c' = 0 := by
        simp only [scalePivotRow, Function.update_self, if_pos hc', placePivot_a,
          SolveState.swapRows, Equiv.swap_apply_left]
        rw [hcol' p hp, if_neg (Ne.symm hσp), zero_mul]
      refine ⟨hc', ?_, fun r' hr' => ?_⟩
      · rw [huc]
        by_cases hcc : c' = c
        · rw [hcc, Function.update_self]
        · rw [Function.update_of_ne hcc]
          exact hused'
      · by_cases hr't : r' = t
        · rw [hr't, he.pivotRow, hzero, if_neg (Ne.symm hrt)]
        · rw [he.frame r' c' hr't hzero, hrow r' hr't, hcol' _ (swap_lt ht hp hr')]
          simp only [(Equiv.swap t p).injective.eq_iff]
  · intro r hr
    rw [he.usedRow]
    show (placePivot st t p c).usedRow r = _
    rw [placePivot_usedRow, hpc]
    by_cases hrt : r = t
    · rw [if_pos hrt, hrt, Function.update_self]
      rfl
    · rw [if_neg hrt, Function.update_of_ne hrt]
      exact h.usedRow _ (swap_lt ht hp hr)
  · intro c' hc' hused
    rw [huc] at hused
    by_cases hcc : c' = c
    · exact ⟨t, ht, by rw [hpc, hcc, Function.update_self]⟩
    · rw [Function.update_of_ne hcc] at hused
      obtain ⟨r₀, hr₀, hpr₀⟩ := h.usedCol c' hc' hused
      have hr₀p : r₀ ≠ p := fun e => by
        rw [e, hnone] at hpr₀
        cases hpr₀
      have hσ : Equiv.swap t p r₀ ≠ t := by
        rw [Ne, Equiv.swap_apply_eq_iff, Equiv.swap_apply_left]
        exact hr₀p
      refine ⟨Equiv.swap t p r₀, swap_lt ht hp hr₀, ?_⟩
      rw [hpc, Function.update_of_ne hσ, Equiv.swap_apply_self]
      exact hpr₀

/-- With the first `t` rows used, the chosen row is at or past `t`, and
after the swap the used rows are the first `t + 1`. -/
theorem progress_afterPivot {st st₅ : SolveState} {t p c : Nat} {inv : Gf256}
    (hused : ∀ r < n, st.usedRow r = decide (r < t)) (ht : t < n) (hp : p < n)
    (hfree : st.usedRow p = false)
    (he : ElimInv n w A₀ B₀ (scalePivotRow n t inv (placePivot st t p c)) t c n st₅) :
    Progress n (t + 1) st₅ := by
  have htp : t ≤ p := by
    have hp' := hused p hp
    rw [hfree] at hp'
    simpa using hp'.symm
  refine .inl fun r hr => ?_
  rw [he.usedRow]
  show (placePivot st t p c).usedRow r = _
  rw [placePivot_usedRow]
  by_cases hrt : r = t
  · rw [if_pos hrt, hrt]
    simp
  · rw [if_neg hrt]
    by_cases hrp : r = p
    · rw [hrp, Equiv.swap_apply_right, hused t ht, decide_eq_decide]
      omega
    · rw [Equiv.swap_apply_of_ne_of_ne hrt hrp, hused r hr, decide_eq_decide]
      omega

/-- One step of the forward loop returns and keeps the invariant, and
the used rows stay the first ones until the search is exhausted. -/
theorem solveStep_spec {st : SolveState} {t : Nat} (h : Inv n w A₀ B₀ st)
    (hprog : Progress n t st) (ht : t < n) :
    ∃ st', solveStep n n st t = some st' ∧ Inv n w A₀ B₀ st' ∧ Progress n (t + 1) st' := by
  unfold solveStep
  rcases hfind : findPivot st n (List.range n) none with _ | ⟨p, c, d⟩
  · exact ⟨st, rfl, h, .inr (findPivot_none_spec hfind)⟩
  obtain ⟨hp, hfree, hc, hcol, hne⟩ := findPivot_some_spec hfind
  -- an exhausted search finds nothing, so the first `t` rows are the used ones
  have hused : ∀ r < n, st.usedRow r = decide (r < t) :=
    hprog.resolve_right fun hex => hne (hex p hp hfree c hc hcol)
  have hpiv : (placePivot st t p c).a t c = st.a p c := by
    simp only [placePivot_a, SolveState.swapRows, Equiv.swap_apply_left]
  obtain ⟨inv, hinv, hmul, hinv0⟩ := Gf256.inv_spec (hpiv ▸ hne)
  rw [hpiv] at hmul
  obtain ⟨hequiv, hwidth, hone⟩ := h.scaled ht hp hc hmul hinv0
  obtain ⟨st₅, hloop, he⟩ := eliminate_loop hequiv hwidth ht hc hone
  refine ⟨st₅, ?_, h.afterPivot ht hp hfree hc he hone, progress_afterPivot hused ht hp hfree he⟩
  dsimp only
  rw [hinv]
  exact hloop

/-- The forward loop returns, with the invariant and the progress of all
`n` steps. -/
theorem solveLoop_spec {st₀ : SolveState} (h0 : Inv n w A₀ B₀ st₀) (hp0 : Progress n 0 st₀) :
    ∃ st, (List.range n).foldlM (solveStep n n) st₀ = some st ∧ Inv n w A₀ B₀ st ∧
      Progress n n st :=
  let ⟨st, hrun, hinv, hprog⟩ := Machine.foldlM_range_induction _
    (fun t st => Inv n w A₀ B₀ st ∧ Progress n t st) ⟨h0, hp0⟩
    fun _ _ ht ⟨hinv, hprog⟩ => solveStep_spec hinv hprog ht
  ⟨st, hrun, hinv, hprog⟩

-- ============================================================ the answer

/-- Two rows cannot share a pivot column: it is 1 in one and 0 in the
other. -/
theorem Inv.pivot_inj {st : SolveState} (h : Inv n w A₀ B₀ st) {r₁ r₂ c : Nat} (hr₁ : r₁ < n)
    (hr₂ : r₂ < n) (h₁ : st.pivotCol r₁ = some c) (h₂ : st.pivotCol r₂ = some c) : r₁ = r₂ := by
  by_contra hne
  have hone := (h.pivot r₂ hr₂ c h₂).2.2 r₂ hr₂
  have hzero := (h.pivot r₁ hr₁ c h₁).2.2 r₂ hr₂
  rw [if_pos rfl] at hone
  rw [if_neg (Ne.symm hne), hone] at hzero
  exact one_ne_zero hzero

/-- If every column has a pivot row, so does every row: `n` columns with
distinct pivot rows use all `n` rows. -/
theorem rows_of_cols {st : SolveState}
    (hcols : ∀ c < n, ∃ r < n, st.pivotCol r = some c) : ∀ r < n, ∃ c, st.pivotCol r = some c := by
  choose g hg hpg using hcols
  have hinj : Function.Injective fun c : Fin n => (⟨g c c.isLt, hg c c.isLt⟩ : Fin n) := by
    intro c₁ c₂ he
    have h₁ := hpg c₁ c₁.isLt
    rw [show g c₁ c₁.isLt = g c₂ c₂.isLt from congrArg Fin.val he, hpg c₂ c₂.isLt] at h₁
    exact Fin.ext (Option.some.inj h₁).symm
  intro r hr
  obtain ⟨c, hc⟩ := Finite.injective_iff_surjective.mp hinj ⟨r, hr⟩
  refine ⟨c, ?_⟩
  rw [← show g c c.isLt = r from congrArg Fin.val hc]
  exact hpg c c.isLt

/-- If every row has a pivot column, every column is some row's pivot. -/
theorem Inv.cols_of_rows {st : SolveState} (h : Inv n w A₀ B₀ st)
    (hrows : ∀ r < n, ∃ c, st.pivotCol r = some c) : ∀ c < n, ∃ r < n, st.pivotCol r = some c := by
  choose σ hσ using hrows
  have hinj : Function.Injective fun r : Fin n =>
      (⟨σ r r.isLt, (h.pivot r r.isLt _ (hσ r r.isLt)).1⟩ : Fin n) := by
    intro r₁ r₂ he
    have h₂ := hσ r₂ r₂.isLt
    rw [← show σ r₁ r₁.isLt = σ r₂ r₂.isLt from congrArg Fin.val he] at h₂
    exact Fin.ext (h.pivot_inj r₁.isLt r₂.isLt (hσ r₁ r₁.isLt) h₂)
  intro c hc
  obtain ⟨r, hr⟩ := Finite.injective_iff_surjective.mp hinj ⟨c, hc⟩
  refine ⟨r, r.isLt, ?_⟩
  rw [← show σ r r.isLt = c from congrArg Fin.val hr]
  exact hσ r r.isLt

theorem getElem!_set_of_lt {α : Type} [Inhabited α] {l : List α} {i j : Nat} (a : α)
    (hj : j < l.length) : (l.set i a)[j]! = if i = j then a else l[j]! := by
  rw [getElem!_pos (l.set i a) j (by simpa using hj), List.getElem_set, getElem!_pos l j hj]

/-- `col_has_pivot[c]` is set exactly for the pivot columns. -/
theorem colHasPivot_spec (st : SolveState) (n : Nat) :
    ((List.range n).foldl (ConstraintMatrix.solve.markPivot n st) (List.replicate n false)).length
      = n ∧
    ∀ c < n,
      ((List.range n).foldl (ConstraintMatrix.solve.markPivot n st) (List.replicate n false))[c]!
        = true ↔ ∃ r < n, st.pivotCol r = some c := by
  refine Machine.foldl_range_induction _ (fun k (has : List Bool) => has.length = n ∧
    ∀ c < n, has[c]! = true ↔ ∃ r < k, st.pivotCol r = some c) ⟨by simp, ?_⟩ ?_
  · intro c hc
    rw [getElem!_pos _ c (by simpa using hc), List.getElem_replicate]
    simp
  · rintro k has - ⟨hlen, hhas⟩
    -- row `k` adds its pivot column, if it has one below `n`
    have hstep : ∀ c < n, (∃ r < k + 1, st.pivotCol r = some c) ↔
        (∃ r < k, st.pivotCol r = some c) ∨ st.pivotCol k = some c := fun c _ =>
      ⟨fun ⟨r, hr, hrc⟩ => (Nat.lt_succ_iff_lt_or_eq.mp hr).elim (fun hr => .inl ⟨r, hr, hrc⟩)
          fun e => .inr (e ▸ hrc),
        fun h => h.elim (fun ⟨r, hr, hrc⟩ => ⟨r, by omega, hrc⟩) fun hk => ⟨k, by omega, hk⟩⟩
    unfold ConstraintMatrix.solve.markPivot
    rcases hk : st.pivotCol k with _ | col
    · refine ⟨hlen, fun c hc => ?_⟩
      rw [hhas c hc, hstep c hc, hk]
      simp
    · dsimp only
      by_cases hcol : col < n
      · refine ⟨by simp only [if_pos hcol, List.length_set, hlen], fun c hc => ?_⟩
        rw [if_pos hcol, getElem!_set_of_lt _ (by rw [hlen]; exact hc), hstep c hc, hk]
        by_cases hcc : col = c
        · simp [hcc]
        · rw [if_neg hcc, hhas c hc]
          simp [hcc]
      · refine ⟨by simp only [if_neg hcol, hlen], fun c hc => ?_⟩
        rw [if_neg hcol, hhas c hc, hstep c hc, hk]
        have hcc : col ≠ c := fun e => hcol (e ▸ hc)
        simp [hcc]

theorem any_not_eq_false_iff {l : List Bool} :
    l.any (! ·) = false ↔ ∀ c < l.length, l[c]! = true := by
  rw [List.any_eq_false]
  constructor
  · intro h c hc
    rw [getElem!_pos l c hc]
    simpa using h _ (List.getElem_mem hc)
  · intro h x hx
    obtain ⟨c, hc, rfl⟩ := List.mem_iff_getElem.mp hx
    simpa [← getElem!_pos l c hc] using h c hc

/-- The answer gives each pivot column the right side of its row. -/
theorem Inv.result_spec {st : SolveState} (h : Inv n w A₀ B₀ st) (res₀ : List (List UInt8))
    (hres₀ : res₀.length = n) :
    ((List.range n).foldl (ConstraintMatrix.solve.extractRow n st) res₀).length = n ∧
    ∀ r < n, ∀ c, st.pivotCol r = some c →
      ((List.range n).foldl (ConstraintMatrix.solve.extractRow n st) res₀)[c]! = st.b r := by
  refine Machine.foldl_range_induction _ (fun k (res : List (List UInt8)) => res.length = n ∧
    ∀ r < k, ∀ c, st.pivotCol r = some c → res[c]! = st.b r)
    ⟨hres₀, fun _ hr => absurd hr (Nat.not_lt_zero _)⟩ ?_
  rintro k res hk ⟨hlen, hres⟩
  unfold ConstraintMatrix.solve.extractRow
  rcases hpk : st.pivotCol k with _ | col
  · refine ⟨hlen, fun r hr c hrc => ?_⟩
    rcases Nat.lt_succ_iff_lt_or_eq.mp hr with hr | rfl
    · exact hres r hr c hrc
    · rw [hpk] at hrc
      cases hrc
  · have hcol := (h.pivot k hk col hpk).1
    simp only [if_pos hcol]
    refine ⟨by rw [List.length_set, hlen], fun r hr c hrc => ?_⟩
    have hc := (h.pivot r (by omega) c hrc).1
    rw [getElem!_set_of_lt _ (by rw [hlen]; exact hc)]
    rcases Nat.lt_succ_iff_lt_or_eq.mp hr with hr | rfl
    · -- an earlier row's column is not `col`: the pivots are distinct
      have hcc : col ≠ c := fun e => by
        subst e
        exact absurd (h.pivot_inj (by omega) hk hrc hpk) (by omega)
      rw [if_neg hcc]
      exact hres r hr c hrc
    · rw [hpk] at hrc
      rw [if_pos (Option.some.inj hrc)]

/-- With every column pivoted, the reduced matrix is made of the unit
rows of a permutation, row `r` the one of its pivot column. -/
theorem Inv.unitRows {st : SolveState} (h : Inv n w A₀ B₀ st)
    (hall : ∀ c < n, ∃ r < n, st.pivotCol r = some c) :
    ∃ σ : Fin n → Fin n, Function.Injective σ ∧ UnitRows (st.mat n) σ ∧
      ∀ r : Fin n, st.pivotCol r = some (σ r) := by
  choose σ hσ using rows_of_cols hall
  have hσn : ∀ r : Fin n, σ r r.isLt < n := fun r => (h.pivot r r.isLt _ (hσ r r.isLt)).1
  refine ⟨fun r => ⟨σ r r.isLt, hσn r⟩, fun r₁ r₂ he => ?_, fun r c => ?_, fun r => hσ r r.isLt⟩
  · have h₂ := hσ r₂ r₂.isLt
    rw [← show σ r₁ r₁.isLt = σ r₂ r₂.isLt from congrArg Fin.val he] at h₂
    exact Fin.ext (h.pivot_inj r₁.isLt r₂.isLt (hσ r₁ r₁.isLt) h₂)
  · -- column `c` is the pivot of one row `r'`, and row `r` has its 1 there iff `r = r'`
    obtain ⟨r', hr', hrc⟩ := hall c c.isLt
    have hiff : (r : Nat) = r' ↔ (⟨σ r r.isLt, hσn r⟩ : Fin n) = c := by
      constructor
      · rintro rfl
        rw [hσ r r.isLt] at hrc
        exact Fin.ext (Option.some.inj hrc)
      · intro he
        have hr := hσ r r.isLt
        rw [show σ r r.isLt = c from congrArg Fin.val he] at hr
        exact h.pivot_inj r.isLt hr' hr hrc
    show st.a r c = _
    rw [(h.pivot r' hr' c hrc).2.2 r r.isLt]
    exact if_congr hiff rfl rfl

/-- With every column pivoted, the input matrix is invertible. -/
theorem Inv.isUnit_det {st : SolveState} (h : Inv n w A₀ B₀ st)
    (hall : ∀ c < n, ∃ r < n, st.pivotCol r = some c) : IsUnit A₀.det := by
  obtain ⟨σ, hσ, hunit, -⟩ := h.unitRows hall
  exact h.equiv.isUnit_det (hunit.mul_transpose hσ)

/-- With every column pivoted, an answer that gives each pivot column the
right side of its row solves the input system. -/
theorem Inv.solves {st : SolveState} (h : Inv n w A₀ B₀ st)
    (hall : ∀ c < n, ∃ r < n, st.pivotCol r = some c) {res : List (List UInt8)}
    (hres : ∀ r < n, ∀ c, st.pivotCol r = some c → res[c]! = st.b r) :
    A₀ * bytesMat (fun c => res[c]!) n w = B₀ := by
  obtain ⟨σ, -, hunit, hpiv⟩ := h.unitRows hall
  refine h.equiv.solves ?_
  funext r j
  rw [hunit.mul_apply]
  show (⟨(res[(σ r).val]!)[j.val]!⟩ : Gf256) = ⟨(st.b r)[j.val]!⟩
  rw [hres r r.isLt _ (hpiv r)]

/-- A column left without a pivot after all `n` steps: the input matrix
is singular. The search found no nonzero in an unused row and column, and
every used column is zero outside its pivot row, so a row without a pivot
is zero. -/
theorem Inv.det_eq_zero {st : SolveState} (h : Inv n w A₀ B₀ st) (hprog : Progress n n st)
    (hmiss : ¬ ∀ c < n, ∃ r < n, st.pivotCol r = some c) : A₀.det = 0 := by
  have hrow : ∃ r < n, st.pivotCol r = none := by
    by_contra hno
    exact hmiss (h.cols_of_rows fun r hr => Option.ne_none_iff_exists'.mp fun he => hno ⟨r, hr, he⟩)
  obtain ⟨r₀, hr₀, hnone⟩ := hrow
  have hfree : st.usedRow r₀ = false := by
    rw [h.usedRow r₀ hr₀, hnone]
    rfl
  have hex : Exhausted n st := hprog.resolve_left fun hall => by
    rw [hall r₀ hr₀, decide_eq_false_iff_not] at hfree
    exact hfree hr₀
  refine h.equiv.det_eq_zero (r := ⟨r₀, hr₀⟩) fun c => ?_
  show st.a r₀ c = 0
  cases hc : st.usedCol c
  · exact hex r₀ hr₀ hfree c c.isLt hc
  · obtain ⟨r, hr, hrc⟩ := h.usedCol c c.isLt hc
    rw [(h.pivot r hr c hrc).2.2 r₀ hr₀, if_neg]
    rintro rfl
    rw [hnone] at hrc
    cases hrc

/-- The state `solve` starts from: nothing used, nothing pivoted. -/
theorem init_spec (st : SolveState) (hb : ∀ r < n, (st.b r).length = w)
    (hpiv : ∀ r, st.pivotCol r = none) (hcol : ∀ c, st.usedCol c = false)
    (hrow : ∀ r, st.usedRow r = false) :
    Inv n w (st.mat n) (bytesMat st.b n w) st ∧ Progress n 0 st := by
  refine ⟨⟨RowEquiv.refl _ _, hb, fun r _ c hc => ?_, fun r _ => ?_, fun c _ hc => ?_⟩,
    .inl fun r _ => ?_⟩
  · rw [hpiv r] at hc
    cases hc
  · rw [hrow r, hpiv r]
    rfl
  · rw [hcol c] at hc
    cases hc
  · rw [hrow r]
    simp

-- ============================================================== solve

/-- The coefficients of a constraint matrix, read as an `n × n` matrix. -/
def ConstraintMatrix.square (m : ConstraintMatrix) (n : Nat) : Matrix (Fin n) (Fin n) Gf256 :=
  fun i j => m.get i j

theorem solve_exact (m : ConstraintMatrix) (rhs : List (List UInt8)) {n w : Nat}
    (hrows : m.rows = n) (hcols : m.cols = n) (hlen : rhs.length = n)
    (hw : ∀ row ∈ rhs, row.length = w) :
    ∃ res, m.solve rhs = some res ∧ (res.isSome ↔ IsUnit (m.square n).det) ∧
      ∀ x, res = some x → x.length = n ∧ (∀ xc ∈ x, xc.length = w) ∧
        ∀ r < n, ∀ j < w, ∑ c : Fin n, m.get r c * ⟨(x[c.val]!)[j]!⟩ = ⟨(rhs[r]!)[j]!⟩ := by
  have hb : ∀ r < n, (rhs[r]!).length = w := fun r hr => by
    rw [getElem!_pos rhs r (by omega)]
    exact hw _ (List.getElem_mem _)
  obtain ⟨h0, hp0⟩ := init_spec ⟨m.get, fun r => rhs[r]!, fun _ => none, fun _ => false,
    fun _ => false⟩ hb (fun _ => rfl) (fun _ => rfl) (fun _ => rfl)
  obtain ⟨st, hrun, h, hprog⟩ := solveLoop_spec h0 hp0
  unfold ConstraintMatrix.solve
  rw [if_neg (by omega)]
  simp only [hrows, hcols, Nat.min_self, hrun, Option.bind_eq_bind, Option.bind_some,
    Option.pure_def]
  obtain ⟨hclen, hcl⟩ := colHasPivot_spec st n
  by_cases hall : ∀ c < n, ∃ r < n, st.pivotCol r = some c
  · -- every column pivoted: the answer is the right sides, reordered
    have hany := any_not_eq_false_iff.mpr fun c hc =>
      (hcl c (hclen ▸ hc)).mpr (hall c (hclen ▸ hc))
    rw [hany, if_neg Bool.false_ne_true]
    obtain ⟨hrlen, hres⟩ := h.result_spec _ (List.length_replicate ..)
    refine ⟨_, rfl, ?_, fun x hx => ?_⟩
    · exact iff_of_true rfl (h.isUnit_det hall)
    · rw [← Option.some.inj hx]
      refine ⟨hrlen, fun xc hxc => ?_, fun r hr j hj => ?_⟩
      · obtain ⟨c, hc, rfl⟩ := List.mem_iff_getElem.mp hxc
        obtain ⟨r, hr, hrc⟩ := hall c (hrlen ▸ hc)
        rw [← getElem!_pos _ c hc, hres r hr c hrc]
        exact h.width r hr
      · have hsol := congrFun (congrFun (h.solves hall hres) ⟨r, hr⟩) ⟨j, hj⟩
        rw [Matrix.mul_apply] at hsol
        exact hsol
  · -- a column without a pivot: `None`, and the matrix is singular
    have hany : ((List.range n).foldl (ConstraintMatrix.solve.markPivot n st)
        (List.replicate n false)).any (! ·) = true := by
      rw [← Bool.not_eq_false]
      intro hnone
      exact hall fun c hc => (hcl c hc).mp (any_not_eq_false_iff.mp hnone c (by rw [hclen]; exact hc))
    rw [if_pos hany]
    refine ⟨none, rfl, ?_, fun _ hx => nomatch hx⟩
    rw [Option.isSome_none, Bool.false_eq_true, false_iff]
    intro hunit
    exact not_isUnit_zero (h.det_eq_zero hprog hall ▸ hunit)

theorem solve_exact_unit_triangle :
    ∃ res, (⟨[1, 1, 0, 1], 2, 2, rfl⟩ : ConstraintMatrix).solve [[5], [6]] = some res ∧
      (res.isSome ↔ IsUnit ((⟨[1, 1, 0, 1], 2, 2, rfl⟩ : ConstraintMatrix).square 2).det) :=
  let ⟨res, hres, hiff, _⟩ :=
    solve_exact ⟨[1, 1, 0, 1], 2, 2, rfl⟩ [[5], [6]] (w := 1) rfl rfl rfl (by decide)
  ⟨res, hres, hiff⟩

end Raptorq

end Asupersync
