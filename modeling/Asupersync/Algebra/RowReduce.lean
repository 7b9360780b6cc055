/-
Row reduction over a field, as bookkeeping: a matrix and a block of
right sides that the same invertible row operations change together,
and what such a pair says about the system it started from.

# Row equivalence

`RowEquiv A₀ B₀ A B` says `(A, B) = (E * A₀, E * B₀)` for a left factor
`E` with a unit determinant. The three elementary operations (exchange
two rows, scale one by a nonzero, add a multiple of one row to another)
are such factors (`swapRows_eq_mul`, `scaleRow_eq_mul`,
`addRow_eq_mul`), so applied to both sides they keep the relation.

# Reading off the answer

A zero row in `A` makes `A₀` singular; a right inverse of `A` makes it
invertible; a solution of `A * X = B` solves `A₀ * X = B₀`. A matrix
whose rows are distinct unit vectors (`UnitRows`) picks rows of what it
multiplies, and its transpose is its inverse.

Nothing here names the modelled program.
-/
import Mathlib

namespace RowReduce

open Matrix

variable {K : Type} [Field K] {m n p : Type} [Fintype m] [DecidableEq m]

-- ===================================================== row equivalence

/-- `(A, B)` is `(A₀, B₀)` under one invertible left factor. -/
def RowEquiv (A₀ : Matrix m n K) (B₀ : Matrix m p K) (A : Matrix m n K) (B : Matrix m p K) :
    Prop :=
  ∃ E : Matrix m m K, IsUnit E.det ∧ A = E * A₀ ∧ B = E * B₀

variable {A₀ A : Matrix m n K} {B₀ B : Matrix m p K}

theorem RowEquiv.refl (A₀ : Matrix m n K) (B₀ : Matrix m p K) : RowEquiv A₀ B₀ A₀ B₀ :=
  ⟨1, by simp, (Matrix.one_mul A₀).symm, (Matrix.one_mul B₀).symm⟩

theorem RowEquiv.mul_left (h : RowEquiv A₀ B₀ A B) {O : Matrix m m K} (hO : IsUnit O.det) :
    RowEquiv A₀ B₀ (O * A) (O * B) := by
  obtain ⟨E, hE, rfl, rfl⟩ := h
  refine ⟨O * E, ?_, (Matrix.mul_assoc O E A₀).symm, (Matrix.mul_assoc O E B₀).symm⟩
  rw [Matrix.det_mul]
  exact hO.mul hE

-- ================================================= elementary operations

/-- Exchange rows `i` and `j`. -/
def swapRows (i j : m) (M : Matrix m p K) : Matrix m p K := M.submatrix (Equiv.swap i j) id

/-- Scale row `i` by `c`. -/
def scaleRow (i : m) (c : K) (M : Matrix m p K) : Matrix m p K := M.updateRow i (c • M i)

/-- Add `c` times row `j` to row `i`. -/
def addRow (i j : m) (c : K) (M : Matrix m p K) : Matrix m p K := M.updateRow i (M i + c • M j)

theorem swapRows_eq_mul (i j : m) (M : Matrix m p K) :
    swapRows i j M = (Equiv.swap i j).toPEquiv.toMatrix * M :=
  (PEquiv.toMatrix_toPEquiv_mul (Equiv.swap i j) M).symm

theorem isUnit_det_swap (i j : m) :
    IsUnit ((Equiv.swap i j).toPEquiv.toMatrix : Matrix m m K).det := by
  rw [← Equiv.Perm.permMatrix, det_permutation]
  exact (Equiv.Perm.sign (Equiv.swap i j)).isUnit.map (Int.castRingHom K)

theorem scaleRow_eq_mul (i : m) (c : K) (M : Matrix m p K) :
    scaleRow i c M = diagonal (Function.update 1 i c) * M := by
  ext r j
  rw [diagonal_mul, scaleRow, updateRow_apply]
  by_cases hr : r = i
  · rw [if_pos hr, hr, Function.update_self, Pi.smul_apply, smul_eq_mul]
  · rw [if_neg hr, Function.update_of_ne hr, Pi.one_apply, one_mul]

theorem isUnit_det_scale (i : m) {c : K} (hc : c ≠ 0) :
    IsUnit (diagonal (Function.update (1 : m → K) i c)).det := by
  rw [det_diagonal, Finset.prod_update_of_mem (Finset.mem_univ i)]
  simpa using hc

theorem addRow_eq_mul (i j : m) (c : K) (M : Matrix m p K) :
    addRow i j c M = transvection i j c * M := by
  ext r b
  rw [addRow, updateRow_apply]
  by_cases hr : r = i
  · rw [if_pos hr, hr, transvection_mul_apply_same, Pi.add_apply, Pi.smul_apply, smul_eq_mul]
  · rw [if_neg hr, transvection_mul_apply_of_ne i j r b hr]

theorem RowEquiv.swapRows (h : RowEquiv A₀ B₀ A B) (i j : m) :
    RowEquiv A₀ B₀ (swapRows i j A) (swapRows i j B) := by
  rw [swapRows_eq_mul, swapRows_eq_mul]
  exact h.mul_left (isUnit_det_swap i j)

theorem RowEquiv.scaleRow (h : RowEquiv A₀ B₀ A B) (i : m) {c : K} (hc : c ≠ 0) :
    RowEquiv A₀ B₀ (scaleRow i c A) (scaleRow i c B) := by
  rw [scaleRow_eq_mul, scaleRow_eq_mul]
  exact h.mul_left (isUnit_det_scale i hc)

theorem RowEquiv.addRow (h : RowEquiv A₀ B₀ A B) {i j : m} (hij : i ≠ j) (c : K) :
    RowEquiv A₀ B₀ (addRow i j c A) (addRow i j c B) := by
  rw [addRow_eq_mul, addRow_eq_mul]
  refine h.mul_left ?_
  rw [det_transvection_of_ne i j hij]
  exact isUnit_one

-- ================================================== reading the answer

section Square

variable {A₀ A : Matrix m m K}

/-- A zero row left by the operations: the system was singular. -/
theorem RowEquiv.det_eq_zero (h : RowEquiv A₀ B₀ A B) {r : m} (hr : ∀ j, A r j = 0) :
    A₀.det = 0 := by
  obtain ⟨E, hE, rfl, -⟩ := h
  have hzero := det_eq_zero_of_row_eq_zero r hr
  rw [det_mul] at hzero
  exact (mul_eq_zero.mp hzero).resolve_left hE.ne_zero

/-- A right inverse of the reduced matrix: the system was invertible. -/
theorem RowEquiv.isUnit_det (h : RowEquiv A₀ B₀ A B) {X : Matrix m m K} (hX : A * X = 1) :
    IsUnit A₀.det := by
  obtain ⟨E, -, rfl, -⟩ := h
  have hdet := congrArg det hX
  rw [det_mul, det_mul, det_one] at hdet
  refine isUnit_iff_ne_zero.mpr fun h0 => ?_
  rw [h0, mul_zero, zero_mul] at hdet
  exact zero_ne_one hdet

end Square

/-- A solution of the reduced system solves the original one. -/
theorem RowEquiv.solves [Fintype n] (h : RowEquiv A₀ B₀ A B) {X : Matrix n p K}
    (hX : A * X = B) :
    A₀ * X = B₀ := by
  obtain ⟨E, hE, rfl, rfl⟩ := h
  calc A₀ * X = E⁻¹ * (E * A₀ * X) := by
        rw [← Matrix.mul_assoc, ← Matrix.mul_assoc, nonsing_inv_mul E hE, Matrix.one_mul]
    _ = B₀ := by
        rw [hX, ← Matrix.mul_assoc, nonsing_inv_mul E hE, Matrix.one_mul]

-- ============================================================ unit rows

/-- Row `r` of `A` is the unit vector at `σ r`. -/
def UnitRows [DecidableEq n] (A : Matrix m n K) (σ : m → n) : Prop := ∀ r c, A r c = if σ r = c then 1 else 0

omit [Fintype m] [DecidableEq m] in
theorem UnitRows.mul_apply [Fintype n] [DecidableEq n] {A : Matrix m n K} {σ : m → n}
    (hA : UnitRows A σ) (X : Matrix n p K) (r : m) (j : p) : (A * X) r j = X (σ r) j := by
  rw [Matrix.mul_apply]
  simp [hA r]

omit [Fintype m] in
/-- Distinct unit rows: the transpose is a right inverse. -/
theorem UnitRows.mul_transpose [Fintype n] [DecidableEq n] {A : Matrix m n K} {σ : m → n}
    (hA : UnitRows A σ) (hσ : Function.Injective σ) : A * Aᵀ = 1 := by
  ext r r'
  rw [hA.mul_apply, transpose_apply, hA r', one_apply]
  by_cases hrr : r = r'
  · simp [hrr]
  · rw [if_neg (fun h => hrr (hσ h).symm), if_neg hrr]

end RowReduce
