/-
The dense solver of the systematic encoder (`raptorq/systematic.rs`):
`ConstraintMatrix::solve`, Gauss-Jordan elimination over GF(256) of a
matrix and a block of right-hand-side rows.

# The model

A `ConstraintMatrix` keeps its coefficients row-major, and its one
constructor allocates exactly `rows * cols` of them; the structure
carries that length. `solve` copies them into a working matrix `a`,
read here as a function of (row, column): `a[r * cols + c]` is `a r c`,
and a loop over the `cols` cells of one row is one update of that row.
The right-hand sides `b` stay byte rows, changed by the bulk kernels of
`Gf256.lean`. `pivot_col`'s `usize::MAX` is `none`.

Each of the `min(rows, cols)` steps (`solveStep`) picks the unused row
with the fewest nonzero unused columns (`findPivot`, which stops at the
first of degree one), swaps it into place with its bookkeeping, scales
it by the pivot's inverse and clears the pivot column from every other
row (`eliminate`). A step that finds no row `continue`s. After the loop
every column must have a pivot; the answer gives column `c` the right
side of the row whose pivot is `c`.

`solve` returns `Option (Option _)`: the outer `none` is a panic (the
`assert_eq!` on the number of right sides, `inv` of zero, or a length
mismatch in `gf256_addmul_slice`), the inner one the singular answer.
-/
import Asupersync.Raptorq.Gf256
import Mathlib

namespace Asupersync

namespace Raptorq

/-- `ConstraintMatrix`: `rows × cols` coefficients, row-major. -/
structure ConstraintMatrix where
  data : List Gf256
  rows : Nat
  cols : Nat
  data_length : data.length = rows * cols

/-- `get`. -/
def ConstraintMatrix.get (m : ConstraintMatrix) (row col : Nat) : Gf256 :=
  m.data[row * m.cols + col]!

/-- `solve`'s working state: the coefficients `a`, the right sides `b`,
and `pivot_col`, `used_col`, `used_row`. -/
structure SolveState where
  a : Nat → Nat → Gf256
  b : Nat → List UInt8
  pivotCol : Nat → Option Nat
  usedCol : Nat → Bool
  usedRow : Nat → Bool

namespace SolveState

/-- Rows `i` and `j` exchanged, with their right sides, `pivot_col` and
`used_row`. -/
def swapRows (st : SolveState) (i j : Nat) : SolveState :=
  { st with
    a := fun r => st.a (Equiv.swap i j r)
    b := fun r => st.b (Equiv.swap i j r)
    pivotCol := fun r => st.pivotCol (Equiv.swap i j r)
    usedRow := fun r => st.usedRow (Equiv.swap i j r) }

end SolveState

/-- The `for c in 0..cols` scan of row `r`: its first nonzero unused
column, and how many it has. -/
def rowDegree (st : SolveState) (cols r : Nat) : Option Nat × Nat :=
  (List.range cols).foldl
    (fun (firstCol, deg) c =>
      if !st.usedCol c && !(st.a r c).isZero then
        (if firstCol.isNone then some c else firstCol, deg + 1)
      else (firstCol, deg))
    (none, 0)

/-- The `for r in 0..rows` search for `(row, col, degree)`: an unused
row of least degree, the first of degree one ending the search. -/
def findPivot (st : SolveState) (cols : Nat) :
    List Nat → Option (Nat × Nat × Nat) → Option (Nat × Nat × Nat)
  | [], best => best
  | r :: rs, best =>
    if st.usedRow r then findPivot st cols rs best
    else
      match rowDegree st cols r with
      | (some fc, deg) =>
        if best.all fun b => deg < b.2.2 then
          if deg = 1 then some (r, fc, deg) else findPivot st cols rs (some (r, fc, deg))
        else findPivot st cols rs best
      | (none, _) => findPivot st cols rs best

/-- One pass of the elimination loop: `a[other] += factor * a[row]` and
`b[other] += factor * b[row]`, skipped for the pivot row and a zero
factor. -/
def eliminate (cols row col : Nat) (st : SolveState) (other : Nat) : Option SolveState :=
  if other = row then some st
  else
    let factor := st.a other col
    if factor.isZero then some st
    else do
      let rhs ← gf256AddmulSlice (st.b other) (st.b row) factor
      some { st with
        a := Function.update st.a other fun c =>
          if c < cols then st.a other c + factor * st.a row c else st.a other c
        b := Function.update st.b other rhs }

/-- The chosen row marked used, swapped into position `step` with its
bookkeeping, and given its pivot column. -/
def placePivot (st : SolveState) (step pivotRow col : Nat) : SolveState :=
  let st := { st with usedRow := Function.update st.usedRow pivotRow true }
  let st := if pivotRow ≠ step then st.swapRows step pivotRow else st
  { st with
    usedCol := Function.update st.usedCol col true
    pivotCol := Function.update st.pivotCol step (some col) }

/-- `a[row] *= inv` over the `cols` cells, and `b[row] *= inv`. -/
def scalePivotRow (cols row : Nat) (inv : Gf256) (st : SolveState) : SolveState :=
  { st with
    a := Function.update st.a row fun c => if c < cols then st.a row c * inv else st.a row c
    b := Function.update st.b row (gf256MulSlice (st.b row) inv) }

/-- One `step` of the forward loop. -/
def solveStep (rows cols : Nat) (st : SolveState) (step : Nat) : Option SolveState :=
  match findPivot st cols (List.range rows) none with
  | none => some st
  | some (pivotRow, col, _) =>
    let st := placePivot st step pivotRow col
    do
      let inv ← (st.a step col).inv
      (List.range rows).foldlM (eliminate cols step col) (scalePivotRow cols step inv st)

/-- `ConstraintMatrix::solve`. -/
def ConstraintMatrix.solve (m : ConstraintMatrix) (rhs : List (List UInt8)) :
    Option (Option (List (List UInt8))) :=
  if rhs.length ≠ m.rows then none
  else
    let symbolSize := match rhs with
      | [] => 0
      | r :: _ => r.length
    let n := m.cols
    let st : SolveState :=
      { a := m.get
        b := fun r => rhs[r]!
        pivotCol := fun _ => none
        usedCol := fun _ => false
        usedRow := fun _ => false }
    do
      let st ← (List.range (min m.rows n)).foldlM (solveStep m.rows m.cols) st
      let colHasPivot := (List.range m.rows).foldl (markPivot n st) (List.replicate n false)
      if colHasPivot.any (! ·) then return none
      let result := (List.range m.rows).foldl (extractRow n st)
        (List.replicate n (List.replicate symbolSize 0))
      return some result
where
  /-- One pass of the `col_has_pivot` loop: row `r`'s pivot column, if
  below `n`, is marked. -/
  markPivot (n : Nat) (st : SolveState) (has : List Bool) (r : Nat) : List Bool :=
    match st.pivotCol r with
    | some col => if col < n then has.set col true else has
    | none => has
  /-- One pass of the extraction loop: `result[col] = b[r]` for row `r`'s
  pivot column `col`, if below `n`. -/
  extractRow (n : Nat) (st : SolveState) (res : List (List UInt8)) (r : Nat) :
      List (List UInt8) :=
    match st.pivotCol r with
    | some col => if col < n then res.set col (st.b r) else res
    | none => res

end Raptorq

end Asupersync
