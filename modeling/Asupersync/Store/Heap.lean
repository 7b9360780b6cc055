/-
A max-heap as its interface promises (`std::collections::BinaryHeap`):
`push` adds an item, `peek` shows the greatest item under the items'
ordering, and `pop` removes it.

# The model

The items are a list in push order; `peekIdx` scans it for the greatest
item under `cmp`, keeping the first among equals, and `pop` erases that
position. The heap's internal layout is not modelled: which of several
equal items comes out first is the one thing it could change, and every
ordering used here breaks ties down to the item's identity.

# The rules

- `peek_eq_none`: an empty heap shows nothing;
- `mem_of_peek`: what `peek` shows is in the heap;
- `mem_pop`: an item that is not the one shown survives `pop`;
- `mem_push`: `push` keeps every item and adds one.

Nothing here names the modelled program.
-/
import Mathlib

namespace MaxHeap

variable {α : Type} (cmp : α → α → Ordering)

/-- One step of the scan: keep the greater of the best so far and the next item. -/
def better (best : Option (Nat × α)) (next : α × Nat) : Option (Nat × α) :=
  match best with
  | none => some (next.2, next.1)
  | some (j, y) => if cmp next.1 y = .gt then some (next.2, next.1) else some (j, y)

/-- The position and value of the greatest item, the first among equals. -/
def peekIdx (h : List α) : Option (Nat × α) := h.zipIdx.foldl (better cmp) none

/-- `BinaryHeap::peek`. -/
def peek (h : List α) : Option α := (peekIdx cmp h).map (·.2)

/-- `BinaryHeap::pop`, without its result. -/
def pop (h : List α) : List α :=
  match peekIdx cmp h with
  | some (i, _) => h.eraseIdx i
  | none => h

/-- `BinaryHeap::push`. -/
def push (h : List α) (x : α) : List α := h ++ [x]

/-- What every scanned item satisfies, the scan's pick satisfies. -/
theorem foldl_better_inv (Q : Nat → α → Prop) (l : List (α × Nat)) (best : Option (Nat × α))
    (hl : ∀ p ∈ l, Q p.2 p.1) (hbest : ∀ i x, best = some (i, x) → Q i x) :
    ∀ i x, l.foldl (better cmp) best = some (i, x) → Q i x := by
  induction l generalizing best with
  | nil => simpa using hbest
  | cons y l ih =>
      rw [List.foldl_cons]
      apply ih _ (fun p hp => hl p (List.mem_cons_of_mem _ hp))
      intro i x hix
      unfold better at hix
      split at hix
      · cases hix
        exact hl y List.mem_cons_self
      · split at hix
        · cases hix
          exact hl y List.mem_cons_self
        · exact hbest i x hix

/-- The scan never comes back empty-handed once it saw an item. -/
theorem foldl_better_isSome (l : List (α × Nat)) (best : Option (Nat × α))
    (h : best.isSome ∨ l ≠ []) : (l.foldl (better cmp) best).isSome := by
  induction l generalizing best with
  | nil => simpa using h
  | cons y l ih =>
      rw [List.foldl_cons]
      apply ih _
      left
      unfold better
      split
      · rfl
      · split <;> rfl

/-- The position `peekIdx` finds holds the value it reports. -/
theorem getElem?_of_peekIdx {h : List α} {i : Nat} {x : α} (hp : peekIdx cmp h = some (i, x)) :
    h[i]? = some x := by
  refine foldl_better_inv cmp (fun i x => h[i]? = some x) h.zipIdx none ?_ (by simp) i x hp
  intro p hmem
  exact List.mem_zipIdx_iff_getElem?.mp hmem

theorem peek_eq_none {h : List α} : peek cmp h = none ↔ h = [] := by
  constructor
  · intro hp
    by_contra hne
    have := foldl_better_isSome cmp h.zipIdx none
      (Or.inr (by simpa [List.zipIdx_eq_nil_iff] using hne))
    simp [peek, peekIdx, Option.map_eq_none_iff] at hp
    rw [hp] at this
    cases this
  · rintro rfl
    rfl

theorem mem_of_peek {h : List α} {x : α} (hp : peek cmp h = some x) : x ∈ h := by
  obtain ⟨⟨i, y⟩, hi, rfl⟩ := Option.map_eq_some_iff.mp hp
  exact List.mem_of_getElem? (getElem?_of_peekIdx cmp hi)

/-- An item other than the one shown survives `pop`. -/
theorem mem_pop {h : List α} {y : α} (hy : y ∈ h) (hne : peek cmp h ≠ some y) : y ∈ pop cmp h := by
  unfold pop
  split
  · rename_i i x hi
    obtain ⟨j, hj, rfl⟩ := List.getElem_of_mem hy
    have hx := getElem?_of_peekIdx cmp hi
    -- `y` sits at `j`, and `j` is not the erased position
    have hji : j ≠ i := by
      rintro rfl
      apply hne
      simp only [peek, hi, Option.map_some]
      rw [List.getElem?_eq_getElem hj] at hx
      exact congrArg some (Option.some.inj hx).symm
    exact List.mem_eraseIdx_iff_getElem.mpr ⟨j, hj, hji, rfl⟩
  · exact hy

theorem mem_push {h : List α} {x y : α} : y ∈ push h x ↔ y ∈ h ∨ y = x := by
  simp [push]

end MaxHeap
