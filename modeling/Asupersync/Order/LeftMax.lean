/-
The maximum by a key that keeps its left argument on ties: `b` replaces
`a` only when `b`'s key is strictly greater. It is the selection every
"keep the best so far, replace it only on a strict improvement" update
makes, whatever the key is.

# The rules

- `leftMax_eq_or`: the pick is one of the two arguments;
- `map_leftMax`, `key_leftMax`: the pick's key, and any quantity the key
  orders, is the larger of the two;
- `leftMax_assoc`: the selection is associative (it is not commutative:
  on a tie the left argument stays);
- `isFirstMax_foldl`: a left fold from `a` over `l` picks the first
  element of `a :: l` whose key is the greatest.

Nothing here names the modelled program.
-/
import Mathlib

namespace LeftMax

variable {α κ : Type} [LinearOrder κ] (key : α → κ)

/-- Keep `a` unless `b`'s key is strictly greater. -/
def leftMax (a b : α) : α := if key a < key b then b else a

variable {key}

theorem leftMax_of_lt {a b : α} (h : key a < key b) : leftMax key a b = b := if_pos h

theorem leftMax_of_le {a b : α} (h : key b ≤ key a) : leftMax key a b = a :=
  if_neg (not_lt.mpr h)

variable (key)

theorem leftMax_eq_or (a b : α) : leftMax key a b = a ∨ leftMax key a b = b := by
  rcases lt_or_ge (key a) (key b) with h | h
  · exact .inr (leftMax_of_lt h)
  · exact .inl (leftMax_of_le h)

/-- A quantity that is monotone in the key is the larger of the two at
the pick. Equal keys give equal values, so the tie-break cannot matter. -/
theorem map_leftMax {β : Type} [LinearOrder β] (f : α → β)
    (hf : ∀ a b, key a ≤ key b → f a ≤ f b) (a b : α) :
    f (leftMax key a b) = max (f a) (f b) := by
  rcases lt_or_ge (key a) (key b) with h | h
  · rw [leftMax_of_lt h, max_eq_right (hf a b h.le)]
  · rw [leftMax_of_le h, max_eq_left (hf b a h)]

theorem key_leftMax (a b : α) : key (leftMax key a b) = max (key a) (key b) :=
  map_leftMax key key (fun _ _ h => h) a b

theorem leftMax_self (a : α) : leftMax key a a = a := leftMax_of_le le_rfl

theorem leftMax_assoc (a b c : α) :
    leftMax key (leftMax key a b) c = leftMax key a (leftMax key b c) := by
  rcases lt_or_ge (key a) (key b) with hab | hba
  · -- `b` beats `a`, and so does whatever survives `b`'s comparison with `c`
    have hbc : key a < key (leftMax key b c) := by
      rw [key_leftMax key b c]
      exact lt_of_lt_of_le hab (le_max_left _ _)
    rw [leftMax_of_lt hab, leftMax_of_lt hbc]
  · rcases lt_or_ge (key b) (key c) with hbc | hcb
    · rw [leftMax_of_le hba, leftMax_of_lt hbc]
    · rw [leftMax_of_le hba, leftMax_of_le hcb, leftMax_of_le hba, leftMax_of_le (hcb.trans hba)]

instance : Std.Associative (leftMax key) := ⟨leftMax_assoc key⟩

/-- Folding from `a` over `b :: l₂` after `l₁` is meeting the two folds:
the sequence may be split anywhere. -/
theorem foldl_append_cons (a b : α) (l₁ l₂ : List α) :
    (l₁ ++ b :: l₂).foldl (leftMax key) a =
      leftMax key (l₁.foldl (leftMax key) a) (l₂.foldl (leftMax key) b) := by
  rw [List.foldl_append, List.foldl_cons, List.foldl_assoc]

-- ======================================================= the first maximum

/-- `r` is the first element of `l` whose key is the greatest: it splits
`l` into a part before it, all strictly smaller, and a part after it,
none greater. -/
def IsFirstMax (l : List α) (r : α) : Prop :=
  ∃ pre post, l = pre ++ r :: post ∧ (∀ x ∈ pre, key x < key r) ∧ ∀ x ∈ post, key x ≤ key r

theorem IsFirstMax.le {l : List α} {r : α} (h : IsFirstMax key l r) {x : α} (hx : x ∈ l) :
    key x ≤ key r := by
  obtain ⟨pre, post, rfl, hpre, hpost⟩ := h
  rcases List.mem_append.mp hx with hx | hx
  · exact (hpre x hx).le
  · rcases List.mem_cons.mp hx with rfl | hx
    · exact le_rfl
    · exact hpost x hx

theorem isFirstMax_singleton (a : α) : IsFirstMax key [a] a :=
  ⟨[], [], rfl, by simp, by simp⟩

/-- One more element at the end: it is the new first maximum exactly when
its key beats the old one. -/
theorem IsFirstMax.snoc {l : List α} {r : α} (h : IsFirstMax key l r) (x : α) :
    IsFirstMax key (l ++ [x]) (leftMax key r x) := by
  rcases lt_or_ge (key r) (key x) with hlt | hge
  · rw [leftMax_of_lt hlt]
    exact ⟨l, [], rfl, fun y hy => lt_of_le_of_lt (h.le key hy) hlt, by simp⟩
  · rw [leftMax_of_le hge]
    obtain ⟨pre, post, rfl, hpre, hpost⟩ := h
    refine ⟨pre, post ++ [x], by simp, hpre, ?_⟩
    intro y hy
    rcases List.mem_append.mp hy with hy | hy
    · exact hpost y hy
    · rw [List.mem_singleton.mp hy]
      exact hge

/-- A left fold picks the first element of greatest key. The induction
adds the list's elements at the end, as the fold meets them. -/
theorem isFirstMax_foldl (a : α) (l : List α) : IsFirstMax key (a :: l) (l.foldl (leftMax key) a) := by
  induction l using List.reverseRecOn with
  | nil => exact isFirstMax_singleton key a
  | append_singleton l x ih =>
      rw [List.foldl_append, List.foldl_cons, List.foldl_nil, ← List.cons_append]
      exact ih.snoc key x

end LeftMax
