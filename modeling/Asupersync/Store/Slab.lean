/-
A slab: a store that chooses the key of every value it takes, as the
`slab` crate's `Slab<T>` does.

# The interface

`Slab σ β` is a slab type `σ` holding values of `β`, with `empty`
(`Slab::with_capacity`), `insert` (the key chosen, and the new slab),
`get`, `remove` and `len`, together with the laws the crate documents:
`insert` takes a vacant key, `get` reads back a value until its key is
removed, `remove` vacates exactly its key, and `len` counts the values.
How the crate picks among vacant keys (a free list) is not promised, and
nothing here depends on it.

# A concrete slab

`vecSlab` keeps a list of optional values and fills the lowest vacant
slot. It satisfies the laws, so it can stand for the crate wherever a
computation needs a slab.

Nothing here names the modelled program.
-/
import Mathlib

/-- A slab of values of `β` on the type `σ`, with its documented laws. -/
structure Slab (σ β : Type) where
  empty : σ
  insert : σ → β → Nat × σ
  get : σ → Nat → Option β
  remove : σ → Nat → σ
  len : σ → Nat
  get_empty : ∀ k, get empty k = none
  insert_vacant : ∀ s v, get s (insert s v).1 = none
  get_insert : ∀ s v k, get (insert s v).2 k = if k = (insert s v).1 then some v else get s k
  get_remove : ∀ s k k', get (remove s k) k' = if k' = k then none else get s k'
  len_empty : len empty = 0
  len_insert : ∀ s v, len (insert s v).2 = len s + 1
  len_remove : ∀ s k, get s k ≠ none → len (remove s k) + 1 = len s
  get_of_len_eq_zero : ∀ s k, len s = 0 → get s k = none

namespace Slab

variable {σ β : Type} (S : Slab σ β)

/-- `Slab::is_empty`. -/
def isEmpty (s : σ) : Bool := S.len s == 0

theorem get_eq_none_of_isEmpty {s : σ} (h : S.isEmpty s = true) (k : Nat) : S.get s k = none :=
  S.get_of_len_eq_zero s k (by simpa [isEmpty] using h)

theorem isEmpty_eq_false_of_get {s : σ} {k : Nat} {v : β} (h : S.get s k = some v) :
    S.isEmpty s = false := by
  cases he : S.isEmpty s
  · rfl
  · rw [S.get_eq_none_of_isEmpty he k] at h
    cases h

/-- Another key keeps its value across an insert. -/
theorem get_insert_of_ne {s : σ} {v : β} {k : Nat} (hk : k ≠ (S.insert s v).1) :
    S.get (S.insert s v).2 k = S.get s k := by
  rw [S.get_insert, if_neg hk]

/-- A key that holds a value is not the one an insert takes. -/
theorem ne_insert_of_get {s : σ} {k : Nat} {w : β} (h : S.get s k = some w) (v : β) :
    k ≠ (S.insert s v).1 := by
  intro hk
  rw [hk, S.insert_vacant] at h
  cases h

theorem get_remove_of_ne {s : σ} {k k' : Nat} (hk : k' ≠ k) : S.get (S.remove s k) k' = S.get s k' := by
  rw [S.get_remove, if_neg hk]

end Slab

-- ========================================================= a concrete slab

namespace VecSlab

variable {β : Type}

/-- Fill the lowest vacant slot, else append. -/
def insert (s : List (Option β)) (v : β) : Nat × List (Option β) :=
  match s.findIdx? (·.isNone) with
  | some k => (k, s.set k (some v))
  | none => (s.length, s ++ [some v])

def get (s : List (Option β)) (k : Nat) : Option β := s[k]?.bind id

def remove (s : List (Option β)) (k : Nat) : List (Option β) := s.set k none

def len (s : List (Option β)) : Nat := s.countP (·.isSome)

theorem get_set (s : List (Option β)) (k k' : Nat) (x : Option β) (hk : k < s.length) :
    get (s.set k x) k' = if k' = k then x else get s k' := by
  unfold get
  rw [List.getElem?_set]
  by_cases h : k = k'
  · subst h
    simp [hk]
  · simp [h, Ne.symm h]

theorem insert_vacant (s : List (Option β)) (v : β) : get s (insert s v).1 = none := by
  unfold insert
  split
  · rename_i k hk
    obtain ⟨hlt, hnone, -⟩ := List.findIdx?_eq_some_iff_getElem.mp hk
    simp [get, List.getElem?_eq_getElem hlt, Option.isNone_iff_eq_none.mp hnone]
  · simp [get]

theorem get_insert (s : List (Option β)) (v : β) (k : Nat) :
    get (insert s v).2 k = if k = (insert s v).1 then some v else get s k := by
  unfold insert
  split
  · rename_i j hj
    exact get_set s j k (some v) (List.findIdx?_eq_some_iff_getElem.mp hj).1
  · -- appending: the new slot is the old length
    show get (s ++ [some v]) k = if k = s.length then some v else get s k
    unfold get
    by_cases hk : k = s.length
    · subst hk
      simp
    · rw [if_neg hk]
      rcases Nat.lt_or_gt_of_ne hk with hlt | hgt
      · rw [List.getElem?_append_left hlt]
      · have hpast : [some v][k - s.length]? = none := List.getElem?_eq_none (by simp; omega)
        rw [List.getElem?_append_right (Nat.le_of_lt hgt), List.getElem?_eq_none (Nat.le_of_lt hgt),
          hpast]

theorem get_remove (s : List (Option β)) (k k' : Nat) :
    get (remove s k) k' = if k' = k then none else get s k' := by
  by_cases hk : k < s.length
  · exact get_set s k k' none hk
  · -- out of range, `remove` does nothing and `get` finds nothing at `k`
    have hset : s.set k none = s := List.set_eq_of_length_le (Nat.le_of_not_lt hk)
    simp only [remove, hset]
    split
    · rename_i h
      subst h
      simp [get, List.getElem?_eq_none (Nat.le_of_not_lt hk)]
    · rfl

theorem len_insert (s : List (Option β)) (v : β) : len (insert s v).2 = len s + 1 := by
  unfold insert len
  split
  · rename_i k hk
    obtain ⟨hlt, hnone, -⟩ := List.findIdx?_eq_some_iff_getElem.mp hk
    rw [List.countP_set hlt]
    simp [Option.isNone_iff_eq_none.mp hnone]
  · simp

theorem len_remove (s : List (Option β)) (k : Nat) (h : get s k ≠ none) :
    len (remove s k) + 1 = len s := by
  have hlt : k < s.length := by
    by_contra hge
    exact h (by simp [get, List.getElem?_eq_none (Nat.le_of_not_lt hge)])
  have hsome : s[k].isSome = true := by
    have hget : get s k = s[k] := by simp [get, List.getElem?_eq_getElem hlt]
    rw [hget] at h
    exact Option.isSome_iff_ne_none.mpr h
  have hpos : 0 < s.countP (·.isSome) :=
    List.countP_pos_iff.mpr ⟨s[k], List.getElem_mem hlt, hsome⟩
  unfold len remove
  rw [List.countP_set hlt]
  simp [hsome]
  omega

theorem get_of_len_eq_zero (s : List (Option β)) (k : Nat) (h : len s = 0) : get s k = none := by
  unfold len at h
  rw [List.countP_eq_zero] at h
  cases hk : s[k]? with
  | none => simp [get, hk]
  | some x =>
      have hx := h x (List.mem_of_getElem? hk)
      cases x with
      | none => simp [get, hk]
      | some a => simp at hx

end VecSlab

/-- The lowest-vacant-slot slab. -/
def vecSlab (β : Type) : Slab (List (Option β)) β where
  empty := []
  insert := VecSlab.insert
  get := VecSlab.get
  remove := VecSlab.remove
  len := VecSlab.len
  get_empty := fun _ => rfl
  insert_vacant := VecSlab.insert_vacant
  get_insert := VecSlab.get_insert
  get_remove := VecSlab.get_remove
  len_empty := rfl
  len_insert := VecSlab.len_insert
  len_remove := VecSlab.len_remove
  get_of_len_eq_zero := VecSlab.get_of_len_eq_zero
