/-
A table of live handles: records named by a numeric key, handed out from
a counter and dropped by key.

# The invariant

`FreshKeys key xs next` says that the keys of `xs` are distinct and all
below `next`, the key the table hands out next. Handing out a record under
`next` and bumping the counter keeps it (`append`); dropping records keeps
it (`filter`); so does a bigger counter (`mono`).

# Dropping by key

With distinct keys, dropping the key that a lookup found removes exactly
one record (`length_filter_key_ne`): a count kept beside the table, such as
the number of live reservations, then falls by one with it; a sum over the
records falls by that record's part (`sum_filter_key_ne`).

Nothing here names the modelled program.
-/
import Mathlib

variable {β : Type} (key : β → Nat)

/-- The keys of `xs` are distinct and below `next`. -/
structure FreshKeys (xs : List β) (next : Nat) : Prop where
  nodup : (xs.map key).Nodup
  lt : ∀ x ∈ xs, key x < next

namespace FreshKeys

variable {key} {xs : List β} {next : Nat}

theorem nil (next : Nat) : FreshKeys key ([] : List β) next := ⟨List.nodup_nil, by simp⟩

/-- Handing out a record under the counter, and bumping it. -/
theorem append (h : FreshKeys key xs next) {x : β} (hx : key x = next) :
    FreshKeys key (xs ++ [x]) (next + 1) := by
  refine ⟨?_, ?_⟩
  · -- the new key is above every old one, so it is not among them
    rw [List.map_append, List.nodup_append]
    refine ⟨h.nodup, List.nodup_singleton _, ?_⟩
    intro a ha b hb
    obtain ⟨y, hy, rfl⟩ := List.mem_map.mp ha
    rw [List.map_singleton, List.mem_singleton] at hb
    have := h.lt y hy
    omega
  · intro y hy
    rcases List.mem_append.mp hy with hy | hy
    · have := h.lt y hy
      omega
    · rw [List.mem_singleton.mp hy, hx]
      omega

theorem mono (h : FreshKeys key xs next) {next' : Nat} (hle : next ≤ next') :
    FreshKeys key xs next' :=
  ⟨h.nodup, fun x hx => Nat.lt_of_lt_of_le (h.lt x hx) hle⟩

/-- Dropping records. -/
theorem filter (h : FreshKeys key xs next) (p : β → Bool) : FreshKeys key (xs.filter p) next := by
  refine ⟨?_, fun x hx => h.lt x (List.mem_of_mem_filter hx)⟩
  exact (List.filter_sublist.map key).nodup h.nodup

/-- Rewriting records without touching their keys. -/
theorem map (h : FreshKeys key xs next) (f : β → β) (hf : ∀ x, key (f x) = key x) :
    FreshKeys key (xs.map f) next := by
  have hkeys : (xs.map f).map key = xs.map key := by
    rw [List.map_map]
    exact List.map_congr_left fun x _ => hf x
  refine ⟨hkeys ▸ h.nodup, fun y hy => ?_⟩
  obtain ⟨x, hx, rfl⟩ := List.mem_map.mp hy
  rw [hf]
  exact h.lt x hx

end FreshKeys

/-- Dropping the key a lookup found removes exactly one record. -/
theorem length_filter_key_ne {xs : List β} {k : Nat} {x : β} (hnd : (xs.map key).Nodup)
    (hf : xs.find? (fun y => key y == k) = some x) :
    (xs.filter (fun y => key y != k)).length + 1 = xs.length := by
  induction xs with
  | nil => simp at hf
  | cons y ys ih =>
      rw [List.map_cons, List.nodup_cons] at hnd
      by_cases hy : key y = k
      · -- `y` is the record found, and no other record has its key
        have hkeep : ys.filter (fun y => key y != k) = ys := by
          rw [List.filter_eq_self]
          intro z hz
          have hz' : key z ≠ k := fun hzk => hnd.1 (hy ▸ hzk ▸ List.mem_map_of_mem hz)
          simpa using hz'
        simp [hy, hkeep]
      · have hf' : ys.find? (fun y => key y == k) = some x := by
          simpa [List.find?_cons, hy] using hf
        simp [hy, ih hnd.2 hf']

/-- Dropping the key a lookup found takes exactly that record's part out of
a sum over the records. -/
theorem sum_filter_key_ne (val : β → Nat) {xs : List β} {k : Nat} {x : β} (hnd : (xs.map key).Nodup)
    (hf : xs.find? (fun y => key y == k) = some x) :
    ((xs.filter (fun y => key y != k)).map val).sum + val x = (xs.map val).sum := by
  induction xs with
  | nil => simp at hf
  | cons y ys ih =>
      rw [List.map_cons, List.nodup_cons] at hnd
      by_cases hy : key y = k
      · -- `y` is the record found, and no other record has its key
        have hkeep : ys.filter (fun y => key y != k) = ys := by
          rw [List.filter_eq_self]
          intro z hz
          have hz' : key z ≠ k := fun hzk => hnd.1 (hy ▸ hzk ▸ List.mem_map_of_mem hz)
          simpa using hz'
        obtain rfl : y = x := by simpa [List.find?_cons, hy] using hf
        rw [List.filter_cons_of_neg (by simp [hy]), hkeep, List.map_cons, List.sum_cons, Nat.add_comm]
      · have hf' : ys.find? (fun y => key y == k) = some x := by
          simpa [List.find?_cons, hy] using hf
        have := ih hnd.2 hf'
        simp [hy]
        omega
