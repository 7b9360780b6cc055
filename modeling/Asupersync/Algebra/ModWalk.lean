/-
Walks by a fixed step modulo `n`: `x, x + a, x + 2a, ...`, each taken
modulo `n`.

With the step coprime to `n`, the first `n` points of a walk are
distinct (`add_mul_mod_injective`), so they are all the residues, and
any one of them is reached within `n` steps (`exists_add_mul_mod_eq`).
A walk that reduces at each step is the walk that reduces once
(`add_mod_add_mul_mod`, `add_mod_add_mul_mod'`).

Nothing here names the modelled program.
-/
import Mathlib

namespace ModWalk

variable {a n : Nat}

/-- One step from a reduced point is the next point of the walk. -/
theorem add_mod_add_mul_mod (x a n k : Nat) : ((x + k * a) % n + a) % n = (x + (k + 1) * a) % n := by
  rw [Nat.mod_add_mod, Nat.add_mul, Nat.one_mul, Nat.add_assoc]

/-- The walk from the next point, `k` steps on, is the walk `k + 1` steps on. -/
theorem add_mod_add_mul_mod' (x a n k : Nat) : ((x + a) % n + k * a) % n = (x + (k + 1) * a) % n := by
  rw [Nat.mod_add_mod, Nat.add_mul, Nat.one_mul, Nat.add_assoc, Nat.add_comm a]

/-- With the step coprime to `n`, the first `n` points of the walk are
distinct. -/
theorem add_mul_mod_injective (hcop : Nat.Coprime a n) (x : Nat) {k k' : Nat} (hk : k < n) (hk' : k' < n)
    (h : (x + k * a) % n = (x + k' * a) % n) : k = k' := by
  have hmod : k * a ≡ k' * a [MOD n] := Nat.ModEq.add_left_cancel' x h
  exact Nat.ModEq.eq_of_lt_of_lt (Nat.ModEq.cancel_right_of_coprime (Nat.coprime_comm.mp hcop) hmod) hk hk'

/-- With the step coprime to `n`, the walk reaches every residue within
`n` steps: its first `n` points are `n` distinct residues. -/
theorem exists_add_mul_mod_eq (hcop : Nat.Coprime a n) (hn : 0 < n) (x : Nat) {y : Nat} (hy : y < n) :
    ∃ k < n, (x + k * a) % n = y := by
  let point : Fin n → Fin n := fun k => ⟨(x + k.val * a) % n, Nat.mod_lt _ hn⟩
  have hinj : Function.Injective point := fun k k' h =>
    Fin.ext (add_mul_mod_injective hcop x k.2 k'.2 (congrArg Fin.val h))
  obtain ⟨k, hk⟩ := Finite.injective_iff_surjective.mp hinj ⟨y, hy⟩
  exact ⟨k.val, k.2, congrArg Fin.val hk⟩

end ModWalk
