/-
Windows of residues, as sliding-window sequence numbers use them.

A residue modulo `w` has one representative in each window of `w`
consecutive numbers: two numbers with the same residue are equal or at
least `w` apart (`add_le_of_mod_eq_of_lt`), so two of them in one
window `(e - h, e + h]` of width `2h` are equal
(`eq_of_mod_eq_of_window`).

Clearing the low `k` bits of a `w`-bit number, `x & (MAX ^ (2^k - 1))`,
rounds it down to a multiple of `2^k`, the start of the window of
`2^k` it lies in (`and_xor_two_pow_sub_one`).

Nothing here names the modelled program.
-/
import Mathlib

namespace ModWindow

/-- Two numbers with the same residue are at least the modulus apart. -/
theorem add_le_of_mod_eq_of_lt {a b w : Nat} (hmod : a % w = b % w) (hlt : a < b) : a + w ≤ b := by
  have hdvd : w ∣ b - a := (Nat.modEq_iff_dvd' (Nat.le_of_lt hlt)).mp hmod
  have := Nat.le_of_dvd (by omega) hdvd
  omega

/-- Two numbers with the same residue modulo `2h`, both in the window
`(e - h, e + h]`, are equal. -/
theorem eq_of_mod_eq_of_window {a b e h : Nat} (hmod : a % (2 * h) = b % (2 * h))
    (ha : e < a + h) (ha' : a ≤ e + h) (hb : e < b + h) (hb' : b ≤ e + h) : a = b := by
  rcases Nat.lt_trichotomy a b with hlt | heq | hgt
  · have := add_le_of_mod_eq_of_lt hmod hlt
    omega
  · exact heq
  · have := add_le_of_mod_eq_of_lt hmod.symm hgt
    omega

/-- Masking off the low `k` bits of a `w`-bit number rounds it down to a
multiple of `2^k`. The proof compares bit by bit: below `k` the mask is
clear, from `k` to `w` it keeps the bits, and past `w` there are none. -/
theorem and_xor_two_pow_sub_one {x k w : Nat} (hx : x < 2 ^ w) (hk : k ≤ w) :
    x &&& ((2 ^ w - 1) ^^^ (2 ^ k - 1)) = x / 2 ^ k * 2 ^ k := by
  apply Nat.eq_of_testBit_eq
  intro j
  rw [Nat.testBit_and, Nat.testBit_xor, Nat.testBit_two_pow_sub_one, Nat.testBit_two_pow_sub_one,
    Nat.testBit_mul_two_pow, Nat.testBit_div_two_pow]
  by_cases hjk : j < k
  · simp [hjk, Nat.lt_of_lt_of_le hjk hk, Nat.not_le_of_lt hjk]
  · have hkj : k ≤ j := Nat.le_of_not_lt hjk
    by_cases hjw : j < w
    · simp [hjk, hjw, hkj, Nat.sub_add_cancel hkj]
    · have hbit : x.testBit j = false :=
        Nat.testBit_lt_two_pow (Nat.lt_of_lt_of_le hx (Nat.pow_le_pow_right (by omega) (by omega)))
      simp [hjk, hjw, hkj, Nat.sub_add_cancel hkj, hbit]

end ModWindow
