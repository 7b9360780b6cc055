/-
`is_prime` and `next_prime_ge` (`raptorq/rfc6330.rs`) are exact.

# Trial division

`is_prime` settles 0, 1 and the even numbers, then tries odd divisors
`d` while `d <= n / d`. What carries the loop is that no number in
`[2, d)` divides `n`: an odd `d` that does not divide `n` extends it by
two, `d` and the even `d + 1`. When the loop stops, a composite `n`
would have its least factor in `[2, d)`, since that factor's square is
at most `n` (`isPrimeLoop_eq`).

# The search

`next_prime_ge` tries odd candidates upwards. What it passes over is not
prime, nor is the even number after each, so the first prime it meets is
the least at or above where it started; it gives up only when the next
candidate would overflow a `usize`, and then every prime at or above its
start is past `usize::MAX` (`nextPrimeLoop_some`, `nextPrimeLoop_none`).
-/
import Asupersync.Raptorq.Rfc6330
import Mathlib

namespace Asupersync

namespace Raptorq

-- ========================================================= trial division

/-- An even number past 2 is not prime. -/
theorem not_prime_of_even {m : Nat} (hm : m % 2 = 0) (h2 : 2 < m) : ¬m.Prime := fun hp =>
  (hp.eq_one_or_self_of_dvd 2 (Nat.dvd_of_mod_eq_zero hm)).elim (by omega) (by omega)

/-- A number past 1 with no divisor below `d`, where `n < d * d`, is prime:
its least factor would be below `d`. -/
theorem prime_of_no_divisor_lt {n d : Nat} (h2 : 2 ≤ n) (hlt : n < d * d)
    (hno : ∀ k, 2 ≤ k → k < d → ¬k ∣ n) : n.Prime := by
  by_contra hnp
  have hmin : 2 ≤ n.minFac := (Nat.minFac_prime (by omega)).two_le
  have hsq : n.minFac ^ 2 ≤ n := Nat.minFac_sq_le_self (by omega) hnp
  have hmd : n.minFac < d := by
    by_contra hge
    have : d * d ≤ n.minFac ^ 2 := by
      rw [sq]
      exact Nat.mul_le_mul (by omega) (by omega)
    omega
  exact hno n.minFac hmin hmd (Nat.minFac_dvd n)

/-- The trial division decides primality, for an odd `n` past 1 and an odd
`d ≥ 3` below which `n` has no divisor. The induction follows the loop. -/
theorem isPrimeLoop_eq (n d : Nat) (h2 : 2 ≤ n) (hn : n % 2 = 1) (hd : 3 ≤ d) (hodd : d % 2 = 1)
    (hno : ∀ k, 2 ≤ k → k < d → ¬k ∣ n) : isPrimeLoop n d = decide n.Prime := by
  fun_induction isPrimeLoop n d with
  | case1 d hle hdvd =>
    -- `d` divides `n`, and `d * d ≤ n` puts it strictly between 1 and `n`
    have hsq := (Nat.le_div_iff_mul_le (by omega)).mp hle
    have h3d : 3 * d ≤ d * d := Nat.mul_le_mul_right d hd
    have hnp : ¬n.Prime := fun hp =>
      (hp.eq_one_or_self_of_dvd d (Nat.dvd_of_mod_eq_zero hdvd)).elim (by omega) (by omega)
    rw [decide_eq_false hnp]
  | case2 d hle hdvd ih =>
    -- neither `d` nor the even `d + 1` divides `n`
    refine ih (by omega) (by omega) fun k hk hkd hdiv => ?_
    rcases Nat.lt_or_ge k d with hkd' | hkd'
    · exact hno k hk hkd' hdiv
    · rcases Nat.eq_or_lt_of_le hkd' with rfl | hgt
      · exact hdvd (Nat.mod_eq_zero_of_dvd hdiv)
      · have hk1 : k = d + 1 := by omega
        subst hk1
        have h2d : 2 ∣ d + 1 := Nat.dvd_of_mod_eq_zero (by omega)
        have := Nat.mod_eq_zero_of_dvd (Nat.dvd_trans h2d hdiv)
        omega
  | case3 d hgt =>
    have hlt : n < d * d := by
      rw [Nat.le_div_iff_mul_le (by omega)] at hgt
      omega
    rw [decide_eq_true (prime_of_no_divisor_lt h2 hlt hno)]

/-- `is_prime` is true exactly of the primes. -/
theorem isPrime_eq_true_iff (m : Nat) : isPrime m = true ↔ m.Prime := by
  unfold isPrime
  by_cases hlt : m < 2
  · rw [if_pos hlt]
    exact ⟨nofun, fun hp => absurd hp.two_le (by omega)⟩
  rw [if_neg hlt]
  by_cases heven : m % 2 = 0
  · -- the only even prime is 2
    rw [if_pos heven, beq_iff_eq]
    constructor
    · rintro rfl
      exact Nat.prime_two
    · intro hp
      by_contra hne
      exact not_prime_of_even heven (by omega) hp
  · rw [if_neg heven, isPrimeLoop_eq m 3 (by omega) (by omega) (le_refl 3) rfl, decide_eq_true_iff]
    intro k hk hk3 hdiv
    have : k = 2 := by omega
    subst this
    exact heven (Nat.mod_eq_zero_of_dvd hdiv)

-- ============================================================= the search

section search

variable {candidate : Nat}

/-- What the search returns is the least prime at or above its start. -/
theorem nextPrimeLoop_some (h3 : 3 ≤ candidate) (hodd : candidate % 2 = 1) (hmax : candidate ≤ usizeMax)
    {p : Nat} (h : nextPrimeLoop candidate = some p) :
    p.Prime ∧ candidate ≤ p ∧ p ≤ usizeMax ∧ ∀ q, q.Prime → candidate ≤ q → p ≤ q := by
  fun_induction nextPrimeLoop candidate with
  | case1 c hprime =>
    obtain rfl := Option.some.inj h.symm
    exact ⟨(isPrime_eq_true_iff _).mp hprime, le_refl _, hmax, fun _ _ hq => hq⟩
  | case2 c hprime hnext ih =>
    -- `c` is not prime and `c + 1` is even: the least prime is past both
    obtain ⟨hp, hle, hpmax, hleast⟩ := ih (by omega) (by omega) hnext h
    refine ⟨hp, by omega, hpmax, fun q hq hcq => hleast q hq ?_⟩
    rcases Nat.lt_or_ge q (c + 2) with hlt | hge
    · rcases Nat.eq_or_lt_of_le hcq with rfl | hgt
      · exact absurd ((isPrime_eq_true_iff _).mpr hq) (by simpa using hprime)
      · exact absurd hq (not_prime_of_even (by omega) (by omega))
    · exact hge
  | case3 c hprime hnext => nomatch h

/-- The search gives up only when every prime at or above its start is
past `usize::MAX`. -/
theorem nextPrimeLoop_none (h3 : 3 ≤ candidate) (hodd : candidate % 2 = 1)
    (h : nextPrimeLoop candidate = none) : ∀ q, q.Prime → candidate ≤ q → usizeMax < q := by
  fun_induction nextPrimeLoop candidate with
  | case1 c hprime => nomatch h
  | case2 c hprime hnext ih =>
    intro q hq hcq
    rcases Nat.lt_or_ge q (c + 2) with hlt | hge
    · rcases Nat.eq_or_lt_of_le hcq with rfl | hgt
      · exact absurd ((isPrime_eq_true_iff _).mpr hq) (by simpa using hprime)
      · exact absurd hq (not_prime_of_even (by omega) (by omega))
    · exact ih (by omega) (by omega) h q hq hge
  | case3 c hprime hnext =>
    -- neither `c` nor the even `c + 1` is prime, and `c + 2` is past the bound
    intro q hq hcq
    rcases Nat.eq_or_lt_of_le hcq with rfl | hgt
    · exact absurd ((isPrime_eq_true_iff _).mpr hq) (by simpa using hprime)
    · rcases Nat.eq_or_lt_of_le (Nat.succ_le_of_lt hgt) with hq1 | hgt'
      · exact absurd hq (not_prime_of_even (by omega) (by omega))
      · omega

end search

/-- `next_prime_ge` of a `usize` is the least prime at or above it, and
`None` only when no such prime is a `usize`. -/
theorem nextPrimeGe_spec {n : Nat} (hn : n ≤ usizeMax) :
    (∀ p, nextPrimeGe n = some p → p.Prime ∧ n ≤ p ∧ p ≤ usizeMax ∧ ∀ q, q.Prime → n ≤ q → p ≤ q) ∧
    (nextPrimeGe n = none → ∀ q, q.Prime → n ≤ q → usizeMax < q) := by
  have hmaxodd : usizeMax % 2 = 1 := by decide
  unfold nextPrimeGe
  by_cases hsmall : n ≤ 2
  · -- 2 is the least prime
    rw [if_pos hsmall]
    refine ⟨fun p hp => ?_, nofun⟩
    obtain rfl := Option.some.inj hp.symm
    exact ⟨Nat.prime_two, hsmall, by decide, fun q hq _ => hq.two_le⟩
  rw [if_neg hsmall]
  by_cases heven : n % 2 = 0
  · -- an even start goes on from the odd number after it
    have hn1 : n + 1 ≤ usizeMax := by omega
    rw [if_pos heven, if_pos hn1, Option.bind_some]
    have hskip : ∀ q, q.Prime → n ≤ q → n + 1 ≤ q := fun q hq hnq => by
      rcases Nat.eq_or_lt_of_le hnq with rfl | hlt
      · exact absurd hq (not_prime_of_even heven (by omega))
      · exact hlt
    refine ⟨fun p hp => ?_, fun hnone q hq hnq => nextPrimeLoop_none (by omega) (by omega) hnone q hq (hskip q hq hnq)⟩
    obtain ⟨hprime, hle, hpmax, hleast⟩ := nextPrimeLoop_some (by omega) (by omega) hn1 hp
    exact ⟨hprime, by omega, hpmax, fun q hq hnq => hleast q hq (hskip q hq hnq)⟩
  · rw [if_neg heven, Option.bind_some]
    exact ⟨fun p hp => nextPrimeLoop_some (by omega) (by omega) hn hp,
      nextPrimeLoop_none (by omega) (by omega)⟩

/-- `next_prime_ge` returns the least prime at or above its argument, and
`None` only when no such prime is a `usize`; `is_prime` is exact. -/
theorem next_prime_ge_least :
    (∀ m, isPrime m = true ↔ m.Prime) ∧
    ∀ n, n ≤ usizeMax →
      (∀ p, nextPrimeGe n = some p → p.Prime ∧ n ≤ p ∧ p ≤ usizeMax ∧ ∀ q, q.Prime → n ≤ q → p ≤ q) ∧
      (nextPrimeGe n = none → ∀ q, q.Prime → n ≤ q → usizeMax < q) :=
  ⟨isPrime_eq_true_iff, fun _ hn => nextPrimeGe_spec hn⟩

theorem next_prime_ge_eighteen :
    (18 ≤ usizeMax ∧ nextPrimeGe 18 = some 19) ∧
    (Nat.Prime 19 ∧ 18 ≤ 19 ∧ 19 ≤ usizeMax ∧ ∀ q, q.Prime → 18 ≤ q → 19 ≤ q) := by
  -- 19 is odd, and 3 does not divide it, with 5 already past its square root
  have h : nextPrimeGe 18 = some 19 := by
    rw [nextPrimeGe, if_neg (by decide), if_pos (by decide), if_pos (by decide), Option.bind_some,
      nextPrimeLoop, if_pos]
    rw [isPrime, if_neg (by decide), if_neg (by decide), isPrimeLoop, dif_pos (by decide), dif_neg (by decide),
      isPrimeLoop, dif_neg (by decide)]
  exact ⟨⟨by decide, h⟩, (next_prime_ge_least.2 18 (by decide)).1 19 h⟩

end Raptorq

end Asupersync
