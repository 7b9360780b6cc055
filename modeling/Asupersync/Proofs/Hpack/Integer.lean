/-
HPACK's prefix integers round trip (`encode_integer` and `decode_integer`
in `http/h2/hpack.rs`, RFC 7541 §5.1).

# What holds

For a prefix of at most eight bits whose high bits in the first byte are
clear of it, `decode_integer` reads back what `encode_integer` wrote,
followed by any bytes, for every value below `2^prefix - 1 + 2^35`
(`decodeInteger_encodeInteger`). The bound is the decoder's: it refuses
a sixth continuation byte (`shift > 28`), so five continuation bytes,
`2^35` past the prefix, are where it stops accepting the encoder's
output.

# What the decoder reads

One pass of the continuation loop (`decodeIntegerLoop_cons`) is the
only unfolding the lemmas about the decoder's reads use: it reads at
most seven bytes (`decodeIntegerLoop_map_fst_take`), at most six when it
returns a value (`decodeIntegerLoop_ok_consumes`), and a run of
continuation bytes is refused whether the input ends inside it
(`decodeIntegerLoop_of_continuation`) or it goes past shift 28
(`decodeIntegerLoop_too_large_after`).

# Method

Four facts about bytes carry the proof: masking a byte with `2^k - 1`
keeps its low `k` bits, a prefix byte clear of those bits leaves them to
the value, and the continuation byte `y | 0x80` of a `y < 128` has its
high bit set and gives back `y` under `0x7f`. The continuation loop is
then one induction on the encoder's fuel, with the decoder's `shift` at
`7 j` after `j` bytes and the value still to write below `2^(7 (5 - j))`.
-/
import Asupersync.Http.Hpack.Codec
import Mathlib

namespace Asupersync

namespace Hpack

-- ================================================================ bytes

theorem toNat_and_mask (b : UInt8) {k : Nat} (hk : k ≤ 8) :
    (b &&& (2 ^ k - 1).toUInt8).toNat = b.toNat % 2 ^ k := by
  have hlt : 2 ^ k - 1 < 2 ^ 8 := by
    have := Nat.pow_le_pow_right (show 0 < 2 by omega) hk
    omega
  rw [UInt8.toNat_and, Nat.toUInt8_eq, UInt8.toNat_ofNat', Nat.mod_eq_of_lt hlt,
    Nat.and_two_pow_sub_one_eq_mod]

/-- A prefix byte clear of the low `k` bits leaves them to the value. -/
theorem toNat_or_mod (a : UInt8) {v k : Nat} (hk : k ≤ 8) (ha : a.toNat % 2 ^ k = 0)
    (hv : v < 2 ^ k) : (a ||| v.toUInt8).toNat % 2 ^ k = v := by
  have hv8 : v < 2 ^ 8 := Nat.lt_of_lt_of_le hv (Nat.pow_le_pow_right (by omega) hk)
  rw [UInt8.toNat_or, Nat.or_mod_two_pow, ha, Nat.zero_or, Nat.toUInt8_eq, UInt8.toNat_ofNat',
    Nat.mod_eq_of_lt hv8, Nat.mod_eq_of_lt hv]

theorem and_0x80_eq_zero_iff (b : UInt8) : b &&& 0x80 = 0 ↔ b.toNat < 128 := by
  rw [← UInt8.toNat_inj, UInt8.toNat_and]
  show b.toNat &&& 2 ^ 7 = 0 ↔ b.toNat < 2 ^ 7
  rw [Nat.and_two_pow]
  constructor
  · intro h
    by_contra hge
    -- the byte is `2^7 + x` with `x < 2^7`, whose bit 7 is set
    obtain ⟨x, hx⟩ : ∃ x, b.toNat = 2 ^ 7 + x := ⟨b.toNat - 2 ^ 7, by omega⟩
    have hxlt : x < 2 ^ 7 := by have := b.toNat_lt; omega
    rw [hx, Nat.testBit_two_pow_add_eq, Nat.testBit_lt_two_pow hxlt] at h
    exact absurd h (by decide)
  · intro h
    rw [Nat.testBit_lt_two_pow h]
    rfl

/-- The continuation byte of `encode_integer`. -/
theorem toNat_or_0x80 {y : Nat} (hy : y < 128) : (y.toUInt8 ||| 0x80).toNat = 128 + y := by
  rw [UInt8.toNat_or, Nat.toUInt8_eq, UInt8.toNat_ofNat', Nat.mod_eq_of_lt (by omega),
    show (0x80 : UInt8).toNat = 2 ^ 7 * 1 from rfl, Nat.or_comm,
    ← Nat.two_pow_add_eq_or_of_lt (show y < 2 ^ 7 from hy)]

theorem toNat_toUInt8_of_lt {y : Nat} (hy : y < 256) : y.toUInt8.toNat = y := by
  rw [Nat.toUInt8_eq, UInt8.toNat_ofNat', Nat.mod_eq_of_lt hy]

-- ===================================================== continuation bytes

/-- Splitting off the low seven bits of what is left to write: the byte
written at `shift = 7 j` and the rest at `7 (j + 1)`. -/
theorem mul_two_pow_split (r j : Nat) :
    r * 2 ^ (7 * j) = r % 128 * 2 ^ (7 * j) + r / 128 * 2 ^ (7 * (j + 1)) := by
  calc r * 2 ^ (7 * j) = (r % 128 + 128 * (r / 128)) * 2 ^ (7 * j) := by rw [Nat.mod_add_div]
    _ = r % 128 * 2 ^ (7 * j) + r / 128 * (2 ^ (7 * j) * 2 ^ 7) := by ring
    _ = r % 128 * 2 ^ (7 * j) + r / 128 * 2 ^ (7 * (j + 1)) := by
        rw [← Nat.pow_add, Nat.mul_add, Nat.mul_one]

/-- The continuation loop reads back the encoder's continuation bytes.
The induction is on the encoder's fuel; after `j` bytes the decoder's
shift is `7 j`, the value still to write is below `2^(7 (5 - j))`, and
what the decoder has read plus what is left, scaled to its place, is the
whole value. -/
theorem decodeIntegerLoop_encodeIntegerTail (rest : List UInt8) :
    ∀ (fuel r acc j : Nat), r ≤ fuel → j ≤ 4 → r < 2 ^ (7 * (5 - j)) →
      acc + r * 2 ^ (7 * j) ≤ usizeMax →
      decodeIntegerLoop acc (7 * j) (encodeIntegerTail fuel r ++ rest) =
        .ok (acc + r * 2 ^ (7 * j), rest)
  | fuel, r, acc, j, hfuel, hj, hr, hmax => by
      have hshift : ¬7 * j > 28 := by omega
      have hshift64 : ¬7 * j ≥ 64 := by omega
      by_cases hlast : r < 128
      · -- the last byte: its high bit is clear
        have hbyte : encodeIntegerTail fuel r = [r.toUInt8] := by
          cases fuel with
          | zero => rfl
          | succ fuel => simp only [encodeIntegerTail, if_neg (Nat.not_le.mpr hlast)]
        have hlow : (r.toUInt8 &&& 0x7f).toNat = r := by
          rw [show (0x7f : UInt8) = (2 ^ 7 - 1).toUInt8 from rfl, toNat_and_mask _ (by omega),
            toNat_toUInt8_of_lt (by omega), Nat.mod_eq_of_lt (show r < 2 ^ 7 from hlast)]
        have hhigh : r.toUInt8 &&& 0x80 = 0 :=
          (and_0x80_eq_zero_iff _).mpr (by rw [toNat_toUInt8_of_lt (by omega)]; exact hlast)
        rw [hbyte, List.singleton_append, decodeIntegerLoop, if_neg hshift, if_neg hshift64, hlow,
          if_neg (by omega), if_neg (by omega), if_pos hhigh]
      · -- a continuation byte: seven bits now, the rest one place up
        obtain ⟨fuel, rfl⟩ : ∃ f, fuel = f + 1 := ⟨fuel - 1, by omega⟩
        have hj' : j + 1 ≤ 4 := by
          by_contra hj4
          have : r < 2 ^ 7 := by rwa [show 7 * (5 - j) = 7 by omega] at hr
          omega
        have hr' : r / 128 < 2 ^ (7 * (5 - (j + 1))) := by
          rw [Nat.div_lt_iff_lt_mul (by omega), show (128 : Nat) = 2 ^ 7 from rfl, ← Nat.pow_add]
          rwa [show 7 * (5 - (j + 1)) + 7 = 7 * (5 - j) by omega]
        have hsplit := mul_two_pow_split r j
        have hbyte : encodeIntegerTail (fuel + 1) r =
            ((r % 128).toUInt8 ||| 0x80) :: encodeIntegerTail fuel (r / 128) := by
          simp only [encodeIntegerTail, if_pos (Nat.le_of_not_lt hlast)]
        have hor := toNat_or_0x80 (Nat.mod_lt r (show 128 > 0 by omega))
        have hlow : (((r % 128).toUInt8 ||| 0x80) &&& 0x7f).toNat = r % 128 := by
          rw [show (0x7f : UInt8) = (2 ^ 7 - 1).toUInt8 from rfl, toNat_and_mask _ (by omega), hor]
          omega
        have hhigh : ¬((r % 128).toUInt8 ||| 0x80) &&& 0x80 = 0 := by
          rw [and_0x80_eq_zero_iff, hor]
          omega
        have ih := decodeIntegerLoop_encodeIntegerTail rest fuel (r / 128) (acc + r % 128 * 2 ^ (7 * j))
          (j + 1) (by omega) hj' hr' (by omega)
        rw [hbyte, List.cons_append, decodeIntegerLoop, if_neg hshift, if_neg hshift64, hlow,
          if_neg (by omega), if_neg (by omega), if_neg hhigh, show 7 * j + 7 = 7 * (j + 1) by omega, ih,
          hsplit, Nat.add_assoc]

-- ======================================================== one pass at a time

/-- The seven bits a byte adds. -/
theorem toNat_and_0x7f_lt (c : UInt8) : (c &&& 0x7f).toNat < 128 := by
  rw [show (0x7f : UInt8) = (2 ^ 7 - 1).toUInt8 from rfl, toNat_and_mask _ (by omega)]
  exact Nat.mod_lt _ (by omega)

/-- One pass of the continuation loop below shift 28. Seven bits of a byte
at such a shift never overflow a \x60usize\x60, so only the addition is checked. -/
theorem decodeIntegerLoop_cons (acc : Nat) {j : Nat} (hj : j ≤ 4) (c : UInt8) (cs : List UInt8) :
    decodeIntegerLoop acc (7 * j) (c :: cs) =
      if acc + (c &&& 0x7f).toNat * 2 ^ (7 * j) > usizeMax then .error (.compression "integer overflow in addition")
      else if c &&& 0x80 = 0 then .ok (acc + (c &&& 0x7f).toNat * 2 ^ (7 * j), cs)
      else decodeIntegerLoop (acc + (c &&& 0x7f).toNat * 2 ^ (7 * j)) (7 * (j + 1)) cs := by
  have hinc : (c &&& 0x7f).toNat * 2 ^ (7 * j) ≤ 127 * 2 ^ 28 :=
    Nat.mul_le_mul (by have := toNat_and_0x7f_lt c; omega) (Nat.pow_le_pow_right (by omega) (by omega))
  rw [decodeIntegerLoop, if_neg (by omega), if_neg (by omega), if_neg (by unfold usizeMax; omega),
    show 7 * j + 7 = 7 * (j + 1) by omega]

/-- The sixth continuation byte is read and refused. -/
theorem decodeIntegerLoop_too_large (acc : Nat) (c : UInt8) (cs : List UInt8) :
    decodeIntegerLoop acc (7 * 5) (c :: cs) = .error (.compression "integer too large") := by
  rw [decodeIntegerLoop, if_pos (by omega)]

-- ====================================================== what the loop reads

/-- A run of continuation bytes that ends with the input is refused. -/
theorem decodeIntegerLoop_of_continuation :
    ∀ (cs : List UInt8) (acc shift : Nat), (∀ c ∈ cs, c &&& 0x80 ≠ 0) →
      ∃ e, decodeIntegerLoop acc shift cs = .error e
  | [], acc, shift, _ => ⟨_, rfl⟩
  | c :: cs, acc, shift, hcont => by
    have hc := hcont c List.mem_cons_self
    -- every check fails the same way or lets the loop go on
    rw [decodeIntegerLoop]
    split
    · exact ⟨_, rfl⟩
    split
    · exact ⟨_, rfl⟩
    dsimp only
    split
    · exact ⟨_, rfl⟩
    split
    · exact ⟨_, rfl⟩
    exact decodeIntegerLoop_of_continuation cs _ _ fun d hd => hcont d (List.mem_cons_of_mem c hd)

/-- Five continuation bytes take the shift to 35, and the byte after them
is refused. The value read by then stays below \x602^8 + 2^(7 j)\x60, far
from overflowing. -/
theorem decodeIntegerLoop_too_large_after :
    ∀ (cs : List UInt8) (acc j : Nat) (c : UInt8) (rest : List UInt8), j + cs.length = 5 →
      acc < 2 ^ 8 + 2 ^ (7 * j) → (∀ d ∈ cs, d &&& 0x80 ≠ 0) →
      decodeIntegerLoop acc (7 * j) (cs ++ c :: rest) = .error (.compression "integer too large")
  | [], acc, j, c, rest, hlen, _, _ => by
    rw [List.nil_append, show j = 5 by simpa using hlen]
    exact decodeIntegerLoop_too_large acc c rest
  | d :: cs, acc, j, c, rest, hlen, hacc, hcont => by
    have hj : j ≤ 4 := by simp at hlen; omega
    have hd := hcont d List.mem_cons_self
    have hlow := toNat_and_0x7f_lt d
    -- the seven bits at \x607 j\x60 keep the value under the next bound
    have hinc : (d &&& 0x7f).toNat * 2 ^ (7 * j) ≤ 127 * 2 ^ (7 * j) := Nat.mul_le_mul_right _ (by omega)
    have hpow : 2 ^ (7 * (j + 1)) = 128 * 2 ^ (7 * j) := by
      rw [Nat.mul_succ, Nat.pow_add, Nat.mul_comm]
    have hpow' : 2 ^ (7 * j) ≤ 2 ^ 28 := Nat.pow_le_pow_right (by omega) (by omega)
    rw [List.cons_append, decodeIntegerLoop_cons acc hj, if_neg (by unfold usizeMax; omega), if_neg hd]
    exact decodeIntegerLoop_too_large_after cs _ (j + 1) c rest (by simp at hlen; omega) (by omega)
      fun e he => hcont e (List.mem_cons_of_mem d he)

/-- What the loop returns a value from: one to \x605 - j\x60 bytes, and a value
below \x60acc + 2^35 - 2^(7 j)\x60. -/
theorem decodeIntegerLoop_ok_consumes :
    ∀ (cs : List UInt8) (acc j value : Nat) (rest : List UInt8), j ≤ 5 →
      decodeIntegerLoop acc (7 * j) cs = .ok (value, rest) →
      ∃ k, 1 ≤ k ∧ j + k ≤ 5 ∧ rest = cs.drop k ∧ value + 2 ^ (7 * j) ≤ acc + 2 ^ 35
  | [], acc, j, value, rest, _, h => nomatch h
  | c :: cs, acc, j, value, rest, hj, h => by
    rcases Nat.lt_or_ge j 5 with hj4 | hj5
    · have hlow := toNat_and_0x7f_lt c
      have hinc : (c &&& 0x7f).toNat * 2 ^ (7 * j) ≤ 127 * 2 ^ (7 * j) := Nat.mul_le_mul_right _ (by omega)
      have hpow : 2 ^ (7 * (j + 1)) = 128 * 2 ^ (7 * j) := by
        rw [Nat.mul_succ, Nat.pow_add, Nat.mul_comm]
      have hpow' : 2 ^ (7 * (j + 1)) ≤ 2 ^ 35 := Nat.pow_le_pow_right (by omega) (by omega)
      rw [decodeIntegerLoop_cons acc (by omega)] at h
      split at h
      · nomatch h
      split at h
      · -- the last byte
        obtain ⟨rfl, rfl⟩ := Prod.mk.inj (Except.ok.inj h)
        exact ⟨1, le_refl _, by omega, rfl, by omega⟩
      · -- a continuation byte, then the rest of the run
        obtain ⟨k, hk, hjk, rfl, hvalue⟩ := decodeIntegerLoop_ok_consumes cs _ (j + 1) value rest (by omega) h
        exact ⟨k + 1, by omega, by omega, rfl, by omega⟩
    · rw [show j = 5 by omega, decodeIntegerLoop_too_large] at h
      nomatch h

/-- The loop reads at most \x606 - j\x60 bytes before it returns. -/
theorem decodeIntegerLoop_map_fst_take :
    ∀ (cs₁ cs₂ : List UInt8) (acc j : Nat), j ≤ 5 → cs₁.take (6 - j) = cs₂.take (6 - j) →
      (decodeIntegerLoop acc (7 * j) cs₁).map Prod.fst = (decodeIntegerLoop acc (7 * j) cs₂).map Prod.fst
  | [], cs₂, acc, j, hj, h => by
    rw [List.take_nil, eq_comm, List.take_eq_nil_iff] at h
    rcases h with h | rfl
    · omega
    · rfl
  | c :: cs₁, cs₂, acc, j, hj, h => by
    -- both start with the same byte, and agree on the \x605 - j\x60 after it
    rw [show 6 - j = (5 - j) + 1 by omega] at h
    obtain ⟨cs₂, rfl, htake⟩ : ∃ cs, cs₂ = c :: cs ∧ cs₁.take (5 - j) = cs.take (5 - j) := by
      cases cs₂ with
      | nil => nomatch h
      | cons c' cs =>
        rw [List.take_succ_cons, List.take_succ_cons, List.cons.injEq] at h
        exact ⟨cs, by rw [h.1], h.2⟩
    rcases Nat.lt_or_ge j 5 with hj4 | hj5
    · rw [decodeIntegerLoop_cons acc (by omega), decodeIntegerLoop_cons acc (by omega)]
      split
      · rfl
      split
      · rfl
      · exact decodeIntegerLoop_map_fst_take cs₁ cs₂ _ (j + 1) (by omega) (by rwa [show 6 - (j + 1) = 5 - j by omega])
    · rw [show j = 5 by omega, decodeIntegerLoop_too_large, decodeIntegerLoop_too_large]

-- ============================================================ the integer

/-- `decode_integer` reads back `encode_integer`, followed by any bytes. -/
theorem decodeInteger_encodeInteger (value p : Nat) (prefixByte : UInt8) (rest : List UInt8)
    (hp : p ≤ 8) (hclear : prefixByte.toNat % 2 ^ p = 0) (hvalue : value < 2 ^ p - 1 + 2 ^ 35) :
    decodeInteger (encodeInteger value p prefixByte ++ rest) p = .ok (value, rest) := by
  have hmask : 2 ^ p - 1 < 2 ^ p := Nat.sub_lt (Nat.two_pow_pos p) (by omega)
  have h8 : 2 ^ p ≤ 2 ^ 8 := Nat.pow_le_pow_right (by omega) hp
  unfold encodeInteger
  by_cases hsmall : value < 2 ^ p - 1
  · -- the value fits in the prefix
    rw [if_pos hsmall, List.singleton_append, decodeInteger]
    rw [toNat_and_mask _ hp, toNat_or_mod _ hp hclear (by omega), if_pos hsmall]
  · -- the prefix is all ones, the rest follows in continuation bytes
    rw [if_neg hsmall, List.cons_append, decodeInteger]
    rw [toNat_and_mask _ hp, toNat_or_mod _ hp hclear hmask, if_neg (Nat.lt_irrefl _)]
    have hloop := decodeIntegerLoop_encodeIntegerTail rest (value - (2 ^ p - 1)) (value - (2 ^ p - 1))
      (2 ^ p - 1) 0 (Nat.le_refl _) (by omega) (by omega)
      (by simp only [Nat.mul_zero, Nat.pow_zero, Nat.mul_one]; unfold usizeMax; omega)
    rw [Nat.mul_zero] at hloop
    rw [hloop, Nat.pow_zero, Nat.mul_one, Nat.add_sub_cancel' (by omega)]

/-- The prefix byte's low bits, all ones: the value goes on in
continuation bytes. -/
theorem decodeInteger_of_saturated {p : Nat} {b : UInt8} (hsat : (b &&& (2 ^ p - 1).toUInt8).toNat = 2 ^ p - 1)
    (cs : List UInt8) : decodeInteger (b :: cs) p = decodeIntegerLoop (2 ^ p - 1) (7 * 0) cs := by
  rw [decodeInteger, hsat, if_neg (Nat.lt_irrefl _)]

/-- HPACK integers round trip for every value up to \x602^prefix - 1 + 2^35 - 1\x60;
the decoder reads at most seven bytes, at most six when it returns a value,
and refuses a truncated integer and one past shift 28. -/
theorem hpack_integer_round_trip_bounded (p : Nat) (hp : 1 ≤ p ∧ p ≤ 8) :
    (∀ (value : Nat) (prefixByte : UInt8) (rest : List UInt8), prefixByte.toNat % 2 ^ p = 0 →
      value ≤ 2 ^ p - 1 + 2 ^ 35 - 1 →
      decodeInteger (encodeInteger value p prefixByte ++ rest) p = .ok (value, rest)) ∧
    (∀ src₁ src₂ : List UInt8, src₁.take 7 = src₂.take 7 →
      (decodeInteger src₁ p).map Prod.fst = (decodeInteger src₂ p).map Prod.fst) ∧
    (∀ (src rest : List UInt8) (value : Nat), decodeInteger src p = .ok (value, rest) →
      ∃ k, 1 ≤ k ∧ k ≤ 6 ∧ rest = src.drop k ∧ value < 2 ^ p - 1 + 2 ^ 35) ∧
    (∀ (b : UInt8) (cs : List UInt8), (b &&& (2 ^ p - 1).toUInt8).toNat = 2 ^ p - 1 →
      (∀ c ∈ cs, c &&& 0x80 ≠ 0) → ∃ e, decodeInteger (b :: cs) p = .error e) ∧
    (∀ (b c : UInt8) (cs rest : List UInt8), (b &&& (2 ^ p - 1).toUInt8).toNat = 2 ^ p - 1 →
      cs.length = 5 → (∀ d ∈ cs, d &&& 0x80 ≠ 0) →
      decodeInteger (b :: cs ++ c :: rest) p = .error (.compression "integer too large")) := by
  have h8 : 2 ^ p ≤ 2 ^ 8 := Nat.pow_le_pow_right (by omega) hp.2
  have hpos : 1 ≤ 2 ^ p := Nat.one_le_two_pow
  refine ⟨fun value prefixByte rest hclear hvalue =>
    decodeInteger_encodeInteger value p prefixByte rest hp.2 hclear (by omega), ?_, ?_, ?_, ?_⟩
  · -- the prefix byte, then at most six bytes of the loop
    intro src₁ src₂ htake
    cases src₁ with
    | nil =>
      rw [List.take_nil, eq_comm, List.take_eq_nil_iff] at htake
      rcases htake with h | rfl
      · omega
      · rfl
    | cons b cs₁ =>
      obtain ⟨cs₂, rfl, htail⟩ : ∃ cs, src₂ = b :: cs ∧ cs₁.take 6 = cs.take 6 := by
        cases src₂ with
        | nil => nomatch htake
        | cons b' cs =>
          rw [List.take_succ_cons, List.take_succ_cons, List.cons.injEq] at htake
          exact ⟨cs, by rw [htake.1], htake.2⟩
      by_cases hsat : (b &&& (2 ^ p - 1).toUInt8).toNat = 2 ^ p - 1
      · rw [decodeInteger_of_saturated hsat, decodeInteger_of_saturated hsat]
        exact decodeIntegerLoop_map_fst_take cs₁ cs₂ _ 0 (by omega) htail
      · have hlt : (b &&& (2 ^ p - 1).toUInt8).toNat < 2 ^ p - 1 := by
          rw [toNat_and_mask _ hp.2] at hsat ⊢
          have := Nat.mod_lt b.toNat (Nat.two_pow_pos p)
          omega
        rw [decodeInteger, decodeInteger, if_pos hlt, if_pos hlt]
        rfl
  · -- the prefix byte alone, or it and what the loop consumes
    intro src rest value h
    cases src with
    | nil => nomatch h
    | cons b cs =>
      by_cases hsat : (b &&& (2 ^ p - 1).toUInt8).toNat = 2 ^ p - 1
      · rw [decodeInteger_of_saturated hsat] at h
        obtain ⟨k, hk, hk5, rfl, hvalue⟩ := decodeIntegerLoop_ok_consumes cs _ 0 value rest (by omega) h
        exact ⟨k + 1, by omega, by omega, rfl, by rw [Nat.mul_zero, Nat.pow_zero] at hvalue; omega⟩
      · have hlt : (b &&& (2 ^ p - 1).toUInt8).toNat < 2 ^ p - 1 := by
          rw [toNat_and_mask _ hp.2] at hsat ⊢
          have := Nat.mod_lt b.toNat (Nat.two_pow_pos p)
          omega
        rw [decodeInteger, if_pos hlt] at h
        obtain ⟨rfl, rfl⟩ := Prod.mk.inj (Except.ok.inj h)
        exact ⟨1, le_refl _, by omega, rfl, by omega⟩
  · -- a truncated integer
    intro b cs hsat hcont
    rw [decodeInteger_of_saturated hsat]
    exact decodeIntegerLoop_of_continuation cs _ _ hcont
  · -- past shift 28
    intro b c cs rest hsat hlen hcont
    rw [List.cons_append, decodeInteger_of_saturated hsat]
    exact decodeIntegerLoop_too_large_after cs _ 0 c rest (by omega) (by rw [Nat.mul_zero, Nat.pow_zero]; omega)
      hcont

theorem hpack_integer_round_trip_bounded_five :
    (1 ≤ 5 ∧ 5 ≤ 8) ∧
    decodeInteger (encodeInteger 1337 5 0 ++ [7]) 5 = .ok (1337, [7]) ∧
    decodeInteger [31, 0x80, 0x80, 0x80, 0x80, 0x80, 0] 5 = .error (.compression "integer too large") :=
  ⟨⟨by decide, by decide⟩, (hpack_integer_round_trip_bounded 5 ⟨by decide, by decide⟩).1 1337 0 [7] rfl (by decide),
    (hpack_integer_round_trip_bounded 5 ⟨by decide, by decide⟩).2.2.2.2 31 0 [0x80, 0x80, 0x80, 0x80, 0x80] []
      (by decide) rfl (by simp)⟩

end Hpack

end Asupersync
