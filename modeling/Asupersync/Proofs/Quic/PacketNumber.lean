/-
Packet-number reconstruction (`decode_packet_number_reconstruct` in
`net/quic_core/mod.rs`) is exact within its window, and composes with
the sender's length choice (`packet_number_len_for_encoding`).

# The candidate

Once its checks pass, the decoder's first candidate is the expected
number's window of `2^(8 pn_len)` with the truncated bits in it:
`expected_pn & !pn_mask` rounds down to the window's start
(`ModWindow.and_xor_two_pow_sub_one`), and the OR adds the truncated bits
below it. The adjustment moves the candidate one window up or down
(`reconstructCandidate`), so what it returns keeps the truncated bits
(`reconstructCandidate_mod`).

# The window

RFC 9000 decodes to the number with the truncated bits nearest the
expected one, in `(expected - hwin, expected + hwin]`. That window holds
one number of each residue (`ModWindow.eq_of_mod_eq_of_window`), so when
it holds one within 62 bits the adjusted candidate is it
(`reconstructCandidate_eq_of_window`). The two cases where the candidate
stays put outside the window are the ones where no such number exists:
below the first window, or past `QUIC_PACKET_NUMBER_MAX` above it.

# The sender

The sender picks a width whose window covers `2 * gap + 1`, the gap
being to the largest acknowledged packet; every largest packet the
receiver can have seen since then puts the packet in its window.
-/
import Asupersync.Net.QuicCore
import Asupersync.Algebra.ModWindow

namespace Asupersync

namespace QuicCore

theorem quicPacketNumberMax_eq : quicPacketNumberMax = 2 ^ 62 - 1 := rfl

/-- `validate_pn_len` passes exactly the widths 1 to 4, unchanged. -/
theorem validatePnLen_eq_ok {l l' : UInt8} :
    validatePnLen l = .ok l' ↔ l' = l ∧ 1 ≤ l.toNat ∧ l.toNat ≤ 4 := by
  unfold validatePnLen
  split
  · next h =>
    rw [UInt8.le_iff_toNat_le, UInt8.le_iff_toNat_le] at h
    rw [Except.ok.injEq]
    constructor
    · rintro rfl
      exact ⟨rfl, h⟩
    · rintro ⟨rfl, -⟩
      rfl
  · next h =>
    rw [UInt8.le_iff_toNat_le, UInt8.le_iff_toNat_le] at h
    refine ⟨nofun, ?_⟩
    rintro ⟨-, h'⟩
    exact absurd h' h

-- ============================================================ candidate

/-- The decoder's candidate after its adjustment, on the expected number,
the window and the truncated bits: the window's start with the bits in
it, moved a window up or down. -/
def reconstructCandidate (expected win truncated : Nat) : Nat :=
  let c0 := expected / win * win + truncated
  if expected ≥ win / 2 ∧ c0 ≤ expected - win / 2 ∧ c0 < (quicPacketNumberMax + 1) - win then c0 + win
  else if c0 > expected + win / 2 ∧ c0 ≥ win then c0 - win
  else c0

/-- With its checks passed, the decoder returns the adjusted candidate
when it is within 62 bits. -/
theorem decodePacketNumberReconstruct_of_valid {truncatedPn : UInt32} {pnLen : UInt8} {largestPn : Nat}
    (hlen : 1 ≤ pnLen.toNat ∧ pnLen.toNat ≤ 4) (hlargest : largestPn ≤ quicPacketNumberMax)
    (ht : truncatedPn.toNat < 2 ^ (pnLen.toNat * 8)) :
    decodePacketNumberReconstruct truncatedPn pnLen largestPn =
      if reconstructCandidate (largestPn + 1) (2 ^ (pnLen.toNat * 8)) truncatedPn.toNat > quicPacketNumberMax
      then .error (.PacketNumberTooLarge truncatedPn pnLen)
      else .ok (reconstructCandidate (largestPn + 1) (2 ^ (pnLen.toNat * 8)) truncatedPn.toNat) := by
  have hv : validatePnLen pnLen = .ok pnLen := validatePnLen_eq_ok.mpr ⟨rfl, hlen⟩
  -- `expected_pn & !pn_mask | truncated_pn`: the window's start, and the bits
  have hcand : (largestPn + 1) &&& (u64Max ^^^ (2 ^ (pnLen.toNat * 8) - 1)) ||| truncatedPn.toNat =
      (largestPn + 1) / 2 ^ (pnLen.toNat * 8) * 2 ^ (pnLen.toNat * 8) + truncatedPn.toNat := by
    rw [quicPacketNumberMax_eq] at hlargest
    rw [u64Max, ModWindow.and_xor_two_pow_sub_one (by omega) (by omega), Bytes.mul_two_pow_or _ ht]
  unfold decodePacketNumberReconstruct
  simp only [hv, Nat.one_shiftLeft, hcand]
  rw [if_neg (Nat.not_lt_of_le hlargest), if_neg (by omega)]
  rfl

/-- What the decoder returns passed its checks, and is the adjusted
candidate within 62 bits. -/
theorem decodePacketNumberReconstruct_eq_ok {truncatedPn : UInt32} {pnLen : UInt8} {largestPn c : Nat}
    (h : decodePacketNumberReconstruct truncatedPn pnLen largestPn = .ok c) :
    (1 ≤ pnLen.toNat ∧ pnLen.toNat ≤ 4) ∧ truncatedPn.toNat < 2 ^ (pnLen.toNat * 8) ∧
      c = reconstructCandidate (largestPn + 1) (2 ^ (pnLen.toNat * 8)) truncatedPn.toNat ∧
      c ≤ quicPacketNumberMax := by
  -- each failed check ends the decoder with an error
  have hlen : 1 ≤ pnLen.toNat ∧ pnLen.toNat ≤ 4 := by
    cases hv : validatePnLen pnLen with
    | error e =>
      unfold decodePacketNumberReconstruct at h
      rw [hv] at h
      nomatch h
    | ok l => exact (validatePnLen_eq_ok.mp hv).2
  have hv : validatePnLen pnLen = .ok pnLen := validatePnLen_eq_ok.mpr ⟨rfl, hlen⟩
  have hlargest : largestPn ≤ quicPacketNumberMax := by
    refine Nat.le_of_not_lt fun hgt => ?_
    unfold decodePacketNumberReconstruct at h
    simp only [hv, if_pos hgt] at h
    nomatch h
  have ht : truncatedPn.toNat < 2 ^ (pnLen.toNat * 8) := by
    refine Nat.lt_of_not_le fun hge => ?_
    have := Nat.two_pow_pos (pnLen.toNat * 8)
    unfold decodePacketNumberReconstruct at h
    simp only [hv, if_neg (Nat.not_lt_of_le hlargest), Nat.one_shiftLeft,
      if_pos (show truncatedPn.toNat > 2 ^ (pnLen.toNat * 8) - 1 by omega)] at h
    nomatch h
  rw [decodePacketNumberReconstruct_of_valid hlen hlargest ht] at h
  split at h
  · nomatch h
  · next hmax =>
    cases h
    exact ⟨hlen, ht, rfl, Nat.le_of_not_lt hmax⟩

/-- The adjusted candidate keeps the truncated bits. -/
theorem reconstructCandidate_mod {e win t : Nat} (ht : t < win) :
    reconstructCandidate e win t % win = t := by
  have hc0 : (e / win * win + t) % win = t := by
    rw [Nat.mul_comm, Nat.mul_add_mod, Nat.mod_eq_of_lt ht]
  unfold reconstructCandidate
  dsimp only
  split_ifs with hup hdown
  · rw [Nat.add_mod_right, hc0]
  · rw [← Nat.mod_eq_sub_mod hdown.2, hc0]
  · exact hc0

/-- When the window `(e - win/2, e + win/2]` holds a number `c` within
62 bits with the truncated bits, the adjusted candidate is `c`. -/
theorem reconstructCandidate_eq_of_window {e win t c : Nat} (heven : win % 2 = 0) (hpos : 0 < win)
    (ht : t < win) (hc : c % win = t) (hlo : e < c + win / 2) (hhi : c ≤ e + win / 2)
    (hmax : c ≤ quicPacketNumberMax) : reconstructCandidate e win t = c := by
  have hwin : 2 * (win / 2) = win := by omega
  have hA : e / win * win ≤ e := Nat.div_mul_le_self e win
  have hA' : e < e / win * win + win := Nat.lt_div_mul_add hpos
  have hc0 : (e / win * win + t) % win = t := by
    rw [Nat.mul_comm, Nat.mul_add_mod, Nat.mod_eq_of_lt ht]
  -- every number of the window with the truncated bits is `c`
  have hsame : ∀ x, x % win = t → e < x + win / 2 → x ≤ e + win / 2 → x = c := fun x hx hxlo hxhi =>
    ModWindow.eq_of_mod_eq_of_window (by rw [hwin, hx, hc]) hxlo hxhi hlo hhi
  unfold reconstructCandidate
  dsimp only
  generalize e / win * win = A at hA hA' hc0
  split_ifs with hup hdown
  · -- one window up
    exact hsame _ (by rw [Nat.add_mod_right, hc0]) (by omega) (by omega)
  · -- one window down
    exact hsame _ (by rw [← Nat.mod_eq_sub_mod hdown.2, hc0]) (by omega) (by omega)
  · by_cases hin : e < A + t + win / 2 ∧ A + t ≤ e + win / 2
    · exact hsame _ hc0 hin.1 hin.2
    · rcases Nat.lt_or_ge (e + win / 2) (A + t) with habove | hbelow
      · -- above the window but in the first one: `c` would lie below zero
        have := ModWindow.add_le_of_mod_eq_of_lt (by rw [hc, hc0]) (Nat.lt_of_le_of_lt hhi habove)
        omega
      · -- below the window, and a window up would pass 62 bits: so would `c`
        have := ModWindow.add_le_of_mod_eq_of_lt (by rw [hc, hc0]) (show A + t < c by omega)
        omega

-- =============================================================== sender

/-- The width the sender picks covers twice the gap, and one more. -/
theorem packetNumberLenForEncoding_eq_ok {pn la : Nat} {l : UInt8}
    (h : packetNumberLenForEncoding pn la = .ok l) :
    pn ≤ quicPacketNumberMax ∧ 1 ≤ l.toNat ∧ l.toNat ≤ 4 ∧ 2 * (pn - la) + 1 ≤ 2 ^ (8 * l.toNat) := by
  unfold packetNumberLenForEncoding at h
  split at h
  · nomatch h
  · next hpn =>
    -- below `2^62` neither saturating operation saturates
    have hreq : saturatingAdd (saturatingMul (pn - la) 2) 1 = 2 * (pn - la) + 1 := by
      unfold saturatingAdd saturatingMul u64Max
      rw [quicPacketNumberMax_eq] at hpn
      omega
    have hpn' := Nat.le_of_not_lt hpn
    simp only [hreq, Nat.one_shiftLeft] at h
    split_ifs at h with h1 h2 h3 h4
    · cases h
      exact ⟨hpn', by decide, by decide, h1⟩
    · cases h
      exact ⟨hpn', by decide, by decide, h2⟩
    · cases h
      exact ⟨hpn', by decide, by decide, h3⟩
    · cases h
      exact ⟨hpn', by decide, by decide, h4⟩

-- ============================================================= exactness

/-- When the window around the expected number holds a number within 62
bits with the truncated bits, the decoder returns it. -/
theorem decodePacketNumberReconstruct_of_window {truncated : UInt32} {pnLen : UInt8} {largestPn c : Nat}
    (hlen : 1 ≤ pnLen.toNat ∧ pnLen.toNat ≤ 4) (hlargest : largestPn ≤ quicPacketNumberMax)
    (ht : truncated.toNat < 2 ^ (8 * pnLen.toNat)) (hc : c % 2 ^ (8 * pnLen.toNat) = truncated.toNat)
    (hlo : largestPn + 1 < c + 2 ^ (8 * pnLen.toNat) / 2) (hhi : c ≤ largestPn + 1 + 2 ^ (8 * pnLen.toNat) / 2)
    (hmax : c ≤ quicPacketNumberMax) :
    decodePacketNumberReconstruct truncated pnLen largestPn = .ok c := by
  rw [Nat.mul_comm] at ht hc hlo hhi
  have heven : 2 ^ (pnLen.toNat * 8) % 2 = 0 := by
    obtain ⟨k, hk⟩ : ∃ k, pnLen.toNat * 8 = k + 1 := ⟨pnLen.toNat * 8 - 1, by omega⟩
    rw [hk, Nat.pow_succ]
    omega
  rw [decodePacketNumberReconstruct_of_valid hlen hlargest ht,
    reconstructCandidate_eq_of_window heven (Nat.two_pow_pos _) ht hc hlo hhi hmax, if_neg (Nat.not_lt_of_le hmax)]

/-- Packet-number reconstruction is exact within its window: it returns
the number in `(expected - hwin, expected + hwin]` with the truncated
bits when one is within 62 bits; whatever it returns has the truncated
bits and is within 62 bits; and a packet sent with the width
`packet_number_len_for_encoding` picks is decoded back by a receiver
whose largest packet is at or after the sender's largest acknowledged. -/
theorem packet_number_reconstruct_in_window :
    (∀ (truncated : UInt32) (pnLen : UInt8) (largestPn c : Nat),
      1 ≤ pnLen.toNat → pnLen.toNat ≤ 4 → largestPn ≤ quicPacketNumberMax →
      truncated.toNat < 2 ^ (8 * pnLen.toNat) → c % 2 ^ (8 * pnLen.toNat) = truncated.toNat →
      largestPn + 1 < c + 2 ^ (8 * pnLen.toNat) / 2 → c ≤ largestPn + 1 + 2 ^ (8 * pnLen.toNat) / 2 →
      c ≤ quicPacketNumberMax →
      decodePacketNumberReconstruct truncated pnLen largestPn = .ok c) ∧
    (∀ (truncated : UInt32) (pnLen : UInt8) (largestPn c : Nat),
      decodePacketNumberReconstruct truncated pnLen largestPn = .ok c →
      c % 2 ^ (8 * pnLen.toNat) = truncated.toNat ∧ c ≤ quicPacketNumberMax) ∧
    (∀ (largestAcked pn largestPn : Nat) (l : UInt8),
      largestAcked < pn → pn ≤ quicPacketNumberMax → packetNumberLenForEncoding pn largestAcked = .ok l →
      largestAcked ≤ largestPn → largestPn < pn →
      decodePacketNumberReconstruct (pn % 2 ^ (8 * l.toNat)).toUInt32 l largestPn = .ok pn) := by
  refine ⟨fun truncated pnLen largestPn c hl1 hl4 hlargest ht hc hlo hhi hmax =>
    decodePacketNumberReconstruct_of_window ⟨hl1, hl4⟩ hlargest ht hc hlo hhi hmax, ?_, ?_⟩
  · intro truncated pnLen largestPn c h
    obtain ⟨-, ht, rfl, hmax⟩ := decodePacketNumberReconstruct_eq_ok h
    rw [Nat.mul_comm 8]
    exact ⟨reconstructCandidate_mod ht, hmax⟩
  · intro largestAcked pn largestPn l hlt hpn henc hacked hlargest
    obtain ⟨-, hl1, hl4, hgap⟩ := packetNumberLenForEncoding_eq_ok henc
    -- the window is at most `2^32`, so the truncated bits are a `u32`
    have hwin : 2 ^ (8 * l.toNat) ≤ 2 ^ 32 := Nat.pow_le_pow_right (by decide) (by omega)
    have hmod := Nat.mod_lt pn (Nat.two_pow_pos (8 * l.toNat))
    have htrunc : (pn % 2 ^ (8 * l.toNat)).toUInt32.toNat = pn % 2 ^ (8 * l.toNat) :=
      UInt32.toNat_ofNat_of_lt' (Nat.lt_of_lt_of_le hmod (Nat.le_trans hwin (by decide)))
    have heven : 2 * (2 ^ (8 * l.toNat) / 2) = 2 ^ (8 * l.toNat) := by
      obtain ⟨k, hk⟩ : ∃ k, 8 * l.toNat = k + 1 := ⟨8 * l.toNat - 1, by omega⟩
      rw [hk, Nat.pow_succ]
      omega
    refine decodePacketNumberReconstruct_of_window ⟨hl1, hl4⟩ (by omega) (by omega) htrunc.symm
      ?_ ?_ hpn
    · have := Nat.two_pow_pos (8 * l.toNat)
      omega
    · omega

theorem packet_number_reconstruct_rfc_example :
    decodePacketNumberReconstruct 0x9b32 2 0xa82f30ea = .ok 0xa82f9b32 ∧
    decodePacketNumberReconstruct (0xac5c02 % 2 ^ (8 * (2 : UInt8).toNat)).toUInt32 2 0xabe8b3 = .ok 0xac5c02 :=
  ⟨packet_number_reconstruct_in_window.1 0x9b32 2 0xa82f30ea 0xa82f9b32 (by decide) (by decide)
      (by decide) (by decide) (by decide) (by decide) (by decide) (by decide),
    packet_number_reconstruct_in_window.2.2 0xabe8b3 0xac5c02 0xabe8b3 2 (by decide) (by decide)
      (by decide) (by decide) (by decide)⟩

end QuicCore

end Asupersync
