/-
The QUIC packet headers (`PacketHeader::encode` and `PacketHeader::decode`
in `net/quic_core/mod.rs`) read back what they write.

# Writing

Each header form writes a fixed sequence of fields: `LongHeader.wire`,
`RetryHeader.wire` and `ShortHeader.wire` name the bytes, and
`PacketHeader.Encodable` the checks the encoder makes before it writes
(a packet-number length of 1 to 4 that holds the packet number, a
payload length no shorter than it, a token only on `Initial`, and
`Retry` only in its own form). Long-header encoding checks the payload
varint after it has written the first fields, so what it shows is an
`OkAppends`: when the run succeeds, the checks held and the header's
bytes were appended (`PacketHeader.encode_okAppends`).

# Reading

The decoder walks the same fields. The lemmas here read one field each,
given what the input holds from its offset on (`readCid_of_drop`,
`readPacketNumber_of_drop`, `readInitialToken_tokenField`), and the
prefix the long and Retry forms share is read once
(`longPrefix_reads`). The first byte of each form passes the decoder's
checks and gives back the type, the packet-number length and the
flags (`longFirst_facts`, `shortFirst_facts`): there are at most
4 × 4 × 2 × 2 first bytes, so these are decided.

A long or short header followed by any bytes decodes to itself and
the header's length (`decodeLongHeader_wire`, `decodeShortHeader_wire`).
A Retry header takes its token as everything before the last 16 bytes,
so it decodes to itself only as the whole input
(`decodeLongHeader_retryWire`). `PacketHeader.decode_wire` dispatches on
the top bit of the first byte.
-/
import Asupersync.Proofs.Quic.Varint
import Asupersync.Proofs.Quic.PacketNumber

namespace Asupersync

namespace QuicCore

open Bytes (be32 bytesBE putU32 length_bytesBE length_putU32 be32_putU32 drop_bytesBE bytesBE_add_of_lt
  toNat_be32_bytesBE tryCopyFromSlice_toList)
open Machine (OkAppends)

-- ============================================================ field readers

/-- A valid packet-number length is one of 1, 2, 3 and 4. -/
theorem uint8_cases {l : UInt8} (hl : 1 ≤ l.toNat ∧ l.toNat ≤ 4) : l = 1 ∨ l = 2 ∨ l = 3 ∨ l = 4 := by
  have : l.toNat = 1 ∨ l.toNat = 2 ∨ l.toNat = 3 ∨ l.toNat = 4 := by omega
  rcases this with h | h | h | h
  · exact .inl (UInt8.toNat_inj.mp h)
  · exact .inr (.inl (UInt8.toNat_inj.mp h))
  · exact .inr (.inr (.inl (UInt8.toNat_inj.mp h)))
  · exact .inr (.inr (.inr (UInt8.toNat_inj.mp h)))

/-- What `ensure_pn_fits` checks: a valid length that holds the packet
number. -/
theorem ensurePnFits_eq_ok {pn : Nat} {l : UInt8} {u : Unit} (h : ensurePnFits pn l = .ok u) :
    (1 ≤ l.toNat ∧ l.toNat ≤ 4) ∧ pn < 2 ^ (8 * l.toNat) := by
  unfold ensurePnFits at h
  cases hv : validatePnLen l with
  | error e =>
    rw [hv] at h
    nomatch h
  | ok l' =>
    obtain ⟨-, hl⟩ := validatePnLen_eq_ok.mp hv
    rw [hv] at h
    refine ⟨hl, ?_⟩
    have hmax : quicPacketNumberMax = 2 ^ 62 - 1 := rfl
    -- the width's bound is `2^(8 * width) - 1`
    have hfit : pn ≤ 2 ^ (8 * l.toNat) - 1 := by
      rcases uint8_cases hl with rfl | rfl | rfl | rfl <;>
      · simp only [bind, Except.bind, pure, Except.pure] at h
        split_ifs at h with h1 h2
        exact h2
    have := Nat.two_pow_pos (8 * l.toNat)
    omega

theorem getElem!_of_drop_eq_cons {l : List UInt8} {n : Nat} {b : UInt8} {r : List UInt8}
    (h : l.drop n = b :: r) : l[n]! = b := by
  have h' : l[n]? = some b := by
    have := congrArg (·[0]?) h
    simpa [List.getElem?_drop] using this
  simp [getElem!_def, h']

/-- `read_cid` reads the connection ID that starts at `pos`. -/
theorem readCid_of_drop {input : List UInt8} {pos : Nat} {c : ConnectionId} {rest : List UInt8}
    (h : input.drop pos = c.bytes ++ rest) : readCid input pos c.len = .ok (c, pos + c.len) := by
  have hle := c.length_le
  have hlen : input.length - pos = c.bytes.length + rest.length := by
    rw [← List.length_drop, h, List.length_append]
  unfold readCid ConnectionId.len
  simp only [h, List.take_left', ConnectionId.new]
  rw [if_neg (Nat.not_lt_of_le hle), if_neg (by omega), dif_neg (Nat.not_lt_of_le hle)]
  rfl

/-- `read_packet_number` reads back the low bytes `write_packet_number`
wrote. -/
theorem readPacketNumber_of_drop {input : List UInt8} {pos pn : Nat} {l : UInt8} {rest : List UInt8}
    (hl : 1 ≤ l.toNat ∧ l.toNat ≤ 4) (hpn : pn < 2 ^ (8 * l.toNat))
    (h : input.drop pos = (bytesBE 8 pn).drop (8 - l.toNat) ++ rest) :
    ∃ n : UInt32, readPacketNumber input pos l = .ok (n, pos + l.toNat) ∧ n.toNat = pn := by
  have hv : validatePnLen l = .ok l := validatePnLen_eq_ok.mpr ⟨rfl, hl⟩
  have hpn' : pn < 256 ^ l.toNat := by rwa [Nat.pow_mul] at hpn
  -- the low bytes of the packet number, zero-extended to four
  have hlow : (bytesBE 8 pn).drop (8 - l.toNat) = bytesBE l.toNat pn := by
    have := drop_bytesBE l.toNat pn (8 - l.toNat)
    rwa [Nat.sub_add_cancel (by omega : l.toNat ≤ 8)] at this
  have hout : List.replicate (4 - l.toNat) 0 ++ bytesBE l.toNat pn = bytesBE 4 pn := by
    rw [← bytesBE_add_of_lt hpn', Nat.sub_add_cancel hl.2]
  have hlen : input.length - pos = l.toNat + rest.length := by
    rw [← List.length_drop, h, List.length_append, hlow, length_bytesBE]
  unfold readPacketNumber
  simp only [hv, bind, Except.bind, h, hlow, List.take_left' (length_bytesBE _ _), hout]
  rw [if_neg (by omega)]
  refine ⟨_, rfl, ?_⟩
  rw [toNat_be32_bytesBE, Nat.mod_eq_of_lt (Nat.lt_of_lt_of_le hpn (Nat.pow_le_pow_right (by decide) (by omega)))]

-- ============================================================ long headers

/-- The type bits `encode_long_header` writes. -/
def LongPacketType.bits : LongPacketType → UInt8
  | .Initial => 0
  | .ZeroRtt => 1
  | .Handshake => 2
  | .Retry => 3

/-- The token `encode_long_header` writes: a varint length and the
bytes on `Initial`, nothing on the other types. -/
def LongHeader.tokenField (h : LongHeader) : List UInt8 :=
  if h.packetType = .Initial then rfcVarint (varintLen h.token.length) h.token.length ++ h.token else []

/-- The bytes `encode_long_header` writes. -/
def LongHeader.wire (h : LongHeader) : List UInt8 :=
  ((0xc0 : UInt8) ||| (h.packetType.bits <<< 4) ||| (h.packetNumberLen - 1)) ::
    (putU32 h.version ++ (h.dstCid.len.toUInt8 :: (h.dstCid.bytes ++ (h.srcCid.len.toUInt8 ::
      (h.srcCid.bytes ++ (h.tokenField ++ (rfcVarint (varintLen h.payloadLength) h.payloadLength ++
        (bytesBE 8 h.packetNumber).drop (8 - h.packetNumberLen.toNat))))))))

/-- What `encode_long_header` checks before it succeeds. -/
structure LongHeader.Encodable (h : LongHeader) : Prop where
  pnLen : 1 ≤ h.packetNumberLen.toNat ∧ h.packetNumberLen.toNat ≤ 4
  pn_lt : h.packetNumber < 2 ^ (8 * h.packetNumberLen.toNat)
  token_nil : h.packetType ≠ .Initial → h.token = []
  pnLen_le_payload : h.packetNumberLen.toNat ≤ h.payloadLength
  not_retry : h.packetType ≠ .Retry
  token_le : h.token.length ≤ quicVarintMax
  payload_le : h.payloadLength ≤ quicVarintMax

/-- The six writes of the prefix every long header shares. -/
theorem sixWrites_okAppends {a c e : UInt8} {b d f o : List UInt8} {m : EStateM QuicCoreError (List UInt8) Unit}
    {cond : Prop} (hm : OkAppends m cond o) :
    OkAppends (do
        BytesMut.putU8 a
        BytesMut.extendFromSlice b
        BytesMut.putU8 c
        BytesMut.extendFromSlice d
        BytesMut.putU8 e
        BytesMut.extendFromSlice f
        m) cond (a :: (b ++ (c :: (d ++ (e :: (f ++ o)))))) :=
  OkAppends.mono
    (OkAppends.bind (OkAppends.of_appends_ok (BytesMut.putU8_appends a))
    (OkAppends.bind (OkAppends.of_appends_ok (BytesMut.extendFromSlice_appends b))
    (OkAppends.bind (OkAppends.of_appends_ok (BytesMut.putU8_appends c))
    (OkAppends.bind (OkAppends.of_appends_ok (BytesMut.extendFromSlice_appends d))
    (OkAppends.bind (OkAppends.of_appends_ok (BytesMut.putU8_appends e))
    (OkAppends.bind (OkAppends.of_appends_ok (BytesMut.extendFromSlice_appends f)) hm))))))
    (fun hc => hc.2.2.2.2.2.2) rfl

theorem encodeLongHeader_okAppends (h : LongHeader) : OkAppends (encodeLongHeader h) h.Encodable h.wire := by
  obtain ⟨pt, version, dcid, scid, token, payload, pn, pnl⟩ := h
  unfold encodeLongHeader
  refine OkAppends.mono (OkAppends.ofExcept_bind fun pnLen hv => ?_) (fun hc => hc.2) rfl
  obtain ⟨rfl, hlen⟩ := validatePnLen_eq_ok.mp hv
  refine OkAppends.mono (OkAppends.ofExcept_bind fun _ hfits => ?_) (fun hc => hc.2) rfl
  obtain ⟨-, hpn⟩ := ensurePnFits_eq_ok hfits
  cases pt with
  | Initial =>
    simp only [ne_eq, not_true_eq_false, false_and, ↓reduceIte]
    by_cases hpay : payload < pnLen.toNat
    · rw [if_pos hpay]
      exact OkAppends.mono (OkAppends.throw_bind _ _) False.elim rfl
    · rw [if_neg hpay, pure_bind]
      refine OkAppends.mono (sixWrites_okAppends
        (OkAppends.bind (encodeVarint_okAppends _)
        (OkAppends.bind (OkAppends.of_appends_ok (BytesMut.extendFromSlice_appends _))
        (OkAppends.bind (encodeVarint_okAppends _)
          (OkAppends.of_appends_ok (BytesMut.extendFromSlice_appends _))))))
        (fun hc => ⟨hlen, hpn, nofun, Nat.le_of_not_lt hpay, nofun, hc.1, hc.2.2.1⟩) ?_
      simp only [LongHeader.wire, LongHeader.tokenField, ↓reduceIte, List.append_assoc]
      rfl
  | ZeroRtt | Handshake =>
    simp only [ne_eq, reduceCtorEq, not_false_eq_true, true_and, ↓reduceIte]
    by_cases htok : token = []
    · subst htok
      simp only [not_true_eq_false, ↓reduceIte]
      by_cases hpay : payload < pnLen.toNat
      · rw [if_pos hpay]
        exact OkAppends.mono (OkAppends.throw_bind _ _) False.elim rfl
      · rw [if_neg hpay, pure_bind]
        refine OkAppends.mono (sixWrites_okAppends
          (OkAppends.bind (encodeVarint_okAppends _)
            (OkAppends.of_appends_ok (BytesMut.extendFromSlice_appends _))))
          (fun hc => ⟨hlen, hpn, fun _ => rfl, Nat.le_of_not_lt hpay, nofun, Nat.zero_le _, hc.1⟩) ?_
        simp only [LongHeader.wire, LongHeader.tokenField, reduceCtorEq, ↓reduceIte, List.nil_append]
        rfl
    · rw [if_pos htok]
      exact OkAppends.mono (OkAppends.throw_bind _ _) False.elim rfl
  | Retry =>
    -- the checks before the type may pass, but the type refuses `Retry`
    simp only [ne_eq, reduceCtorEq, not_false_eq_true, true_and, ↓reduceIte]
    split_ifs
    all_goals exact OkAppends.mono (OkAppends.throw_bind _ _) False.elim rfl

/-- The first byte of a long header passes the decoder's checks and
gives back its type and packet-number length. -/
theorem longFirst_facts {pt : LongPacketType} (hpt : pt ≠ .Retry) {l : UInt8} (hl : 1 ≤ l.toNat ∧ l.toNat ≤ 4) :
    ((0xc0 : UInt8) ||| (pt.bits <<< 4) ||| (l - 1)) &&& 0x80 ≠ 0 ∧
    ((0xc0 : UInt8) ||| (pt.bits <<< 4) ||| (l - 1)) &&& 0x40 ≠ 0 ∧
    LongPacketType.ofBits ((((0xc0 : UInt8) ||| (pt.bits <<< 4) ||| (l - 1)) >>> 4) &&& 0x03) = pt ∧
    ((0xc0 : UInt8) ||| (pt.bits <<< 4) ||| (l - 1)) &&& 0x0c = 0 ∧
    (((0xc0 : UInt8) ||| (pt.bits <<< 4) ||| (l - 1)) &&& 0x03) + 1 = l := by
  rcases uint8_cases hl with rfl | rfl | rfl | rfl <;> cases pt <;> first | exact absurd rfl hpt | decide

theorem readInitialToken_tokenField {input : List UInt8} {pos : Nat} {h : LongHeader} {rest : List UInt8}
    (htok : h.packetType ≠ .Initial → h.token = []) (hle : h.token.length ≤ quicVarintMax)
    (hd : input.drop pos = h.tokenField ++ rest) :
    readInitialToken input pos h.packetType = .ok (h.token, pos + h.tokenField.length) := by
  unfold readInitialToken
  by_cases hI : h.packetType = .Initial
  · rw [if_pos hI]
    rw [LongHeader.tokenField, if_pos hI, List.append_assoc] at hd
    have hlen : input.length - (pos + varintLen h.token.length) = h.token.length + rest.length := by
      have := congrArg List.length hd
      simp only [List.length_drop, List.length_append, length_rfcVarint] at this
      omega
    have hd' : input.drop (pos + varintLen h.token.length) = h.token ++ rest := by
      rw [← List.drop_drop, hd, List.drop_left' (length_rfcVarint _ _)]
    simp only [hd, decodeVarint_encoding hle, bind, Except.bind, hd', List.take_left']
    rw [if_neg (by omega)]
    simp only [LongHeader.tokenField, if_pos hI, List.length_append, length_rfcVarint, Nat.add_assoc]
    rfl
  · rw [if_neg hI, htok hI]
    simp only [LongHeader.tokenField, if_neg hI, List.length_nil, Nat.add_zero]
    rfl

/-- What the decoder reads from the prefix every long header shares: the
first byte, the version and the two connection IDs, each with its length
byte in front. -/
theorem longPrefix_reads {input rest : List UInt8} {first : UInt8} {version : UInt32} {d c : ConnectionId}
    (hin : input = first :: (putU32 version ++ (d.len.toUInt8 :: (d.bytes ++
      (c.len.toUInt8 :: (c.bytes ++ rest)))))) :
    input[0]! = first ∧ be32 input[1]! input[2]! input[3]! input[4]! = version ∧
      input[5]!.toNat = d.len ∧ readCid input 6 d.len = .ok (d, 6 + d.len) ∧
      input[6 + d.len]!.toNat = c.len ∧
      readCid input (6 + d.len + 1) c.len = .ok (c, 6 + d.len + 1 + c.len) ∧
      input.drop (6 + d.len + 1 + c.len) = rest ∧ input.length = 7 + d.len + c.len + rest.length := by
  have hdle : d.len < 256 := by
    have := d.length_le
    unfold ConnectionId.len ConnectionId.maxLen at *
    omega
  have hcle : c.len < 256 := by
    have := c.length_le
    unfold ConnectionId.len ConnectionId.maxLen at *
    omega
  -- where each field starts
  have hd1 : input.drop 1 = putU32 version ++ (d.len.toUInt8 :: (d.bytes ++ (c.len.toUInt8 :: (c.bytes ++ rest)))) := by
    rw [hin, List.drop_one, List.tail_cons]
  have hd5 : input.drop 5 = d.len.toUInt8 :: (d.bytes ++ (c.len.toUInt8 :: (c.bytes ++ rest))) := by
    rw [show 5 = 1 + 4 from rfl, ← List.drop_drop, hd1, List.drop_left' (length_putU32 _)]
  have hd6 : input.drop 6 = d.bytes ++ (c.len.toUInt8 :: (c.bytes ++ rest)) := by
    rw [show 6 = 5 + 1 from rfl, ← List.drop_drop, hd5, List.drop_one, List.tail_cons]
  have hdS : input.drop (6 + d.len) = c.len.toUInt8 :: (c.bytes ++ rest) := by
    rw [← List.drop_drop, hd6, List.drop_left' (show d.bytes.length = d.len from rfl)]
  have hdS1 : input.drop (6 + d.len + 1) = c.bytes ++ rest := by
    rw [← List.drop_drop, hdS, List.drop_one, List.tail_cons]
  refine ⟨by rw [hin, List.getElem!_cons_zero], ?_, ?_, readCid_of_drop hd6, ?_, readCid_of_drop hdS1, ?_, ?_⟩
  · rw [hin]
    simp only [putU32, List.cons_append, List.getElem!_cons_succ, List.getElem!_cons_zero]
    exact be32_putU32 _
  · rw [getElem!_of_drop_eq_cons hd5, toNat_toUInt8, Nat.mod_eq_of_lt hdle]
  · rw [getElem!_of_drop_eq_cons hdS, toNat_toUInt8, Nat.mod_eq_of_lt hcle]
  · rw [← List.drop_drop, hdS1, List.drop_left' (show c.bytes.length = c.len from rfl)]
  · rw [hin]
    simp only [List.length_cons, List.length_append, length_putU32, ConnectionId.len]
    omega

theorem decodeLongHeader_wire {h : LongHeader} (he : h.Encodable) (s : List UInt8) :
    decodeLongHeader (h.wire ++ s) = .ok (.Long h, h.wire.length) := by
  obtain ⟨hlen, hpn, htok, hpay, hretry, htokle, hpayle⟩ := he
  obtain ⟨-, h40, hty, hres, hpnl⟩ := longFirst_facts hretry hlen
  generalize hfirst : (0xc0 : UInt8) ||| (h.packetType.bits <<< 4) ||| (h.packetNumberLen - 1) = first
    at h40 hty hres hpnl
  generalize hN : (bytesBE 8 h.packetNumber).drop (8 - h.packetNumberLen.toNat) = N
  have hwire : h.wire = first :: (putU32 h.version ++ (h.dstCid.len.toUInt8 :: (h.dstCid.bytes ++
      (h.srcCid.len.toUInt8 :: (h.srcCid.bytes ++
        (h.tokenField ++ (rfcVarint (varintLen h.payloadLength) h.payloadLength ++ N))))))) := by
    rw [← hfirst, ← hN]
    rfl
  generalize hinput : h.wire ++ s = input
  obtain ⟨h0, hversion, h5, hcid1, hS, hcid2, hdT, hlength⟩ := longPrefix_reads
    (show input = first :: (putU32 h.version ++ (h.dstCid.len.toUInt8 :: (h.dstCid.bytes ++
      (h.srcCid.len.toUInt8 :: (h.srcCid.bytes ++
        (h.tokenField ++ (rfcVarint (varintLen h.payloadLength) h.payloadLength ++ (N ++ s)))))))) by
      rw [← hinput, hwire]
      simp only [List.cons_append, List.append_assoc])
  have htoken := readInitialToken_tokenField htok htokle hdT
  -- the payload length and the packet number after the token
  have hdP : input.drop (6 + h.dstCid.len + 1 + h.srcCid.len + h.tokenField.length) =
      rfcVarint (varintLen h.payloadLength) h.payloadLength ++ (N ++ s) := by
    rw [← List.drop_drop, hdT, List.drop_left' rfl]
  have hpayload := decodeVarint_encoding hpayle (N ++ s)
  rw [← hdP] at hpayload
  have hdN : input.drop (6 + h.dstCid.len + 1 + h.srcCid.len + h.tokenField.length +
      varintLen h.payloadLength) = (bytesBE 8 h.packetNumber).drop (8 - h.packetNumberLen.toNat) ++ s := by
    rw [← List.drop_drop, hdP, List.drop_left' (length_rfcVarint _ _), hN]
  obtain ⟨n, hread, hn⟩ := readPacketNumber_of_drop hlen hpn hdN
  have hwl : h.wire.length = 6 + h.dstCid.len + 1 + h.srcCid.len + h.tokenField.length +
      varintLen h.payloadLength + h.packetNumberLen.toNat := by
    rw [hwire, ← hN]
    simp only [List.length_cons, List.length_append, length_putU32, length_rfcVarint, List.length_drop,
      length_bytesBE, ConnectionId.len]
    omega
  have hc1 : ¬ (input.length < 6) := by omega
  have hc2 : ¬ (6 + h.dstCid.len ≥ input.length) := by simp only [hlength, List.length_append]; omega
  have hc3 : ¬ (h.payloadLength < h.packetNumberLen.toNat) := by omega
  unfold decodeLongHeader
  simp only [h0, h40, hty, hretry, hres, hversion, h5, hcid1, hS, hcid2, htoken, hpayload, hpnl, hread,
    bind, Except.bind, pure, Except.pure, ↓reduceIte, hc1, hc2, hc3, ne_eq, not_true_eq_false, hn, hwl]

-- ============================================================ Retry headers

/-- The bytes `encode_retry_header` writes. -/
def RetryHeader.wire (h : RetryHeader) : List UInt8 :=
  (0xf0 : UInt8) :: (putU32 h.version ++ (h.dstCid.len.toUInt8 :: (h.dstCid.bytes ++ (h.srcCid.len.toUInt8 ::
    (h.srcCid.bytes ++ (h.token ++ h.integrityTag.toList))))))

theorem encodeRetryHeader_okAppends (h : RetryHeader) : OkAppends (encodeRetryHeader h) True h.wire :=
  OkAppends.mono (sixWrites_okAppends
    (OkAppends.bind (OkAppends.of_appends_ok (BytesMut.extendFromSlice_appends _))
      (OkAppends.of_appends_ok (BytesMut.extendFromSlice_appends _))))
    (fun _ => trivial) rfl

theorem decodeLongHeader_retryWire (h : RetryHeader) :
    decodeLongHeader h.wire = .ok (.Retry h, h.wire.length) := by
  generalize hinput : h.wire = input
  obtain ⟨h0, hversion, h5, hcid1, hS, hcid2, hdT, hlength⟩ := longPrefix_reads
    (show input = (0xf0 : UInt8) :: (putU32 h.version ++ (h.dstCid.len.toUInt8 :: (h.dstCid.bytes ++
      (h.srcCid.len.toUInt8 :: (h.srcCid.bytes ++ (h.token ++ h.integrityTag.toList)))))) from hinput.symm)
  have htagLen : h.integrityTag.toList.length = 16 := by simp
  have hc1 : ¬ (input.length < 6) := by simp only [hlength]; omega
  have hc2 : ¬ (6 + h.dstCid.len ≥ input.length) := by simp only [hlength, List.length_append]; omega
  have hc3 : ¬ (input.length - (6 + h.dstCid.len + 1 + h.srcCid.len) < 16) := by
    simp only [hlength, List.length_append]; omega
  have hend : input.length - 16 = 6 + h.dstCid.len + 1 + h.srcCid.len + h.token.length := by
    simp only [hlength, List.length_append]; omega
  have htoken : Bytes.slice input (6 + h.dstCid.len + 1 + h.srcCid.len) (input.length - 16) = h.token := by
    rw [Bytes.slice, hdT, hend, Nat.add_sub_cancel_left, List.take_left' rfl]
  have htag : input.drop (input.length - 16) = h.integrityTag.toList := by
    rw [hend, ← List.drop_drop, hdT, List.drop_left' rfl]
  unfold decodeLongHeader
  simp only [h0, hversion, h5, hcid1, hS, hcid2, htoken, htag, tryCopyFromSlice_toList,
    bind, Except.bind, pure, Except.pure, ↓reduceIte, hc1, hc2, hc3, ne_eq, not_true_eq_false,
    show (0xf0 : UInt8) &&& 0x40 = 0 ↔ False by decide,
    show LongPacketType.ofBits (((0xf0 : UInt8) >>> 4) &&& 0x03) = .Retry by decide,
    show (0xf0 : UInt8) &&& 0x0f = 0 by decide]

-- ============================================================ short headers

/-- The first byte `encode_short_header` writes. -/
def ShortHeader.firstByte (h : ShortHeader) : UInt8 :=
  let first : UInt8 := (0x40 : UInt8) ||| (h.packetNumberLen - 1)
  let first := if h.spin then first ||| 0x20 else first
  if h.keyPhase then first ||| 0x04 else first

/-- The bytes `encode_short_header` writes. -/
def ShortHeader.wire (h : ShortHeader) : List UInt8 :=
  h.firstByte :: (h.dstCid.bytes ++ (bytesBE 8 h.packetNumber).drop (8 - h.packetNumberLen.toNat))

theorem encodeShortHeader_okAppends (h : ShortHeader) :
    OkAppends (encodeShortHeader h)
      ((1 ≤ h.packetNumberLen.toNat ∧ h.packetNumberLen.toNat ≤ 4) ∧
        h.packetNumber < 2 ^ (8 * h.packetNumberLen.toNat)) h.wire := by
  unfold encodeShortHeader
  refine OkAppends.mono (OkAppends.ofExcept_bind fun pnLen hv => ?_) (fun hc => hc.2) rfl
  obtain ⟨rfl, -⟩ := validatePnLen_eq_ok.mp hv
  refine OkAppends.mono (OkAppends.ofExcept_bind fun _ hfits => ?_) (fun hc => hc.2) rfl
  exact OkAppends.mono
    (OkAppends.bind (OkAppends.of_appends_ok (BytesMut.putU8_appends _))
    (OkAppends.bind (OkAppends.of_appends_ok (BytesMut.extendFromSlice_appends _))
      (OkAppends.of_appends_ok (BytesMut.extendFromSlice_appends _))))
    (fun _ => ensurePnFits_eq_ok hfits) rfl

/-- The first byte of a short header passes the decoder's checks and
gives back its packet-number length and flags. -/
theorem shortFirst_facts (h : ShortHeader) (hl : 1 ≤ h.packetNumberLen.toNat ∧ h.packetNumberLen.toNat ≤ 4) :
    ¬ (h.firstByte &&& 0x80 ≠ 0) ∧ h.firstByte &&& 0x40 ≠ 0 ∧ h.firstByte &&& 0x18 = 0 ∧
      (h.firstByte &&& 0x03) + 1 = h.packetNumberLen ∧ decide (h.firstByte &&& 0x20 ≠ 0) = h.spin ∧
      decide (h.firstByte &&& 0x04 ≠ 0) = h.keyPhase := by
  unfold ShortHeader.firstByte
  generalize h.spin = spin, h.keyPhase = keyPhase
  generalize h.packetNumberLen = l at hl ⊢
  rcases uint8_cases hl with rfl | rfl | rfl | rfl <;> cases spin <;> cases keyPhase <;> decide

theorem decodeShortHeader_wire {h : ShortHeader} (hl : 1 ≤ h.packetNumberLen.toNat ∧ h.packetNumberLen.toNat ≤ 4)
    (hpn : h.packetNumber < 2 ^ (8 * h.packetNumberLen.toNat)) (s : List UInt8) :
    decodeShortHeader (h.wire ++ s) h.dstCid.len = .ok (h, h.wire.length) := by
  obtain ⟨-, h40, hres, hpnl, hspin, hkey⟩ := shortFirst_facts h hl
  generalize hN : (bytesBE 8 h.packetNumber).drop (8 - h.packetNumberLen.toNat) = N
  have hwire : h.wire = h.firstByte :: (h.dstCid.bytes ++ N) := by rw [ShortHeader.wire, hN]
  have hwl : h.wire.length = 1 + h.dstCid.len + h.packetNumberLen.toNat := by
    simp only [hwire, ← hN, List.length_cons, List.length_append, List.length_drop, length_bytesBE,
      ConnectionId.len]
    omega
  generalize hinput : h.wire ++ s = input
  have hne : input ≠ [] := by simp [← hinput, hwire]
  have h0 : input[0]! = h.firstByte := by simp [← hinput, hwire]
  have hd1 : input.drop 1 = h.dstCid.bytes ++ (N ++ s) := by
    simp [← hinput, hwire]
  have hdN : input.drop (1 + h.dstCid.len) = (bytesBE 8 h.packetNumber).drop (8 - h.packetNumberLen.toNat) ++ s := by
    rw [← List.drop_drop, hd1, List.drop_left' (show h.dstCid.bytes.length = h.dstCid.len from rfl), hN]
  have hcid := readCid_of_drop hd1
  obtain ⟨n, hread, hn⟩ := readPacketNumber_of_drop hl hpn hdN
  unfold decodeShortHeader
  simp only [hne, h0, h40, hres, hcid, hpnl, hread, hspin, hkey, hn, hwl, bind, Except.bind, pure, Except.pure,
    ↓reduceIte, ne_eq, not_true_eq_false]

-- ============================================================ any header

/-- The bytes `PacketHeader::encode` writes. -/
def PacketHeader.wire : PacketHeader → List UInt8
  | .Long h => h.wire
  | .Retry h => h.wire
  | .Short h => h.wire

/-- What `PacketHeader::encode` checks before it succeeds. -/
def PacketHeader.Encodable : PacketHeader → Prop
  | .Long h => h.Encodable
  | .Retry _ => True
  | .Short h => (1 ≤ h.packetNumberLen.toNat ∧ h.packetNumberLen.toNat ≤ 4) ∧
      h.packetNumber < 2 ^ (8 * h.packetNumberLen.toNat)

/-- The destination connection ID of any header form. -/
def PacketHeader.dstCid : PacketHeader → ConnectionId
  | .Long h => h.dstCid
  | .Retry h => h.dstCid
  | .Short h => h.dstCid

theorem PacketHeader.encode_okAppends (h : PacketHeader) : OkAppends h.encode h.Encodable h.wire := by
  cases h with
  | Long h => exact encodeLongHeader_okAppends h
  | Retry h => exact encodeRetryHeader_okAppends h
  | Short h => exact encodeShortHeader_okAppends h

theorem PacketHeader.decode_of_long {b : UInt8} {r : List UInt8} {n : Nat} (hb : b &&& 0x80 ≠ 0) :
    PacketHeader.decode (b :: r) n = decodeLongHeader (b :: r) := by
  simp only [PacketHeader.decode, hb, ne_eq, not_false_eq_true, ↓reduceIte]

theorem PacketHeader.decode_of_short {b : UInt8} {r : List UInt8} {n : Nat} (hb : ¬ (b &&& 0x80 ≠ 0)) :
    PacketHeader.decode (b :: r) n = (decodeShortHeader (b :: r) n).map fun (h, n) => (.Short h, n) := by
  simp only [PacketHeader.decode, hb, ↓reduceIte]

theorem PacketHeader.decode_wire {h : PacketHeader} (he : h.Encodable) (s : List UInt8)
    (hs : ∀ r, h = .Retry r → s = []) :
    PacketHeader.decode (h.wire ++ s) h.dstCid.len = .ok (h, h.wire.length) := by
  cases h with
  | Long h =>
    obtain ⟨h80, -⟩ := longFirst_facts he.not_retry he.pnLen
    simp only [PacketHeader.wire, PacketHeader.dstCid]
    rw [LongHeader.wire, List.cons_append, PacketHeader.decode_of_long h80, ← List.cons_append, ← LongHeader.wire]
    exact decodeLongHeader_wire he s
  | Retry h =>
    cases hs h rfl
    simp only [PacketHeader.wire, PacketHeader.dstCid, List.append_nil]
    rw [RetryHeader.wire, PacketHeader.decode_of_long (by decide), ← RetryHeader.wire]
    exact decodeLongHeader_retryWire h
  | Short h =>
    obtain ⟨h80, -⟩ := shortFirst_facts h he.1
    simp only [PacketHeader.wire, PacketHeader.dstCid]
    rw [ShortHeader.wire, List.cons_append, PacketHeader.decode_of_short h80, ← List.cons_append,
      ← ShortHeader.wire, decodeShortHeader_wire he.1 he.2 s]
    rfl

end QuicCore

end Asupersync
