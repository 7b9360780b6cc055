/-
The QUIC transport core (`net/quic_core/mod.rs`): the variable-length
integer codec, connection IDs, the long, Retry and short packet headers,
the transport-parameter TLV codec, and the packet-number length choice
and reconstruction of RFC 9000.

# Integers

`u64` values are `Nat` here. Every `u64` operation of these functions
stays below `2^64` once the checks before it have passed, except
`saturating_mul` and `saturating_add` in `packet_number_len_for_encoding`,
which keep their caps (`saturatingMul`, `saturatingAdd`). `!pn_mask` is
the `u64` complement, `u64::MAX ^ pn_mask`, and a cast `as u8` keeps the
low byte (`Nat.toUInt8`).

# Buffers

An encoder into `&mut Vec<u8>` returning `Result<(), QuicCoreError>` is
an `EStateM QuicCoreError (List UInt8) Unit` on the buffer, as the HTTP/2
frame encoders are; `Vec::push` and `extend_from_slice` append as
`BytesMut.putU8` and `BytesMut.extendFromSlice` do. Consecutive pushes
are one `extendFromSlice` of the bytes in order. An encoder that fails
part way leaves what it wrote: a long header whose payload length is
past `QUIC_VARINT_MAX` fails after its first bytes are in the buffer.

# Slices

Each decoder checks a length before it indexes or slices, so no index
or range of these decoders is out of bounds, and a slice is `drop` and
`take`. A decoder returns what it read with the position after it.

`ConnectionId` keeps its bytes in a 20-byte array padded with zeros and
is built only by `new` or `default`, so two of them are equal exactly
when their used bytes are: it is the list of its used bytes here, with
its bound.
-/
import Asupersync.Bytes.BigEndian
import Asupersync.Bytes.Slice
import Asupersync.Types.BytesMut
import Asupersync.Time.Wheel

namespace Asupersync

namespace QuicCore

open Bytes (be32 bytesBE tryCopyFromSlice)

-- ============================================================ constants

/-- `QUIC_VARINT_MAX`: `2^62 - 1`. -/
def quicVarintMax : Nat := (1 <<< 62) - 1

/-- `QUIC_PACKET_NUMBER_MAX`. -/
def quicPacketNumberMax : Nat := quicVarintMax

def tpMaxIdleTimeout : Nat := 0x01
def tpMaxUdpPayloadSize : Nat := 0x03
def tpInitialMaxData : Nat := 0x04
def tpInitialMaxStreamDataBidiLocal : Nat := 0x05
def tpInitialMaxStreamDataBidiRemote : Nat := 0x06
def tpInitialMaxStreamDataUni : Nat := 0x07
def tpInitialMaxStreamsBidi : Nat := 0x08
def tpInitialMaxStreamsUni : Nat := 0x09
def tpAckDelayExponent : Nat := 0x0a
def tpMaxAckDelay : Nat := 0x0b
def tpDisableActiveMigration : Nat := 0x0c
def tpMaxDatagramFrameSize : Nat := 0x20

/-- `QuicCoreError`. -/
inductive QuicCoreError where
  | UnexpectedEof
  | VarIntOutOfRange (value : Nat)
  | InvalidHeader (message : String)
  | InvalidConnectionIdLength (length : Nat)
  | PacketNumberTooLarge (packetNumber : UInt32) (width : UInt8)
  | DuplicateTransportParameter (id : Nat)
  | InvalidTransportParameter (id : Nat)
  deriving DecidableEq, Repr

-- ======================================================= connection IDs

/-- `ConnectionId::MAX_LEN`. -/
def ConnectionId.maxLen : Nat := 20

/-- `ConnectionId`: its used bytes, at most `MAX_LEN` of them. -/
structure ConnectionId where
  bytes : List UInt8
  length_le : bytes.length ≤ ConnectionId.maxLen
  deriving DecidableEq

namespace ConnectionId

/-- `ConnectionId::new`. -/
def new (bytes : List UInt8) : Except QuicCoreError ConnectionId :=
  if h : bytes.length > maxLen then .error (.InvalidConnectionIdLength bytes.length)
  else .ok ⟨bytes, Nat.le_of_not_lt h⟩

/-- `ConnectionId::len`. -/
def len (c : ConnectionId) : Nat := c.bytes.length

/-- `ConnectionId::as_bytes`. -/
def asBytes (c : ConnectionId) : List UInt8 := c.bytes

end ConnectionId

-- ============================================================== varints

/-- `encode_varint`: the shortest of the 1, 2, 4 and 8-byte forms, the
two top bits of the first byte giving the length. -/
def encodeVarint (value : Nat) : EStateM QuicCoreError (List UInt8) Unit :=
  if value > quicVarintMax then throw (.VarIntOutOfRange value)
  else if value < 1 <<< 6 then BytesMut.putU8 value.toUInt8
  else if value < 1 <<< 14 then
    -- `let x = value as u16`
    let x := value % 2 ^ 16
    BytesMut.extendFromSlice [(x >>> 8).toUInt8 &&& 0x3f ||| 0x40, x.toUInt8]
  else if value < 1 <<< 30 then
    -- `let x = value as u32`
    let x := value % 2 ^ 32
    BytesMut.extendFromSlice
      [(x >>> 24).toUInt8 &&& 0x3f ||| 0x80, (x >>> 16).toUInt8, (x >>> 8).toUInt8, x.toUInt8]
  else
    let x := value
    BytesMut.extendFromSlice
      [(x >>> 56).toUInt8 &&& 0x3f ||| 0xc0, (x >>> 48).toUInt8, (x >>> 40).toUInt8,
        (x >>> 32).toUInt8, (x >>> 24).toUInt8, (x >>> 16).toUInt8, (x >>> 8).toUInt8, x.toUInt8]

/-- `decode_varint`: the value and the bytes it took. -/
def decodeVarint (input : List UInt8) : Except QuicCoreError (Nat × Nat) :=
  match input with
  | [] => .error .UnexpectedEof
  | first :: _ =>
    let len := 1 <<< (first >>> 6).toNat
    if input.length < len then .error .UnexpectedEof
    else
      -- `value = (value << 8) | b` for each `b` of `input[1..len]`
      let value := (Bytes.slice input 1 len).foldl (fun value b => (value <<< 8) ||| b.toNat)
        (first &&& 0x3f).toNat
      .ok (value, len)

/-- A varint decoded takes at least one byte, and no more than there are. -/
theorem decodeVarint_consumed {input : List UInt8} {value len : Nat}
    (h : decodeVarint input = .ok (value, len)) : 0 < len ∧ len ≤ input.length := by
  unfold decodeVarint at h
  split at h
  · nomatch h
  · next first rest =>
    dsimp only at h
    split at h
    · nomatch h
    · next hlen =>
      cases h
      exact ⟨Nat.one_shiftLeft _ ▸ Nat.two_pow_pos _, Nat.le_of_not_lt hlen⟩

-- ======================================================= packet numbers

/-- `validate_pn_len`. -/
def validatePnLen (packetNumberLen : UInt8) : Except QuicCoreError UInt8 :=
  if 1 ≤ packetNumberLen ∧ packetNumberLen ≤ 4 then .ok packetNumberLen
  else .error (.InvalidHeader "packet number length must be 1..=4")

/-- `ensure_pn_fits`: the packet number within 62 bits and within the
width. The source's last arm, for a width past 4, is unreachable after
`validate_pn_len`; it is the width-4 bound here. -/
def ensurePnFits (packetNumber : Nat) (packetNumberLen : UInt8) : Except QuicCoreError Unit := do
  let _ ← validatePnLen packetNumberLen
  if packetNumber > quicPacketNumberMax then
    throw (.PacketNumberTooLarge (packetNumber &&& 0xFFFFFFFF).toUInt32 packetNumberLen)
  let max : Nat := match packetNumberLen with
    | 1 => 0xff
    | 2 => 0xffff
    | 3 => 0x00ffffff
    | _ => 0xffffffff
  if packetNumber ≤ max then pure ()
  else throw (.PacketNumberTooLarge (packetNumber &&& 0xFFFFFFFF).toUInt32 packetNumberLen)

/-- `write_packet_number`: the low `width` bytes of the packet number,
high first. -/
def writePacketNumber (packetNumber : Nat) (width : UInt8) : EStateM QuicCoreError (List UInt8) Unit :=
  BytesMut.extendFromSlice ((bytesBE 8 packetNumber).drop (8 - width.toNat))

/-- `read_packet_number`: `width` bytes at `pos`, zero-extended to a
big-endian `u32`. -/
def readPacketNumber (input : List UInt8) (pos : Nat) (width : UInt8) :
    Except QuicCoreError (UInt32 × Nat) := do
  let width ← validatePnLen width
  let width := width.toNat
  if input.length - pos < width then throw .UnexpectedEof
  let out := List.replicate (4 - width) 0 ++ (input.drop pos).take width
  pure (be32 out[0]! out[1]! out[2]! out[3]!, pos + width)

/-- `packet_number_len_for_encoding`: the fewest bytes whose window
covers twice the gap to the largest acknowledged packet, and one more. -/
def packetNumberLenForEncoding (packetNumber largestAcked : Nat) : Except QuicCoreError UInt8 :=
  if packetNumber > quicPacketNumberMax then
    .error (.PacketNumberTooLarge (packetNumber &&& 0xFFFFFFFF).toUInt32 4)
  else
    -- `saturating_sub`
    let gap := packetNumber - largestAcked
    let requiredRange := saturatingAdd (saturatingMul gap 2) 1
    if requiredRange ≤ 1 <<< 8 then .ok 1
    else if requiredRange ≤ 1 <<< 16 then .ok 2
    else if requiredRange ≤ 1 <<< 24 then .ok 3
    else if requiredRange ≤ 1 <<< 32 then .ok 4
    else .error (.PacketNumberTooLarge (packetNumber &&& 0xFFFFFFFF).toUInt32 4)

/-- `decode_packet_number_reconstruct`, RFC 9000 Appendix A.3 with the
signed comparison `candidate_pn <= expected_pn - pn_hwin` guarded by
`expected_pn >= pn_hwin`. -/
def decodePacketNumberReconstruct (truncatedPn : UInt32) (pnLen : UInt8) (largestPn : Nat) :
    Except QuicCoreError Nat := do
  let _ ← validatePnLen pnLen
  if largestPn > quicPacketNumberMax then
    throw (.PacketNumberTooLarge (largestPn &&& 0xFFFFFFFF).toUInt32 pnLen)
  let expectedPn := largestPn + 1
  let pnNbits := pnLen.toNat * 8
  let pnWin := 1 <<< pnNbits
  let pnHwin := pnWin / 2
  let pnMask := pnWin - 1
  if truncatedPn.toNat > pnMask then throw (.PacketNumberTooLarge truncatedPn pnLen)
  let candidatePn := expectedPn &&& (u64Max ^^^ pnMask) ||| truncatedPn.toNat
  let candidatePn :=
    if expectedPn ≥ pnHwin ∧ candidatePn ≤ expectedPn - pnHwin ∧
        candidatePn < (quicPacketNumberMax + 1) - pnWin then candidatePn + pnWin
    else if candidatePn > expectedPn + pnHwin ∧ candidatePn ≥ pnWin then candidatePn - pnWin
    else candidatePn
  if candidatePn > quicPacketNumberMax then throw (.PacketNumberTooLarge truncatedPn pnLen)
  pure candidatePn

-- ============================================================== headers

/-- `LongPacketType`. -/
inductive LongPacketType where
  | Initial
  | ZeroRtt
  | Handshake
  | Retry
  deriving DecidableEq, Repr

/-- The type of the two bits `(first >> 4) & 0x03`. The source's
`unreachable!` arm past 3 cannot be taken by two bits; it is `Retry`'s
arm here. -/
def LongPacketType.ofBits (bits : UInt8) : LongPacketType :=
  match bits with
  | 0 => .Initial
  | 1 => .ZeroRtt
  | 2 => .Handshake
  | _ => .Retry

/-- `LongHeader`. -/
structure LongHeader where
  packetType : LongPacketType
  version : UInt32
  dstCid : ConnectionId
  srcCid : ConnectionId
  token : List UInt8
  payloadLength : Nat
  packetNumber : Nat
  packetNumberLen : UInt8
  deriving DecidableEq

/-- `RetryHeader`. -/
structure RetryHeader where
  version : UInt32
  dstCid : ConnectionId
  srcCid : ConnectionId
  token : List UInt8
  integrityTag : Vector UInt8 16
  deriving DecidableEq

/-- `ShortHeader`. -/
structure ShortHeader where
  spin : Bool
  keyPhase : Bool
  dstCid : ConnectionId
  packetNumber : Nat
  packetNumberLen : UInt8
  deriving DecidableEq

/-- `PacketHeader`. -/
inductive PacketHeader where
  | Long (h : LongHeader)
  | Retry (h : RetryHeader)
  | Short (h : ShortHeader)
  deriving DecidableEq

/-- `encode_long_header`: every check comes before the first write; the
token length and the payload length are varints written after it. -/
def encodeLongHeader (header : LongHeader) : EStateM QuicCoreError (List UInt8) Unit := do
  let pnLen ← MonadExcept.ofExcept (validatePnLen header.packetNumberLen)
  MonadExcept.ofExcept (ensurePnFits header.packetNumber pnLen)
  if header.packetType ≠ .Initial ∧ header.token ≠ [] then
    throw (.InvalidHeader "token only valid for Initial packets")
  if header.payloadLength < pnLen.toNat then
    throw (.InvalidHeader "payload length smaller than packet number length")
  let typeBits : UInt8 ← match header.packetType with
    | .Initial => pure 0
    | .ZeroRtt => pure 1
    | .Handshake => pure 2
    | .Retry => throw (.InvalidHeader "retry packets must use PacketHeader::Retry")
  -- `0b1100_0000 | (type_bits << 4) | (pn_len - 1)`
  let first : UInt8 := (0xc0 : UInt8) ||| (typeBits <<< 4) ||| (pnLen - 1)
  BytesMut.putU8 first
  BytesMut.extendFromSlice (Bytes.putU32 header.version)
  BytesMut.putU8 header.dstCid.len.toUInt8
  BytesMut.extendFromSlice header.dstCid.asBytes
  BytesMut.putU8 header.srcCid.len.toUInt8
  BytesMut.extendFromSlice header.srcCid.asBytes
  if header.packetType = .Initial then
    encodeVarint header.token.length
    BytesMut.extendFromSlice header.token
  encodeVarint header.payloadLength
  writePacketNumber header.packetNumber pnLen

/-- `encode_retry_header`: the first byte `0b1111_0000`, and no check. -/
def encodeRetryHeader (header : RetryHeader) : EStateM QuicCoreError (List UInt8) Unit := do
  BytesMut.putU8 0xf0
  BytesMut.extendFromSlice (Bytes.putU32 header.version)
  BytesMut.putU8 header.dstCid.len.toUInt8
  BytesMut.extendFromSlice header.dstCid.asBytes
  BytesMut.putU8 header.srcCid.len.toUInt8
  BytesMut.extendFromSlice header.srcCid.asBytes
  BytesMut.extendFromSlice header.token
  BytesMut.extendFromSlice header.integrityTag.toList

/-- `encode_short_header`: `0b0100_0000 | (pn_len - 1)`, with the spin
bit `0x20` and the key-phase bit `0x04`. -/
def encodeShortHeader (header : ShortHeader) : EStateM QuicCoreError (List UInt8) Unit := do
  let pnLen ← MonadExcept.ofExcept (validatePnLen header.packetNumberLen)
  MonadExcept.ofExcept (ensurePnFits header.packetNumber pnLen)
  let first : UInt8 := (0x40 : UInt8) ||| (pnLen - 1)
  let first := if header.spin then first ||| 0x20 else first
  let first := if header.keyPhase then first ||| 0x04 else first
  BytesMut.putU8 first
  BytesMut.extendFromSlice header.dstCid.asBytes
  writePacketNumber header.packetNumber pnLen

/-- `PacketHeader::encode`. -/
def PacketHeader.encode : PacketHeader → EStateM QuicCoreError (List UInt8) Unit
  | .Long h => encodeLongHeader h
  | .Retry h => encodeRetryHeader h
  | .Short h => encodeShortHeader h

/-- `read_cid`: `cid_len` bytes at `pos`. -/
def readCid (input : List UInt8) (pos cidLen : Nat) : Except QuicCoreError (ConnectionId × Nat) := do
  if cidLen > ConnectionId.maxLen then throw (.InvalidConnectionIdLength cidLen)
  if input.length - pos < cidLen then throw .UnexpectedEof
  let cid ← ConnectionId.new ((input.drop pos).take cidLen)
  pure (cid, pos + cidLen)

/-- The token of an Initial packet: a varint length and that many bytes;
empty for the other types. -/
def readInitialToken (input : List UInt8) (pos : Nat) (packetType : LongPacketType) :
    Except QuicCoreError (List UInt8 × Nat) :=
  if packetType = .Initial then do
    let (tokenLen, consumed) ← decodeVarint (input.drop pos)
    let pos := pos + consumed
    if input.length - pos < tokenLen then throw .UnexpectedEof
    pure ((input.drop pos).take tokenLen, pos + tokenLen)
  else pure ([], pos)

/-- `decode_long_header`. A Retry packet's token is everything between
the source connection ID and the 16-byte integrity tag at the end. -/
def decodeLongHeader (input : List UInt8) : Except QuicCoreError (PacketHeader × Nat) := do
  if input.length < 6 then throw .UnexpectedEof
  let first := input[0]!
  if first &&& 0x40 = 0 then throw (.InvalidHeader "long header fixed bit unset")
  let packetType := LongPacketType.ofBits ((first >>> 4) &&& 0x03)
  if packetType = .Retry then
    if first &&& 0x0f ≠ 0 then throw (.InvalidHeader "retry header reserved bits set")
  else if first &&& 0x0c ≠ 0 then throw (.InvalidHeader "long header reserved bits set")
  let pnLen := (first &&& 0x03) + 1
  let version := be32 input[1]! input[2]! input[3]! input[4]!
  let dcidLen := input[5]!.toNat
  let (dstCid, pos) ← readCid input 6 dcidLen
  if pos ≥ input.length then throw .UnexpectedEof
  let scidLen := input[pos]!.toNat
  let (srcCid, pos) ← readCid input (pos + 1) scidLen
  if packetType = .Retry then
    if input.length - pos < 16 then throw .UnexpectedEof
    let tokenEnd := input.length - 16
    let token := Bytes.slice input pos tokenEnd
    -- `input[token_end..].try_into().map_err(|_| UnexpectedEof)?`
    match tryCopyFromSlice (input.drop tokenEnd) with
    | none => throw .UnexpectedEof
    | some integrityTag =>
      return (.Retry
        { version := version, dstCid := dstCid, srcCid := srcCid, token := token,
          integrityTag := integrityTag }, input.length)
  let (token, pos) ← readInitialToken input pos packetType
  let (payloadLength, consumed) ← decodeVarint (input.drop pos)
  let pos := pos + consumed
  if payloadLength < pnLen.toNat then
    throw (.InvalidHeader "payload length smaller than packet number length")
  let (packetNumber, pos) ← readPacketNumber input pos pnLen
  return (.Long
    { packetType := packetType, version := version, dstCid := dstCid, srcCid := srcCid,
      token := token, payloadLength := payloadLength, packetNumber := packetNumber.toNat,
      packetNumberLen := pnLen }, pos)

/-- `decode_short_header`: the destination connection ID has the length
the caller gives, as a short header does not carry it. -/
def decodeShortHeader (input : List UInt8) (shortDcidLen : Nat) :
    Except QuicCoreError (ShortHeader × Nat) := do
  if input = [] then throw .UnexpectedEof
  if input[0]! &&& 0x40 = 0 then throw (.InvalidHeader "short header fixed bit unset")
  let first := input[0]!
  if first &&& 0x18 ≠ 0 then throw (.InvalidHeader "short header reserved bits set")
  let pnLen := (first &&& 0x03) + 1
  let spin := first &&& 0x20 ≠ 0
  let keyPhase := first &&& 0x04 ≠ 0
  let (dstCid, pos) ← readCid input 1 shortDcidLen
  let (packetNumber, pos) ← readPacketNumber input pos pnLen
  return (
    { spin := spin, keyPhase := keyPhase, dstCid := dstCid, packetNumber := packetNumber.toNat,
      packetNumberLen := pnLen }, pos)

/-- `PacketHeader::decode`: a long header when the top bit is set. -/
def PacketHeader.decode (input : List UInt8) (shortDcidLen : Nat) :
    Except QuicCoreError (PacketHeader × Nat) :=
  match input with
  | [] => .error .UnexpectedEof
  | first :: _ =>
    if first &&& 0x80 ≠ 0 then decodeLongHeader input
    else (decodeShortHeader input shortDcidLen).map fun (h, n) => (.Short h, n)

-- ================================================= transport parameters

/-- `UnknownTransportParameter`. -/
structure UnknownTransportParameter where
  id : Nat
  value : List UInt8
  deriving DecidableEq, Repr

/-- `TransportParameters`, with its `Default`. -/
structure TransportParameters where
  maxIdleTimeout : Option Nat := none
  maxUdpPayloadSize : Option Nat := none
  initialMaxData : Option Nat := none
  initialMaxStreamDataBidiLocal : Option Nat := none
  initialMaxStreamDataBidiRemote : Option Nat := none
  initialMaxStreamDataUni : Option Nat := none
  initialMaxStreamsBidi : Option Nat := none
  initialMaxStreamsUni : Option Nat := none
  ackDelayExponent : Option Nat := none
  maxAckDelay : Option Nat := none
  disableActiveMigration : Bool := false
  maxDatagramFrameSize : Option Nat := none
  unknown : List UnknownTransportParameter := []
  deriving DecidableEq, Repr

/-- `encode_parameter`: the id, the length and the value. -/
def encodeParameter (id : Nat) (value : List UInt8) : EStateM QuicCoreError (List UInt8) Unit := do
  encodeVarint id
  encodeVarint value.length
  BytesMut.extendFromSlice value

/-- `encode_known_u64`: a present value as a varint in a fresh body. -/
def encodeKnownU64 (id : Nat) (value : Option Nat) : EStateM QuicCoreError (List UInt8) Unit :=
  match value with
  | none => pure ()
  | some value =>
    match (encodeVarint value).run [] with
    | .ok _ body => encodeParameter id body
    | .error e _ => throw e

/-- `TransportParameters::encode`: the known parameters in their order,
then the unknown ones as they are. -/
def TransportParameters.encode (tp : TransportParameters) : EStateM QuicCoreError (List UInt8) Unit := do
  encodeKnownU64 tpMaxIdleTimeout tp.maxIdleTimeout
  encodeKnownU64 tpMaxUdpPayloadSize tp.maxUdpPayloadSize
  encodeKnownU64 tpInitialMaxData tp.initialMaxData
  encodeKnownU64 tpInitialMaxStreamDataBidiLocal tp.initialMaxStreamDataBidiLocal
  encodeKnownU64 tpInitialMaxStreamDataBidiRemote tp.initialMaxStreamDataBidiRemote
  encodeKnownU64 tpInitialMaxStreamDataUni tp.initialMaxStreamDataUni
  encodeKnownU64 tpInitialMaxStreamsBidi tp.initialMaxStreamsBidi
  encodeKnownU64 tpInitialMaxStreamsUni tp.initialMaxStreamsUni
  encodeKnownU64 tpAckDelayExponent tp.ackDelayExponent
  encodeKnownU64 tpMaxAckDelay tp.maxAckDelay
  if tp.disableActiveMigration then encodeParameter tpDisableActiveMigration []
  encodeKnownU64 tpMaxDatagramFrameSize tp.maxDatagramFrameSize
  tp.unknown.forM fun p => encodeParameter p.id p.value

/-- `set_unique_u64`: a slot filled once, by a value that is one varint
and nothing after it. -/
def setUniqueU64 (slot : Option Nat) (id : Nat) (value : List UInt8) : Except QuicCoreError (Option Nat) := do
  if slot.isSome then throw (.DuplicateTransportParameter id)
  let (decoded, consumed) ← decodeVarint value
  if consumed ≠ value.length then throw (.InvalidTransportParameter id)
  pure (some decoded)

/-- The arms of the `match id` in `TransportParameters::decode`: one
parameter read into the parameters decoded so far. -/
def TransportParameters.applyParameter (tp : TransportParameters) (id : Nat) (value : List UInt8) :
    Except QuicCoreError TransportParameters :=
  if id = tpMaxIdleTimeout then do
    let v ← setUniqueU64 tp.maxIdleTimeout id value
    pure { tp with maxIdleTimeout := v }
  else if id = tpMaxUdpPayloadSize then do
    let v ← setUniqueU64 tp.maxUdpPayloadSize id value
    -- `is_some_and(|v| v < 1200)`
    if v.any (· < 1200) then throw (.InvalidTransportParameter id)
    pure { tp with maxUdpPayloadSize := v }
  else if id = tpInitialMaxData then do
    let v ← setUniqueU64 tp.initialMaxData id value
    pure { tp with initialMaxData := v }
  else if id = tpInitialMaxStreamDataBidiLocal then do
    let v ← setUniqueU64 tp.initialMaxStreamDataBidiLocal id value
    pure { tp with initialMaxStreamDataBidiLocal := v }
  else if id = tpInitialMaxStreamDataBidiRemote then do
    let v ← setUniqueU64 tp.initialMaxStreamDataBidiRemote id value
    pure { tp with initialMaxStreamDataBidiRemote := v }
  else if id = tpInitialMaxStreamDataUni then do
    let v ← setUniqueU64 tp.initialMaxStreamDataUni id value
    pure { tp with initialMaxStreamDataUni := v }
  else if id = tpInitialMaxStreamsBidi then do
    let v ← setUniqueU64 tp.initialMaxStreamsBidi id value
    pure { tp with initialMaxStreamsBidi := v }
  else if id = tpInitialMaxStreamsUni then do
    let v ← setUniqueU64 tp.initialMaxStreamsUni id value
    pure { tp with initialMaxStreamsUni := v }
  else if id = tpAckDelayExponent then do
    let v ← setUniqueU64 tp.ackDelayExponent id value
    if v.any (· > 20) then throw (.InvalidTransportParameter id)
    pure { tp with ackDelayExponent := v }
  else if id = tpMaxAckDelay then do
    let v ← setUniqueU64 tp.maxAckDelay id value
    pure { tp with maxAckDelay := v }
  else if id = tpDisableActiveMigration then do
    if tp.disableActiveMigration then throw (.DuplicateTransportParameter id)
    if value ≠ [] then throw (.InvalidTransportParameter id)
    pure { tp with disableActiveMigration := true }
  else if id = tpMaxDatagramFrameSize then do
    let v ← setUniqueU64 tp.maxDatagramFrameSize id value
    pure { tp with maxDatagramFrameSize := v }
  else pure { tp with unknown := tp.unknown ++ [{ id, value }] }

/-- The `while pos < input.len()` loop of `TransportParameters::decode`,
from `pos` with the parameters and the ids seen so far. Each pass takes
at least the id's byte, so the loop ends. -/
def TransportParameters.decodeLoop (input : List UInt8) (pos : Nat) (tp : TransportParameters)
    (seenIds : List Nat) : Except QuicCoreError TransportParameters :=
  if _hpos : pos < input.length then
    match _hid : decodeVarint (input.drop pos) with
    | .error e => .error e
    | .ok (id, idLen) =>
      match decodeVarint (input.drop (pos + idLen)) with
      | .error e => .error e
      | .ok (len, lenLen) =>
        let pos' := pos + idLen + lenLen
        if input.length - pos' < len then .error .UnexpectedEof
        else if id ∈ seenIds then .error (.DuplicateTransportParameter id)
        else
          match tp.applyParameter id ((input.drop pos').take len) with
          | .error e => .error e
          | .ok tp => decodeLoop input (pos' + len) tp (seenIds ++ [id])
  else .ok tp
termination_by input.length - pos
decreasing_by
  have := (decodeVarint_consumed _hid).1
  omega

/-- `TransportParameters::decode`. -/
def TransportParameters.decode (input : List UInt8) : Except QuicCoreError TransportParameters :=
  decodeLoop input 0 {} []

end QuicCore

end Asupersync
