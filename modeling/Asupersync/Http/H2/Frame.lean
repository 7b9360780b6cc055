/-
HTTP/2 frames (`http/h2/frame.rs`, RFC 9113 §4 and §6): the nine-byte
frame header, the ten frame types and the unknown ones, each with the
checks its encoder and its parser make.

# Buffers

`encode(&self, dst: &mut BytesMut) -> Result<(), H2Error>` is an
`EStateM H2Error (List UInt8) Unit`: it runs on the buffer and, on an
error too, leaves the buffer as far as it got. Every write appends
(`BytesMut`, in `Types/BytesMut.lean`).

A parser reads a `Bytes` payload. `payload[i]` and the ranges
`payload.slice(i..)`, `payload.slice(..j)` panic out of range, so a
parser returns in `ExceptT H2Error Option`: `none` is a panic, and
`some (.error e)` is `Err(e)`. `FrameHeader::parse` reads only after
its length check, and returns the header with the bytes after it.

# Fixed widths

Lengths and identifiers are `u32`, types and flags `u8`.
`FrameHeader::write` keeps 24 bits of the length and 31 of the stream
identifier: the reserved top bit is dropped, and a stream identifier of
`0x8000_0000` is written as stream `0`. `write` asserts that the length
fits in 24 bits; every encoder passes it a length from
`try_frame_length` or a constant below the bound, so the assertion is
left out and the model's `write` is total.

`checked_frame_length_sum` and `checked_frame_length_product` check
their `usize` arithmetic against `usize::MAX` before the 24-bit bound.

# Shared pieces

The source writes the five priority bytes inline in both the HEADERS
and the PRIORITY encoder, and reads them inline in both parsers; they
are `PrioritySpec.write` and `PrioritySpec.read` here, used by both.
-/
import Asupersync.Http.H2.Error
import Asupersync.Bytes.Slice
import Asupersync.Types.Basic
import Asupersync.Types.BytesMut

namespace Asupersync

namespace H2

open Bytes (be16 be24 be32 trySliceFrom trySliceTo tryCopyFromSlice)

-- ============================================================ constants

/-- `FRAME_HEADER_SIZE`. -/
def frameHeaderSize : Nat := 9

/-- `MAX_FRAME_SIZE`, the largest 24-bit length. -/
def maxFrameSize : UInt32 := 16777215

/-- `MIN_MAX_FRAME_SIZE`. -/
def minMaxFrameSize : UInt32 := 16384

/-- `MAX_INITIAL_WINDOW_SIZE`. -/
def maxInitialWindowSize : UInt32 := 0x7fffffff

/-- `MAX_WINDOW_UPDATE_INCREMENT`. -/
def maxWindowUpdateIncrement : UInt32 := 0x7fffffff

/-- `FrameType`. -/
inductive FrameType where
  | Data
  | Headers
  | Priority
  | RstStream
  | Settings
  | PushPromise
  | Ping
  | GoAway
  | WindowUpdate
  | Continuation
  deriving DecidableEq, Repr

/-- `frame_type as u8`. -/
def FrameType.toU8 : FrameType → UInt8
  | .Data => 0x0
  | .Headers => 0x1
  | .Priority => 0x2
  | .RstStream => 0x3
  | .Settings => 0x4
  | .PushPromise => 0x5
  | .Ping => 0x6
  | .GoAway => 0x7
  | .WindowUpdate => 0x8
  | .Continuation => 0x9

/-- `FrameType::from_u8`. -/
def FrameType.fromU8 (value : UInt8) : Option FrameType :=
  match value with
  | 0x0 => some .Data
  | 0x1 => some .Headers
  | 0x2 => some .Priority
  | 0x3 => some .RstStream
  | 0x4 => some .Settings
  | 0x5 => some .PushPromise
  | 0x6 => some .Ping
  | 0x7 => some .GoAway
  | 0x8 => some .WindowUpdate
  | 0x9 => some .Continuation
  | _ => none

/-- `data_flags::END_STREAM`. -/
def dataFlags.endStream : UInt8 := 0x1

/-- `data_flags::PADDED`. -/
def dataFlags.padded : UInt8 := 0x8

/-- `headers_flags::END_STREAM`. -/
def headersFlags.endStream : UInt8 := 0x1

/-- `headers_flags::END_HEADERS`. -/
def headersFlags.endHeaders : UInt8 := 0x4

/-- `headers_flags::PADDED`. -/
def headersFlags.padded : UInt8 := 0x8

/-- `headers_flags::PRIORITY`. -/
def headersFlags.priority : UInt8 := 0x20

/-- `settings_flags::ACK`. -/
def settingsFlags.ack : UInt8 := 0x1

/-- `ping_flags::ACK`. -/
def pingFlags.ack : UInt8 := 0x1

/-- `continuation_flags::END_HEADERS`. -/
def continuationFlags.endHeaders : UInt8 := 0x4

/-- `if cond { flags |= flag }`. -/
def setFlagIf (flags : UInt8) (cond : Bool) (flag : UInt8) : UInt8 :=
  if cond then flags ||| flag else flags

-- ========================================================== frame header

/-- `FrameHeader`. -/
structure FrameHeader where
  length : UInt32
  frameType : UInt8
  flags : UInt8
  streamId : UInt32
  deriving DecidableEq, Repr

/-- `FrameHeader::parse`: the header and the bytes after it. -/
def FrameHeader.parse (src : List UInt8) : Except H2Error (FrameHeader × List UInt8) :=
  if src.length < frameHeaderSize then
    .error (H2Error.protocol "insufficient bytes for frame header")
  else
    .ok ({ length := be24 src[0]! src[1]! src[2]!
           frameType := src[3]!
           flags := src[4]!
           -- `(u32::from(src[5]) & 0x7f) << 24 | …`: the reserved bit is not read
           streamId := be32 (src[5]! &&& 0x7f) src[6]! src[7]! src[8]! },
      src.drop frameHeaderSize)

/-- The nine bytes `FrameHeader::write` builds in `buf`. -/
def FrameHeader.buf (h : FrameHeader) : List UInt8 :=
  [(h.length >>> 16).toUInt8, (h.length >>> 8).toUInt8, h.length.toUInt8, h.frameType, h.flags,
    ((h.streamId >>> 24) &&& 0x7f).toUInt8, (h.streamId >>> 16).toUInt8, (h.streamId >>> 8).toUInt8,
    h.streamId.toUInt8]

/-- `FrameHeader::write`. -/
def FrameHeader.write (h : FrameHeader) : EStateM H2Error (List UInt8) Unit :=
  BytesMut.extendFromSlice h.buf

/-- `FrameHeader::has_flag`. -/
def FrameHeader.hasFlag (h : FrameHeader) (flag : UInt8) : Bool := h.flags &&& flag != 0

/-- `try_frame_length`. -/
def tryFrameLength (len : Nat) : Except H2Error UInt32 :=
  if len > maxFrameSize.toNat then
    .error (H2Error.frameSize
      s!"payload length {len} exceeds 24-bit max {maxFrameSize} (br-asupersync-pt23uf)")
  else .ok len.toUInt32

/-- `checked_frame_length_sum`. -/
def checkedFrameLengthSum (lhs rhs : Nat) : Except H2Error UInt32 :=
  if lhs + rhs > usizeMax then
    .error (H2Error.frameSize
      s!"payload length overflow while adding {lhs} and {rhs} (br-asupersync-pt23uf)")
  else tryFrameLength (lhs + rhs)

/-- `checked_frame_length_product`. -/
def checkedFrameLengthProduct (lhs rhs : Nat) : Except H2Error UInt32 :=
  if lhs * rhs > usizeMax then
    .error (H2Error.frameSize
      s!"payload length overflow while multiplying {lhs} by {rhs} (br-asupersync-pt23uf)")
  else tryFrameLength (lhs * rhs)

-- ================================================================ frames

/-- `PrioritySpec`. -/
structure PrioritySpec where
  exclusive : Bool
  dependency : UInt32
  weight : UInt8
  deriving DecidableEq, Repr

/-- `DataFrame`. -/
structure DataFrame where
  streamId : UInt32
  data : List UInt8
  endStream : Bool
  flowControlledLen : UInt32
  deriving DecidableEq, Repr

/-- `HeadersFrame`. -/
structure HeadersFrame where
  streamId : UInt32
  headerBlock : List UInt8
  endStream : Bool
  endHeaders : Bool
  priority : Option PrioritySpec
  deriving DecidableEq, Repr

/-- `PriorityFrame`. -/
structure PriorityFrame where
  streamId : UInt32
  priority : PrioritySpec
  deriving DecidableEq, Repr

/-- `RstStreamFrame`. -/
structure RstStreamFrame where
  streamId : UInt32
  errorCode : ErrorCode
  deriving DecidableEq, Repr

/-- `Setting`. -/
inductive Setting where
  | HeaderTableSize (value : UInt32)
  | EnablePush (value : Bool)
  | MaxConcurrentStreams (value : UInt32)
  | InitialWindowSize (value : UInt32)
  | MaxFrameSize (value : UInt32)
  | MaxHeaderListSize (value : UInt32)
  deriving DecidableEq, Repr

/-- `SettingsFrame`. -/
structure SettingsFrame where
  settings : List Setting
  ack : Bool
  deriving DecidableEq, Repr

/-- `PushPromiseFrame`. -/
structure PushPromiseFrame where
  streamId : UInt32
  promisedStreamId : UInt32
  headerBlock : List UInt8
  endHeaders : Bool
  deriving DecidableEq, Repr

/-- `PingFrame`. -/
structure PingFrame where
  opaqueData : Vector UInt8 8
  ack : Bool
  deriving DecidableEq, Repr

/-- `GoAwayFrame`. -/
structure GoAwayFrame where
  lastStreamId : UInt32
  errorCode : ErrorCode
  debugData : List UInt8
  deriving DecidableEq, Repr

/-- `WindowUpdateFrame`. -/
structure WindowUpdateFrame where
  streamId : UInt32
  increment : UInt32
  deriving DecidableEq, Repr

/-- `ContinuationFrame`. -/
structure ContinuationFrame where
  streamId : UInt32
  headerBlock : List UInt8
  endHeaders : Bool
  deriving DecidableEq, Repr

/-- `Frame`. -/
inductive Frame where
  | Data (f : DataFrame)
  | Headers (f : HeadersFrame)
  | Priority (f : PriorityFrame)
  | RstStream (f : RstStreamFrame)
  | Settings (f : SettingsFrame)
  | PushPromise (f : PushPromiseFrame)
  | Ping (f : PingFrame)
  | GoAway (f : GoAwayFrame)
  | WindowUpdate (f : WindowUpdateFrame)
  | Continuation (f : ContinuationFrame)
  | Unknown (frameType : UInt8) (streamId : UInt32) (payload : List UInt8)
  deriving DecidableEq, Repr

-- ============================================================= settings

/-- `Setting::from_id_value`: unknown identifiers are ignored. -/
def Setting.fromIdValue (id : UInt16) (value : UInt32) : Option Setting :=
  match id with
  | 0x1 => some (.HeaderTableSize value)
  | 0x2 => some (.EnablePush (value != 0))
  | 0x3 => some (.MaxConcurrentStreams value)
  | 0x4 => some (.InitialWindowSize value)
  | 0x5 => some (.MaxFrameSize value)
  | 0x6 => some (.MaxHeaderListSize value)
  | _ => none

/-- `Setting::id`. -/
def Setting.id : Setting → UInt16
  | .HeaderTableSize _ => 0x1
  | .EnablePush _ => 0x2
  | .MaxConcurrentStreams _ => 0x3
  | .InitialWindowSize _ => 0x4
  | .MaxFrameSize _ => 0x5
  | .MaxHeaderListSize _ => 0x6

/-- `Setting::value`. -/
def Setting.value : Setting → UInt32
  | .HeaderTableSize v | .MaxConcurrentStreams v | .InitialWindowSize v | .MaxFrameSize v
  | .MaxHeaderListSize v => v
  | .EnablePush v => if v then 1 else 0

/-- `validate_setting_for_encode`. -/
def validateSettingForEncode : Setting → Except H2Error Unit
  | .InitialWindowSize value =>
    if value > maxInitialWindowSize then
      .error (H2Error.flowControl "SETTINGS_INITIAL_WINDOW_SIZE exceeds maximum")
    else .ok ()
  | .MaxFrameSize value =>
    if ¬(minMaxFrameSize ≤ value ∧ value ≤ maxFrameSize) then
      .error (H2Error.protocol "SETTINGS_MAX_FRAME_SIZE out of bounds")
    else .ok ()
  | _ => .ok ()

-- ============================================================= encoding

/-- The five priority bytes: the dependency with the exclusive bit on top,
then the weight. -/
def PrioritySpec.write (p : PrioritySpec) : EStateM H2Error (List UInt8) Unit := do
  let dep := if p.exclusive then p.dependency ||| 0x80000000 else p.dependency
  BytesMut.putU32 dep
  BytesMut.putU8 p.weight

/-- `DataFrame::encode`. -/
def DataFrame.encode (f : DataFrame) : EStateM H2Error (List UInt8) Unit := do
  if f.streamId = 0 then throw (H2Error.protocol "DATA frame with stream ID 0")
  let flags := setFlagIf 0 f.endStream dataFlags.endStream
  let length ← MonadExcept.ofExcept (tryFrameLength f.data.length)
  FrameHeader.write { length, frameType := FrameType.Data.toU8, flags, streamId := f.streamId }
  BytesMut.extendFromSlice f.data

/-- `HeadersFrame::encode`. -/
def HeadersFrame.encode (f : HeadersFrame) : EStateM H2Error (List UInt8) Unit := do
  if f.streamId = 0 then throw (H2Error.protocol "HEADERS frame with stream ID 0")
  if f.priority.any fun p => p.dependency &&& 0x7fffffff == f.streamId then
    throw (H2Error.stream f.streamId .ProtocolError "stream cannot depend on itself")
  let flags := setFlagIf (setFlagIf 0 f.endStream headersFlags.endStream) f.endHeaders
    headersFlags.endHeaders
  -- the PRIORITY flag and five more payload bytes come with a priority
  let (flags, length) ← match f.priority with
    | some _ => do
      let length ← MonadExcept.ofExcept (checkedFrameLengthSum f.headerBlock.length 5)
      pure (flags ||| headersFlags.priority, length)
    | none => do
      let length ← MonadExcept.ofExcept (tryFrameLength f.headerBlock.length)
      pure (flags, length)
  FrameHeader.write { length, frameType := FrameType.Headers.toU8, flags, streamId := f.streamId }
  match f.priority with
  | some priority => priority.write
  | none => pure ()
  BytesMut.extendFromSlice f.headerBlock

/-- `PriorityFrame::encode`. -/
def PriorityFrame.encode (f : PriorityFrame) : EStateM H2Error (List UInt8) Unit := do
  if f.streamId = 0 then throw (H2Error.protocol "PRIORITY frame with stream ID 0")
  if f.priority.dependency &&& 0x7fffffff = f.streamId then
    throw (H2Error.stream f.streamId .ProtocolError "stream cannot depend on itself")
  FrameHeader.write
    { length := 5, frameType := FrameType.Priority.toU8, flags := 0, streamId := f.streamId }
  f.priority.write

/-- `RstStreamFrame::encode`. -/
def RstStreamFrame.encode (f : RstStreamFrame) : EStateM H2Error (List UInt8) Unit := do
  if f.streamId = 0 then throw (H2Error.protocol "RST_STREAM frame with stream ID 0")
  FrameHeader.write
    { length := 4, frameType := FrameType.RstStream.toU8, flags := 0, streamId := f.streamId }
  BytesMut.putU32 f.errorCode.toU32

/-- `SettingsFrame::encode`: an ACK carries no settings, whatever the
frame holds. -/
def SettingsFrame.encode (f : SettingsFrame) : EStateM H2Error (List UInt8) Unit := do
  let flags := setFlagIf 0 f.ack settingsFlags.ack
  let encodedSettings := if f.ack then [] else f.settings
  MonadExcept.ofExcept (encodedSettings.forM validateSettingForEncode)
  let length ← MonadExcept.ofExcept (checkedFrameLengthProduct encodedSettings.length 6)
  FrameHeader.write { length, frameType := FrameType.Settings.toU8, flags, streamId := 0 }
  encodedSettings.forM fun setting => do
    BytesMut.putU16 setting.id
    BytesMut.putU32 setting.value

/-- `PushPromiseFrame::encode`: `trailing_zeros() >= 31` refuses a
promised identifier whose low 31 bits are clear. -/
def PushPromiseFrame.encode (f : PushPromiseFrame) : EStateM H2Error (List UInt8) Unit := do
  if f.streamId = 0 then throw (H2Error.protocol "PUSH_PROMISE frame with stream ID 0")
  if Bytes.trailingZeros32 f.promisedStreamId ≥ 31 then
    throw (H2Error.protocol "PUSH_PROMISE frame with promised stream ID 0")
  let flags := setFlagIf 0 f.endHeaders headersFlags.endHeaders
  let length ← MonadExcept.ofExcept (checkedFrameLengthSum f.headerBlock.length 4)
  FrameHeader.write
    { length, frameType := FrameType.PushPromise.toU8, flags, streamId := f.streamId }
  BytesMut.putU32 (f.promisedStreamId &&& 0x7fffffff)
  BytesMut.extendFromSlice f.headerBlock

/-- `PingFrame::encode`. -/
def PingFrame.encode (f : PingFrame) : EStateM H2Error (List UInt8) Unit := do
  let flags := setFlagIf 0 f.ack pingFlags.ack
  FrameHeader.write { length := 8, frameType := FrameType.Ping.toU8, flags, streamId := 0 }
  BytesMut.extendFromSlice f.opaqueData.toList

/-- `GoAwayFrame::encode`. -/
def GoAwayFrame.encode (f : GoAwayFrame) : EStateM H2Error (List UInt8) Unit := do
  let length ← MonadExcept.ofExcept (checkedFrameLengthSum f.debugData.length 8)
  FrameHeader.write { length, frameType := FrameType.GoAway.toU8, flags := 0, streamId := 0 }
  BytesMut.putU32 (f.lastStreamId &&& 0x7fffffff)
  BytesMut.putU32 f.errorCode.toU32
  BytesMut.extendFromSlice f.debugData

/-- `invalid_window_update_increment_error`: a connection error on stream
`0`, a stream error elsewhere. -/
def invalidWindowUpdateIncrementError (streamId : UInt32) (message : String) : H2Error :=
  if streamId = 0 then H2Error.protocol message else H2Error.stream streamId .ProtocolError message

/-- `WindowUpdateFrame::encode`. -/
def WindowUpdateFrame.encode (f : WindowUpdateFrame) : EStateM H2Error (List UInt8) Unit := do
  let increment := f.increment
  if increment = 0 then
    throw (invalidWindowUpdateIncrementError f.streamId "WINDOW_UPDATE with zero increment")
  if increment > maxWindowUpdateIncrement then
    throw (invalidWindowUpdateIncrementError f.streamId
      s!"WINDOW_UPDATE increment {increment} exceeds 31-bit maximum")
  FrameHeader.write
    { length := 4, frameType := FrameType.WindowUpdate.toU8, flags := 0, streamId := f.streamId }
  BytesMut.putU32 increment

/-- `ContinuationFrame::encode`. -/
def ContinuationFrame.encode (f : ContinuationFrame) : EStateM H2Error (List UInt8) Unit := do
  if f.streamId = 0 then throw (H2Error.protocol "CONTINUATION frame with stream ID 0")
  let flags := setFlagIf 0 f.endHeaders continuationFlags.endHeaders
  let length ← MonadExcept.ofExcept (tryFrameLength f.headerBlock.length)
  FrameHeader.write
    { length, frameType := FrameType.Continuation.toU8, flags, streamId := f.streamId }
  BytesMut.extendFromSlice f.headerBlock

/-- `Frame::encode`; an unknown frame goes out with no flags. -/
def Frame.encode : Frame → EStateM H2Error (List UInt8) Unit
  | .Data f => f.encode
  | .Headers f => f.encode
  | .Priority f => f.encode
  | .RstStream f => f.encode
  | .Settings f => f.encode
  | .PushPromise f => f.encode
  | .Ping f => f.encode
  | .GoAway f => f.encode
  | .WindowUpdate f => f.encode
  | .Continuation f => f.encode
  | .Unknown frameType streamId payload => do
    let length ← MonadExcept.ofExcept (tryFrameLength payload.length)
    FrameHeader.write { length, frameType, flags := 0, streamId }
    BytesMut.extendFromSlice payload

-- ============================================================== parsing

/-- `payload[i]`, which panics past the end. -/
def byteAt (payload : List UInt8) (i : Nat) : Option UInt8 := payload[i]?

/-- The priority bytes at the front of `payload`: the exclusive bit, the
31-bit dependency, refused on the frame's own stream, and the weight. -/
def PrioritySpec.read (streamId : UInt32) (payload : List UInt8) :
    ExceptT H2Error Option PrioritySpec := do
  let b0 ← byteAt payload 0
  let exclusive := b0 &&& 0x80 != 0
  let dependency :=
    be32 (b0 &&& 0x7f) (← byteAt payload 1) (← byteAt payload 2) (← byteAt payload 3)
  if dependency = streamId then
    throw (H2Error.stream streamId .ProtocolError "stream cannot depend on itself")
  let weight ← byteAt payload 4
  pure { exclusive, dependency, weight }

/-- `DataFrame::parse`: all of the payload, padding included, is
flow-controlled. -/
def DataFrame.parse (header : FrameHeader) (payload : List UInt8) :
    ExceptT H2Error Option DataFrame := do
  if header.streamId = 0 then throw (H2Error.protocol "DATA frame with stream ID 0")
  let flowControlledLen := header.length
  let endStream := header.hasFlag dataFlags.endStream
  let data ← if header.hasFlag dataFlags.padded then do
      if payload.isEmpty then throw (H2Error.protocol "PADDED DATA frame with no padding length")
      let padLength := (← byteAt payload 0).toNat
      let data ← trySliceFrom payload 1
      if padLength > data.length then
        throw (H2Error.protocol "DATA frame padding exceeds data length")
      trySliceTo data (data.length - padLength)
    else pure payload
  pure { streamId := header.streamId, data, endStream, flowControlledLen }

/-- `HeadersFrame::parse`: the padding is checked against the priority
bytes and the rest before the priority is read. -/
def HeadersFrame.parse (header : FrameHeader) (payload : List UInt8) :
    ExceptT H2Error Option HeadersFrame := do
  if header.streamId = 0 then throw (H2Error.protocol "HEADERS frame with stream ID 0")
  let endStream := header.hasFlag headersFlags.endStream
  let endHeaders := header.hasFlag headersFlags.endHeaders
  let padded := header.hasFlag headersFlags.padded
  let hasPriority := header.hasFlag headersFlags.priority
  let (padLength, payload) ← if padded then do
      if payload.isEmpty then throw (H2Error.protocol "PADDED HEADERS frame with no padding length")
      let padLength := (← byteAt payload 0).toNat
      let payload ← trySliceFrom payload 1
      let priorityBytes := if hasPriority then 5 else 0
      -- `saturating_add` of a byte and at most 5 never saturates
      if padLength + priorityBytes > payload.length then
        throw (H2Error.protocol "HEADERS frame padding exceeds data length")
      pure (padLength, payload)
    else pure (0, payload)
  let (priority, payload) ← if hasPriority then do
      if payload.length < 5 then throw (H2Error.protocol "HEADERS frame too short for priority")
      let priority ← PrioritySpec.read header.streamId payload
      let payload ← trySliceFrom payload 5
      pure (some priority, payload)
    else pure (none, payload)
  let payload ← if padded then trySliceTo payload (payload.length - padLength) else pure payload
  pure { streamId := header.streamId, headerBlock := payload, endStream, endHeaders, priority }

/-- `PriorityFrame::parse`: a wrong size is a stream error. -/
def PriorityFrame.parse (header : FrameHeader) (payload : List UInt8) :
    ExceptT H2Error Option PriorityFrame := do
  if header.streamId = 0 then throw (H2Error.protocol "PRIORITY frame with stream ID 0")
  if payload.length ≠ 5 then
    throw (H2Error.stream header.streamId .FrameSizeError "PRIORITY frame must be 5 bytes")
  let priority ← PrioritySpec.read header.streamId payload
  pure { streamId := header.streamId, priority }

/-- `RstStreamFrame::parse`. -/
def RstStreamFrame.parse (header : FrameHeader) (payload : List UInt8) :
    ExceptT H2Error Option RstStreamFrame := do
  if header.streamId = 0 then throw (H2Error.protocol "RST_STREAM frame with stream ID 0")
  if payload.length ≠ 4 then throw (H2Error.frameSize "RST_STREAM frame must be 4 bytes")
  let errorCode := ErrorCode.fromU32
    (be32 (← byteAt payload 0) (← byteAt payload 1) (← byteAt payload 2)
      (← byteAt payload 3))
  pure { streamId := header.streamId, errorCode }

/-- The loop of `SettingsFrame::parse`, `while cursor + 6 <= payload.len()`,
on a fuel; the cursor's `saturating_add` never saturates below
`payload.len()`. -/
def SettingsFrame.parseLoop (payload : List UInt8) :
    Nat → Nat → List Setting → ExceptT H2Error Option (List Setting)
  | 0, _, settings => pure settings
  | fuel + 1, cursor, settings =>
    if cursor + 6 ≤ payload.length then do
      let id := be16 (← byteAt payload cursor) (← byteAt payload (cursor + 1))
      let value := be32 (← byteAt payload (cursor + 2)) (← byteAt payload (cursor + 3))
        (← byteAt payload (cursor + 4)) (← byteAt payload (cursor + 5))
      if id = 0x2 ∧ value > 1 then throw (H2Error.protocol "SETTINGS_ENABLE_PUSH must be 0 or 1")
      if id = 0x4 ∧ value > maxInitialWindowSize then
        throw (H2Error.flowControl "SETTINGS_INITIAL_WINDOW_SIZE exceeds maximum")
      if id = 0x5 ∧ ¬(minMaxFrameSize ≤ value ∧ value ≤ maxFrameSize) then
        throw (H2Error.protocol "SETTINGS_MAX_FRAME_SIZE out of bounds")
      let settings := match Setting.fromIdValue id value with
        | some setting => settings ++ [setting]
        | none => settings
      parseLoop payload fuel (cursor + 6) settings
    else pure settings

/-- `SettingsFrame::parse`, with a pass of fuel for every byte. -/
def SettingsFrame.parse (header : FrameHeader) (payload : List UInt8) :
    ExceptT H2Error Option SettingsFrame := do
  if header.streamId ≠ 0 then throw (H2Error.protocol "SETTINGS frame with non-zero stream ID")
  let ack := header.hasFlag settingsFlags.ack
  if ack && !payload.isEmpty then throw (H2Error.frameSize "SETTINGS ACK with non-zero length")
  if payload.length % 6 ≠ 0 then
    throw (H2Error.frameSize "SETTINGS frame length not multiple of 6")
  let settings ← SettingsFrame.parseLoop payload payload.length 0 []
  pure { settings, ack }

/-- `PushPromiseFrame::parse`: unlike HEADERS, the padding is checked
after the promised identifier is read. -/
def PushPromiseFrame.parse (header : FrameHeader) (payload : List UInt8) :
    ExceptT H2Error Option PushPromiseFrame := do
  if header.streamId = 0 then throw (H2Error.protocol "PUSH_PROMISE frame with stream ID 0")
  let endHeaders := header.hasFlag headersFlags.endHeaders
  let padded := header.hasFlag headersFlags.padded
  let (padLength, payload) ← if padded then do
      if payload.isEmpty then
        throw (H2Error.protocol "PADDED PUSH_PROMISE frame with no padding length")
      let padLength := (← byteAt payload 0).toNat
      let payload ← trySliceFrom payload 1
      pure (padLength, payload)
    else pure (0, payload)
  if payload.length < 4 then throw (H2Error.protocol "PUSH_PROMISE frame too short")
  let promisedStreamId :=
    be32 ((← byteAt payload 0) &&& 0x7f) (← byteAt payload 1) (← byteAt payload 2)
      (← byteAt payload 3)
  if promisedStreamId = 0 then
    throw (H2Error.protocol "PUSH_PROMISE frame with promised stream ID 0")
  let payload ← trySliceFrom payload 4
  let payload ← if padded then do
      if padLength > payload.length then
        throw (H2Error.protocol "PUSH_PROMISE frame padding exceeds data length")
      trySliceTo payload (payload.length - padLength)
    else pure payload
  pure { streamId := header.streamId, promisedStreamId, headerBlock := payload, endHeaders }

/-- `PingFrame::parse`. -/
def PingFrame.parse (header : FrameHeader) (payload : List UInt8) :
    ExceptT H2Error Option PingFrame := do
  if header.streamId ≠ 0 then throw (H2Error.protocol "PING frame with non-zero stream ID")
  if payload.length ≠ 8 then throw (H2Error.frameSize "PING frame must be 8 bytes")
  let opaqueData ← tryCopyFromSlice (← trySliceTo payload 8)
  pure { opaqueData, ack := header.hasFlag pingFlags.ack }

/-- `GoAwayFrame::parse`. -/
def GoAwayFrame.parse (header : FrameHeader) (payload : List UInt8) :
    ExceptT H2Error Option GoAwayFrame := do
  if header.streamId ≠ 0 then throw (H2Error.protocol "GOAWAY frame with non-zero stream ID")
  if payload.length < 8 then throw (H2Error.frameSize "GOAWAY frame must be at least 8 bytes")
  let lastStreamId :=
    be32 ((← byteAt payload 0) &&& 0x7f) (← byteAt payload 1) (← byteAt payload 2)
      (← byteAt payload 3)
  let errorCode := ErrorCode.fromU32
    (be32 (← byteAt payload 4) (← byteAt payload 5) (← byteAt payload 6)
      (← byteAt payload 7))
  let debugData ← trySliceFrom payload 8
  pure { lastStreamId, errorCode, debugData }

/-- `WindowUpdateFrame::parse`. -/
def WindowUpdateFrame.parse (header : FrameHeader) (payload : List UInt8) :
    ExceptT H2Error Option WindowUpdateFrame := do
  if payload.length ≠ 4 then throw (H2Error.frameSize "WINDOW_UPDATE frame must be 4 bytes")
  let increment :=
    be32 ((← byteAt payload 0) &&& 0x7f) (← byteAt payload 1) (← byteAt payload 2)
      (← byteAt payload 3)
  if increment = 0 then
    throw (invalidWindowUpdateIncrementError header.streamId "WINDOW_UPDATE with zero increment")
  pure { streamId := header.streamId, increment }

/-- `ContinuationFrame::parse`. -/
def ContinuationFrame.parse (header : FrameHeader) (payload : List UInt8) :
    ExceptT H2Error Option ContinuationFrame := do
  if header.streamId = 0 then throw (H2Error.protocol "CONTINUATION frame with stream ID 0")
  pure { streamId := header.streamId, headerBlock := payload,
         endHeaders := header.hasFlag continuationFlags.endHeaders }

/-- `parse_frame`: an unknown type is kept, with its payload, to be
ignored. -/
def parseFrame (header : FrameHeader) (payload : List UInt8) : ExceptT H2Error Option Frame :=
  match FrameType.fromU8 header.frameType with
  | some .Data => Frame.Data <$> DataFrame.parse header payload
  | some .Headers => Frame.Headers <$> HeadersFrame.parse header payload
  | some .Priority => Frame.Priority <$> PriorityFrame.parse header payload
  | some .RstStream => Frame.RstStream <$> RstStreamFrame.parse header payload
  | some .Settings => Frame.Settings <$> SettingsFrame.parse header payload
  | some .PushPromise => Frame.PushPromise <$> PushPromiseFrame.parse header payload
  | some .Ping => Frame.Ping <$> PingFrame.parse header payload
  | some .GoAway => Frame.GoAway <$> GoAwayFrame.parse header payload
  | some .WindowUpdate => Frame.WindowUpdate <$> WindowUpdateFrame.parse header payload
  | some .Continuation => Frame.Continuation <$> ContinuationFrame.parse header payload
  | none => pure (.Unknown header.frameType header.streamId payload)

end H2

end Asupersync
