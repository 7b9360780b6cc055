/-
HTTP/2's error vocabulary (`http/h2/error.rs`): the RFC 9113 §7 error
codes and the error value every frame, stream and HPACK operation
returns.

# Codes on the wire

`ErrorCode` is a `#[repr(u32)]` enumeration; `u32::from` writes its
discriminant and `from_u32` reads one back, mapping every code it does
not know to `INTERNAL_ERROR`. `0x2`, `INTERNAL_ERROR` itself, reaches
the same arm through the wildcard, so reading back what was written
gives every code again (`fromU32_toU32`).

# Stream-level errors

`H2Error::stream` on stream `0` builds a connection-level error: stream
`0` is the connection's own, and the source normalizes an accidental
stream error there so that callers never see `Some(0)`.
-/
import Mathlib

namespace Asupersync

namespace H2

/-- `ErrorCode`. -/
inductive ErrorCode where
  | NoError
  | ProtocolError
  | InternalError
  | FlowControlError
  | SettingsTimeout
  | StreamClosed
  | FrameSizeError
  | RefusedStream
  | Cancel
  | CompressionError
  | ConnectError
  | EnhanceYourCalm
  | InadequateSecurity
  | Http11Required
  deriving DecidableEq, Repr

/-- `u32::from(code)`: the enumeration's discriminant. -/
def ErrorCode.toU32 : ErrorCode → UInt32
  | .NoError => 0x0
  | .ProtocolError => 0x1
  | .InternalError => 0x2
  | .FlowControlError => 0x3
  | .SettingsTimeout => 0x4
  | .StreamClosed => 0x5
  | .FrameSizeError => 0x6
  | .RefusedStream => 0x7
  | .Cancel => 0x8
  | .CompressionError => 0x9
  | .ConnectError => 0xa
  | .EnhanceYourCalm => 0xb
  | .InadequateSecurity => 0xc
  | .Http11Required => 0xd

/-- `ErrorCode::from_u32`. -/
def ErrorCode.fromU32 (value : UInt32) : ErrorCode :=
  match value with
  | 0x0 => .NoError
  | 0x1 => .ProtocolError
  | 0x3 => .FlowControlError
  | 0x4 => .SettingsTimeout
  | 0x5 => .StreamClosed
  | 0x6 => .FrameSizeError
  | 0x7 => .RefusedStream
  | 0x8 => .Cancel
  | 0x9 => .CompressionError
  | 0xa => .ConnectError
  | 0xb => .EnhanceYourCalm
  | 0xc => .InadequateSecurity
  | 0xd => .Http11Required
  -- unknown codes, and `0x2` itself, are `INTERNAL_ERROR`
  | _ => .InternalError

/-- Reading back a written code gives the code. -/
@[simp] theorem ErrorCode.fromU32_toU32 (code : ErrorCode) : fromU32 code.toU32 = code := by
  cases code <;> rfl

/-- `H2Error`. -/
structure H2Error where
  code : ErrorCode
  message : String
  streamId : Option UInt32
  deriving DecidableEq, Repr

/-- `H2Error::connection`. -/
def H2Error.connection (code : ErrorCode) (message : String) : H2Error := ⟨code, message, none⟩

/-- `H2Error::stream`, normalized to a connection error on stream `0`. -/
def H2Error.stream (streamId : UInt32) (code : ErrorCode) (message : String) : H2Error :=
  if streamId = 0 then connection code message else ⟨code, message, some streamId⟩

/-- `H2Error::protocol`. -/
def H2Error.protocol (message : String) : H2Error := connection .ProtocolError message

/-- `H2Error::frame_size`. -/
def H2Error.frameSize (message : String) : H2Error := connection .FrameSizeError message

/-- `H2Error::flow_control`. -/
def H2Error.flowControl (message : String) : H2Error := connection .FlowControlError message

/-- `H2Error::compression`: a connection-level compression error. -/
def H2Error.compression (message : String) : H2Error := connection .CompressionError message

end H2

end Asupersync
