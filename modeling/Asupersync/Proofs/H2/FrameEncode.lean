/-
What the HTTP/2 frame encoders write (`http/h2/frame.rs`), and which
stream the written frame belongs to.

# Wire images

`Frame.wire` is an encoder as a value: the error it returns, or the
bytes it appends. Every encoder makes all of its checks before its first
write, so it appends its image's bytes to any buffer or fails and
leaves the buffer as it was (`Frame.encode_appends`, in the sense of
`Machine.Appends`); a failed encode has written nothing
(`encode_error_keeps_buffer`).

# The stream on the wire

`FrameHeader::write` keeps the low 31 bits of the stream identifier and
`FrameHeader::parse` reads those back (`FrameHeader.parse_buf`). The
encoders of the frames that belong to a stream refuse identifier `0`
only, not an identifier whose low 31 bits are clear, so a DATA frame for
stream `0x8000_0000` is accepted and read back as a frame of stream `0`,
the connection's own (`data_frame_reserved_bit_sent_on_stream_zero`).
-/
import Asupersync.Http.H2.Frame
import Asupersync.Machine.Append

namespace Asupersync

namespace H2

open Machine (Appends)

-- ============================================================ the buffer

theorem FrameHeader.write_appends (h : FrameHeader) : Appends h.write (.ok h.buf) :=
  Appends.append _

/-- The five priority bytes. -/
def PrioritySpec.bytes (p : PrioritySpec) : List UInt8 :=
  Bytes.putU32 (if p.exclusive then p.dependency ||| 0x80000000 else p.dependency) ++ [p.weight]

theorem PrioritySpec.write_appends (p : PrioritySpec) : Appends p.write (.ok p.bytes) :=
  Appends.seq (BytesMut.putU32_appends _) (BytesMut.putU8_appends _)

/-- The six bytes of one setting. -/
def Setting.bytes (s : Setting) : List UInt8 := Bytes.putU16 s.id ++ Bytes.putU32 s.value

-- ========================================================== wire images

/-- What `DataFrame::encode` writes. -/
def DataFrame.wire (f : DataFrame) : Except H2Error (List UInt8) :=
  if f.streamId = 0 then .error (H2Error.protocol "DATA frame with stream ID 0") else
  (tryFrameLength f.data.length).bind fun length =>
    .ok ((FrameHeader.mk length FrameType.Data.toU8 (setFlagIf 0 f.endStream dataFlags.endStream)
      f.streamId).buf ++ f.data)

/-- The END_STREAM and END_HEADERS flags of a HEADERS frame. -/
def HeadersFrame.flags (f : HeadersFrame) : UInt8 :=
  setFlagIf (setFlagIf 0 f.endStream headersFlags.endStream) f.endHeaders headersFlags.endHeaders

/-- What `HeadersFrame::encode` writes. -/
def HeadersFrame.wire (f : HeadersFrame) : Except H2Error (List UInt8) :=
  if f.streamId = 0 then .error (H2Error.protocol "HEADERS frame with stream ID 0") else
  if f.priority.any (fun p => p.dependency &&& 0x7fffffff == f.streamId) then
    .error (H2Error.stream f.streamId .ProtocolError "stream cannot depend on itself") else
  match f.priority with
  | some p => (checkedFrameLengthSum f.headerBlock.length 5).bind fun length =>
    .ok ((FrameHeader.mk length FrameType.Headers.toU8 (f.flags ||| headersFlags.priority)
      f.streamId).buf ++ (p.bytes ++ f.headerBlock))
  | none => (tryFrameLength f.headerBlock.length).bind fun length =>
    .ok ((FrameHeader.mk length FrameType.Headers.toU8 f.flags f.streamId).buf ++ f.headerBlock)

/-- What `PriorityFrame::encode` writes. -/
def PriorityFrame.wire (f : PriorityFrame) : Except H2Error (List UInt8) :=
  if f.streamId = 0 then .error (H2Error.protocol "PRIORITY frame with stream ID 0") else
  if f.priority.dependency &&& 0x7fffffff = f.streamId then
    .error (H2Error.stream f.streamId .ProtocolError "stream cannot depend on itself") else
  .ok ((FrameHeader.mk 5 FrameType.Priority.toU8 0 f.streamId).buf ++ f.priority.bytes)

/-- What `RstStreamFrame::encode` writes. -/
def RstStreamFrame.wire (f : RstStreamFrame) : Except H2Error (List UInt8) :=
  if f.streamId = 0 then .error (H2Error.protocol "RST_STREAM frame with stream ID 0") else
  .ok ((FrameHeader.mk 4 FrameType.RstStream.toU8 0 f.streamId).buf ++ Bytes.putU32 f.errorCode.toU32)

/-- The settings a SETTINGS frame carries on the wire: none on an ACK. -/
def SettingsFrame.encodedSettings (f : SettingsFrame) : List Setting := if f.ack then [] else f.settings

/-- What `SettingsFrame::encode` writes. -/
def SettingsFrame.wire (f : SettingsFrame) : Except H2Error (List UInt8) :=
  (f.encodedSettings.forM validateSettingForEncode).bind fun _ =>
  (checkedFrameLengthProduct f.encodedSettings.length 6).bind fun length =>
    .ok ((FrameHeader.mk length FrameType.Settings.toU8 (setFlagIf 0 f.ack settingsFlags.ack) 0).buf ++
      f.encodedSettings.flatMap Setting.bytes)

/-- What `PushPromiseFrame::encode` writes. -/
def PushPromiseFrame.wire (f : PushPromiseFrame) : Except H2Error (List UInt8) :=
  if f.streamId = 0 then .error (H2Error.protocol "PUSH_PROMISE frame with stream ID 0") else
  if Bytes.trailingZeros32 f.promisedStreamId ≥ 31 then
    .error (H2Error.protocol "PUSH_PROMISE frame with promised stream ID 0") else
  (checkedFrameLengthSum f.headerBlock.length 4).bind fun length =>
    .ok ((FrameHeader.mk length FrameType.PushPromise.toU8
      (setFlagIf 0 f.endHeaders headersFlags.endHeaders) f.streamId).buf ++
      (Bytes.putU32 (f.promisedStreamId &&& 0x7fffffff) ++ f.headerBlock))

/-- What `PingFrame::encode` writes. -/
def PingFrame.wire (f : PingFrame) : Except H2Error (List UInt8) :=
  .ok ((FrameHeader.mk 8 FrameType.Ping.toU8 (setFlagIf 0 f.ack pingFlags.ack) 0).buf ++
    f.opaqueData.toList)

/-- What `GoAwayFrame::encode` writes. -/
def GoAwayFrame.wire (f : GoAwayFrame) : Except H2Error (List UInt8) :=
  (checkedFrameLengthSum f.debugData.length 8).bind fun length =>
    .ok ((FrameHeader.mk length FrameType.GoAway.toU8 0 0).buf ++
      (Bytes.putU32 (f.lastStreamId &&& 0x7fffffff) ++
        (Bytes.putU32 f.errorCode.toU32 ++ f.debugData)))

/-- What `WindowUpdateFrame::encode` writes. -/
def WindowUpdateFrame.wire (f : WindowUpdateFrame) : Except H2Error (List UInt8) :=
  if f.increment = 0 then
    .error (invalidWindowUpdateIncrementError f.streamId "WINDOW_UPDATE with zero increment") else
  if f.increment > maxWindowUpdateIncrement then
    .error (invalidWindowUpdateIncrementError f.streamId
      s!"WINDOW_UPDATE increment {f.increment} exceeds 31-bit maximum") else
  .ok ((FrameHeader.mk 4 FrameType.WindowUpdate.toU8 0 f.streamId).buf ++ Bytes.putU32 f.increment)

/-- What `ContinuationFrame::encode` writes. -/
def ContinuationFrame.wire (f : ContinuationFrame) : Except H2Error (List UInt8) :=
  if f.streamId = 0 then .error (H2Error.protocol "CONTINUATION frame with stream ID 0") else
  (tryFrameLength f.headerBlock.length).bind fun length =>
    .ok ((FrameHeader.mk length FrameType.Continuation.toU8
      (setFlagIf 0 f.endHeaders continuationFlags.endHeaders) f.streamId).buf ++ f.headerBlock)

/-- What `Frame::encode` writes. -/
def Frame.wire : Frame → Except H2Error (List UInt8)
  | .Data f => f.wire
  | .Headers f => f.wire
  | .Priority f => f.wire
  | .RstStream f => f.wire
  | .Settings f => f.wire
  | .PushPromise f => f.wire
  | .Ping f => f.wire
  | .GoAway f => f.wire
  | .WindowUpdate f => f.wire
  | .Continuation f => f.wire
  | .Unknown frameType streamId payload =>
    (tryFrameLength payload.length).bind fun length =>
      .ok ((FrameHeader.mk length frameType 0 streamId).buf ++ payload)

-- ======================================================== encoders refine

theorem DataFrame.encode_appends (f : DataFrame) : Appends f.encode f.wire := by
  unfold DataFrame.encode DataFrame.wire
  exact Appends.guard _ (Appends.ofExcept_bind fun length =>
    Appends.seq (FrameHeader.write_appends _) (BytesMut.extendFromSlice_appends _))

theorem HeadersFrame.encode_appends (f : HeadersFrame) : Appends f.encode f.wire := by
  obtain ⟨streamId, headerBlock, endStream, endHeaders, priority⟩ := f
  unfold HeadersFrame.encode HeadersFrame.wire
  refine Appends.guard _ (Appends.guard _ ?_)
  cases priority with
  | some p =>
    simp only [pure_bind]
    exact Appends.ofExcept_bind fun length => Appends.seq (FrameHeader.write_appends _)
      (Appends.seq (PrioritySpec.write_appends p) (BytesMut.extendFromSlice_appends _))
  | none =>
    simp only [pure_bind]
    exact Appends.ofExcept_bind fun length => Appends.seq (FrameHeader.write_appends _)
      (Appends.seq Appends.pure (BytesMut.extendFromSlice_appends _))

theorem PriorityFrame.encode_appends (f : PriorityFrame) : Appends f.encode f.wire := by
  unfold PriorityFrame.encode PriorityFrame.wire
  exact Appends.guard _ (Appends.guard _
    (Appends.seq (FrameHeader.write_appends _) (PrioritySpec.write_appends _)))

theorem RstStreamFrame.encode_appends (f : RstStreamFrame) : Appends f.encode f.wire := by
  unfold RstStreamFrame.encode RstStreamFrame.wire
  exact Appends.guard _ (Appends.seq (FrameHeader.write_appends _) (BytesMut.putU32_appends _))

theorem SettingsFrame.encode_appends (f : SettingsFrame) : Appends f.encode f.wire := by
  unfold SettingsFrame.encode SettingsFrame.wire SettingsFrame.encodedSettings
  exact Appends.ofExcept_bind fun _ => Appends.ofExcept_bind fun length =>
    Appends.seq (FrameHeader.write_appends _) (Appends.forM (fun setting =>
      Appends.seq (BytesMut.putU16_appends _) (BytesMut.putU32_appends _)) _)

theorem PushPromiseFrame.encode_appends (f : PushPromiseFrame) : Appends f.encode f.wire := by
  unfold PushPromiseFrame.encode PushPromiseFrame.wire
  exact Appends.guard _ (Appends.guard _ (Appends.ofExcept_bind fun length =>
    Appends.seq (FrameHeader.write_appends _)
      (Appends.seq (BytesMut.putU32_appends _) (BytesMut.extendFromSlice_appends _))))

theorem PingFrame.encode_appends (f : PingFrame) : Appends f.encode f.wire := by
  unfold PingFrame.encode PingFrame.wire
  exact Appends.seq (FrameHeader.write_appends _) (BytesMut.extendFromSlice_appends _)

theorem GoAwayFrame.encode_appends (f : GoAwayFrame) : Appends f.encode f.wire := by
  unfold GoAwayFrame.encode GoAwayFrame.wire
  exact Appends.ofExcept_bind fun length => Appends.seq (FrameHeader.write_appends _)
    (Appends.seq (BytesMut.putU32_appends _)
      (Appends.seq (BytesMut.putU32_appends _) (BytesMut.extendFromSlice_appends _)))

theorem WindowUpdateFrame.encode_appends (f : WindowUpdateFrame) : Appends f.encode f.wire := by
  unfold WindowUpdateFrame.encode WindowUpdateFrame.wire
  exact Appends.guard _ (Appends.guard _
    (Appends.seq (FrameHeader.write_appends _) (BytesMut.putU32_appends _)))

theorem ContinuationFrame.encode_appends (f : ContinuationFrame) : Appends f.encode f.wire := by
  unfold ContinuationFrame.encode ContinuationFrame.wire
  exact Appends.guard _ (Appends.ofExcept_bind fun length =>
    Appends.seq (FrameHeader.write_appends _) (BytesMut.extendFromSlice_appends _))

/-- Every encoder appends its frame's wire image, or fails before it
writes. -/
theorem Frame.encode_appends : ∀ f : Frame, Appends f.encode f.wire
  | .Data f => f.encode_appends
  | .Headers f => f.encode_appends
  | .Priority f => f.encode_appends
  | .RstStream f => f.encode_appends
  | .Settings f => f.encode_appends
  | .PushPromise f => f.encode_appends
  | .Ping f => f.encode_appends
  | .GoAway f => f.encode_appends
  | .WindowUpdate f => f.encode_appends
  | .Continuation f => f.encode_appends
  | .Unknown _ _ _ => Appends.ofExcept_bind fun _ =>
    Appends.seq (FrameHeader.write_appends _) (BytesMut.extendFromSlice_appends _)

/-- A failed encode leaves the buffer as it was. -/
theorem encode_error_keeps_buffer (f : Frame) {dst dst' : List UInt8} {e : H2Error}
    (h : f.encode.run dst = .error e dst') : dst' = dst :=
  ((Frame.encode_appends f).run_error h).1

-- ===================================================== the stream on the wire

/-- The stream byte of `write`, masked once more by `parse`. -/
theorem streamIdByte_and_7f (x : UInt32) :
    ((x >>> 24) &&& 0x7f).toUInt8 &&& (0x7f : UInt8) = (x >>> 24).toUInt8 &&& 0x7f := by
  apply UInt8.toNat_inj.mp
  rw [Bytes.toNat_and_7f, Bytes.toNat_and_7f, UInt32.toNat_toUInt8, UInt32.toNat_toUInt8,
    UInt32.toNat_and, show (0x7f : UInt32).toNat = 2 ^ 7 - 1 from rfl, Nat.and_two_pow_sub_one_eq_mod]
  omega

/-- `parse` reads back what `write` wrote, with the stream identifier's
reserved bit cleared. -/
theorem FrameHeader.parse_buf (h : FrameHeader) (hlen : h.length.toNat < 2 ^ 24) (rest : List UInt8) :
    FrameHeader.parse (h.buf ++ rest) =
      .ok ({ h with streamId := h.streamId &&& 0x7fffffff }, rest) := by
  have hsize : ¬(h.buf ++ rest).length < frameHeaderSize := by
    simp [FrameHeader.buf, frameHeaderSize]
  rw [FrameHeader.parse, if_neg hsize]
  simp only [FrameHeader.buf, List.cons_append, List.nil_append, List.getElem!_cons_zero,
    List.getElem!_cons_succ, streamIdByte_and_7f, Bytes.be24_of_lt _ hlen, Bytes.be32_and_7f_putU32]
  rfl

/-- A DATA frame for stream `0x8000_0000` passes `DataFrame::encode`, which
refuses only stream `0`, and its header reads back as a frame of stream
`0`. -/
theorem data_frame_reserved_bit_sent_on_stream_zero :
    (Frame.Data ⟨0x80000000, [], false, 0⟩).encode.run [] = .ok () [0, 0, 0, 0, 0, 0, 0, 0, 0] ∧
      FrameHeader.parse [0, 0, 0, 0, 0, 0, 0, 0, 0] = .ok (⟨0, FrameType.Data.toU8, 0, 0⟩, []) :=
  ⟨rfl, rfl⟩

end H2

end Asupersync
