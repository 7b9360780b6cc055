/-
The write side of `BytesMut` (`bytes/bytes_mut.rs` and its `BufMut`):
every write appends to the buffer.

An encoder that writes into `&mut BytesMut` and returns
`Result<(), E>` is an `EStateM E (List UInt8) Unit` run on the buffer,
so these writes are generic in the error type. `reserve` changes no
byte and is left out. Each write appends a fixed list, in the sense of
`Machine.Appends` (`putU32_appends` and the rest).
-/
import Asupersync.Bytes.BigEndian
import Asupersync.Machine.Append

namespace Asupersync

namespace BytesMut

open Machine (Appends)

variable {ε : Type}

/-- `BytesMut::extend_from_slice`, and `put_slice`. -/
def extendFromSlice (src : List UInt8) : EStateM ε (List UInt8) Unit :=
  modify fun dst => dst ++ src

/-- `put_u8`. -/
def putU8 (n : UInt8) : EStateM ε (List UInt8) Unit := extendFromSlice [n]

/-- `put_u16`, big-endian. -/
def putU16 (n : UInt16) : EStateM ε (List UInt8) Unit := extendFromSlice (Bytes.putU16 n)

/-- `put_u32`, big-endian. -/
def putU32 (n : UInt32) : EStateM ε (List UInt8) Unit := extendFromSlice (Bytes.putU32 n)

/-- `put_u16_le`. -/
def putU16Le (n : UInt16) : EStateM ε (List UInt8) Unit := extendFromSlice (Bytes.putU16Le n)

/-- `put_u32_le`. -/
def putU32Le (n : UInt32) : EStateM ε (List UInt8) Unit := extendFromSlice (Bytes.putU32Le n)

/-- `put_u64_le`. -/
def putU64Le (n : UInt64) : EStateM ε (List UInt8) Unit := extendFromSlice (Bytes.putU64Le n)

theorem extendFromSlice_appends (src : List UInt8) :
    Appends (extendFromSlice src : EStateM ε (List UInt8) Unit) (.ok src) :=
  Appends.append src

theorem putU8_appends (n : UInt8) : Appends (putU8 n : EStateM ε (List UInt8) Unit) (.ok [n]) :=
  Appends.append [n]

theorem putU16_appends (n : UInt16) :
    Appends (putU16 n : EStateM ε (List UInt8) Unit) (.ok (Bytes.putU16 n)) :=
  Appends.append _

theorem putU32_appends (n : UInt32) :
    Appends (putU32 n : EStateM ε (List UInt8) Unit) (.ok (Bytes.putU32 n)) :=
  Appends.append _

theorem putU16Le_appends (n : UInt16) :
    Appends (putU16Le n : EStateM ε (List UInt8) Unit) (.ok (Bytes.putU16Le n)) :=
  Appends.append _

theorem putU32Le_appends (n : UInt32) :
    Appends (putU32Le n : EStateM ε (List UInt8) Unit) (.ok (Bytes.putU32Le n)) :=
  Appends.append _

theorem putU64Le_appends (n : UInt64) :
    Appends (putU64Le n : EStateM ε (List UInt8) Unit) (.ok (Bytes.putU64Le n)) :=
  Appends.append _

end BytesMut

end Asupersync
