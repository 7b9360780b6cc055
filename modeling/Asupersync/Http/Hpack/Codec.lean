/-
HPACK's primitive representations (`http/h2/hpack.rs`, RFC 7541 §5): the
prefix integer, the string literal, and the RFC 9113 §8.2.1 checks the
decoder makes on every literal name and value.

# Reading

A function that reads from `src: &mut Bytes` takes the bytes still to
read and returns what it read with the bytes after it. An error drops how
far the read had got: every caller gives the error up at once, and the
decoder is not used on the same buffer again.

# Machine integers

`decode_integer` computes in `usize` with `checked_shl`, `checked_mul` and
`checked_add`, each of which raises its own error; on a 64-bit target
none of them can fail once the `shift > 28` guard has passed, but the
model keeps them, each against `usize::MAX`.
-/
import Asupersync.Http.Hpack.Huffman

namespace Asupersync

namespace Hpack

-- ============================================================= headers

/-- `Header`: a name and a value, each a byte string. -/
structure Header where
  name : List UInt8
  value : List UInt8
  deriving DecidableEq, Repr

/-- `Header::size`: the bytes it counts against a table or a list,
`name + value + 32`. The sum is saturating in the source; the lengths of
two strings in memory never reach `usize::MAX`. -/
def Header.size (h : Header) : Nat := h.name.length + h.value.length + 32

-- ============================================================= integers

/-- The continuation bytes of `encode_integer`, seven bits each, least
significant first. Each turn divides by 128, so `remaining` is enough
fuel. -/
def encodeIntegerTail : Nat → Nat → List UInt8
  | 0, remaining => [remaining.toUInt8]
  | fuel + 1, remaining =>
      if remaining ≥ 128 then ((remaining % 128).toUInt8 ||| 0x80) :: encodeIntegerTail fuel (remaining / 128)
      else [remaining.toUInt8]

/-- `encode_integer`: `value` after a `prefixBits`-bit prefix whose high
bits are `prefixByte`. -/
def encodeInteger (value prefixBits : Nat) (prefixByte : UInt8) : List UInt8 :=
  let maxFirst := 2 ^ prefixBits - 1
  if value < maxFirst then [prefixByte ||| value.toUInt8]
  else (prefixByte ||| maxFirst.toUInt8) :: encodeIntegerTail (value - maxFirst) (value - maxFirst)

/-- The continuation loop of `decode_integer`, from the byte after the
prefix; `value` is what has been read, `shift` where the next seven bits
go. -/
def decodeIntegerLoop (value shift : Nat) : List UInt8 → Except H2Error (Nat × List UInt8)
  | [] => .error (.compression "unexpected end of integer")
  | byte :: src =>
      if shift > 28 then .error (.compression "integer too large")
      else if shift ≥ 64 then .error (.compression "integer overflow in shift")
      else
        let increment := (byte &&& 0x7f).toNat * 2 ^ shift
        if increment > usizeMax then .error (.compression "integer overflow in multiply")
        else if value + increment > usizeMax then .error (.compression "integer overflow in addition")
        else if byte &&& 0x80 = 0 then .ok (value + increment, src)
        else decodeIntegerLoop (value + increment) (shift + 7) src

/-- `decode_integer`. -/
def decodeInteger (src : List UInt8) (prefixBits : Nat) : Except H2Error (Nat × List UInt8) :=
  match src with
  | [] => .error (.compression "unexpected end of integer")
  | byte :: src =>
      let maxFirst := 2 ^ prefixBits - 1
      let first := (byte &&& maxFirst.toUInt8).toNat
      if first < maxFirst then .ok (first, src)
      else decodeIntegerLoop maxFirst 0 src

-- ============================================================== strings

/-- `encode_string`: the length, Huffman flag in its high bit, then the
bytes. -/
def encodeString (value : List UInt8) (useHuffman : Bool) : List UInt8 :=
  if useHuffman then encodeInteger (huffmanEncodedSize value) 7 0x80 ++ encodeHuffmanToBuffer value
  else encodeInteger value.length 7 0x00 ++ value

/-- `decode_string_bounded`: the length prefix is checked against
`min(max_len, MAX_STRING_LENGTH)` before any byte of the string is read. -/
def decodeStringBounded (src : List UInt8) (maxLen : Nat) :
    Except H2Error (List UInt8 × List UInt8) :=
  match src with
  | [] => .error (.compression "unexpected end of string")
  | first :: _ => do
      let huffman := first &&& 0x80 != 0
      let (length, src) ← decodeInteger src 7
      let effectiveMax := min maxLen maxStringLength
      if length > effectiveMax then throw (.compression "string length exceeds budget")
      if src.length < length then throw (.compression "string length exceeds buffer")
      let data := src.take length
      let src := src.drop length
      if huffman then
        let s ← decodeHuffman data
        pure (s, src)
      else
        match fromUtf8 data with
        | some s => pure (s, src)
        | none => throw (.compression "invalid UTF-8 in header")

-- ========================================================== validation

/-- The bytes a header name may hold anywhere: `a-z`, `0-9` and the
token characters ``!#$%&'*+-.^_`|~``. -/
def isNameByte (b : UInt8) : Bool :=
  (b ≥ 0x61 && b ≤ 0x7a) || (b ≥ 0x30 && b ≤ 0x39) ||
    [0x21, 0x23, 0x24, 0x25, 0x26, 0x27, 0x2a, 0x2b, 0x2d, 0x2e, 0x5e, 0x5f, 0x60, 0x7c, 0x7e].contains b

/-- `validate_header_name`: nonempty, every byte a name byte, and `:` as
the first byte of a pseudo-header. -/
def validateHeaderName (name : List UInt8) : Except H2Error Unit :=
  if name.isEmpty then .error (.compression "empty header name")
  else if name.zipIdx.all fun (b, i) => isNameByte b || (b == 0x3a && i == 0) then .ok ()
  else .error (.compression "invalid character in header name (RFC 9113 Section 8.2.1)")

/-- `validate_header_value`: no NUL, CR or LF. -/
def validateHeaderValue (value : List UInt8) : Except H2Error Unit :=
  if value.any fun b => b == 0x00 || b == 0x0d || b == 0x0a then
    .error (.compression "invalid character in header value (RFC 9113 Section 8.2.1)")
  else .ok ()

end Hpack

end Asupersync
