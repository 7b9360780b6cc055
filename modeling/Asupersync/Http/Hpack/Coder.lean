/-
HPACK's encoder and decoder (`Encoder` and `Decoder` in
`http/h2/hpack.rs`, RFC 7541 §6): what each writes or reads for a header
block, and how each keeps its dynamic table.

# The encoder

`encode` and `encode_sensitive` first emit the size updates
`set_max_table_size` left pending (the smallest size asked since the last
block when it is below the final one, then the final one), then each
header: an index where the static or dynamic table holds the pair (not
for sensitive headers), else a literal naming the header by index where
a table holds the name. A literal of `encode` enters the encoder's
table; one of `encode_sensitive` is never indexed. The two differ only in
`encode_header`'s `index` flag, so they are one definition here.

# The decoder

`decode` reads at most sixteen size updates at the start of the block,
then headers until the block ends, each literal bounded by what the
header list may still hold. It mutates the decoder as it goes: size
updates and indexed literals read before an error stay. So the decoder's
loops return the decoder with the result, in both cases; what they read
of `src` after an error is dropped. The header loop consumes at least one
byte a turn, so the block's length is enough fuel.
-/
import Asupersync.Http.Hpack.Table

namespace Asupersync

namespace Hpack

-- ============================================================= encoder

/-- `Encoder`. -/
structure Encoder where
  dynamicTable : DynamicTable
  useHuffman : Bool
  minSizeUpdate : Option Nat
  pendingSizeUpdate : Option Nat

namespace Encoder

/-- `Encoder::with_max_size`. -/
def withMaxSize (maxSize : Nat) : Encoder := ⟨.withMaxSize maxSize, true, none, none⟩

/-- `Encoder::set_use_huffman`. -/
def setUseHuffman (e : Encoder) (useHuffman : Bool) : Encoder := { e with useHuffman := useHuffman }

/-- `Encoder::set_max_table_size`: evict now, announce in the next block. -/
def setMaxTableSize (e : Encoder) (size : Nat) : Encoder :=
  let capped := min size maxAllowedTableSize
  { e with dynamicTable := e.dynamicTable.setMaxSize capped
           minSizeUpdate := some (match e.minSizeUpdate with
             | some minSoFar => min minSoFar capped
             | none => capped)
           pendingSizeUpdate := some capped }

/-- `Encoder::dynamic_table_size`. -/
def dynamicTableSize (e : Encoder) : Nat := e.dynamicTable.size

/-- `Encoder::dynamic_table_max_size`. -/
def dynamicTableMaxSize (e : Encoder) : Nat := e.dynamicTable.maxSize

/-- `Encoder::emit_pending_size_update`: both options are taken. -/
def emitPendingSizeUpdate (e : Encoder) : List UInt8 × Encoder :=
  match e.minSizeUpdate with
  | none => ([], e)
  | some minSize =>
      let e := { e with minSizeUpdate := none }
      match e.pendingSizeUpdate with
      | none => ([], e)
      | some finalSize =>
          ((if minSize < finalSize then encodeInteger minSize 5 0x20 else []) ++
              encodeInteger finalSize 5 0x20,
            { e with pendingSizeUpdate := none })

/-- `u8::is_ascii_uppercase`. -/
def isAsciiUppercase (b : UInt8) : Bool := b ≥ 0x41 && b ≤ 0x5a

/-- `u8::to_ascii_lowercase`. -/
def toAsciiLowercase (b : UInt8) : UInt8 := if isAsciiUppercase b then b + 0x20 else b

/-- `encode_header`'s `normalized_name`: lowercased only if some byte is
uppercase (the source borrows the name otherwise). -/
def normalizedName (name : List UInt8) : List UInt8 :=
  if name.any isAsciiUppercase then name.map toAsciiLowercase else name

/-- `Encoder::encode_header`. -/
def encodeHeader (e : Encoder) (header : Header) (index : Bool) : List UInt8 × Encoder :=
  let name := normalizedName header.name
  let value := header.value
  -- an exact match is sent as an index, unless the header is sensitive
  let exact := if index then (findStatic name value).or (e.dynamicTable.find name value) else none
  match exact with
  | some idx => (encodeInteger idx 7 0x80, e)
  | none =>
      let nameIdx := (findStaticName name).or (e.dynamicTable.findName name)
      if index then
        let nameBytes := match nameIdx with
          | some idx => encodeInteger idx 6 0x40
          | none => 0x40 :: encodeString name e.useHuffman
        (nameBytes ++ encodeString value e.useHuffman,
          { e with dynamicTable := e.dynamicTable.insert ⟨name, value⟩ })
      else
        let nameBytes := match nameIdx with
          | some idx => encodeInteger idx 4 0x10
          | none => 0x10 :: encodeString name e.useHuffman
        (nameBytes ++ encodeString value e.useHuffman, e)

/-- `encode` (`index = true`) and `encode_sensitive` (`index = false`):
the block's bytes. -/
def encodeWith (index : Bool) (e : Encoder) (headers : List Header) : List UInt8 × Encoder :=
  let r := e.emitPendingSizeUpdate
  headers.foldl (fun acc header =>
    let h := acc.2.encodeHeader header index
    (acc.1 ++ h.1, h.2)) r

/-- `Encoder::encode`. -/
def encode (e : Encoder) (headers : List Header) : List UInt8 × Encoder := encodeWith true e headers

/-- `Encoder::encode_sensitive`. -/
def encodeSensitive (e : Encoder) (headers : List Header) : List UInt8 × Encoder :=
  encodeWith false e headers

end Encoder

-- ============================================================= decoder

/-- `Decoder`. -/
structure Decoder where
  dynamicTable : DynamicTable
  maxHeaderListSize : Nat
  allowedTableSize : Nat

namespace Decoder

/-- `Decoder::with_max_size`. -/
def withMaxSize (maxSize : Nat) : Decoder :=
  let cappedSize := min maxSize maxAllowedTableSize
  ⟨.withMaxSize cappedSize, 16384, cappedSize⟩

/-- `Decoder::set_max_header_list_size`. -/
def setMaxHeaderListSize (d : Decoder) (size : Nat) : Decoder := { d with maxHeaderListSize := size }

/-- `Decoder::set_allowed_table_size`. -/
def setAllowedTableSize (d : Decoder) (size : Nat) : Decoder :=
  { d with allowedTableSize := min size maxAllowedTableSize }

/-- `Decoder::dynamic_table_size`. -/
def dynamicTableSize (d : Decoder) : Nat := d.dynamicTable.size

/-- `Decoder::dynamic_table_max_size`. -/
def dynamicTableMaxSize (d : Decoder) : Nat := d.dynamicTable.maxSize

/-- `Decoder::get_indexed`. -/
def getIndexed (d : Decoder) (index : Nat) : Except H2Error Header :=
  if index = 0 then .error (.compression "invalid index 0")
  else if index ≤ staticTable.length then
    match getStatic index with
    | some (name, value) => .ok ⟨name, value⟩
    | none => .error (.compression "invalid static index")
  else
    match d.dynamicTable.get (index - staticTable.length) with
    | some h => .ok h
    | none => .error (.compression "invalid dynamic index")

/-- `Decoder::get_indexed_name`. -/
def getIndexedName (d : Decoder) (index : Nat) : Except H2Error (List UInt8) :=
  if index = 0 then .error (.compression "invalid index 0")
  else if index ≤ staticTable.length then
    match getStatic index with
    | some (name, _) => .ok name
    | none => .error (.compression "invalid static index")
  else
    match d.dynamicTable.get (index - staticTable.length) with
    | some h => .ok h.name
    | none => .error (.compression "invalid dynamic index")

/-- `Decoder::decode_literal`: the name (new or indexed), then the value,
each checked; the value's budget is what the name left. -/
def decodeLiteral (d : Decoder) (src : List UInt8) (prefixBits remainingBudget : Nat) :
    Except H2Error ((List UInt8 × List UInt8) × List UInt8) := do
  let (index, src) ← decodeInteger src prefixBits
  let (name, src) ← if index = 0 then do
      let (n, src) ← decodeStringBounded src remainingBudget
      validateHeaderName n
      pure (n, src)
    else do
      let n ← d.getIndexedName index
      pure (n, src)
  let valueBudget := remainingBudget - name.length
  let (value, src) ← decodeStringBounded src valueBudget
  validateHeaderValue value
  pure ((name, value), src)

/-- `Decoder::decode_header`: one representation; a literal with
incremental indexing enters the table. -/
def decodeHeader (d : Decoder) (src : List UInt8) (remainingBudget : Nat) :
    Except H2Error (Header × Decoder × List UInt8) :=
  match src with
  | [] => .error (.compression "unexpected end of header block")
  | first :: _ =>
      if first &&& 0x80 ≠ 0 then do
        let (index, src) ← decodeInteger src 7
        let h ← d.getIndexed index
        pure (h, d, src)
      else if first &&& 0x40 ≠ 0 then do
        let ((name, value), src) ← d.decodeLiteral src 6 remainingBudget
        let header : Header := ⟨name, value⟩
        pure (header, { d with dynamicTable := d.dynamicTable.insert header }, src)
      else if first &&& 0x20 ≠ 0 then
        .error (.compression "dynamic table size update after first header in block")
      else do
        -- never indexed (`0x10`) and without indexing read the same way
        let ((name, value), src) ← d.decodeLiteral src 4 remainingBudget
        pure (⟨name, value⟩, d, src)

/-- The size-update loop at the start of `decode`, `count` updates read so
far. Its seventeenth turn is an error, so `MAX_SIZE_UPDATES + 1` is
enough fuel. -/
def sizeUpdateLoop : Nat → Nat → Decoder → List UInt8 → Except H2Error (List UInt8) × Decoder
  | 0, _, d, src => (.ok src, d)
  | fuel + 1, count, d, src =>
      match src with
      | first :: _ =>
          if first &&& 0xe0 = 0x20 then
            let count := count + 1
            if count > maxSizeUpdates then
              (.error (.compression "too many consecutive dynamic table size updates"), d)
            else
              match decodeInteger src 5 with
              | .error e => (.error e, d)
              | .ok (newSize, src) =>
                  if newSize > d.allowedTableSize then
                    (.error (.compression "dynamic table size update exceeds allowed maximum"), d)
                  else sizeUpdateLoop fuel count { d with dynamicTable := d.dynamicTable.setMaxSize newSize } src
          else (.ok src, d)
      | [] => (.ok src, d)

/-- The header loop of `decode`: `totalSize` is the list size so far. -/
def headerLoop : Nat → Nat → List Header → Decoder → List UInt8 → Except H2Error (List Header) × Decoder
  | 0, _, headers, d, _ => (.ok headers, d)
  | fuel + 1, totalSize, headers, d, src =>
      if src.isEmpty then (.ok headers, d)
      else
        match d.decodeHeader src (d.maxHeaderListSize - totalSize) with
        | .error e => (.error e, d)
        | .ok (header, d, src) =>
            let totalSize := totalSize + header.size
            if totalSize > d.maxHeaderListSize then (.error (.compression "header list too large"), d)
            else headerLoop fuel totalSize (headers ++ [header]) d src

/-- `Decoder::decode`: the headers of a block, and the decoder after it. -/
def decode (d : Decoder) (src : List UInt8) : Except H2Error (List Header) × Decoder :=
  match sizeUpdateLoop (maxSizeUpdates + 1) 0 d src with
  | (.error e, d) => (.error e, d)
  | (.ok src, d) => headerLoop src.length 0 [] d src

end Decoder

end Hpack

end Asupersync
