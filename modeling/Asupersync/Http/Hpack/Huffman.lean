/-
HPACK's Huffman coding (`http/h2/hpack.rs`, RFC 7541 §5.2 and Appendix B):
the encoder that packs each byte's code MSB first and pads with the start
of EOS, and the table-driven decoder that reads four bits at a time.

# The encoder

`huffman_encoded_size` is the whole bytes the codes fill,
`⌈Σ code bits / 8⌉`. `encode_huffman_to_buffer` shifts each code into an
accumulator and writes a byte each time eight bits are in it; the last
partial byte is padded with ones. The accumulator never holds more than
`7 + 30` bits, so its `u64` never overflows and is a `Nat` here; the bit
count `total_bits: u32` is a `Nat` too, which it is up to strings of
143 MB.

# The decoder

`build_huffman_decode_table` runs once: it builds the binary trie of
the 257 codes (step 1), numbers the trie's internal nodes as decoder
states (step 2), marks the root and the first seven nodes of the EOS path
as states a string may end in (step 3), and for each state and each
nibble walks four bits of the trie, noting the symbol met and whether the
walk fell off the trie or reached EOS (step 4). `decode_huffman` then
reads each byte as two nibbles through that table.

The trie is a list of nodes indexed as the source's `Vec`; the table is
a function of the state and the nibble, which for the states the trie
has is the entry step 4 computes and otherwise the default entry the
source's array holds. The builder's `assert!` (at most 256 internal
nodes) and its two `expect`s (an EOS-path node and a walk's end are
internal nodes) hold for the fixed code; where the source would panic,
the model reads state 0.
-/
import Asupersync.Http.Hpack.Tables

namespace Asupersync

namespace Hpack

-- ============================================================= encoding

/-- `huffman_encoded_size`. -/
def huffmanEncodedSize (src : List UInt8) : Nat :=
  ((src.map fun byte => (huffmanCode byte).2).sum + 7) / 8

/-- The `while bits >= 8` loop of `encode_huffman_to_buffer`: the bytes
written, the accumulator and the bits left in it. The loop runs at most
`bits / 8` times, so `bits` is enough fuel. -/
def huffmanFlush (accumulator bits : Nat) : Nat → List UInt8 × Nat × Nat
  | 0 => ([], accumulator, bits)
  | fuel + 1 =>
      if bits ≥ 8 then
        let bits := bits - 8
        let r := huffmanFlush (accumulator % 2 ^ bits) bits fuel
        ((accumulator >>> bits).toUInt8 :: r.1, r.2)
      else ([], accumulator, bits)

/-- One byte of `encode_huffman_to_buffer`: shift its code in, then flush. -/
def huffmanPush (st : List UInt8 × Nat × Nat) (byte : UInt8) : List UInt8 × Nat × Nat :=
  let (code, codeBits) := huffmanCode byte
  let accumulator := (st.2.1 <<< codeBits) ||| code
  let bits := st.2.2 + codeBits
  let r := huffmanFlush accumulator bits bits
  (st.1 ++ r.1, r.2)

/-- `encode_huffman_to_buffer`: the bytes it appends. -/
def encodeHuffmanToBuffer (src : List UInt8) : List UInt8 :=
  let r := src.foldl huffmanPush ([], 0, 0)
  let accumulator := r.2.1
  let bits := r.2.2
  if bits > 0 then
    -- pad with the first `8 - bits` bits of EOS, all ones
    let padding := 8 - bits
    r.1 ++ [((accumulator <<< padding) ||| (2 ^ padding - 1)).toUInt8]
  else r.1

-- =============================================================== the trie

/-- A node of the decoder's trie: its two children and, at a leaf, the
symbol. -/
structure TrieNode where
  children : Option Nat × Option Nat
  sym : Option Nat
  deriving DecidableEq, Repr

namespace TrieNode

/-- `TrieNode::default()`. -/
def empty : TrieNode := ⟨(none, none), none⟩

/-- `children[bit]`. -/
def child (n : TrieNode) (bit : Nat) : Option Nat :=
  if bit = 0 then n.children.1 else n.children.2

/-- `children[bit] = Some(idx)`. -/
def setChild (n : TrieNode) (bit idx : Nat) : TrieNode :=
  if bit = 0 then { n with children := (some idx, n.children.2) }
  else { n with children := (n.children.1, some idx) }

end TrieNode

/-- The walk of one code in step 1: follow the code's bits from `cur`,
most significant first, adding each node that is missing; the node
reached, and the nodes. -/
def walkCode (code : Nat) : List Nat → Nat → List TrieNode → Nat × List TrieNode
  | [], cur, nodes => (cur, nodes)
  | bitPos :: rest, cur, nodes =>
      let bit := (code >>> bitPos) % 2
      match (nodes.getD cur .empty).child bit with
      | some idx => walkCode code rest idx nodes
      | none =>
          let newIdx := nodes.length
          let nodes := (nodes ++ [TrieNode.empty]).modify cur (·.setChild bit newIdx)
          walkCode code rest newIdx nodes

/-- Step 1: the trie of every code of `HUFFMAN_TABLE`, node 0 the root. -/
def huffmanTrie : List TrieNode :=
  huffmanTable.toList.zipIdx.foldl (fun nodes entry =>
    let ((code, codeBits), symIdx) := entry
    let r := walkCode code (List.range codeBits).reverse 0 nodes
    r.2.modify r.1 fun n => { n with sym := some symIdx }) [TrieNode.empty]

/-- Step 2's numbering: the internal nodes, in node order, get the
states `0, 1, …`; a leaf gets none. -/
def stateOfNode (nodes : List TrieNode) : List (Option Nat) :=
  (nodes.foldl (fun (acc : List (Option Nat) × Nat) n =>
    if n.sym.isNone then (acc.1 ++ [some acc.2], acc.2 + 1) else (acc.1 ++ [none], acc.2))
    ([], 0)).1

/-- `num_states`. -/
def numStates (nodes : List TrieNode) : Nat := nodes.countP (·.sym.isNone)

/-- `node_of_state[state]`: the node numbered `state`. -/
def nodeOfState (nodes : List TrieNode) (state : Nat) : Nat :=
  ((stateOfNode nodes).findIdx? (· = some state)).getD 0

/-- Step 3's walk down the EOS path, at most `fuel` edges: the states of
the internal nodes met. -/
def eosPrefixStates (nodes : List TrieNode) : Nat → Nat → List Nat
  | 0, _ => []
  | fuel + 1, walk =>
      match (nodes.getD walk .empty).child 1 with
      | some idx =>
          if (nodes.getD idx .empty).sym.isNone then
            ((stateOfNode nodes).getD idx none).getD 0 :: eosPrefixStates nodes fuel idx
          else []
      | none => []

/-- `accepted_state`: the root, and the internal nodes of depth 1 to 7 on
the EOS path. -/
def acceptedState (nodes : List TrieNode) (state : Nat) : Bool :=
  state = 0 || (eosPrefixStates nodes 7 0).contains state

/-- The four bits of a nibble, most significant first. -/
def nibbleBits (nibble : Nat) : List Nat :=
  [(nibble >>> 3) % 2, (nibble >>> 2) % 2, (nibble >>> 1) % 2, nibble % 2]

/-- Step 4's walk of one nibble: the node reached and the symbol emitted,
or `none` where the source sets `fail` (no such edge, EOS reached, or a
second symbol). After a symbol the walk restarts at the root. -/
def nibbleWalk (nodes : List TrieNode) : List Nat → Nat → Option Nat → Option (Nat × Option Nat)
  | [], cur, emitted => some (cur, emitted)
  | bit :: rest, cur, emitted =>
      match (nodes.getD cur .empty).child bit with
      | none => none
      | some idx =>
          match (nodes.getD idx .empty).sym with
          | some sym =>
              if sym = 256 then none
              else if emitted.isSome then none
              else nibbleWalk nodes rest 0 (some sym)
          | none => nibbleWalk nodes rest idx emitted

/-- `HUFF_ACCEPTED`. -/
def huffAccepted : Nat := 0x01

/-- `HUFF_SYM`. -/
def huffSym : Nat := 0x02

/-- `HUFF_FAIL`. -/
def huffFail : Nat := 0x04

/-- `HuffmanDecodeEntry`, without its padding byte. -/
structure HuffmanDecodeEntry where
  nextState : Nat
  flags : Nat
  sym : Nat
  deriving DecidableEq, Repr

/-- `HuffmanDecodeEntry::default()`. -/
def HuffmanDecodeEntry.empty : HuffmanDecodeEntry := ⟨0, 0, 0⟩

/-- Step 4's entry for a walk from `startNode` over `nibble`. -/
def decodeEntry (nodes : List TrieNode) (startNode nibble : Nat) : HuffmanDecodeEntry :=
  match nibbleWalk nodes (nibbleBits nibble) startNode none with
  | none => ⟨0, huffFail, 0⟩
  | some (cur, emitted) =>
      let nextState := ((stateOfNode nodes).getD cur none).getD 0
      let flags := (if emitted.isSome then huffSym else 0) |||
        (if acceptedState nodes nextState then huffAccepted else 0)
      ⟨nextState, flags, emitted.getD 0⟩

/-- `HUFFMAN_DECODE_TABLE[state][nibble]`. -/
def huffmanDecodeTable (state nibble : Nat) : HuffmanDecodeEntry :=
  if state < numStates huffmanTrie then decodeEntry huffmanTrie (nodeOfState huffmanTrie state) nibble
  else .empty

-- ============================================================= decoding

/-- The byte loop of `decode_huffman`: the decoder state, whether the
input may end here, and the bytes decoded. -/
def decodeHuffmanLoop (state : Nat) (accepted : Bool) (result : List UInt8) :
    List UInt8 → Except H2Error (List UInt8 × Bool)
  | [] => .ok (result, accepted)
  | byte :: rest =>
      -- the high nibble first
      let hi := huffmanDecodeTable state ((byte >>> 4) &&& 0x0F).toNat
      if hi.flags &&& huffFail ≠ 0 then .error (.compression "invalid huffman code")
      else
        let result := if hi.flags &&& huffSym ≠ 0 then result ++ [hi.sym.toUInt8] else result
        let lo := huffmanDecodeTable hi.nextState (byte &&& 0x0F).toNat
        if lo.flags &&& huffFail ≠ 0 then .error (.compression "invalid huffman code")
        else
          let result := if lo.flags &&& huffSym ≠ 0 then result ++ [lo.sym.toUInt8] else result
          decodeHuffmanLoop lo.nextState (lo.flags &&& huffAccepted ≠ 0) result rest

/-- `decode_huffman`. -/
def decodeHuffman (src : List UInt8) : Except H2Error (List UInt8) := do
  let (result, accepted) ← decodeHuffmanLoop 0 true [] src
  if !accepted then throw (.compression "invalid huffman padding")
  match fromUtf8 result with
  | some s => pure s
  | none => throw (.compression "invalid UTF-8 in huffman")

end Hpack

end Asupersync
