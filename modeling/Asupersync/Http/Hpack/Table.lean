/-
HPACK's dynamic table (`DynamicTable` in `http/h2/hpack.rs`, RFC 7541
§2.3.2 and §4): the entries newest first, their total size against the
maximum, and the side index that finds an entry without a scan.

# The side index

Every retained insert stamps the entry with a generation, the count of
retained inserts before it. The index keeps, for each name and for each
(name, value) pair, the generations of the entries that have them,
newest first; `find` and `find_name` take the newest and turn it into a
position by `index_from_generation`, which is right only while the
entries' generations are consecutive down from `insert_count - 1`.

The source's two `HashMap`s of `VecDeque`s are total maps here, with an
empty list where the source has no key: `remove_oldest` deletes a key
whose deque empties, and a missing key and an empty deque read the same.
Its `debug_assert!`s are left out, as in a release build.

# Arithmetic

Sizes are `usize` sums of string lengths plus 32 and the insert count a
`u64` counting inserts; the source saturates both, and neither can reach
its bound, so they are `Nat` sums here.
-/
import Asupersync.Http.Hpack.Codec

namespace Asupersync

namespace Hpack

/-- `DynamicTableEntry`: a header and its generation. -/
structure DynamicTableEntry where
  name : List UInt8
  value : List UInt8
  generation : Nat
  deriving DecidableEq, Repr

namespace DynamicTableEntry

/-- `DynamicTableEntry::size`. -/
def size (e : DynamicTableEntry) : Nat := e.name.length + e.value.length + 32

/-- `DynamicTableEntry::to_header`. -/
def toHeader (e : DynamicTableEntry) : Header := ⟨e.name, e.value⟩

end DynamicTableEntry

-- ========================================================= side index

/-- `DynamicTableIndex`: generations by (name, value) and by name, newest
first. -/
structure DynamicTableIndex where
  byNameValue : List UInt8 → List UInt8 → List Nat
  byName : List UInt8 → List Nat

namespace DynamicTableIndex

/-- `DynamicTableIndex::default()`. -/
def empty : DynamicTableIndex := ⟨fun _ _ => [], fun _ => []⟩

/-- `DynamicTableIndex::add`: push the generation onto the front of both
deques. -/
def add (ix : DynamicTableIndex) (name value : List UInt8) (generation : Nat) : DynamicTableIndex :=
  { byNameValue := Function.update ix.byNameValue name
      (Function.update (ix.byNameValue name) value (generation :: ix.byNameValue name value))
    byName := Function.update ix.byName name (generation :: ix.byName name) }

/-- `DynamicTableIndex::remove_oldest`: pop the back of both deques. -/
def removeOldest (ix : DynamicTableIndex) (name value : List UInt8) : DynamicTableIndex :=
  { byNameValue := Function.update ix.byNameValue name
      (Function.update (ix.byNameValue name) value (ix.byNameValue name value).dropLast)
    byName := Function.update ix.byName name (ix.byName name).dropLast }

/-- `DynamicTableIndex::newest_for_pair`. -/
def newestForPair (ix : DynamicTableIndex) (name value : List UInt8) : Option Nat :=
  (ix.byNameValue name value).head?

/-- `DynamicTableIndex::newest_for_name`. -/
def newestForName (ix : DynamicTableIndex) (name : List UInt8) : Option Nat :=
  (ix.byName name).head?

end DynamicTableIndex

-- ============================================================== table

/-- `DynamicTable`. -/
structure DynamicTable where
  entries : List DynamicTableEntry
  size : Nat
  maxSize : Nat
  insertCount : Nat
  index : DynamicTableIndex

namespace DynamicTable

/-- `DynamicTable::with_max_size`. -/
def withMaxSize (maxSize : Nat) : DynamicTable :=
  ⟨[], 0, min maxSize maxAllowedTableSize, 0, .empty⟩

/-- `DynamicTable::pop_back_with_index_cleanup`. -/
def popBackWithIndexCleanup (t : DynamicTable) : DynamicTable :=
  match t.entries.getLast? with
  | some evicted =>
      { t with entries := t.entries.dropLast
               size := t.size - evicted.size
               index := t.index.removeOldest evicted.name evicted.value }
  | none => t

/-- The eviction loops of `evict` (`room = 0`) and `insert` (`room` the new
entry's size): pop the oldest entry while `size + room` exceeds the
maximum and an entry is left. Each turn pops one, so the entries are
enough fuel. -/
def evictFor (room : Nat) : Nat → DynamicTable → DynamicTable
  | 0, t => t
  | fuel + 1, t =>
      if t.size + room > t.maxSize ∧ t.entries ≠ [] then evictFor room fuel t.popBackWithIndexCleanup
      else t

/-- `DynamicTable::evict`. -/
def evict (t : DynamicTable) : DynamicTable := evictFor 0 t.entries.length t

/-- `DynamicTable::set_max_size`. -/
def setMaxSize (t : DynamicTable) (maxSize : Nat) : DynamicTable :=
  { t with maxSize := min maxSize maxAllowedTableSize }.evict

/-- `DynamicTable::insert`: make room, then keep the entry if it fits;
an entry larger than the table empties it. -/
def insert (t : DynamicTable) (header : Header) : DynamicTable :=
  let generation := t.insertCount
  let entry : DynamicTableEntry := ⟨header.name, header.value, generation⟩
  let t := evictFor entry.size t.entries.length t
  if entry.size ≤ t.maxSize then
    { t with index := t.index.add entry.name entry.value generation
             insertCount := t.insertCount + 1
             size := t.size + entry.size
             entries := entry :: t.entries }
  else { t with index := .empty }

/-- `DynamicTable::get`: one-based, newest first. -/
def get (t : DynamicTable) (index : Nat) : Option Header :=
  if index = 0 ∨ index > t.entries.length then none
  else (t.entries[index - 1]?).map DynamicTableEntry.toHeader

/-- `DynamicTable::index_from_generation`: the wire index of the entry
with this generation, `STATIC_TABLE.len() + insert_count - generation`. -/
def indexFromGeneration (t : DynamicTable) (generation : Nat) : Nat :=
  staticTable.length + (t.insertCount - generation)

/-- `DynamicTable::find`. -/
def find (t : DynamicTable) (name value : List UInt8) : Option Nat :=
  (t.index.newestForPair name value).map t.indexFromGeneration

/-- `DynamicTable::find_name`. -/
def findName (t : DynamicTable) (name : List UInt8) : Option Nat :=
  (t.index.newestForName name).map t.indexFromGeneration

end DynamicTable

end Hpack

end Asupersync
