/-
The hierarchical timing wheel (`time/wheel.rs`): timers in a ready list,
four levels of 256 slots each with an occupancy bitmap, and an overflow
heap for deadlines beyond the wheel's range.

# What is modelled

Every operation of a timer's life: `with_config`, `register` and
`try_register` (through `insert_validated` and `insert_entry_at`),
`cancel`, `next_deadline` and `collect_expired` (through `synchronize`,
`advance_to` with its fast path and its skip, `tick_level0`, `cascade`,
`collect_bucket`, `refill_overflow`, `drain_ready`,
`promote_coalescing_window_entries` and `coalescing_group_size`).
Loops become recursions on a fuel argument that bounds their iterations
(the level scans, the overflow heap's size, the ticks to the target), or
folds over the list they walk.

# Data

`u64` time and tick arithmetic is `Nat`, with the saturation the source
writes (`saturating_add`, `saturating_mul`) and `u64::MAX` where it
saturates. The activity map is the `slab` crate's `Slab<u64>`, a
parameter `S : Slab σ Nat` with its documented laws (`Store/Slab.lean`);
the overflow heap is `BinaryHeap` under the entries' `Ord`
(`Store/Heap.lean`). Wakers are values of a type `ω`, handed back as they
were registered.

# What is left out

`clear`, `overflow_count`, the `config`/`coalescing_config` getters and
`is_empty`, which no timer operation calls; `SmallVec` and `Vec`
capacities.
-/
import Asupersync.Types.Basic
import Asupersync.Store.Slab
import Asupersync.Store.Heap

namespace Asupersync

-- ======================================================= u64 arithmetic

/-- `u64::saturating_add`. -/
def saturatingAdd (a b : Nat) : Nat := min (a + b) u64Max

/-- `u64::saturating_mul`. -/
def saturatingMul (a b : Nat) : Nat := min (a * b) u64Max

/-- `u64::wrapping_add`. -/
def wrappingAdd (a b : Nat) : Nat := (a + b) % 2 ^ 64

/-- `u64::wrapping_sub`. -/
def wrappingSub (a b : Nat) : Nat := (a + (2 ^ 64 - b % 2 ^ 64)) % 2 ^ 64

/-- `u64::cast_signed`. -/
def castSigned (x : Nat) : Int := if x < 2 ^ 63 then x else (x : Int) - 2 ^ 64

/-- `u64::trailing_zeros`. -/
def trailingZeros (x : UInt64) : Nat :=
  ((List.range 64).find? fun i => (x >>> i.toUInt64) &&& 1 != 0).getD 64

-- ============================================================ constants

def levelCount : Nat := 4
def slotsPerLevel : Nat := 256
def level0ResolutionNs : Nat := 1000000
def bitmapWords : Nat := 4

/-- `LEVEL_RESOLUTIONS_NS`. -/
def levelResolutionsNs : Vector Nat levelCount :=
  #v[level0ResolutionNs, level0ResolutionNs * slotsPerLevel,
    level0ResolutionNs * slotsPerLevel * slotsPerLevel,
    level0ResolutionNs * slotsPerLevel * slotsPerLevel * slotsPerLevel]

/-- `duration_to_u64_nanos`, for a duration given in nanoseconds. -/
def durationToU64Nanos (duration : Nat) : Nat := min duration u64Max

-- ======================================================= configuration

/-- `TimerWheelConfig`, durations in nanoseconds. -/
structure TimerWheelConfig where
  maxWheelDuration : Nat
  maxTimerDuration : Nat
  deriving DecidableEq, Repr

/-- `TimerWheelConfig::default`: 24 hours and 7 days. -/
def TimerWheelConfig.default : TimerWheelConfig :=
  ⟨24 * 3600 * 1000000000, 168 * 3600 * 1000000000⟩

/-- `CoalescingConfig`, the window in nanoseconds. -/
structure CoalescingConfig where
  coalesceWindow : Nat
  minGroupSize : Nat
  enabled : Bool
  deriving DecidableEq, Repr

/-- `CoalescingConfig::default`: a 1 ms window, disabled. -/
def CoalescingConfig.default : CoalescingConfig := ⟨1000000, 1, false⟩

/-- `TimerDurationExceeded`. -/
structure TimerDurationExceeded where
  duration : Nat
  max : Nat
  deriving DecidableEq, Repr

-- ============================================================= entries

/-- `TimerHandle`. -/
structure TimerHandle where
  id : Nat
  generation : Nat
  deriving DecidableEq, Repr

/-- `TimerEntry`. -/
structure TimerEntry (ω : Type) where
  deadline : Time
  waker : ω
  id : Nat
  generation : Nat

/-- `OverflowEntry`. -/
structure OverflowEntry (ω : Type) where
  deadline : Time
  entry : TimerEntry ω

/-- `<OverflowEntry as Ord>::cmp`: reversed, so the heap's greatest entry
has the earliest deadline, then the lower generation, then the lower id. -/
def OverflowEntry.cmp {ω : Type} (a b : OverflowEntry ω) : Ordering :=
  ((compare b.deadline a.deadline).then
    (compare (castSigned (wrappingSub b.entry.generation a.entry.generation)) 0)).then
    (compare b.entry.id a.entry.id)

-- ============================================================== levels

/-- `WheelLevel`. -/
structure WheelLevel (ω : Type) where
  slots : Vector (List (TimerEntry ω)) slotsPerLevel
  resolutionNs : Nat
  rangeNs : Nat
  cursor : Nat
  occupied : Vector UInt64 bitmapWords

namespace WheelLevel

variable {ω : Type}

/-- `WheelLevel::new`. -/
def new (resolutionNs cursor : Nat) : WheelLevel ω :=
  ⟨Vector.replicate slotsPerLevel [], resolutionNs, saturatingMul resolutionNs slotsPerLevel, cursor,
    Vector.replicate bitmapWords 0⟩

/-- `WheelLevel::is_occupied`. -/
def isOccupied (l : WheelLevel ω) (slot : Nat) : Bool :=
  (l.occupied.getD (slot / 64) 0 &&& ((1 : UInt64) <<< (slot % 64).toUInt64)) != 0

/-- `WheelLevel::set_occupied`. -/
def setOccupied (l : WheelLevel ω) (slot : Nat) : Vector UInt64 bitmapWords :=
  l.occupied.setIfInBounds (slot / 64)
    (l.occupied.getD (slot / 64) 0 ||| ((1 : UInt64) <<< (slot % 64).toUInt64))

/-- `WheelLevel::clear_occupied`. -/
def clearOccupied (l : WheelLevel ω) (slot : Nat) : Vector UInt64 bitmapWords :=
  l.occupied.setIfInBounds (slot / 64)
    (l.occupied.getD (slot / 64) 0 &&& ~~~((1 : UInt64) <<< (slot % 64).toUInt64))

/-- Push an entry into a slot and mark it occupied. -/
def pushSlot (l : WheelLevel ω) (slot : Nat) (entry : TimerEntry ω) : WheelLevel ω :=
  { l with slots := l.slots.setIfInBounds slot (l.slots.getD slot [] ++ [entry]),
           occupied := l.setOccupied slot }

/-- The first loop of `next_occupied_distance`: from `pos` up to slot 255. -/
def scanUp (l : WheelLevel ω) : Nat → Nat → Option Nat
  | 0, _ => none
  | fuel + 1, pos =>
      if pos < slotsPerLevel then
        let wordIdx := pos / 64
        let masked := l.occupied.getD wordIdx 0 >>> (pos % 64).toUInt64
        let found := pos + trailingZeros masked
        if masked != 0 && found < slotsPerLevel then some (found - l.cursor)
        else scanUp l fuel ((wordIdx + 1) * 64)
      else none

/-- The second loop of `next_occupied_distance`: from slot 0 up to the cursor. -/
def scanWrap (l : WheelLevel ω) : Nat → Nat → Option Nat
  | 0, _ => none
  | fuel + 1, pos =>
      if pos ≤ l.cursor then
        let wordIdx := pos / 64
        let masked := l.occupied.getD wordIdx 0 >>> (pos % 64).toUInt64
        let found := pos + trailingZeros masked
        if masked != 0 && found ≤ l.cursor then some (slotsPerLevel - l.cursor + found)
        else scanWrap l fuel ((wordIdx + 1) * 64)
      else none

/-- `WheelLevel::next_occupied_distance`: each loop visits at most the four
bitmap words and one more position. -/
def nextOccupiedDistance (l : WheelLevel ω) : Option Nat :=
  if l.occupied = Vector.replicate bitmapWords 0 then none
  else
    match l.scanUp (bitmapWords + 1) (l.cursor + 1) with
    | some d => some d
    | none => l.scanWrap (bitmapWords + 1) 0

end WheelLevel

-- ========================================================= the wheel

/-- `TimerWheel`, with its activity map a slab of generations in `σ`. -/
structure TimerWheel (σ ω : Type) where
  currentTick : Nat
  levels : Vector (WheelLevel ω) levelCount
  overflow : List (OverflowEntry ω)
  ready : List (TimerEntry ω)
  nextGeneration : Nat
  active : σ
  config : TimerWheelConfig
  coalescing : CoalescingConfig
  maxWheelDurationNs : Nat
  maxTimerDurationNs : Nat

/-- Where `insert_entry_at`'s level loop puts an entry. -/
inductive Placement where
  | ready
  | slot (level slot : Nat)
  | overflow
  deriving DecidableEq, Repr

/-- The loop `for (idx, level) in levels.iter_mut().enumerate()` of
`insert_entry_at`: the first level whose range covers `delta`; level 0
sends a deadline in the current tick to the ready list. -/
def placeEntry {ω : Type} (deadline delta current : Nat) : Nat → List (WheelLevel ω) → Placement
  | _, [] => .overflow
  | idx, level :: rest =>
      if delta < level.rangeNs then
        let tick := deadline / level.resolutionNs
        if idx = 0 ∧ tick ≤ current / level.resolutionNs then .ready
        else .slot idx (tick % slotsPerLevel)
      else placeEntry deadline delta current (idx + 1) rest

/-- `Vec::swap_remove(j)`, for `j` in range: the last entry takes slot `j`. -/
def swapRemove {α : Type} (l : List α) (j : Nat) : List α :=
  match l.getLast? with
  | some x => (l.set j x).dropLast
  | none => l

/-- The `swap_remove` loop of `promote_coalescing_window_entries` over one
slot: entries due by `boundary` move to `ready`; each turn removes an entry
or steps past one. -/
def promoteSlot {ω : Type} (boundary : Time) :
    Nat → Nat → List (TimerEntry ω) → List (TimerEntry ω) → List (TimerEntry ω) × List (TimerEntry ω)
  | 0, _, slot, ready => (slot, ready)
  | fuel + 1, j, slot, ready =>
      match slot[j]? with
      | some e =>
          if e.deadline ≤ boundary then promoteSlot boundary fuel j (swapRemove slot j) (ready ++ [e])
          else promoteSlot boundary fuel (j + 1) slot ready
      | none => (slot, ready)

/-- `min_deadline = Some(min_deadline.map_or(d, |c| c.min(d)))`. -/
def minDeadline (acc : Option Time) (d : Time) : Option Time :=
  some (match acc with
    | none => d
    | some c => min c d)

/-- The window ticks `0..=diff` that the coalescing paths visit on a level:
`current_slot` and the clamped distance to the boundary's slot. -/
def windowSlots {ω : Type} (l : WheelLevel ω) (nowNanos boundary : Nat) : List Nat :=
  let levelTickCurrent := nowNanos / l.resolutionNs
  let levelTickBoundary := boundary / l.resolutionNs
  if levelTickBoundary < levelTickCurrent then []
  else
    let currentSlot := levelTickCurrent % slotsPerLevel
    let diffU64 := levelTickBoundary - levelTickCurrent
    let diff := if diffU64 ≥ slotsPerLevel then slotsPerLevel - 1 else diffU64
    (List.range (diff + 1)).map fun i => (currentSlot + i) % slotsPerLevel

namespace TimerWheel

variable {σ ω : Type} (S : Slab σ Nat)

/-- `TimerWheel::with_config`. -/
def withConfig (now : Time) (config : TimerWheelConfig) (coalescing : CoalescingConfig) :
    TimerWheel σ ω :=
  let nowNanos := now
  { currentTick := nowNanos / level0ResolutionNs
    levels := levelResolutionsNs.map fun resolutionNs =>
      WheelLevel.new resolutionNs ((nowNanos / resolutionNs) % slotsPerLevel)
    overflow := []
    ready := []
    nextGeneration := 0
    active := S.empty
    config := config
    coalescing := coalescing
    maxWheelDurationNs := durationToU64Nanos config.maxWheelDuration
    maxTimerDurationNs := durationToU64Nanos config.maxTimerDuration }

/-- `TimerWheel::len`. -/
def len (w : TimerWheel σ ω) : Nat := S.len w.active

/-- `TimerWheel::current_time`. -/
def currentTime (w : TimerWheel σ ω) : Time := saturatingMul w.currentTick level0ResolutionNs

/-- `TimerWheel::is_live`. -/
def isLive (w : TimerWheel σ ω) (entry : TimerEntry ω) : Bool :=
  (S.get w.active entry.id).any (· == entry.generation)

/-- `TimerWheel::physical_range_ns`: the last level's range. -/
def physicalRangeNs (w : TimerWheel σ ω) : Nat := (w.levels.toList.getLast?.map (·.rangeNs)).getD 0

/-- `TimerWheel::max_range_ns`. -/
def maxRangeNs (w : TimerWheel σ ω) : Nat := min w.maxWheelDurationNs w.physicalRangeNs

/-- The overflow heap's greatest entry. -/
def peekOverflow (w : TimerWheel σ ω) : Option (OverflowEntry ω) :=
  MaxHeap.peek OverflowEntry.cmp w.overflow

/-- `TimerWheel::purge_inactive_storage`. -/
def purgeInactiveStorage (w : TimerWheel σ ω) : TimerWheel σ ω :=
  { w with ready := [], overflow := [],
           levels := w.levels.map fun l =>
             { l with slots := l.slots.map fun _ => [], occupied := Vector.replicate bitmapWords 0 } }

/-- `TimerWheel::insert_entry_at`. -/
def insertEntryAt (w : TimerWheel σ ω) (entry : TimerEntry ω) (current : Time) : TimerWheel σ ω :=
  if entry.deadline ≤ current then { w with ready := w.ready ++ [entry] }
  else
    let delta := entry.deadline - current
    -- checked against the configured `max_wheel_duration` first
    if delta ≥ w.maxRangeNs then
      { w with overflow := MaxHeap.push w.overflow ⟨entry.deadline, entry⟩ }
    else
      match placeEntry entry.deadline delta current 0 w.levels.toList with
      | .ready => { w with ready := w.ready ++ [entry] }
      | .slot idx slot =>
          { w with levels := w.levels.setIfInBounds idx ((w.levels.getD idx
              (WheelLevel.new 0 0)).pushSlot slot entry) }
      | .overflow => { w with overflow := MaxHeap.push w.overflow ⟨entry.deadline, entry⟩ }

/-- `TimerWheel::insert_entry`. -/
def insertEntry (w : TimerWheel σ ω) (entry : TimerEntry ω) : TimerWheel σ ω :=
  w.insertEntryAt entry w.currentTime

/-- `TimerWheel::insert_validated`. -/
def insertValidated (w : TimerWheel σ ω) (deadline : Time) (waker : ω) (current : Time) :
    TimerHandle × TimerWheel σ ω :=
  let generation := w.nextGeneration
  let slot := S.insert w.active generation
  let entry : TimerEntry ω := ⟨deadline, waker, slot.1, generation⟩
  (⟨slot.1, generation⟩,
    { w with nextGeneration := wrappingAdd w.nextGeneration 1, active := slot.2 }.insertEntryAt
      entry current)

/-- `TimerWheel::register`: a deadline past `max_timer_duration` is clamped. -/
def register (w : TimerWheel σ ω) (deadline : Time) (waker : ω) : TimerHandle × TimerWheel σ ω :=
  let current := w.currentTime
  let deadline :=
    if deadline > current ∧ deadline - current > w.maxTimerDurationNs then
      saturatingAdd current w.maxTimerDurationNs
    else deadline
  w.insertValidated S deadline waker current

/-- `TimerWheel::try_register`: a deadline past `max_timer_duration` is refused. -/
def tryRegister (w : TimerWheel σ ω) (deadline : Time) (waker : ω) :
    Except TimerDurationExceeded (TimerHandle × TimerWheel σ ω) :=
  let current := w.currentTime
  if deadline > current ∧ deadline - current > w.maxTimerDurationNs then
    .error ⟨deadline - current, w.config.maxTimerDuration⟩
  else .ok (w.insertValidated S deadline waker current)

/-- `TimerWheel::cancel`. -/
def cancel (w : TimerWheel σ ω) (handle : TimerHandle) : Bool × TimerWheel σ ω :=
  if (S.get w.active handle.id).any (· == handle.generation) then
    let w := { w with active := S.remove w.active handle.id }
    (true, if S.isEmpty w.active then w.purgeInactiveStorage else w)
  else (false, w)

/-- `TimerWheel::realign_cursors_to_current_tick`. -/
def realignCursorsToCurrentTick (w : TimerWheel σ ω) : TimerWheel σ ω :=
  let nowNanos := saturatingMul w.currentTick level0ResolutionNs
  { w with levels := w.levels.map fun l =>
      { l with cursor := (nowNanos / l.resolutionNs) % slotsPerLevel } }

/-- Step level `i`'s cursor and take its slot, as `tick_level0` and
`cascade` do: the new cursor, the bucket, and the wheel. -/
def takeNextSlot (w : TimerWheel σ ω) (i : Fin levelCount) :
    Nat × List (TimerEntry ω) × TimerWheel σ ω :=
  let l := w.levels[i]
  let cursor := (l.cursor + 1) % slotsPerLevel
  let l' := { l with cursor := cursor, slots := l.slots.setIfInBounds cursor [],
                     occupied := l.clearOccupied cursor }
  (cursor, l.slots.getD cursor [], { w with levels := w.levels.set i l' })

/-- `TimerWheel::collect_bucket`. -/
def collectBucket (w : TimerWheel σ ω) (bucket : List (TimerEntry ω)) : TimerWheel σ ω :=
  let now := w.currentTime
  bucket.foldl (fun w entry =>
    if !w.isLive S entry then w
    else if entry.deadline ≤ now then { w with ready := w.ready ++ [entry] }
    else w.insertEntry entry) w

/-- `TimerWheel::cascade(level_index)`, climbing at most `fuel` levels. -/
def cascadeAux : Nat → Nat → TimerWheel σ ω → TimerWheel σ ω
  | 0, _, w => w
  | fuel + 1, levelIndex, w =>
      if h : levelIndex < levelCount then
        let r := w.takeNextSlot ⟨levelIndex, h⟩
        let w' := r.2.1.foldl (fun w entry => if w.isLive S entry then w.insertEntry entry else w) r.2.2
        if r.1 = 0 then cascadeAux fuel (levelIndex + 1) w' else w'
      else w

/-- `TimerWheel::cascade`. -/
def cascade (w : TimerWheel σ ω) (levelIndex : Nat) : TimerWheel σ ω :=
  cascadeAux S levelCount levelIndex w

/-- `TimerWheel::tick_level0`. -/
def tickLevel0 (w : TimerWheel σ ω) : TimerWheel σ ω :=
  let r := w.takeNextSlot ⟨0, by decide⟩
  let w := r.2.2.collectBucket S r.2.1
  if r.1 = 0 then w.cascade S 1 else w

/-- The loop of `refill_overflow`: each turn pops the earliest entry while
it is within range. -/
def refillLoop (current maxRange : Nat) : Nat → TimerWheel σ ω → TimerWheel σ ω
  | 0, w => w
  | fuel + 1, w =>
      match w.peekOverflow with
      | none => w
      | some e =>
          if e.deadline - current < maxRange then
            let w := { w with overflow := MaxHeap.pop OverflowEntry.cmp w.overflow }
            refillLoop current maxRange fuel (if w.isLive S e.entry then w.insertEntry e.entry else w)
          else w

/-- `TimerWheel::refill_overflow`. -/
def refillOverflow (w : TimerWheel σ ω) : TimerWheel σ ω :=
  refillLoop S w.currentTime w.maxRangeNs w.overflow.length w

/-- `TimerWheel::can_fast_advance_one_no_ready_tick`. -/
def canFastAdvanceOneNoReadyTick (w : TimerWheel σ ω) (targetTick : Nat) : Bool :=
  let level0 := w.levels[0]
  let nextCursor := (level0.cursor + 1) % slotsPerLevel
  if nextCursor = 0 ∨ level0.isOccupied nextCursor then false
  else
    match w.peekOverflow with
    | some e => !((e.deadline - w.maxRangeNs) / level0ResolutionNs ≤ targetTick)
    | none => true

/-- One level of `next_skip_tick`'s loop: the tick at which its next
occupied slot is reached, if earlier; `r` is the level's tick span. -/
def skipLevel (currentTick : Nat) (acc : Nat × Nat) (l : WheelLevel ω) : Nat × Nat :=
  let nextTick :=
    match l.nextOccupiedDistance with
    | some dist =>
        let currentBase := currentTick - currentTick % acc.2
        let hitTick := currentBase + dist * acc.2
        let hitTick := if hitTick ≤ currentTick then hitTick + slotsPerLevel * acc.2 else hitTick
        if hitTick < acc.1 then hitTick else acc.1
    | none => acc.1
  (nextTick, acc.2 * slotsPerLevel)

/-- `TimerWheel::next_skip_tick`. -/
def nextSkipTick (w : TimerWheel σ ω) (limit : Nat) : Nat :=
  let nextTick := (w.levels.toList.foldl (skipLevel w.currentTick) (limit, 1)).1
  match w.peekOverflow with
  | some e =>
      let minEnterTick := (e.deadline - w.maxRangeNs) / level0ResolutionNs
      if minEnterTick < nextTick then
        if minEnterTick > w.currentTick then minEnterTick else w.currentTick
      else nextTick
  | none => nextTick

/-- One turn of `advance_to`'s loop. -/
def advanceStep (w : TimerWheel σ ω) (targetTick : Nat) : TimerWheel σ ω :=
  if targetTick = saturatingAdd w.currentTick 1 ∧ w.canFastAdvanceOneNoReadyTick targetTick = true then
    let l := w.levels[0]
    { w with currentTick := targetTick,
             levels := w.levels.set 0 { l with cursor := (l.cursor + 1) % slotsPerLevel } }
  else
    -- skip empty ticks across all levels
    let nextTick := w.nextSkipTick targetTick
    let w := if nextTick > w.currentTick + 1 then
        { w with currentTick := nextTick - 1 }.realignCursorsToCurrentTick
      else w
    let w := { w with currentTick := saturatingAdd w.currentTick 1 }
    (w.tickLevel0 S).refillOverflow S

/-- The loop of `advance_to`, for at most `fuel` turns. -/
def advanceLoop (targetTick : Nat) : Nat → TimerWheel σ ω → TimerWheel σ ω
  | 0, w => w
  | fuel + 1, w =>
      if w.currentTick < targetTick then advanceLoop targetTick fuel (w.advanceStep S targetTick)
      else w

/-- `TimerWheel::advance_to`: every turn moves the tick forward, so the
distance to the target bounds the turns. -/
def advanceTo (w : TimerWheel σ ω) (targetTick : Nat) : TimerWheel σ ω :=
  if S.isEmpty w.active then { w with currentTick := targetTick }.realignCursorsToCurrentTick
  else advanceLoop S targetTick (targetTick - w.currentTick) w

/-- `TimerWheel::synchronize`. -/
def synchronize (w : TimerWheel σ ω) (now : Time) : TimerWheel σ ω :=
  let targetTick := now / level0ResolutionNs
  if targetTick > w.currentTick then w.advanceTo S targetTick else w

/-- `TimerWheel::promote_coalescing_window_entries`: move the entries due
by `boundary` from the window's slots and from the overflow heap. -/
def promoteCoalescingWindowEntries (w : TimerWheel σ ω) (boundary : Time)
    (ready : List (TimerEntry ω)) : TimerWheel σ ω × List (TimerEntry ω) :=
  let nowNanos := saturatingMul w.currentTick level0ResolutionNs
  let promoteLevel (acc : Vector (WheelLevel ω) levelCount × List (TimerEntry ω)) (i : Fin levelCount) :=
    (windowSlots acc.1[i] nowNanos boundary).foldl (fun acc slotIdx =>
      let l := acc.1[i]
      if !l.isOccupied slotIdx then acc
      else
        let slot := l.slots.getD slotIdx []
        let r := promoteSlot boundary slot.length 0 slot acc.2
        let l := { l with slots := l.slots.setIfInBounds slotIdx r.1 }
        let l := if r.1.isEmpty then { l with occupied := l.clearOccupied slotIdx } else l
        (acc.1.set i l, r.2)) acc
  let r := (List.finRange levelCount).foldl promoteLevel (w.levels, ready)
  let w := { w with levels := r.1 }
  -- the overflow heap, earliest first, while due by the boundary
  let due := promoteOverflow boundary w.overflow.length w.overflow r.2
  ({ w with overflow := due.1 }, due.2)
where
  /-- `while overflow.peek().is_some_and(|e| e.deadline <= boundary)`. -/
  promoteOverflow (boundary : Time) : Nat → List (OverflowEntry ω) → List (TimerEntry ω) →
      List (OverflowEntry ω) × List (TimerEntry ω)
    | 0, heap, ready => (heap, ready)
    | fuel + 1, heap, ready =>
        match MaxHeap.peek OverflowEntry.cmp heap with
        | some e =>
            if e.deadline ≤ boundary then
              promoteOverflow boundary fuel (MaxHeap.pop OverflowEntry.cmp heap) (ready ++ [e.entry])
            else (heap, ready)
        | none => (heap, ready)

/-- The coalescing boundary of `drain_ready` and `coalescing_group_size`:
the end of `now`'s window, saturating. -/
def windowEnd (windowNs now : Nat) : Time :=
  saturatingMul (saturatingAdd (now / windowNs) 1) windowNs

/-- `TimerWheel::coalescing_group_size`. -/
def coalescingGroupSize (w : TimerWheel σ ω) (now : Time) : Nat :=
  let expiredCount := (w.ready.filter fun e => w.isLive S e && decide (e.deadline ≤ now)).length
  if !w.coalescing.enabled then expiredCount
  else
    let windowNs := min w.coalescing.coalesceWindow u64Max
    if windowNs = 0 then expiredCount
    else
      let coalescedTime := windowEnd windowNs now
      let due (e : TimerEntry ω) : Bool := w.isLive S e && decide (e.deadline ≤ coalescedTime)
      let nowNanos := saturatingMul w.currentTick level0ResolutionNs
      let inLevels := w.levels.toList.foldl (fun n l =>
        (windowSlots l nowNanos coalescedTime).foldl (fun n slotIdx =>
          if l.isOccupied slotIdx then n + ((l.slots.getD slotIdx []).filter due).length else n) n) 0
      let coalescedCount := (w.ready.filter due).length + inLevels +
        (w.overflow.filter fun e => due e.entry).length
      if coalescedCount ≥ max w.coalescing.minGroupSize 1 then coalescedCount else expiredCount

/-- `TimerWheel::drain_ready`: the wakers of the timers that fire. -/
def drainReady (w : TimerWheel σ ω) (now : Time) : List ω × TimerWheel σ ω :=
  if w.ready.isEmpty ∧ !w.coalescing.enabled then ([], w)
  else
    let ready := w.ready
    let w := { w with ready := [] }
    let coalescedTime : Option Time :=
      if w.coalescing.enabled then
        let windowNs := min w.coalescing.coalesceWindow u64Max
        if windowNs = 0 then none else some (windowEnd windowNs now)
      else none
    let promoted := match coalescedTime with
      | some boundary => w.promoteCoalescingWindowEntries boundary ready
      | none => (w, ready)
    let w := promoted.1
    let ready := promoted.2
    let coalescingEnabled := match coalescedTime with
      | some boundary =>
          decide ((ready.filter fun e => w.isLive S e && decide (e.deadline ≤ boundary)).length ≥
            max w.coalescing.minGroupSize 1)
      | none => false
    -- fire in order; a timer not yet due is inserted again
    let drained := ready.foldl (fun (acc : List ω × TimerWheel σ ω) entry =>
      if !acc.2.isLive S entry then acc
      else
        let shouldFire :=
          if coalescingEnabled then entry.deadline ≤ coalescedTime.getD now else entry.deadline ≤ now
        if shouldFire then (acc.1 ++ [entry.waker], { acc.2 with active := S.remove acc.2.active entry.id })
        else (acc.1, acc.2.insertEntry entry)) ([], w)
    let w := drained.2
    (drained.1, if S.isEmpty w.active then w.purgeInactiveStorage else w)

/-- `TimerWheel::collect_expired`. -/
def collectExpired (w : TimerWheel σ ω) (now : Time) : List ω × TimerWheel σ ω :=
  (w.synchronize S now).drainReady S now

/-- The ready-list loop of `next_deadline`: `Except.error current` is its
early `return Some(current)`. -/
def readyDeadline (w : TimerWheel σ ω) (current : Time) :
    List (TimerEntry ω) → Option Time → Except Time (Option Time)
  | [], acc => .ok acc
  | entry :: rest, acc =>
      if !w.isLive S entry then readyDeadline w current rest acc
      else if entry.deadline ≤ current then .error current
      else readyDeadline w current rest (minDeadline acc entry.deadline)

/-- The overflow loop of `next_deadline`: pop dead entries until a live one
shows its deadline. -/
def overflowDeadline (acc : Option Time) : Nat → TimerWheel σ ω → Option Time × TimerWheel σ ω
  | 0, w => (acc, w)
  | fuel + 1, w =>
      match w.peekOverflow with
      | none => (acc, w)
      | some e =>
          if w.isLive S e.entry then (minDeadline acc e.deadline, w)
          else overflowDeadline acc fuel { w with overflow := MaxHeap.pop OverflowEntry.cmp w.overflow }

/-- `TimerWheel::next_deadline`. -/
def nextDeadline (w : TimerWheel σ ω) : Option Time × TimerWheel σ ω :=
  let current := w.currentTime
  if w.coalescing.enabled ∧ w.coalescingGroupSize S current > 0 then (some current, w)
  else
    match w.readyDeadline S current w.ready none with
    | .error t => (some t, w)
    | .ok (some d) => (some d, w)
    | .ok none =>
        -- the minimum across all levels, over the occupied slots
        let inLevels := w.levels.toList.foldl (fun acc l =>
          (List.range slotsPerLevel).foldl (fun acc slot =>
            if l.isOccupied slot then
              (l.slots.getD slot []).foldl (fun acc e =>
                if w.isLive S e then minDeadline acc e.deadline else acc) acc
            else acc) acc) none
        overflowDeadline S inLevels w.overflow.length w

end TimerWheel

-- ========================================================== the calls

/-- A call on the wheel. -/
inductive WheelOp (ω : Type) where
  | register (deadline : Time) (waker : ω)
  | tryRegister (deadline : Time) (waker : ω)
  | cancel (handle : TimerHandle)
  | nextDeadline
  | collectExpired (now : Time)

/-- What a call returns. -/
inductive WheelOutput (ω : Type) where
  | handle (handle : TimerHandle)
  | tryHandle (result : Except TimerDurationExceeded TimerHandle)
  | cancelled (wasActive : Bool)
  | deadline (deadline : Option Time)
  | expired (wakers : List ω)

namespace TimerWheel

variable {σ ω : Type} (S : Slab σ Nat)

/-- What `try_register` answers: a refused call leaves the wheel as it was. -/
def tryRegisterAnswer (w : TimerWheel σ ω) :
    Except TimerDurationExceeded (TimerHandle × TimerWheel σ ω) → WheelOutput ω × TimerWheel σ ω
  | .ok r => (.tryHandle (.ok r.1), r.2)
  | .error e => (.tryHandle (.error e), w)

/-- One call: every call returns. -/
def step (w : TimerWheel σ ω) : WheelOp ω → Option (WheelOutput ω × TimerWheel σ ω)
  | .register deadline waker =>
      let r := w.register S deadline waker
      some (.handle r.1, r.2)
  | .tryRegister deadline waker => some (w.tryRegisterAnswer (w.tryRegister S deadline waker))
  | .cancel handle =>
      let r := w.cancel S handle
      some (.cancelled r.1, r.2)
  | .nextDeadline =>
      let r := w.nextDeadline S
      some (.deadline r.1, r.2)
  | .collectExpired now =>
      let r := w.collectExpired S now
      some (.expired r.1, r.2)

theorem step_isSome (w : TimerWheel σ ω) (op : WheelOp ω) : (w.step S op).isSome := by
  cases op <;> rfl

end TimerWheel

end Asupersync
