/-
The region record and its close protocol (`record/region.rs`).

# What is modelled

`RegionRecord` keeps the fields the admission and close operations read
or write: the atomic `state`, the lock-guarded `RegionInner` fields
(children, tasks, the finalizer stack, the cancel reason, the close
outcome, the admission limits, the pending-obligation count), the
`double_resolve_count` diagnostic, the shared pending-spawn counter and
the `closed` flag of `close_notify`. The operations are every mutator
except `set_state` and the heap:

- admission: `add_child`, `add_task` and `add_cleanup_task` (both through
  `add_task_internal`), `try_reserve_obligation`, and the pending-spawn
  credits (`reserve_pending_spawn` and the reservation's `Drop`);
- release: `remove_child`, `remove_task`, `resolve_obligation`;
- finalizers: `add_finalizer`, `pop_finalizer`;
- reasons and outcomes: `cancel_request`, `strengthen_cancel_reason`,
  `record_close_outcome`;
- the close sequence: `begin_close`, `begin_drain`, `begin_finalize`,
  `complete_close`; and `set_limits`.

Each operation runs atomically, as it does under the `inner` write lock
in the source; the optimistic state check an admission path makes
before taking the lock then reads the same state as its locked re-check,
and the two are one test here. The `debug_assert!`s on a double resolve
and a spawn-credit underflow are modelled as release builds compile
them: the counters are bumped and nothing panics.

Left out: the budget, capability budget and region heap (no modelled
operation reads them; `complete_close` reclaims the heap), the tracing
span, the close waiters (only woken), and `parent`, which
`begin_finalize` reads for a `debug_assert!(true, ..)`.

# Representation

`AtomicRegionState` carries the fact that its byte decodes, so `load`'s
`expect` cannot fail and `compare_exchange` on the `u8` encoding is a
comparison of states. The finalizer stack is a list with its top first:
`FinalizerStack` pushes and pops at the end of a `Vec`, and only the
stack order matters.
-/
import Asupersync.Types.Outcome

namespace Asupersync

-- ============================================================ the states

/-- `RegionState`. -/
inductive RegionState where
  | Open
  | Closing
  | Draining
  | Finalizing
  | Closed
  deriving DecidableEq, Repr

namespace RegionState

/-- `RegionState::as_u8`. -/
def asU8 : RegionState → UInt8
  | .Open => 0
  | .Closing => 1
  | .Draining => 2
  | .Finalizing => 3
  | .Closed => 4

/-- `RegionState::from_u8`. -/
def fromU8 (value : UInt8) : Option RegionState :=
  match value.toNat with
  | 0 => some .Open
  | 1 => some .Closing
  | 2 => some .Draining
  | 3 => some .Finalizing
  | 4 => some .Closed
  | _ => none

/-- `RegionState::is_terminal`. -/
def isTerminal : RegionState → Bool
  | .Closed => true
  | _ => false

/-- `RegionState::can_spawn`. -/
def canSpawn : RegionState → Bool
  | .Open => true
  | _ => false

/-- `RegionState::can_accept_work`. -/
def canAcceptWork : RegionState → Bool
  | .Open => true
  | _ => false

/-- `RegionState::can_accept_cleanup_work`. -/
def canAcceptCleanupWork : RegionState → Bool
  | .Open | .Finalizing => true
  | _ => false

/-- `RegionState::is_closing`. -/
def isClosing : RegionState → Bool
  | .Closing | .Draining | .Finalizing => true
  | _ => false

@[simp] theorem fromU8_asU8 (s : RegionState) : fromU8 s.asU8 = some s := by
  cases s <;> rfl

theorem eq_asU8_of_fromU8 {value : UInt8} {s : RegionState} (h : fromU8 value = some s) :
    value = s.asU8 := by
  apply UInt8.toNat_inj.mp
  unfold fromU8 at h
  split at h <;> cases h <;> simp_all [asU8]

end RegionState

/-- `AtomicRegionState`: the `AtomicU8` holding the state's encoding. -/
structure AtomicRegionState where
  inner : UInt8
  valid : (RegionState.fromU8 inner).isSome

namespace AtomicRegionState

/-- `AtomicRegionState::new`. -/
def new (state : RegionState) : AtomicRegionState := ⟨state.asU8, by simp⟩

/-- `AtomicRegionState::load`. -/
def load (c : AtomicRegionState) : RegionState := (RegionState.fromU8 c.inner).get c.valid

/-- `AtomicRegionState::store`. -/
def store (_c : AtomicRegionState) (state : RegionState) : AtomicRegionState := new state

/-- `AtomicRegionState::transition`: a `compare_exchange` of the encodings. -/
def transition (c : AtomicRegionState) (expected desired : RegionState) :
    Bool × AtomicRegionState :=
  if c.inner = expected.asU8 then (true, new desired) else (false, c)

@[simp] theorem load_new (s : RegionState) : (new s).load = s := by
  simp [new, load]

@[simp] theorem load_store (c : AtomicRegionState) (s : RegionState) :
    (c.store s).load = s := load_new s

theorem inner_eq_asU8_iff (c : AtomicRegionState) (s : RegionState) :
    c.inner = s.asU8 ↔ c.load = s := by
  constructor
  · intro h
    simp [load, h]
  · intro h
    apply RegionState.eq_asU8_of_fromU8
    rw [← h, load, Option.some_get]

/-- The exchange succeeds exactly when the loaded state is the expected one. -/
theorem transition_eq (c : AtomicRegionState) (expected desired : RegionState) :
    c.transition expected desired =
      if c.load = expected then (true, new desired) else (false, c) := by
  simp only [transition, inner_eq_asU8_iff]

@[simp] theorem transition_load (c : AtomicRegionState) (expected desired : RegionState) :
    (c.transition expected desired).2.load = if c.load = expected then desired else c.load := by
  rw [transition_eq]
  split <;> simp

end AtomicRegionState

-- ========================================================== admission

/-- `RegionLimits`, without the heap-byte and curve-budget limits that only
`heap_alloc` reads. -/
structure RegionLimits where
  maxChildren : Option Nat
  maxTasks : Option Nat
  maxObligations : Option Nat
  deriving DecidableEq, Repr

/-- `RegionLimits::UNLIMITED`. -/
def RegionLimits.UNLIMITED : RegionLimits := ⟨none, none, none⟩

/-- `AdmissionKind`. -/
inductive AdmissionKind where
  | Child
  | Task
  | Obligation
  | HeapBytes
  deriving DecidableEq, Repr

/-- `AdmissionError`. -/
inductive AdmissionError where
  | Closed
  | LimitReached (kind : AdmissionKind) (limit : Nat) (live : Nat)
  deriving DecidableEq, Repr

/-- The limit test every admission path makes under the write lock:
`if let Some(limit) = max { if live >= limit { return Err(LimitReached ..) } }`. -/
def AdmissionError.checkLimit (kind : AdmissionKind) (max : Option Nat) (live : Nat) :
    Except AdmissionError Unit :=
  match max with
  | some limit => if live ≥ limit then .error (.LimitReached kind limit live) else .ok ()
  | none => .ok ()

/-- `PendingSpawnCounter`: `count` and `underflow_count` are `AtomicU32`s. -/
structure PendingSpawnCounter where
  count : UInt32
  underflowCount : UInt32
  deriving DecidableEq, Repr

namespace PendingSpawnCounter

/-- `PendingSpawnCounter::new`. -/
def new : PendingSpawnCounter := ⟨0, 0⟩

/-- `PendingSpawnCounter::reserve`: `fetch_add(1)`, which wraps. -/
def reserve (c : PendingSpawnCounter) : PendingSpawnCounter := { c with count := c.count + 1 }

/-- `PendingSpawnCounter::release` (the reservation's `Drop`): a decrement at
zero is refused and counted. -/
def release (c : PendingSpawnCounter) : PendingSpawnCounter :=
  if c.count = 0 then { c with underflowCount := c.underflowCount + 1 }
  else { c with count := c.count - 1 }

end PendingSpawnCounter

/-- `RegionCloseState`, without the waker list. -/
structure RegionCloseState where
  closed : Bool
  deriving DecidableEq, Repr

-- ============================================================ the record

/-- `RegionRecord`; `E` is the task error type of `TaskOutcome = Outcome<(), E>`
and `F` the finalizer payload. -/
structure RegionRecord (E F : Type) where
  id : RegionId
  closeNotify : RegionCloseState
  state : AtomicRegionState
  children : List RegionId
  tasks : List TaskId
  finalizers : List F
  cancelReason : Option CancelReason
  closeOutcome : Option (Outcome Unit E)
  limits : RegionLimits
  pendingObligations : Nat
  doubleResolveCount : UInt64
  pendingSpawns : PendingSpawnCounter

namespace RegionRecord

variable {E F : Type}

/-- `RegionRecord::new`. -/
def new (id : RegionId) : RegionRecord E F where
  id := id
  closeNotify := ⟨false⟩
  state := .new .Open
  children := []
  tasks := []
  finalizers := []
  cancelReason := none
  closeOutcome := none
  limits := .UNLIMITED
  pendingObligations := 0
  doubleResolveCount := 0
  pendingSpawns := .new

/-- `RegionRecord::is_quiescent`. -/
def isQuiescent (r : RegionRecord E F) : Bool :=
  r.children.isEmpty && r.tasks.isEmpty && r.pendingObligations == 0 &&
    r.finalizers.isEmpty && r.pendingSpawns.count == 0

/-- `RegionRecord::set_limits`. -/
def setLimits (r : RegionRecord E F) (limits : RegionLimits) : RegionRecord E F :=
  { r with limits := limits }

/-- `RegionRecord::add_child`. -/
def addChild (r : RegionRecord E F) (child : RegionId) :
    Except AdmissionError Unit × RegionRecord E F :=
  if !r.state.load.canSpawn then (.error .Closed, r)
  else if r.children.contains child then (.ok (), r)
  else
    match AdmissionError.checkLimit .Child r.limits.maxChildren r.children.length with
    | .error e => (.error e, r)
    | .ok () => (.ok (), { r with children := r.children ++ [child] })

/-- `RegionRecord::remove_child`. -/
def removeChild (r : RegionRecord E F) (child : RegionId) : RegionRecord E F :=
  { r with children := r.children.filter (· != child) }

/-- `RegionRecord::add_task_internal`: cleanup tasks are also admitted while
`Finalizing`, and there bypass `max_tasks`. -/
def addTaskInternal (r : RegionRecord E F) (task : TaskId) (cleanupTask : Bool) :
    Except AdmissionError Unit × RegionRecord E F :=
  let state := r.state.load
  let canAdmit := if cleanupTask then state.canAcceptCleanupWork else state.canAcceptWork
  if !canAdmit then (.error .Closed, r)
  else if r.tasks.contains task then (.ok (), r)
  else
    let bypassLimit := cleanupTask && state == .Finalizing
    let limited :=
      if bypassLimit then .ok () else AdmissionError.checkLimit .Task r.limits.maxTasks r.tasks.length
    match limited with
    | .error e => (.error e, r)
    | .ok () => (.ok (), { r with tasks := r.tasks ++ [task] })

/-- `RegionRecord::add_task`. -/
def addTask (r : RegionRecord E F) (task : TaskId) :
    Except AdmissionError Unit × RegionRecord E F :=
  r.addTaskInternal task false

/-- `RegionRecord::add_cleanup_task`. -/
def addCleanupTask (r : RegionRecord E F) (task : TaskId) :
    Except AdmissionError Unit × RegionRecord E F :=
  r.addTaskInternal task true

/-- `RegionRecord::remove_task`. -/
def removeTask (r : RegionRecord E F) (task : TaskId) : RegionRecord E F :=
  { r with tasks := r.tasks.filter (· != task) }

/-- `RegionRecord::try_reserve_obligation`. -/
def tryReserveObligation (r : RegionRecord E F) :
    Except AdmissionError Unit × RegionRecord E F :=
  if !r.state.load.canAcceptWork then (.error .Closed, r)
  else
    match AdmissionError.checkLimit .Obligation r.limits.maxObligations r.pendingObligations with
    | .error e => (.error e, r)
    | .ok () => (.ok (), { r with pendingObligations := min (r.pendingObligations + 1) usizeMax })

/-- `RegionRecord::resolve_obligation`: `checked_sub(1)`, a miss counted. -/
def resolveObligation (r : RegionRecord E F) : RegionRecord E F :=
  match r.pendingObligations with
  | n + 1 => { r with pendingObligations := n }
  | 0 => { r with doubleResolveCount := r.doubleResolveCount + 1 }

/-- `RegionRecord::reserve_pending_spawn`. -/
def reservePendingSpawn (r : RegionRecord E F) : RegionRecord E F :=
  { r with pendingSpawns := r.pendingSpawns.reserve }

/-- The `Drop` of a `PendingSpawnReservation` taken on this region. -/
def releasePendingSpawn (r : RegionRecord E F) : RegionRecord E F :=
  { r with pendingSpawns := r.pendingSpawns.release }

/-- `RegionRecord::add_finalizer`: no state check. -/
def addFinalizer (r : RegionRecord E F) (finalizer : F) : RegionRecord E F :=
  { r with finalizers := finalizer :: r.finalizers }

/-- `RegionRecord::pop_finalizer`: only while `Finalizing`. -/
def popFinalizer (r : RegionRecord E F) : Option F × RegionRecord E F :=
  if r.state.load ≠ .Finalizing then (none, r)
  else
    match r.finalizers with
    | [] => (none, r)
    | f :: rest => (some f, { r with finalizers := rest })

/-- `RegionRecord::record_close_outcome`. -/
def recordCloseOutcome (r : RegionRecord E F) (outcome : Outcome Unit E) : RegionRecord E F :=
  { r with closeOutcome := some (match r.closeOutcome with
      | some existing => existing.join outcome
      | none => outcome) }

/-- `RegionRecord::strengthen_cancel_reason`. -/
def strengthenCancelReason (r : RegionRecord E F) (reason : CancelReason) : RegionRecord E F :=
  { r with cancelReason := some (match r.cancelReason with
      | some existing => (existing.strengthen reason).2
      | none => reason) }

/-- `RegionRecord::cancel_request`: the same update as
`strengthen_cancel_reason`, reporting whether no reason was held. -/
def cancelRequest (r : RegionRecord E F) (reason : CancelReason) : Bool × RegionRecord E F :=
  (r.cancelReason.isNone, r.strengthenCancelReason reason)

/-- `RegionRecord::begin_close` (through `begin_close_transition`): a closed
region refuses before recording the reason. -/
def beginClose (r : RegionRecord E F) (reason : Option CancelReason) :
    Bool × RegionRecord E F :=
  if r.state.load = .Closed then (false, r)
  else
    let r₁ := match reason with
      | some reason => r.strengthenCancelReason reason
      | none => r
    let res := r₁.state.transition .Open .Closing
    (res.1, { r₁ with state := res.2 })

/-- `RegionRecord::begin_drain`. -/
def beginDrain (r : RegionRecord E F) : Bool × RegionRecord E F :=
  let res := r.state.transition .Closing .Draining
  (res.1, { r with state := res.2 })

/-- `RegionRecord::begin_finalize`: from `Closing`, or else from `Draining`. -/
def beginFinalize (r : RegionRecord E F) : Bool × RegionRecord E F :=
  let fromClosing := r.state.transition .Closing .Finalizing
  if fromClosing.1 then (true, { r with state := fromClosing.2 })
  else
    let fromDraining := r.state.transition .Draining .Finalizing
    (fromDraining.1, { r with state := fromDraining.2 })

/-- The outcome `complete_close` records when none was folded in. -/
def defaultOutcome (r : RegionRecord E F) : Outcome Unit E :=
  match r.cancelReason with
  | some reason => .Cancelled reason
  | none => .Ok ()

/-- `RegionRecord::complete_close`. The quiescence test is written out in the
source; it is `is_quiescent`'s conjunction. -/
def completeClose (r : RegionRecord E F) : Bool × RegionRecord E F :=
  if r.state.load ≠ .Finalizing then (false, r)
  else if !r.isQuiescent then (false, r)
  else
    -- `close_outcome.get_or_insert(default_outcome)`
    let r₁ := { r with closeOutcome := some (r.closeOutcome.getD r.defaultOutcome) }
    let res := r₁.state.transition .Finalizing .Closed
    if res.1 then (true, { r₁ with state := res.2, closeNotify := ⟨true⟩ })
    else (false, { r₁ with state := res.2 })

-- ======================================================= the operations

/-- The record's mutators, `set_state` and the heap aside. -/
inductive RegionOp (E F : Type) where
  | addChild (child : RegionId)
  | removeChild (child : RegionId)
  | addTask (task : TaskId)
  | addCleanupTask (task : TaskId)
  | removeTask (task : TaskId)
  | tryReserveObligation
  | resolveObligation
  | reservePendingSpawn
  | releasePendingSpawn
  | addFinalizer (finalizer : F)
  | popFinalizer
  | recordCloseOutcome (outcome : Outcome Unit E)
  | strengthenCancelReason (reason : CancelReason)
  | cancelRequest (reason : CancelReason)
  | beginClose (reason : Option CancelReason)
  | beginDrain
  | beginFinalize
  | completeClose
  | setLimits (limits : RegionLimits)

/-- One operation on the record; its return value is dropped. -/
def apply (r : RegionRecord E F) : RegionOp E F → RegionRecord E F
  | .addChild child => (r.addChild child).2
  | .removeChild child => r.removeChild child
  | .addTask task => (r.addTask task).2
  | .addCleanupTask task => (r.addCleanupTask task).2
  | .removeTask task => r.removeTask task
  | .tryReserveObligation => r.tryReserveObligation.2
  | .resolveObligation => r.resolveObligation
  | .reservePendingSpawn => r.reservePendingSpawn
  | .releasePendingSpawn => r.releasePendingSpawn
  | .addFinalizer finalizer => r.addFinalizer finalizer
  | .popFinalizer => r.popFinalizer.2
  | .recordCloseOutcome outcome => r.recordCloseOutcome outcome
  | .strengthenCancelReason reason => r.strengthenCancelReason reason
  | .cancelRequest reason => (r.cancelRequest reason).2
  | .beginClose reason => (r.beginClose reason).2
  | .beginDrain => r.beginDrain.2
  | .beginFinalize => r.beginFinalize.2
  | .completeClose => r.completeClose.2
  | .setLimits limits => r.setLimits limits

end RegionRecord

end Asupersync
