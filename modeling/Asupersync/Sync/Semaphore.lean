/-
The counting semaphore (`sync/semaphore.rs`): permits handed out in FIFO
order to waiters queued in an intrusive list kept in a slab.

# What is modelled

`SemaphoreState` and every critical section the semaphore, its acquire
futures and its permits run under the state lock:
- the waiter list: `enqueue_waiter`, `unlink_waiter`, `pop_front_waiter`,
  `remove_waiter_and_take_next_waker`, and the lookups
  `waiter_by_handle`, `is_front_waiter`, `waiter_waker_if_runnable` and
  `front_waiter_waker_if_runnable`;
- `Semaphore::new`, `close`, `try_acquire` and `add_permits`;
- `AcquireFuture::poll` and its `Drop`;
- `SemaphorePermit::forget`, `commit` and `Drop`.
Each returns, beside its result, the registered wakers it wakes once the
lock is released.

# Data

The waiter slab is the `slab` crate's `Slab<Waiter>`, a parameter
`S : MutSlab σ (Waiter ω)` (`Store/LinkedSlab.lean`). Indexing it
(`state.waiters[slot]`) and `Slab::remove` panic on a vacant key; the
functions that do either return `Option`, `none` for the panic. The list
work of `enqueue_waiter` and `unlink_waiter` is `LinkedSlab.pushBack` and
`LinkedSlab.unlink`, which follow it line by line. Waiter ids (`u64`
with `wrapping_add`) are `Nat`s, so they do not wrap after `2^64`
enqueues; the permit count is `usize`, and `add_permits` saturates at
`usize::MAX`.

A `Waker` is a value of a type `ω`, and `Waker::will_wake` is equality.
An `Arc<RegisteredWaker>` is its waker with the number of the
`RegisteredWaker::new` call that made it: a waiter's registration can
then be told from a later one of the same waker.

# The poll loop

`AcquireFuture::poll` releases the lock once, to build a registration,
and then makes its checks again. Each operation here is one critical
section, so the second pass meets the state the first one saw, and the
loop is one pass that uses the new registration where the second pass
would: to replace a waiter's stale waker, or to enqueue.

# What is left out

The lock-free shadows `permits_shadow` and `closed_shadow`, read only by
the advisory getters; lock-order bookkeeping; `telemetry_snapshot`; the
permits' obligation tokens, which the obligation ledger tracks; and the
owned variants `OwnedSemaphorePermit` and `OwnedAcquireFuture`.
-/
import Asupersync.Types.Basic
import Asupersync.Store.LinkedSlab

namespace Asupersync

/-- `AcquireError`. -/
inductive AcquireError where
  | Closed
  | Cancelled
  | PolledAfterCompletion
  deriving DecidableEq, Repr

/-- `TryAcquireError`. -/
structure TryAcquireError where
  deriving DecidableEq, Repr

/-- `Arc<RegisteredWaker>`: the task's waker, and the registration that
made this `Arc`. -/
structure RegisteredWaker (ω : Type) where
  registration : Nat
  waker : ω
  deriving DecidableEq, Repr

/-- `Waiter`: a queued acquisition and its two links. -/
structure Waiter (ω : Type) where
  id : Nat
  count : Nat
  waker : RegisteredWaker ω
  prev : Option Nat
  next : Option Nat
  deriving DecidableEq, Repr

/-- The links of a waiter, as the waiter list reads and writes them. -/
def Waiter.links {ω : Type} : Links (Waiter ω) where
  prev := Waiter.prev
  next := Waiter.next
  setPrev w p := { w with prev := p }
  setNext w n := { w with next := n }
  prev_setPrev _ _ := rfl
  next_setPrev _ _ := rfl
  prev_setNext _ _ := rfl
  next_setNext _ _ := rfl

/-- `WaiterHandle`: a slot and the id of the waiter it was made for. -/
structure WaiterHandle where
  slot : Nat
  id : Nat
  deriving DecidableEq, Repr

/-- `SemaphoreState`. -/
structure SemaphoreState (σ : Type) where
  permits : Nat
  closed : Bool
  waiters : σ
  waiterHead : Option Nat
  waiterTail : Option Nat
  nextWaiterId : Nat
  cancellationCount : Nat

/-- `Semaphore`: the state under its lock, and the initial count. -/
structure Semaphore (σ : Type) where
  state : SemaphoreState σ
  maxPermits : Nat

/-- `AcquireFuture`, without the semaphore and context it borrows. -/
structure AcquireFuture where
  count : Nat
  waiter : Option WaiterHandle
  completed : Bool
  deriving DecidableEq, Repr

namespace SemaphoreState

variable {σ ω : Type} (S : MutSlab σ (Waiter ω))

-- ======================================================== the waiter list

/-- `waiter_waker_if_runnable`. -/
def waiterWakerIfRunnable (st : SemaphoreState σ) (slot : Nat) : Option (RegisteredWaker ω) :=
  (S.get st.waiters slot).bind fun waiter =>
    if st.permits ≥ waiter.count then some waiter.waker else none

/-- `front_waiter_waker_if_runnable`. -/
def frontWaiterWakerIfRunnable (st : SemaphoreState σ) : Option (RegisteredWaker ω) :=
  st.waiterHead.bind (waiterWakerIfRunnable S st)

/-- `allocate_waiter_id`. -/
def allocateWaiterId (st : SemaphoreState σ) : Nat × SemaphoreState σ :=
  (st.nextWaiterId, { st with nextWaiterId := st.nextWaiterId + 1 })

/-- `waiter_by_handle` (and `waiter_by_handle_mut`): the waiter in the
slot, if it is the one the handle was made for. -/
def waiterByHandle (st : SemaphoreState σ) (handle : WaiterHandle) : Option (Waiter ω) :=
  (S.get st.waiters handle.slot).bind fun waiter =>
    if waiter.id = handle.id then some waiter else none

/-- `is_front_waiter`. -/
def isFrontWaiter (st : SemaphoreState σ) (handle : WaiterHandle) : Bool :=
  st.waiterHead == some handle.slot && (waiterByHandle S st handle).isSome

/-- `enqueue_waiter`: a new waiter after the tail. -/
def enqueueWaiter (st : SemaphoreState σ) (count : Nat) (waker : RegisteredWaker ω) :
    Option (WaiterHandle × SemaphoreState σ) :=
  let r := allocateWaiterId st
  (LinkedSlab.pushBack S Waiter.links r.2.waiters r.2.waiterHead r.2.waiterTail
      ⟨r.1, count, waker, r.2.waiterTail, none⟩).map fun p =>
    (⟨p.1, r.1⟩, { r.2 with waiters := p.2.1, waiterHead := p.2.2.1, waiterTail := p.2.2.2 })

/-- `unlink_waiter`: the waiter the handle names, taken out of the list. -/
def unlinkWaiter (st : SemaphoreState σ) (handle : WaiterHandle) :
    Option (Option (Waiter ω) × SemaphoreState σ) :=
  match waiterByHandle S st handle with
  | none => some (none, st)
  | some waiter =>
      (LinkedSlab.unlink S Waiter.links st.waiters st.waiterHead st.waiterTail handle.slot waiter).map
        fun p => (some p.1, { st with waiters := p.2.1, waiterHead := p.2.2.1, waiterTail := p.2.2.2 })

/-- `pop_front_waiter`. -/
def popFrontWaiter (st : SemaphoreState σ) : Option (Option (Waiter ω) × SemaphoreState σ) :=
  match st.waiterHead with
  | none => some (none, st)
  | some slot =>
      match S.get st.waiters slot with
      | none => some (none, st)
      | some waiter => unlinkWaiter S st ⟨slot, waiter.id⟩

/-- `remove_waiter_and_take_next_waker`: a waiter that leaves from the
front hands the wake to the next one, if that one can run. -/
def removeWaiterAndTakeNextWaker (st : SemaphoreState σ) (handle : WaiterHandle) :
    Option ((Option (Waiter ω) × Option (RegisteredWaker ω)) × SemaphoreState σ) :=
  if isFrontWaiter S st handle then
    -- the next waiter's registration is read before the unlink
    let nextWaker := ((waiterByHandle S st handle).bind (·.next)).bind (waiterWakerIfRunnable S st)
    (unlinkWaiter S st handle).map fun r => ((r.1, nextWaker), r.2)
  else (unlinkWaiter S st handle).map fun r => ((r.1, none), r.2)

-- ========================================================= the semaphore

/-- `Semaphore::with_name`'s state. -/
def new (permits : Nat) : SemaphoreState σ := ⟨permits, false, S.empty, none, none, 0, 0⟩

/-- `Semaphore::close`: every waiter is taken out and woken. -/
def close (st : SemaphoreState σ) : List (RegisteredWaker ω) × SemaphoreState σ :=
  ((S.values st.waiters).map (·.waker),
    { st with closed := true, permits := 0, waiterHead := none, waiterTail := none, waiters := S.empty })

/-- `Semaphore::try_acquire`: the count of the permit, or the error. A
count of zero succeeds at once. -/
def tryAcquire (st : SemaphoreState σ) (count : Nat) : Except TryAcquireError Nat × SemaphoreState σ :=
  if count = 0 then (.ok 0, st)
  else if st.closed then (.error ⟨⟩, st)
  -- strict FIFO: no overtaking a queued waiter
  else if st.waiterHead.isSome then (.error ⟨⟩, st)
  else if st.permits ≥ count then (.ok count, { st with permits := st.permits - count })
  else (.error ⟨⟩, st)

/-- `Semaphore::add_permits`: the front waiter is woken if it can now run. -/
def addPermits (st : SemaphoreState σ) (count : Nat) : Option (RegisteredWaker ω) × SemaphoreState σ :=
  if count = 0 then (none, st)
  else if st.closed then (none, st)
  else
    let st := { st with permits := min (st.permits + count) usizeMax }
    (frontWaiterWakerIfRunnable S st, st)

-- ====================================================== acquire futures

/-- `Drop for AcquireFuture`: a queued future leaves the queue. -/
def dropFuture (st : SemaphoreState σ) (future : AcquireFuture) :
    Option (Option (RegisteredWaker ω) × SemaphoreState σ) :=
  match future.waiter with
  | none => some (none, st)
  | some waiter =>
      let st := { st with cancellationCount := st.cancellationCount + 1 }
      (removeWaiterAndTakeNextWaker S st waiter).map fun r => (r.1.2, r.2)

/-- The fast path of `AcquireFuture::poll`: next in line, with enough
permits. A queued future leaves from the front. -/
def acquireNow (st : SemaphoreState σ) (future : AcquireFuture) :
    Option (Poll (Except AcquireError Nat) × AcquireFuture × SemaphoreState σ × List (RegisteredWaker ω)) :=
  let st := { st with permits := st.permits - future.count }
  let popped := match future.waiter with
    | some _ => popFrontWaiter S st
    | none => some (none, st)
  popped.map fun r =>
    (.Ready (.ok future.count), { future with waiter := none, completed := true }, r.2,
      -- the next waiter is woken if the permits left let it run
      (frontWaiterWakerIfRunnable S r.2).toList)

/-- The slow path of `AcquireFuture::poll`: keep the registration if it
wakes the same task, replace it otherwise, or enqueue with it. -/
def waitNext [DecidableEq ω] (st : SemaphoreState σ) (future : AcquireFuture) (incoming : RegisteredWaker ω) :
    Option (Poll (Except AcquireError Nat) × AcquireFuture × SemaphoreState σ × List (RegisteredWaker ω)) :=
  match future.waiter with
  | some handle =>
      match waiterByHandle S st handle with
      | some existing =>
          if existing.waker.waker = incoming.waker then some (.Pending, future, st, [])
          else
            some (.Pending, future,
              { st with waiters := S.update st.waiters handle.slot fun w => { w with waker := incoming } }, [])
      | none =>
          (enqueueWaiter S st future.count incoming).map fun r =>
            (.Pending, { future with waiter := some r.1 }, r.2, [])
  | none =>
      (enqueueWaiter S st future.count incoming).map fun r =>
        (.Pending, { future with waiter := some r.1 }, r.2, [])

/-- `AcquireFuture::poll`, with the context's checkpoint result
(`cancelled`), the task's waker, and the registration a new
`RegisteredWaker` would get: the poll's result (the permit's count), the
future and the state after it, and the wakers it wakes. -/
def poll [DecidableEq ω] (st : SemaphoreState σ) (future : AcquireFuture) (cancelled : Bool) (waker : ω)
    (registration : Nat) :
    Option (Poll (Except AcquireError Nat) × AcquireFuture × SemaphoreState σ × List (RegisteredWaker ω)) :=
  if future.completed then some (.Ready (.error .PolledAfterCompletion), future, st, [])
  else if future.count = 0 then some (.Ready (.ok 0), { future with completed := true }, st, [])
  else if cancelled then
    let st := { st with cancellationCount := st.cancellationCount + 1 }
    let done := { future with waiter := none, completed := true }
    match future.waiter with
    | some waiter =>
        (removeWaiterAndTakeNextWaker S st waiter).map fun r =>
          (.Ready (.error .Cancelled), done, r.2, r.1.2.toList)
    | none => some (.Ready (.error .Cancelled), done, st, [])
  else if st.closed then
    let done := { future with waiter := none, completed := true }
    match future.waiter with
    | some waiter => (unlinkWaiter S st waiter).map fun r => (.Ready (.error .Closed), done, r.2, [])
    | none => some (.Ready (.error .Closed), done, st, [])
  else
    -- FIFO: only the front waiter, or anyone when none waits, may acquire
    let isNextInLine := future.waiter.elim st.waiterHead.isNone (isFrontWaiter S st)
    if isNextInLine && st.permits ≥ future.count then acquireNow S st future
    else waitNext S st future ⟨registration, waker⟩

-- =============================================================== permits

/-- `Drop for SemaphorePermit` (and `commit`, which drops it): the
permits go back through `add_permits`. -/
def dropPermit (st : SemaphoreState σ) (count : Nat) : Option (RegisteredWaker ω) × SemaphoreState σ :=
  if count > 0 then addPermits S st count else (none, st)

end SemaphoreState

/-- `Semaphore::new`. -/
def Semaphore.new {σ ω : Type} (S : MutSlab σ (Waiter ω)) (permits : Nat) : Semaphore σ :=
  ⟨SemaphoreState.new S permits, permits⟩

end Asupersync
