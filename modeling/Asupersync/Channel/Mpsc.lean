/-
The two-phase MPSC channel (`channel/mpsc.rs`): a bounded queue shared by
senders that first reserve a slot and then commit a value into it.

# What is modelled

`ChannelInner` keeps the message queue, the `reserved` count, the sender
waiter slab and the FIFO of waiter tokens; `ChannelShared` adds the
sender count, the `receiver_dropped` flag and the capacity. Every
operation is one critical section under the channel mutex, written as a
function from the shared state to its result and the next state:

- senders: `try_reserve`, `try_send`, `send_evict_oldest_where`, and a
  `Reserve` future's `poll` and `Drop` (through `cleanup_waiter`);
- permits: `try_send` (which `send` wraps), `abort`, `Drop`;
- the receiver: `close`, `try_recv`, `poll_recv`, `poll_recv_many`;
- `Sender` clone and drop, which only move the sender count.

The waiter slab is `TokenSlab` with its wakers left out: a token is live
or not, and `insert` hands out a token never seen before (the source
retires a slot whose generation would wrap, so tokens are not reused).

# What is left out

Wakers (the sender wakers' values, `recv_waker`, `recv_wake_epoch`) and
the wake calls, which decide only when a task runs again; the
`cancellation_count` diagnostic; and the `Cx` checkpoint, which is the
`cancelled` input of the polls. A poll loop that prepares a waker outside
the lock and rechecks everything is one critical section here, since
nothing else can run between its iterations in a sequential model.
-/
import Asupersync.Types.Basic

namespace Asupersync

-- ================================================================ tokens

/-- `SlabToken`, as an opaque fresh number. -/
abbrev SlabToken := Nat

/-- `TokenSlab<Arc<RegisteredWaker>>`: the live tokens, and the next fresh one. -/
structure TokenSlab where
  live : List SlabToken
  next : SlabToken
  deriving DecidableEq, Repr

namespace TokenSlab

/-- `TokenSlab::with_capacity`. -/
def empty : TokenSlab := ⟨[], 0⟩

/-- `TokenSlab::get(token).is_some()`. -/
def contains (s : TokenSlab) (token : SlabToken) : Bool := s.live.contains token

/-- `TokenSlab::insert`. -/
def insert (s : TokenSlab) : SlabToken × TokenSlab := (s.next, ⟨s.live ++ [s.next], s.next + 1⟩)

/-- `TokenSlab::remove`: whether the token was live. -/
def remove (s : TokenSlab) (token : SlabToken) : Bool × TokenSlab :=
  if s.live.contains token then (true, { s with live := s.live.erase token }) else (false, s)

end TokenSlab

-- ================================================================ errors

/-- `SendError<T>`: every variant hands the value back. -/
inductive SendError (α : Type) where
  | Disconnected (value : α)
  | Cancelled (value : α)
  | Full (value : α)
  deriving DecidableEq, Repr

/-- The value a `SendError` hands back. -/
def SendError.value {α : Type} : SendError α → α
  | .Disconnected v | .Cancelled v | .Full v => v

/-- `RecvError`. -/
inductive RecvError where
  | Disconnected
  | Cancelled
  | Empty
  deriving DecidableEq, Repr

-- ========================================================= the inner state

/-- `ChannelInner<T>`. -/
structure ChannelInner (α : Type) where
  queue : List α
  reserved : Nat
  sendWakers : TokenSlab
  waiterQueue : List SlabToken

namespace ChannelInner

variable {α : Type}

/-- `ChannelInner::new`. -/
def new : ChannelInner α := ⟨[], 0, .empty, []⟩

/-- `ChannelInner::used_slots`: `queue.len().saturating_add(reserved)`. -/
def usedSlots (i : ChannelInner α) : Nat := min (i.queue.length + i.reserved) usizeMax

/-- `ChannelInner::has_capacity`. -/
def hasCapacity (i : ChannelInner α) (capacity : Nat) : Bool := i.usedSlots < capacity

/-- The loop of `prune_stale_waiter_front`: pop tokens no longer in the slab. -/
def pruneFront (slab : TokenSlab) : List SlabToken → List SlabToken
  | [] => []
  | token :: rest => if slab.contains token then token :: rest else pruneFront slab rest

/-- `ChannelInner::prune_stale_waiter_front`. -/
def pruneStaleWaiterFront (i : ChannelInner α) : ChannelInner α :=
  { i with waiterQueue := pruneFront i.sendWakers i.waiterQueue }

/-- `ChannelInner::has_waiting_sender`. -/
def hasWaitingSender (i : ChannelInner α) : Bool × ChannelInner α :=
  let i := i.pruneStaleWaiterFront
  (!i.waiterQueue.isEmpty, i)

/-- `ChannelInner::take_next_sender_waker`: the front waiter's token, if
live; the waiter stays queued. -/
def takeNextSenderWaker (i : ChannelInner α) : Option SlabToken × ChannelInner α :=
  let i := i.pruneStaleWaiterFront
  ((i.waiterQueue.head?).filter i.sendWakers.contains, i)

/-- `ChannelInner::sender_wakers_for_freed_slots`: live waiters, in queue
order, up to the wake budget. -/
def senderWakersForFreedSlots (i : ChannelInner α) (freedSlots capacity : Nat) :
    List SlabToken × ChannelInner α :=
  let wakeBudget := min freedSlots (capacity - i.usedSlots)
  if wakeBudget = 0 then ([], i)
  else
    let i := i.pruneStaleWaiterFront
    ((i.waiterQueue.filter i.sendWakers.contains).take wakeBudget, i)

/-- One turn of the `drain_sender_wakers` loop. -/
def drainStep (acc : List SlabToken × TokenSlab) (token : SlabToken) :
    List SlabToken × TokenSlab :=
  let r := acc.2.remove token
  (if r.1 then acc.1 ++ [token] else acc.1, r.2)

/-- `ChannelInner::drain_sender_wakers`: empty the FIFO, retiring each
token from the slab. -/
def drainSenderWakers (i : ChannelInner α) : List SlabToken × ChannelInner α :=
  let r := i.waiterQueue.foldl drainStep ([], i.sendWakers)
  (r.1, { i with sendWakers := r.2, waiterQueue := [] })

/-- `ChannelInner::remove_waiter_token`: the front, else the back, else the
first occurrence. -/
def removeWaiterToken (i : ChannelInner α) (token : SlabToken) : Bool × ChannelInner α :=
  if i.waiterQueue.head? = some token then (true, { i with waiterQueue := i.waiterQueue.tail })
  else if i.waiterQueue.getLast? = some token then
    (true, { i with waiterQueue := i.waiterQueue.dropLast })
  else (i.waiterQueue.contains token, { i with waiterQueue := i.waiterQueue.erase token })

/-- The `is_first` test of `Reserve::poll`: a future without a token is
first when no one waits, one with a token when it heads the FIFO. -/
def isFirst (i : ChannelInner α) : Option SlabToken → Bool
  | none => i.waiterQueue.isEmpty
  | some t => i.waiterQueue.head? == some t

/-- The acquiring branch of `Reserve::poll` for a future holding token `t`:
leave the FIFO, retire the token, and wake the next waiter if a slot is
still free (the cascade prunes the front before reading it). -/
def retireWaiter (i : ChannelInner α) (t : SlabToken) (capacity : Nat) :
    ChannelInner α :=
  let i := if i.waiterQueue.head? = some t then { i with waiterQueue := i.waiterQueue.tail }
    else (i.removeWaiterToken t).2
  let i := { i with sendWakers := (i.sendWakers.remove t).2 }
  if i.hasCapacity capacity then i.takeNextSenderWaker.2 else i

end ChannelInner

-- ======================================================== the shared state

/-- `ChannelShared<T>`. -/
structure ChannelShared (α : Type) where
  inner : ChannelInner α
  senderCount : Nat
  receiverDropped : Bool
  capacity : Nat

namespace ChannelShared

variable {α : Type}

/-- `channel(capacity)`, whose `assert!(capacity > 0)` is left to the caller. -/
def channel (capacity : Nat) : ChannelShared α := ⟨.new, 1, false, capacity⟩

/-- `Sender::try_reserve`. `Ok` mints a `SendPermit`. -/
def tryReserve (sh : ChannelShared α) : Except (SendError Unit) Unit × ChannelShared α :=
  if sh.receiverDropped then (.error (.Disconnected ()), sh)
  else
    let w := sh.inner.hasWaitingSender
    if w.1 then (.error (.Full ()), { sh with inner := w.2 })
    else if w.2.hasCapacity sh.capacity then
      (.ok (), { sh with inner := { w.2 with reserved := w.2.reserved + 1 } })
    else (.error (.Full ()), { sh with inner := w.2 })

/-- `Sender::try_send`: the single-lock fast path, which never touches
`reserved`. -/
def trySend (sh : ChannelShared α) (value : α) : Except (SendError α) Unit × ChannelShared α :=
  if sh.receiverDropped then (.error (.Disconnected value), sh)
  else
    let w := sh.inner.hasWaitingSender
    if w.1 || !w.2.hasCapacity sh.capacity then (.error (.Full value), { sh with inner := w.2 })
    else (.ok (), { sh with inner := { w.2 with queue := w.2.queue ++ [value] } })

/-- `Sender::send_evict_oldest_where`: with physical capacity the value is
queued unless a waiter owns the free slot; without it the oldest queued
value matching `predicate` makes room. -/
def sendEvictOldestWhere (sh : ChannelShared α) (value : α) (predicate : α → Bool) :
    Except (SendError α) (Option α) × ChannelShared α :=
  if sh.receiverDropped then (.error (.Disconnected value), sh)
  else if sh.inner.hasCapacity sh.capacity then
    -- `has_physical_capacity && has_waiting_sender()`: the prune runs only here
    let w := sh.inner.hasWaitingSender
    if w.1 then (.error (.Full value), { sh with inner := w.2 })
    else (.ok none, { sh with inner := { w.2 with queue := w.2.queue ++ [value] } })
  else
    match h : sh.inner.queue.findIdx? predicate with
    | some index =>
        have hlt : index < sh.inner.queue.length := (List.findIdx?_eq_some_iff_getElem.mp h).1
        (.ok (some (sh.inner.queue.get ⟨index, hlt⟩)),
          { sh with inner := { sh.inner with queue := sh.inner.queue.eraseIdx index ++ [value] } })
    | none => (.error (.Full value), sh)

/-- `Reserve::cleanup_waiter`: retire the future's token, and pass the
baton only if it held a FIFO position and a slot is free. -/
def cleanupWaiter (sh : ChannelShared α) : Option SlabToken → ChannelShared α
  | none => sh
  | some token =>
      if sh.receiverDropped then
        { sh with inner := { sh.inner with sendWakers := (sh.inner.sendWakers.remove token).2 } }
      else
        let retired := sh.inner.sendWakers.remove token
        -- a token no longer in the slab owns no queue position: nothing to hand on
        if retired.1 then
          let r := { sh.inner with sendWakers := retired.2 }.removeWaiterToken token
          if r.1 && r.2.hasCapacity sh.capacity then { sh with inner := r.2.takeNextSenderWaker.2 }
          else { sh with inner := r.2 }
        else sh

/-- `<Reserve as Future>::poll`, from the future's waiter token: the result,
the token it keeps, and the channel. `Ready (Ok ())` mints a `SendPermit`. -/
def reservePoll (sh : ChannelShared α) (token : Option SlabToken) (cancelled : Bool) :
    Poll (Except (SendError Unit) Unit) × Option SlabToken × ChannelShared α :=
  if cancelled then (.Ready (.error (.Cancelled ())), none, sh.cleanupWaiter token)
  else if sh.receiverDropped then (.Ready (.error (.Disconnected ())), none, sh)
  else if sh.inner.isFirst token && sh.inner.hasCapacity sh.capacity then
    let inner := { sh.inner with reserved := sh.inner.reserved + 1 }
    match token with
    | none => (.Ready (.ok ()), none, { sh with inner := inner })
    | some t => (.Ready (.ok ()), none, { sh with inner := inner.retireWaiter t sh.capacity })
  else
    match token with
    | some t => (.Pending, some t, sh)
    | none =>
        let t := sh.inner.sendWakers.insert
        (.Pending, some t.1,
          { sh with inner := { sh.inner with sendWakers := t.2,
                                             waiterQueue := sh.inner.waiterQueue ++ [t.1] } })

/-- `<Reserve as Drop>::drop`. -/
def reserveDrop (sh : ChannelShared α) (token : Option SlabToken) : ChannelShared α :=
  sh.cleanupWaiter token

/-- `SendPermit::try_send_deferred_wake`: release the reservation, then
queue the value unless the receiver is gone. -/
def permitTrySend (sh : ChannelShared α) (value : α) : Except (SendError α) Unit × ChannelShared α :=
  -- `if reserved == 0 { debug_assert!(false) } else { reserved -= 1 }`
  let inner := { sh.inner with reserved := sh.inner.reserved - 1 }
  if sh.receiverDropped then (.error (.Disconnected value), { sh with inner := inner })
  else (.ok (), { sh with inner := { inner with queue := inner.queue ++ [value] } })

/-- Release a reservation without a value and wake the next waiter: the
body of both `SendPermit::abort` and the unsent permit's `Drop`. -/
def releasePermit (sh : ChannelShared α) : ChannelShared α :=
  { sh with inner := { sh.inner with reserved := sh.inner.reserved - 1 }.takeNextSenderWaker.2 }

/-- `SendPermit::abort`. -/
def permitAbort (sh : ChannelShared α) : ChannelShared α := sh.releasePermit

/-- `<SendPermit as Drop>::drop` of a permit that was not sent. -/
def permitDrop (sh : ChannelShared α) : ChannelShared α := sh.releasePermit

/-- `Receiver::close`: drain the sender waiters and seal the channel. -/
def close (sh : ChannelShared α) : ChannelShared α :=
  if sh.receiverDropped then sh
  else { sh with inner := sh.inner.drainSenderWakers.2, receiverDropped := true }

/-- The receiver's disconnection test. -/
def disconnected (sh : ChannelShared α) : Bool := sh.senderCount == 0 || sh.receiverDropped

/-- `Receiver::try_recv`. -/
def tryRecv (sh : ChannelShared α) : Except RecvError α × ChannelShared α :=
  match sh.inner.queue with
  | value :: rest =>
      (.ok value, { sh with inner := { sh.inner with queue := rest }.takeNextSenderWaker.2 })
  | [] => (.error (if sh.disconnected then .Disconnected else .Empty), sh)

/-- `Receiver::poll_recv`. -/
def pollRecv (sh : ChannelShared α) (cancelled : Bool) :
    Poll (Except RecvError α) × ChannelShared α :=
  if cancelled then (.Ready (.error .Cancelled), sh)
  else
    match sh.inner.queue with
    | value :: rest =>
        (.Ready (.ok value), { sh with inner := { sh.inner with queue := rest }.takeNextSenderWaker.2 })
    | [] => if sh.disconnected then (.Ready (.error .Disconnected), sh) else (.Pending, sh)

/-- `Receiver::poll_recv_many`: the values appended to the buffer (their
number is the `usize` the source returns). -/
def pollRecvMany (sh : ChannelShared α) (limit : Nat) (cancelled : Bool) :
    Poll (Except RecvError (List α)) × ChannelShared α :=
  if limit = 0 then (.Ready (.ok []), sh)
  else if cancelled then (.Ready (.error .Cancelled), sh)
  else
    let target := min limit sh.inner.queue.length
    if 0 < target then
      let inner := { sh.inner with queue := sh.inner.queue.drop target }
      (.Ready (.ok (sh.inner.queue.take target)),
        { sh with inner := (inner.senderWakersForFreedSlots target sh.capacity).2 })
    else if sh.disconnected then (.Ready (.ok []), sh)
    else (.Pending, sh)

/-- `<Sender as Clone>::clone`. -/
def senderClone (sh : ChannelShared α) : ChannelShared α :=
  { sh with senderCount := sh.senderCount + 1 }

/-- `<Sender as Drop>::drop`: `fetch_sub(1)`. -/
def senderDrop (sh : ChannelShared α) : ChannelShared α :=
  { sh with senderCount := sh.senderCount - 1 }

end ChannelShared

end Asupersync
