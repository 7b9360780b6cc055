/-
The MPSC channel together with its clients: the handles they hold and the
history of values through the channel.

# The clients

A `Sender` handle can be cloned and dropped; `Sender::reserve` makes a
`Reserve` future that holds its waiter token between polls; a
`SendPermit` is consumed by `send`, `abort` or its `Drop`. Ownership
rules that Rust enforces become guards of `step`: a call names a live
handle, a completed future or a consumed permit is gone, and a sender is
dropped only when no future or permit borrows it (both hold
`&'a Sender<T>`). A call whose guard fails is one the program cannot
make, and `step` returns `none`.

# The history

`committed` lists the values a commit accepted, in commit order;
`delivered` the values handed to the receiver, in order; `evicted` the
values `send_evict_oldest_where` returned; `granted` counts the permits
handed out; `disconnectSeen` records that a receive reported
`Disconnected`. They are written by `step` from the call's result and
read by no channel operation.
-/
import Asupersync.Channel.Mpsc

namespace Asupersync

/-- A `Reserve` future: its handle, the sender it borrows, and its token. -/
structure ReserveFuture where
  id : Nat
  sender : Nat
  waiterToken : Option SlabToken
  deriving DecidableEq, Repr

/-- A `SendPermit`: its handle and the sender it borrows. -/
structure PermitHandle where
  id : Nat
  sender : Nat
  deriving DecidableEq, Repr

/-- The channel, its clients' handles, and the history. -/
structure MpscSystem (α : Type) where
  shared : ChannelShared α
  senders : List Nat
  reserves : List ReserveFuture
  permits : List PermitHandle
  nextHandle : Nat
  committed : List α
  delivered : List α
  evicted : List α
  granted : Nat
  disconnectSeen : Bool

/-- A call on the channel. -/
inductive MpscOp (α : Type) where
  | tryReserve (sender : Nat)
  | trySend (sender : Nat) (value : α)
  | sendEvictOldestWhere (sender : Nat) (value : α) (predicate : α → Bool)
  | reserve (sender : Nat)
  | reservePoll (future : Nat) (cancelled : Bool)
  | reserveDrop (future : Nat)
  | permitSend (permit : Nat) (value : α)
  | permitAbort (permit : Nat)
  | permitDrop (permit : Nat)
  | tryRecv
  | pollRecv (cancelled : Bool)
  | pollRecvMany (limit : Nat) (cancelled : Bool)
  | close
  | senderClone (sender : Nat)
  | senderDrop (sender : Nat)

/-- What a call returns; a new permit, future or sender is named by its handle. -/
inductive MpscOutput (α : Type) where
  | permit (result : Except (SendError Unit) Nat)
  | send (result : Except (SendError α) Unit)
  | evict (result : Except (SendError α) (Option α))
  | reserve (result : Poll (Except (SendError Unit) Nat))
  | recv (result : Except RecvError α)
  | pollRecv (result : Poll (Except RecvError α))
  | pollRecvMany (result : Poll (Except RecvError (List α)))
  | handle (id : Nat)
  | unit

/-- The value a call hands to the channel, if any. -/
def MpscOp.value {α : Type} : MpscOp α → Option α
  | .trySend _ v | .sendEvictOldestWhere _ v _ | .permitSend _ v => some v
  | _ => none

/-- The error a failing send returns. -/
def MpscOutput.sendError {α : Type} : MpscOutput α → Option (SendError α)
  | .send (.error e) | .evict (.error e) => some e
  | _ => none

namespace MpscSystem

variable {α : Type}

/-- `channel(capacity)` with its one sender, handle `0`. -/
def init (capacity : Nat) : MpscSystem α :=
  ⟨.channel capacity, [0], [], [], 1, [], [], [], 0, false⟩

/-- Hand out a new permit borrowing `sender`. -/
def mint (s : MpscSystem α) (sender : Nat) : MpscSystem α :=
  { s with permits := s.permits ++ [⟨s.nextHandle, sender⟩], nextHandle := s.nextHandle + 1,
           granted := s.granted + 1 }

/-- Record a committed value. -/
def commit (s : MpscSystem α) (value : α) : MpscSystem α :=
  { s with committed := s.committed ++ [value] }

/-- Record values handed to the receiver. -/
def deliver (s : MpscSystem α) (values : List α) : MpscSystem α :=
  { s with delivered := s.delivered ++ values }

/-- The live future with this handle. -/
def future? (s : MpscSystem α) (future : Nat) : Option ReserveFuture :=
  s.reserves.find? (·.id == future)

/-- The live permit with this handle. -/
def permit? (s : MpscSystem α) (permit : Nat) : Option PermitHandle :=
  s.permits.find? (·.id == permit)

/-- Consume the permit with this handle. -/
def dropPermit (s : MpscSystem α) (permit : Nat) : MpscSystem α :=
  { s with permits := s.permits.filter (·.id != permit) }

/-- Complete or drop the future with this handle. -/
def dropFuture (s : MpscSystem α) (future : Nat) : MpscSystem α :=
  { s with reserves := s.reserves.filter (·.id != future) }

/-- Whether a future or a permit borrows `sender`. -/
def borrowed (s : MpscSystem α) (sender : Nat) : Bool :=
  s.reserves.any (·.sender == sender) || s.permits.any (·.sender == sender)

/-- One call, atomic under the channel mutex. -/
def step (s : MpscSystem α) : MpscOp α → Option (MpscOutput α × MpscSystem α)
  | .tryReserve sender =>
      if s.senders.contains sender then
        let r := s.shared.tryReserve
        match r.1 with
        | .ok () => some (.permit (.ok s.nextHandle), { s with shared := r.2 }.mint sender)
        | .error e => some (.permit (.error e), { s with shared := r.2 })
      else none
  | .trySend sender value =>
      if s.senders.contains sender then
        let r := s.shared.trySend value
        match r.1 with
        | .ok () => some (.send r.1, { s with shared := r.2 }.commit value)
        | .error _ => some (.send r.1, { s with shared := r.2 })
      else none
  | .sendEvictOldestWhere sender value predicate =>
      if s.senders.contains sender then
        let r := s.shared.sendEvictOldestWhere value predicate
        match r.1 with
        | .ok evicted =>
            some (.evict r.1, { { s with shared := r.2 }.commit value with
              evicted := s.evicted ++ evicted.toList })
        | .error _ => some (.evict r.1, { s with shared := r.2 })
      else none
  | .reserve sender =>
      if s.senders.contains sender then
        some (.handle s.nextHandle, { s with reserves := s.reserves ++ [⟨s.nextHandle, sender, none⟩],
                                             nextHandle := s.nextHandle + 1 })
      else none
  | .reservePoll future cancelled =>
      match s.future? future with
      | none => none
      | some f =>
          let r := s.shared.reservePoll f.waiterToken cancelled
          match r.1 with
          | .Ready (.ok ()) =>
              some (.reserve (.Ready (.ok s.nextHandle)),
                ({ s with shared := r.2.2 }.dropFuture future).mint f.sender)
          | .Ready (.error e) =>
              some (.reserve (.Ready (.error e)), { s with shared := r.2.2 }.dropFuture future)
          | .Pending =>
              some (.reserve .Pending,
                { s with shared := r.2.2,
                         reserves := s.reserves.map fun g =>
                           if g.id = future then { g with waiterToken := r.2.1 } else g })
  | .reserveDrop future =>
      match s.future? future with
      | none => none
      | some f => some (.unit, { s with shared := s.shared.reserveDrop f.waiterToken }.dropFuture future)
  | .permitSend permit value =>
      match s.permit? permit with
      | none => none
      | some _ =>
          let r := s.shared.permitTrySend value
          match r.1 with
          | .ok () => some (.send r.1, ({ s with shared := r.2 }.dropPermit permit).commit value)
          | .error _ => some (.send r.1, { s with shared := r.2 }.dropPermit permit)
  | .permitAbort permit =>
      match s.permit? permit with
      | none => none
      | some _ => some (.unit, { s with shared := s.shared.permitAbort }.dropPermit permit)
  | .permitDrop permit =>
      match s.permit? permit with
      | none => none
      | some _ => some (.unit, { s with shared := s.shared.permitDrop }.dropPermit permit)
  | .tryRecv =>
      let r := s.shared.tryRecv
      match r.1 with
      | .ok value => some (.recv r.1, { s with shared := r.2 }.deliver [value])
      | .error .Disconnected => some (.recv r.1, { s with shared := r.2, disconnectSeen := true })
      | .error _ => some (.recv r.1, { s with shared := r.2 })
  | .pollRecv cancelled =>
      let r := s.shared.pollRecv cancelled
      match r.1 with
      | .Ready (.ok value) => some (.pollRecv r.1, { s with shared := r.2 }.deliver [value])
      | .Ready (.error .Disconnected) =>
          some (.pollRecv r.1, { s with shared := r.2, disconnectSeen := true })
      | _ => some (.pollRecv r.1, { s with shared := r.2 })
  | .pollRecvMany limit cancelled =>
      let r := s.shared.pollRecvMany limit cancelled
      match r.1 with
      | .Ready (.ok values) => some (.pollRecvMany r.1, { s with shared := r.2 }.deliver values)
      | _ => some (.pollRecvMany r.1, { s with shared := r.2 })
  | .close => some (.unit, { s with shared := s.shared.close })
  | .senderClone sender =>
      if s.senders.contains sender then
        some (.handle s.nextHandle, { s with shared := s.shared.senderClone,
                                             senders := s.senders ++ [s.nextHandle],
                                             nextHandle := s.nextHandle + 1 })
      else none
  | .senderDrop sender =>
      if s.senders.contains sender && !s.borrowed sender then
        some (.unit, { s with shared := s.shared.senderDrop, senders := s.senders.erase sender })
      else none

end MpscSystem

end Asupersync
