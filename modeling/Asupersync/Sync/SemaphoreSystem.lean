/-
The semaphore together with its clients: the acquire futures and permits
they hold, and the history of permits through it.

# The clients

`Semaphore::acquire` makes an `AcquireFuture`, which is polled (its
context cancelled or not, with the polling task's waker) and dropped;
`try_acquire` and a ready poll hand out a `SemaphorePermit`, which is
dropped, committed or forgotten. A call names a live future or permit
(Rust's ownership rules), and `step` returns `none` for a call that names
none, as it does for a panic of the semaphore. A future stays until it
is dropped, completed or not.

# The history

`added` sums what `add_permits` was called with, `forgotten` the counts
of forgotten permits, and `saturated` the permits `add_permits` lost to
saturating at `usize::MAX`, whether a client or a dropped permit called
it. `nextRegistration` numbers the registrations polls make. They are
written by `step` and read by no semaphore operation.
-/
import Asupersync.Sync.Semaphore

namespace Asupersync

/-- An `AcquireFuture` a client holds, under its handle. -/
structure LiveFuture where
  id : Nat
  future : AcquireFuture
  deriving DecidableEq, Repr

/-- A `SemaphorePermit` a client holds, under its handle, and its count. -/
structure LivePermit where
  id : Nat
  count : Nat
  deriving DecidableEq, Repr

/-- The semaphore, its clients' handles, and the history. -/
structure SemaphoreSystem (σ : Type) where
  semaphore : Semaphore σ
  futures : List LiveFuture
  permits : List LivePermit
  nextHandle : Nat
  nextRegistration : Nat
  added : Nat
  forgotten : Nat
  saturated : Nat

/-- A call on the semaphore or on a handle. -/
inductive SemaphoreOp (ω : Type) where
  | tryAcquire (count : Nat)
  | acquire (count : Nat)
  | poll (future : Nat) (cancelled : Bool) (waker : ω)
  | futureDrop (future : Nat)
  | permitDrop (permit : Nat)
  | permitCommit (permit : Nat)
  | permitForget (permit : Nat)
  | addPermits (count : Nat)
  | close

/-- What a call returns; a new permit or future is named by its handle. -/
inductive SemaphoreResult where
  | tryAcquire (result : Except TryAcquireError Nat)
  | poll (result : Poll (Except AcquireError Nat))
  | handle (id : Nat)
  | unit
  deriving DecidableEq, Repr

namespace SemaphoreSystem

variable {σ ω : Type} (S : MutSlab σ (Waiter ω))

/-- `Semaphore::new(permits)`, with no clients. -/
def init (permits : Nat) : SemaphoreSystem σ := ⟨Semaphore.new S permits, [], [], 0, 0, 0, 0, 0⟩

/-- The semaphore's state under its lock. -/
def state (s : SemaphoreSystem σ) : SemaphoreState σ := s.semaphore.state

/-- Set the semaphore's state. -/
def withState (s : SemaphoreSystem σ) (st : SemaphoreState σ) : SemaphoreSystem σ :=
  { s with semaphore := { s.semaphore with state := st } }

/-- The permits `add_permits(count)` loses to saturation from `permits`. -/
def overflow (st : SemaphoreState σ) (count : Nat) : Nat :=
  if st.closed then 0 else st.permits + count - usizeMax

/-- Hand out a permit of `count`. -/
def mint (s : SemaphoreSystem σ) (count : Nat) : SemaphoreSystem σ :=
  { s with permits := s.permits ++ [⟨s.nextHandle, count⟩], nextHandle := s.nextHandle + 1 }

/-- The live future with this handle. -/
def future? (s : SemaphoreSystem σ) (future : Nat) : Option AcquireFuture :=
  (s.futures.find? (·.id == future)).map (·.future)

/-- The live permit with this handle. -/
def permit? (s : SemaphoreSystem σ) (permit : Nat) : Option LivePermit :=
  s.permits.find? (·.id == permit)

/-- Put back the future with this handle as a poll left it. -/
def setFuture (s : SemaphoreSystem σ) (future : Nat) (f : AcquireFuture) : SemaphoreSystem σ :=
  { s with futures := s.futures.map fun g => if g.id = future then { g with future := f } else g }

/-- Drop the future with this handle. -/
def dropFuture (s : SemaphoreSystem σ) (future : Nat) : SemaphoreSystem σ :=
  { s with futures := s.futures.filter (·.id != future) }

/-- Consume the permit with this handle. -/
def dropPermit (s : SemaphoreSystem σ) (permit : Nat) : SemaphoreSystem σ :=
  { s with permits := s.permits.filter (·.id != permit) }

/-- Give back a permit's count (`Drop` and `commit`). -/
def release (s : SemaphoreSystem σ) (p : LivePermit) :
    Option ((SemaphoreResult × List (RegisteredWaker ω)) × SemaphoreSystem σ) :=
  let r := s.state.dropPermit S p.count
  some ((.unit, r.1.toList),
    { (s.withState r.2).dropPermit p.id with
      saturated := s.saturated + if p.count > 0 then overflow s.state p.count else 0 })

variable [DecidableEq ω]

/-- One call, atomic under the state lock: its result and the wakers it
wakes, and the system after it. -/
def step (s : SemaphoreSystem σ) : SemaphoreOp ω →
    Option ((SemaphoreResult × List (RegisteredWaker ω)) × SemaphoreSystem σ)
  | .tryAcquire count =>
      let r := s.state.tryAcquire count
      match r.1 with
      | .ok c => some ((.tryAcquire (.ok s.nextHandle), []), (s.withState r.2).mint c)
      | .error e => some ((.tryAcquire (.error e), []), s.withState r.2)
  | .acquire count =>
      some ((.handle s.nextHandle, []),
        { s with futures := s.futures ++ [⟨s.nextHandle, ⟨count, none, false⟩⟩],
                 nextHandle := s.nextHandle + 1 })
  | .poll future cancelled waker =>
      match s.future? future with
      | none => none
      | some f =>
          (s.state.poll S f cancelled waker s.nextRegistration).map fun r =>
            let s' := { (s.withState r.2.2.1).setFuture future r.2.1 with
                        nextRegistration := s.nextRegistration + 1 }
            match r.1 with
            | .Ready (.ok c) => ((.poll (.Ready (.ok s'.nextHandle)), r.2.2.2), s'.mint c)
            | result => ((.poll result, r.2.2.2), s')
  | .futureDrop future =>
      match s.future? future with
      | none => none
      | some f =>
          (s.state.dropFuture S f).map fun r => ((.unit, r.1.toList), (s.withState r.2).dropFuture future)
  | .permitDrop permit =>
      match s.permit? permit with
      | none => none
      | some p => s.release S p
  | .permitCommit permit =>
      match s.permit? permit with
      | none => none
      | some p => s.release S p
  | .permitForget permit =>
      match s.permit? permit with
      | none => none
      | some p => some ((.unit, []), { s.dropPermit permit with forgotten := s.forgotten + p.count })
  | .addPermits count =>
      let r := s.state.addPermits S count
      some ((.unit, r.1.toList),
        { s.withState r.2 with added := s.added + count,
                               saturated := s.saturated + if count > 0 then overflow s.state count else 0 })
  | .close =>
      let r := s.state.close S
      some ((.unit, r.1), s.withState r.2)

end SemaphoreSystem

end Asupersync
