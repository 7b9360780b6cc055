/-
The obligation record (`record/obligation.rs`): a two-phase obligation
that is `Reserved` until it is resolved, exactly once, by a commit, an
abort or a leak.

# What is modelled

`ObligationRecord` keeps its identity (id, kind, holder, region), its
state, the description, the reservation and resolution times and the abort
reason. `resolve` asserts that the record is pending; here that assertion
is a hypothesis of `resolve`, so a resolution of a resolved record cannot
be written down. The ledger discharges it from the `is_pending` test it
makes first.

Left out: the acquisition `SourceLocation` and backtrace, which nothing
reads, and the tracing in `resolve_with`.
-/
import Asupersync.Types.Basic

namespace Asupersync

/-- `ObligationKind`. -/
inductive ObligationKind where
  | SendPermit
  | Ack
  | Lease
  | IoOp
  | SemaphorePermit
  | Transaction
  deriving DecidableEq, Repr

/-- `ObligationAbortReason`. -/
inductive ObligationAbortReason where
  | Cancel
  | Error
  | Explicit
  deriving DecidableEq, Repr

/-- `ObligationState`. -/
inductive ObligationState where
  | Reserved
  | Committed
  | Aborted
  | Leaked
  deriving DecidableEq, Repr

/-- `ObligationState::is_leaked`. -/
def ObligationState.isLeaked : ObligationState → Bool
  | .Leaked => true
  | _ => false

/-- `ObligationResolution`. -/
inductive ObligationResolution where
  | Commit
  | Abort (reason : ObligationAbortReason)
  | Leak
  deriving DecidableEq, Repr

namespace ObligationResolution

/-- `ObligationResolution::state`. -/
def state : ObligationResolution → ObligationState
  | .Commit => .Committed
  | .Abort _ => .Aborted
  | .Leak => .Leaked

/-- `ObligationResolution::abort_reason`. -/
def abortReason : ObligationResolution → Option ObligationAbortReason
  | .Abort reason => some reason
  | .Commit | .Leak => none

theorem state_ne_reserved (r : ObligationResolution) : r.state ≠ .Reserved := by
  cases r <;> simp [state]

end ObligationResolution

/-- `ObligationRecord`. -/
structure ObligationRecord where
  id : ObligationId
  kind : ObligationKind
  holder : TaskId
  region : RegionId
  state : ObligationState
  description : Option String
  reservedAt : Time
  resolvedAt : Option Time
  abortReason : Option ObligationAbortReason
  deriving DecidableEq, Repr

namespace ObligationRecord

/-- `ObligationRecord::new_with_context`. -/
def newWithContext (id : ObligationId) (kind : ObligationKind) (holder : TaskId)
    (region : RegionId) (reservedAt : Time) : ObligationRecord :=
  ⟨id, kind, holder, region, .Reserved, none, reservedAt, none, none⟩

/-- `ObligationRecord::with_description_and_context`. -/
def withDescriptionAndContext (id : ObligationId) (kind : ObligationKind) (holder : TaskId)
    (region : RegionId) (reservedAt : Time) (description : String) : ObligationRecord :=
  ⟨id, kind, holder, region, .Reserved, some description, reservedAt, none, none⟩

/-- `ObligationRecord::is_pending`. -/
def isPending (r : ObligationRecord) : Bool := r.state == .Reserved

/-- `ObligationRecord::is_leaked`. -/
def isLeaked (r : ObligationRecord) : Bool := r.state.isLeaked

/-- `ObligationRecord::resolve`, its `assert!(self.is_pending())` taken as a
hypothesis. The duration is `Time::duration_since`, which saturates. -/
def resolve (r : ObligationRecord) (now : Time) (resolution : ObligationResolution)
    (_pending : r.isPending = true) : Nat × ObligationRecord :=
  (now - r.reservedAt,
    { r with state := resolution.state, resolvedAt := some now,
             abortReason := resolution.abortReason })

/-- `ObligationRecord::resolve_with`: `resolve` and a trace event. -/
def resolveWith (r : ObligationRecord) (now : Time) (resolution : ObligationResolution)
    (pending : r.isPending = true) : Nat × ObligationRecord :=
  r.resolve now resolution pending

theorem isPending_iff (r : ObligationRecord) : r.isPending = true ↔ r.state = .Reserved := by
  simp [isPending]

@[simp] theorem resolveWith_state (r : ObligationRecord) (now : Time)
    (resolution : ObligationResolution) (h : r.isPending = true) :
    (r.resolveWith now resolution h).2.state = resolution.state := rfl

@[simp] theorem resolveWith_region (r : ObligationRecord) (now : Time)
    (resolution : ObligationResolution) (h : r.isPending = true) :
    (r.resolveWith now resolution h).2.region = r.region := rfl

end ObligationRecord

end Asupersync
