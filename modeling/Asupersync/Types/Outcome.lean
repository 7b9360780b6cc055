/-
Four-valued task outcomes (`types/outcome.rs`).

`Outcome<T, E>` is `Ok`, `Err`, `Cancelled(reason)` or `Panicked(payload)`,
ordered by `Severity` in that order. `join` keeps the more severe of two
outcomes (the left one on ties); two cancellations merge their reasons
through `CancelReason::strengthen`, but only when the right reason is
strictly more severe. The region record folds child outcomes through
`join` (`record_close_outcome`).
-/
import Asupersync.Types.Cancel

namespace Asupersync

/-- `PanicPayload`. -/
structure PanicPayload where
  message : String
  deriving DecidableEq, Repr

/-- `Outcome<T, E>`. -/
inductive Outcome (T E : Type) where
  | Ok (value : T)
  | Err (error : E)
  | Cancelled (reason : CancelReason)
  | Panicked (payload : PanicPayload)

/-- `Severity`, by its `u8` encoding. -/
inductive Severity where
  | Ok
  | Err
  | Cancelled
  | Panicked
  deriving DecidableEq, Repr

/-- `Severity::as_u8`. -/
def Severity.asU8 : Severity → Nat
  | .Ok => 0
  | .Err => 1
  | .Cancelled => 2
  | .Panicked => 3

namespace Outcome

variable {T E : Type}

/-- `Outcome::severity`. -/
def severity : Outcome T E → Severity
  | .Ok _ => .Ok
  | .Err _ => .Err
  | .Cancelled _ => .Cancelled
  | .Panicked _ => .Panicked

/-- `Outcome::is_cancelled`. -/
def isCancelled : Outcome T E → Bool
  | .Cancelled _ => true
  | _ => false

/-- `Outcome::join`. -/
def join : Outcome T E → Outcome T E → Outcome T E
  | .Cancelled left, .Cancelled right =>
      if right.severity > left.severity then .Cancelled (left.strengthen right).2
      else .Cancelled left
  | left, right =>
      if left.severity.asU8 ≥ right.severity.asU8 then left else right

end Outcome

end Asupersync
