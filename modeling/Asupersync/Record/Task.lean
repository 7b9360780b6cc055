/-
The task record and its lifecycle operations (`record/task.rs`).

# What is modelled

`TaskRecord` keeps the fields the lifecycle operations read or write:
the authoritative `state`, the atomic `phase` cell (an `AtomicU8` read
through `TaskPhase::from_u8`), the shared `CxInner` the cancellation paths
reconcile with, `polls_remaining` and `cancel_epoch`. The operations are
the seven public transitions and the witness read-out:

- `start_running`, `request_cancel_with_budget` (through
  `request_cancel_with_budget_and_publication`), `reconcile_checkpoint_cancel`,
  `acknowledge_cancel`, `cleanup_done`, `finalize_done` (through
  `finalize_done_with_witness`) and `complete`;
- `cancel_witness`, `cancel_reason`, `cleanup_budget`.

`TaskPhaseCell::store` checks `is_valid_transition` only under
`debug_assertions`; the model stores unconditionally, as release builds
do, and the lifecycle proofs show the debug check can never fire.

Left out: the waker/trace effects envelope the cancellation paths return
(`CancellationEffects`), and the Cx fields that only feed it
(`cancel_wakers_pending`, `fast_cancel`, `runnable_publication`).

# The shape of the request path

`request_cancel_with_budget_and_publication` is three blocks inside one
Cx critical section: a prelude that strengthens the incoming reason with
the Cx reason (`cxPrelude`), the match on the state (`requestArm`), and an
epilogue that publishes the record's reason back to the Cx
(`cxPublishReason`). They are separate definitions here so each can be
cited on its own; `requestCancelWithBudgetAndPublication` composes them in
the source's order.
-/
import Asupersync.Types.Outcome

namespace Asupersync

-- ============================================================ the phases

/-- `TaskPhase`. -/
inductive TaskPhase where
  | Created
  | Running
  | CancelRequested
  | Cancelling
  | Finalizing
  | Completed
  deriving DecidableEq, Repr

namespace TaskPhase

/-- `TaskPhase::as_u8` (`self as u8`). -/
def asU8 : TaskPhase → UInt8
  | .Created => 0
  | .Running => 1
  | .CancelRequested => 2
  | .Cancelling => 3
  | .Finalizing => 4
  | .Completed => 5

/-- `TaskPhase::from_u8`. -/
def fromU8 (value : UInt8) : Option TaskPhase :=
  match value.toNat with
  | 0 => some .Created
  | 1 => some .Running
  | 2 => some .CancelRequested
  | 3 => some .Cancelling
  | 4 => some .Finalizing
  | 5 => some .Completed
  | _ => none

/-- `TaskPhase::is_valid_transition`: the transition table on the `u8`
encodings, ranges included. -/
def isValidTransition (self next : TaskPhase) : Bool :=
  match self.asU8.toNat, next.asU8.toNat with
  | 0, 1 | 0, 2 | 0, 5 => true
  | 1, 2 | 1, 5 => true
  | 2, 2 | 2, 3 | 2, 5 => true
  | 3, n => 3 ≤ n && n ≤ 5
  | 4, n => 4 ≤ n && n ≤ 5
  | _, _ => false

@[simp] theorem fromU8_asU8 (p : TaskPhase) : fromU8 p.asU8 = some p := by
  cases p <;> rfl

end TaskPhase

/-- `TaskPhaseCell`: the `AtomicU8` behind cross-thread phase reads. -/
structure TaskPhaseCell where
  inner : UInt8
  deriving DecidableEq, Repr

namespace TaskPhaseCell

/-- `TaskPhaseCell::new`. -/
def new (phase : TaskPhase) : TaskPhaseCell := ⟨phase.asU8⟩

/-- `TaskPhaseCell::load`: an undecodable byte reads as `Completed`. -/
def load (cell : TaskPhaseCell) : TaskPhase :=
  (TaskPhase.fromU8 cell.inner).getD .Completed

/-- `TaskPhaseCell::store`, as compiled without `debug_assertions`. -/
def store (_cell : TaskPhaseCell) (phase : TaskPhase) : TaskPhaseCell := ⟨phase.asU8⟩

@[simp] theorem load_new (p : TaskPhase) : (new p).load = p := by
  simp [new, load]

@[simp] theorem load_store (cell : TaskPhaseCell) (p : TaskPhase) :
    (cell.store p).load = p := by
  simp [store, load]

end TaskPhaseCell

-- ============================================================= the state

/-- `TaskState`; `E` is the task's error type (`TaskOutcome = Outcome<(), E>`). -/
inductive TaskState (E : Type) where
  | Created
  | Running
  | CancelRequested (reason : CancelReason) (cleanupBudget : Budget)
  | Cancelling (reason : CancelReason) (cleanupBudget : Budget)
  | Finalizing (reason : CancelReason) (cleanupBudget : Budget)
  | Completed (outcome : Outcome Unit E)

namespace TaskState

variable {E : Type}

/-- `TaskState::is_terminal`. -/
def isTerminal : TaskState E → Bool
  | .Completed _ => true
  | _ => false

/-- The coarse phase a state belongs to: the constructor, forgetting its
data (what `state_name` prints and the phase cell is meant to mirror). -/
def coarsePhase : TaskState E → TaskPhase
  | .Created => .Created
  | .Running => .Running
  | .CancelRequested .. => .CancelRequested
  | .Cancelling .. => .Cancelling
  | .Finalizing .. => .Finalizing
  | .Completed _ => .Completed

end TaskState

/-- The part of the shared `CxInner` the lifecycle operations write. -/
structure CxInner where
  cancelRequested : Bool
  cancelReason : Option CancelReason
  budget : Budget
  budgetBaseline : Budget

/-- Install `b` as the Cx's live and baseline budget. -/
def CxInner.setBudget (g : CxInner) (b : Budget) : CxInner :=
  { g with budget := b, budgetBaseline := b }

/-- `TaskRecord`, restricted to the lifecycle fields. -/
structure TaskRecord (E : Type) where
  id : TaskId
  owner : RegionId
  state : TaskState E
  phase : TaskPhaseCell
  cxInner : Option CxInner
  pollsRemaining : Nat
  cancelEpoch : Nat

namespace TaskRecord

variable {E : Type}

/-- `TaskRecord::new`. -/
def new (id : TaskId) (owner : RegionId) (budget : Budget) : TaskRecord E :=
  { id := id, owner := owner, state := .Created, phase := TaskPhaseCell.new .Created,
    cxInner := none, pollsRemaining := budget.pollQuota, cancelEpoch := 0 }

/-- The epoch bump of a first cancel request:
`if epoch == 0 { 1 } else { epoch.saturating_add(1) }`. -/
def bumpEpoch (epoch : Nat) : Nat :=
  if epoch = 0 then 1 else min (epoch + 1) u64Max

/-- `TaskRecord::cancel_reason`. -/
def cancelReason (t : TaskRecord E) : Option CancelReason :=
  match t.state with
  | .CancelRequested r _ | .Cancelling r _ | .Finalizing r _ => some r
  | _ => none

/-- `TaskRecord::cleanup_budget`. -/
def cleanupBudget (t : TaskRecord E) : Option Budget :=
  match t.state with
  | .CancelRequested _ b | .Cancelling _ b | .Finalizing _ b => some b
  | _ => none

-- ============================================================ start_running

/-- `TaskRecord::start_running`. -/
def startRunning (t : TaskRecord E) : Bool × TaskRecord E :=
  match t.state with
  | .Created => (true, { t with state := .Running, phase := t.phase.store .Running })
  | _ => (false, t)

-- ================================================================= request

/-- The prelude of the request path: under the Cx lock the incoming reason
is strengthened by the Cx's reason (the budget follows when it changed it),
and the Cx is marked cancel-requested. -/
def cxPrelude (cx : Option CxInner) (reason : CancelReason) (cleanupBudget : Budget) :
    CancelReason × Budget × Option CxInner :=
  match cx with
  | none => (reason, cleanupBudget, none)
  | some g =>
      match g.cancelReason with
      | some cxReason =>
          let res := reason.strengthen cxReason
          (res.2,
            if res.1 then cleanupBudget.combineUntraced cxReason.cleanupBudget else cleanupBudget,
            some { g with cancelRequested := true })
      | none => (reason, cleanupBudget, some { g with cancelRequested := true })

/-- The match on the state in the request path. Returns
`(newly_cancelled, changed)`, the reason to publish to the Cx and the
record. -/
def requestArm (t : TaskRecord E) (reason : CancelReason) (cleanupBudget : Budget) :
    (Bool × Bool) × Option CancelReason × TaskRecord E :=
  match t.state with
  | .CancelRequested existing existingBudget =>
      let phase := t.phase.store .CancelRequested
      let res := existing.strengthen reason
      let combined := existingBudget.combineUntraced cleanupBudget
      ((false, res.1 || decide (combined ≠ existingBudget)), some res.2,
        { t with state := .CancelRequested res.2 combined, phase := phase })
  | .Cancelling existing b =>
      let phase := t.phase.store .Cancelling
      let res := existing.strengthen reason
      let newBudget := b.combineUntraced cleanupBudget
      ((false, res.1 || decide (newBudget ≠ b)), some res.2,
        { t with state := .Cancelling res.2 newBudget, phase := phase,
                 cxInner := t.cxInner.map (·.setBudget newBudget),
                 pollsRemaining := min t.pollsRemaining newBudget.pollQuota })
  | .Finalizing existing b =>
      let phase := t.phase.store .Finalizing
      let res := existing.strengthen reason
      let newBudget := b.combineUntraced cleanupBudget
      ((false, res.1 || decide (newBudget ≠ b)), some res.2,
        { t with state := .Finalizing res.2 newBudget, phase := phase,
                 cxInner := t.cxInner.map (·.setBudget newBudget),
                 pollsRemaining := min t.pollsRemaining newBudget.pollQuota })
  | .Created | .Running =>
      ((true, true), some reason,
        { t with cancelEpoch := bumpEpoch t.cancelEpoch,
                 state := .CancelRequested reason cleanupBudget,
                 phase := t.phase.store .CancelRequested })
  | .Completed _ => ((false, false), none, t)

/-- The epilogue of the request path: the record's reason is strengthened
into (or installed as) the Cx reason. -/
def cxPublishReason (cx : Option CxInner) (updated : Option CancelReason) :
    Option CxInner :=
  match updated, cx with
  | some reason, some g =>
      match g.cancelReason with
      | some existing => some { g with cancelReason := some (existing.strengthen reason).2 }
      | none => some { g with cancelReason := some reason }
  | _, _ => cx

/-- `TaskRecord::request_cancel_with_budget_and_publication`, returning
`(newly_cancelled, changed)`. -/
def requestCancelWithBudgetAndPublication (t : TaskRecord E) (reason : CancelReason)
    (cleanupBudget : Budget) : (Bool × Bool) × TaskRecord E :=
  if t.state.isTerminal then ((false, false), t)
  else
    let pre := cxPrelude t.cxInner reason cleanupBudget
    let arm := requestArm { t with cxInner := pre.2.2 } pre.1 pre.2.1
    (arm.1, { arm.2.2 with cxInner := cxPublishReason arm.2.2.cxInner arm.2.1 })

/-- `TaskRecord::request_cancel_with_budget`: whether the request was new. -/
def requestCancelWithBudget (t : TaskRecord E) (reason : CancelReason)
    (cleanupBudget : Budget) : Bool × TaskRecord E :=
  let res := t.requestCancelWithBudgetAndPublication reason cleanupBudget
  (res.1.1, res.2)

-- ============================================================== reconcile

/-- The cancel-state arm of `reconcile_checkpoint_cancel`: both reasons
strengthen each other and the budgets meet, in place. -/
def reconcileReason (reason existing : CancelReason) (existingBudget : Budget) :
    Bool × CancelReason × Budget :=
  let cleanupBudget := reason.cleanupBudget
  let won := reason.strengthen existing
  let cleanupBudget' :=
    if won.1 then cleanupBudget.combineUntraced existing.cleanupBudget else cleanupBudget
  let res := existing.strengthen won.2
  let combined := existingBudget.combineUntraced cleanupBudget'
  (res.1 || decide (combined ≠ existingBudget), res.2, combined)

/-- The tail of `reconcile_checkpoint_cancel`: a task in cleanup or
finalization publishes its budget to the Cx and clamps its poll count. -/
def syncCleanupBudget (t : TaskRecord E) : TaskRecord E :=
  match t.state with
  | .Cancelling _ b | .Finalizing _ b =>
      { t with cxInner := t.cxInner.map (·.setBudget b),
               pollsRemaining := min t.pollsRemaining b.pollQuota }
  | _ => t

/-- `TaskRecord::reconcile_checkpoint_cancel`. -/
def reconcileCheckpointCancel (t : TaskRecord E) (reason : CancelReason) :
    Bool × TaskRecord E :=
  if t.state.isTerminal then (false, t)
  else
    let res : Bool × TaskRecord E :=
      match t.state with
      | .Created | .Running =>
          (true, { t with cancelEpoch := bumpEpoch t.cancelEpoch,
                          state := .CancelRequested reason reason.cleanupBudget,
                          phase := t.phase.store .CancelRequested })
      | .CancelRequested existing b =>
          let r := reconcileReason reason existing b
          (r.1, { t with state := .CancelRequested r.2.1 r.2.2 })
      | .Cancelling existing b =>
          let r := reconcileReason reason existing b
          (r.1, { t with state := .Cancelling r.2.1 r.2.2 })
      | .Finalizing existing b =>
          let r := reconcileReason reason existing b
          (r.1, { t with state := .Finalizing r.2.1 r.2.2 })
      | .Completed _ => (false, t)
    (res.1, syncCleanupBudget res.2)

-- ================================================== the cleanup transitions

/-- `TaskRecord::acknowledge_cancel`. -/
def acknowledgeCancel (t : TaskRecord E) : Option CancelReason × TaskRecord E :=
  match t.state with
  | .CancelRequested reason budget =>
      (some reason,
        { t with cxInner := t.cxInner.map (·.setBudget budget),
                 pollsRemaining := budget.pollQuota,
                 state := .Cancelling reason budget,
                 phase := t.phase.store .Cancelling })
  | _ => (none, t)

/-- `TaskRecord::cleanup_done`. -/
def cleanupDone (t : TaskRecord E) : Bool × TaskRecord E :=
  match t.state with
  | .Cancelling reason budget =>
      (true, { t with state := .Finalizing reason budget, phase := t.phase.store .Finalizing })
  | _ => (false, t)

/-- `TaskRecord::finalize_done_with_witness`. -/
def finalizeDoneWithWitness (t : TaskRecord E) : Option CancelWitness × TaskRecord E :=
  match t.state with
  | .Finalizing reason _ =>
      (some ⟨t.id, t.owner, t.cancelEpoch, .Completed, reason⟩,
        { t with state := .Completed (.Cancelled reason), phase := t.phase.store .Completed })
  | _ => (none, t)

/-- `TaskRecord::finalize_done`. -/
def finalizeDone (t : TaskRecord E) : Bool × TaskRecord E :=
  let res := t.finalizeDoneWithWitness
  (res.1.isSome, res.2)

-- ================================================================ complete

/-- The outcome `complete` records: inside a cancellation, success and
error become the cancellation, and a cancelled outcome strengthens the
recorded reason. -/
def completionOutcome (state : TaskState E) (outcome : Outcome Unit E) : Outcome Unit E :=
  match state, outcome with
  | .CancelRequested reason _, .Ok _ | .Cancelling reason _, .Ok _
  | .Finalizing reason _, .Ok _ => .Cancelled reason
  | .CancelRequested reason _, .Err _ | .Cancelling reason _, .Err _
  | .Finalizing reason _, .Err _ => .Cancelled reason
  | .CancelRequested reason _, .Cancelled o | .Cancelling reason _, .Cancelled o
  | .Finalizing reason _, .Cancelled o => .Cancelled (reason.strengthen o).2
  | _, outcome => outcome

/-- `TaskRecord::complete`. -/
def complete (t : TaskRecord E) (outcome : Outcome Unit E) : Bool × TaskRecord E :=
  if t.state.isTerminal then (false, t)
  else
    let outcome := completionOutcome t.state outcome
    let epoch := if outcome.isCancelled && t.cancelEpoch == 0 then 1 else t.cancelEpoch
    (true, { t with cancelEpoch := epoch, state := .Completed outcome,
                    phase := t.phase.store .Completed })

-- ============================================================== witnesses

/-- `TaskRecord::cancel_witness`. -/
def cancelWitness (t : TaskRecord E) : Option CancelWitness :=
  if t.cancelEpoch = 0 then none
  else
    let observed : Option (CancelPhase × CancelReason) :=
      match t.state with
      | .CancelRequested reason _ => some (.Requested, reason)
      | .Cancelling reason _ => some (.Cancelling, reason)
      | .Finalizing reason _ => some (.Finalizing, reason)
      | .Completed (.Cancelled reason) => some (.Completed, reason)
      | _ => none
    observed.map fun v => ⟨t.id, t.owner, t.cancelEpoch, v.1, v.2⟩

-- ========================================================= the operations

/-- The lifecycle operations a caller can apply to a task record. -/
inductive TaskOp (E : Type) where
  | startRunning
  | requestCancelWithBudget (reason : CancelReason) (cleanupBudget : Budget)
  | reconcileCheckpointCancel (reason : CancelReason)
  | acknowledgeCancel
  | cleanupDone
  | finalizeDone
  | complete (outcome : Outcome Unit E)

/-- Apply one operation, keeping the record and dropping the return value. -/
def apply (t : TaskRecord E) : TaskOp E → TaskRecord E
  | .startRunning => t.startRunning.2
  | .requestCancelWithBudget reason budget => (t.requestCancelWithBudget reason budget).2
  | .reconcileCheckpointCancel reason => (t.reconcileCheckpointCancel reason).2
  | .acknowledgeCancel => t.acknowledgeCancel.2
  | .cleanupDone => t.cleanupDone.2
  | .finalizeDone => t.finalizeDone.2
  | .complete outcome => (t.complete outcome).2

end TaskRecord

end Asupersync
