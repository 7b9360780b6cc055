/-
The obligation ledger (`obligation/ledger.rs`): the registry that mints
obligation IDs, resolves obligations by token or by ID, keeps running
statistics and fences off regions that have been finalized.

# What is modelled

`ObligationLedger` keeps the record map (a `BTreeMap` keyed by
`ObligationId`, modelled by `OrdMap`), the slot cursor `next_index` and
`generation` (both `u32`), the statistics and the set of finalized
regions. Every public mutator is modelled, with the private helpers it
goes through under their own names: `pending_record_for_id_mut`,
`record_for_token_mut`, `resolve_one_pending`, `finish_resolution`,
`resolve_token`, `resolve_id` and `acquire_internal`.

# Returning, failing and panicking

A call that returns a `Result` returns `Except LedgerError _` here,
always with the ledger it leaves: the helpers mutate through `&mut self`
before a later `?` can fail, so an `Err` can come with a changed ledger.
A call that panics (an `unwrap_or_else(|err| panic!(..))`, an
`assert!` or an `expect`) returns `.error` of a `LedgerPanic` naming
the panic; a panic returns no ledger.

`finalized_regions` is a `BTreeSet` that is only inserted into, tested
and cleared, so a list with `List.insert` models it. The `u64` statistics
are `Nat`: they count records of one generation, which the `u32` index
bounds. `debug_assert!(summary.is_complete())` in
`abort_pending_for_region` is a debug-only check and is not modelled as a
panic.
-/
import Asupersync.Record.Obligation
import Asupersync.Store.OrdMap

namespace Asupersync

/-- `u32::checked_add`. -/
def checkedAdd (a b : UInt32) : Option UInt32 :=
  if a.toNat + b.toNat < 2 ^ 32 then some (a + b) else none

theorem toNat_of_checkedAdd {a b c : UInt32} (h : checkedAdd a b = some c) :
    c.toNat = a.toNat + b.toNat := by
  unfold checkedAdd at h
  split at h
  · cases h
    rw [UInt32.toNat_add]
    exact Nat.mod_eq_of_lt ‹_›
  · cases h

/-- `u32::MAX`. -/
def u32MaxU32 : UInt32 := 4294967295

-- ================================================================ errors

/-- `LedgerError`. -/
inductive LedgerError where
  | RegionFinalized (region : RegionId) (obligation : ObligationId)
  | AlreadyResolved (obligation : ObligationId) (state : ObligationState)
  | NotFound (obligation : ObligationId)
  | NotPending (obligation : ObligationId) (state : ObligationState)
  | TokenMismatch (obligation : ObligationId) (field : String)
  | StatsUnderflow (counter : String)
  | AcquireAfterFinalize (region : RegionId) (kind : ObligationKind) (holder : TaskId)
  | IndexOverflow (generation : UInt32)
  | GenerationOverflow
  deriving DecidableEq, Repr

/-- How a ledger call that does not return ends. -/
inductive LedgerPanic where
  /-- `unwrap_or_else(|err| panic!("{operation}: {err}"))` in `commit`,
  `abort`, `abort_by_id` and `mark_leaked`. -/
  | resolution (operation : String) (err : LedgerError)
  /-- `acquire_with_context`'s panic on an `acquire_internal` error. -/
  | acquire (err : LedgerError)
  /-- `reset`'s `assert!`s and its generation `expect`. -/
  | reset (message : String)
  deriving DecidableEq, Repr

-- ======================================================== tokens and stats

/-- `ObligationToken`. -/
structure ObligationToken where
  id : ObligationId
  kind : ObligationKind
  holder : TaskId
  region : RegionId
  deriving DecidableEq, Repr

/-- `LedgerStats`. -/
structure LedgerStats where
  totalAcquired : Nat
  totalCommitted : Nat
  totalAborted : Nat
  totalLeaked : Nat
  pending : Nat
  deriving DecidableEq, Repr

/-- `LedgerStats::default()`. -/
def LedgerStats.default : LedgerStats := ⟨0, 0, 0, 0, 0⟩

/-- `ObligationCounts`. -/
structure ObligationCounts where
  pending : Nat
  committed : Nat
  aborted : Nat
  leaked : Nat
  deriving DecidableEq, Repr

namespace ObligationCounts

/-- `ObligationCounts::record_state`. -/
def recordState (c : ObligationCounts) : ObligationState → ObligationCounts
  | .Reserved => { c with pending := c.pending + 1 }
  | .Committed => { c with committed := c.committed + 1 }
  | .Aborted => { c with aborted := c.aborted + 1 }
  | .Leaked => { c with leaked := c.leaked + 1 }

/-- `ObligationCounts::from_records`. -/
def fromRecords (records : List ObligationRecord) : ObligationCounts :=
  records.foldl (fun c r => c.recordState r.state) ⟨0, 0, 0, 0⟩

/-- `ObligationCounts::total`. -/
def total (c : ObligationCounts) : Nat := c.pending + c.committed + c.aborted + c.leaked

end ObligationCounts

/-- `RegionObligationDrain`. -/
structure RegionObligationDrain where
  pendingObserved : Nat
  aborted : Nat
  finalized : Nat
  alreadyResolved : Nat
  missing : Nat
  deriving DecidableEq, Repr

/-- `RegionObligationDrain::is_complete`. -/
def RegionObligationDrain.isComplete (d : RegionObligationDrain) : Bool :=
  d.pendingObserved == d.aborted + d.finalized + d.alreadyResolved + d.missing

/-- The drain loop's `match` on one `try_abort_by_id` result. -/
def RegionObligationDrain.tally (d : RegionObligationDrain) :
    Except LedgerError Nat → RegionObligationDrain
  | .ok _ => { d with aborted := d.aborted + 1 }
  | .error (.AlreadyResolved ..) => { d with alreadyResolved := d.alreadyResolved + 1 }
  | .error (.NotFound ..) => { d with missing := d.missing + 1 }
  | .error (.RegionFinalized ..) => { d with finalized := d.finalized + 1 }
  | .error (.NotPending ..) => { d with alreadyResolved := d.alreadyResolved + 1 }
  | .error (.TokenMismatch ..) => { d with missing := d.missing + 1 }
  | .error (.StatsUnderflow ..) => { d with missing := d.missing + 1 }
  | .error (.AcquireAfterFinalize ..) => { d with finalized := d.finalized + 1 }
  | .error (.IndexOverflow ..) => { d with missing := d.missing + 1 }
  | .error .GenerationOverflow => { d with missing := d.missing + 1 }

-- ============================================================= the ledger

/-- A record that has passed the `is_pending` test. -/
abbrev PendingRecord := { r : ObligationRecord // r.isPending = true }

/-- `ObligationLedger`. -/
structure ObligationLedger where
  obligations : OrdMap ObligationId ObligationRecord
  nextIndex : UInt32
  generation : UInt32
  stats : LedgerStats
  finalizedRegions : List RegionId

namespace ObligationLedger

/-- `ObligationLedger::new`. -/
def new : ObligationLedger := ⟨.empty, 0, 0, .default, []⟩

/-- `ObligationLedger::is_region_finalized`. -/
def isRegionFinalized (l : ObligationLedger) (region : RegionId) : Bool :=
  l.finalizedRegions.contains region

/-- `ObligationLedger::mark_region_finalized`: idempotent. -/
def markRegionFinalized (l : ObligationLedger) (region : RegionId) : ObligationLedger :=
  { l with finalizedRegions := l.finalizedRegions.insert region }

/-- `ObligationLedger::counts`. -/
def counts (l : ObligationLedger) : ObligationCounts :=
  ObligationCounts.fromRecords l.obligations.values

/-- `ObligationLedger::get`. -/
def get (l : ObligationLedger) (id : ObligationId) : Option ObligationRecord :=
  l.obligations.get? id

/-- `ObligationLedger::len`. -/
def len (l : ObligationLedger) : Nat := l.obligations.entries.length

/-- `ObligationLedger::pending_for_region`. -/
def pendingForRegion (l : ObligationLedger) (region : RegionId) : Nat :=
  l.obligations.values.countP fun o => o.region == region && o.state == .Reserved

/-- `ObligationLedger::pending_ids_for_region`, in key order. -/
def pendingIdsForRegion (l : ObligationLedger) (region : RegionId) : List ObligationId :=
  (l.obligations.entries.filter fun e => e.2.region == region && e.2.state == .Reserved).map
    Prod.fst

-- ---------------------------------------------------------- resolution

/-- `ObligationLedger::pending_record_for_id_mut`. -/
def pendingRecordForIdMut (l : ObligationLedger) (id : ObligationId) :
    Except LedgerError PendingRecord :=
  match l.obligations.get? id with
  | none => .error (.NotFound id)
  | some r => if h : r.isPending = true then .ok ⟨r, h⟩ else .error (.NotPending id r.state)

/-- `ObligationLedger::record_for_token_mut`. -/
def recordForTokenMut (l : ObligationLedger) (token : ObligationToken) :
    Except LedgerError PendingRecord :=
  match l.pendingRecordForIdMut token.id with
  | .error e => .error e
  | .ok r =>
      if r.1.kind ≠ token.kind then .error (.TokenMismatch token.id "kind")
      else if r.1.holder ≠ token.holder then .error (.TokenMismatch token.id "holder")
      else if r.1.region ≠ token.region then .error (.TokenMismatch token.id "region")
      else .ok r

/-- `ObligationLedger::resolve_one_pending`: `pending.checked_sub(1)`. -/
def resolveOnePending (l : ObligationLedger) : Except LedgerError Unit × ObligationLedger :=
  if l.stats.pending = 0 then (.error (.StatsUnderflow "pending"), l)
  else (.ok (), { l with stats := { l.stats with pending := l.stats.pending - 1 } })

/-- `ObligationLedger::finish_resolution`: count the resolution, then
release one pending slot. -/
def finishResolution (l : ObligationLedger) (resolution : ObligationResolution) :
    Except LedgerError Unit × ObligationLedger :=
  let stats := match resolution with
    | .Commit => { l.stats with totalCommitted := l.stats.totalCommitted + 1 }
    | .Abort _ => { l.stats with totalAborted := l.stats.totalAborted + 1 }
    | .Leak => { l.stats with totalLeaked := l.stats.totalLeaked + 1 }
  resolveOnePending { l with stats := stats }

/-- `record.resolve_with(now, resolution)` through the `get_mut` borrow
of key `id`: the record is overwritten in place. -/
def resolveAt (l : ObligationLedger) (id : ObligationId) (r : PendingRecord) (now : Time)
    (resolution : ObligationResolution) : Nat × ObligationLedger :=
  let res := r.1.resolveWith now resolution r.2
  (res.1, { l with obligations := l.obligations.insert id res.2 })

/-- `ObligationLedger::resolve_token`. -/
def resolveToken (l : ObligationLedger) (token : ObligationToken)
    (resolution : ObligationResolution) (now : Time) : Except LedgerError Nat × ObligationLedger :=
  match l.recordForTokenMut token with
  | .error e => (.error e, l)
  | .ok r =>
      let res := l.resolveAt token.id r now resolution
      let fin := res.2.finishResolution resolution
      (fin.1.map fun _ => res.1, fin.2)

/-- `ObligationLedger::resolve_id`. -/
def resolveId (l : ObligationLedger) (id : ObligationId) (resolution : ObligationResolution)
    (now : Time) : Except LedgerError Nat × ObligationLedger :=
  match l.pendingRecordForIdMut id with
  | .error e => (.error e, l)
  | .ok r =>
      let res := l.resolveAt id r now resolution
      let fin := res.2.finishResolution resolution
      (fin.1.map fun _ => res.1, fin.2)

/-- `.unwrap_or_else(|err| panic!("{operation}: {err}"))` on a resolution. -/
def orPanic (operation : String) :
    Except LedgerError Nat × ObligationLedger → Except LedgerPanic (Nat × ObligationLedger)
  | (.ok d, l) => .ok (d, l)
  | (.error e, _) => .error (.resolution operation e)

/-- `ObligationLedger::commit`: a finalized region's token bails with `0`. -/
def commit (l : ObligationLedger) (token : ObligationToken) (now : Time) :
    Except LedgerPanic (Nat × ObligationLedger) :=
  if l.finalizedRegions.contains token.region then .ok (0, l)
  else orPanic "commit" (l.resolveToken token .Commit now)

/-- `ObligationLedger::abort`: a finalized region's token bails with `0`. -/
def abort (l : ObligationLedger) (token : ObligationToken) (now : Time)
    (reason : ObligationAbortReason) : Except LedgerPanic (Nat × ObligationLedger) :=
  if l.finalizedRegions.contains token.region then .ok (0, l)
  else orPanic "abort" (l.resolveToken token (.Abort reason) now)

/-- `ObligationLedger::try_commit`. -/
def tryCommit (l : ObligationLedger) (token : ObligationToken) (now : Time) :
    Except LedgerPanic (Except LedgerError Nat × ObligationLedger) :=
  if l.finalizedRegions.contains token.region then
    .ok (.error (.RegionFinalized token.region token.id), l)
  else (l.commit token now).map fun r => (.ok r.1, r.2)

/-- `ObligationLedger::try_abort`. -/
def tryAbort (l : ObligationLedger) (token : ObligationToken) (now : Time)
    (reason : ObligationAbortReason) :
    Except LedgerPanic (Except LedgerError Nat × ObligationLedger) :=
  if l.finalizedRegions.contains token.region then
    .ok (.error (.RegionFinalized token.region token.id), l)
  else (l.abort token now reason).map fun r => (.ok r.1, r.2)

/-- `ObligationLedger::abort_by_id`: the fence is looked up through the
record's region; an unknown ID falls through to the `NotFound` panic. -/
def abortById (l : ObligationLedger) (id : ObligationId) (now : Time)
    (reason : ObligationAbortReason) : Except LedgerPanic (Nat × ObligationLedger) :=
  if ((l.obligations.get? id).map (·.region)).any l.finalizedRegions.contains then .ok (0, l)
  else orPanic "abort_by_id" (l.resolveId id (.Abort reason) now)

/-- `ObligationLedger::try_abort_by_id`: not found, then fenced, then
already resolved, each without touching the ledger. -/
def tryAbortById (l : ObligationLedger) (id : ObligationId) (now : Time)
    (reason : ObligationAbortReason) : Except LedgerError Nat × ObligationLedger :=
  match l.obligations.get? id with
  | none => (.error (.NotFound id), l)
  | some r =>
      if l.finalizedRegions.contains r.region then (.error (.RegionFinalized r.region id), l)
      else if r.state ≠ .Reserved then (.error (.AlreadyResolved id r.state), l)
      else l.resolveId id (.Abort reason) now

/-- `ObligationLedger::mark_leaked`: no fence. -/
def markLeaked (l : ObligationLedger) (id : ObligationId) (now : Time) :
    Except LedgerPanic (Nat × ObligationLedger) :=
  orPanic "mark_leaked" (l.resolveId id .Leak now)

/-- One turn of the drain loop of `abort_pending_for_region`. -/
def drainStep (now : Time) (reason : ObligationAbortReason)
    (acc : RegionObligationDrain × ObligationLedger) (id : ObligationId) :
    RegionObligationDrain × ObligationLedger :=
  let res := acc.2.tryAbortById id now reason
  (acc.1.tally res.1, res.2)

/-- `ObligationLedger::abort_pending_for_region`: snapshot the pending IDs,
then abort each through `try_abort_by_id`. -/
def abortPendingForRegion (l : ObligationLedger) (region : RegionId) (now : Time)
    (reason : ObligationAbortReason) : RegionObligationDrain × ObligationLedger :=
  let pending := l.pendingIdsForRegion region
  let summary : RegionObligationDrain := ⟨pending.length, 0, 0, 0, 0⟩
  if l.finalizedRegions.contains region then ({ summary with finalized := pending.length }, l)
  else pending.foldl (drainStep now reason) (summary, l)

-- ------------------------------------------------------------- acquire

/-- `ObligationLedger::acquire_internal`: the fence, then the index
overflow guard, then the ID `(next_index, generation)`. -/
def acquireInternal (l : ObligationLedger) (kind : ObligationKind) (holder : TaskId)
    (region : RegionId) (now : Time) (description : Option String) :
    Except LedgerError (ObligationToken × ObligationLedger) :=
  if l.finalizedRegions.contains region then .error (.AcquireAfterFinalize region kind holder)
  else
    match checkedAdd l.nextIndex 1 with
    | none => .error (.IndexOverflow l.generation)
    | some nextIndex =>
        let id := ObligationId.fromArena ⟨l.nextIndex, l.generation⟩
        let record := match description with
          | some desc => ObligationRecord.withDescriptionAndContext id kind holder region now desc
          | none => ObligationRecord.newWithContext id kind holder region now
        .ok (⟨id, kind, holder, region⟩,
          { l with
            nextIndex := nextIndex
            obligations := l.obligations.insert id record
            stats := { l.stats with
              totalAcquired := l.stats.totalAcquired + 1
              pending := l.stats.pending + 1 } })

/-- `ObligationLedger::acquire_with_context`: panics on any error. -/
def acquireWithContext (l : ObligationLedger) (kind : ObligationKind) (holder : TaskId)
    (region : RegionId) (now : Time) (description : Option String) :
    Except LedgerPanic (ObligationToken × ObligationLedger) :=
  match l.acquireInternal kind holder region now description with
  | .ok r => .ok r
  | .error e => .error (.acquire e)

/-- `ObligationLedger::acquire`. -/
def acquire (l : ObligationLedger) (kind : ObligationKind) (holder : TaskId)
    (region : RegionId) (now : Time) : Except LedgerPanic (ObligationToken × ObligationLedger) :=
  l.acquireWithContext kind holder region now none

/-- The sentinel ID `try_acquire_with_context` reports: no token was minted. -/
def sentinelId : ObligationId := ObligationId.fromArena ⟨0, u32MaxU32⟩

/-- `ObligationLedger::try_acquire_with_context`: the fence error is
reported as `RegionFinalized` with the sentinel ID. -/
def tryAcquireWithContext (l : ObligationLedger) (kind : ObligationKind) (holder : TaskId)
    (region : RegionId) (now : Time) (description : Option String) :
    Except LedgerError ObligationToken × ObligationLedger :=
  match l.acquireInternal kind holder region now description with
  | .ok (token, l') => (.ok token, l')
  | .error (.AcquireAfterFinalize region _ _) => (.error (.RegionFinalized region sentinelId), l)
  | .error e => (.error e, l)

/-- `ObligationLedger::try_acquire`. -/
def tryAcquire (l : ObligationLedger) (kind : ObligationKind) (holder : TaskId)
    (region : RegionId) (now : Time) : Except LedgerError ObligationToken × ObligationLedger :=
  l.tryAcquireWithContext kind holder region now none

-- --------------------------------------------------------------- reset

/-- `ObligationLedger::reset`: refuses while anything is pending or leaked;
then clears, rewinds the index and bumps the generation. -/
def reset (l : ObligationLedger) : Except LedgerPanic ObligationLedger :=
  if l.obligations.values.any (·.isPending) then
    .error (.reset "cannot reset obligation ledger with pending obligations")
  else if l.obligations.values.any (·.isLeaked) then
    .error (.reset "cannot reset obligation ledger with leaked obligations")
  else
    match checkedAdd l.generation 1 with
    | none => .error (.reset "obligation ledger generation overflow")
    | some generation => .ok ⟨.empty, 0, generation, .default, []⟩

-- ======================================================== the operations

/-- The ledger's public mutators. -/
inductive LedgerOp where
  | acquire (kind : ObligationKind) (holder : TaskId) (region : RegionId) (now : Time)
  | acquireWithContext (kind : ObligationKind) (holder : TaskId) (region : RegionId)
      (now : Time) (description : Option String)
  | tryAcquire (kind : ObligationKind) (holder : TaskId) (region : RegionId) (now : Time)
  | tryAcquireWithContext (kind : ObligationKind) (holder : TaskId) (region : RegionId)
      (now : Time) (description : Option String)
  | commit (token : ObligationToken) (now : Time)
  | abort (token : ObligationToken) (now : Time) (reason : ObligationAbortReason)
  | tryCommit (token : ObligationToken) (now : Time)
  | tryAbort (token : ObligationToken) (now : Time) (reason : ObligationAbortReason)
  | abortById (id : ObligationId) (now : Time) (reason : ObligationAbortReason)
  | tryAbortById (id : ObligationId) (now : Time) (reason : ObligationAbortReason)
  | markLeaked (id : ObligationId) (now : Time)
  | markRegionFinalized (region : RegionId)
  | abortPendingForRegion (region : RegionId) (now : Time) (reason : ObligationAbortReason)
  | reset

/-- What a mutator returns. -/
inductive LedgerOutput where
  | token (token : ObligationToken)
  | tryToken (result : Except LedgerError ObligationToken)
  | duration (nanos : Nat)
  | tryDuration (result : Except LedgerError Nat)
  | drain (summary : RegionObligationDrain)
  | unit

/-- The ID an output hands out, if it is a freshly minted token. -/
def LedgerOutput.issued : LedgerOutput → Option ObligationId
  | .token t => some t.id
  | .tryToken (.ok t) => some t.id
  | _ => none

/-- One call on the ledger. -/
def exec (l : ObligationLedger) : LedgerOp → Except LedgerPanic (LedgerOutput × ObligationLedger)
  | .acquire kind holder region now =>
      (l.acquire kind holder region now).map fun r => (.token r.1, r.2)
  | .acquireWithContext kind holder region now description =>
      (l.acquireWithContext kind holder region now description).map fun r => (.token r.1, r.2)
  | .tryAcquire kind holder region now =>
      let r := l.tryAcquire kind holder region now
      .ok (.tryToken r.1, r.2)
  | .tryAcquireWithContext kind holder region now description =>
      let r := l.tryAcquireWithContext kind holder region now description
      .ok (.tryToken r.1, r.2)
  | .commit token now => (l.commit token now).map fun r => (.duration r.1, r.2)
  | .abort token now reason => (l.abort token now reason).map fun r => (.duration r.1, r.2)
  | .tryCommit token now => (l.tryCommit token now).map fun r => (.tryDuration r.1, r.2)
  | .tryAbort token now reason =>
      (l.tryAbort token now reason).map fun r => (.tryDuration r.1, r.2)
  | .abortById id now reason => (l.abortById id now reason).map fun r => (.duration r.1, r.2)
  | .tryAbortById id now reason =>
      let r := l.tryAbortById id now reason
      .ok (.tryDuration r.1, r.2)
  | .markLeaked id now => (l.markLeaked id now).map fun r => (.duration r.1, r.2)
  | .markRegionFinalized region => .ok (.unit, l.markRegionFinalized region)
  | .abortPendingForRegion region now reason =>
      let r := l.abortPendingForRegion region now reason
      .ok (.drain r.1, r.2)
  | .reset => l.reset.map fun l' => (.unit, l')

/-- `exec` as a machine step: a panic is a step that does not return. -/
def step (l : ObligationLedger) (op : LedgerOp) : Option (LedgerOutput × ObligationLedger) :=
  (l.exec op).toOption

end ObligationLedger

end Asupersync
