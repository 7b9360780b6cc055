/-
What one call on the obligation ledger can do.

# The moves

`LedgerMove` lists everything a ledger call that returns does to the
ledger, one record at a time:

- `resolve`: overwrite a pending record with its resolution, count the
  resolution and release one pending slot;
- `resolveUnderflow`: the same with the pending counter already at zero,
  where `resolve_one_pending` fails after the record and the total were
  written (only `try_abort_by_id` returns from there);
- `acquire`: insert a `Reserved` record under the cursor ID
  `(next_index, generation)` and advance `next_index`;
- `mark`: add a region to the finalized set;
- `reset`: clear a ledger with nothing pending or leaked, rewind the index
  and advance the generation.

`exec_moves` says that every call that returns is a chain of these
(`abort_pending_for_region` makes one `resolve` per pending ID). It needs
no invariant: the error paths either leave the ledger alone or do not
return. The invariants are proved over the moves (Bookkeeping.lean) and
never over the calls.
-/
import Mathlib
import Asupersync.Obligation.Ledger

namespace Asupersync

/-- The statistics with one more resolution of kind `res` counted. -/
def LedgerStats.countResolution (s : LedgerStats) : ObligationResolution → LedgerStats
  | .Commit => { s with totalCommitted := s.totalCommitted + 1 }
  | .Abort _ => { s with totalAborted := s.totalAborted + 1 }
  | .Leak => { s with totalLeaked := s.totalLeaked + 1 }

theorem except_map_eq_ok {ε α β : Type} {f : α → β} {x : Except ε α} {b : β}
    (h : x.map f = .ok b) : ∃ a, x = .ok a ∧ f a = b := by
  cases x with
  | error e => cases h
  | ok a => exact ⟨a, rfl, by simpa [Except.map] using h⟩

theorem PendingRecord.isPending (r : PendingRecord) : r.1.isPending = true := r.2

namespace ObligationLedger

/-- The ledger with the pending record `r` under `id` resolved in place
and the resolution counted, before the pending slot is released. -/
def countedAt (l : ObligationLedger) (id : ObligationId) (r : PendingRecord) (now : Time)
    (res : ObligationResolution) : ObligationLedger :=
  { l with obligations := l.obligations.insert id (r.1.resolveWith now res r.isPending).2,
           stats := l.stats.countResolution res }

/-- `countedAt` with the pending slot released. -/
def resolvedAt (l : ObligationLedger) (id : ObligationId) (r : PendingRecord) (now : Time)
    (res : ObligationResolution) : ObligationLedger :=
  let l₁ := l.countedAt id r now res
  { l₁ with stats := { l₁.stats with pending := l.stats.pending - 1 } }

/-- The ID `acquire_internal` mints next. -/
def cursorId (l : ObligationLedger) : ObligationId :=
  ObligationId.fromArena ⟨l.nextIndex, l.generation⟩

/-- Everything a returning call does, one record at a time. -/
inductive LedgerMove : ObligationLedger → ObligationLedger → Prop
  | resolve {l : ObligationLedger} (id : ObligationId) (r : PendingRecord) (now : Time)
      (res : ObligationResolution) (found : l.obligations.get? id = some r.1)
      (hp : l.stats.pending ≠ 0) : LedgerMove l (l.resolvedAt id r now res)
  | resolveUnderflow {l : ObligationLedger} (id : ObligationId) (r : PendingRecord) (now : Time)
      (res : ObligationResolution) (found : l.obligations.get? id = some r.1)
      (hp : l.stats.pending = 0) : LedgerMove l (l.countedAt id r now res)
  | acquire {l : ObligationLedger} (record : ObligationRecord) (next : UInt32)
      (hnext : checkedAdd l.nextIndex 1 = some next) (hstate : record.state = .Reserved) :
      LedgerMove l { l with
        nextIndex := next
        obligations := l.obligations.insert l.cursorId record
        stats := { l.stats with
          totalAcquired := l.stats.totalAcquired + 1
          pending := l.stats.pending + 1 } }
  | mark {l : ObligationLedger} (region : RegionId) : LedgerMove l (l.markRegionFinalized region)
  | reset {l : ObligationLedger} (generation : UInt32)
      (hgen : checkedAdd l.generation 1 = some generation)
      (hclean : ∀ r ∈ l.obligations.values, r.state ≠ .Reserved ∧ r.state ≠ .Leaked) :
      LedgerMove l ⟨.empty, 0, generation, .default, []⟩

/-- A returning call is a chain of moves. -/
abbrev Moves : ObligationLedger → ObligationLedger → Prop := Relation.ReflTransGen LedgerMove

variable {l l' : ObligationLedger}

-- ================================================= the private helpers

theorem pendingRecordForIdMut_ok {id : ObligationId} {r : PendingRecord}
    (h : l.pendingRecordForIdMut id = .ok r) : l.obligations.get? id = some r.1 := by
  unfold pendingRecordForIdMut at h
  split at h
  · cases h
  · rename_i r₀ hget
    split at h
    · cases h
      exact hget
    · cases h

theorem recordForTokenMut_ok {token : ObligationToken} {r : PendingRecord}
    (h : l.recordForTokenMut token = .ok r) :
    l.obligations.get? token.id = some r.1 ∧ r.1.region = token.region := by
  unfold recordForTokenMut at h
  split at h
  · cases h
  · rename_i r₀ hr₀
    split at h
    · cases h
    · split at h
      · cases h
      · split at h
        · cases h
        · rename_i hregion
          cases h
          exact ⟨pendingRecordForIdMut_ok hr₀, not_not.mp hregion⟩

theorem finishResolution_eq (l : ObligationLedger) (res : ObligationResolution) :
    l.finishResolution res =
      if l.stats.pending = 0 then
        (.error (.StatsUnderflow "pending"), { l with stats := l.stats.countResolution res })
      else
        (.ok (), { l with stats := { l.stats.countResolution res with
          pending := l.stats.pending - 1 } }) := by
  cases res <;> simp [finishResolution, resolveOnePending, LedgerStats.countResolution]

/-- The resolution paths, whatever they return, move the ledger. -/
theorem resolveAt_moves (l : ObligationLedger) (id : ObligationId) (r : PendingRecord)
    (now : Time) (res : ObligationResolution) (found : l.obligations.get? id = some r.1) :
    Moves l ((l.resolveAt id r now res).2.finishResolution res).2 := by
  rw [finishResolution_eq]
  split
  · rename_i hp
    exact .single (.resolveUnderflow id r now res found hp)
  · rename_i hp
    exact .single (.resolve id r now res found hp)

theorem resolveId_moves (l : ObligationLedger) (id : ObligationId)
    (res : ObligationResolution) (now : Time) : Moves l (l.resolveId id res now).2 := by
  unfold resolveId
  split
  · exact .refl
  · rename_i r hr
    exact resolveAt_moves l id r now res (pendingRecordForIdMut_ok hr)

theorem resolveToken_moves (l : ObligationLedger) (token : ObligationToken)
    (res : ObligationResolution) (now : Time) : Moves l (l.resolveToken token res now).2 := by
  unfold resolveToken
  split
  · exact .refl
  · rename_i r hr
    exact resolveAt_moves l token.id r now res (recordForTokenMut_ok hr).1

theorem orPanic_ok {operation : String} {x : Except LedgerError Nat × ObligationLedger}
    {d : Nat} (h : orPanic operation x = .ok (d, l')) : x.2 = l' := by
  obtain ⟨e, l₀⟩ := x
  cases e with
  | ok d₀ =>
      simp only [orPanic, Except.ok.injEq, Prod.mk.injEq] at h
      exact h.2
  | error e => cases h

-- ======================================================== the public calls

theorem commit_moves {token : ObligationToken} {now : Time} {d : Nat}
    (h : l.commit token now = .ok (d, l')) : Moves l l' := by
  unfold commit at h
  split at h
  · cases h
    exact .refl
  · rw [← orPanic_ok h]
    exact resolveToken_moves l token .Commit now

theorem abort_moves {token : ObligationToken} {now : Time} {reason : ObligationAbortReason}
    {d : Nat} (h : l.abort token now reason = .ok (d, l')) : Moves l l' := by
  unfold abort at h
  split at h
  · cases h
    exact .refl
  · rw [← orPanic_ok h]
    exact resolveToken_moves l token (.Abort reason) now

theorem abortById_moves {id : ObligationId} {now : Time} {reason : ObligationAbortReason}
    {d : Nat} (h : l.abortById id now reason = .ok (d, l')) : Moves l l' := by
  unfold abortById at h
  split at h
  · obtain ⟨-, rfl⟩ := Prod.mk.inj (Except.ok.inj h)
    exact .refl
  · rw [← orPanic_ok h]
    exact resolveId_moves l id (.Abort reason) now

theorem tryAbortById_moves (l : ObligationLedger) (id : ObligationId) (now : Time)
    (reason : ObligationAbortReason) : Moves l (l.tryAbortById id now reason).2 := by
  unfold tryAbortById
  split
  · exact .refl
  · split
    · exact .refl
    · split
      · exact .refl
      · exact resolveId_moves l id (.Abort reason) now

/-- The drain loop: each turn is one `try_abort_by_id`. -/
theorem foldl_drainStep_moves (now : Time) (reason : ObligationAbortReason) :
    ∀ (ids : List ObligationId) (acc : RegionObligationDrain × ObligationLedger),
      Moves acc.2 (ids.foldl (drainStep now reason) acc).2
  | [], _ => .refl
  | id :: ids, acc => by
      rw [List.foldl_cons]
      have hstep : Moves acc.2 (drainStep now reason acc id).2 :=
        tryAbortById_moves acc.2 id now reason
      exact hstep.trans (foldl_drainStep_moves now reason ids _)

theorem abortPendingForRegion_moves (l : ObligationLedger) (region : RegionId) (now : Time)
    (reason : ObligationAbortReason) : Moves l (l.abortPendingForRegion region now reason).2 := by
  unfold abortPendingForRegion
  split
  · exact .refl
  · exact foldl_drainStep_moves now reason _ (_, l)

theorem acquireInternal_moves {kind : ObligationKind} {holder : TaskId} {region : RegionId}
    {now : Time} {description : Option String} {token : ObligationToken}
    (h : l.acquireInternal kind holder region now description = .ok (token, l')) :
    token.id = l.cursorId ∧ (l'.obligations.get? token.id).isSome ∧ Moves l l' := by
  unfold acquireInternal at h
  split at h
  · cases h
  · split at h
    · cases h
    · rename_i next hnext
      simp only [Except.ok.injEq, Prod.mk.injEq] at h
      obtain ⟨rfl, rfl⟩ := h
      refine ⟨rfl, by simp, .single (.acquire _ next hnext ?_)⟩
      split <;> rfl

theorem tryAcquireWithContext_moves (l : ObligationLedger) (kind : ObligationKind)
    (holder : TaskId) (region : RegionId) (now : Time) (description : Option String) :
    Moves l (l.tryAcquireWithContext kind holder region now description).2 ∧
      ∀ token, (l.tryAcquireWithContext kind holder region now description).1 = .ok token →
        token.id = l.cursorId ∧
          ((l.tryAcquireWithContext kind holder region now description).2.obligations.get?
            token.id).isSome := by
  unfold tryAcquireWithContext
  split
  · rename_i token l₁ h
    obtain ⟨hid, hfound, hmv⟩ := acquireInternal_moves h
    refine ⟨hmv, ?_⟩
    intro token' ht
    cases ht
    exact ⟨hid, hfound⟩
  · exact ⟨.refl, fun _ ht => by cases ht⟩
  · exact ⟨.refl, fun _ ht => by cases ht⟩

theorem reset_moves (h : l.reset = .ok l') : Moves l l' := by
  unfold reset at h
  split at h
  · cases h
  · rename_i hpending
    split at h
    · cases h
    · rename_i hleaked
      split at h
      · cases h
      · rename_i generation hgen
        cases h
        refine .single (.reset generation hgen ?_)
        intro r hr
        have hp : ¬r.isPending = true := fun hp => hpending (List.any_eq_true.mpr ⟨r, hr, hp⟩)
        have hk : ¬r.isLeaked = true := fun hk => hleaked (List.any_eq_true.mpr ⟨r, hr, hk⟩)
        refine ⟨fun hs => hp ((ObligationRecord.isPending_iff r).mpr hs), fun hs => hk ?_⟩
        simp [ObligationRecord.isLeaked, hs, ObligationState.isLeaked]

/-- Every call that returns is a chain of moves; a minted token carries the
cursor ID it was minted at. -/
theorem exec_moves {op : LedgerOp} {o : LedgerOutput} (h : l.exec op = .ok (o, l')) :
    Moves l l' ∧ ∀ id, o.issued = some id → id = l.cursorId ∧ (l'.obligations.get? id).isSome := by
  cases op with
  | acquire kind holder region now =>
      simp only [exec, acquire, acquireWithContext] at h
      split at h
      · rename_i r hr
        simp only [Except.map, Except.ok.injEq, Prod.mk.injEq] at h
        obtain ⟨rfl, rfl⟩ := h
        obtain ⟨hid, hfound, hmv⟩ := acquireInternal_moves hr
        exact ⟨hmv, fun id hi => by cases hi; exact ⟨hid, hfound⟩⟩
      · cases h
  | acquireWithContext kind holder region now description =>
      simp only [exec, acquireWithContext] at h
      split at h
      · rename_i r hr
        simp only [Except.map, Except.ok.injEq, Prod.mk.injEq] at h
        obtain ⟨rfl, rfl⟩ := h
        obtain ⟨hid, hfound, hmv⟩ := acquireInternal_moves hr
        exact ⟨hmv, fun id hi => by cases hi; exact ⟨hid, hfound⟩⟩
      · cases h
  | tryAcquire kind holder region now =>
      simp only [exec, tryAcquire, Except.ok.injEq, Prod.mk.injEq] at h
      obtain ⟨rfl, rfl⟩ := h
      obtain ⟨hmv, hid⟩ := tryAcquireWithContext_moves l kind holder region now none
      refine ⟨hmv, fun id hi => ?_⟩
      revert hi hid
      cases (l.tryAcquireWithContext kind holder region now none).1 with
      | ok token => intro hid hi; cases hi; exact hid token rfl
      | error e => intro _ hi; cases hi
  | tryAcquireWithContext kind holder region now description =>
      simp only [exec, Except.ok.injEq, Prod.mk.injEq] at h
      obtain ⟨rfl, rfl⟩ := h
      obtain ⟨hmv, hid⟩ := tryAcquireWithContext_moves l kind holder region now description
      refine ⟨hmv, fun id hi => ?_⟩
      revert hi hid
      cases (l.tryAcquireWithContext kind holder region now description).1 with
      | ok token => intro hid hi; cases hi; exact hid token rfl
      | error e => intro _ hi; cases hi
  | commit token now =>
      simp only [exec] at h
      obtain ⟨⟨d, l₁⟩, hc, hr⟩ := except_map_eq_ok h
      cases hr
      exact ⟨commit_moves hc, fun _ hi => by cases hi⟩
  | abort token now reason =>
      simp only [exec] at h
      obtain ⟨⟨d, l₁⟩, hc, hr⟩ := except_map_eq_ok h
      cases hr
      exact ⟨abort_moves hc, fun _ hi => by cases hi⟩
  | tryCommit token now =>
      simp only [exec, tryCommit] at h
      split at h
      · simp only [Except.map, Except.ok.injEq, Prod.mk.injEq] at h
        obtain ⟨rfl, rfl⟩ := h
        exact ⟨.refl, fun _ hi => by cases hi⟩
      · obtain ⟨⟨r, l₁⟩, hc, hr⟩ := except_map_eq_ok h
        cases hr
        obtain ⟨⟨d, l₂⟩, hc', hr'⟩ := except_map_eq_ok hc
        cases hr'
        exact ⟨commit_moves hc', fun _ hi => by cases hi⟩
  | tryAbort token now reason =>
      simp only [exec, tryAbort] at h
      split at h
      · simp only [Except.map, Except.ok.injEq, Prod.mk.injEq] at h
        obtain ⟨rfl, rfl⟩ := h
        exact ⟨.refl, fun _ hi => by cases hi⟩
      · obtain ⟨⟨r, l₁⟩, hc, hr⟩ := except_map_eq_ok h
        cases hr
        obtain ⟨⟨d, l₂⟩, hc', hr'⟩ := except_map_eq_ok hc
        cases hr'
        exact ⟨abort_moves hc', fun _ hi => by cases hi⟩
  | abortById id now reason =>
      simp only [exec] at h
      obtain ⟨⟨d, l₁⟩, hc, hr⟩ := except_map_eq_ok h
      cases hr
      exact ⟨abortById_moves hc, fun _ hi => by cases hi⟩
  | tryAbortById id now reason =>
      simp only [exec, Except.ok.injEq, Prod.mk.injEq] at h
      obtain ⟨rfl, rfl⟩ := h
      exact ⟨tryAbortById_moves l id now reason, fun _ hi => by cases hi⟩
  | markLeaked id now =>
      simp only [exec, markLeaked] at h
      obtain ⟨⟨d, l₁⟩, hc, hr⟩ := except_map_eq_ok h
      cases hr
      rw [← orPanic_ok hc]
      exact ⟨resolveId_moves l id .Leak now, fun _ hi => by cases hi⟩
  | markRegionFinalized region =>
      simp only [exec, Except.ok.injEq, Prod.mk.injEq] at h
      obtain ⟨rfl, rfl⟩ := h
      exact ⟨.single (.mark region), fun _ hi => by cases hi⟩
  | abortPendingForRegion region now reason =>
      simp only [exec, Except.ok.injEq, Prod.mk.injEq] at h
      obtain ⟨rfl, rfl⟩ := h
      exact ⟨abortPendingForRegion_moves l region now reason, fun _ hi => by cases hi⟩
  | reset =>
      simp only [exec] at h
      obtain ⟨l₁, hc, hr⟩ := except_map_eq_ok h
      cases hr
      exact ⟨reset_moves hc, fun _ hi => by cases hi⟩

end ObligationLedger

end Asupersync
