/-
The finalized-region fence (`mark_region_finalized`): once a region is
finalized, the ledger no longer resolves its obligations.

# What each call does on a finalized region

- `commit`, `abort` on a token of the region return `0`; `try_commit`,
  `try_abort` return `RegionFinalized`; in both cases the ledger is the
  one they were given, so no record and no statistic moves.
- `abort_by_id`, `try_abort_by_id` look the fence up through the record's
  region, with the same outcome for an ID whose record is in the region.
- `abort_pending_for_region` counts the region's pending IDs as
  finalized and returns.
- `try_acquire` reports `RegionFinalized` with the sentinel ID.

# The frame

`Fenced region l l'` is the frame of a call: the region's records are
the same in `l'` as in `l` and no region stops being finalized. Every
call but `mark_leaked` and `reset` keeps it from a ledger in which the
region is finalized, whatever its arguments: a resolution goes through a
record whose region passed the fence, and a new record has a fresh ID
(`KeysBelow.cursorId_fresh`), so it overwrites nothing. `mark_leaked`
has no fence, and `reset` clears the set.
-/
import Asupersync.Proofs.Obligation.Bookkeeping

namespace Asupersync

namespace ObligationLedger

variable {l l' : ObligationLedger} {region : RegionId}

-- ============================================================ the frame

/-- The records of `region` are the same in both ledgers. -/
def SameIn (region : RegionId) (l l' : ObligationLedger) : Prop :=
  ∀ id r, r.region = region → (l.obligations.get? id = some r ↔ l'.obligations.get? id = some r)

/-- The frame of a call on a ledger in which `region` is finalized. -/
structure Fenced (region : RegionId) (l l' : ObligationLedger) : Prop where
  same : SameIn region l l'
  finalized : l.finalizedRegions ⊆ l'.finalizedRegions

theorem Fenced.refl (region : RegionId) (l : ObligationLedger) : Fenced region l l :=
  ⟨fun _ _ _ => Iff.rfl, List.Subset.refl _⟩

theorem Fenced.trans {l₁ l₂ l₃ : ObligationLedger} (h₁ : Fenced region l₁ l₂)
    (h₂ : Fenced region l₂ l₃) : Fenced region l₁ l₃ :=
  ⟨fun id r hr => (h₁.same id r hr).trans (h₂.same id r hr),
    List.Subset.trans h₁.finalized h₂.finalized⟩

theorem Fenced.isRegionFinalized (h : Fenced region l l') (hfin : l.isRegionFinalized region = true) :
    l'.isRegionFinalized region = true := by
  simp only [ObligationLedger.isRegionFinalized, List.contains_iff_mem] at hfin ⊢
  exact h.finalized hfin

/-- Writing one entry outside the region, over no record of the region. -/
theorem fenced_insert {id : ObligationId} {v : ObligationRecord}
    (hold : ∀ r, l.obligations.get? id = some r → r.region ≠ region) (hv : v.region ≠ region)
    (hobl : l'.obligations = l.obligations.insert id v)
    (hfin : l'.finalizedRegions = l.finalizedRegions) : Fenced region l l' := by
  refine ⟨fun id' r hr => ?_, hfin ▸ List.Subset.refl _⟩
  rw [hobl, OrdMap.get?_insert]
  split
  · rename_i hid
    subst hid
    constructor
    · intro h
      exact absurd hr (hold r h)
    · intro h
      cases h
      exact absurd hr hv
  · exact Iff.rfl

-- ======================================================== the resolutions

/-- Resolving a record outside the region. -/
theorem resolution_fenced {id : ObligationId} {r : PendingRecord} {now : Time}
    {res : ObligationResolution} (found : l.obligations.get? id = some r.1)
    (hne : r.1.region ≠ region) :
    Fenced region l ((l.resolveAt id r now res).2.finishResolution res).2 := by
  have hold : ∀ r₀, l.obligations.get? id = some r₀ → r₀.region ≠ region := by
    intro r₀ h₀
    rw [found, Option.some.injEq] at h₀
    exact h₀ ▸ hne
  rw [finishResolution_eq]
  split <;> exact fenced_insert hold (by simpa using hne) rfl rfl

theorem resolveToken_fenced {token : ObligationToken} {res : ObligationResolution} {now : Time}
    (hne : token.region ≠ region) : Fenced region l (l.resolveToken token res now).2 := by
  unfold resolveToken
  split
  · exact .refl region l
  · rename_i r hr
    -- the token check ties the record's region to the token's
    obtain ⟨found, hreg⟩ := recordForTokenMut_ok hr
    exact resolution_fenced found (hreg ▸ hne)

theorem resolveId_fenced {id : ObligationId} {res : ObligationResolution} {now : Time}
    (hne : ∀ r, l.obligations.get? id = some r → r.region ≠ region) :
    Fenced region l (l.resolveId id res now).2 := by
  unfold resolveId
  split
  · exact .refl region l
  · rename_i r hr
    have found := pendingRecordForIdMut_ok hr
    exact resolution_fenced found (hne r.1 found)

theorem resolveId_finalizedRegions (id : ObligationId) (res : ObligationResolution) (now : Time) :
    (l.resolveId id res now).2.finalizedRegions = l.finalizedRegions := by
  unfold resolveId
  split
  · rfl
  · dsimp only
    rw [finishResolution_eq]
    split <;> rfl

/-- A region other than a finalized one is one the fence lets through. -/
theorem ne_of_not_finalized {region' : RegionId} (hfin : l.isRegionFinalized region = true)
    (hnot : ¬l.finalizedRegions.contains region' = true) : region' ≠ region := by
  rintro rfl
  exact hnot hfin

-- ====================================================== the fenced calls

section Calls

variable (hfin : l.isRegionFinalized region = true)

include hfin

theorem commit_fenced {token : ObligationToken} {now : Time} {d : Nat}
    (h : l.commit token now = .ok (d, l')) : Fenced region l l' := by
  unfold commit at h
  split at h
  · cases h
    exact .refl region l
  · rename_i hnot
    rw [← orPanic_ok h]
    exact resolveToken_fenced (ne_of_not_finalized hfin hnot)

theorem abort_fenced {token : ObligationToken} {now : Time} {reason : ObligationAbortReason}
    {d : Nat} (h : l.abort token now reason = .ok (d, l')) : Fenced region l l' := by
  unfold abort at h
  split at h
  · cases h
    exact .refl region l
  · rename_i hnot
    rw [← orPanic_ok h]
    exact resolveToken_fenced (ne_of_not_finalized hfin hnot)

theorem tryCommit_fenced {token : ObligationToken} {now : Time} {d : Except LedgerError Nat}
    (h : l.tryCommit token now = .ok (d, l')) : Fenced region l l' := by
  unfold tryCommit at h
  split at h
  · cases h
    exact .refl region l
  · obtain ⟨⟨d₀, l₀⟩, hc, hr⟩ := except_map_eq_ok h
    cases hr
    exact commit_fenced hfin hc

theorem tryAbort_fenced {token : ObligationToken} {now : Time} {reason : ObligationAbortReason}
    {d : Except LedgerError Nat} (h : l.tryAbort token now reason = .ok (d, l')) :
    Fenced region l l' := by
  unfold tryAbort at h
  split at h
  · cases h
    exact .refl region l
  · obtain ⟨⟨d₀, l₀⟩, hc, hr⟩ := except_map_eq_ok h
    cases hr
    exact abort_fenced hfin hc

theorem abortById_fenced {id : ObligationId} {now : Time} {reason : ObligationAbortReason}
    {d : Nat} (h : l.abortById id now reason = .ok (d, l')) : Fenced region l l' := by
  unfold abortById at h
  split at h
  · cases h
    exact .refl region l
  · rename_i hnot
    rw [← orPanic_ok h]
    refine resolveId_fenced fun r hr hreg => hnot ?_
    -- the record's region is the finalized one, so the fence was taken
    simp only [hr, Option.map_some, Option.any_some, hreg]
    exact hfin

theorem tryAbortById_fenced (id : ObligationId) (now : Time) (reason : ObligationAbortReason) :
    Fenced region l (l.tryAbortById id now reason).2 := by
  unfold tryAbortById
  split
  · exact .refl region l
  · rename_i r hr
    split
    · exact .refl region l
    · rename_i hnot
      split
      · exact .refl region l
      · refine resolveId_fenced fun r' hr' hreg => ?_
        rw [hr, Option.some.injEq] at hr'
        subst hr'
        exact ne_of_not_finalized hfin hnot hreg

end Calls

/-- The drain loop: each turn is a `try_abort_by_id`, which keeps the
frame and so the region finalized for the next turn. -/
theorem foldl_drainStep_fenced (now : Time) (reason : ObligationAbortReason) :
    ∀ (ids : List ObligationId) (acc : RegionObligationDrain × ObligationLedger),
      acc.2.isRegionFinalized region = true →
        Fenced region acc.2 (ids.foldl (drainStep now reason) acc).2
  | [], acc, _ => .refl region acc.2
  | id :: ids, acc, hfin => by
      have hstep : Fenced region acc.2 (drainStep now reason acc id).2 :=
        tryAbortById_fenced hfin id now reason
      exact hstep.trans (foldl_drainStep_fenced now reason ids _ (hstep.isRegionFinalized hfin))

theorem abortPendingForRegion_fenced (hfin : l.isRegionFinalized region = true)
    (region' : RegionId) (now : Time) (reason : ObligationAbortReason) :
    Fenced region l (l.abortPendingForRegion region' now reason).2 := by
  unfold abortPendingForRegion
  split
  · exact .refl region l
  · exact foldl_drainStep_fenced now reason _ (_, l) hfin

-- ============================================================ acquisition

theorem acquireInternal_fenced (hbelow : KeysBelow l) (hfin : l.isRegionFinalized region = true)
    {kind : ObligationKind} {holder : TaskId} {region' : RegionId} {now : Time}
    {description : Option String} {token : ObligationToken}
    (h : l.acquireInternal kind holder region' now description = .ok (token, l')) :
    Fenced region l l' := by
  unfold acquireInternal at h
  split at h
  · cases h
  · rename_i hnot
    split at h
    · cases h
    · cases h
      -- the new record is in the admitted region, under the fresh cursor ID
      refine fenced_insert (fun r hr => absurd (hr.symm.trans hbelow.cursorId_fresh) (by simp))
        ?_ rfl rfl
      cases description <;> exact ne_of_not_finalized hfin hnot

theorem tryAcquireWithContext_fenced (hbelow : KeysBelow l)
    (hfin : l.isRegionFinalized region = true) (kind : ObligationKind) (holder : TaskId)
    (region' : RegionId) (now : Time) (description : Option String) :
    Fenced region l (l.tryAcquireWithContext kind holder region' now description).2 := by
  unfold tryAcquireWithContext
  split
  · rename_i token l₁ h
    exact acquireInternal_fenced hbelow hfin h
  · exact .refl region l
  · exact .refl region l

theorem acquireWithContext_fenced (hbelow : KeysBelow l)
    (hfin : l.isRegionFinalized region = true) {kind : ObligationKind} {holder : TaskId}
    {region' : RegionId} {now : Time} {description : Option String} {token : ObligationToken}
    (h : l.acquireWithContext kind holder region' now description = .ok (token, l')) :
    Fenced region l l' := by
  unfold acquireWithContext at h
  split at h
  · rename_i r hr
    cases h
    exact acquireInternal_fenced hbelow hfin hr
  · cases h

-- ============================================================== the calls

/-- The calls that keep the frame: all but `mark_leaked` and `reset`. -/
def LedgerOp.keepsFence : LedgerOp → Bool
  | .markLeaked .. | .reset => false
  | _ => true

/-- The step lemma of the fence. -/
theorem exec_fenced (hbelow : KeysBelow l) (hfin : l.isRegionFinalized region = true)
    {op : LedgerOp} {o : LedgerOutput} (hop : op.keepsFence = true)
    (h : l.exec op = .ok (o, l')) : Fenced region l l' := by
  cases op with
  | acquire kind holder region' now =>
      obtain ⟨⟨t, l₁⟩, hc, hr⟩ := except_map_eq_ok h
      cases hr
      exact acquireWithContext_fenced hbelow hfin hc
  | acquireWithContext kind holder region' now description =>
      obtain ⟨⟨t, l₁⟩, hc, hr⟩ := except_map_eq_ok h
      cases hr
      exact acquireWithContext_fenced hbelow hfin hc
  | tryAcquire kind holder region' now =>
      simp only [exec, tryAcquire, Except.ok.injEq, Prod.mk.injEq] at h
      obtain ⟨-, rfl⟩ := h
      exact tryAcquireWithContext_fenced hbelow hfin kind holder region' now none
  | tryAcquireWithContext kind holder region' now description =>
      simp only [exec, Except.ok.injEq, Prod.mk.injEq] at h
      obtain ⟨-, rfl⟩ := h
      exact tryAcquireWithContext_fenced hbelow hfin kind holder region' now description
  | commit token now =>
      obtain ⟨⟨d, l₁⟩, hc, hr⟩ := except_map_eq_ok h
      cases hr
      exact commit_fenced hfin hc
  | abort token now reason =>
      obtain ⟨⟨d, l₁⟩, hc, hr⟩ := except_map_eq_ok h
      cases hr
      exact abort_fenced hfin hc
  | tryCommit token now =>
      obtain ⟨⟨d, l₁⟩, hc, hr⟩ := except_map_eq_ok h
      cases hr
      exact tryCommit_fenced hfin hc
  | tryAbort token now reason =>
      obtain ⟨⟨d, l₁⟩, hc, hr⟩ := except_map_eq_ok h
      cases hr
      exact tryAbort_fenced hfin hc
  | abortById id now reason =>
      obtain ⟨⟨d, l₁⟩, hc, hr⟩ := except_map_eq_ok h
      cases hr
      exact abortById_fenced hfin hc
  | tryAbortById id now reason =>
      simp only [exec, Except.ok.injEq, Prod.mk.injEq] at h
      obtain ⟨-, rfl⟩ := h
      exact tryAbortById_fenced hfin id now reason
  | markLeaked id now => cases hop
  | markRegionFinalized region' =>
      simp only [exec, Except.ok.injEq, Prod.mk.injEq] at h
      obtain ⟨-, rfl⟩ := h
      exact ⟨fun _ _ _ => Iff.rfl, fun _ h => List.mem_insert_of_mem h⟩
  | abortPendingForRegion region' now reason =>
      simp only [exec, Except.ok.injEq, Prod.mk.injEq] at h
      obtain ⟨-, rfl⟩ := h
      exact abortPendingForRegion_fenced hfin region' now reason
  | reset => cases hop

/-- `mark_leaked` resolves without the fence but leaves the set alone. -/
theorem markLeaked_finalizedRegions {id : ObligationId} {now : Time} {d : Nat}
    (h : l.markLeaked id now = .ok (d, l')) : l'.finalizedRegions = l.finalizedRegions := by
  unfold markLeaked at h
  rw [← orPanic_ok h, resolveId_finalizedRegions]

/-- The region stays finalized until `reset`. -/
theorem exec_isRegionFinalized (hbelow : KeysBelow l) (hfin : l.isRegionFinalized region = true)
    {op : LedgerOp} {o : LedgerOutput} (hop : op ≠ .reset) (h : l.exec op = .ok (o, l')) :
    l'.isRegionFinalized region = true := by
  cases hk : op.keepsFence with
  | true => exact (exec_fenced hbelow hfin hk h).isRegionFinalized hfin
  | false =>
      cases op with
      | markLeaked id now =>
          obtain ⟨⟨d, l₁⟩, hc, hr⟩ := except_map_eq_ok h
          cases hr
          simpa only [isRegionFinalized, markLeaked_finalizedRegions hc] using hfin
      | reset => exact absurd rfl hop
      | _ => cases hk

-- ================================================================ the fence

theorem finalized_region_fence {l : ObligationLedger} {region : RegionId} (hinv : LedgerInv l)
    (hfin : l.isRegionFinalized region = true) :
    (∀ token now reason, token.region = region →
      l.commit token now = .ok (0, l) ∧ l.abort token now reason = .ok (0, l) ∧
      l.tryCommit token now = .ok (.error (.RegionFinalized region token.id), l) ∧
      l.tryAbort token now reason = .ok (.error (.RegionFinalized region token.id), l)) ∧
    (∀ id r now reason, l.get id = some r → r.region = region →
      l.abortById id now reason = .ok (0, l) ∧
      l.tryAbortById id now reason = (.error (.RegionFinalized region id), l)) ∧
    (∀ now reason, l.abortPendingForRegion region now reason =
      (⟨(l.pendingIdsForRegion region).length, 0, (l.pendingIdsForRegion region).length, 0, 0⟩,
        l)) ∧
    (∀ kind holder now,
      l.tryAcquire kind holder region now = (.error (.RegionFinalized region sentinelId), l)) ∧
    (∀ op o l', op.keepsFence = true → l.exec op = .ok (o, l') → SameIn region l l') ∧
    (∀ op o l', op ≠ .reset → l.exec op = .ok (o, l') → l'.isRegionFinalized region = true) := by
  have hc : region ∈ l.finalizedRegions := List.contains_iff_mem.mp hfin
  refine ⟨fun token now reason htok => ?_, fun id r now reason hr hreg => ?_,
    fun now reason => ?_, fun kind holder now => ?_,
    fun op o l' hop h => (exec_fenced hinv.below hfin hop h).same,
    fun op o l' hop h => exec_isRegionFinalized hinv.below hfin hop h⟩
  · -- the token's region is tested first
    subst htok
    simp [commit, abort, tryCommit, tryAbort, hc]
  · -- by ID, the test goes through the record's region
    unfold get at hr
    subst hreg
    simp [abortById, tryAbortById, hr, hc]
  · simp [abortPendingForRegion, hc]
  · simp [tryAcquire, tryAcquireWithContext, acquireInternal, hc]

/-- A pending obligation of a region finalized after it was acquired: it
cannot be aborted by ID, and stays pending. -/
theorem finalized_region_fence_pending :
    ∃ outs l₁ l, Machine.runOut step new
        [.acquire .Ack ⟨⟨0, 0⟩⟩ ⟨⟨0, 0⟩⟩ 5, .markRegionFinalized ⟨⟨0, 0⟩⟩] =
          some (outs, [new, l₁, l]) ∧
      LedgerInv l ∧ l.isRegionFinalized ⟨⟨0, 0⟩⟩ = true ∧
      l.tryAbortById ⟨⟨0, 0⟩⟩ 7 .Cancel = (.error (.RegionFinalized ⟨⟨0, 0⟩⟩ ⟨⟨0, 0⟩⟩), l) ∧
      (l.get ⟨⟨0, 0⟩⟩).map (·.state) = some .Reserved := by
  have hrun : Machine.runOut step new
      [.acquire .Ack ⟨⟨0, 0⟩⟩ ⟨⟨0, 0⟩⟩ 5, .markRegionFinalized ⟨⟨0, 0⟩⟩] =
        some (_, [new, _, _]) := rfl
  have hinv := run_ledgerInv _ hrun _ (List.mem_cons_of_mem _ (List.mem_cons_of_mem _
    (List.mem_singleton_self _)))
  exact ⟨_, _, _, hrun, hinv, rfl,
    ((@finalized_region_fence _ ⟨⟨0, 0⟩⟩ hinv rfl).2.1 ⟨⟨0, 0⟩⟩ _ 7 .Cancel rfl rfl).2, rfl⟩

end ObligationLedger

end Asupersync
