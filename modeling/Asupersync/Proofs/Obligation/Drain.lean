/-
Draining a region's obligations (`ObligationLedger::abort_pending_for_region`
in `obligation/ledger.rs`).

# Method

The drain snapshots the region's pending IDs in key order, then aborts
each through `try_abort_by_id`. On a ledger whose statistics agree with
its records, as every reachable ledger's do, an ID whose record is still
`Reserved` in a region that is not finalized takes the `Ok` branch of
`try_abort_by_id`: the record is there, it is pending, and `pending` is
not zero (`tryAbortById_of_pending`). The snapshot's IDs are distinct
keys, so aborting one leaves the records of the others as they were, and
the loop aborts them all (`foldl_drainStep_pending`). The ledger it
leaves is the old one with each record passed through `drainRecord`.
-/
import Asupersync.Proofs.Obligation.Bookkeeping

namespace Asupersync

namespace ObligationLedger

/-- A record as an abort at `now` for `reason` leaves it. -/
def abortRecord (now : Time) (reason : ObligationAbortReason) (rec : ObligationRecord) :
    ObligationRecord :=
  { rec with state := .Aborted, resolvedAt := some now, abortReason := some reason }

/-- What draining `region` makes of a record: a pending record of the
region is aborted, every other record stays as it is. -/
def drainRecord (region : RegionId) (now : Time) (reason : ObligationAbortReason)
    (rec : ObligationRecord) : ObligationRecord :=
  if rec.region = region ∧ rec.state = .Reserved then abortRecord now reason rec else rec

variable {l : ObligationLedger}

-- ============================================================ the snapshot

theorem mem_pendingIdsForRegion {region : RegionId} {id : ObligationId} :
    id ∈ l.pendingIdsForRegion region ↔
      ∃ rec, l.obligations.get? id = some rec ∧ rec.region = region ∧ rec.state = .Reserved := by
  simp only [pendingIdsForRegion, List.mem_map, List.mem_filter, Bool.and_eq_true, beq_iff_eq]
  constructor
  · rintro ⟨⟨id', rec⟩, ⟨hmem, hregion, hstate⟩, rfl⟩
    exact ⟨rec, (l.obligations.mem_entries_iff id' rec).mp hmem, hregion, hstate⟩
  · rintro ⟨rec, found, hregion, hstate⟩
    exact ⟨(id, rec), ⟨(l.obligations.mem_entries_iff id rec).mpr found, hregion, hstate⟩, rfl⟩

/-- The snapshot's IDs are keys, which are distinct. -/
theorem pendingIdsForRegion_nodup (region : RegionId) : (l.pendingIdsForRegion region).Nodup := by
  have hsorted := l.obligations.sorted
  have hsub : ((l.obligations.entries.filter fun e => e.2.region == region && e.2.state == .Reserved).map
      Prod.fst).Sublist (l.obligations.entries.map Prod.fst) :=
    (List.filter_sublist).map Prod.fst
  exact (hsorted.sublist hsub).imp ne_of_lt

theorem length_pendingIdsForRegion (region : RegionId) :
    (l.pendingIdsForRegion region).length = l.pendingForRegion region := by
  rw [pendingIdsForRegion, pendingForRegion, OrdMap.values, List.countP_eq_length_filter,
    List.filter_map, List.length_map, List.length_map]
  rfl

-- ============================================================ one abort

theorem resolvedAt_get (id id' : ObligationId) (r : PendingRecord) (now : Time)
    (res : ObligationResolution) :
    (l.resolvedAt id r now res).obligations.get? id' =
      if id' = id then some (r.1.resolveWith now res r.2).2 else l.obligations.get? id' := by
  simp [resolvedAt, countedAt]

/-- A pending record of a region that is not finalized: `try_abort_by_id`
returns `Ok` and resolves it in place. -/
theorem tryAbortById_of_pending (hagree : StatsAgree l) {id : ObligationId}
    {rec : ObligationRecord} (found : l.obligations.get? id = some rec) (hr : rec.state = .Reserved)
    (hfin : l.finalizedRegions.contains rec.region = false) (now : Time)
    (reason : ObligationAbortReason) :
    ∃ hp : rec.isPending = true, l.tryAbortById id now reason =
      (.ok (now - rec.reservedAt), l.resolvedAt id ⟨rec, hp⟩ now (.Abort reason)) := by
  have hp : rec.isPending = true := (ObligationRecord.isPending_iff rec).mpr hr
  have hpos : l.stats.pending ≠ 0 := hagree.pending_ne_zero found hr
  have hpend : l.pendingRecordForIdMut id = .ok ⟨rec, hp⟩ := by
    simp [pendingRecordForIdMut, found, hp]
  refine ⟨hp, ?_⟩
  simp only [tryAbortById, found, hfin, hr, Bool.false_eq_true, if_false, ne_eq,
    not_true_eq_false, resolveId, hpend]
  -- `resolve_at` rewrites the record only, so `pending` is still the old one
  rw [finishResolution_eq,
    if_neg (show (l.resolveAt id ⟨rec, hp⟩ now (.Abort reason)).2.stats.pending ≠ 0 from hpos)]
  rfl

-- ============================================================ the loop

/-- The drain loop over distinct IDs, each still `Reserved` in a region
that is not finalized when the loop starts: every turn takes the `Ok`
branch, so the summary counts each as aborted, `pending` drops by one a
turn, and exactly the listed records are aborted. The recursion is on
the list; the IDs not yet reached are untouched by each turn because
they differ from the one it aborts. -/
theorem foldl_drainStep_pending (now : Time) (reason : ObligationAbortReason) :
    ∀ (ids : List ObligationId) (s : RegionObligationDrain) (l : ObligationLedger),
      LedgerInv l → ids.Nodup →
      (∀ id ∈ ids, ∃ rec, l.obligations.get? id = some rec ∧ rec.state = .Reserved ∧
        l.finalizedRegions.contains rec.region = false) →
      (ids.foldl (drainStep now reason) (s, l)).1 = { s with aborted := s.aborted + ids.length } ∧
      (ids.foldl (drainStep now reason) (s, l)).2.stats.pending + ids.length = l.stats.pending ∧
      ∀ id, (ids.foldl (drainStep now reason) (s, l)).2.obligations.get? id =
        if id ∈ ids then (l.obligations.get? id).map (abortRecord now reason)
        else l.obligations.get? id
  | [], s, l, _, _, _ => ⟨rfl, rfl, fun _ => rfl⟩
  | id :: ids, s, l, hinv, hnd, hpend => by
      obtain ⟨rec, found, hr, hfin⟩ := hpend id List.mem_cons_self
      obtain ⟨hp, htry⟩ := tryAbortById_of_pending hinv.agree found hr hfin now reason
      have hpos : l.stats.pending ≠ 0 := hinv.agree.pending_ne_zero found hr
      obtain ⟨hfresh, hnd'⟩ := List.nodup_cons.mp hnd
      -- the first turn aborts `id` and nothing else
      have hstep : drainStep now reason (s, l) id =
          ({ s with aborted := s.aborted + 1 }, l.resolvedAt id ⟨rec, hp⟩ now (.Abort reason)) := by
        simp [drainStep, htry, RegionObligationDrain.tally]
      have hinv₁ : LedgerInv (l.resolvedAt id ⟨rec, hp⟩ now (.Abort reason)) :=
        (LedgerMove.resolve id ⟨rec, hp⟩ now _ found hpos).inv hinv
      have hpend₁ : ∀ id' ∈ ids, ∃ rec', (l.resolvedAt id ⟨rec, hp⟩ now (.Abort reason)).obligations.get? id' =
          some rec' ∧ rec'.state = .Reserved ∧
          (l.resolvedAt id ⟨rec, hp⟩ now (.Abort reason)).finalizedRegions.contains rec'.region = false := by
        intro id' hid'
        have hne : id' ≠ id := fun h => hfresh (h ▸ hid')
        rw [resolvedAt_get, if_neg hne]
        exact hpend id' (List.mem_cons_of_mem _ hid')
      obtain ⟨hs, hpending, hget⟩ := foldl_drainStep_pending now reason ids _ _ hinv₁ hnd' hpend₁
      rw [List.foldl_cons, hstep]
      refine ⟨?_, ?_, fun id' => ?_⟩
      · rw [hs, List.length_cons, Nat.add_comm ids.length 1, Nat.add_assoc]
      · have h₁ : (l.resolvedAt id ⟨rec, hp⟩ now (.Abort reason)).stats.pending =
            l.stats.pending - 1 := rfl
        rw [List.length_cons]
        omega
      · rw [hget, resolvedAt_get]
        by_cases hid : id' = id
        · subst hid
          simp [hfresh, found, abortRecord, ObligationRecord.resolveWith, ObligationRecord.resolve,
            ObligationResolution.state, ObligationResolution.abortReason]
        · by_cases hmem : id' ∈ ids
          · simp [hid, hmem]
          · simp [hid, hmem]

-- ============================================================ the drain

/-- Draining a region that is not finalized, on a ledger with the
invariant: the summary observes and aborts every pending record of the
region and counts nothing else, no pending record of the region is left,
the records become `drainRecord`'s image, and `pending` drops by their
number. -/
theorem abortPendingForRegion_drains (hinv : LedgerInv l) {region : RegionId}
    (hfin : l.isRegionFinalized region = false) (now : Time) (reason : ObligationAbortReason) :
    (l.abortPendingForRegion region now reason).1 =
        ⟨l.pendingForRegion region, l.pendingForRegion region, 0, 0, 0⟩ ∧
      (∀ id, (l.abortPendingForRegion region now reason).2.get id =
        (l.get id).map (drainRecord region now reason)) ∧
      (l.abortPendingForRegion region now reason).2.stats.pending + l.pendingForRegion region =
        l.stats.pending := by
  have hcontains : l.finalizedRegions.contains region = false := hfin
  have hpend : ∀ id ∈ l.pendingIdsForRegion region, ∃ rec, l.obligations.get? id = some rec ∧
      rec.state = .Reserved ∧ l.finalizedRegions.contains rec.region = false := by
    intro id hid
    obtain ⟨rec, found, hregion, hstate⟩ := mem_pendingIdsForRegion.mp hid
    exact ⟨rec, found, hstate, hregion ▸ hcontains⟩
  obtain ⟨hs, hpending, hget⟩ := foldl_drainStep_pending now reason (l.pendingIdsForRegion region)
    ⟨(l.pendingIdsForRegion region).length, 0, 0, 0, 0⟩ l hinv (pendingIdsForRegion_nodup region) hpend
  unfold abortPendingForRegion
  dsimp only
  rw [if_neg (by rw [hcontains]; exact Bool.false_ne_true), length_pendingIdsForRegion] at *
  refine ⟨?_, fun id => ?_, hpending⟩
  · rw [hs]
    simp only [Nat.zero_add]
  · rw [get, hget id, get]
    by_cases hmem : id ∈ l.pendingIdsForRegion region
    · obtain ⟨rec, found, hregion, hstate⟩ := mem_pendingIdsForRegion.mp hmem
      simp [hmem, found, drainRecord, hregion, hstate]
    · rw [if_neg hmem]
      cases found : l.obligations.get? id with
      | none => rfl
      | some rec =>
          -- a record outside the snapshot is not a pending record of the region
          have hnot : ¬(rec.region = region ∧ rec.state = .Reserved) := fun h =>
            hmem (mem_pendingIdsForRegion.mpr ⟨rec, found, h.1, h.2⟩)
          simp [drainRecord, hnot]

/-- After the drain no record of the region is pending. -/
theorem pendingForRegion_drainRecord {l' : ObligationLedger} {region : RegionId} {now : Time}
    {reason : ObligationAbortReason}
    (h : ∀ id, l'.get id = (l.get id).map (drainRecord region now reason)) :
    l'.pendingForRegion region = 0 := by
  rw [pendingForRegion, List.countP_eq_zero]
  intro rec' hmem
  obtain ⟨⟨id, rec''⟩, hentry, rfl⟩ := List.mem_map.mp hmem
  have found' := (l'.obligations.mem_entries_iff id rec'').mp hentry
  have := h id
  rw [get, found'] at this
  obtain ⟨rec, -, rfl⟩ := Option.map_eq_some_iff.mp this.symm
  simp only [Bool.and_eq_true, beq_iff_eq, not_and]
  unfold drainRecord
  split
  · simp [abortRecord]
  · rename_i hnot
    intro hregion hstate
    exact hnot ⟨hregion, hstate⟩

/-- Region drain completeness: on every ledger a run of returning calls
reaches, draining a region that is not finalized observes and aborts
exactly its pending records (and counts nothing else), leaves none of the
region pending, aborts exactly those records with the given reason while
every other record stays as it was, and lowers `pending` by their number. -/
theorem region_drain_completeness (ops : List LedgerOp) {outs : List LedgerOutput}
    {tr : List ObligationLedger} (hrun : Machine.runOut step new ops = some (outs, tr)) :
    ∀ l ∈ tr, ∀ (region : RegionId) (now : Time) (reason : ObligationAbortReason),
      l.isRegionFinalized region = false →
      (l.abortPendingForRegion region now reason).1 =
          ⟨l.pendingForRegion region, l.pendingForRegion region, 0, 0, 0⟩ ∧
      (l.abortPendingForRegion region now reason).2.pendingForRegion region = 0 ∧
      (∀ id, (l.abortPendingForRegion region now reason).2.get id =
        (l.get id).map (drainRecord region now reason)) ∧
      (l.abortPendingForRegion region now reason).2.stats.pending + l.pendingForRegion region =
        l.stats.pending := by
  intro l hl region now reason hfin
  obtain ⟨hs, hget, hpending⟩ := abortPendingForRegion_drains (run_ledgerInv ops hrun l hl) hfin now reason
  exact ⟨hs, pendingForRegion_drainRecord hget, hget, hpending⟩

/-- One obligation acquired in region `(0, 0)`, then the region drained:
nothing of it stays pending. -/
theorem region_drain_completeness_one_pending :
    ∃ outs tr, Machine.runOut step new [.acquire .Ack ⟨⟨0, 0⟩⟩ ⟨⟨0, 0⟩⟩ 5] = some (outs, tr) ∧
      ∀ l ∈ tr, l.isRegionFinalized ⟨⟨0, 0⟩⟩ = false →
        (l.abortPendingForRegion ⟨⟨0, 0⟩⟩ 9 .Cancel).2.pendingForRegion ⟨⟨0, 0⟩⟩ = 0 :=
  ⟨_, _, rfl, fun l hl hfin =>
    (region_drain_completeness [.acquire .Ack ⟨⟨0, 0⟩⟩ ⟨⟨0, 0⟩⟩ 5] rfl l hl _ 9 .Cancel hfin).2.1⟩

end ObligationLedger

end Asupersync
