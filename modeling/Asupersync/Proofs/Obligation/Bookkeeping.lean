/-
The obligation ledger's bookkeeping, over every run of calls that return.

# The invariant

`LedgerInv` is two facts about a ledger:

- `StatsAgree`: each statistic equals the number of records in its state
  (`LedgerStats.ofState` names the statistic of a state), and the acquired
  total equals the number of records;
- `KeysBelow`: every key sits strictly below the cursor
  `(generation, next_index)` in issue order (generation first).

Both are proved move by move (`LedgerMove.inv`). The cursor ID is never a
key, which is what makes `acquire` insert rather than overwrite; and a
`resolveUnderflow` move cannot happen, since a pending record is counted
by a nonzero `pending`.

# Records never come back

`Later l l'` says what every later ledger keeps of an earlier one: the
cursor has not moved back, and every record of `l'` was either in `l`,
unchanged unless it was still `Reserved` there, or is new, with an ID at
or above `l`'s cursor. It is transitive because an ID below the cursor is
never minted again; so it holds between any two ledgers of a run
(`Machine.runOut_pairwise`). In particular a record that has left
`Reserved` is, wherever it appears later, the same record.

# IDs are minted once

A minted ID is the cursor ID, which the step then makes a key, hence
strictly below the new cursor: `Machine.runOut_tickets` makes the minted
IDs strictly increase in issue order. The `checked_add` guards on the
index and the generation are what keep the cursor from wrapping.
-/
import Asupersync.Machine.Exec
import Asupersync.Proofs.Obligation.Moves

namespace Asupersync

/-- Where an ID sits in issue order: generation first, then index. -/
def ObligationId.issueKey (id : ObligationId) : Lex (Nat × Nat) :=
  toLex (id.arena.generation.toNat, id.arena.index.toNat)

/-- The statistic that counts the records in a state. -/
def LedgerStats.ofState (s : LedgerStats) : ObligationState → Nat
  | .Reserved => s.pending
  | .Committed => s.totalCommitted
  | .Aborted => s.totalAborted
  | .Leaked => s.totalLeaked

namespace ObligationLedger

variable {l l' : ObligationLedger}

/-- The number of records in a state. -/
def countState (l : ObligationLedger) (st : ObligationState) : Nat :=
  l.obligations.values.countP (·.state == st)

/-- The cursor `(generation, next_index)`, in issue order. -/
def cursor (l : ObligationLedger) : Lex (Nat × Nat) :=
  toLex (l.generation.toNat, l.nextIndex.toNat)

theorem issueKey_cursorId (l : ObligationLedger) : l.cursorId.issueKey = l.cursor := rfl

-- ============================================================ the counts

theorem foldl_recordState (c : ObligationCounts) :
    ∀ rs : List ObligationRecord, rs.foldl (fun c r => c.recordState r.state) c =
      ⟨c.pending + rs.countP (·.state == .Reserved), c.committed + rs.countP (·.state == .Committed),
        c.aborted + rs.countP (·.state == .Aborted), c.leaked + rs.countP (·.state == .Leaked)⟩
  | [] => by simp
  | r :: rs => by
      rw [List.foldl_cons, foldl_recordState]
      cases hs : r.state <;> simp [ObligationCounts.recordState, hs] <;> omega

/-- `counts` is the per-state record count. -/
theorem counts_eq (l : ObligationLedger) :
    l.counts = ⟨l.countState .Reserved, l.countState .Committed, l.countState .Aborted,
      l.countState .Leaked⟩ := by
  simp [counts, ObligationCounts.fromRecords, foldl_recordState, countState]

/-- Overwriting the record `old` under `id` with `new`, counted by state. -/
theorem countState_insert {id : ObligationId} {old : ObligationRecord}
    (found : l.obligations.get? id = some old) (new : ObligationRecord) (st : ObligationState) :
    (l.obligations.insert id new).values.countP (·.state == st) + (if old.state = st then 1 else 0) =
      l.countState st + (if new.state = st then 1 else 0) := by
  have h := l.obligations.countP_values_insert (·.state == st) id new
  rw [found] at h
  simpa [countState] using h

/-- A pending record is counted. -/
theorem countState_reserved_pos {id : ObligationId} {r : ObligationRecord}
    (found : l.obligations.get? id = some r) (hr : r.state = .Reserved) :
    0 < l.countState .Reserved := by
  have hmem : r ∈ l.obligations.values :=
    List.mem_map.mpr ⟨(id, r), (l.obligations.mem_entries_iff id r).mpr found, rfl⟩
  exact List.countP_pos_iff.mpr ⟨r, hmem, by simp [hr]⟩

-- ============================================================ invariant

/-- The statistics agree with the records. -/
structure StatsAgree (l : ObligationLedger) : Prop where
  byState : ∀ st, l.stats.ofState st = l.countState st
  acquired : l.stats.totalAcquired = l.obligations.entries.length

/-- Every key sits below the cursor. -/
def KeysBelow (l : ObligationLedger) : Prop :=
  ∀ id r, l.obligations.get? id = some r → id.issueKey < l.cursor

/-- The ledger invariant. -/
structure LedgerInv (l : ObligationLedger) : Prop where
  agree : StatsAgree l
  below : KeysBelow l

theorem ledgerInv_new : LedgerInv new where
  agree := ⟨fun st => by cases st <;> rfl, rfl⟩
  below := fun _ _ h => by simp [new] at h

/-- A pending record keeps `pending` off zero. -/
theorem StatsAgree.pending_ne_zero (h : StatsAgree l) {id : ObligationId} {r : ObligationRecord}
    (found : l.obligations.get? id = some r) (hr : r.state = .Reserved) : l.stats.pending ≠ 0 := by
  have := h.byState .Reserved
  have hpos := countState_reserved_pos found hr
  simp only [LedgerStats.ofState] at this
  omega

/-- The cursor ID is not a key. -/
theorem KeysBelow.cursorId_fresh (h : KeysBelow l) : l.obligations.get? l.cursorId = none := by
  cases hget : l.obligations.get? l.cursorId with
  | none => rfl
  | some r =>
      have := h _ r hget
      rw [issueKey_cursorId] at this
      exact absurd this (lt_irrefl _)

-- the statistics after one resolution

theorem resolvedAt_ofState (id : ObligationId) (r : PendingRecord) (now : Time)
    (res : ObligationResolution) (hp : l.stats.pending ≠ 0) (st : ObligationState) :
    (l.resolvedAt id r now res).stats.ofState st + (if ObligationState.Reserved = st then 1 else 0) =
      l.stats.ofState st + (if res.state = st then 1 else 0) := by
  cases res <;> cases st <;>
    simp [resolvedAt, countedAt, LedgerStats.countResolution, LedgerStats.ofState,
      ObligationResolution.state] <;> omega

theorem resolvedAt_countState {id : ObligationId} {r : PendingRecord} (now : Time)
    (res : ObligationResolution) (found : l.obligations.get? id = some r.1) (st : ObligationState) :
    (l.resolvedAt id r now res).countState st + (if ObligationState.Reserved = st then 1 else 0) =
      l.countState st + (if res.state = st then 1 else 0) := by
  have hr : r.1.state = .Reserved := (ObligationRecord.isPending_iff r.1).mp r.2
  have h := countState_insert found (r.1.resolveWith now res r.2).2 st
  rw [hr, ObligationRecord.resolveWith_state] at h
  exact h

theorem acquire_countState {record : ObligationRecord} (fresh : l.obligations.get? l.cursorId = none)
    (hstate : record.state = .Reserved) (st : ObligationState) :
    (l.obligations.insert l.cursorId record).values.countP (·.state == st) =
      l.countState st + (if ObligationState.Reserved = st then 1 else 0) := by
  have h := l.obligations.countP_values_insert (·.state == st) l.cursorId record
  rw [fresh] at h
  simpa [countState, hstate] using h

-- the cursor under each move

theorem cursor_lt_of_checkedAdd_index {next : UInt32} (hnext : checkedAdd l.nextIndex 1 = some next) :
    l.cursor < toLex (l.generation.toNat, next.toNat) := by
  have := toNat_of_checkedAdd hnext
  rw [cursor, Prod.Lex.toLex_lt_toLex]
  exact Or.inr ⟨rfl, by simp at this; omega⟩

theorem cursor_lt_of_checkedAdd_generation {generation : UInt32}
    (hgen : checkedAdd l.generation 1 = some generation) :
    l.cursor < toLex (generation.toNat, (0 : UInt32).toNat) := by
  have := toNat_of_checkedAdd hgen
  rw [cursor, Prod.Lex.toLex_lt_toLex]
  exact Or.inl (by simp at this; omega)

/-- Every move keeps the invariant. -/
theorem LedgerMove.inv (hm : LedgerMove l l') (hinv : LedgerInv l) : LedgerInv l' := by
  obtain ⟨⟨hst, hacq⟩, hbelow⟩ := hinv
  cases hm with
  | resolve id r now res found hp =>
      refine ⟨⟨fun st => ?_, ?_⟩, ?_⟩
      · have h₁ := resolvedAt_ofState id r now res hp st
        have h₂ := resolvedAt_countState now res found st
        rw [hst st] at h₁
        omega
      · have hlen := l.obligations.length_insert id (r.1.resolveWith now res r.2).2
        rw [found] at hlen
        simp only [Option.toList_some, List.length_singleton] at hlen
        simp only [resolvedAt, countedAt, LedgerStats.countResolution]
        cases res <;> simp only <;> omega
      · intro id' r' h'
        simp only [resolvedAt, countedAt, OrdMap.get?_insert] at h'
        split at h'
        · rename_i hid
          exact hid ▸ hbelow id r.1 found
        · exact hbelow id' r' h'
  | resolveUnderflow id r now res found hp =>
      -- a pending record is counted, so `pending` is not zero
      have hr : r.1.state = .Reserved := (ObligationRecord.isPending_iff r.1).mp r.2
      exact absurd hp (StatsAgree.pending_ne_zero ⟨hst, hacq⟩ found hr)
  | acquire record next hnext hstate =>
      have fresh := KeysBelow.cursorId_fresh hbelow
      have hlt := cursor_lt_of_checkedAdd_index hnext
      refine ⟨⟨fun st => ?_, ?_⟩, ?_⟩
      · show _ = (l.obligations.insert l.cursorId record).values.countP _
        rw [acquire_countState fresh hstate st, ← hst st]
        cases st <;> simp [LedgerStats.ofState]
      · have hlen := l.obligations.length_insert l.cursorId record
        rw [fresh] at hlen
        simp only [Option.toList_none, List.length_nil, Nat.add_zero] at hlen
        simp only
        omega
      · intro id' r' h'
        simp only [OrdMap.get?_insert] at h'
        show id'.issueKey < toLex (l.generation.toNat, next.toNat)
        split at h'
        · rename_i hid
          rw [hid, issueKey_cursorId]
          exact hlt
        · exact lt_trans (hbelow id' r' h') hlt
  | mark region =>
      exact ⟨⟨hst, hacq⟩, hbelow⟩
  | reset generation hgen hclean =>
      refine ⟨⟨fun st => by cases st <;> rfl, rfl⟩, fun _ _ h => by simp at h⟩

-- ============================================================ later ledgers

/-- What a later ledger keeps of an earlier one's records: each of its
records is an old one, unchanged if it had left `Reserved`, or one minted
at or above the old cursor. -/
def Kept (l l' : ObligationLedger) : Prop :=
  ∀ id r', l'.obligations.get? id = some r' →
    (∃ r, l.obligations.get? id = some r ∧ (r.state ≠ .Reserved → r' = r)) ∨
    (l.obligations.get? id = none ∧ l.cursor ≤ id.issueKey)

theorem kept_refl (l : ObligationLedger) : Kept l l :=
  fun _ r' h => .inl ⟨r', h, fun _ => rfl⟩

/-- `Kept` composes because an ID below the cursor is never minted again. -/
theorem Kept.trans {l₁ l₂ l₃ : ObligationLedger} (hbelow : KeysBelow l₁)
    (hle : l₁.cursor ≤ l₂.cursor) (h₁₂ : Kept l₁ l₂) (h₂₃ : Kept l₂ l₃) : Kept l₁ l₃ := by
  intro id r₃ h₃
  rcases h₂₃ id r₃ h₃ with ⟨r₂, h₂, hfrozen₂⟩ | ⟨-, hcur₂⟩
  · rcases h₁₂ id r₂ h₂ with ⟨r₁, h₁, hfrozen₁⟩ | hnew
    · refine .inl ⟨r₁, h₁, fun hr => ?_⟩
      obtain rfl := hfrozen₁ hr
      exact hfrozen₂ hr
    · exact .inr hnew
  · right
    cases h₁ : l₁.obligations.get? id with
    | none => exact ⟨rfl, le_trans hle hcur₂⟩
    | some r₁ =>
        -- a key of `l₁` sits below `l₁`'s cursor, so it was not minted after
        exact absurd (lt_of_lt_of_le (hbelow id r₁ h₁) (le_trans hle hcur₂)) (lt_irrefl _)

/-- Writing one entry keeps the old records when it overwrites a pending
record or mints an ID at or above the cursor. -/
theorem kept_insert {id : ObligationId} {v : ObligationRecord}
    (hold : ∀ r, l.obligations.get? id = some r → r.state = .Reserved)
    (hnew : l.obligations.get? id = none → l.cursor ≤ id.issueKey)
    (h : l'.obligations = l.obligations.insert id v) : Kept l l' := by
  intro id' r' h'
  rw [h, OrdMap.get?_insert] at h'
  split at h'
  · rename_i hid
    subst hid
    cases hget : l.obligations.get? id' with
    | none => exact .inr ⟨rfl, hnew hget⟩
    | some r => exact .inl ⟨r, rfl, fun hr => absurd (hold r hget) hr⟩
  · exact .inl ⟨r', h', fun _ => rfl⟩

theorem kept_of_obligations_eq (h : l'.obligations = l.obligations) : Kept l l' :=
  fun _ r' h' => .inl ⟨r', h ▸ h', fun _ => rfl⟩

theorem kept_of_empty (h : l'.obligations = .empty) : Kept l l' := by
  intro id r' h'
  simp [h] at h'

/-- What every later ledger of a run keeps of an earlier one. -/
structure Later (l l' : ObligationLedger) : Prop where
  before : LedgerInv l
  after : LedgerInv l'
  cursor_le : l.cursor ≤ l'.cursor
  kept : Kept l l'

instance : IsTrans ObligationLedger Later where
  trans _ _ _ h₁₂ h₂₃ :=
    ⟨h₁₂.before, h₂₃.after, le_trans h₁₂.cursor_le h₂₃.cursor_le,
      h₁₂.kept.trans h₁₂.before.below h₁₂.cursor_le h₂₃.kept⟩

/-- A record that has left `Reserved` is the same record wherever it
appears later. -/
theorem Later.frozen (h : Later l l') {id : ObligationId} {r r' : ObligationRecord}
    (hr : l.obligations.get? id = some r) (hr' : l'.obligations.get? id = some r')
    (hres : r.state ≠ .Reserved) : r' = r := by
  rcases h.kept id r' hr' with ⟨r₀, h₀, hfrozen⟩ | ⟨hnone, -⟩
  · rw [hr, Option.some.injEq] at h₀
    subst h₀
    exact hfrozen hres
  · rw [hr] at hnone
    cases hnone

/-- The step lemma: each move, from a ledger with the invariant. -/
theorem LedgerMove.later (hm : LedgerMove l l') (hinv : LedgerInv l) : Later l l' := by
  have hinv' := hm.inv hinv
  cases hm with
  | resolve id r now res found hp =>
      have hr : r.1.state = .Reserved := (ObligationRecord.isPending_iff r.1).mp r.2
      refine ⟨hinv, hinv', le_refl _, kept_insert ?_ ?_ rfl⟩
      · intro r₀ h₀
        rw [found, Option.some.injEq] at h₀
        exact h₀ ▸ hr
      · intro hnone
        rw [found] at hnone
        cases hnone
  | resolveUnderflow id r now res found hp =>
      have hr : r.1.state = .Reserved := (ObligationRecord.isPending_iff r.1).mp r.2
      exact absurd hp (hinv.agree.pending_ne_zero found hr)
  | acquire record next hnext hstate =>
      have fresh := hinv.below.cursorId_fresh
      refine ⟨hinv, hinv', le_of_lt (cursor_lt_of_checkedAdd_index hnext),
        kept_insert ?_ ?_ rfl⟩
      · intro r₀ h₀
        rw [fresh] at h₀
        cases h₀
      · intro _
        rw [issueKey_cursorId]
  | mark region =>
      exact ⟨hinv, hinv', le_refl _, kept_of_obligations_eq rfl⟩
  | reset generation hgen hclean =>
      exact ⟨hinv, hinv', le_of_lt (cursor_lt_of_checkedAdd_generation hgen), kept_of_empty rfl⟩

/-- The run lemma for one call: induction on its chain of moves. -/
theorem moves_later (hm : Moves l l') (hinv : LedgerInv l) : Later l l' := by
  induction hm with
  | refl => exact ⟨hinv, hinv, le_refl _, kept_refl l⟩
  | tail _ hmove ih => exact IsTrans.trans _ _ _ ih (hmove.later ih.after)

theorem exec_of_step {op : LedgerOp} {o : LedgerOutput} (h : l.step op = some (o, l')) :
    l.exec op = .ok (o, l') := by
  unfold step at h
  cases he : l.exec op with
  | error e => rw [he] at h; cases h
  | ok r => rw [he] at h; cases h; rfl

theorem step_later {op : LedgerOp} {o : LedgerOutput} (h : l.step op = some (o, l'))
    (hinv : LedgerInv l) : Later l l' :=
  moves_later (exec_moves (exec_of_step h)).1 hinv

/-- A minted ID sits at the cursor before the call and below it after. -/
theorem step_issued {op : LedgerOp} {o : LedgerOutput} (h : l.step op = some (o, l'))
    (hinv : LedgerInv l) {id : ObligationId} (hid : o.issued = some id) :
    l.cursor ≤ id.issueKey ∧ id.issueKey < l'.cursor := by
  obtain ⟨hmv, hissued⟩ := exec_moves (exec_of_step h)
  obtain ⟨rfl, hsome⟩ := hissued id hid
  obtain ⟨r, hr⟩ := Option.isSome_iff_exists.mp hsome
  exact ⟨le_of_eq (issueKey_cursorId l).symm, (moves_later hmv hinv).after.below _ r hr⟩

-- ============================================================ whole runs

theorem step_keeps : Machine.Keeps step LedgerInv :=
  fun _ _ _ _ hinv hs => (step_later hs hinv).after

/-- Every ledger a run of returning calls visits has the invariant. -/
theorem run_ledgerInv (ops : List LedgerOp) {outs : List LedgerOutput}
    {tr : List ObligationLedger} (h : Machine.runOut step new ops = some (outs, tr)) :
    ∀ l ∈ tr, LedgerInv l :=
  Machine.runOut_preserved step_keeps ops ledgerInv_new h

theorem ledger_bookkeeping (ops : List LedgerOp) {outs : List LedgerOutput}
    {tr : List ObligationLedger} (h : Machine.runOut step new ops = some (outs, tr)) :
    (∀ l ∈ tr, l.stats.pending = l.counts.pending ∧
        l.stats.totalCommitted = l.counts.committed ∧ l.stats.totalAborted = l.counts.aborted ∧
        l.stats.totalLeaked = l.counts.leaked ∧ l.stats.totalAcquired = l.len) ∧
      tr.Pairwise (fun l l' => ∀ id r r', l.get id = some r → l'.get id = some r' →
        r.state ≠ .Reserved → r' = r) ∧
      (outs.filterMap LedgerOutput.issued).Nodup := by
  refine ⟨fun l hl => ?_, ?_, ?_⟩
  · -- the invariant holds all along, and `counts` is the per-state count
    obtain ⟨⟨hst, hacq⟩, -⟩ := run_ledgerInv ops h l hl
    rw [counts_eq]
    exact ⟨hst .Reserved, hst .Committed, hst .Aborted, hst .Leaked, hacq⟩
  · have hpw := Machine.runOut_pairwise step_keeps (fun _ _ _ _ hinv hs => step_later hs hinv) ops
      ledgerInv_new h
    refine hpw.imp ?_
    intro l l' hlater id r r' hr hr' hres
    exact hlater.frozen hr hr' hres
  · -- minted IDs strictly increase in issue order
    have htickets : (outs.filterMap fun o => o.issued.map ObligationId.issueKey).Pairwise (· < ·) ∧
        ∀ k ∈ outs.filterMap (fun o => o.issued.map ObligationId.issueKey), new.cursor ≤ k :=
      Machine.runOut_tickets step_keeps (fun _ _ _ _ hinv hs => (step_later hs hinv).cursor_le)
        (fun _ _ _ _ k hinv hs hk => by
          obtain ⟨id, hid, rfl⟩ := Option.map_eq_some_iff.mp hk
          exact step_issued hs hinv hid)
        ops ledgerInv_new h
    have hpw := htickets.1
    rw [← List.map_filterMap, List.pairwise_map] at hpw
    refine hpw.imp ?_
    intro id id' hlt heq
    subst heq
    exact lt_irrefl _ hlt

/-- A run through `reset`: index 0 is minted twice, in generations 0 and 1. -/
theorem ledger_bookkeeping_across_reset :
    ∃ outs tr, Machine.runOut step new
        [.acquire .Ack ⟨⟨0, 0⟩⟩ ⟨⟨0, 0⟩⟩ 5, .commit ⟨⟨⟨0, 0⟩⟩, .Ack, ⟨⟨0, 0⟩⟩, ⟨⟨0, 0⟩⟩⟩ 9, .reset,
          .acquire .Lease ⟨⟨0, 0⟩⟩ ⟨⟨0, 0⟩⟩ 12] = some (outs, tr) ∧
      outs.filterMap LedgerOutput.issued = [⟨⟨0, 0⟩⟩, ⟨⟨0, 1⟩⟩] ∧
      (outs.filterMap LedgerOutput.issued).Nodup :=
  ⟨_, _, rfl, rfl, (ledger_bookkeeping
    [.acquire .Ack ⟨⟨0, 0⟩⟩ ⟨⟨0, 0⟩⟩ 5, .commit ⟨⟨⟨0, 0⟩⟩, .Ack, ⟨⟨0, 0⟩⟩, ⟨⟨0, 0⟩⟩⟩ 9, .reset,
      .acquire .Lease ⟨⟨0, 0⟩⟩ ⟨⟨0, 0⟩⟩ 12] rfl).2.2⟩

end ObligationLedger

end Asupersync
