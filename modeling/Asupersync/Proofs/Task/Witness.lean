/-
Cancellation monotonicity of a task: the witness stream, the cleanup
budget and the final reason.

# Method

Each of the three is an observation of the record that one step can only
advance, until the record completes and stops moving:

- `cancel_witness` is the lifecycle's witness view stamped with the
  record's id, owner and epoch. The view advances by `Moves.witnessView`;
  id and owner never change; the epoch of a record in a cancellation state
  never changes (`apply_cancelEpoch`), because only the two request paths
  bump it, and only from `Created`/`Running`, and `complete` sets it only
  from zero. So `witness_observed` feeds `Machine.trace_filterMap_pairwise`.
- `cleanup_budget` is the budget of the cancellation data, which
  `Moves.cancelData` only tightens (`budget_observed`).
- the severity of every reason handed to a request on a live record is a
  floor of the state it leaves (`CancelMove.sevAtLeast`), every later move
  keeps the floor (`Moves.sevAtLeast`), and a `Completed(Cancelled(r))`
  state's floor is `r`'s severity.
-/
import Asupersync.Proofs.Task.Lifecycle

namespace Asupersync

namespace TaskRecord

variable {E : Type}

open TaskState (Moves CancelMove)

-- ================================================= identity and epoch

theorem apply_id_owner (t : TaskRecord E) (op : TaskOp E) :
    (t.apply op).id = t.id ∧ (t.apply op).owner = t.owner := by
  cases ht : t.state.isTerminal with
  | true => rw [apply_of_isTerminal ht]; exact ⟨rfl, rfl⟩
  | false =>
      cases op <;> cases hs : t.state <;>
        simp [apply, startRunning, requestCancelWithBudget, requestCancelWithBudgetAndPublication,
          requestArm, reconcileCheckpointCancel, syncCleanupBudget, acknowledgeCancel,
          cleanupDone, finalizeDone, finalizeDoneWithWitness, complete, hs, TaskState.isTerminal]

/-- A record in a cancellation state keeps a nonzero epoch. -/
theorem apply_cancelEpoch {t : TaskRecord E} (op : TaskOp E) (hd : t.state.cancelData ≠ none)
    (he : t.cancelEpoch ≠ 0) : (t.apply op).cancelEpoch = t.cancelEpoch := by
  cases hs : t.state with
  | Created => rw [hs] at hd; exact absurd rfl hd
  | Running => rw [hs] at hd; exact absurd rfl hd
  | Completed o => rw [hs] at hd; exact absurd rfl hd
  | CancelRequested r b | Cancelling r b | Finalizing r b =>
      cases op <;>
        simp [apply, startRunning, requestCancelWithBudget, requestCancelWithBudgetAndPublication,
          requestArm, reconcileCheckpointCancel, syncCleanupBudget, acknowledgeCancel,
          cleanupDone, finalizeDone, finalizeDoneWithWitness, complete, hs,
          TaskState.isTerminal, he]

-- ======================================================= the read-outs

/-- `cancel_witness` is the witness view, stamped. -/
theorem cancelWitness_eq (t : TaskRecord E) :
    t.cancelWitness = if t.cancelEpoch = 0 then none
      else t.state.witnessView.map fun v => ⟨t.id, t.owner, t.cancelEpoch, v.1, v.2⟩ := by
  unfold cancelWitness
  cases t.state <;> rfl

theorem cleanupBudget_eq (t : TaskRecord E) :
    t.cleanupBudget = t.state.cancelData.map Prod.snd := by
  unfold cleanupBudget
  cases t.state <;> rfl

theorem cancelWitness_of_isTerminal {t : TaskRecord E} (h : t.state.witnessView = none) :
    t.cancelWitness = none := by
  rw [cancelWitness_eq, h]
  split <;> rfl

-- =============================================== the observation steps

/-- One step advances a witness or ends the stream for good. -/
theorem witness_observed :
    Machine.Observed (apply (E := E)) (fun _ => True) cancelWitness CancelWitness.Advance := by
  intro t op w _ hw
  rw [cancelWitness_eq] at hw
  split at hw
  · cases hw
  · rename_i he
    obtain ⟨v, hv, rfl⟩ := Option.map_eq_some_iff.mp hw
    obtain ⟨hid, howner⟩ := apply_id_owner t op
    -- the epoch is frozen: either the record is settled, or it is cancelling
    have hepoch : (t.apply op).cancelEpoch = t.cancelEpoch := by
      cases ht : t.state.isTerminal with
      | true => rw [apply_of_isTerminal ht]
      | false =>
          apply apply_cancelEpoch op _ he
          cases hs : t.state <;> rw [hs] at hv <;> simp_all [TaskState.witnessView,
            TaskState.cancelData, TaskState.isTerminal]
    rcases TaskState.Moves.witnessView (apply_moves t op) hv with
      ⟨p', r', hv', hrank, hsev⟩ | ⟨hnone, hterm⟩
    · left
      refine ⟨⟨t.id, t.owner, t.cancelEpoch, p', r'⟩, ?_, ⟨rfl, rfl, rfl, hrank, hsev⟩⟩
      rw [cancelWitness_eq, hepoch, if_neg he, hv', hid, howner]
      rfl
    · right
      exact ⟨cancelWitness_of_isTerminal hnone, settled_of_isTerminal hterm⟩

/-- One step tightens a held cleanup budget or ends the cancellation for good. -/
theorem budget_observed :
    Machine.Observed (apply (E := E)) (fun _ => True) cleanupBudget
      (fun b b' => Budget.NoLooser b' b) := by
  intro t op b _ hb
  rw [cleanupBudget_eq] at hb
  obtain ⟨⟨r, b₀⟩, hd, rfl⟩ := Option.map_eq_some_iff.mp hb
  rcases TaskState.Moves.cancelData (apply_moves t op) hd with
    ⟨r', b', hd', hle⟩ | hterm
  · left
    exact ⟨b', by rw [cleanupBudget_eq, hd']; rfl, hle⟩
  · right
    refine ⟨?_, settled_of_isTerminal hterm⟩
    rw [cleanupBudget_eq]
    cases hs : (t.apply op).state with
    | Completed o => rfl
    | _ => rw [hs] at hterm; cases hterm

/-- A severity floor survives a whole run. -/
theorem run_sevAtLeast {k : Nat} :
    ∀ {t : TaskRecord E} (ops : List (TaskOp E)), t.state.SevAtLeast k →
      (Machine.run apply t ops).state.SevAtLeast k :=
  Machine.run_preserved (P := fun t : TaskRecord E => t.state.SevAtLeast k)
    fun t op h => TaskState.Moves.sevAtLeast (apply_moves t op) h

-- ============================================================ the claim

/-- The reason a cancel request hands to the record, if `op` is one. -/
def TaskOp.requestedReason : TaskOp E → Option CancelReason
  | .requestCancelWithBudget r _ => some r
  | .reconcileCheckpointCancel r => some r
  | _ => none

/-- Along every run from `TaskRecord::new`: the witnesses `cancel_witness`
reports after each step (absent ones skipped) are accepted pairwise by
`CancelWitness::validate_transition` and the first passes
`validate_initial`; the cleanup budgets held in the cancellation states
only tighten; and a task that ends `Completed(Cancelled(r))` has `r` at
least as severe as every reason a cancel request handed it while it was
live. -/
theorem cancel_monotonicity (id : TaskId) (owner : RegionId) (budget : Budget)
    (ops : List (TaskOp E)) :
    let tr := Machine.trace apply (new id owner budget) ops
    (tr.filterMap cancelWitness).Pairwise
      (fun w w' => CancelWitness.validateTransition (some w) w' = .ok ()) ∧
    (∀ w ∈ (tr.filterMap cancelWitness).head?, w.validateInitial = .ok ()) ∧
    (tr.filterMap cleanupBudget).Pairwise (fun b b' => Budget.NoLooser b' b) ∧
    (∀ (pre : List (TaskOp E)) (op : TaskOp E) (post : List (TaskOp E)) (ρ r : CancelReason),
      ops = pre ++ op :: post → op.requestedReason = some ρ →
      (Machine.run apply (new id owner budget) pre).state.isTerminal = false →
      (Machine.run apply (new id owner budget) ops).state = .Completed (.Cancelled r) →
      ρ.severity ≤ r.severity) := by
  have htrue : Machine.Preserved (apply (E := E)) fun _ => True := fun _ _ _ => trivial
  refine ⟨?_, ?_, ?_, ?_⟩
  · have h := Machine.trace_filterMap_pairwise htrue witness_observed
      (s := new id owner budget) ops trivial
    exact h.imp fun hadv => (CancelWitness.validateTransition_eq_ok_iff _ _).mpr hadv
  · -- every witness carries the nonzero epoch it was stamped with
    intro w hw
    obtain ⟨t, -, htw⟩ := List.mem_filterMap.mp (List.mem_of_mem_head? hw)
    rw [cancelWitness_eq] at htw
    split at htw
    · cases htw
    · rename_i he
      obtain ⟨v, -, rfl⟩ := Option.map_eq_some_iff.mp htw
      simp [CancelWitness.validateInitial, he]
  · exact Machine.trace_filterMap_pairwise htrue budget_observed
      (s := new id owner budget) ops trivial
  · intro pre op post ρ r hops hop hlive hend
    -- the request leaves a floor at `ρ`, and the rest of the run keeps it
    have hfloor : ((Machine.run apply (new id owner budget) pre).apply op).state.SevAtLeast
        ρ.severity := by
      have hmove := apply_moves (Machine.run apply (new id owner budget) pre) op
      cases op with
      | requestCancelWithBudget r' b' =>
          cases hop
          exact CancelMove.sevAtLeast hmove hlive
      | reconcileCheckpointCancel r' =>
          cases hop
          exact CancelMove.sevAtLeast hmove hlive
      | _ => cases hop
    have hrun := run_sevAtLeast post hfloor
    rw [hops, Machine.run_append, Machine.run_cons] at hend
    rw [hend] at hrun
    exact hrun

end TaskRecord

end Asupersync
