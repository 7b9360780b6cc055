/-
The task record refines the abstract lifecycle, and the phase cell
mirrors the state along every run.

# The refinement

For each operation one lemma says what it does to `state`:
`startRunning_state`, `requestCancelWithBudget_moves`,
`reconcileCheckpointCancel_moves`, `acknowledgeCancel_state`,
`cleanupDone_state`, `finalizeDone_state`, `complete_state`. They assemble
into `apply_moves`: every operation, from every record, leaves a state that
`TaskState.Moves` allows. The request path is the only one that needs an
argument: the prelude can only raise the incoming reason's severity
(`cxPrelude_severity`), the state arm then takes one of the three
`CancelMove` shapes (`requestArm_moves`), and the epilogue writes the Cx only.

Beside the state, the operations keep three facts the claims read:
the phase cell agrees with the state (`apply_phaseAgrees`: every arm that
changes the constructor stores the new phase, every arm that keeps it
leaves the cell alone); a completed record is a fixed point
(`apply_of_isTerminal`, the early returns); identity, owner and (once a
cancellation is witnessed) epoch never change.

# The claim

`task_lifecycle_phase_agreement`: from `TaskRecord::new`, along every run,
the phase cell reads the state's coarse phase, every change of state is an
allowed phase transition, and a completed record is settled.
-/
import Asupersync.Machine.Run
import Asupersync.Spec.TaskLifecycle

namespace Asupersync

namespace TaskRecord

variable {E : Type}

open TaskState (Moves CancelMove)

-- ========================================================== per operation

theorem startRunning_state (t : TaskRecord E) : t.startRunning.2.state = t.state.start := by
  cases h : t.state <;> simp [startRunning, h, TaskState.start]

/-- The Cx prelude only strengthens the incoming reason. -/
theorem cxPrelude_severity (cx : Option CxInner) (r : CancelReason) (b : Budget) :
    r.severity ≤ (cxPrelude cx r b).1.severity := by
  unfold cxPrelude
  split
  · exact Nat.le_refl _
  · split
    · exact CancelReason.le_strengthen_severity_left _ _
    · exact Nat.le_refl _

/-- The state arm of the request path is a cancel move of the prelude
reason's severity. -/
theorem requestArm_moves {k : Nat} (t : TaskRecord E) (ρ : CancelReason) (β : Budget)
    (hlive : t.state.isTerminal = false) (hk : k ≤ ρ.severity) :
    CancelMove k t.state (t.requestArm ρ β).2.2.state := by
  cases h : t.state with
  | Created =>
      simp only [requestArm, h]
      exact .fresh β (.inl rfl) hk
  | Running =>
      simp only [requestArm, h]
      exact .fresh β (.inr rfl) hk
  | CancelRequested r b =>
      simp only [requestArm, h]
      exact .strengthen β (s := .CancelRequested r b) rfl hk
  | Cancelling r b =>
      simp only [requestArm, h]
      exact .strengthen β (s := .Cancelling r b) rfl hk
  | Finalizing r b =>
      simp only [requestArm, h]
      exact .strengthen β (s := .Finalizing r b) rfl hk
  | Completed o => rw [h] at hlive; cases hlive

theorem requestCancelWithBudget_moves (t : TaskRecord E) (r : CancelReason) (b : Budget) :
    CancelMove r.severity t.state (t.requestCancelWithBudget r b).2.state := by
  cases ht : t.state.isTerminal with
  | true =>
      have hfix : (t.requestCancelWithBudget r b).2 = t := by
        simp [requestCancelWithBudget, requestCancelWithBudgetAndPublication, ht]
      rw [hfix]
      exact .terminal ht
  | false =>
      have hk := cxPrelude_severity t.cxInner r b
      have hmove := requestArm_moves { t with cxInner := (cxPrelude t.cxInner r b).2.2 }
        (cxPrelude t.cxInner r b).1 (cxPrelude t.cxInner r b).2.1 ht hk
      simpa [requestCancelWithBudget, requestCancelWithBudgetAndPublication, ht] using hmove

@[simp] theorem syncCleanupBudget_state (t : TaskRecord E) :
    (syncCleanupBudget t).state = t.state := by
  cases h : t.state <;> simp [syncCleanupBudget, h]

@[simp] theorem syncCleanupBudget_phase (t : TaskRecord E) :
    (syncCleanupBudget t).phase = t.phase := by
  cases h : t.state <;> simp [syncCleanupBudget, h]

theorem reconcileCheckpointCancel_moves (t : TaskRecord E) (r : CancelReason) :
    CancelMove r.severity t.state (t.reconcileCheckpointCancel r).2.state := by
  -- the checkpoint's reason is first raised by the recorded one
  have hk := CancelReason.le_strengthen_severity_left r
  cases h : t.state with
  | Created =>
      simp only [reconcileCheckpointCancel, h, TaskState.isTerminal]
      exact .fresh _ (.inl rfl) (Nat.le_refl _)
  | Running =>
      simp only [reconcileCheckpointCancel, h, TaskState.isTerminal]
      exact .fresh _ (.inr rfl) (Nat.le_refl _)
  | CancelRequested e b =>
      simp only [reconcileCheckpointCancel, h, TaskState.isTerminal]
      exact .strengthen _ (s := .CancelRequested e b) rfl (hk e)
  | Cancelling e b =>
      simp only [reconcileCheckpointCancel, h, TaskState.isTerminal]
      exact .strengthen _ (s := .Cancelling e b) rfl (hk e)
  | Finalizing e b =>
      simp only [reconcileCheckpointCancel, h, TaskState.isTerminal]
      exact .strengthen _ (s := .Finalizing e b) rfl (hk e)
  | Completed o =>
      have hfix : (t.reconcileCheckpointCancel r).2 = t := by
        simp [reconcileCheckpointCancel, h, TaskState.isTerminal]
      rw [hfix, h]
      exact .terminal rfl

theorem acknowledgeCancel_state (t : TaskRecord E) :
    t.acknowledgeCancel.2.state = t.state.ack := by
  cases h : t.state <;> simp [acknowledgeCancel, h, TaskState.ack]

theorem cleanupDone_state (t : TaskRecord E) : t.cleanupDone.2.state = t.state.cleanup := by
  cases h : t.state <;> simp [cleanupDone, h, TaskState.cleanup]

theorem finalizeDone_state (t : TaskRecord E) : t.finalizeDone.2.state = t.state.finalize := by
  cases h : t.state <;> simp [finalizeDone, finalizeDoneWithWitness, h, TaskState.finalize]

theorem complete_state (t : TaskRecord E) (o : Outcome Unit E) :
    (t.complete o).2.state = t.state.completeWith o := by
  unfold complete TaskState.completeWith
  cases t.state.isTerminal <;> rfl

/-- The record refines the abstract lifecycle. -/
theorem apply_moves (t : TaskRecord E) (op : TaskOp E) : Moves op t.state (t.apply op).state := by
  cases op with
  | startRunning => exact startRunning_state t
  | requestCancelWithBudget r b => exact requestCancelWithBudget_moves t r b
  | reconcileCheckpointCancel r => exact reconcileCheckpointCancel_moves t r
  | acknowledgeCancel => exact acknowledgeCancel_state t
  | cleanupDone => exact cleanupDone_state t
  | finalizeDone => exact finalizeDone_state t
  | complete o => exact complete_state t o

-- ===================================================== completed records

/-- Every operation returns early on a completed record. -/
theorem apply_of_isTerminal {t : TaskRecord E} (h : t.state.isTerminal = true) (op : TaskOp E) :
    t.apply op = t := by
  obtain ⟨o, ho⟩ : ∃ o, t.state = .Completed o := by
    cases hs : t.state with
    | Completed o => exact ⟨o, rfl⟩
    | _ => rw [hs] at h; cases h
  cases op with
  | startRunning => simp [apply, startRunning, ho]
  | requestCancelWithBudget r b =>
      simp [apply, requestCancelWithBudget, requestCancelWithBudgetAndPublication, h]
  | reconcileCheckpointCancel r => simp [apply, reconcileCheckpointCancel, h]
  | acknowledgeCancel => simp [apply, acknowledgeCancel, ho]
  | cleanupDone => simp [apply, cleanupDone, ho]
  | finalizeDone => simp [apply, finalizeDone, finalizeDoneWithWitness, ho]
  | complete o => simp [apply, complete, h]

theorem settled_of_isTerminal {t : TaskRecord E} (h : t.state.isTerminal = true) :
    Machine.Settled apply t :=
  apply_of_isTerminal h

-- ======================================================= the phase cell

/-- The phase cell reads the coarse phase of the state. -/
def PhaseAgrees (t : TaskRecord E) : Prop := t.phase.load = t.state.coarsePhase

theorem phaseAgrees_new (id : TaskId) (owner : RegionId) (budget : Budget) :
    PhaseAgrees (new id owner budget : TaskRecord E) := by
  simp [PhaseAgrees, new, TaskState.coarsePhase]

theorem requestArm_phaseAgrees {t : TaskRecord E} (ρ : CancelReason) (β : Budget)
    (h : PhaseAgrees t) : PhaseAgrees (t.requestArm ρ β).2.2 := by
  unfold PhaseAgrees at h ⊢
  cases hs : t.state <;> simp [requestArm, hs, TaskState.coarsePhase]
  simp_all [TaskState.coarsePhase]

/-- Every arm either stores the phase of the state it leaves, or keeps
both the constructor and the cell. -/
theorem apply_phaseAgrees {t : TaskRecord E} (op : TaskOp E) (h : PhaseAgrees t) :
    PhaseAgrees (t.apply op) := by
  cases op with
  | startRunning =>
      unfold PhaseAgrees at h ⊢
      cases hs : t.state <;> simp [apply, startRunning, hs, TaskState.coarsePhase] <;> simp_all [TaskState.coarsePhase]
  | requestCancelWithBudget r b =>
      cases ht : t.state.isTerminal with
      | true => rw [apply_of_isTerminal ht]; exact h
      | false =>
          have harm := requestArm_phaseAgrees (t := { t with cxInner := (cxPrelude t.cxInner r b).2.2 })
            (cxPrelude t.cxInner r b).1 (cxPrelude t.cxInner r b).2.1 h
          simpa [PhaseAgrees, apply, requestCancelWithBudget,
            requestCancelWithBudgetAndPublication, ht] using harm
  | reconcileCheckpointCancel r =>
      unfold PhaseAgrees at h ⊢
      cases hs : t.state <;>
        simp [apply, reconcileCheckpointCancel, hs, TaskState.isTerminal,
          TaskState.coarsePhase] <;> simp_all [TaskState.coarsePhase]
  | acknowledgeCancel =>
      unfold PhaseAgrees at h ⊢
      cases hs : t.state <;> simp [apply, acknowledgeCancel, hs, TaskState.coarsePhase] <;>
        simp_all [TaskState.coarsePhase]
  | cleanupDone =>
      unfold PhaseAgrees at h ⊢
      cases hs : t.state <;> simp [apply, cleanupDone, hs, TaskState.coarsePhase] <;> simp_all [TaskState.coarsePhase]
  | finalizeDone =>
      unfold PhaseAgrees at h ⊢
      cases hs : t.state <;>
        simp [apply, finalizeDone, finalizeDoneWithWitness, hs, TaskState.coarsePhase] <;>
        simp_all [TaskState.coarsePhase]
  | complete o =>
      cases ht : t.state.isTerminal with
      | true => rw [apply_of_isTerminal ht]; exact h
      | false => simp [PhaseAgrees, apply, complete, ht, TaskState.coarsePhase]

-- ============================================================ the claim

/-- Along every run from `TaskRecord::new`: (a) the phase cell reads the
coarse phase of the state after every step, (b) every change of state is a
transition `TaskPhase::is_valid_transition` allows, and (c) a completed
record is left unchanged by every operation. -/
theorem task_lifecycle_phase_agreement (id : TaskId) (owner : RegionId) (budget : Budget)
    (ops : List (TaskOp E)) :
    let tr := Machine.trace apply (new id owner budget) ops
    (∀ t ∈ tr, t.phase.load = t.state.coarsePhase) ∧
    tr.IsChain (fun t t' =>
      t'.state = t.state ∨ t.state.coarsePhase.isValidTransition t'.state.coarsePhase = true) ∧
    (∀ t ∈ tr, t.state.isTerminal = true → ∀ op, t.apply op = t) := by
  have hinit := phaseAgrees_new (E := E) id owner budget
  have hpres : Machine.Preserved apply (PhaseAgrees (E := E)) :=
    fun t op h => apply_phaseAgrees op h
  refine ⟨Machine.mem_trace_preserved hpres ops hinit, ?_, ?_⟩
  · -- each step is a lifecycle move, and every move is a valid transition
    exact Machine.trace_isChain hpres
      (fun t op _ => TaskState.Moves.valid_transition (apply_moves t op)) ops hinit
  · intro t _ ht op
    exact apply_of_isTerminal ht op

end TaskRecord

end Asupersync
