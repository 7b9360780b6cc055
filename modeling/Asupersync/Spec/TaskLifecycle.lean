/-
The task lifecycle as an abstract transition relation: what each
operation may do to a `TaskState`, with the data a cancellation carries
kept only as far as the monotonicity arguments need it.

# The relation

`Moves op s s'` says that `s'` is a state `op` may leave behind from `s`:

- `start_running` moves `Created` to `Running` and fixes every other state;
- a cancel request of severity `k` (`request_cancel_with_budget` and
  `reconcile_checkpoint_cancel` alike, `CancelMove k`) fixes a terminal
  state, moves `Created`/`Running` to `CancelRequested` with a reason of
  severity at least `k`, and in a cancellation state strengthens the reason
  in place by one of severity at least `k` and meets the budget with
  another, keeping the constructor;
- acknowledgement, cleanup and finalization are the three forward moves of
  the cancellation protocol and fix every other state;
- `complete` fixes a terminal state and sends every other one to
  `Completed` with the outcome `complete` computes.

Both request paths are one constructor set because they differ only in
where the stronger reason comes from (the Cx reason for a request, the
recorded reason for a checkpoint reconcile): the arguments below never
look at its provenance, only at its severity.

# What it guarantees

- `Moves.eq_of_isTerminal`: a completed state never moves;
- `Moves.valid_transition`: every change of state is a change of coarse
  phase allowed by `TaskPhase::is_valid_transition`, self-loops included;
- `Moves.sevAtLeast`: a severity floor, once reached, survives every move;
- `CancelMove.sevAtLeast`: a request of severity `k` on a live task puts
  the floor at `k`;
- `Moves.cancelData` and `Moves.witnessView`: a cancellation's budget only
  tightens, its witnessed phase rank and reason severity only grow, until
  the task completes.
-/
import Asupersync.Record.Task

namespace Asupersync

namespace TaskState

variable {E : Type}

open TaskRecord (completionOutcome)

-- ========================================================= read-outs

/-- The reason and budget a cancellation state carries. -/
def cancelData : TaskState E → Option (CancelReason × Budget)
  | .CancelRequested r b | .Cancelling r b | .Finalizing r b => some (r, b)
  | _ => none

/-- Replace a cancellation state's reason and budget, keeping its
constructor; other states are returned as they are. -/
def withCancelData (s : TaskState E) (r : CancelReason) (b : Budget) : TaskState E :=
  match s with
  | .CancelRequested .. => .CancelRequested r b
  | .Cancelling .. => .Cancelling r b
  | .Finalizing .. => .Finalizing r b
  | s => s

/-- The phase and reason `cancel_witness` reports for a state. -/
def witnessView : TaskState E → Option (CancelPhase × CancelReason)
  | .CancelRequested r _ => some (.Requested, r)
  | .Cancelling r _ => some (.Cancelling, r)
  | .Finalizing r _ => some (.Finalizing, r)
  | .Completed (.Cancelled r) => some (.Completed, r)
  | _ => none

/-- The cancellation severity floor of a state: its reason (or its
cancelled outcome's reason) is at least `k` severe, or it panicked. A live
task below any cancellation, and a task that completed normally, have no
floor. -/
def SevAtLeast (k : Nat) : TaskState E → Prop
  | .CancelRequested r _ | .Cancelling r _ | .Finalizing r _ => k ≤ r.severity
  | .Completed (.Cancelled r) => k ≤ r.severity
  | .Completed (.Panicked _) => True
  | _ => False

-- ======================================================== the moves

/-- `Created → Running`. -/
def start : TaskState E → TaskState E
  | .Created => .Running
  | s => s

/-- `CancelRequested → Cancelling`. -/
def ack : TaskState E → TaskState E
  | .CancelRequested r b => .Cancelling r b
  | s => s

/-- `Cancelling → Finalizing`. -/
def cleanup : TaskState E → TaskState E
  | .Cancelling r b => .Finalizing r b
  | s => s

/-- `Finalizing → Completed(Cancelled)`. -/
def finalize : TaskState E → TaskState E
  | .Finalizing r _ => .Completed (.Cancelled r)
  | s => s

/-- Completion with `outcome`, ignored once terminal. -/
def completeWith (s : TaskState E) (outcome : Outcome Unit E) : TaskState E :=
  if s.isTerminal then s else .Completed (completionOutcome s outcome)

/-- What a cancel request of severity at least `k` may do. -/
inductive CancelMove (k : Nat) : TaskState E → TaskState E → Prop
  | terminal {s : TaskState E} (h : s.isTerminal = true) : CancelMove k s s
  | fresh {s : TaskState E} {ρ : CancelReason} (β : Budget)
      (hs : s = .Created ∨ s = .Running) (hk : k ≤ ρ.severity) :
      CancelMove k s (.CancelRequested ρ β)
  | strengthen {s : TaskState E} {r ρ : CancelReason} {b : Budget} (β : Budget)
      (hs : s.cancelData = some (r, b)) (hk : k ≤ ρ.severity) :
      CancelMove k s (s.withCancelData (r.strengthen ρ).2 (b.combineUntraced β))

/-- The abstract lifecycle: the states `op` may leave behind from `s`. -/
def Moves : TaskRecord.TaskOp E → TaskState E → TaskState E → Prop
  | .startRunning, s, s' => s' = s.start
  | .requestCancelWithBudget r _, s, s' => CancelMove r.severity s s'
  | .reconcileCheckpointCancel r, s, s' => CancelMove r.severity s s'
  | .acknowledgeCancel, s, s' => s' = s.ack
  | .cleanupDone, s, s' => s' = s.cleanup
  | .finalizeDone, s, s' => s' = s.finalize
  | .complete outcome, s, s' => s' = s.completeWith outcome

-- ================================================ small read-out facts

@[simp] theorem cancelData_withCancelData {s : TaskState E} {r : CancelReason}
    {b : Budget} (r' : CancelReason) (b' : Budget) (hs : s.cancelData = some (r, b)) :
    (s.withCancelData r' b').cancelData = some (r', b') := by
  cases s <;> first | rfl | cases hs

theorem coarsePhase_withCancelData {s : TaskState E} {r : CancelReason} {b : Budget}
    (r' : CancelReason) (b' : Budget) (hs : s.cancelData = some (r, b)) :
    (s.withCancelData r' b').coarsePhase = s.coarsePhase := by
  cases s <;> rfl

theorem isTerminal_eq_false_of_cancelData {s : TaskState E} {r : CancelReason}
    {b : Budget} (hs : s.cancelData = some (r, b)) : s.isTerminal = false := by
  cases s <;> first | rfl | cases hs

/-- A cancellation state's witness reports its own reason. -/
theorem witnessView_of_cancelData {s : TaskState E} {r : CancelReason} {b : Budget}
    (hs : s.cancelData = some (r, b)) : ∃ p, s.witnessView = some (p, r) := by
  cases s with
  | CancelRequested r₀ b₀ => cases hs; exact ⟨_, rfl⟩
  | Cancelling r₀ b₀ => cases hs; exact ⟨_, rfl⟩
  | Finalizing r₀ b₀ => cases hs; exact ⟨_, rfl⟩
  | Created => cases hs
  | Running => cases hs
  | Completed o => cases hs

theorem witnessView_withCancelData {s : TaskState E} {r : CancelReason} {b : Budget}
    (r' : CancelReason) (b' : Budget) (hs : s.cancelData = some (r, b)) :
    ∃ p, s.witnessView = some (p, r) ∧ (s.withCancelData r' b').witnessView = some (p, r') := by
  cases s with
  | CancelRequested r₀ b₀ => cases hs; exact ⟨_, rfl, rfl⟩
  | Cancelling r₀ b₀ => cases hs; exact ⟨_, rfl, rfl⟩
  | Finalizing r₀ b₀ => cases hs; exact ⟨_, rfl, rfl⟩
  | Created => cases hs
  | Running => cases hs
  | Completed o => cases hs

-- ================================================ terminal states

theorem CancelMove.eq_of_isTerminal {k : Nat} {s s' : TaskState E}
    (h : CancelMove k s s') (hs : s.isTerminal = true) : s' = s := by
  cases h with
  | terminal _ => rfl
  | fresh β hcr hk => rcases hcr with rfl | rfl <;> cases hs
  | strengthen β hd hk => rw [isTerminal_eq_false_of_cancelData hd] at hs; cases hs

/-- A completed task never moves. -/
theorem Moves.eq_of_isTerminal {op : TaskRecord.TaskOp E} {s s' : TaskState E}
    (h : Moves op s s') (hs : s.isTerminal = true) : s' = s := by
  cases s with
  | Completed o =>
      cases op with
      | startRunning => exact h
      | requestCancelWithBudget r b => exact CancelMove.eq_of_isTerminal h hs
      | reconcileCheckpointCancel r => exact CancelMove.eq_of_isTerminal h hs
      | acknowledgeCancel => exact h
      | cleanupDone => exact h
      | finalizeDone => exact h
      | complete outcome => rw [h]; rfl
  | _ => cases hs

-- ============================================== phase-table validity

/-- The coarse phase of a completion is `Completed`. -/
theorem coarsePhase_completeWith_of_live {s : TaskState E} (o : Outcome Unit E)
    (hs : s.isTerminal = false) : (s.completeWith o).coarsePhase = .Completed := by
  unfold completeWith
  rw [hs]
  rfl

/-- Every live phase may complete. -/
theorem isValidTransition_completed_of_live {s : TaskState E} (hs : s.isTerminal = false) :
    s.coarsePhase.isValidTransition .Completed = true := by
  cases s <;> first | rfl | cases hs

/-- Every strengthening of a cancellation state is a legal self-transition. -/
theorem isValidTransition_self_of_cancelData {s : TaskState E} {r : CancelReason}
    {b : Budget} (hs : s.cancelData = some (r, b)) :
    s.coarsePhase.isValidTransition s.coarsePhase = true := by
  cases s <;> first | rfl | cases hs

theorem CancelMove.valid_transition {k : Nat} {s s' : TaskState E} (h : CancelMove k s s') :
    s' = s ∨ s.coarsePhase.isValidTransition s'.coarsePhase = true := by
  cases h with
  | terminal _ => exact .inl rfl
  | fresh β hcr hk => rcases hcr with rfl | rfl <;> exact .inr rfl
  | strengthen β hd hk =>
      right
      rw [coarsePhase_withCancelData _ _ hd]
      exact isValidTransition_self_of_cancelData hd

/-- Every change of state the lifecycle allows is allowed by the phase
table. -/
theorem Moves.valid_transition {op : TaskRecord.TaskOp E} {s s' : TaskState E}
    (h : Moves op s s') : s' = s ∨ s.coarsePhase.isValidTransition s'.coarsePhase = true := by
  cases op with
  | requestCancelWithBudget r b => exact CancelMove.valid_transition h
  | reconcileCheckpointCancel r => exact CancelMove.valid_transition h
  | startRunning =>
      subst h
      cases s <;> first | exact .inl rfl | exact .inr rfl
  | acknowledgeCancel =>
      subst h
      cases s <;> first | exact .inl rfl | exact .inr rfl
  | cleanupDone =>
      subst h
      cases s <;> first | exact .inl rfl | exact .inr rfl
  | finalizeDone =>
      subst h
      cases s <;> first | exact .inl rfl | exact .inr rfl
  | complete outcome =>
      subst h
      cases hs : s.isTerminal with
      | true =>
          left
          unfold completeWith
          rw [hs, if_pos rfl]
      | false =>
          right
          rw [coarsePhase_completeWith_of_live outcome hs]
          exact isValidTransition_completed_of_live hs

-- ================================================== completion outcomes

/-- Inside a cancellation, completion records a cancellation at least as
severe as the current reason, unless the task panicked. -/
theorem completionOutcome_of_cancelData {s : TaskState E} {r : CancelReason} {b : Budget}
    (o : Outcome Unit E) (hs : s.cancelData = some (r, b)) :
    (∃ r', completionOutcome s o = .Cancelled r' ∧ r.severity ≤ r'.severity) ∨
      ∃ p, completionOutcome s o = .Panicked p := by
  have hle := Nat.le_refl r.severity
  cases s with
  | CancelRequested r₀ b₀ =>
      cases hs
      cases o with
      | Ok v => exact .inl ⟨r, rfl, hle⟩
      | Err e => exact .inl ⟨r, rfl, hle⟩
      | Cancelled o' => exact .inl ⟨_, rfl, CancelReason.le_strengthen_severity_left r o'⟩
      | Panicked p => exact .inr ⟨p, rfl⟩
  | Cancelling r₀ b₀ =>
      cases hs
      cases o with
      | Ok v => exact .inl ⟨r, rfl, hle⟩
      | Err e => exact .inl ⟨r, rfl, hle⟩
      | Cancelled o' => exact .inl ⟨_, rfl, CancelReason.le_strengthen_severity_left r o'⟩
      | Panicked p => exact .inr ⟨p, rfl⟩
  | Finalizing r₀ b₀ =>
      cases hs
      cases o with
      | Ok v => exact .inl ⟨r, rfl, hle⟩
      | Err e => exact .inl ⟨r, rfl, hle⟩
      | Cancelled o' => exact .inl ⟨_, rfl, CancelReason.le_strengthen_severity_left r o'⟩
      | Panicked p => exact .inr ⟨p, rfl⟩
  | Created => cases hs
  | Running => cases hs
  | Completed o => cases hs

theorem completeWith_of_cancelData {s : TaskState E} {r : CancelReason} {b : Budget}
    (o : Outcome Unit E) (hs : s.cancelData = some (r, b)) :
    s.completeWith o = .Completed (completionOutcome s o) := by
  unfold completeWith
  rw [isTerminal_eq_false_of_cancelData hs]
  rfl

-- ==================================================== severity floors

theorem sevAtLeast_of_cancelData {k : Nat} {s : TaskState E} {r : CancelReason}
    {b : Budget} (hs : s.cancelData = some (r, b)) : SevAtLeast k s ↔ k ≤ r.severity := by
  cases s <;> first | cases hs; exact Iff.rfl | cases hs

/-- A severity floor survives completion. -/
theorem sevAtLeast_completeWith {k : Nat} {s : TaskState E} (o : Outcome Unit E)
    (h : SevAtLeast k s) : SevAtLeast k (s.completeWith o) := by
  cases hd : s.cancelData with
  | none =>
      -- below a cancellation only a completed state has a floor, and it stays
      cases s with
      | Completed o' => exact h
      | Created => exact absurd h id
      | Running => exact absurd h id
      | CancelRequested r b => cases hd
      | Cancelling r b => cases hd
      | Finalizing r b => cases hd
  | some rb =>
      obtain ⟨r, b⟩ := rb
      have hk := (sevAtLeast_of_cancelData hd).mp h
      rw [completeWith_of_cancelData o hd]
      rcases completionOutcome_of_cancelData o hd with ⟨r', hr', hle⟩ | ⟨p, hp⟩
      · rw [hr']
        exact Nat.le_trans hk hle
      · rw [hp]
        trivial

theorem CancelMove.sevAtLeast_preserved {k k' : Nat} {s s' : TaskState E}
    (h : CancelMove k s s') (hs : SevAtLeast k' s) : SevAtLeast k' s' := by
  cases h with
  | terminal _ => exact hs
  | fresh β hcr hk => rcases hcr with rfl | rfl <;> exact absurd hs id
  | strengthen β hd hk =>
      rw [sevAtLeast_of_cancelData (cancelData_withCancelData _ _ hd)]
      exact Nat.le_trans ((sevAtLeast_of_cancelData hd).mp hs)
        (CancelReason.le_strengthen_severity_left _ _)

/-- A request of severity `k` on a live task sets the floor at `k`. -/
theorem CancelMove.sevAtLeast {k : Nat} {s s' : TaskState E} (h : CancelMove k s s')
    (hlive : s.isTerminal = false) : SevAtLeast k s' := by
  cases h with
  | terminal ht => rw [hlive] at ht; cases ht
  | fresh β hcr hk => exact hk
  | strengthen β hd hk =>
      rw [sevAtLeast_of_cancelData (cancelData_withCancelData _ _ hd)]
      exact Nat.le_trans hk (CancelReason.le_strengthen_severity_right _ _)

/-- Every move keeps a severity floor. -/
theorem Moves.sevAtLeast {k : Nat} {op : TaskRecord.TaskOp E} {s s' : TaskState E}
    (h : Moves op s s') (hs : SevAtLeast k s) : SevAtLeast k s' := by
  cases op with
  | requestCancelWithBudget r b => exact CancelMove.sevAtLeast_preserved h hs
  | reconcileCheckpointCancel r => exact CancelMove.sevAtLeast_preserved h hs
  | complete o => rw [h]; exact sevAtLeast_completeWith o hs
  | startRunning =>
      subst h
      cases s <;> exact hs
  | acknowledgeCancel =>
      subst h
      cases s <;> exact hs
  | cleanupDone =>
      subst h
      cases s <;> exact hs
  | finalizeDone =>
      subst h
      cases s <;> exact hs

-- ======================================================= budgets

/-- A cancellation's budget only tightens while the task is live. -/
theorem Moves.cancelData {op : TaskRecord.TaskOp E} {s s' : TaskState E} {r : CancelReason}
    {b : Budget} (h : Moves op s s') (hs : s.cancelData = some (r, b)) :
    (∃ r' b', s'.cancelData = some (r', b') ∧ Budget.NoLooser b' b) ∨
      s'.isTerminal = true := by
  have hstay : s' = s → (∃ r' b', s'.cancelData = some (r', b') ∧ Budget.NoLooser b' b) ∨
      s'.isTerminal = true := by
    rintro rfl
    exact .inl ⟨r, b, hs, Budget.NoLooser.refl b⟩
  cases op with
  | requestCancelWithBudget r₀ b₀ | reconcileCheckpointCancel r₀ =>
      cases h with
      | terminal _ => exact hstay rfl
      | fresh β hcr hk => rcases hcr with rfl | rfl <;> cases hs
      | strengthen β hd hk =>
          rw [hs] at hd
          cases hd
          exact .inl ⟨_, _, cancelData_withCancelData _ _ hs,
            Budget.combineUntraced_noLooser_left b β⟩
  | complete o =>
      right
      rw [h, completeWith_of_cancelData o hs]
      rfl
  | startRunning =>
      subst h
      cases s <;> first | exact hstay rfl | cases hs
  | acknowledgeCancel =>
      subst h
      cases s <;> first | exact hstay rfl | (cases hs; exact .inl ⟨_, _, rfl, Budget.NoLooser.refl b⟩)
  | cleanupDone =>
      subst h
      cases s <;> first | exact hstay rfl | (cases hs; exact .inl ⟨_, _, rfl, Budget.NoLooser.refl b⟩)
  | finalizeDone =>
      subst h
      cases s <;> first | exact hstay rfl | exact .inr rfl

-- =================================================== witness views

/-- What a witness view may become in one move: the same or a later
phase with an equally or more severe reason, or nothing at all once the
task has completed without a cancellation. -/
def ViewAdvance (v : CancelPhase × CancelReason) (s' : TaskState E) : Prop :=
  (∃ p' r', s'.witnessView = some (p', r') ∧ v.1.rank ≤ p'.rank ∧ v.2.severity ≤ r'.severity) ∨
    (s'.witnessView = none ∧ s'.isTerminal = true)

theorem viewAdvance_self {s : TaskState E} {v : CancelPhase × CancelReason}
    (h : s.witnessView = some v) : ViewAdvance v s :=
  .inl ⟨v.1, v.2, h, Nat.le_refl _, Nat.le_refl _⟩

/-- Completing a cancellation state advances its witness view. -/
theorem viewAdvance_completeWith {s : TaskState E} {r : CancelReason} {b : Budget}
    {p : CancelPhase} (o : Outcome Unit E) (hs : s.cancelData = some (r, b))
    (hv : s.witnessView = some (p, r)) : ViewAdvance (p, r) (s.completeWith o) := by
  rw [completeWith_of_cancelData o hs]
  have hrank : p.rank ≤ CancelPhase.Completed.rank := by
    cases p <;> decide
  rcases completionOutcome_of_cancelData o hs with ⟨r', hr', hle⟩ | ⟨q, hq⟩
  · exact .inl ⟨.Completed, r', by rw [hr']; rfl, hrank, hle⟩
  · exact .inr ⟨by rw [hq]; rfl, rfl⟩

/-- Every move advances the witness view of a witnessed state. -/
theorem Moves.witnessView {op : TaskRecord.TaskOp E} {s s' : TaskState E}
    {v : CancelPhase × CancelReason} (h : Moves op s s') (hv : s.witnessView = some v) :
    ViewAdvance v s' := by
  cases ht : s.isTerminal with
  | true =>
      rw [Moves.eq_of_isTerminal h ht]
      exact viewAdvance_self hv
  | false =>
      -- a live witnessed state is a cancellation state
      obtain ⟨r, b, hs, hvr⟩ : ∃ r b, s.cancelData = some (r, b) ∧ v.2 = r := by
        cases s with
        | CancelRequested r b => exact ⟨r, b, rfl, by cases hv; rfl⟩
        | Cancelling r b => exact ⟨r, b, rfl, by cases hv; rfl⟩
        | Finalizing r b => exact ⟨r, b, rfl, by cases hv; rfl⟩
        | Created => cases hv
        | Running => cases hv
        | Completed o => cases ht
      obtain ⟨p, hp⟩ := witnessView_of_cancelData hs
      have hvp : v = (p, r) := by
        rw [hv] at hp
        exact Option.some.inj hp
      subst hvp
      cases op with
      | requestCancelWithBudget r₀ b₀ | reconcileCheckpointCancel r₀ =>
          cases h with
          | terminal _ => exact viewAdvance_self hv
          | fresh β hcr hk => rcases hcr with rfl | rfl <;> cases hs
          | strengthen β hd hk =>
              rw [hs] at hd
              cases hd
              obtain ⟨q, hq, hq'⟩ := witnessView_withCancelData
                (CancelReason.strengthen r _).2 (b.combineUntraced β) hs
              rw [hv] at hq
              cases hq
              exact .inl ⟨_, _, hq', Nat.le_refl _, CancelReason.le_strengthen_severity_left _ _⟩
      | complete o =>
          rw [h]
          exact viewAdvance_completeWith o hs hv
      | startRunning =>
          subst h
          cases s <;> exact viewAdvance_self hv
      | acknowledgeCancel =>
          subst h
          cases s with
          | CancelRequested r₀ b₀ =>
              cases hs
              cases hv
              exact .inl ⟨.Cancelling, r, rfl, by simp [CancelPhase.rank], Nat.le_refl _⟩
          | _ => exact viewAdvance_self hv
      | cleanupDone =>
          subst h
          cases s with
          | Cancelling r₀ b₀ =>
              cases hs
              cases hv
              exact .inl ⟨.Finalizing, r, rfl, by simp [CancelPhase.rank], Nat.le_refl _⟩
          | _ => exact viewAdvance_self hv
      | finalizeDone =>
          subst h
          cases s with
          | Finalizing r₀ b₀ =>
              cases hs
              cases hv
              exact .inl ⟨.Completed, r, rfl, by simp [CancelPhase.rank], Nat.le_refl _⟩
          | _ => exact viewAdvance_self hv

end TaskState

end Asupersync
