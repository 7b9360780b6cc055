/-
Cancellation reasons and witnesses (`types/cancel.rs`).

# Strengthening

`CancelReason::strengthen(&mut self, other)` keeps the more severe of two
reasons: a strictly more severe kind wins; on equal severity the earlier
timestamp wins; on equal timestamps a present message beats an absent one
and a lexicographically smaller message beats a larger one. A winning
`other` is adopted field for field (`adopt`), so the result is always one
of the two arguments, and its severity is the larger of the two
(`strengthen_severity`). Every cancellation path of the task record reaches
its reason through this one function, which is why the record-level
monotonicity proofs only ever cite the two lemmas of this file.

# Witnesses

`CancelWitness::validate_transition` accepts a successor witness when task,
region and epoch agree, the phase rank does not drop and the reason
severity does not drop. `WitnessAdvance` is that acceptance as a
proposition; it is transitive, which is what lets the task proofs turn a
step-by-step check into a pairwise one.
-/
import Asupersync.Types.Basic

namespace Asupersync

-- =========================================================== the kinds

/-- `CancelKind`. -/
inductive CancelKind where
  | User
  | Timeout
  | Deadline
  | PollQuota
  | CostBudget
  | FailFast
  | RaceLost
  | ParentCancelled
  | ResourceUnavailable
  | Shutdown
  | LinkedExit
  deriving DecidableEq, Repr

/-- `CancelKind::severity`. -/
def CancelKind.severity : CancelKind → Nat
  | .User => 0
  | .Timeout | .Deadline => 1
  | .PollQuota | .CostBudget => 2
  | .FailFast | .RaceLost | .LinkedExit => 3
  | .ParentCancelled | .ResourceUnavailable => 4
  | .Shutdown => 5

-- ========================================================= the reasons

/-- `CancelReason`, cause chain included. -/
structure CancelReason where
  kind : CancelKind
  originRegion : RegionId
  originTask : Option TaskId
  timestamp : Time
  message : Option String
  cause : Option CancelReason
  truncated : Bool
  truncatedAtDepth : Option Nat

namespace CancelReason

/-- `CancelReason::severity`. -/
def severity (r : CancelReason) : Nat := r.kind.severity

/-- The field-for-field copy `strengthen` performs when `other` wins. -/
def adopt (self other : CancelReason) : CancelReason :=
  { self with
    kind := other.kind
    originRegion := other.originRegion
    originTask := other.originTask
    timestamp := other.timestamp
    message := other.message
    cause := other.cause
    truncated := other.truncated
    truncatedAtDepth := other.truncatedAtDepth }

/-- Copying every field is taking `other`. -/
@[simp] theorem adopt_eq (self other : CancelReason) : self.adopt other = other := rfl

/-- The same-timestamp tie-break of `strengthen`, on messages. -/
def messageWins : Option String → Option String → Bool
  | none, some _ => true
  | some current, some candidate => decide (candidate < current)
  | _, _ => false

/-- `CancelReason::strengthen`: the flag it returns and the reason it
leaves behind. -/
def strengthen (self other : CancelReason) : Bool × CancelReason :=
  if other.kind.severity > self.kind.severity then
    (true, self.adopt other)
  else if other.kind.severity < self.kind.severity then
    (false, self)
  else if other.timestamp < self.timestamp then
    (true, self.adopt other)
  else if other.timestamp > self.timestamp then
    (false, self)
  else if messageWins self.message other.message then
    (true, self.adopt other)
  else
    (false, self)

/-- `strengthen` leaves one of its two arguments. -/
theorem strengthen_eq_or (a b : CancelReason) :
    (a.strengthen b).2 = a ∨ (a.strengthen b).2 = b := by
  unfold strengthen
  split
  · exact .inr rfl
  · split
    · exact .inl rfl
    · split
      · exact .inr rfl
      · split
        · exact .inl rfl
        · split
          · exact .inr rfl
          · exact .inl rfl

/-- A strictly more severe `other` always wins. -/
theorem strengthen_of_severity_lt {a b : CancelReason} (h : a.severity < b.severity) :
    (a.strengthen b).2 = b := by
  have hk : b.kind.severity > a.kind.severity := h
  unfold strengthen
  rw [if_pos hk]
  rfl

/-- A strictly less severe `other` never wins. -/
theorem strengthen_of_severity_gt {a b : CancelReason} (h : b.severity < a.severity) :
    (a.strengthen b).2 = a := by
  have hk : ¬b.kind.severity > a.kind.severity := Nat.not_lt.mpr (Nat.le_of_lt h)
  have hk' : b.kind.severity < a.kind.severity := h
  unfold strengthen
  rw [if_neg hk, if_pos hk']

/-- The strengthened reason has the larger of the two severities. -/
theorem strengthen_severity (a b : CancelReason) :
    (a.strengthen b).2.severity = max a.severity b.severity := by
  rcases Nat.lt_trichotomy a.severity b.severity with hlt | heq | hgt
  · rw [strengthen_of_severity_lt hlt, Nat.max_eq_right (Nat.le_of_lt hlt)]
  · rcases strengthen_eq_or a b with h | h <;> rw [h, heq, Nat.max_self]
  · rw [strengthen_of_severity_gt hgt, Nat.max_eq_left (Nat.le_of_lt hgt)]

theorem le_strengthen_severity_left (a b : CancelReason) :
    a.severity ≤ (a.strengthen b).2.severity := by
  rw [strengthen_severity]
  exact Nat.le_max_left _ _

theorem le_strengthen_severity_right (a b : CancelReason) :
    b.severity ≤ (a.strengthen b).2.severity := by
  rw [strengthen_severity]
  exact Nat.le_max_right _ _

-- ======================================================= cause chains

/-- `CancelReason::new`: a reason of `kind` at the testing region
(`RegionId::testing_default()`, arena slot `(0, 0)`) and one second. -/
def new (kind : CancelKind) : CancelReason :=
  { kind := kind, originRegion := ⟨⟨0, 0⟩⟩, originTask := none, timestamp := 1000000000,
    message := none, cause := none, truncated := false, truncatedAtDepth := none }

/-- `CancelReason::with_cause`. -/
def withCause (self cause : CancelReason) : CancelReason := { self with cause := some cause }

/-- `CancelReason::chain`: this reason, then its cause's chain. -/
def chain : CancelReason → List CancelReason
  | r@⟨_, _, _, _, _, none, _, _⟩ => [r]
  | r@⟨_, _, _, _, _, some cause, _, _⟩ => r :: chain cause

/-- `CancelReason::chain_depth`: `chain().count()`. -/
def chainDepth (r : CancelReason) : Nat := r.chain.length

/-- `CancelReason::truncate_chain`: at most `maxDepth` levels, the
deepest kept level marked truncated if it lost its cause. -/
def truncateChain : CancelReason → Nat → CancelReason
  | reason, 0 => { reason with cause := none, truncated := true, truncatedAtDepth := some 0 }
  | reason, maxDepth + 1 =>
      if maxDepth + 1 = 1 ∨ reason.cause.isNone then
        { reason with
          cause := none
          truncated := reason.cause.isSome
          truncatedAtDepth := if reason.cause.isSome then some 1 else reason.truncatedAtDepth }
      else
        { reason with cause := reason.cause.map fun c => truncateChain c maxDepth }

end CancelReason

/-- `CancelAttributionConfig`: the limits on a cause chain. -/
structure CancelAttributionConfig where
  maxChainDepth : Nat
  maxChainMemory : Nat
  deriving DecidableEq, Repr

namespace CancelAttributionConfig

/-- `CancelAttributionConfig::single_reason_cost`. -/
def singleReasonCost : Nat := 80

/-- `CancelAttributionConfig::estimated_chain_cost`: each level's reason
plus a box for every level but the first. -/
def estimatedChainCost (depth : Nat) : Nat :=
  if depth = 0 then 0 else singleReasonCost * depth + 8 * (depth - 1)

end CancelAttributionConfig

namespace CancelReason

open CancelAttributionConfig in
/-- The `while` loop of `with_cause_limited`'s memory branch: the levels of
the cause that fit the memory budget, `allowed` so far. Each turn adds a
level, up to `causeDepth`, so `causeDepth` is enough fuel. -/
def memoryAllowedDepth (maxChainMemory currentDepth causeDepth : Nat) : Nat → Nat → Nat
  | 0, allowed => allowed
  | fuel + 1, allowed =>
      if estimatedChainCost (currentDepth + allowed + 1) ≤ maxChainMemory ∧ allowed < causeDepth then
        memoryAllowedDepth maxChainMemory currentDepth causeDepth fuel (allowed + 1)
      else allowed

/-- The two truncating exits of `with_cause_limited`, which differ only in
the depth of the cause they allow: with none allowed, `self` is marked
truncated and returned as it is, its own cause included. -/
def limitCause (self cause : CancelReason) (currentDepth allowed : Nat) : CancelReason :=
  if allowed = 0 then { self with truncated := true, truncatedAtDepth := some currentDepth }
  else
    { self with
      cause := some (truncateChain cause allowed)
      truncated := true
      truncatedAtDepth := some (currentDepth + allowed) }

open CancelAttributionConfig in
/-- `CancelReason::with_cause_limited`. -/
def withCauseLimited (self cause : CancelReason) (config : CancelAttributionConfig) :
    CancelReason :=
  -- `1` for `self`, whose own cause is to be replaced
  let currentDepth := 1
  let causeDepth := cause.chainDepth
  let totalDepth := currentDepth + causeDepth
  if totalDepth > config.maxChainDepth then
    limitCause self cause currentDepth (config.maxChainDepth - currentDepth)
  else if estimatedChainCost totalDepth > config.maxChainMemory then
    limitCause self cause currentDepth
      (memoryAllowedDepth config.maxChainMemory currentDepth causeDepth causeDepth 0)
  else { self with cause := some cause }

/-- `Budget::new().with_poll_quota(q).with_priority(p)`. -/
def cleanupBudgetOf (quota priority : Nat) : Budget :=
  (Budget.new.withPollQuota quota).withPriority priority

/-- `CancelReason::cleanup_budget`: the cleanup allowance of each kind. -/
def cleanupBudget (r : CancelReason) : Budget :=
  match r.kind with
  | .User => cleanupBudgetOf 1000 200
  | .Timeout | .Deadline => cleanupBudgetOf 500 210
  | .PollQuota | .CostBudget => cleanupBudgetOf 300 215
  | .FailFast | .RaceLost | .ParentCancelled | .ResourceUnavailable | .LinkedExit =>
      cleanupBudgetOf 200 220
  | .Shutdown => cleanupBudgetOf 50 255

end CancelReason

-- ======================================================== the witnesses

/-- `CancelPhase`. -/
inductive CancelPhase where
  | Requested
  | Cancelling
  | Finalizing
  | Completed
  deriving DecidableEq, Repr

/-- `CancelPhase::rank`. -/
def CancelPhase.rank : CancelPhase → Nat
  | .Requested => 0
  | .Cancelling => 1
  | .Finalizing => 2
  | .Completed => 3

/-- `CancelWitness`. -/
structure CancelWitness where
  taskId : TaskId
  regionId : RegionId
  epoch : Nat
  phase : CancelPhase
  reason : CancelReason

/-- `CancelWitnessError`. -/
inductive CancelWitnessError where
  | InitialEpochZero
  | TaskMismatch
  | RegionMismatch
  | EpochMismatch
  | PhaseRegression (fromPhase toPhase : CancelPhase)
  | ReasonWeakened (fromKind toKind : CancelKind)
  deriving DecidableEq, Repr

namespace CancelWitness

/-- `CancelWitness::validate_initial`. -/
def validateInitial (w : CancelWitness) : Except CancelWitnessError Unit :=
  if w.epoch = 0 then .error .InitialEpochZero else .ok ()

/-- `CancelWitness::validate_transition`. -/
def validateTransition (prev : Option CancelWitness) (next : CancelWitness) :
    Except CancelWitnessError Unit :=
  match prev with
  | none => .ok ()
  | some prev =>
      if prev.taskId ≠ next.taskId then .error .TaskMismatch
      else if prev.regionId ≠ next.regionId then .error .RegionMismatch
      else if prev.epoch ≠ next.epoch then .error .EpochMismatch
      else if next.phase.rank < prev.phase.rank then
        .error (.PhaseRegression prev.phase next.phase)
      else if next.reason.severity < prev.reason.severity then
        .error (.ReasonWeakened prev.reason.kind next.reason.kind)
      else .ok ()

/-- What `validate_transition` accepts, as a proposition. -/
structure Advance (w w' : CancelWitness) : Prop where
  taskId : w'.taskId = w.taskId
  regionId : w'.regionId = w.regionId
  epoch : w'.epoch = w.epoch
  rank : w.phase.rank ≤ w'.phase.rank
  severity : w.reason.severity ≤ w'.reason.severity

/-- `validate_transition` accepts exactly the advancing pairs. -/
theorem validateTransition_eq_ok_iff (w w' : CancelWitness) :
    validateTransition (some w) w' = .ok () ↔ Advance w w' := by
  unfold validateTransition
  constructor
  · intro h
    by_cases ht : w.taskId = w'.taskId
    · by_cases hr : w.regionId = w'.regionId
      · by_cases he : w.epoch = w'.epoch
        · by_cases hp : w'.phase.rank < w.phase.rank
          · simp [ht, hr, he, hp] at h
          · by_cases hs : w'.reason.severity < w.reason.severity
            · simp [ht, hr, he, hp, hs] at h
            · exact ⟨ht.symm, hr.symm, he.symm, Nat.not_lt.mp hp, Nat.not_lt.mp hs⟩
        · simp [ht, hr, he] at h
      · simp [ht, hr] at h
    · simp [ht] at h
  · intro ⟨ht, hr, he, hp, hs⟩
    simp [ht, hr, he, Nat.not_lt.mpr hp, Nat.not_lt.mpr hs]

theorem Advance.trans {w₁ w₂ w₃ : CancelWitness} (h₁ : Advance w₁ w₂)
    (h₂ : Advance w₂ w₃) : Advance w₁ w₃ :=
  ⟨h₂.taskId.trans h₁.taskId, h₂.regionId.trans h₁.regionId, h₂.epoch.trans h₁.epoch,
    Nat.le_trans h₁.rank h₂.rank, Nat.le_trans h₁.severity h₂.severity⟩

instance : IsTrans CancelWitness Advance := ⟨fun _ _ _ => Advance.trans⟩

end CancelWitness

end Asupersync
