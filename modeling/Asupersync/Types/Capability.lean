/-
Capability budgets (`types/budget.rs`): the explicit resource envelopes a
capability context or region carries, and how a child's envelope is
planned from its parent's.

# Envelopes

Each dimension is an `Option`, `None` meaning no explicit envelope. The
byte and unit envelopes meet at the smaller bound (`meet_optional_u64`),
the cleanup envelope at `Budget::meet`; a missing envelope on either side
takes the other side's.

# Planning

`plan_child` meets the parent's envelope with the child's, then refuses
the result if a required dimension is missing or exhausted, checking the
dimensions in the source's order: memory, CPU, I/O, cleanup, artifacts.
The envelopes are `u64`s in the source; only comparisons touch them, so
they are `Nat`s here.
-/
import Asupersync.Types.Basic

namespace Asupersync

/-- `CapabilityBudgetDimension`. -/
inductive CapabilityBudgetDimension where
  | MemoryBytes
  | CpuUnits
  | IoBytes
  | Cleanup
  | ArtifactBytes
  deriving DecidableEq, Repr

/-- `CapabilityBudgetRefusal`. -/
inductive CapabilityBudgetRefusal where
  | MissingRequired (dimension : CapabilityBudgetDimension)
  | Exhausted (dimension : CapabilityBudgetDimension)
  deriving DecidableEq, Repr

/-- `CapabilityBudgetRequirements`: which dimensions admission requires. -/
structure CapabilityBudgetRequirements where
  memoryBytes : Bool
  cpuUnits : Bool
  ioBytes : Bool
  cleanup : Bool
  artifactBytes : Bool
  deriving DecidableEq, Repr

/-- `CapabilityBudget`. -/
structure CapabilityBudget where
  memoryBytes : Option Nat
  cpuUnits : Option Nat
  ioBytes : Option Nat
  cleanupBudget : Option Budget
  artifactBytes : Option Nat
  deriving DecidableEq, Repr

namespace CapabilityBudget

/-- `CapabilityBudget::UNSPECIFIED`: no envelope in any dimension. -/
def UNSPECIFIED : CapabilityBudget := ⟨none, none, none, none, none⟩

/-- `meet_optional_u64`. -/
def meetOptionalU64 : Option Nat → Option Nat → Option Nat
  | some parent, some child => some (if parent < child then parent else child)
  | some value, none => some value
  | none, some value => some value
  | none, none => none

/-- The cleanup arm of `CapabilityBudget::meet`. -/
def meetCleanup : Option Budget → Option Budget → Option Budget
  | some parent, some child => some (parent.meet child)
  | some budget, none => some budget
  | none, some budget => some budget
  | none, none => none

/-- `CapabilityBudget::meet`. -/
def meet (self child : CapabilityBudget) : CapabilityBudget :=
  { memoryBytes := meetOptionalU64 self.memoryBytes child.memoryBytes
    cpuUnits := meetOptionalU64 self.cpuUnits child.cpuUnits
    ioBytes := meetOptionalU64 self.ioBytes child.ioBytes
    cleanupBudget := meetCleanup self.cleanupBudget child.cleanupBudget
    artifactBytes := meetOptionalU64 self.artifactBytes child.artifactBytes }

/-- `validate_required_u64`. -/
def validateRequiredU64 (dimension : CapabilityBudgetDimension) (value : Option Nat)
    (required : Bool) : Except CapabilityBudgetRefusal Unit :=
  if !required then .ok ()
  else
    match value with
    | none => .error (.MissingRequired dimension)
    | some 0 => .error (.Exhausted dimension)
    | some _ => .ok ()

/-- `validate_required_cleanup`. -/
def validateRequiredCleanup (budget : Option Budget) (required : Bool) :
    Except CapabilityBudgetRefusal Unit :=
  if !required then .ok ()
  else
    match budget with
    | none => .error (.MissingRequired .Cleanup)
    | some budget => if budget.isExhausted then .error (.Exhausted .Cleanup) else .ok ()

/-- `CapabilityBudget::validate`. -/
def validate (self : CapabilityBudget) (requirements : CapabilityBudgetRequirements) :
    Except CapabilityBudgetRefusal Unit := do
  validateRequiredU64 .MemoryBytes self.memoryBytes requirements.memoryBytes
  validateRequiredU64 .CpuUnits self.cpuUnits requirements.cpuUnits
  validateRequiredU64 .IoBytes self.ioBytes requirements.ioBytes
  validateRequiredCleanup self.cleanupBudget requirements.cleanup
  validateRequiredU64 .ArtifactBytes self.artifactBytes requirements.artifactBytes

/-- `CapabilityBudget::plan_child`. -/
def planChild (self child : CapabilityBudget) (requirements : CapabilityBudgetRequirements) :
    Except CapabilityBudgetRefusal CapabilityBudget := do
  let effective := self.meet child
  effective.validate requirements
  pure effective

/-- A successful plan is the meet. -/
theorem planChild_eq_ok {self child effective : CapabilityBudget}
    {requirements : CapabilityBudgetRequirements}
    (h : self.planChild child requirements = .ok effective) : effective = self.meet child := by
  unfold planChild at h
  cases hv : (self.meet child).validate requirements with
  | error e => simp [hv] at h
  | ok u => simp [hv] at h; exact h.symm

end CapabilityBudget

end Asupersync
