/-
Budget composition as a meet-semilattice (`types/budget.rs`).

# The embedding

A budget is a point of the product lattice
`WithTop ℕ × ℕ × WithTop ℕ × ℕᵒᵈ`: the deadline and the cost quota with
`None` at the top, the poll quota, and the priority reversed, a higher
priority being the tighter one. `Budget.toPoint` is injective, takes
`combine_untraced` to `⊓` and `NoLooser` to `≤`, so commutativity,
associativity, idempotence and the bounds are Mathlib's lattice laws read
back through it. `INFINITE` is the top in every dimension but the poll
quota, where `u32::MAX` is the top of the `u32` range only: it is the
identity of every budget whose poll quota is a `u32`, which is every
budget the source can build.

A capability budget is a point of
`WithTop ℕ × WithTop ℕ × WithTop ℕ × WithTop Point × WithTop ℕ`, the
cleanup envelope through the budget embedding, and `UNSPECIFIED` is its
top.
-/
import Asupersync.Types.Capability
import Mathlib

namespace Asupersync

/-- A bound where `None` is unbounded, as a point of `WithTop`. -/
def boundOf {α : Type} : Option α → WithTop α
  | none => ⊤
  | some a => a

theorem boundOf_injective {α : Type} : Function.Injective (boundOf (α := α)) := by
  rintro (_ | a) (_ | b) h
  · rfl
  · exact absurd h.symm (WithTop.coe_ne_top)
  · exact absurd h WithTop.coe_ne_top
  · rw [WithTop.coe_inj.mp h]

namespace Budget

-- ====================================================== the embedding

/-- The lattice budgets embed into. -/
abbrev Point := WithTop ℕ × ℕ × WithTop ℕ × ℕᵒᵈ

/-- A budget's point: every dimension ordered so that lower is tighter. -/
def toPoint (b : Budget) : Point :=
  (boundOf b.deadline, b.pollQuota, boundOf b.costQuota, OrderDual.toDual b.priority)

theorem toPoint_injective : Function.Injective toPoint := by
  rintro ⟨d, p, c, q⟩ ⟨d', p', c', q'⟩ h
  simp only [toPoint, Prod.mk.injEq] at h
  obtain ⟨hd, rfl, hc, hq⟩ := h
  rw [boundOf_injective hd, boundOf_injective hc, OrderDual.toDual_inj.mp hq]

theorem boundOf_meetOption (x y : Option Nat) :
    boundOf (meetOption x y) = boundOf x ⊓ boundOf y := by
  cases x <;> cases y <;> simp [meetOption, boundOf, WithTop.coe_inf]

theorem optionLe_iff (x y : Option Nat) : OptionLe x y ↔ boundOf x ≤ boundOf y := by
  cases x <;> cases y <;> simp [OptionLe, boundOf]

theorem toPoint_combineUntraced (a b : Budget) :
    toPoint (a.combineUntraced b) = toPoint a ⊓ toPoint b := by
  simp only [toPoint, combineUntraced, Prod.mk_inf_mk, boundOf_meetOption]
  rfl

theorem noLooser_iff (a b : Budget) : NoLooser a b ↔ toPoint a ≤ toPoint b := by
  simp only [toPoint, Prod.mk_le_mk, ← optionLe_iff, OrderDual.toDual_le_toDual]
  constructor
  · rintro ⟨hd, hp, hc, hq⟩
    exact ⟨hd, hp, hc, hq⟩
  · rintro ⟨hd, hp, hc, hq⟩
    exact ⟨hd, hp, hc, hq⟩

-- ============================================================ the laws

theorem combine_comm (a b : Budget) : a.combine b = b.combine a := by
  apply toPoint_injective
  simp only [combine, toPoint_combineUntraced, inf_comm]

theorem combine_assoc (a b c : Budget) : (a.combine b).combine c = a.combine (b.combine c) := by
  apply toPoint_injective
  simp only [combine, toPoint_combineUntraced, inf_assoc]

theorem combine_self (a : Budget) : a.combine a = a := by
  apply toPoint_injective
  simp only [combine, toPoint_combineUntraced, inf_idem]

/-- Within the `u32` poll range `INFINITE` is above every budget. -/
theorem toPoint_le_INFINITE {a : Budget} (h : a.pollQuota ≤ u32Max) :
    toPoint a ≤ toPoint INFINITE :=
  (noLooser_iff a INFINITE).mp ⟨optionLe_none _, h, optionLe_none _, Nat.zero_le _⟩

theorem combine_INFINITE {a : Budget} (h : a.pollQuota ≤ u32Max) : a.combine INFINITE = a := by
  apply toPoint_injective
  rw [combine, toPoint_combineUntraced]
  exact inf_eq_left.mpr (toPoint_le_INFINITE h)

theorem INFINITE_combine {a : Budget} (h : a.pollQuota ≤ u32Max) : INFINITE.combine a = a := by
  rw [combine_comm]
  exact combine_INFINITE h

/-- A timeout met into a budget can only bring its deadline forward. -/
theorem tightenedByTimeout_deadline_le (a : Budget) (now : Time) (timeout : Nat) :
    OptionLe (a.tightenedByTimeout now timeout).deadline a.deadline :=
  (combineUntraced_noLooser_left a _).deadline

end Budget

namespace CapabilityBudget

-- ====================================================== the embedding

/-- The cleanup envelope `p` is no looser than `q`: `None` is unbounded. -/
def CleanupLe : Option Budget → Option Budget → Prop
  | _, none => True
  | none, some _ => False
  | some a, some b => Budget.NoLooser a b

/-- `a` is no looser than `b` in any dimension. -/
structure NoLooser (a b : CapabilityBudget) : Prop where
  memoryBytes : Budget.OptionLe a.memoryBytes b.memoryBytes
  cpuUnits : Budget.OptionLe a.cpuUnits b.cpuUnits
  ioBytes : Budget.OptionLe a.ioBytes b.ioBytes
  cleanupBudget : CleanupLe a.cleanupBudget b.cleanupBudget
  artifactBytes : Budget.OptionLe a.artifactBytes b.artifactBytes

/-- The lattice capability budgets embed into. -/
abbrev Point := WithTop ℕ × WithTop ℕ × WithTop ℕ × WithTop Budget.Point × WithTop ℕ

/-- A capability budget's point. -/
def toPoint (x : CapabilityBudget) : Point :=
  (boundOf x.memoryBytes, boundOf x.cpuUnits, boundOf x.ioBytes,
    boundOf (x.cleanupBudget.map Budget.toPoint), boundOf x.artifactBytes)

theorem toPoint_injective : Function.Injective toPoint := by
  rintro ⟨m, c, i, b, a⟩ ⟨m', c', i', b', a'⟩ h
  simp only [toPoint, Prod.mk.injEq] at h
  obtain ⟨hm, hc, hi, hb, ha⟩ := h
  rw [boundOf_injective hm, boundOf_injective hc, boundOf_injective hi, boundOf_injective ha,
    Option.map_injective Budget.toPoint_injective (boundOf_injective hb)]

/-- `meet_optional_u64`'s strict comparison picks the smaller bound. -/
theorem boundOf_meetOptionalU64 (x y : Option Nat) :
    boundOf (meetOptionalU64 x y) = boundOf x ⊓ boundOf y := by
  cases x with
  | none => cases y <;> simp [meetOptionalU64, boundOf]
  | some p =>
      cases y with
      | none => simp [meetOptionalU64, boundOf]
      | some c =>
          simp only [meetOptionalU64, boundOf, ← WithTop.coe_inf]
          rcases lt_or_ge p c with h | h
          · rw [if_pos h, inf_eq_left.mpr h.le]
          · rw [if_neg (not_lt.mpr h), inf_eq_right.mpr h]

theorem boundOf_meetCleanup (x y : Option Budget) :
    boundOf ((meetCleanup x y).map Budget.toPoint) =
      boundOf (x.map Budget.toPoint) ⊓ boundOf (y.map Budget.toPoint) := by
  cases x <;> cases y <;>
    simp [meetCleanup, boundOf, Budget.meet, Budget.combine, Budget.toPoint_combineUntraced,
      WithTop.coe_inf]

theorem toPoint_meet (x y : CapabilityBudget) : toPoint (x.meet y) = toPoint x ⊓ toPoint y := by
  simp only [toPoint, meet, Prod.mk_inf_mk, boundOf_meetOptionalU64, boundOf_meetCleanup]

theorem cleanupLe_iff (p q : Option Budget) :
    CleanupLe p q ↔ boundOf (p.map Budget.toPoint) ≤ boundOf (q.map Budget.toPoint) := by
  cases p <;> cases q <;> simp [CleanupLe, boundOf, Budget.noLooser_iff]

theorem noLooser_iff (a b : CapabilityBudget) : NoLooser a b ↔ toPoint a ≤ toPoint b := by
  simp only [toPoint, Prod.mk_le_mk, ← Budget.optionLe_iff, ← cleanupLe_iff]
  constructor
  · rintro ⟨hm, hc, hi, hb, ha⟩
    exact ⟨hm, hc, hi, hb, ha⟩
  · rintro ⟨hm, hc, hi, hb, ha⟩
    exact ⟨hm, hc, hi, hb, ha⟩

theorem toPoint_UNSPECIFIED : toPoint UNSPECIFIED = ⊤ := rfl

-- ============================================================ the laws

theorem meet_comm (x y : CapabilityBudget) : x.meet y = y.meet x := by
  apply toPoint_injective
  simp only [toPoint_meet, inf_comm]

theorem meet_assoc (x y z : CapabilityBudget) : (x.meet y).meet z = x.meet (y.meet z) := by
  apply toPoint_injective
  simp only [toPoint_meet, inf_assoc]

theorem meet_self (x : CapabilityBudget) : x.meet x = x := by
  apply toPoint_injective
  simp only [toPoint_meet, inf_idem]

theorem meet_UNSPECIFIED (x : CapabilityBudget) : x.meet UNSPECIFIED = x := by
  apply toPoint_injective
  rw [toPoint_meet, toPoint_UNSPECIFIED]
  exact inf_eq_left.mpr le_top

theorem meet_noLooser_left (x y : CapabilityBudget) : NoLooser (x.meet y) x := by
  rw [noLooser_iff, toPoint_meet]
  exact inf_le_left

theorem meet_noLooser_right (x y : CapabilityBudget) : NoLooser (x.meet y) y := by
  rw [noLooser_iff, toPoint_meet]
  exact inf_le_right

end CapabilityBudget

open Budget CapabilityBudget in
/-- Budget composition is a meet-semilattice: `combine`, `combine_untraced`
and `meet` are one operation, commutative, associative and idempotent,
with `INFINITE` as identity on the `u32` poll range, and no looser than
either argument; a timeout never moves a deadline later; the capability
budget meet has the same laws with `UNSPECIFIED` as identity, and a
planned child envelope is no looser than its parent's or the child's. -/
theorem budget_meet_semilattice (a b c : Budget) (x y z : CapabilityBudget) :
    a.combine b = a.combineUntraced b ∧ a.meet b = a.combine b ∧
    a.combine b = b.combine a ∧
    (a.combine b).combine c = a.combine (b.combine c) ∧
    a.combine a = a ∧
    (a.pollQuota ≤ u32Max → a.combine INFINITE = a ∧ INFINITE.combine a = a) ∧
    Budget.NoLooser (a.combine b) a ∧ Budget.NoLooser (a.combine b) b ∧
    (∀ now timeout, OptionLe (a.tightenedByTimeout now timeout).deadline a.deadline) ∧
    x.meet y = y.meet x ∧ (x.meet y).meet z = x.meet (y.meet z) ∧ x.meet x = x ∧
    x.meet UNSPECIFIED = x ∧ UNSPECIFIED.meet x = x ∧
    (∀ requirements effective, x.planChild y requirements = .ok effective →
      CapabilityBudget.NoLooser effective x ∧ CapabilityBudget.NoLooser effective y) := by
  refine ⟨rfl, rfl, combine_comm a b, combine_assoc a b c, combine_self a,
    fun h => ⟨combine_INFINITE h, INFINITE_combine h⟩,
    combineUntraced_noLooser_left a b, combineUntraced_noLooser_right a b,
    tightenedByTimeout_deadline_le a, meet_comm x y, meet_assoc x y z, meet_self x,
    meet_UNSPECIFIED x, (meet_comm _ x).trans (meet_UNSPECIFIED x), ?_⟩
  intro requirements effective h
  rw [planChild_eq_ok h]
  exact ⟨meet_noLooser_left x y, meet_noLooser_right x y⟩

end Asupersync
