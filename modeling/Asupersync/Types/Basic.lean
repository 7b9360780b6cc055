/-
The runtime's identifier, time and budget vocabulary (`util/arena.rs`,
`types/id.rs`, `types/budget.rs`).

# Identifiers

`RegionId`, `TaskId` and `ObligationId` are newtypes over an
`ArenaIndex` (an `(index, generation)` pair of `u32`s). The records only
compare them for equality, except the obligation ledger, which keys a
`BTreeMap` by `ObligationId` and therefore sees the derived lexicographic
order: index first, generation second (the field order of `ArenaIndex`).
That order is the `LinearOrder` here, lifted from `Lex (Nat × Nat)`.

# Budgets

`Budget::combine_untraced` is the product meet the cancellation paths use
while holding a lock: earliest deadline, smallest poll and cost quotas,
highest priority. `None` is the unbounded deadline or cost quota, so the
`Option` matches in the source are meets on `WithTop`; `NoLooser` states
the order they descend in, dimension by dimension. Quotas and priorities
are `u32`/`u64`/`u8` in the source; only `min` and `max` touch them here,
so they are modelled as `Nat`.
-/
import Mathlib

namespace Asupersync

-- ========================================================= identifiers

/-- An arena slot with its ABA generation (`util/arena.rs`). -/
structure ArenaIndex where
  index : UInt32
  generation : UInt32
  deriving DecidableEq, Repr

/-- The position of an index in the derived `Ord`: lexicographic, index first. -/
def ArenaIndex.lexKey (a : ArenaIndex) : Lex (Nat × Nat) := toLex (a.index.toNat, a.generation.toNat)

theorem ArenaIndex.lexKey_injective : Function.Injective ArenaIndex.lexKey := by
  rintro ⟨i, g⟩ ⟨i', g'⟩ h
  simp only [ArenaIndex.lexKey, toLex_inj, Prod.mk.injEq] at h
  rw [UInt32.toNat_inj.mp h.1, UInt32.toNat_inj.mp h.2]

instance : LinearOrder ArenaIndex := LinearOrder.lift' ArenaIndex.lexKey ArenaIndex.lexKey_injective

/-- A region identifier. -/
structure RegionId where
  arena : ArenaIndex
  deriving DecidableEq, Repr

/-- A task identifier. -/
structure TaskId where
  arena : ArenaIndex
  deriving DecidableEq, Repr

/-- An obligation identifier. -/
structure ObligationId where
  arena : ArenaIndex
  deriving DecidableEq, Repr

instance : LinearOrder ObligationId :=
  LinearOrder.lift' ObligationId.arena fun a b h => by
    cases a
    cases b
    cases h
    rfl

/-- `ObligationId::from_arena`. -/
def ObligationId.fromArena (idx : ArenaIndex) : ObligationId := ⟨idx⟩

/-- `usize::MAX` on a 64-bit target. -/
def usizeMax : Nat := 2 ^ 64 - 1

/-- `u64::MAX`. -/
def u64Max : Nat := 2 ^ 64 - 1

/-- `std::task::Poll`. -/
inductive Poll (β : Type) where
  | Ready (value : β)
  | Pending
  deriving DecidableEq, Repr

/-- Logical time, the nanosecond count of `types::id::Time(u64)`. -/
abbrev Time := Nat

/-- `Time::saturating_add_nanos`. -/
def saturatingAddNanos (t : Time) (nanos : Nat) : Time := min (t + nanos) u64Max

/-- `Time + Duration`: the duration's nanoseconds, capped at `u64::MAX`,
added with saturation. A `Duration` is its nanosecond count here. -/
def addDuration (t : Time) (duration : Nat) : Time := saturatingAddNanos t (min duration u64Max)

-- ============================================================= budgets

/-- `types::budget::Budget`. -/
structure Budget where
  deadline : Option Time
  pollQuota : Nat
  costQuota : Option Nat
  priority : Nat
  deriving DecidableEq, Repr

/-- `u32::MAX`, the unlimited poll quota. -/
def u32Max : Nat := 2 ^ 32 - 1

namespace Budget

/-- `Budget::new`: priority 128, no limits. -/
def new : Budget :=
  { deadline := none, pollQuota := u32Max, costQuota := none, priority := 128 }

/-- `Budget::INFINITE`, the identity of the meet. -/
def INFINITE : Budget :=
  { deadline := none, pollQuota := u32Max, costQuota := none, priority := 0 }

/-- `Budget::with_poll_quota`. -/
def withPollQuota (b : Budget) (quota : Nat) : Budget := { b with pollQuota := quota }

/-- `Budget::with_priority`. -/
def withPriority (b : Budget) (priority : Nat) : Budget := { b with priority := priority }

/-- The `Option` meet of `combine_untraced`'s deadline and cost arms:
`None` is unbounded, two bounds meet at the smaller. -/
def meetOption : Option Nat → Option Nat → Option Nat
  | some a, some b => some (min a b)
  | some a, none => some a
  | none, some b => some b
  | none, none => none

/-- `Budget::combine_untraced`. -/
def combineUntraced (self other : Budget) : Budget :=
  { deadline := meetOption self.deadline other.deadline
    pollQuota := min self.pollQuota other.pollQuota
    costQuota := meetOption self.costQuota other.costQuota
    priority := max self.priority other.priority }

/-- `Budget::combine`: `combine_untraced` plus a trace event. -/
def combine (self other : Budget) : Budget := combineUntraced self other

/-- `Budget::meet`, an alias of `combine`. -/
def meet (self other : Budget) : Budget := self.combine other

/-- `Budget::with_timeout`: the deadline becomes `now + timeout`, whatever
it was. -/
def withTimeout (b : Budget) (now : Time) (timeout : Nat) : Budget :=
  { b with deadline := some (addDuration now timeout) }

/-- `Budget::tightened_by_timeout`: the timeout's deadline met with the
budget. -/
def tightenedByTimeout (b : Budget) (now : Time) (timeout : Nat) : Budget :=
  b.meet (Budget.new.withTimeout now timeout)

/-- `Budget::is_exhausted`. -/
def isExhausted (b : Budget) : Bool := b.pollQuota == 0 || b.costQuota == some 0

@[simp] theorem combineUntraced_deadline (a b : Budget) :
    (a.combineUntraced b).deadline = meetOption a.deadline b.deadline := rfl

@[simp] theorem combineUntraced_pollQuota (a b : Budget) :
    (a.combineUntraced b).pollQuota = min a.pollQuota b.pollQuota := rfl

@[simp] theorem combineUntraced_costQuota (a b : Budget) :
    (a.combineUntraced b).costQuota = meetOption a.costQuota b.costQuota := rfl

@[simp] theorem combineUntraced_priority (a b : Budget) :
    (a.combineUntraced b).priority = max a.priority b.priority := rfl

-- ======================================================= the tightening order

/-- `x` bounds no later than `y`, where `none` is the unbounded value. -/
def OptionLe : Option Nat → Option Nat → Prop
  | _, none => True
  | none, some _ => False
  | some a, some b => a ≤ b

@[simp] theorem optionLe_none (x : Option Nat) : OptionLe x none := by
  cases x <;> trivial

theorem optionLe_refl (x : Option Nat) : OptionLe x x := by
  cases x with
  | none => trivial
  | some a => exact Nat.le_refl a

theorem optionLe_trans {x y z : Option Nat} (hxy : OptionLe x y) (hyz : OptionLe y z) :
    OptionLe x z := by
  cases z with
  | none => trivial
  | some c =>
      cases y with
      | none => exact absurd hyz id
      | some b =>
          cases x with
          | none => exact absurd hxy id
          | some a => exact Nat.le_trans hxy hyz

theorem meetOption_le_left (x y : Option Nat) : OptionLe (meetOption x y) x := by
  cases x <;> cases y <;> simp [meetOption, OptionLe]

theorem meetOption_le_right (x y : Option Nat) : OptionLe (meetOption x y) y := by
  cases x <;> cases y <;> simp [meetOption, OptionLe]

/-- `a` is no looser than `b` in any dimension: deadline no later, poll and
cost quotas no larger, priority no lower. -/
structure NoLooser (a b : Budget) : Prop where
  deadline : OptionLe a.deadline b.deadline
  pollQuota : a.pollQuota ≤ b.pollQuota
  costQuota : OptionLe a.costQuota b.costQuota
  priority : b.priority ≤ a.priority

theorem NoLooser.refl (a : Budget) : NoLooser a a :=
  ⟨optionLe_refl _, Nat.le_refl _, optionLe_refl _, Nat.le_refl _⟩

theorem NoLooser.trans {a b c : Budget} (hab : NoLooser a b) (hbc : NoLooser b c) :
    NoLooser a c :=
  ⟨optionLe_trans hab.deadline hbc.deadline, Nat.le_trans hab.pollQuota hbc.pollQuota,
    optionLe_trans hab.costQuota hbc.costQuota, Nat.le_trans hbc.priority hab.priority⟩

instance : IsTrans Budget (fun b b' => NoLooser b' b) :=
  ⟨fun _ _ _ hab hbc => NoLooser.trans hbc hab⟩

/-- The meet is no looser than its left argument: combining a budget into
an existing one can only tighten it. -/
theorem combineUntraced_noLooser_left (a b : Budget) : NoLooser (a.combineUntraced b) a :=
  ⟨meetOption_le_left _ _, Nat.min_le_left _ _, meetOption_le_left _ _,
    Nat.le_max_left _ _⟩

/-- The meet is no looser than its right argument. -/
theorem combineUntraced_noLooser_right (a b : Budget) :
    NoLooser (a.combineUntraced b) b :=
  ⟨meetOption_le_right _ _, Nat.min_le_right _ _, meetOption_le_right _ _,
    Nat.le_max_right _ _⟩

end Budget

end Asupersync
