/-
Bounded cause chains (`CancelReason::with_cause_limited` in
`types/cancel.rs`).

# What holds

`truncate_chain(c, n)` keeps the first `n` levels of `c`'s chain when
`n ≥ 1` (`truncateChain_kinds`). `with_cause_limited` replaces `self`'s
cause by the whole cause, or by such a truncation when it has room for at
least one level. For a `self` without a cause of its own, the result stays
within the depth limit, its cause chain is a prefix of `cause`'s, dropping
a level sets `truncated`, and the memory limit holds whenever the depth
limit did not cut the chain (`withCauseLimited_fresh_bounds`).

# Where it fails

Two exits of the function do not keep the limits it is meant to keep.
- With no room for a cause (`max_chain_depth = 1`, or a memory budget
  below two levels), `self` is marked truncated and returned as it is:
  the cause it already had stays, however deep.
- The depth branch cuts the chain to `max_chain_depth` levels and returns
  before the memory check, so a chain cut for depth can still cost more
  than `max_chain_memory`.
`with_cause_limited_exceeds_limits` evaluates all three at small inputs.
-/
import Asupersync.Types.Cancel

namespace Asupersync

namespace CancelReason

open CancelAttributionConfig

-- ======================================================= the chain

theorem chain_of_cause_none {r : CancelReason} (h : r.cause = none) : r.chain = [r] := by
  cases r with
  | mk kind region task timestamp message cause truncated depth =>
      cases h
      rfl

theorem chain_of_cause_some {r c : CancelReason} (h : r.cause = some c) :
    r.chain = r :: c.chain := by
  cases r with
  | mk kind region task timestamp message cause truncated depth =>
      cases h
      rfl

theorem chainDepth_eq (r : CancelReason) : r.chainDepth = 1 + (r.chain.tail.map kind).length := by
  cases h : r.cause with
  | none => simp [chainDepth, chain_of_cause_none h]
  | some c => simp [chainDepth, chain_of_cause_some h, Nat.add_comm]

-- ====================================================== truncation

/-- Every branch of `truncate_chain` keeps the level's own fields. -/
theorem truncateChain_kind (c : CancelReason) (n : Nat) : (c.truncateChain n).kind = c.kind := by
  cases n with
  | zero => rfl
  | succ n =>
      unfold truncateChain
      split <;> rfl

/-- `truncate_chain(c, n)` keeps the first `n` levels of the chain. The
induction is on `n`, which the recursion lowers by one per level. -/
theorem truncateChain_kinds (c : CancelReason) {n : Nat} (hn : 0 < n) :
    (c.truncateChain n).chain.map kind = (c.chain.map kind).take n := by
  induction n generalizing c with
  | zero => exact absurd hn (Nat.lt_irrefl 0)
  | succ n ih =>
      unfold truncateChain
      split
      · -- the level is kept alone: the limit is one, or there is nothing below it
        rename_i hkeep
        rw [chain_of_cause_none rfl]
        cases hc : c.cause with
        | none => simp [chain_of_cause_none hc]
        | some d =>
            have hn0 : n = 0 := by
              rcases hkeep with h | h
              · omega
              · simp [hc] at h
            simp [chain_of_cause_some hc, hn0]
      · -- the level keeps its cause, cut one level shorter
        rename_i hkeep
        obtain ⟨d, hd⟩ : ∃ d, c.cause = some d := by
          cases hc : c.cause with
          | none => simp [hc] at hkeep
          | some d => exact ⟨d, rfl⟩
        have hn0 : 0 < n := by
          rcases Nat.eq_zero_or_pos n with h | h
          · exact absurd (.inl (by rw [h])) hkeep
          · exact h
        rw [chain_of_cause_some (c := d.truncateChain n) (by simp [hd]),
          chain_of_cause_some hd]
        simp [ih d hn0]

-- ======================================================== the exits

section Fresh

variable {self cause : CancelReason}

/-- A `self` without a cause, limited to `k` levels of `cause`: its cause
chain is the first `k` levels, and it is marked truncated. -/
theorem limitCause_fresh (hs : self.cause = none) (currentDepth k : Nat) :
    (limitCause self cause currentDepth k).chain.tail.map kind = (cause.chain.map kind).take k ∧
    (limitCause self cause currentDepth k).truncated = true := by
  unfold limitCause
  split
  · rename_i hk
    rw [chain_of_cause_none (r := { self with truncated := true, truncatedAtDepth := some currentDepth })
      hs, hk]
    simp
  · rename_i hk
    rw [chain_of_cause_some rfl, List.tail_cons]
    exact ⟨truncateChain_kinds cause (Nat.pos_of_ne_zero hk), rfl⟩

theorem limitCause_fresh_depth (hs : self.cause = none) (currentDepth k : Nat) :
    (limitCause self cause currentDepth k).chainDepth = 1 + min k cause.chainDepth := by
  rw [chainDepth_eq, (limitCause_fresh hs currentDepth k).1, List.length_take, List.length_map]
  rfl

/-- The memory loop stops at a depth of the cause that fits: none, or
one whose whole chain costs no more than the budget. The induction is on
the fuel, with the loop's invariant on `allowed`. -/
theorem memoryAllowedDepth_spec (maxChainMemory currentDepth causeDepth : Nat) :
    ∀ (fuel allowed : Nat), allowed ≤ causeDepth →
      (allowed = 0 ∨ estimatedChainCost (currentDepth + allowed) ≤ maxChainMemory) →
      memoryAllowedDepth maxChainMemory currentDepth causeDepth fuel allowed ≤ causeDepth ∧
      (memoryAllowedDepth maxChainMemory currentDepth causeDepth fuel allowed = 0 ∨
        estimatedChainCost
          (currentDepth + memoryAllowedDepth maxChainMemory currentDepth causeDepth fuel allowed)
          ≤ maxChainMemory)
  | 0, allowed, hle, hfit => ⟨hle, hfit⟩
  | fuel + 1, allowed, hle, hfit => by
      unfold memoryAllowedDepth
      split
      · rename_i hmore
        exact memoryAllowedDepth_spec maxChainMemory currentDepth causeDepth fuel (allowed + 1)
          hmore.2 (.inr (by rw [← Nat.add_assoc]; exact hmore.1))
      · exact ⟨hle, hfit⟩

/-- For a `self` without a cause of its own, `with_cause_limited` keeps
the depth limit, keeps a prefix of the cause chain, marks any dropped
level, and keeps the memory limit when the depth limit did not cut the
chain. -/
theorem withCauseLimited_fresh_bounds (self cause : CancelReason)
    (config : CancelAttributionConfig) (hdepth : 1 ≤ config.maxChainDepth)
    (hfresh : self.cause = none) :
    (self.withCauseLimited cause config).chainDepth ≤ config.maxChainDepth ∧
    (self.withCauseLimited cause config).chain.tail.map kind <+: cause.chain.map kind ∧
    ((self.withCauseLimited cause config).chainDepth < 1 + cause.chainDepth →
      (self.withCauseLimited cause config).truncated = true) ∧
    (1 + cause.chainDepth ≤ config.maxChainDepth →
      (self.withCauseLimited cause config).chainDepth = 1 ∨
        estimatedChainCost (self.withCauseLimited cause config).chainDepth ≤
          config.maxChainMemory) := by
  unfold withCauseLimited
  dsimp only
  split
  · -- the depth branch: `max_chain_depth - 1` levels of the cause
    rename_i hover
    obtain ⟨hkinds, htrunc⟩ := @limitCause_fresh self cause hfresh 1 (config.maxChainDepth - 1)
    rw [limitCause_fresh_depth hfresh]
    refine ⟨by omega, hkinds ▸ List.take_prefix _ _, fun _ => htrunc, fun hfit => by omega⟩
  split
  · -- the memory branch: as many levels as the budget holds
    rename_i hfit hcost
    obtain ⟨hle, hmem⟩ :=
      memoryAllowedDepth_spec config.maxChainMemory 1 cause.chainDepth cause.chainDepth 0
        (Nat.zero_le _) (.inl rfl)
    generalize memoryAllowedDepth config.maxChainMemory 1 cause.chainDepth cause.chainDepth 0 = a
      at hle hmem ⊢
    obtain ⟨hkinds, htrunc⟩ := @limitCause_fresh self cause hfresh 1 a
    have hmin : min a cause.chainDepth = a := Nat.min_eq_left hle
    rw [limitCause_fresh_depth hfresh, hmin]
    refine ⟨by omega, hkinds ▸ List.take_prefix _ _, fun _ => htrunc, fun _ => ?_⟩
    rcases hmem with h | h
    · exact .inl (by rw [h])
    · exact .inr h
  · -- within both limits: the whole cause
    rename_i hfit hcost
    have hchain : ({ self with cause := some cause } : CancelReason).chain.tail = cause.chain := by
      rw [chain_of_cause_some rfl, List.tail_cons]
    have hd : ({ self with cause := some cause } : CancelReason).chainDepth =
        1 + cause.chainDepth := by
      rw [chainDepth_eq, hchain, List.length_map]
      rfl
    rw [hd, hchain]
    exact ⟨by omega, List.prefix_refl _, fun h => absurd h (Nat.lt_irrefl _),
      fun _ => .inr (Nat.not_lt.mp hcost)⟩

end Fresh

theorem withCauseLimited_fresh_bounds_default :
    (1 ≤ (⟨16, 4096⟩ : CancelAttributionConfig).maxChainDepth ∧ (new .Shutdown).cause = none) ∧
      ((new .Shutdown).withCauseLimited ((new .Timeout).withCause (new .Deadline)) ⟨16, 4096⟩).chainDepth
        ≤ 16 :=
  ⟨⟨by decide, rfl⟩,
    (withCauseLimited_fresh_bounds (new .Shutdown) ((new .Timeout).withCause (new .Deadline))
      ⟨16, 4096⟩ (by decide) rfl).1⟩

/-- `with_cause_limited` at three small inputs. A `shutdown` reason that
already has a `timeout` cause, given a `deadline` cause with room for
none (`max_chain_depth = 1`, or a memory budget of 100 bytes, below the
168 two levels cost), keeps its old cause: two levels, and a cause chain
that is not the given one's. A fresh `shutdown` given a two-level cause
under `max_chain_depth = 2` and 100 bytes is cut to two levels by depth
and never checked against memory. -/
theorem with_cause_limited_exceeds_limits :
    (((new .Shutdown).withCause (new .Timeout)).withCauseLimited (new .Deadline)
        ⟨1, usizeMax⟩).chainDepth = 2 ∧
    ¬(((new .Shutdown).withCause (new .Timeout)).withCauseLimited (new .Deadline)
        ⟨1, usizeMax⟩).chain.tail.map kind <+: (new .Deadline).chain.map kind ∧
    (((new .Shutdown).withCause (new .Timeout)).withCauseLimited (new .Deadline)
        ⟨16, 100⟩).chainDepth = 2 ∧
    ((new .Shutdown).withCauseLimited ((new .Timeout).withCause (new .Deadline))
        ⟨2, 100⟩).chainDepth = 2 ∧
    estimatedChainCost 2 = 168 := by
  decide

end CancelReason

end Asupersync
