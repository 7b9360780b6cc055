/-
The region lifecycle graph, as `record/region.rs` draws it above
`RegionState`:

    Open → Closing → Draining → Finalizing → Closed
              └──────────────────↗  (Draining skipped)

`Edge` is that graph and `Advances` a step along it or none. Every edge
climbs `rank`, so along a chain of advances the states climb pairwise
(`isChain_advances_pairwise`), and nothing leaves `Closed`. The only way
into `Closed` is from `Finalizing`, which is where the record checks
quiescence.
-/
import Mathlib
import Asupersync.Record.Region

namespace Asupersync

namespace RegionState

/-- The position of a state in the lifecycle (its `as_u8` encoding). -/
def rank (s : RegionState) : Nat := s.asU8.toNat

/-- The documented transitions. -/
inductive Edge : RegionState → RegionState → Prop
  | close : Edge .Open .Closing
  | drain : Edge .Closing .Draining
  | finalizeFromClosing : Edge .Closing .Finalizing
  | finalizeFromDraining : Edge .Draining .Finalizing
  | complete : Edge .Finalizing .Closed

/-- Stay, or take one documented transition. -/
def Advances (s s' : RegionState) : Prop := s' = s ∨ Edge s s'

theorem Edge.rank_lt {s s' : RegionState} (h : Edge s s') : s.rank < s'.rank := by
  cases h <;> decide

theorem Advances.refl (s : RegionState) : Advances s s := .inl rfl

theorem Advances.rank_le {s s' : RegionState} (h : Advances s s') : s.rank ≤ s'.rank := by
  rcases h with rfl | h
  · exact Nat.le_refl _
  · exact Nat.le_of_lt (Edge.rank_lt h)

theorem Edge.eq_finalizing {s : RegionState} (h : Edge s .Closed) : s = .Finalizing := by
  cases h
  rfl

/-- `Closed` is never left. -/
theorem Advances.eq_closed {s' : RegionState} (h : Advances .Closed s') : s' = .Closed := by
  rcases h with h | h
  · exact h
  · cases h

/-- Entering `Closed` is the `Finalizing → Closed` edge. -/
theorem Advances.eq_finalizing {s : RegionState} (h : Advances s .Closed) (hs : s ≠ .Closed) :
    s = .Finalizing := by
  rcases h with h | h
  · exact absurd h.symm hs
  · exact h.eq_finalizing

/-- Along a chain of advances the states climb pairwise. -/
theorem isChain_advances_pairwise {l : List RegionState} (h : l.IsChain Advances) :
    l.Pairwise fun s s' => s.rank ≤ s'.rank := by
  have hle : l.IsChain fun s s' => s.rank ≤ s'.rank := h.imp fun _ _ => Advances.rank_le
  have htrans : @Trans RegionState RegionState RegionState (fun s s' => s.rank ≤ s'.rank)
      (fun s s' => s.rank ≤ s'.rank) (fun s s' => s.rank ≤ s'.rank) :=
    ⟨fun h₁ h₂ => Nat.le_trans h₁ h₂⟩
  exact hle.pairwise

end RegionState

end Asupersync
