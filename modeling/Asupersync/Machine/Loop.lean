/-
Counted loops, `for i in 0..n { … }`, as folds over `List.range n`.

An invariant indexed by the number of passes run, that each pass keeps,
holds after the loop (`foldl_range_induction`). For a loop whose passes
can panic (`foldlM` in `Option`), a pass from the invariant must also
return, and then so does the loop (`foldlM_range_induction`).

A loop `while offset + k <= n` that moves its offset `k` on each pass
is `strideLoop`, on a fuel; an invariant indexed by the offset that each
pass keeps holds at the end, which lies within one stride of `n`, when
the fuel covers `n - offset` (`strideLoop_induction`).

Two nested loops that write `f r x` into `t[r][x]` fill every cell
(`fill_getElem!`); a loop over a pair whose first half evolves by itself
is, on that half, a loop of its own (`foldl_fst`, `foldl_snd`).

Nothing here names the modelled program.
-/
import Mathlib

namespace Machine

variable {β : Type}

/-- A loop over `0..n` keeps what each pass keeps. -/
theorem foldl_range_induction (f : β → Nat → β) (P : Nat → β → Prop) {b : β} {n : Nat}
    (h0 : P 0 b) (hs : ∀ k b, k < n → P k b → P (k + 1) (f b k)) :
    P n ((List.range n).foldl f b) := by
  induction n with
  | zero => exact h0
  | succ n ih =>
    rw [List.range_succ, List.foldl_append, List.foldl_cons, List.foldl_nil]
    exact hs n _ (Nat.lt_succ_self n) (ih fun k b hk => hs k b (Nat.lt_succ_of_lt hk))

/-- A loop over `0..n` whose passes return and keep the invariant
returns, with the invariant. -/
theorem foldlM_range_induction (f : β → Nat → Option β) (P : Nat → β → Prop) {b : β} {n : Nat}
    (h0 : P 0 b) (hs : ∀ k b, k < n → P k b → ∃ b', f b k = some b' ∧ P (k + 1) b') :
    ∃ b', (List.range n).foldlM f b = some b' ∧ P n b' := by
  induction n with
  | zero => exact ⟨b, rfl, h0⟩
  | succ n ih =>
    obtain ⟨b₁, hb₁, hP₁⟩ := ih fun k b hk => hs k b (Nat.lt_succ_of_lt hk)
    obtain ⟨b₂, hb₂, hP₂⟩ := hs n b₁ (Nat.lt_succ_self n) hP₁
    refine ⟨b₂, ?_, hP₂⟩
    rw [List.range_succ, List.foldlM_append, hb₁]
    simp [hb₂]

/-- `while offset + k <= n { s = step(offset, s); offset += k }`, with at
most `fuel` passes. -/
def strideLoop {σ : Type} (k n : Nat) (step : Nat → σ → σ) : Nat → Nat → σ → Nat × σ
  | 0, offset, s => (offset, s)
  | fuel + 1, offset, s =>
    if offset + k ≤ n then strideLoop k n step fuel (offset + k) (step offset s) else (offset, s)

/-- A loop with a positive stride, and fuel for every pass, keeps what
each pass keeps and stops within one stride of the end. -/
theorem strideLoop_induction {σ : Type} {k n : Nat} {step : Nat → σ → σ} (P : Nat → σ → Prop)
    (hk : 0 < k) (hs : ∀ o s, o + k ≤ n → P o s → P (o + k) (step o s)) :
    ∀ {fuel offset : Nat} {s : σ}, n - offset ≤ fuel → P offset s →
      P (strideLoop k n step fuel offset s).1 (strideLoop k n step fuel offset s).2 ∧
        n < (strideLoop k n step fuel offset s).1 + k
  | 0, offset, s, hfuel, hP => ⟨hP, by rw [strideLoop]; omega⟩
  | fuel + 1, offset, s, hfuel, hP => by
    by_cases h : offset + k ≤ n
    · rw [strideLoop, if_pos h]
      exact strideLoop_induction P hk hs (by omega) (hs offset s h hP)
    · rw [strideLoop, if_neg h]
      exact ⟨hP, by omega⟩

/-- Reading `v.set! i a` at `j`, in range. -/
theorem vector_getElem!_set! {α : Type} [Inhabited α] {n : Nat} (v : Vector α n) {i j : Nat}
    (a : α) (hj : j < n) : (v.set! i a)[j]! = if i = j then a else v[j]! := by
  rw [getElem!_pos _ j hj, Vector.getElem_set! hj, getElem!_pos v j hj]

/-- The inner loop of a table fill writes row `k` and leaves the others. -/
theorem fillRow_getElem! {α : Type} [Inhabited α] {m n : Nat} (f : Nat → Nat → α)
    (t : Vector (Vector α n) m) {k : Nat} (hk : k < m) :
    (∀ r < m, r ≠ k →
        ((List.range n).foldl (fun t x => t.set! k (t[k]!.set! x (f k x))) t)[r]! = t[r]!) ∧
      ∀ x < n, (((List.range n).foldl (fun t x => t.set! k (t[k]!.set! x (f k x))) t)[k]!)[x]! =
        f k x := by
  -- after `j` passes the row is written up to `j`
  refine foldl_range_induction _ (fun j (t' : Vector (Vector α n) m) =>
    (∀ r < m, r ≠ k → t'[r]! = t[r]!) ∧ ∀ x < j, (t'[k]!)[x]! = f k x)
    ⟨fun _ _ _ => rfl, fun x hx => absurd hx (Nat.not_lt_zero x)⟩ ?_
  rintro j t' hj ⟨hother, hrow⟩
  refine ⟨fun r hr hne => ?_, fun x hx => ?_⟩
  · rw [vector_getElem!_set! _ _ hr, if_neg (Ne.symm hne)]
    exact hother r hr hne
  · rw [vector_getElem!_set! _ _ hk, if_pos rfl, vector_getElem!_set! _ _ (by omega)]
    by_cases hjx : j = x
    · rw [if_pos hjx, hjx]
    · rw [if_neg hjx]
      exact hrow x (by omega)

/-- Two nested loops that write `f r x` at `t[r][x]` fill every cell. -/
theorem fill_getElem! {α : Type} [Inhabited α] {m n : Nat} (f : Nat → Nat → α)
    (t : Vector (Vector α n) m) {r x : Nat} (hr : r < m) (hx : x < n) :
    (((List.range m).foldl (fun t r => (List.range n).foldl
      (fun t x => t.set! r (t[r]!.set! x (f r x))) t) t)[r]!)[x]! = f r x := by
  -- the rows below `k` are full after `k` passes of the outer loop
  refine foldl_range_induction _ (fun k (t : Vector (Vector α n) m) =>
    ∀ r < k, ∀ x < n, (t[r]!)[x]! = f r x) (fun r hr => absurd hr (Nat.not_lt_zero r)) ?_ r hr x hx
  intro k t hk hfull r hr x hx
  obtain ⟨hother, hrow⟩ := fillRow_getElem! f t hk
  rcases Nat.lt_succ_iff_lt_or_eq.mp hr with hr | rfl
  · rw [hother r (by omega) (by omega)]
    exact hfull r hr x hx
  · exact hrow x hx

/-- A loop over pairs whose first half evolves by itself. -/
theorem foldl_fst {γ δ : Type} {F : γ → Nat → γ} {step : γ × δ → Nat → γ × δ}
    (h : ∀ p i, (step p i).1 = F p.1 i) :
    ∀ (l : List Nat) (p : γ × δ), (l.foldl step p).1 = l.foldl F p.1
  | [], _ => rfl
  | i :: l, p => by rw [List.foldl_cons, List.foldl_cons, foldl_fst h l, h]

/-- A loop over pairs whose second half evolves by itself. -/
theorem foldl_snd {γ δ : Type} {F : δ → Nat → δ} {step : γ × δ → Nat → γ × δ}
    (h : ∀ p i, (step p i).2 = F p.2 i) :
    ∀ (l : List Nat) (p : γ × δ), (l.foldl step p).2 = l.foldl F p.2
  | [], _ => rfl
  | i :: l, p => by rw [List.foldl_cons, List.foldl_cons, foldl_snd h l, h]

end Machine
