/-
Runs of a deterministic machine: a step function `σ → α → σ` folded over
a list of operations, the states it visits, and the three rules every
invariant proof of this development goes through.

# The rules

- `run_preserved` / `mem_trace_preserved`: a predicate kept by every step
  holds of every state a run visits. "After every step" claims are stated
  over an arbitrary operation list, so every prefix is covered.
- `trace_isChain`: a relation that every step establishes between its
  pre- and post-state holds between every two consecutive visited states.
- `trace_filterMap_pairwise`: the observations a machine emits along a run
  (an `Option`-valued read-out, `none` skipped) are pairwise related, when
  each observation is related to the next one and the machine can only stop
  observing by reaching a state no operation moves (`Settled`). This is the
  shape of a witness stream: once the observed object disappears, nothing
  can bring it back and disturb the order.

Nothing here names the modelled program; the records instantiate `step`.
-/
import Mathlib

namespace Machine

variable {σ α β : Type}

-- ================================================================ runs

/-- Fold a list of operations through the step function. -/
def run (step : σ → α → σ) : σ → List α → σ
  | s, [] => s
  | s, a :: as => run step (step s a) as

/-- Every state a run visits, the initial one first and the final one last. -/
def trace (step : σ → α → σ) : σ → List α → List σ
  | s, [] => [s]
  | s, a :: as => s :: trace step (step s a) as

variable {step : σ → α → σ}

@[simp] theorem run_nil (s : σ) : run step s [] = s := rfl

@[simp] theorem run_cons (s : σ) (a : α) (as : List α) :
    run step s (a :: as) = run step (step s a) as := rfl

theorem run_append (s : σ) (as bs : List α) :
    run step s (as ++ bs) = run step (run step s as) bs := by
  induction as generalizing s with
  | nil => rfl
  | cons a as ih => exact ih (step s a)

/-- The last operation of a run is one more step. -/
theorem run_concat (s : σ) (as : List α) (a : α) :
    run step s (as ++ [a]) = step (run step s as) a := by
  rw [run_append]
  rfl

@[simp] theorem trace_nil (s : σ) : trace step s [] = [s] := rfl

@[simp] theorem trace_cons (s : σ) (a : α) (as : List α) :
    trace step s (a :: as) = s :: trace step (step s a) as := rfl

theorem mem_trace_self (s : σ) (as : List α) : s ∈ trace step s as := by
  cases as <;> simp

-- ========================================================== invariants

/-- `P` is kept by every step from every state that satisfies it. -/
def Preserved (step : σ → α → σ) (P : σ → Prop) : Prop :=
  ∀ s a, P s → P (step s a)

/-- The invariant rule: a preserved predicate holds at the end of a run. -/
theorem run_preserved {P : σ → Prop} (hP : Preserved step P) :
    ∀ {s : σ} (as : List α), P s → P (run step s as) := by
  intro s as
  induction as generalizing s with
  | nil => exact id
  | cons a as ih => exact fun hs => ih (hP s a hs)

/-- The invariant rule over visited states: a preserved predicate holds of
every state in the trace. -/
theorem mem_trace_preserved {P : σ → Prop} (hP : Preserved step P) :
    ∀ {s : σ} (as : List α), P s → ∀ t ∈ trace step s as, P t := by
  intro s as
  induction as generalizing s with
  | nil =>
      intro hs t ht
      rw [trace_nil, List.mem_singleton] at ht
      exact ht ▸ hs
  | cons a as ih =>
      intro hs t ht
      rw [trace_cons, List.mem_cons] at ht
      rcases ht with rfl | ht
      · exact hs
      · exact ih (hP s a hs) t ht

/-- Two preserved predicates are preserved together. -/
theorem Preserved.and {P Q : σ → Prop} (hP : Preserved step P)
    (hQ : Preserved step Q) : Preserved step fun s => P s ∧ Q s :=
  fun s a hs => ⟨hP s a hs.1, hQ s a hs.2⟩

-- ====================================================== step relations

/-- The step-relation rule: a relation every step establishes from an
invariant state links every two consecutive states of the trace. -/
theorem trace_isChain {P : σ → Prop} {R : σ → σ → Prop}
    (hP : Preserved step P) (hR : ∀ s a, P s → R s (step s a)) :
    ∀ {s : σ} (as : List α), P s → (trace step s as).IsChain R := by
  intro s as
  induction as generalizing s with
  | nil => intro _; exact List.isChain_singleton s
  | cons a as ih =>
      intro hs
      have hrest := ih (hP s a hs)
      cases as with
      | nil => exact List.IsChain.cons_cons (hR s a hs) hrest
      | cons b bs => exact List.IsChain.cons_cons (hR s a hs) hrest

/-- The step-relation rule when every step establishes the relation. -/
theorem trace_isChain_of_step {R : σ → σ → Prop} (hR : ∀ s a, R s (step s a)) :
    ∀ {s : σ} (as : List α), (trace step s as).IsChain R := fun as =>
  trace_isChain (P := fun _ => True) (fun _ _ _ => trivial) (fun s a _ => hR s a) as trivial

-- ===================================================== settled states

/-- No operation moves a settled state. -/
def Settled (step : σ → α → σ) (s : σ) : Prop :=
  ∀ a, step s a = s

theorem run_settled {s : σ} (h : Settled step s) (as : List α) :
    run step s as = s := by
  induction as with
  | nil => rfl
  | cons a as ih => rw [run_cons, h a, ih]

-- ================================================ observation streams

/-- The observation `f` is monotone for `R` along steps from `P`-states:
an observed state's successor is observed with a related value, or it is
unobserved and settled. -/
def Observed (step : σ → α → σ) (P : σ → Prop) (f : σ → Option β)
    (R : β → β → Prop) : Prop :=
  ∀ s a b, P s → f s = some b →
    (∃ b', f (step s a) = some b' ∧ R b b') ∨
      (f (step s a) = none ∧ Settled step (step s a))

section Observation

variable {P : σ → Prop} {f : σ → Option β} {R : β → β → Prop}

/-- What an earlier observation `b` still bounds: the current
observation, if any, is above `b`, and an unobserved state is settled. -/
private def Bounded (step : σ → α → σ) (P : σ → Prop) (f : σ → Option β)
    (R : β → β → Prop) (b : β) (t : σ) : Prop :=
  P t ∧ (∀ c, f t = some c → R b c) ∧ (f t = none → Settled step t)

private theorem bounded_preserved [IsTrans β R] (hP : Preserved step P)
    (hobs : Observed step P f R) (b : β) :
    Preserved step (Bounded step P f R b) := by
  intro t a ⟨ht, habove, hnone⟩
  cases hft : f t with
  | none =>
      -- a settled state steps to itself
      have hset := hnone hft
      rw [hset a]
      exact ⟨ht, habove, hnone⟩
  | some c =>
      have hbc := habove c hft
      refine ⟨hP t a ht, ?_, ?_⟩
      · intro c' hc'
        rcases hobs t a c ht hft with ⟨c'', hc'', hcc⟩ | ⟨hn, -⟩
        · rw [hc''] at hc'
          cases hc'
          exact IsTrans.trans _ _ _ hbc hcc
        · rw [hn] at hc'
          cases hc'
      · intro hn
        rcases hobs t a c ht hft with ⟨c'', hc'', -⟩ | ⟨-, hset⟩
        · rw [hn] at hc''
          cases hc''
        · exact hset

private theorem bounded_step (hP : Preserved step P)
    (hobs : Observed step P f R) {s : σ} {b : β} (hs : P s) (hb : f s = some b)
    (a : α) : Bounded step P f R b (step s a) := by
  refine ⟨hP s a hs, ?_, ?_⟩
  · intro c hc
    rcases hobs s a b hs hb with ⟨b', hb', hbb⟩ | ⟨hn, -⟩
    · rw [hb'] at hc
      cases hc
      exact hbb
    · rw [hn] at hc
      cases hc
  · intro hn
    rcases hobs s a b hs hb with ⟨b', hb', -⟩ | ⟨-, hset⟩
    · rw [hn] at hb'
      cases hb'
    · exact hset

/-- The observation-stream rule: along any run from a `P`-state, the
emitted observations are pairwise `R`-related, earlier to later. -/
theorem trace_filterMap_pairwise [IsTrans β R] (hP : Preserved step P)
    (hobs : Observed step P f R) :
    ∀ {s : σ} (as : List α), P s → ((trace step s as).filterMap f).Pairwise R := by
  intro s as
  induction as generalizing s with
  | nil =>
      intro _
      rw [trace_nil, List.filterMap_cons, List.filterMap_nil]
      cases f s <;> simp
  | cons a as ih =>
      intro hs
      rw [trace_cons, List.filterMap_cons]
      cases hfs : f s with
      | none => exact ih (hP s a hs)
      | some b =>
          refine List.Pairwise.cons ?_ (ih (hP s a hs))
          intro c hc
          obtain ⟨t, ht, htc⟩ := List.mem_filterMap.mp hc
          have hbound := mem_trace_preserved (bounded_preserved hP hobs b) as
            (bounded_step hP hobs hs hfs a) t ht
          exact hbound.2.1 c htc

end Observation

end Machine
