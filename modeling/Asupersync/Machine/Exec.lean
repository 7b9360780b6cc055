/-
Runs of a machine whose steps can fail and that emit one output per step:
`exec : σ → α → Option (β × σ)`, where `none` is a step that does not
return (a panic). `runOut` folds a list of operations through it and, when
every step returns, gives the outputs and the states visited.

# The rules

- `runOut_cons_eq_some`: the inversion every proof peels a run with.
- `runOut_isSome`: a machine whose every step returns runs every list.
- `runOut_preserved`: a predicate kept by every returning step holds of
  every visited state; `runOut_preserved_of_forall` asks it only of the
  steps of the operations the run is made of.
- `runOut_isChain`: a relation every returning step establishes links
  consecutive visited states; with a transitive relation, all pairs
  (`runOut_pairwise`).
- `runOut_forall₂`: a relation every returning step establishes between
  its operation and its output holds position by position.
- `runOut_tickets`: the ticket-dispenser rule. If, from states with an
  invariant, a cursor never moves back, and every ticket a step hands out
  lies at or above the cursor before the step and strictly below it after,
  the tickets of a run strictly increase, so none is handed out twice.

Nothing here names the modelled program.
-/
import Mathlib

namespace Machine

variable {σ α β : Type}

/-- Run `exec` over a list of operations: the outputs and the states
visited (the initial one first), or `none` if some step fails. -/
def runOut (exec : σ → α → Option (β × σ)) : σ → List α → Option (List β × List σ)
  | s, [] => some ([], [s])
  | s, a :: as =>
      match exec s a with
      | none => none
      | some (b, s') => (runOut exec s' as).map fun r => (b :: r.1, s :: r.2)

variable {exec : σ → α → Option (β × σ)}

@[simp] theorem runOut_nil (s : σ) : runOut exec s [] = some ([], [s]) := rfl

theorem runOut_cons (s : σ) (a : α) (as : List α) :
    runOut exec s (a :: as) = match exec s a with
      | none => none
      | some (b, s') => (runOut exec s' as).map fun r => (b :: r.1, s :: r.2) := rfl

theorem runOut_cons_eq_some {s : σ} {a : α} {as : List α} {bs : List β} {tr : List σ} :
    runOut exec s (a :: as) = some (bs, tr) ↔
      ∃ b s' bs' tr', exec s a = some (b, s') ∧ runOut exec s' as = some (bs', tr') ∧
        bs = b :: bs' ∧ tr = s :: tr' := by
  constructor
  · intro h
    rw [runOut_cons] at h
    split at h
    · cases h
    · rename_i b s' hexec
      obtain ⟨⟨bs', tr'⟩, hrest, hr⟩ := Option.map_eq_some_iff.mp h
      cases hr
      exact ⟨b, s', bs', tr', hexec, hrest, rfl, rfl⟩
  · rintro ⟨b, s', bs', tr', hexec, hrest, rfl, rfl⟩
    simp [runOut_cons, hexec, hrest]

/-- The visited states start at the initial one. -/
theorem runOut_head {s : σ} {as : List α} {bs : List β} {tr : List σ}
    (h : runOut exec s as = some (bs, tr)) : ∃ tr', tr = s :: tr' := by
  cases as with
  | nil =>
      simp only [runOut_nil, Option.some.injEq, Prod.mk.injEq] at h
      exact ⟨[], h.2.symm⟩
  | cons a as =>
      obtain ⟨-, -, -, tr', -, -, -, rfl⟩ := runOut_cons_eq_some.mp h
      exact ⟨tr', rfl⟩

-- ============================================================ invariants

/-- What a step that returns keeps. -/
def Keeps (exec : σ → α → Option (β × σ)) (P : σ → Prop) : Prop :=
  ∀ s a b s', P s → exec s a = some (b, s') → P s'

/-- The invariant rule for runs of operations satisfying `A`: a predicate
kept by every returning step of such an operation holds of every visited
state. -/
theorem runOut_preserved_of_forall {P : σ → Prop} {A : α → Prop}
    (hP : ∀ s a b s', A a → P s → exec s a = some (b, s') → P s') :
    ∀ {s : σ} (as : List α) {bs : List β} {tr : List σ},
      (∀ a ∈ as, A a) → P s → runOut exec s as = some (bs, tr) → ∀ t ∈ tr, P t := by
  intro s as
  induction as generalizing s with
  | nil =>
      intro bs tr _ hs h t ht
      simp only [runOut_nil, Option.some.injEq, Prod.mk.injEq] at h
      rw [← h.2, List.mem_singleton] at ht
      exact ht ▸ hs
  | cons a as ih =>
      intro bs tr hA hs h t ht
      obtain ⟨b, s', bs', tr', hexec, hrest, -, rfl⟩ := runOut_cons_eq_some.mp h
      have hs' := hP s a b s' (hA a List.mem_cons_self) hs hexec
      rcases List.mem_cons.mp ht with rfl | ht
      · exact hs
      · exact ih (fun a ha => hA a (List.mem_cons_of_mem _ ha)) hs' hrest t ht

/-- The invariant rule for runs that return. -/
theorem runOut_preserved {P : σ → Prop} (hP : Keeps exec P) {s : σ} (as : List α) {bs : List β}
    {tr : List σ} (hs : P s) (h : runOut exec s as = some (bs, tr)) : ∀ t ∈ tr, P t :=
  runOut_preserved_of_forall (A := fun _ => True) (fun s a b s' _ => hP s a b s') as
    (fun _ _ => trivial) hs h

/-- A machine whose every step returns runs every list of operations. -/
theorem runOut_isSome (htotal : ∀ s a, (exec s a).isSome) (s : σ) (as : List α) :
    (runOut exec s as).isSome := by
  induction as generalizing s with
  | nil => rfl
  | cons a as ih =>
      obtain ⟨⟨b, s'⟩, hexec⟩ := Option.isSome_iff_exists.mp (htotal s a)
      obtain ⟨⟨bs, tr⟩, hrest⟩ := Option.isSome_iff_exists.mp (ih s')
      simp [runOut_cons, hexec, hrest]

/-- The step-relation rule for runs that return. -/
theorem runOut_isChain {P : σ → Prop} {R : σ → σ → Prop} (hP : Keeps exec P)
    (hR : ∀ s a b s', P s → exec s a = some (b, s') → R s s') :
    ∀ {s : σ} (as : List α) {bs : List β} {tr : List σ},
      P s → runOut exec s as = some (bs, tr) → tr.IsChain R := by
  intro s as
  induction as generalizing s with
  | nil =>
      intro bs tr _ h
      simp only [runOut_nil, Option.some.injEq, Prod.mk.injEq] at h
      rw [← h.2]
      exact List.isChain_singleton s
  | cons a as ih =>
      intro bs tr hs h
      obtain ⟨b, s', bs', tr', hexec, hrest, -, rfl⟩ := runOut_cons_eq_some.mp h
      obtain ⟨tr'', rfl⟩ := runOut_head hrest
      exact List.IsChain.cons_cons (hR s a b s' hs hexec) (ih (hP s a b s' hs hexec) hrest)

/-- With a transitive relation, every earlier visited state is related to
every later one. -/
theorem runOut_pairwise {P : σ → Prop} {R : σ → σ → Prop} [IsTrans σ R] (hP : Keeps exec P)
    (hR : ∀ s a b s', P s → exec s a = some (b, s') → R s s') {s : σ} (as : List α)
    {bs : List β} {tr : List σ} (hs : P s) (h : runOut exec s as = some (bs, tr)) :
    tr.Pairwise R := by
  have htrans : Trans R R R := ⟨fun h₁ h₂ => IsTrans.trans _ _ _ h₁ h₂⟩
  exact (runOut_isChain hP hR as hs h).pairwise

/-- The output rule: a relation every returning step establishes between
its operation and its output holds of the run's operations and outputs. -/
theorem runOut_forall₂ {P : σ → Prop} {Q : α → β → Prop} (hP : Keeps exec P)
    (hQ : ∀ s a b s', P s → exec s a = some (b, s') → Q a b) :
    ∀ {s : σ} (as : List α) {bs : List β} {tr : List σ},
      P s → runOut exec s as = some (bs, tr) → List.Forall₂ Q as bs := by
  intro s as
  induction as generalizing s with
  | nil =>
      intro bs tr _ h
      simp only [runOut_nil, Option.some.injEq, Prod.mk.injEq] at h
      rw [← h.1]
      exact List.Forall₂.nil
  | cons a as ih =>
      intro bs tr hs h
      obtain ⟨b, s', bs', tr', hexec, hrest, rfl, -⟩ := runOut_cons_eq_some.mp h
      exact List.Forall₂.cons (hQ s a b s' hs hexec) (ih (hP s a b s' hs hexec) hrest)

-- ================================================================ tickets

section Tickets

variable {γ : Type} [Preorder γ] {P : σ → Prop} {cursor : σ → γ} {ticket : β → Option γ}

/-- The ticket-dispenser rule, for steps taken from states satisfying an
invariant `P`. -/
theorem runOut_tickets (hP : Keeps exec P)
    (hmono : ∀ s a b s', P s → exec s a = some (b, s') → cursor s ≤ cursor s')
    (hissue : ∀ s a b s' k, P s → exec s a = some (b, s') → ticket b = some k →
      cursor s ≤ k ∧ k < cursor s') :
    ∀ {s : σ} (as : List α) {bs : List β} {tr : List σ}, P s → runOut exec s as = some (bs, tr) →
      (bs.filterMap ticket).Pairwise (· < ·) ∧ ∀ k ∈ bs.filterMap ticket, cursor s ≤ k := by
  intro s as
  induction as generalizing s with
  | nil =>
      intro bs tr _ h
      simp only [runOut_nil, Option.some.injEq, Prod.mk.injEq] at h
      rw [← h.1]
      exact ⟨List.Pairwise.nil, by simp⟩
  | cons a as ih =>
      intro bs tr hs h
      obtain ⟨b, s', bs', tr', hexec, hrest, rfl, -⟩ := runOut_cons_eq_some.mp h
      obtain ⟨hpw, hge⟩ := ih (hP s a b s' hs hexec) hrest
      have hle := hmono s a b s' hs hexec
      -- every later ticket sits at or above the cursor after this step
      have hlater : ∀ k ∈ bs'.filterMap ticket, cursor s ≤ k := fun k hk =>
        le_trans hle (hge k hk)
      cases hb : ticket b with
      | none =>
          rw [List.filterMap_cons_none hb]
          exact ⟨hpw, hlater⟩
      | some k =>
          obtain ⟨hk₁, hk₂⟩ := hissue s a b s' k hs hexec hb
          rw [List.filterMap_cons_some hb]
          refine ⟨List.Pairwise.cons (fun k' hk' => lt_of_lt_of_le hk₂ (hge k' hk')) hpw, ?_⟩
          intro k' hk'
          rcases List.mem_cons.mp hk' with rfl | hk'
          · exact hk₁
          · exact hlater k' hk'

end Tickets

end Machine
