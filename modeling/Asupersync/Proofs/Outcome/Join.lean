/-
`CancelReason::strengthen` and `Outcome::join` as left-biased maxima
(`types/cancel.rs`, `types/outcome.rs`).

# Strengthening

`strengthen` asks three questions in turn: is the kind strictly more
severe, is the timestamp strictly earlier, does the message win (present
over absent, smaller over larger)? That cascade is one comparison of the
key `strengthenKey`: the kind's severity, then the timestamp reversed,
then the message in `WithBot` of the reversed string order. Each branch
that copies `other` is a branch where `other`'s key is strictly greater,
and each branch that returns `false` one where it is not, so
`strengthen` is `LeftMax.leftMax strengthenKey` with the comparison as
its flag (`strengthen_eq`). Its laws are then the library's.

# Joining

`join` compares outcome severities with `>=`, so the left outcome stays
on a tie; two cancellations compare their reasons' kind severities only,
and `strengthen` under that strictly-greater guard always takes the right
reason. So `join` is the left-biased maximum of `joinKey`: the outcome's
severity, then the severity of its cancellation reason (`join_eq`).
-/
import Asupersync.Order.LeftMax
import Asupersync.Types.Outcome
import Mathlib

namespace Asupersync

open LeftMax

namespace CancelReason

-- ============================================================ the key

/-- The message tie-break as an order: an absent message is the least,
and a smaller string beats a larger one. -/
def messageKey : Option String → WithBot Stringᵒᵈ
  | none => ⊥
  | some m => (OrderDual.toDual m : Stringᵒᵈ)

/-- The order `strengthen` keeps the greater of: kind severity, then the
earlier timestamp, then the message. -/
def strengthenKey (r : CancelReason) : Lex (Nat × Lex (Timeᵒᵈ × WithBot Stringᵒᵈ)) :=
  toLex (r.kind.severity, toLex (OrderDual.toDual r.timestamp, messageKey r.message))

theorem messageWins_iff (current candidate : Option String) :
    messageWins current candidate = true ↔ messageKey current < messageKey candidate := by
  cases current with
  | none =>
      cases candidate with
      | none => simp [messageWins, messageKey]
      | some m => simp [messageWins, messageKey, WithBot.bot_lt_coe]
  | some c =>
      cases candidate with
      | none => simp [messageWins, messageKey]
      | some m =>
          rw [messageWins, decide_eq_true_iff]
          simp only [messageKey, WithBot.coe_lt_coe, OrderDual.toDual_lt_toDual]

/-- The key's order spelled out as `strengthen`'s cascade. -/
theorem strengthenKey_lt_iff (a b : CancelReason) :
    strengthenKey a < strengthenKey b ↔
      a.kind.severity < b.kind.severity ∨ a.kind.severity = b.kind.severity ∧
        (b.timestamp < a.timestamp ∨
          a.timestamp = b.timestamp ∧ messageWins a.message b.message = true) := by
  simp only [strengthenKey, Prod.Lex.toLex_lt_toLex, OrderDual.toDual_lt_toDual,
    messageWins_iff]
  constructor
  · rintro (h | ⟨h, h' | ⟨h', h''⟩⟩)
    · exact .inl h
    · exact .inr ⟨h, .inl h'⟩
    · exact .inr ⟨h, .inr ⟨OrderDual.toDual_inj.mp h', h''⟩⟩
  · rintro (h | ⟨h, h' | ⟨h', h''⟩⟩)
    · exact .inl h
    · exact .inr ⟨h, .inl h'⟩
    · exact .inr ⟨h, .inr ⟨congrArg OrderDual.toDual h', h''⟩⟩

-- ====================================================== strengthening

/-- `strengthen` is the left-biased maximum of `strengthenKey`, and its
flag says whether `other` won. The cases follow the source's cascade. -/
theorem strengthen_eq (a b : CancelReason) :
    a.strengthen b = (decide (strengthenKey a < strengthenKey b), leftMax strengthenKey a b) := by
  have hkey := strengthenKey_lt_iff a b
  unfold strengthen leftMax
  by_cases hsev : b.kind.severity > a.kind.severity
  · have hlt : strengthenKey a < strengthenKey b := hkey.mpr (.inl hsev)
    simp [hsev, hlt]
  by_cases hsev' : b.kind.severity < a.kind.severity
  · have hlt : ¬strengthenKey a < strengthenKey b := by
      rw [hkey]
      rintro (h | ⟨h, -⟩)
      · exact hsev h
      · exact Nat.lt_irrefl _ (h ▸ hsev')
    simp [hsev, hsev', hlt]
  -- equal severities: the timestamps decide, then the messages
  have heq : a.kind.severity = b.kind.severity :=
    Nat.le_antisymm (Nat.not_lt.mp hsev') (Nat.not_lt.mp hsev)
  by_cases hts : b.timestamp < a.timestamp
  · have hlt : strengthenKey a < strengthenKey b := hkey.mpr (.inr ⟨heq, .inl hts⟩)
    simp [hsev, hsev', hts, hlt]
  by_cases hts' : b.timestamp > a.timestamp
  · have hlt : ¬strengthenKey a < strengthenKey b := by
      rw [hkey]
      rintro (h | ⟨-, h | ⟨h, -⟩⟩)
      · exact hsev h
      · exact hts h
      · exact Nat.lt_irrefl _ (h ▸ hts')
    simp [hsev, hsev', hts, hts', hlt]
  have hteq : a.timestamp = b.timestamp :=
    Nat.le_antisymm (Nat.not_lt.mp hts) (Nat.not_lt.mp hts')
  cases hmsg : messageWins a.message b.message with
  | true =>
      have hlt : strengthenKey a < strengthenKey b := hkey.mpr (.inr ⟨heq, .inr ⟨hteq, hmsg⟩⟩)
      simp [hsev, hsev', hts, hts', hlt]
  | false =>
      have hlt : ¬strengthenKey a < strengthenKey b := by
        rw [hkey]
        rintro (h | ⟨-, h | ⟨-, h⟩⟩)
        · exact hsev h
        · exact hts h
        · exact Bool.false_ne_true (hmsg.symm.trans h)
      simp [hsev, hsev', hts, hts', hlt]

theorem strengthen_snd (a b : CancelReason) :
    (a.strengthen b).2 = leftMax strengthenKey a b := by
  rw [strengthen_eq]

/-- `strengthen` is a left-biased maximum: the reason left behind is the
old one or a copy of `other`, it is `other` exactly when `other` is
strictly greater in the order `strengthenKey`, the flag says so, a fold
keeps the first reason of greatest key, the operation is associative, and
a reason of the same key changes nothing. -/
theorem strengthen_left_biased_max (a b : CancelReason) (rs : List CancelReason) :
    ((a.strengthen b).2 = a ∨ (a.strengthen b).2 = b) ∧
    (a.strengthen b).2 = (if strengthenKey a < strengthenKey b then b else a) ∧
    ((a.strengthen b).1 = true ↔ strengthenKey a < strengthenKey b) ∧
    IsFirstMax strengthenKey (a :: rs) (rs.foldl (fun acc r => (acc.strengthen r).2) a) ∧
    (∀ c, ((a.strengthen b).2.strengthen c).2 = (a.strengthen (b.strengthen c).2).2) ∧
    (∀ c, strengthenKey c = strengthenKey a → a.strengthen c = (false, a)) := by
  have hfold : (fun acc r => (acc.strengthen r).2) = leftMax strengthenKey := by
    funext acc r
    exact strengthen_snd acc r
  refine ⟨?_, ?_, ?_, ?_, ?_, ?_⟩
  · rw [strengthen_snd]
    exact leftMax_eq_or strengthenKey a b
  · rw [strengthen_snd]
    rfl
  · rw [strengthen_eq]
    exact decide_eq_true_iff
  · rw [hfold]
    exact isFirstMax_foldl strengthenKey a rs
  · intro c
    simp only [strengthen_snd]
    exact leftMax_assoc strengthenKey a b c
  · intro c hc
    rw [strengthen_eq, leftMax_of_le hc.le, hc]
    simp

end CancelReason

-- ============================================================ joining

namespace Outcome

variable {T E : Type}

/-- The severity of a cancellation's reason; `0` for the other outcomes,
whose `join` looks at the outcome severity alone. -/
def reasonSeverity : Outcome T E → Nat
  | .Cancelled r => r.kind.severity
  | _ => 0

/-- The order `join` keeps the greater of: outcome severity, then the
reason's severity. -/
def joinKey (o : Outcome T E) : Lex (Nat × Nat) := toLex (o.severity.asU8, o.reasonSeverity)

/-- `join` is the left-biased maximum of `joinKey`. Between two
cancellations the guard `right.severity() > left.severity()` is the key's
comparison, and under it `strengthen` takes the right reason; elsewhere
outcomes of equal severity have the same constructor, hence equal keys. -/
theorem join_eq (x y : Outcome T E) : x.join y = leftMax joinKey x y := by
  cases x <;> cases y <;>
    simp [join, leftMax, joinKey, reasonSeverity, severity, Severity.asU8,
      Prod.Lex.toLex_lt_toLex]
  case Cancelled.Cancelled a b =>
    by_cases h : a.severity < b.severity
    · have hk : a.kind.severity < b.kind.severity := h
      simp only [h, hk, if_true]
      rw [CancelReason.strengthen_of_severity_lt h]
    · have hk : ¬a.kind.severity < b.kind.severity := h
      simp only [h, hk, if_false]

/-- The outcome severity is monotone in `joinKey`. -/
theorem severity_le_of_joinKey_le {x y : Outcome T E} (h : joinKey x ≤ joinKey y) :
    x.severity.asU8 ≤ y.severity.asU8 := by
  rcases Prod.Lex.toLex_le_toLex.mp h with h | ⟨h, -⟩
  · exact h.le
  · exact h.le

/-- Between two cancellations, `join` keeps a reason of the greater
severity. -/
theorem join_cancelled (a b : CancelReason) :
    ∃ r, (Outcome.Cancelled a : Outcome T E).join (.Cancelled b) = .Cancelled r ∧
      r.severity = max a.severity b.severity := by
  by_cases h : a.severity < b.severity
  · exact ⟨(a.strengthen b).2, by simp [join, h], CancelReason.strengthen_severity a b⟩
  · refine ⟨a, by simp [join, h], ?_⟩
    exact (Nat.max_eq_left (Nat.not_lt.mp h)).symm

/-- `join` is an associative, left-biased severity maximum: it returns one
of its arguments, with the greater outcome severity, and between two
cancellations a reason of the greater severity. -/
theorem join_associative_left_biased_max (x y z : Outcome T E) :
    (x.join y = x ∨ x.join y = y) ∧
    (x.join y).severity.asU8 = max x.severity.asU8 y.severity.asU8 ∧
    (∀ a b, x = .Cancelled a → y = .Cancelled b →
      ∃ r, x.join y = .Cancelled r ∧ r.severity = max a.severity b.severity) ∧
    (x.join y).join z = x.join (y.join z) := by
  refine ⟨?_, ?_, ?_, ?_⟩
  · rw [join_eq]
    exact leftMax_eq_or joinKey x y
  · rw [join_eq]
    exact map_leftMax joinKey (fun o => o.severity.asU8)
      (fun _ _ h => severity_le_of_joinKey_le h) x y
  · rintro a b rfl rfl
    exact join_cancelled a b
  · simp only [join_eq]
    exact leftMax_assoc joinKey x y z

end Outcome

end Asupersync
