/-
Writers that append to a buffer or fail, as encoders into a growable
buffer are written.

A writer is an `EStateM ε (List α) PUnit` run on the buffer.
`Appends m r` says what it does on every buffer: with `r = .ok out` it
appends `out`, and with `r = .error e` it fails with `e` and leaves the
buffer as it was. The second half is what makes such a writer safe to
retry: a failed call has written nothing.

# Rules

Appends are built up the way an encoder is: a write (`append`), a
guard that fails before anything is written (`guard`), a checked value
the rest depends on (`ofExcept_bind`), two writes one after the other
(`seq`), and a write for each element of a list (`forM`). Only a
writer that cannot fail may follow a write: a failure after a write
would leave that write in the buffer, and no `Appends` rule allows it.

What a run shows follows from `Appends` alone (`run_error`,
`run_ok`, and `forM_run_ok` for a loop that ran to its end).

# Successful runs

An encoder that checks a value after it has written is not an
`Appends`: its failure leaves the first writes behind. `OkAppends m c
out` says what a successful run of it shows, that `c` held and `out`
was appended. Its rules have the shapes of the rules above, and `bind`
lets the second writer fail after the first wrote.

Nothing here names the modelled program.
-/
import Mathlib

namespace Machine

variable {ε α : Type}

/-- A chain of checked values succeeds when each link does, in turn. -/
theorem bind_eq_ok {β γ : Type} {x : Except ε β} {f : β → Except ε γ} {c : γ} :
    x.bind f = .ok c ↔ ∃ b, x = .ok b ∧ f b = .ok c := by
  cases x with
  | error e => simp [Except.bind]
  | ok b => simp [Except.bind]

/-- `m` appends `out` to every buffer when `r = .ok out`, and fails with
`e` leaving the buffer when `r = .error e`. -/
def Appends (m : EStateM ε (List α) PUnit) (r : Except ε (List α)) : Prop :=
  ∀ s, m.run s = match r with
    | .ok out => .ok ⟨⟩ (s ++ out)
    | .error e => .error e s

namespace Appends

variable {m m' : EStateM ε (List α) PUnit} {r : Except ε (List α)}

theorem append (out : List α) :
    Appends (modify fun s => s ++ out : EStateM ε (List α) PUnit) (.ok out) := fun _ => rfl

theorem pure : Appends (Pure.pure ⟨⟩ : EStateM ε (List α) PUnit) (.ok []) := fun s => by
  show EStateM.Result.ok PUnit.unit s = EStateM.Result.ok PUnit.unit (s ++ [])
  rw [List.append_nil]

/-- Two writes that cannot fail append one after the other. -/
theorem seq {o o' : List α} (h : Appends m (.ok o)) (h' : Appends m' (.ok o')) :
    Appends (m >>= fun _ => m') (.ok (o ++ o')) := by
  intro s
  simp only [EStateM.run_bind, h s, h' (s ++ o), List.append_assoc]

/-- `if c { return Err(e) }` before the rest. -/
theorem guard {c : Prop} [Decidable c] (e : ε) (h : Appends m r) :
    Appends (if c then (throw e : EStateM ε (List α) PUnit) >>= (fun _ => m) else m)
      (if c then .error e else r) := by
  intro s
  by_cases hc : c
  · simp only [if_pos hc]
    rfl
  · simp only [if_neg hc]
    exact h s

/-- `let v = x?;` and the rest, which may depend on `v`. -/
theorem ofExcept_bind {β : Type} {x : Except ε β} {k : β → EStateM ε (List α) PUnit}
    {r : β → Except ε (List α)} (h : ∀ v, Appends (k v) (r v)) :
    Appends (MonadExcept.ofExcept x >>= k) (x.bind r) := by
  intro s
  cases x with
  | error e => rfl
  | ok v => exact h v s

/-- `for a in l { m(a) }` with writes that cannot fail. -/
theorem forM {β : Type} {k : β → EStateM ε (List α) PUnit} {o : β → List α}
    (h : ∀ a, Appends (k a) (.ok (o a))) :
    ∀ l : List β, Appends (l.forM k) (.ok (l.flatMap o))
  | [] => by
    rw [List.flatMap_nil]
    exact Appends.pure
  | a :: l => by
    rw [List.flatMap_cons]
    exact seq (h a) (forM h l)

/-- A failed run leaves the buffer as it was. -/
theorem run_error (h : Appends m r) {s s' : List α} {e : ε} (hrun : m.run s = .error e s') :
    s' = s ∧ r = .error e := by
  rw [h s] at hrun
  cases r with
  | ok out => cases hrun
  | error e' =>
    cases hrun
    exact ⟨rfl, rfl⟩

/-- A successful run appends what `r` says. -/
theorem run_ok (h : Appends m r) {s s' : List α} {u : PUnit} (hrun : m.run s = .ok u s') :
    ∃ out, r = .ok out ∧ s' = s ++ out := by
  rw [h s] at hrun
  cases r with
  | ok out =>
    cases hrun
    exact ⟨out, rfl, rfl⟩
  | error e => cases hrun

/-- A loop of writers that ran to the end: every pass succeeded, and the
buffer holds what each appended, in order. -/
theorem forM_run_ok {β : Type} {k : β → EStateM ε (List α) PUnit} {r : β → Except ε (List α)}
    (h : ∀ a, Appends (k a) (r a)) :
    ∀ (l : List β) {s s' : List α} {u : PUnit}, (l.forM k).run s = .ok u s' →
      ∃ outs : List (List α), List.Forall₂ (fun a o => r a = .ok o) l outs ∧ s' = s ++ outs.flatten
  | [], s, s', u, hrun => by
    cases hrun
    exact ⟨[], .nil, by simp⟩
  | a :: l, s, s', u, hrun => by
    change (k a >>= fun _ => l.forM k).run s = _ at hrun
    rw [EStateM.run_bind, h a s] at hrun
    cases hra : r a with
    | error e =>
      rw [hra] at hrun
      cases hrun
    | ok o =>
      rw [hra] at hrun
      obtain ⟨outs, hall, rfl⟩ := forM_run_ok h l hrun
      exact ⟨o :: outs, .cons hra hall, by simp⟩

end Appends

-- ============================================================ successful runs

/-- When `m` succeeds, `c` held and `m` appended `out`. This is what a
successful run of a writer that may fail after it has written shows;
a run that fails is left unsaid. -/
def OkAppends (m : EStateM ε (List α) PUnit) (c : Prop) (out : List α) : Prop :=
  ∀ s u s', m.run s = .ok u s' → c ∧ s' = s ++ out

namespace OkAppends

variable {m m' : EStateM ε (List α) PUnit} {c c' : Prop} {o o' : List α}

theorem of_appends_ok (h : Appends m (.ok o)) : OkAppends m True o := fun s _ _ hrun => by
  obtain ⟨out, hout, rfl⟩ := Appends.run_ok h hrun
  cases hout
  exact ⟨trivial, rfl⟩

/-- A writer that fails on every buffer shows anything when it succeeds. -/
theorem of_appends_error {e : ε} (h : Appends m (.error e)) : OkAppends m False o := fun s _ _ hrun => by
  rw [h s] at hrun
  cases hrun

theorem throw_bind {β : Type} (e : ε) (k : β → EStateM ε (List α) PUnit) :
    OkAppends ((throw e : EStateM ε (List α) β) >>= k) False o := fun _ _ _ hrun => by
  cases hrun

/-- Two writes, the second of which may fail after the first wrote. -/
theorem bind (h : OkAppends m c o) (h' : OkAppends m' c' o') :
    OkAppends (m >>= fun _ => m') (c ∧ c') (o ++ o') := by
  intro s u s'' hrun
  rw [EStateM.run_bind] at hrun
  cases hm : m.run s with
  | error e _ =>
    rw [hm] at hrun
    cases hrun
  | ok v s' =>
    rw [hm] at hrun
    obtain ⟨hc, rfl⟩ := h s v s' hm
    obtain ⟨hc', rfl⟩ := h' _ u s'' hrun
    exact ⟨⟨hc, hc'⟩, List.append_assoc _ _ _⟩

/-- `let v = x?;` and the rest, whose writes do not depend on `v`. -/
theorem ofExcept_bind {β : Type} {x : Except ε β} {k : β → EStateM ε (List α) PUnit}
    (h : ∀ v, x = .ok v → OkAppends (k v) c o) :
    OkAppends (MonadExcept.ofExcept x >>= k) ((∃ v, x = .ok v) ∧ c) o := by
  intro s u s' hrun
  cases hx : x with
  | error e =>
    rw [hx] at hrun
    cases hrun
  | ok v =>
    rw [hx] at hrun
    obtain ⟨hc, rfl⟩ := h v hx s u s' hrun
    exact ⟨⟨⟨v, rfl⟩, hc⟩, rfl⟩

/-- A weaker condition, or the same bytes written another way. -/
theorem mono (h : OkAppends m c o) (hc : c → c') (ho : o = o') : OkAppends m c' o' := fun s u s' hrun =>
  ⟨hc (h s u s' hrun).1, ho ▸ (h s u s' hrun).2⟩

/-- `if b { m?; }` and then the rest: the rest runs after the optional
write, whichever way `b` goes. -/
theorem ite_bind (b : Prop) [Decidable b] (h : OkAppends m c o) (h' : OkAppends m' c' o') :
    OkAppends (if b then m >>= fun _ => m' else m') ((b → c) ∧ c') ((if b then o else []) ++ o') := by
  by_cases hb : b
  · simp only [if_pos hb]
    exact mono (bind h h') (fun hc => ⟨fun _ => hc.1, hc.2⟩) rfl
  · simp only [if_neg hb, List.nil_append]
    exact mono h' (fun hc => ⟨fun h => absurd h hb, hc⟩) rfl

/-- `for a in l { m(a)? }`. -/
theorem forM {β : Type} {k : β → EStateM ε (List α) PUnit} {c : β → Prop} {o : β → List α}
    (h : ∀ a, OkAppends (k a) (c a) (o a)) :
    ∀ l : List β, OkAppends (l.forM k) (∀ a ∈ l, c a) (l.flatMap o)
  | [] => mono (of_appends_ok Appends.pure) (fun _ _ h => nomatch h) (List.flatMap_nil).symm
  | a :: l => by
    rw [List.flatMap_cons]
    exact mono (bind (h a) (forM h l)) (fun ⟨ha, hl⟩ b hb => by
      rcases List.mem_cons.mp hb with rfl | hb
      · exact ha
      · exact hl b hb) rfl

end OkAppends

end Machine
