/-
Region admission over every run of the record's operations
(`record/region.rs`, `add_child`, `add_task_internal`,
`try_reserve_obligation`, `resolve_obligation`).

# Method

Each admission operation is summarised once by what it can return
(`addChild_cases`, `addTaskInternal_cases`, `tryReserveObligation_cases`):
a refusal with the record untouched, an `Ok` for work already held, or
the admission itself with the test it passed. The other operations either
release work (a filter, a decrement) or leave the children, tasks,
obligations and limits alone (`apply_frame_of_not_work`). `Admitted` is
the invariant they keep, one step at a time (`Admitted.apply`) and over a
run (`Admitted.run`).

# The bypass

`add_cleanup_task` admits a cleanup task while the region is `Finalizing`
without testing `max_tasks`. A run counts those admissions
(`bypassCount`), and the task bound allows one task more for each of
them: every other task was admitted under the test.
-/
import Asupersync.Proofs.Region.Close

namespace Asupersync

namespace RegionRecord

variable {E F : Type}

-- ===================================================== the limit test

/-- `check_limit` passes: no limit, or a live count below it. -/
def Fits (max : Option Nat) (live : Nat) : Prop := ∀ limit, max = some limit → live < limit

theorem checkLimit_eq_ok {kind : AdmissionKind} {max : Option Nat} {live : Nat} :
    AdmissionError.checkLimit kind max live = .ok () ↔ Fits max live := by
  cases max with
  | none => simp [AdmissionError.checkLimit, Fits]
  | some limit =>
      by_cases h : live ≥ limit
      · simp [AdmissionError.checkLimit, Fits, h]
      · simp [AdmissionError.checkLimit, Fits, h]
        omega

-- ========================================== what each admission can do

section Cases

variable (r : RegionRecord E F)

theorem addChild_cases (child : RegionId) :
    (∃ e, r.addChild child = (.error e, r)) ∨ r.addChild child = (.ok (), r) ∨
      (child ∉ r.children ∧ Fits r.limits.maxChildren r.children.length ∧
        r.addChild child = (.ok (), { r with children := r.children ++ [child] })) := by
  unfold addChild
  split
  · exact .inl ⟨_, rfl⟩
  split
  · exact .inr (.inl rfl)
  rename_i hmem
  split
  · exact .inl ⟨_, rfl⟩
  · rename_i hok
    exact .inr (.inr ⟨by simpa using hmem, checkLimit_eq_ok.mp hok, rfl⟩)

/-- A task is admitted either under the `max_tasks` test or, for a cleanup
task while `Finalizing`, past it. -/
theorem addTaskInternal_cases (task : TaskId) (cleanupTask : Bool) :
    (∃ e, r.addTaskInternal task cleanupTask = (.error e, r)) ∨
      r.addTaskInternal task cleanupTask = (.ok (), r) ∨
      (task ∉ r.tasks ∧
        ((cleanupTask = true ∧ r.state.load = .Finalizing) ∨ Fits r.limits.maxTasks r.tasks.length) ∧
        r.addTaskInternal task cleanupTask = (.ok (), { r with tasks := r.tasks ++ [task] })) := by
  unfold addTaskInternal
  dsimp only
  -- the state test alone reads `cleanupTask`'s admission rule
  generalize (if cleanupTask = true then r.state.load.canAcceptCleanupWork
    else r.state.load.canAcceptWork) = canAdmit
  split
  · exact .inl ⟨_, rfl⟩
  split
  · exact .inr (.inl rfl)
  rename_i hmem
  split
  · exact .inl ⟨_, rfl⟩
  · rename_i hok
    refine .inr (.inr ⟨by simpa using hmem, ?_, rfl⟩)
    by_cases hb : (cleanupTask && r.state.load == .Finalizing) = true
    · simp only [Bool.and_eq_true, beq_iff_eq] at hb
      exact .inl hb
    · rw [if_neg hb] at hok
      exact .inr (checkLimit_eq_ok.mp hok)

theorem tryReserveObligation_cases :
    (∃ e, r.tryReserveObligation = (.error e, r)) ∨
      (Fits r.limits.maxObligations r.pendingObligations ∧
        r.tryReserveObligation =
          (.ok (), { r with pendingObligations := min (r.pendingObligations + 1) usizeMax })) := by
  unfold tryReserveObligation
  split
  · exact .inl ⟨_, rfl⟩
  split
  · exact .inl ⟨_, rfl⟩
  · rename_i hok
    exact .inr ⟨checkLimit_eq_ok.mp hok, rfl⟩

end Cases

/-- An admission that refuses only with the record untouched leaves it so
whenever it refuses. -/
theorem snd_eq_of_error {r : RegionRecord E F} {p : Except AdmissionError Unit × RegionRecord E F}
    (hp : (∃ e, p = (.error e, r)) ∨ p.1 = .ok ()) {e : AdmissionError} (h : p.1 = .error e) :
    p.2 = r := by
  rcases hp with ⟨e', rfl⟩ | hok
  · rfl
  · rw [hok] at h
    cases h

theorem addChild_rejected {r : RegionRecord E F} {child : RegionId} {e : AdmissionError}
    (h : (r.addChild child).1 = .error e) : (r.addChild child).2 = r := by
  refine snd_eq_of_error ?_ h
  rcases addChild_cases r child with he | he | ⟨-, -, he⟩
  · exact .inl he
  · exact .inr (by rw [he])
  · exact .inr (by rw [he])

theorem addTaskInternal_rejected {r : RegionRecord E F} {task : TaskId} {cleanupTask : Bool}
    {e : AdmissionError} (h : (r.addTaskInternal task cleanupTask).1 = .error e) :
    (r.addTaskInternal task cleanupTask).2 = r := by
  refine snd_eq_of_error ?_ h
  rcases addTaskInternal_cases r task cleanupTask with he | he | ⟨-, -, he⟩
  · exact .inl he
  · exact .inr (by rw [he])
  · exact .inr (by rw [he])

theorem tryReserveObligation_rejected {r : RegionRecord E F} {e : AdmissionError}
    (h : r.tryReserveObligation.1 = .error e) : r.tryReserveObligation.2 = r := by
  refine snd_eq_of_error ?_ h
  rcases tryReserveObligation_cases r with he | ⟨-, he⟩
  · exact .inl he
  · exact .inr (by rw [he])

/-- `resolve_obligation` at zero leaves zero and counts the miss. -/
theorem resolveObligation_of_zero {r : RegionRecord E F} (h : r.pendingObligations = 0) :
    r.resolveObligation.pendingObligations = 0 ∧
      r.resolveObligation.doubleResolveCount = r.doubleResolveCount + 1 := by
  simp [resolveObligation, h]

-- ============================================== the other operations

/-- The operations that admit or release work, or set the limits. -/
def RegionOp.isWork : RegionOp E F → Bool
  | .addChild _ | .removeChild _ | .addTask _ | .addCleanupTask _ | .removeTask _
  | .tryReserveObligation | .resolveObligation | .setLimits _ => true
  | _ => false

/-- Every other operation leaves the children, tasks, pending obligations
and limits as they were. -/
theorem apply_frame_of_not_work (r : RegionRecord E F) {op : RegionOp E F}
    (h : op.isWork = false) :
    (r.apply op).children = r.children ∧ (r.apply op).tasks = r.tasks ∧
      (r.apply op).pendingObligations = r.pendingObligations ∧ (r.apply op).limits = r.limits := by
  cases op <;> simp only [RegionOp.isWork, Bool.true_eq_false] at h
  case popFinalizer =>
    rcases popFinalizer_eq_or r with h' | ⟨-, h'⟩ <;> simp [apply, h']
  case beginClose reason =>
    simp only [apply, beginClose]
    split
    · exact ⟨rfl, rfl, rfl, rfl⟩
    · cases reason <;> exact ⟨rfl, rfl, rfl, rfl⟩
  case beginFinalize =>
    simp only [apply, beginFinalize]
    split <;> exact ⟨rfl, rfl, rfl, rfl⟩
  case completeClose =>
    simp only [apply]
    by_cases hq : r.state.load = .Finalizing ∧ r.isQuiescent = true
    · rw [completeClose_eq hq.1 hq.2]
      exact ⟨rfl, rfl, rfl, rfl⟩
    · rw [completeClose_of_not hq]
      exact ⟨rfl, rfl, rfl, rfl⟩
  all_goals exact ⟨rfl, rfl, rfl, rfl⟩

-- ======================================================= the invariant

/-- Whether `op` on `r` admits a task through the `Finalizing` bypass of
`add_cleanup_task`: a cleanup task not yet held, while `Finalizing`. -/
def RegionOp.bypasses (r : RegionRecord E F) : RegionOp E F → Bool
  | .addCleanupTask task => r.state.load == .Finalizing && !r.tasks.contains task
  | _ => false

/-- The tasks a run admits through the bypass. -/
def bypassCount : RegionRecord E F → List (RegionOp E F) → Nat
  | _, [] => 0
  | r, op :: ops => (if op.bypasses r then 1 else 0) + bypassCount (r.apply op) ops

/-- What admission keeps under the limits `limits`, `bypassed` tasks
having been admitted past `max_tasks`: no duplicate child or task, and
each live count within its limit. -/
structure Admitted (limits : RegionLimits) (bypassed : Nat) (r : RegionRecord E F) : Prop where
  limits_eq : r.limits = limits
  childrenNodup : r.children.Nodup
  tasksNodup : r.tasks.Nodup
  children : ∀ limit, limits.maxChildren = some limit → r.children.length ≤ limit
  tasks : ∀ limit, limits.maxTasks = some limit → r.tasks.length ≤ limit + bypassed
  obligations : ∀ limit, limits.maxObligations = some limit → r.pendingObligations ≤ limit

/-- Appending an identifier not yet held keeps a list duplicate-free. -/
theorem nodup_append_fresh {α : Type} {l : List α} {a : α} (h : l.Nodup) (ha : a ∉ l) :
    (l ++ [a]).Nodup := by
  rw [List.nodup_append]
  refine ⟨h, List.pairwise_singleton _ _, ?_⟩
  intro x hx y hy
  rw [List.mem_singleton] at hy
  rintro rfl
  exact ha (hy ▸ hx)

namespace Admitted

variable {L : RegionLimits} {c : Nat} {r : RegionRecord E F}

theorem init (id : RegionId) (L : RegionLimits) : Admitted L 0 ((new id : RegionRecord E F).setLimits L) :=
  ⟨rfl, List.nodup_nil, List.nodup_nil, fun _ _ => Nat.zero_le _, fun _ _ => Nat.zero_le _,
    fun _ _ => Nat.zero_le _⟩

theorem congr {r' : RegionRecord E F} (h : Admitted L c r) (hc : r'.children = r.children)
    (ht : r'.tasks = r.tasks) (hp : r'.pendingObligations = r.pendingObligations)
    (hl : r'.limits = r.limits) : Admitted L c r' := by
  refine ⟨hl.trans h.limits_eq, hc ▸ h.childrenNodup, ht ▸ h.tasksNodup, ?_, ?_, ?_⟩
  · rw [hc]
    exact h.children
  · rw [ht]
    exact h.tasks
  · rw [hp]
    exact h.obligations

theorem mono {c' : Nat} (h : Admitted L c r) (hc : c ≤ c') : Admitted L c' r :=
  { h with tasks := fun limit hl => Nat.le_trans (h.tasks limit hl) (Nat.add_le_add_left hc _) }

theorem appendChild (h : Admitted L c r) {child : RegionId} (hfresh : child ∉ r.children)
    (hfits : Fits r.limits.maxChildren r.children.length) :
    Admitted L c { r with children := r.children ++ [child] } := by
  refine { h with childrenNodup := ?_, children := ?_ }
  · exact nodup_append_fresh h.childrenNodup hfresh
  · intro limit hl
    have := hfits limit (h.limits_eq ▸ hl)
    simp only [List.length_append, List.length_singleton]
    omega

theorem filterChildren (h : Admitted L c r) (p : RegionId → Bool) :
    Admitted L c { r with children := r.children.filter p } := by
  refine { h with childrenNodup := h.childrenNodup.filter p, children := ?_ }
  intro limit hl
  exact Nat.le_trans (List.length_filter_le _ _) (h.children limit hl)

/-- A task admitted under the test. -/
theorem appendTask (h : Admitted L c r) {task : TaskId} (hfresh : task ∉ r.tasks)
    (hfits : Fits r.limits.maxTasks r.tasks.length) :
    Admitted L c { r with tasks := r.tasks ++ [task] } := by
  refine { h with tasksNodup := ?_, tasks := ?_ }
  · exact nodup_append_fresh h.tasksNodup hfresh
  · intro limit hl
    have := hfits limit (h.limits_eq ▸ hl)
    simp only [List.length_append, List.length_singleton]
    omega

/-- A task admitted past the test, counted as bypassed. -/
theorem appendTaskBypassed (h : Admitted L c r) {task : TaskId} (hfresh : task ∉ r.tasks) :
    Admitted L (c + 1) { r with tasks := r.tasks ++ [task] } := by
  refine { h with tasksNodup := ?_, tasks := ?_ }
  · exact nodup_append_fresh h.tasksNodup hfresh
  · intro limit hl
    have := h.tasks limit hl
    simp only [List.length_append, List.length_singleton]
    omega

theorem filterTasks (h : Admitted L c r) (p : TaskId → Bool) :
    Admitted L c { r with tasks := r.tasks.filter p } := by
  refine { h with tasksNodup := h.tasksNodup.filter p, tasks := ?_ }
  intro limit hl
  exact Nat.le_trans (List.length_filter_le _ _) (h.tasks limit hl)

theorem reserve (h : Admitted L c r) (hfits : Fits r.limits.maxObligations r.pendingObligations) :
    Admitted L c { r with pendingObligations := min (r.pendingObligations + 1) usizeMax } := by
  refine { h with obligations := ?_ }
  intro limit hl
  have := hfits limit (h.limits_eq ▸ hl)
  exact Nat.le_trans (Nat.min_le_left _ _) this

theorem resolve (h : Admitted L c r) : Admitted L c r.resolveObligation := by
  unfold resolveObligation
  split
  · rename_i n hn
    refine { h with obligations := fun limit hl => ?_ }
    have := h.obligations limit hl
    show n ≤ limit
    omega
  · exact { h with }

theorem frame {r' : RegionRecord E F} (h : Admitted L c r)
    (hf : r'.children = r.children ∧ r'.tasks = r.tasks ∧
      r'.pendingObligations = r.pendingObligations ∧ r'.limits = r.limits) :
    Admitted L c r' :=
  h.congr hf.1 hf.2.1 hf.2.2.1 hf.2.2.2

/-- One operation keeps the invariant, a bypassed task counted, as long as
it sets no other limits. The cases are the operations; each admission
goes through its summary, each release through a filter or a decrement. -/
theorem step (h : Admitted L c r) (op : RegionOp E F) (hop : ∀ l, op = .setLimits l → l = L) :
    Admitted L (c + if op.bypasses r then 1 else 0) (r.apply op) := by
  cases op
  case addCleanupTask task =>
    simp only [RegionRecord.apply, addCleanupTask]
    rcases addTaskInternal_cases r task true with ⟨e, he⟩ | he | ⟨hfresh, hbypass | hfits, he⟩ <;>
      rw [he]
    · exact h.mono (Nat.le_add_right _ _)
    · exact h.mono (Nat.le_add_right _ _)
    · -- past the test: this is the bypass the run counts
      have hb : (RegionOp.addCleanupTask task : RegionOp E F).bypasses r = true := by
        simp [RegionOp.bypasses, hbypass.2, hfresh]
      rw [hb, if_pos rfl]
      exact h.appendTaskBypassed hfresh
    · exact (h.appendTask hfresh hfits).mono (Nat.le_add_right _ _)
  all_goals simp only [RegionOp.bypasses, Bool.false_eq_true, ↓reduceIte, Nat.add_zero]
  case addChild child =>
    simp only [RegionRecord.apply]
    rcases addChild_cases r child with ⟨e, he⟩ | he | ⟨hfresh, hfits, he⟩ <;> rw [he]
    · exact h
    · exact h
    · exact h.appendChild hfresh hfits
  case removeChild child => exact h.filterChildren _
  case addTask task =>
    simp only [RegionRecord.apply, addTask]
    rcases addTaskInternal_cases r task false with ⟨e, he⟩ | he | ⟨hfresh, ⟨hf, -⟩ | hfits, he⟩ <;>
      rw [he]
    · exact h
    · exact h
    · cases hf
    · exact h.appendTask hfresh hfits
  case removeTask task => exact h.filterTasks _
  case tryReserveObligation =>
    simp only [RegionRecord.apply]
    rcases tryReserveObligation_cases r with ⟨e, he⟩ | ⟨hfits, he⟩ <;> rw [he]
    · exact h
    · exact h.reserve hfits
  case resolveObligation => exact h.resolve
  case setLimits l =>
    obtain rfl := hop l rfl
    exact { h with limits_eq := rfl }
  all_goals exact h.frame (apply_frame_of_not_work r rfl)

/-- Over a run that sets no other limits, the invariant holds with the
run's bypassed tasks counted. -/
theorem run (h : Admitted L c r) (ops : List (RegionOp E F))
    (hops : ∀ l, RegionOp.setLimits l ∈ ops → l = L) :
    Admitted L (c + bypassCount r ops) (Machine.run RegionRecord.apply r ops) := by
  induction ops generalizing r c with
  | nil => exact h
  | cons op ops ih =>
      have h₁ := h.step op (fun l hl => hops l (hl ▸ List.mem_cons_self))
      have h₂ := ih h₁ (fun l hl => hops l (List.mem_cons_of_mem _ hl))
      rw [Machine.run_cons, bypassCount, ← Nat.add_assoc]
      exact h₂

end Admitted

/-- Region admission never over-admits. Over every run from a record with
the limits `limits` that sets no other limits, every state has no
duplicate child or task, at most `max_children` children and
`max_obligations` pending obligations, and at most `max_tasks` tasks
besides those `add_cleanup_task` admitted while `Finalizing`. A refused
admission leaves the record untouched, and `resolve_obligation` never
wraps: at zero it stays at zero and counts the miss. -/
theorem region_admission_never_over_admits (id : RegionId) (limits : RegionLimits)
    (ops : List (RegionOp E F)) (hops : ∀ l, RegionOp.setLimits l ∈ ops → l = limits) :
    (∀ pre post, ops = pre ++ post →
      let r₀ := (new id : RegionRecord E F).setLimits limits
      let r := Machine.run apply r₀ pre
      r.children.Nodup ∧ r.tasks.Nodup ∧
      (∀ limit, limits.maxChildren = some limit → r.children.length ≤ limit) ∧
      (∀ limit, limits.maxObligations = some limit → r.pendingObligations ≤ limit) ∧
      (∀ limit, limits.maxTasks = some limit → r.tasks.length ≤ limit + bypassCount r₀ pre)) ∧
    (∀ (r : RegionRecord E F) (child : RegionId) (task : TaskId) (e : AdmissionError),
      ((r.addChild child).1 = .error e → (r.addChild child).2 = r) ∧
      ((r.addTask task).1 = .error e → (r.addTask task).2 = r) ∧
      ((r.addCleanupTask task).1 = .error e → (r.addCleanupTask task).2 = r) ∧
      (r.tryReserveObligation.1 = .error e → r.tryReserveObligation.2 = r)) ∧
    (∀ r : RegionRecord E F,
      r.resolveObligation.pendingObligations = r.pendingObligations - 1 ∧
      (r.pendingObligations = 0 → r.resolveObligation.pendingObligations = 0 ∧
        r.resolveObligation.doubleResolveCount = r.doubleResolveCount + 1)) := by
  refine ⟨?_, ?_, ?_⟩
  · intro pre post hsplit
    have h := (Admitted.init (E := E) (F := F) id limits).run pre
      (fun l hl => hops l (hsplit ▸ List.mem_append_left post hl))
    rw [Nat.zero_add] at h
    exact ⟨h.childrenNodup, h.tasksNodup, h.children, h.obligations, h.tasks⟩
  · intro r child task e
    exact ⟨addChild_rejected, addTaskInternal_rejected, addTaskInternal_rejected,
      tryReserveObligation_rejected⟩
  · intro r
    exact ⟨resolveObligation_pendingObligations r, resolveObligation_of_zero⟩

/-- Two tasks offered to a region that holds one: the bound applies to
the run. -/
theorem region_admission_two_tasks_one_slot :
    (∀ l, RegionOp.setLimits l ∈
        ([.addTask ⟨⟨1, 0⟩⟩, .addTask ⟨⟨2, 0⟩⟩] : List (RegionOp Unit Unit)) →
        l = ⟨none, some 1, none⟩) ∧
      (Machine.run apply ((new ⟨⟨0, 0⟩⟩ : RegionRecord Unit Unit).setLimits ⟨none, some 1, none⟩)
          [.addTask ⟨⟨1, 0⟩⟩, .addTask ⟨⟨2, 0⟩⟩]).tasks.length ≤
        1 + bypassCount ((new ⟨⟨0, 0⟩⟩ : RegionRecord Unit Unit).setLimits ⟨none, some 1, none⟩)
          [.addTask ⟨⟨1, 0⟩⟩, .addTask ⟨⟨2, 0⟩⟩] :=
  ⟨by simp,
    ((region_admission_never_over_admits ⟨⟨0, 0⟩⟩ ⟨none, some 1, none⟩
      [.addTask ⟨⟨1, 0⟩⟩, .addTask ⟨⟨2, 0⟩⟩] (by simp)).1 _ [] (by simp)).2.2.2.2 1 rfl⟩

end RegionRecord

end Asupersync
