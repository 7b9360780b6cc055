/-
The region close protocol, over every run of the record's operations.

# Method

Each operation is first summarised by what it can do to the record
(`addChild_eq_or`, `popFinalizer_eq_or`, the close-sequence state lemmas,
`completeClose_eq`); every later proof cites those and never unfolds an
operation again. From them:

- `apply_advances`: one step keeps the state or takes an edge of the
  documented lifecycle graph;
- `apply_closing`: the only step into `Closed` is a `complete_close` from
  a quiescent `Finalizing` record;
- outside `Open` the children and pending obligations only shrink, and
  outside `Open`/`Finalizing` the tasks too (`apply_children_sublist`,
  `apply_pendingObligations_le`, `apply_tasks_sublist`), so a closed region
  stays empty of them (`apply_closedQuiet`);
- in `Closed`, the finalizer stack changes only by `add_finalizer`, which
  has no state check (`apply_finalizers_of_closed`). A closed region can
  therefore hold finalizers (`closed_region_keeps_late_finalizer`): exactly
  those pushed after the close (`run_finalizers_of_closed`). The runtime
  refuses to register a finalizer on a closing or closed region
  (`RuntimeState::register_sync_finalizer`); the record does not.
-/
import Asupersync.Machine.Run
import Asupersync.Spec.RegionLifecycle

namespace Asupersync

namespace RegionRecord

variable {E F : Type}

open RegionState (Advances Edge)

-- ========================================== what each operation can do

section Shapes

variable (r : RegionRecord E F)

theorem isQuiescent_iff :
    r.isQuiescent = true ↔ r.children = [] ∧ r.tasks = [] ∧ r.pendingObligations = 0 ∧
      r.finalizers = [] ∧ r.pendingSpawns.count = 0 := by
  simp [isQuiescent, and_assoc]

theorem addChild_eq_or (child : RegionId) :
    (r.addChild child).2 = r ∨ (r.addChild child).2 = { r with children := r.children ++ [child] } := by
  unfold addChild
  split
  · exact .inl rfl
  · split
    · exact .inl rfl
    · split
      · exact .inl rfl
      · exact .inr rfl

theorem addTaskInternal_eq_or (task : TaskId) (cleanupTask : Bool) :
    (r.addTaskInternal task cleanupTask).2 = r ∨
      (r.addTaskInternal task cleanupTask).2 = { r with tasks := r.tasks ++ [task] } := by
  unfold addTaskInternal
  dsimp only
  repeat' split
  all_goals first | exact .inl rfl | exact .inr rfl

theorem tryReserveObligation_eq_or :
    r.tryReserveObligation.2 = r ∨ r.tryReserveObligation.2 =
      { r with pendingObligations := min (r.pendingObligations + 1) usizeMax } := by
  unfold tryReserveObligation
  split
  · exact .inl rfl
  · split
    · exact .inl rfl
    · exact .inr rfl

theorem popFinalizer_eq_or :
    r.popFinalizer.2 = r ∨
      (r.state.load = .Finalizing ∧ r.popFinalizer.2 = { r with finalizers := r.finalizers.tail }) := by
  unfold popFinalizer
  split
  · exact .inl rfl
  · rename_i hfin
    split
    · exact .inl rfl
    · rename_i f rest hfs
      exact .inr ⟨not_not.mp hfin, by rw [hfs]; rfl⟩

theorem resolveObligation_pendingObligations :
    r.resolveObligation.pendingObligations = r.pendingObligations - 1 := by
  unfold resolveObligation
  split <;> simp_all

/-- `add_child` outside `Open` is refused and changes nothing. -/
theorem addChild_of_not_open {r : RegionRecord E F} (h : r.state.load ≠ .Open)
    (child : RegionId) : r.addChild child = (.error .Closed, r) := by
  have hs : r.state.load.canSpawn = false := by
    cases hl : r.state.load <;> simp_all [RegionState.canSpawn]
  simp [addChild, hs]

theorem addTaskInternal_of_not_admit {r : RegionRecord E F} (cleanupTask : Bool)
    (h : (if cleanupTask then r.state.load.canAcceptCleanupWork
      else r.state.load.canAcceptWork) = false) (task : TaskId) :
    r.addTaskInternal task cleanupTask = (.error .Closed, r) := by
  simp only [addTaskInternal, h, Bool.not_false, if_true]

/-- `add_task` outside `Open` is refused and changes nothing. -/
theorem addTask_of_not_open {r : RegionRecord E F} (h : r.state.load ≠ .Open) (task : TaskId) :
    r.addTask task = (.error .Closed, r) := by
  apply addTaskInternal_of_not_admit false
  cases hl : r.state.load <;> simp_all [RegionState.canAcceptWork]

/-- `try_reserve_obligation` outside `Open` is refused and changes nothing. -/
theorem tryReserveObligation_of_not_open {r : RegionRecord E F} (h : r.state.load ≠ .Open) :
    r.tryReserveObligation = (.error .Closed, r) := by
  have hs : r.state.load.canAcceptWork = false := by
    cases hl : r.state.load <;> simp_all [RegionState.canAcceptWork]
  simp [tryReserveObligation, hs]

-- the close sequence: the state each step leaves

theorem beginClose_state (reason : Option CancelReason) :
    (r.beginClose reason).2.state.load =
      if r.state.load = .Open then .Closing else r.state.load := by
  unfold beginClose
  split
  · rename_i hc
    simp [hc]
  · cases reason <;> simp [strengthenCancelReason]

theorem beginDrain_state :
    r.beginDrain.2.state.load = if r.state.load = .Closing then .Draining else r.state.load := by
  simp [beginDrain]

theorem beginFinalize_state :
    r.beginFinalize.2.state.load =
      if r.state.load = .Closing ∨ r.state.load = .Draining then .Finalizing
      else r.state.load := by
  cases h : r.state.load <;> simp [beginFinalize, AtomicRegionState.transition_eq, h]

/-- `complete_close` on a quiescent `Finalizing` record. -/
theorem completeClose_eq {r : RegionRecord E F} (hfin : r.state.load = .Finalizing)
    (hq : r.isQuiescent = true) :
    r.completeClose = (true, { r with
      closeOutcome := some (r.closeOutcome.getD r.defaultOutcome),
      state := .new .Closed, closeNotify := ⟨true⟩ }) := by
  simp [completeClose, hfin, hq, AtomicRegionState.transition_eq]

theorem completeClose_of_not {r : RegionRecord E F}
    (h : ¬(r.state.load = .Finalizing ∧ r.isQuiescent = true)) : r.completeClose = (false, r) := by
  unfold completeClose
  by_cases hfin : r.state.load = .Finalizing
  · have hq : r.isQuiescent = false := by simpa [hfin] using h
    simp [hfin, hq]
  · simp [hfin]

theorem completeClose_state :
    r.completeClose.2.state.load =
      if r.state.load = .Finalizing ∧ r.isQuiescent = true then .Closed else r.state.load := by
  by_cases h : r.state.load = .Finalizing ∧ r.isQuiescent = true
  · rw [completeClose_eq h.1 h.2, if_pos h]
    simp
  · rw [completeClose_of_not h, if_neg h]

end Shapes

/-- The operations that store a state. -/
def RegionOp.isCloseStep : RegionOp E F → Bool
  | .beginClose _ | .beginDrain | .beginFinalize | .completeClose => true
  | _ => false

/-- Every other operation leaves the state cell alone. -/
theorem apply_state_of_not_closeStep (r : RegionRecord E F) {op : RegionOp E F}
    (h : op.isCloseStep = false) : (r.apply op).state = r.state := by
  cases op <;> simp only [RegionOp.isCloseStep, Bool.true_eq_false] at h
  case addChild child =>
    rcases addChild_eq_or r child with h | h <;> simp [apply, h]
  case addTask task =>
    rcases addTaskInternal_eq_or r task false with h | h <;> simp [apply, addTask, h]
  case addCleanupTask task =>
    rcases addTaskInternal_eq_or r task true with h | h <;> simp [apply, addCleanupTask, h]
  case tryReserveObligation =>
    rcases tryReserveObligation_eq_or r with h | h <;> simp [apply, h]
  case popFinalizer =>
    rcases popFinalizer_eq_or r with h | ⟨-, h⟩ <;> simp [apply, h]
  case resolveObligation =>
    simp only [apply, resolveObligation]
    split <;> rfl
  all_goals rfl

/-- The close sequence moves no work: it touches only the state, the
reason, the close flag and, in `complete_close`, the outcome. -/
theorem apply_frame_of_closeStep (r : RegionRecord E F) {op : RegionOp E F}
    (h : op.isCloseStep = true) :
    (r.apply op).children = r.children ∧ (r.apply op).tasks = r.tasks ∧
      (r.apply op).pendingObligations = r.pendingObligations ∧
      (r.apply op).finalizers = r.finalizers ∧ (r.apply op).pendingSpawns = r.pendingSpawns ∧
      ((r.apply op).closeOutcome = r.closeOutcome ∨
        (r.apply op).closeOutcome = some (r.closeOutcome.getD r.defaultOutcome)) := by
  cases op <;> simp only [RegionOp.isCloseStep, Bool.false_eq_true] at h
  case beginClose reason =>
    simp only [apply, beginClose]
    split
    · exact ⟨rfl, rfl, rfl, rfl, rfl, .inl rfl⟩
    · cases reason <;> exact ⟨rfl, rfl, rfl, rfl, rfl, .inl rfl⟩
  case beginDrain => exact ⟨rfl, rfl, rfl, rfl, rfl, .inl rfl⟩
  case beginFinalize =>
    simp only [apply, beginFinalize]
    split <;> exact ⟨rfl, rfl, rfl, rfl, rfl, .inl rfl⟩
  case completeClose =>
    simp only [apply]
    by_cases hq : r.state.load = .Finalizing ∧ r.isQuiescent = true
    · rw [completeClose_eq hq.1 hq.2]
      exact ⟨rfl, rfl, rfl, rfl, rfl, .inr rfl⟩
    · rw [completeClose_of_not hq]
      exact ⟨rfl, rfl, rfl, rfl, rfl, .inl rfl⟩

-- ============================================= the lifecycle, step by step

/-- One step keeps the state or takes a documented edge. -/
theorem apply_advances (r : RegionRecord E F) (op : RegionOp E F) :
    Advances r.state.load (r.apply op).state.load := by
  cases hop : op.isCloseStep
  case false =>
    rw [apply_state_of_not_closeStep r hop]
    exact Advances.refl _
  case true =>
    cases op <;> simp only [RegionOp.isCloseStep, Bool.false_eq_true] at hop
    case beginClose reason =>
      simp only [apply, beginClose_state]
      split
      · rename_i h
        rw [h]
        exact .inr .close
      · exact Advances.refl _
    case beginDrain =>
      simp only [apply, beginDrain_state]
      split
      · rename_i h
        rw [h]
        exact .inr .drain
      · exact Advances.refl _
    case beginFinalize =>
      simp only [apply, beginFinalize_state]
      split
      · rename_i h
        rcases h with h | h <;> rw [h]
        · exact .inr .finalizeFromClosing
        · exact .inr .finalizeFromDraining
      · exact Advances.refl _
    case completeClose =>
      simp only [apply, completeClose_state]
      split
      · rename_i h
        rw [h.1]
        exact .inr .complete
      · exact Advances.refl _

/-- The only step into `Closed` is `complete_close` on a quiescent
`Finalizing` record. -/
theorem apply_closing {r : RegionRecord E F} {op : RegionOp E F} (hr : r.state.load ≠ .Closed)
    (h : (r.apply op).state.load = .Closed) :
    op = .completeClose ∧ r.state.load = .Finalizing ∧ r.isQuiescent = true := by
  have hfin : r.state.load = .Finalizing := by
    have hadv := apply_advances r op
    rw [h] at hadv
    exact hadv.eq_finalizing hr
  cases op
  case completeClose =>
    simp only [apply, completeClose_state] at h
    split at h
    · rename_i hq
      exact ⟨rfl, hq⟩
    · exact absurd h hr
  case beginClose reason =>
    simp [apply, beginClose_state, hfin] at h
  case beginDrain =>
    simp [apply, beginDrain_state, hfin] at h
  case beginFinalize =>
    simp [apply, beginFinalize_state, hfin] at h
  all_goals
    rw [apply_state_of_not_closeStep r rfl] at h
    exact absurd h hr

theorem apply_eq_of_closing {r : RegionRecord E F} {op : RegionOp E F}
    (hr : r.state.load ≠ .Closed) (h : (r.apply op).state.load = .Closed) :
    r.apply op = { r with
      closeOutcome := some (r.closeOutcome.getD r.defaultOutcome),
      state := .new .Closed, closeNotify := ⟨true⟩ } := by
  obtain ⟨rfl, hfin, hq⟩ := apply_closing hr h
  rw [apply, completeClose_eq hfin hq]

-- ======================================== what a closed region keeps

/-- Outside `Open`, children only leave. -/
theorem apply_children_sublist {r : RegionRecord E F} (h : r.state.load ≠ .Open)
    (op : RegionOp E F) : (r.apply op).children.Sublist r.children := by
  cases hop : op.isCloseStep
  case true =>
    rw [(apply_frame_of_closeStep r hop).1]
  case false =>
    cases op <;> simp only [RegionOp.isCloseStep, Bool.true_eq_false] at hop
    case addChild child => simp [apply, addChild_of_not_open h]
    case removeChild child => exact List.filter_sublist
    case addTask task =>
      rcases addTaskInternal_eq_or r task false with h' | h' <;> simp [apply, addTask, h']
    case addCleanupTask task =>
      rcases addTaskInternal_eq_or r task true with h' | h' <;> simp [apply, addCleanupTask, h']
    case tryReserveObligation => simp [apply, tryReserveObligation_of_not_open h]
    case popFinalizer =>
      rcases popFinalizer_eq_or r with h' | ⟨-, h'⟩ <;> simp [apply, h']
    case resolveObligation =>
      simp only [apply, resolveObligation]
      split <;> exact List.Sublist.refl _
    all_goals exact List.Sublist.refl _

/-- Where not even cleanup work is admitted (`Closing`, `Draining`,
`Closed`), tasks only leave. -/
theorem apply_tasks_sublist {r : RegionRecord E F}
    (h : r.state.load.canAcceptCleanupWork = false) (op : RegionOp E F) :
    (r.apply op).tasks.Sublist r.tasks := by
  have hwork : r.state.load.canAcceptWork = false := by
    cases hl : r.state.load <;> simp_all [RegionState.canAcceptWork,
      RegionState.canAcceptCleanupWork]
  cases hop : op.isCloseStep
  case true =>
    rw [(apply_frame_of_closeStep r hop).2.1]
  case false =>
    cases op <;> simp only [RegionOp.isCloseStep, Bool.true_eq_false] at hop
    case addChild child =>
      rcases addChild_eq_or r child with h' | h' <;> simp [apply, h']
    case addTask task =>
      simp [apply, addTask, addTaskInternal_of_not_admit false (by simpa using hwork)]
    case addCleanupTask task =>
      simp [apply, addCleanupTask, addTaskInternal_of_not_admit true (by simpa using h)]
    case removeTask task => exact List.filter_sublist
    case tryReserveObligation =>
      rcases tryReserveObligation_eq_or r with h' | h' <;> simp [apply, h']
    case popFinalizer =>
      rcases popFinalizer_eq_or r with h' | ⟨-, h'⟩ <;> simp [apply, h']
    case resolveObligation =>
      simp only [apply, resolveObligation]
      split <;> exact List.Sublist.refl _
    all_goals exact List.Sublist.refl _

/-- Outside `Open`, pending obligations only resolve. -/
theorem apply_pendingObligations_le {r : RegionRecord E F} (h : r.state.load ≠ .Open)
    (op : RegionOp E F) : (r.apply op).pendingObligations ≤ r.pendingObligations := by
  cases hop : op.isCloseStep
  case true =>
    rw [(apply_frame_of_closeStep r hop).2.2.1]
  case false =>
    cases op <;> simp only [RegionOp.isCloseStep, Bool.true_eq_false] at hop
    case addChild child =>
      rcases addChild_eq_or r child with h' | h' <;> simp [apply, h']
    case addTask task =>
      rcases addTaskInternal_eq_or r task false with h' | h' <;> simp [apply, addTask, h']
    case addCleanupTask task =>
      rcases addTaskInternal_eq_or r task true with h' | h' <;> simp [apply, addCleanupTask, h']
    case tryReserveObligation => simp [apply, tryReserveObligation_of_not_open h]
    case resolveObligation =>
      simp only [apply, resolveObligation_pendingObligations]
      omega
    case popFinalizer =>
      rcases popFinalizer_eq_or r with h' | ⟨-, h'⟩ <;> simp [apply, h']
    all_goals exact Nat.le_refl _

/-- Once recorded, a close outcome stays recorded. -/
theorem apply_closeOutcome_isSome {r : RegionRecord E F} (h : r.closeOutcome.isSome = true)
    (op : RegionOp E F) : (r.apply op).closeOutcome.isSome = true := by
  cases hop : op.isCloseStep
  case true =>
    rcases (apply_frame_of_closeStep r hop).2.2.2.2.2 with h' | h' <;> simp [h', h]
  case false =>
    cases op <;> simp only [RegionOp.isCloseStep, Bool.true_eq_false] at hop
    case addChild child =>
      rcases addChild_eq_or r child with h' | h' <;> simp [apply, h', h]
    case addTask task =>
      rcases addTaskInternal_eq_or r task false with h' | h' <;> simp [apply, addTask, h', h]
    case addCleanupTask task =>
      rcases addTaskInternal_eq_or r task true with h' | h' <;> simp [apply, addCleanupTask, h', h]
    case tryReserveObligation =>
      rcases tryReserveObligation_eq_or r with h' | h' <;> simp [apply, h', h]
    case popFinalizer =>
      rcases popFinalizer_eq_or r with h' | ⟨-, h'⟩ <;> simp [apply, h', h]
    case resolveObligation =>
      simp only [apply, resolveObligation]
      split <;> exact h
    case recordCloseOutcome outcome => rfl
    all_goals exact h

/-- What a closed region holds: no children, tasks or pending obligations,
and a close outcome. -/
def ClosedQuiet (r : RegionRecord E F) : Prop :=
  r.state.load = .Closed →
    r.children = [] ∧ r.tasks = [] ∧ r.pendingObligations = 0 ∧ r.closeOutcome.isSome = true

theorem closedQuiet_new (id : RegionId) : (new id : RegionRecord E F).ClosedQuiet := by
  intro h
  simp [new] at h

theorem apply_closedQuiet : Machine.Preserved (apply (E := E) (F := F)) ClosedQuiet := by
  intro r op hinv h'
  by_cases hc : r.state.load = .Closed
  · -- already closed: every piece of work can only leave, and there is none
    obtain ⟨hch, hta, hob, hout⟩ := hinv hc
    have hopen : r.state.load ≠ .Open := by rw [hc]; decide
    have hclean : r.state.load.canAcceptCleanupWork = false := by rw [hc]; rfl
    have hch' := apply_children_sublist hopen op
    have hta' := apply_tasks_sublist hclean op
    have hob' := apply_pendingObligations_le hopen op
    rw [hch] at hch'
    rw [hta] at hta'
    exact ⟨List.sublist_nil.mp hch', List.sublist_nil.mp hta', by omega,
      apply_closeOutcome_isSome hout op⟩
  · -- the closing step itself: `complete_close` found the record quiescent
    obtain ⟨-, -, hq⟩ := apply_closing hc h'
    obtain ⟨hch, hta, hob, -, -⟩ := (isQuiescent_iff r).mp hq
    rw [apply_eq_of_closing hc h']
    exact ⟨hch, hta, hob, rfl⟩

-- ======================================= finalizers after the close

/-- The finalizer an operation pushes, if it is `add_finalizer`. -/
def RegionOp.addedFinalizer : RegionOp E F → Option F
  | .addFinalizer finalizer => some finalizer
  | _ => none

/-- On a closed record only `add_finalizer` moves the finalizer stack. -/
theorem apply_finalizers_of_closed {r : RegionRecord E F} (h : r.state.load = .Closed)
    (op : RegionOp E F) : (r.apply op).finalizers = op.addedFinalizer.toList ++ r.finalizers := by
  cases hop : op.isCloseStep
  case true =>
    rw [(apply_frame_of_closeStep r hop).2.2.2.1]
    cases op <;> simp_all [RegionOp.isCloseStep, RegionOp.addedFinalizer]
  case false =>
    cases op <;> simp only [RegionOp.isCloseStep, Bool.true_eq_false] at hop
    case addChild child =>
      rcases addChild_eq_or r child with h' | h' <;> simp [apply, h', RegionOp.addedFinalizer]
    case addTask task =>
      rcases addTaskInternal_eq_or r task false with h' | h' <;>
        simp [apply, addTask, h', RegionOp.addedFinalizer]
    case addCleanupTask task =>
      rcases addTaskInternal_eq_or r task true with h' | h' <;>
        simp [apply, addCleanupTask, h', RegionOp.addedFinalizer]
    case tryReserveObligation =>
      rcases tryReserveObligation_eq_or r with h' | h' <;> simp [apply, h', RegionOp.addedFinalizer]
    case popFinalizer =>
      -- `pop_finalizer` only pops while `Finalizing`
      rcases popFinalizer_eq_or r with h' | ⟨hfin, -⟩
      · simp [apply, h', RegionOp.addedFinalizer]
      · rw [h] at hfin
        cases hfin
    case resolveObligation =>
      simp only [apply, resolveObligation]
      split <;> rfl
    all_goals rfl

theorem apply_closed {r : RegionRecord E F} (h : r.state.load = .Closed) (op : RegionOp E F) :
    (r.apply op).state.load = .Closed := by
  have hadv := apply_advances r op
  rw [h] at hadv
  exact hadv.eq_closed

/-- After the close, the stack holds what it held then and whatever
`add_finalizer` pushed since, newest on top. -/
theorem run_finalizers_of_closed {r : RegionRecord E F} (ops : List (RegionOp E F))
    (h : r.state.load = .Closed) :
    (Machine.run apply r ops).finalizers =
      (ops.filterMap RegionOp.addedFinalizer).reverse ++ r.finalizers := by
  induction ops generalizing r with
  | nil => rfl
  | cons op ops ih =>
      rw [Machine.run_cons, ih (apply_closed h op), apply_finalizers_of_closed h op]
      cases hf : op.addedFinalizer <;> simp [hf]

-- ================================================ the close protocol

/-- A region taken through the whole close sequence still accepts a
finalizer: `add_finalizer` checks no state. -/
theorem closed_region_keeps_late_finalizer :
    (Machine.run apply (new ⟨⟨0, 0⟩⟩ : RegionRecord Unit Nat)
      [.beginClose none, .beginFinalize, .completeClose, .addFinalizer 7]).state.load = .Closed ∧
    (Machine.run apply (new ⟨⟨0, 0⟩⟩ : RegionRecord Unit Nat)
      [.beginClose none, .beginFinalize, .completeClose, .addFinalizer 7]).finalizers = [7] :=
  ⟨rfl, rfl⟩

/-- Along every run from `RegionRecord::new`: the state only takes edges of
the documented lifecycle; outside `Open`, `add_child`, `add_task` and
`try_reserve_obligation` fail with `Closed` and change nothing; the step
into `Closed` is taken from a record with no children, tasks, pending
obligations, finalizers or pending spawns, and records the outcome folded
in so far or else the default (`Cancelled(reason)` when a cancel reason is
held, `Ok(())` otherwise); every closed state has no children, tasks or
pending obligations and has an outcome; and the finalizers of a closed
state are those it held when it closed (none) plus those `add_finalizer`
pushed since. -/
theorem region_close_protocol (id : RegionId) (ops : List (RegionOp E F)) :
    let tr := Machine.trace apply (new id : RegionRecord E F) ops
    tr.IsChain (fun r r' => RegionState.Advances r.state.load r'.state.load) ∧
    (∀ r ∈ tr, r.state.load ≠ .Open → ∀ (child : RegionId) (task : TaskId),
      r.addChild child = (.error .Closed, r) ∧ r.addTask task = (.error .Closed, r) ∧
        r.tryReserveObligation = (.error .Closed, r)) ∧
    tr.IsChain (fun r r' => r.state.load ≠ .Closed → r'.state.load = .Closed →
      (r.children = [] ∧ r.tasks = [] ∧ r.pendingObligations = 0 ∧ r.finalizers = [] ∧
        r.pendingSpawns.count = 0) ∧
      r'.closeOutcome = some (r.closeOutcome.getD r.defaultOutcome)) ∧
    (∀ r ∈ tr, r.state.load = .Closed →
      r.children = [] ∧ r.tasks = [] ∧ r.pendingObligations = 0 ∧ r.closeOutcome.isSome = true) ∧
    (∀ pre post, ops = pre ++ post →
      (Machine.run apply (new id : RegionRecord E F) pre).state.load = .Closed →
      (Machine.run apply (new id : RegionRecord E F) ops).finalizers =
        (post.filterMap RegionOp.addedFinalizer).reverse ++
          (Machine.run apply (new id : RegionRecord E F) pre).finalizers) := by
  refine ⟨?_, ?_, ?_, ?_, ?_⟩
  · exact Machine.trace_isChain_of_step apply_advances ops
  · intro r _ hr child task
    exact ⟨addChild_of_not_open hr child, addTask_of_not_open hr task,
      tryReserveObligation_of_not_open hr⟩
  · refine Machine.trace_isChain_of_step (fun r op hr h' => ?_) ops
    obtain ⟨-, -, hq⟩ := apply_closing hr h'
    refine ⟨(isQuiescent_iff r).mp hq, ?_⟩
    rw [apply_eq_of_closing hr h']
  · intro r hr
    exact Machine.mem_trace_preserved apply_closedQuiet ops (closedQuiet_new id) r hr
  · intro pre post hops hpre
    rw [hops, Machine.run_append]
    exact run_finalizers_of_closed post hpre

end RegionRecord

end Asupersync
