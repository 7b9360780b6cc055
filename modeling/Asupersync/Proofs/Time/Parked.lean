/-
With `max_wheel_duration` zero, a timer whose deadline lies past the
current tick is parked in the overflow heap for good.

# Why

`max_range_ns` is `min(max_wheel_duration, physical range)`, so zero.
`insert_entry_at` sends every entry not yet due to the overflow heap
(`delta >= max_range`), and `refill_overflow` promotes an entry only when
`delta < max_range`, which never holds: not even once the deadline has
passed, when `delta` saturates to zero. Its sibling `insert_entry_at`
checks `deadline <= current` before the range; `refill_overflow` does not.

# The proof

`Shuffle extra w w'` is what the internal steps of `advance_to` do to the
entries: the overflow heap only grows, the ready list and the level slots
only hold entries they held before or `extra` (what the step inserts), and
the activity map is untouched. `insert_entry_at`, `collect_bucket`, the
slot takes of `tick_level0` and `cascade`, the cursor moves, and (with a
zero range) `refill_overflow` are shuffles, and so is `synchronize`.

`Parked h w` says that the timer with handle `h` is live, has an entry in
the overflow heap, and none in the ready list or the levels. Shuffles keep
it; so do `register`, `try_register`, `cancel` of another handle,
`next_deadline` (which pops only dead entries) and, with coalescing off,
`drain_ready`, which fires only entries of the ready list. A timer
registered past the current tick on such a wheel is parked at once
(`register_parked`), so no run that does not cancel it ever returns it.
-/
import Asupersync.Time.Wheel
import Asupersync.Machine.Exec

namespace Asupersync

namespace TimerWheel

variable {σ ω : Type}

-- ============================================================== entries

/-- The entries held in the levels' slots. -/
def levelEntries (w : TimerWheel σ ω) : List (TimerEntry ω) :=
  w.levels.toList.flatMap fun l => l.slots.toList.flatten

/-- The entries outside the overflow heap. -/
def others (w : TimerWheel σ ω) : List (TimerEntry ω) := w.ready ++ w.levelEntries

theorem mem_flatMap_set {α β : Type} {f : α → List β} {l : List α} {i : Nat} {a : α} {y : β}
    (hy : y ∈ (l.set i a).flatMap f) : y ∈ l.flatMap f ∨ y ∈ f a := by
  obtain ⟨b, hb, hyb⟩ := List.mem_flatMap.mp hy
  rcases List.mem_or_eq_of_mem_set hb with hb | rfl
  · exact Or.inl (List.mem_flatMap.mpr ⟨b, hb, hyb⟩)
  · exact Or.inr hyb

/-- `getD` reads an element or the default. -/
theorem getD_mem_or {α : Type} {n : Nat} (xs : Vector α n) (i : Nat) (d : α) :
    xs.getD i d ∈ xs.toList ∨ xs.getD i d = d := by
  unfold Vector.getD
  rw [Array.getD_eq_getD_getElem?]
  cases hi : xs.toArray[i]? with
  | none => exact Or.inr rfl
  | some x =>
      left
      rw [Option.getD_some, Vector.mem_toList_iff, ← Vector.mem_toArray_iff]
      exact Array.mem_of_getElem? hi

theorem mem_flatten_getD {α : Type} {n : Nat} {xs : Vector (List α) n} {i : Nat} {y : α}
    (hy : y ∈ xs.getD i []) : y ∈ xs.toList.flatten := by
  rcases getD_mem_or xs i [] with h | h
  · exact List.mem_flatten.mpr ⟨_, h, hy⟩
  · rw [h] at hy
    cases hy

/-- Writing a slot with entries of the old slot and `extra`. -/
theorem mem_flatten_setIfInBounds {α : Type} {n : Nat} {xs : Vector (List α) n} {i : Nat}
    {s : List α} {y : α} (hy : y ∈ (xs.setIfInBounds i s).toList.flatten) :
    y ∈ xs.toList.flatten ∨ y ∈ s := by
  rw [Vector.toList_setIfInBounds] at hy
  obtain ⟨t, ht, hyt⟩ := List.mem_flatten.mp hy
  rcases List.mem_or_eq_of_mem_set ht with ht | rfl
  · exact Or.inl (List.mem_flatten.mpr ⟨t, ht, hyt⟩)
  · exact Or.inr hyt

-- ============================================================== shuffles

/-- What an internal step does to the entries. -/
structure Shuffle (extra : List (TimerEntry ω)) (w w' : TimerWheel σ ω) : Prop where
  overflow : ∀ o ∈ w.overflow, o ∈ w'.overflow
  others : ∀ x ∈ w'.others, x ∈ w.others ∨ x ∈ extra
  active : w'.active = w.active
  maxWheelDurationNs : w'.maxWheelDurationNs = w.maxWheelDurationNs
  coalescing : w'.coalescing = w.coalescing

namespace Shuffle

variable {extra extra' : List (TimerEntry ω)} {w w₁ w₂ : TimerWheel σ ω}

theorem refl (w : TimerWheel σ ω) : Shuffle [] w w :=
  ⟨fun _ h => h, fun _ h => Or.inl h, rfl, rfl, rfl⟩

theorem trans (h₁ : Shuffle extra w w₁) (h₂ : Shuffle extra' w₁ w₂) :
    Shuffle (extra ++ extra') w w₂ := by
  refine ⟨fun o ho => h₂.overflow o (h₁.overflow o ho), ?_, h₂.active.trans h₁.active,
    h₂.maxWheelDurationNs.trans h₁.maxWheelDurationNs, h₂.coalescing.trans h₁.coalescing⟩
  intro x hx
  rcases h₂.others x hx with hx | hx
  · rcases h₁.others x hx with hx | hx
    · exact Or.inl hx
    · exact Or.inr (List.mem_append_left _ hx)
  · exact Or.inr (List.mem_append_right _ hx)

/-- Entries taken from the step's own start are no extra. -/
theorem absorb (h : Shuffle extra w w₁) (hextra : ∀ x ∈ extra, x ∈ w.others) : Shuffle [] w w₁ := by
  refine ⟨h.overflow, ?_, h.active, h.maxWheelDurationNs, h.coalescing⟩
  intro x hx
  rcases h.others x hx with hx | hx
  · exact Or.inl hx
  · exact Or.inl (hextra x hx)

theorem mono (h : Shuffle extra w w₁) (hsub : ∀ x ∈ extra, x ∈ extra') : Shuffle extra' w w₁ := by
  refine ⟨h.overflow, ?_, h.active, h.maxWheelDurationNs, h.coalescing⟩
  intro x hx
  rcases h.others x hx with hx | hx
  · exact Or.inl hx
  · exact Or.inr (hsub x hx)

/-- A fold whose every turn inserts at most its own item. -/
theorem foldl (xs : List (TimerEntry ω)) {f : TimerWheel σ ω → TimerEntry ω → TimerWheel σ ω}
    (hf : ∀ w x, x ∈ xs → Shuffle [x] w (f w x)) (w : TimerWheel σ ω) :
    Shuffle xs w (xs.foldl f w) := by
  induction xs generalizing w with
  | nil => exact refl w
  | cons x xs ih =>
      rw [List.foldl_cons]
      have h₁ := hf w x List.mem_cons_self
      have h₂ := ih (fun w y hy => hf w y (List.mem_cons_of_mem x hy)) (f w x)
      exact h₁.trans h₂

end Shuffle

variable (S : Slab σ Nat) {w : TimerWheel σ ω}

/-- Pushing an entry onto the ready list. -/
theorem shuffle_pushReady (w : TimerWheel σ ω) (x : TimerEntry ω) :
    Shuffle [x] w { w with ready := w.ready ++ [x] } := by
  refine ⟨fun _ h => h, ?_, rfl, rfl, rfl⟩
  intro y hy
  simp only [others, levelEntries, List.mem_append, List.mem_singleton] at hy ⊢
  rcases hy with (hy | hy) | hy
  · exact Or.inl (Or.inl hy)
  · exact Or.inr hy
  · exact Or.inl (Or.inr hy)

/-- Pushing an entry onto the overflow heap. -/
theorem shuffle_pushOverflow (w : TimerWheel σ ω) (o : OverflowEntry ω) :
    Shuffle [] w { w with overflow := MaxHeap.push w.overflow o } :=
  ⟨fun _ h => MaxHeap.mem_push.mpr (Or.inl h), fun _ h => Or.inl h, rfl, rfl, rfl⟩

/-- A step that moves no entry. -/
theorem shuffle_frame {w' : TimerWheel σ ω} (hr : w'.ready = w.ready)
    (hl : w'.levelEntries = w.levelEntries) (ho : w'.overflow = w.overflow) (ha : w'.active = w.active)
    (hm : w'.maxWheelDurationNs = w.maxWheelDurationNs) (hc : w'.coalescing = w.coalescing) :
    Shuffle [] w w' := by
  refine ⟨fun o h => ho ▸ h, ?_, ha, hm, hc⟩
  intro x hx
  rw [others, hr, hl] at hx
  exact Or.inl hx

/-- Replacing a level by one whose slots hold old entries or `extra`;
nothing else that a shuffle watches moves. -/
theorem shuffle_setLevel {w' : TimerWheel σ ω} {i : Nat} {l : WheelLevel ω}
    (hlv : w'.levels.toList = w.levels.toList.set i l) (hr : w'.ready = w.ready)
    (ho : w'.overflow = w.overflow) (ha : w'.active = w.active)
    (hm : w'.maxWheelDurationNs = w.maxWheelDurationNs) (hc : w'.coalescing = w.coalescing)
    {extra : List (TimerEntry ω)} (hl : ∀ y ∈ l.slots.toList.flatten, y ∈ w.levelEntries ∨ y ∈ extra) :
    Shuffle extra w w' := by
  refine ⟨fun o h => ho ▸ h, ?_, ha, hm, hc⟩
  intro y hy
  simp only [others, List.mem_append, hr] at hy ⊢
  rcases hy with hy | hy
  · exact Or.inl (Or.inl hy)
  · unfold levelEntries at hy
    rw [hlv] at hy
    rcases mem_flatMap_set hy with hy | hy
    · exact Or.inl (Or.inr hy)
    · rcases hl y hy with hy | hy
      · exact Or.inl (Or.inr hy)
      · exact Or.inr hy

/-- The entries of a level the wheel holds are the wheel's. -/
theorem mem_levelEntries {l : WheelLevel ω} (hl : l ∈ w.levels.toList) {y : TimerEntry ω}
    (hy : y ∈ l.slots.toList.flatten) : y ∈ w.levelEntries :=
  List.mem_flatMap.mpr ⟨l, hl, hy⟩

theorem flatten_new_slots (r c : Nat) : (WheelLevel.new r c : WheelLevel ω).slots.toList.flatten = [] := by
  simp [WheelLevel.new]

/-- A level read with `getD` holds entries of the wheel. -/
theorem mem_levelEntries_getD {i : Nat} {r c : Nat} {y : TimerEntry ω}
    (hy : y ∈ (w.levels.getD i (WheelLevel.new r c)).slots.toList.flatten) : y ∈ w.levelEntries := by
  rcases getD_mem_or w.levels i (WheelLevel.new r c) with h | h
  · exact mem_levelEntries h hy
  · rw [h, flatten_new_slots] at hy
    cases hy

/-- `insert_entry_at` puts the entry on the ready list, in a slot or on the
overflow heap. -/
theorem shuffle_insertEntryAt (w : TimerWheel σ ω) (x : TimerEntry ω) (current : Time) :
    Shuffle [x] w (w.insertEntryAt x current) := by
  unfold insertEntryAt
  split
  · exact shuffle_pushReady w x
  · dsimp only
    split
    · exact (shuffle_pushOverflow w _).mono (by simp)
    · split
      · exact shuffle_pushReady w x
      · rename_i idx slot _
        -- the pushed level holds its old entries and `x`
        refine shuffle_setLevel Vector.toList_setIfInBounds ?_ ?_ ?_ ?_ ?_ ?_
        all_goals try rfl
        intro y hy
        rcases mem_flatten_setIfInBounds hy with hy | hy
        · exact Or.inl (mem_levelEntries_getD hy)
        · rcases List.mem_append.mp hy with hy | hy
          · exact Or.inl (mem_levelEntries_getD (mem_flatten_getD hy))
          · exact Or.inr hy
      · exact (shuffle_pushOverflow w _).mono (by simp)

theorem shuffle_insertEntry (w : TimerWheel σ ω) (x : TimerEntry ω) :
    Shuffle [x] w (w.insertEntry x) :=
  shuffle_insertEntryAt w x w.currentTime

/-- Taking a slot out of a level. -/
theorem shuffle_takeNextSlot (w : TimerWheel σ ω) (i : Fin levelCount) :
    Shuffle [] w (w.takeNextSlot i).2.2 ∧ ∀ x ∈ (w.takeNextSlot i).2.1, x ∈ w.others := by
  have hmem : w.levels[i] ∈ w.levels.toList := Vector.mem_toList_iff.mpr (Vector.getElem_mem i.isLt)
  refine ⟨shuffle_setLevel (Vector.toList_set i.isLt) ?_ ?_ ?_ ?_ ?_ ?_, ?_⟩
  all_goals try rfl
  · intro y hy
    rcases mem_flatten_setIfInBounds hy with hy | hy
    · exact Or.inl (mem_levelEntries hmem hy)
    · cases hy
  · intro x hx
    exact List.mem_append_right _ (mem_levelEntries hmem (mem_flatten_getD hx))

/-- Moving the cursors keeps every slot. -/
theorem shuffle_mapLevels (w : TimerWheel σ ω) {f : WheelLevel ω → WheelLevel ω}
    (hf : ∀ l, (f l).slots = l.slots) : Shuffle [] w { w with levels := w.levels.map f } := by
  refine shuffle_frame rfl ?_ rfl rfl rfl rfl
  simp [levelEntries, Vector.toList_map, List.flatMap_map, hf]

theorem shuffle_realign (w : TimerWheel σ ω) : Shuffle [] w w.realignCursorsToCurrentTick :=
  shuffle_mapLevels w fun _ => rfl

theorem shuffle_collectBucket (w : TimerWheel σ ω) (bucket : List (TimerEntry ω)) :
    Shuffle bucket w (w.collectBucket S bucket) := by
  unfold collectBucket
  refine Shuffle.foldl bucket (fun w x _ => ?_) w
  split
  · exact (Shuffle.refl w).mono (by simp)
  · split
    · exact shuffle_pushReady w x
    · exact shuffle_insertEntry w x

/-- `cascade` takes a slot and inserts its live entries again, level by level. -/
theorem shuffle_cascadeAux (fuel levelIndex : Nat) (w : TimerWheel σ ω) :
    Shuffle [] w (cascadeAux S fuel levelIndex w) := by
  induction fuel generalizing levelIndex w with
  | zero => exact Shuffle.refl w
  | succ fuel ih =>
      unfold cascadeAux
      split
      · rename_i h
        obtain ⟨htake, hbucket⟩ := shuffle_takeNextSlot w ⟨levelIndex, h⟩
        have hfold := Shuffle.foldl (w.takeNextSlot ⟨levelIndex, h⟩).2.1
          (f := fun w entry => if w.isLive S entry then w.insertEntry entry else w)
          (fun w x _ => by
            split
            · exact shuffle_insertEntry w x
            · exact (Shuffle.refl w).mono (by simp))
          (w.takeNextSlot ⟨levelIndex, h⟩).2.2
        have hstep := (htake.trans hfold).absorb (by simpa using hbucket)
        dsimp only
        split
        · exact hstep.trans (ih _ _)
        · exact hstep
      · exact Shuffle.refl w

theorem shuffle_tickLevel0 (w : TimerWheel σ ω) : Shuffle [] w (w.tickLevel0 S) := by
  obtain ⟨htake, hbucket⟩ := shuffle_takeNextSlot w ⟨0, by decide⟩
  have hcollect := (htake.trans (shuffle_collectBucket S _ _)).absorb (by simpa using hbucket)
  unfold tickLevel0
  dsimp only
  split
  · exact hcollect.trans (shuffle_cascadeAux S _ _ _)
  · exact hcollect

-- ================================================== the zero-range wheel

/-- With a zero `max_wheel_duration`, the range is zero. -/
theorem maxRangeNs_eq_zero (h : w.maxWheelDurationNs = 0) : w.maxRangeNs = 0 := by
  simp [maxRangeNs, h]

/-- With a zero range, `refill_overflow` promotes nothing: `delta < 0`
never holds. -/
theorem refillOverflow_eq_self (h : w.maxWheelDurationNs = 0) : w.refillOverflow S = w := by
  unfold refillOverflow
  rw [maxRangeNs_eq_zero h]
  cases w.overflow.length with
  | zero => rfl
  | succ n =>
      unfold refillLoop
      split
      · rfl
      · simp


theorem mem_levels_zero (w : TimerWheel σ ω) : w.levels[0] ∈ w.levels.toList :=
  Vector.mem_toList_iff.mpr (Vector.getElem_mem (Nat.zero_lt_succ 3))

/-- Moving the tick moves no entry. -/
theorem shuffle_setTick (w : TimerWheel σ ω) (t : Nat) : Shuffle [] w { w with currentTick := t } :=
  shuffle_frame rfl rfl rfl rfl rfl rfl

/-- The tick and refill that end a slow turn of `advance_to`. -/
theorem shuffle_tickRefill {w₁ : TimerWheel σ ω} (h : Shuffle [] w w₁) (h0 : w.maxWheelDurationNs = 0)
    (t : Nat) : Shuffle [] w (({ w₁ with currentTick := t }.tickLevel0 S).refillOverflow S) := by
  have h₂ : Shuffle [] w ({ w₁ with currentTick := t }.tickLevel0 S) :=
    (h.trans (shuffle_setTick w₁ t)).trans (shuffle_tickLevel0 S _)
  rw [refillOverflow_eq_self S (h₂.maxWheelDurationNs.trans h0)]
  exact h₂

theorem shuffle_advanceStep (h0 : w.maxWheelDurationNs = 0) (targetTick : Nat) :
    Shuffle [] w (w.advanceStep S targetTick) := by
  unfold advanceStep
  split
  · -- the fast path only moves level 0's cursor
    dsimp only
    refine shuffle_setLevel (Vector.toList_set (Nat.zero_lt_succ 3)) ?_ ?_ ?_ ?_ ?_ ?_
    all_goals try rfl
    exact fun y hy => Or.inl (mem_levelEntries (mem_levels_zero w) hy)
  · dsimp only
    split
    · exact shuffle_tickRefill S ((shuffle_setTick w _).trans (shuffle_realign _)) h0 _
    · exact shuffle_tickRefill S (Shuffle.refl w) h0 _

theorem shuffle_advanceLoop (targetTick : Nat) :
    ∀ (fuel : Nat) (w : TimerWheel σ ω), w.maxWheelDurationNs = 0 →
      Shuffle [] w (advanceLoop S targetTick fuel w)
  | 0, w, _ => Shuffle.refl w
  | fuel + 1, w, h0 => by
      unfold advanceLoop
      split
      · have h₁ := shuffle_advanceStep S h0 targetTick
        exact h₁.trans (shuffle_advanceLoop targetTick fuel _ (h₁.maxWheelDurationNs.trans h0))
      · exact Shuffle.refl w

theorem shuffle_synchronize (h0 : w.maxWheelDurationNs = 0) (now : Time) :
    Shuffle [] w (w.synchronize S now) := by
  unfold synchronize advanceTo
  dsimp only
  split
  · split
    · exact (shuffle_setTick w _).trans (shuffle_realign _)
    · exact shuffle_advanceLoop S _ _ w h0
  · exact Shuffle.refl w


-- ================================================================ parked

/-- `is_live` reads the activity map. -/
theorem isLive_iff (w : TimerWheel σ ω) (x : TimerEntry ω) :
    w.isLive S x = true ↔ S.get w.active x.id = some x.generation := by
  unfold isLive
  cases S.get w.active x.id with
  | none => simp
  | some g => simp only [Option.any_some, beq_iff_eq, Option.some.injEq]

/-- On a wheel with a zero range and coalescing off, the timer with handle
`h` is live, waits in the overflow heap, and has no entry in the ready list
or the levels. -/
structure Parked (h : TimerHandle) (w : TimerWheel σ ω) : Prop where
  parked : ∃ o ∈ w.overflow, o.entry.id = h.id ∧ o.entry.generation = h.generation
  live : S.get w.active h.id = some h.generation
  alone : ∀ x ∈ w.others, x.id = h.id → x.generation ≠ h.generation
  zero : w.maxWheelDurationNs = 0
  plain : w.coalescing.enabled = false

namespace Parked

variable {S} {h : TimerHandle} {w' : TimerWheel σ ω}

/-- A step that inserts only entries of other timers keeps a parked timer. -/
theorem shuffle {extra : List (TimerEntry ω)} (hp : Parked S h w) (hs : Shuffle extra w w')
    (hextra : ∀ x ∈ extra, x.id = h.id → x.generation ≠ h.generation) : Parked S h w' := by
  obtain ⟨o, ho, hid⟩ := hp.parked
  refine ⟨⟨o, hs.overflow o ho, hid⟩, hs.active ▸ hp.live, ?_, hs.maxWheelDurationNs ▸ hp.zero,
    hs.coalescing ▸ hp.plain⟩
  intro x hx
  rcases hs.others x hx with hx | hx
  · exact hp.alone x hx
  · exact hextra x hx

/-- A change of the activity map that keeps the parked timer's key. -/
theorem setActive (hp : Parked S h w) {a : σ} (ha : S.get a h.id = S.get w.active h.id) :
    Parked S h { w with active := a } :=
  ⟨hp.parked, ha.trans hp.live, hp.alone, hp.zero, hp.plain⟩

/-- A live entry that is not the parked one belongs to another key. -/
theorem id_ne {x : TimerEntry ω} (hp : Parked S h w) (hx : x.id = h.id → x.generation ≠ h.generation)
    (hlive : w.isLive S x = true) : x.id ≠ h.id := by
  intro hid
  have hget := (isLive_iff S w x).mp hlive
  rw [hid, hp.live, Option.some.injEq] at hget
  exact hx hid hget.symm

/-- The parked timer's own overflow entry is live. -/
theorem isLive_parked (hp : Parked S h w) {o : OverflowEntry ω} (hid : o.entry.id = h.id)
    (hgen : o.entry.generation = h.generation) : w.isLive S o.entry = true := by
  rw [isLive_iff, hid, hgen]
  exact hp.live

/-- The activity map keeps at least the parked timer, so the storage is
never purged. -/
theorem purgeIfEmpty (hp : Parked S h w) :
    Parked S h (if S.isEmpty w.active then w.purgeInactiveStorage else w) := by
  rw [S.isEmpty_eq_false_of_get hp.live]
  exact hp

theorem synchronize (hp : Parked S h w) (now : Time) : Parked S h (w.synchronize S now) :=
  hp.shuffle (shuffle_synchronize S hp.zero now) (by simp)

/-- Registering another timer: its key is vacant, so it is not the parked one's. -/
theorem insertValidated (hp : Parked S h w) (deadline : Time) (waker : ω) (current : Time) :
    Parked S h (w.insertValidated S deadline waker current).2 := by
  have hne := S.ne_insert_of_get hp.live w.nextGeneration
  have hw₁ : Parked S h
      { w with nextGeneration := wrappingAdd w.nextGeneration 1
               active := (S.insert w.active w.nextGeneration).2 } :=
    ⟨hp.parked, (S.get_insert_of_ne hne).trans hp.live, hp.alone, hp.zero, hp.plain⟩
  refine hw₁.shuffle (shuffle_insertEntryAt _ _ current) ?_
  intro x hx hid
  rw [List.mem_singleton.mp hx] at hid
  exact absurd hid.symm hne

theorem register (hp : Parked S h w) (deadline : Time) (waker : ω) :
    Parked S h (w.register S deadline waker).2 := by
  unfold TimerWheel.register
  exact hp.insertValidated _ waker _

theorem tryRegister (hp : Parked S h w) {deadline : Time} {waker : ω}
    {r : TimerHandle × TimerWheel σ ω} (hr : w.tryRegister S deadline waker = .ok r) :
    Parked S h r.2 := by
  unfold TimerWheel.tryRegister at hr
  dsimp only at hr
  split at hr
  · cases hr
  · cases hr
    exact hp.insertValidated deadline waker _

/-- Cancelling another handle cannot touch the parked timer's key. -/
theorem cancel {h' : TimerHandle} (hp : Parked S h w) (hne : h' ≠ h) :
    Parked S h (w.cancel S h').2 := by
  unfold TimerWheel.cancel
  split
  · rename_i hact
    -- a live `h'` with the parked key would be the parked handle itself
    have hid : h'.id ≠ h.id := by
      intro hid
      rw [hid, hp.live] at hact
      have hgen : h.generation = h'.generation := by simpa using hact
      apply hne
      cases h
      cases h'
      simp_all
    exact (hp.setActive (S.get_remove_of_ne (Ne.symm hid))).purgeIfEmpty
  · exact hp

/-- `next_deadline`'s overflow loop pops only dead entries: the parked
entry is live, so the loop stops at it. -/
theorem overflowDeadline (acc : Option Time) :
    ∀ (fuel : Nat) {w : TimerWheel σ ω}, Parked S h w → Parked S h (w.overflowDeadline S acc fuel).2
  | 0, w, hp => hp
  | fuel + 1, w, hp => by
      unfold TimerWheel.overflowDeadline
      split
      · exact hp
      · rename_i e he
        split
        · exact hp
        · rename_i hdead
          apply overflowDeadline acc fuel
          obtain ⟨o, ho, hid, hgen⟩ := hp.parked
          have hpop : o ∈ MaxHeap.pop OverflowEntry.cmp w.overflow := by
            refine MaxHeap.mem_pop _ ho ?_
            intro hpe
            rw [peekOverflow, hpe, Option.some.injEq] at he
            subst he
            exact hdead (hp.isLive_parked hid hgen)
          exact ⟨⟨o, hpop, hid, hgen⟩, hp.live, hp.alone, hp.zero, hp.plain⟩

theorem nextDeadline (hp : Parked S h w) : Parked S h (w.nextDeadline S).2 := by
  unfold TimerWheel.nextDeadline
  dsimp only
  split
  · exact hp
  · split
    · exact hp
    · exact hp
    · exact hp.overflowDeadline _ _

/-- The firing fold of `drain_ready`: each turn skips a dead entry, fires a
live one (removing its key), or inserts it again. Over entries that are
not the parked timer's, it keeps the parked timer. -/
theorem foldl_fire {f : List ω × TimerWheel σ ω → TimerEntry ω → List ω × TimerWheel σ ω}
    (hf : ∀ acc x, (f acc x).2 = acc.2 ∨
      (acc.2.isLive S x = true ∧ (f acc x).2 = { acc.2 with active := S.remove acc.2.active x.id }) ∨
      (f acc x).2 = acc.2.insertEntry x) :
    ∀ (xs : List (TimerEntry ω)), (∀ x ∈ xs, x.id = h.id → x.generation ≠ h.generation) →
      ∀ acc, Parked S h acc.2 → Parked S h (xs.foldl f acc).2
  | [], _, _, hp => hp
  | x :: xs, hxs, acc, hp => by
      rw [List.foldl_cons]
      apply foldl_fire hf xs (fun y hy => hxs y (List.mem_cons_of_mem x hy))
      have hx := hxs x List.mem_cons_self
      rcases hf acc x with hs | ⟨hlive, hs⟩ | hs <;> rw [hs]
      · exact hp
      · exact hp.setActive (S.get_remove_of_ne (Ne.symm (hp.id_ne hx hlive)))
      · exact hp.shuffle (shuffle_insertEntryAt _ _ _) (fun y hy => List.mem_singleton.mp hy ▸ hx)

/-- Without coalescing, `drain_ready` fires only entries of the ready list,
and the parked timer has none there. -/
theorem drainReady (hp : Parked S h w) (now : Time) : Parked S h (w.drainReady S now).2 := by
  unfold TimerWheel.drainReady
  split
  · exact hp
  · dsimp only
    simp only [hp.plain, Bool.false_eq_true, ↓reduceIte]
    apply purgeIfEmpty
    refine foldl_fire ?_ w.ready (fun x hx => hp.alone x (List.mem_append_left _ hx)) _ ?_
    · intro acc x
      cases hlive : acc.2.isLive S x
      · simp
      · by_cases hdue : x.deadline ≤ now <;> simp [hdue]
    · -- emptying the ready list takes no entry out of the others
      have hs : Shuffle [] w { w with ready := [] } :=
        ⟨fun _ h => h, fun x hx => Or.inl (List.mem_append_right _ hx), rfl, rfl, rfl⟩
      exact hp.shuffle hs (by simp)

theorem collectExpired (hp : Parked S h w) (now : Time) : Parked S h (w.collectExpired S now).2 :=
  (hp.synchronize now).drainReady now

/-- Every call but a cancel of the parked handle keeps it parked. -/
theorem step (hp : Parked S h w) {op : WheelOp ω} (hop : op ≠ .cancel h) {o : WheelOutput ω}
    (hs : w.step S op = some (o, w')) : Parked S h w' := by
  cases op with
  | register deadline waker =>
      cases hs
      exact hp.register deadline waker
  | tryRegister deadline waker =>
      -- generalized first: deciding the answer's match on `try_register`
      -- itself would make the kernel evaluate `current_time` on a symbolic tick
      simp only [TimerWheel.step, Option.some.injEq] at hs
      generalize hr : w.tryRegister S deadline waker = r at hs
      cases r with
      | ok r =>
          cases hs
          exact hp.tryRegister hr
      | error e =>
          cases hs
          exact hp
  | cancel h' =>
      cases hs
      exact hp.cancel (fun he => hop (he ▸ rfl))
  | nextDeadline =>
      cases hs
      exact hp.nextDeadline
  | collectExpired now =>
      cases hs
      exact hp.collectExpired now

end Parked

-- ============================================================ the bug

/-- A fresh wheel holds no entry. -/
theorem others_withConfig (now : Time) (config : TimerWheelConfig) (coalescing : CoalescingConfig) :
    (withConfig S now config coalescing : TimerWheel σ ω).others = [] := by
  simp [others, levelEntries, withConfig, WheelLevel.new]

/-- With a zero range, an entry not yet due goes to the overflow heap. -/
theorem insertEntryAt_of_lt (h0 : w.maxWheelDurationNs = 0) {x : TimerEntry ω} {current : Time}
    (hlt : current < x.deadline) :
    w.insertEntryAt x current = { w with overflow := MaxHeap.push w.overflow ⟨x.deadline, x⟩ } := by
  unfold insertEntryAt
  rw [if_neg (Nat.not_le_of_lt hlt)]
  dsimp only
  rw [maxRangeNs_eq_zero h0, if_pos (Nat.zero_le _)]

/-- A timer inserted past `current` on a zero-range wheel without coalescing
is parked at once. -/
theorem insertValidated_parked (h0 : w.maxWheelDurationNs = 0) (hco : w.coalescing.enabled = false)
    {deadline current : Time} (hlt : current < deadline)
    (hfresh : ∀ x ∈ w.others, x.generation ≠ w.nextGeneration) (waker : ω) :
    Parked S (w.insertValidated S deadline waker current).1 (w.insertValidated S deadline waker current).2 := by
  unfold insertValidated
  dsimp only
  -- the wheel `insert_entry_at` sees: the generation and the key taken
  have h0' : ({ w with nextGeneration := wrappingAdd w.nextGeneration 1
                       active := (S.insert w.active w.nextGeneration).2 } :
      TimerWheel σ ω).maxWheelDurationNs = 0 := h0
  rw [insertEntryAt_of_lt h0' hlt]
  refine ⟨⟨_, MaxHeap.mem_push.mpr (Or.inr rfl), rfl, rfl⟩, ?_, ?_, h0, hco⟩
  · rw [S.get_insert, if_pos rfl]
  · -- the others are the wheel's own, none of the fresh generation
    intro x hx _
    exact hfresh x hx

/-- `register` on such a wheel parks a timer due past the current time: a
clamped deadline `min(current + max_timer_duration, u64::MAX)` lies past it
too. -/
theorem register_parked (h0 : w.maxWheelDurationNs = 0) (hco : w.coalescing.enabled = false)
    (hpos : 0 < w.maxTimerDurationNs) {deadline : Time} (hlt : w.currentTime < deadline)
    (hmax : deadline ≤ u64Max) (hfresh : ∀ x ∈ w.others, x.generation ≠ w.nextGeneration)
    (waker : ω) : Parked S (w.register S deadline waker).1 (w.register S deadline waker).2 := by
  unfold register
  dsimp only
  split
  · refine insertValidated_parked S h0 hco ?_ hfresh waker
    exact lt_min (Nat.lt_add_of_pos_right hpos) (Nat.lt_of_lt_of_le hlt hmax)
  · exact insertValidated_parked S h0 hco hlt hfresh waker

/-- On a wheel with `max_wheel_duration` zero and coalescing off, a timer
registered past the current tick never fires: in every state of every run
of calls that does not cancel it, it is live and waits in the overflow
heap, so no `collect_expired` hands its waker back and `len` counts it. -/
theorem zero_wheel_duration_timer_never_fires (h0 : w.maxWheelDurationNs = 0)
    (hco : w.coalescing.enabled = false) (hpos : 0 < w.maxTimerDurationNs) {deadline : Time}
    (hlt : w.currentTime < deadline) (hmax : deadline ≤ u64Max)
    (hfresh : ∀ x ∈ w.others, x.generation ≠ w.nextGeneration) (waker : ω) (ops : List (WheelOp ω))
    (hops : ∀ op ∈ ops, op ≠ .cancel (w.register S deadline waker).1) {outs : List (WheelOutput ω)}
    {tr : List (TimerWheel σ ω)}
    (hrun : Machine.runOut (step S) (w.register S deadline waker).2 ops = some (outs, tr)) :
    ∀ w' ∈ tr, Parked S (w.register S deadline waker).1 w' ∧ 0 < w'.len S := by
  have hparked := Machine.runOut_preserved_of_forall (fun _ _ _ _ hop hp hs => Parked.step hp hop hs)
    ops hops (register_parked S h0 hco hpos hlt hmax hfresh waker) hrun
  intro w' hw'
  refine ⟨hparked w' hw', Nat.pos_of_ne_zero fun hlen => ?_⟩
  -- an empty slab holds no key, but the parked one is live
  have hlive := (hparked w' hw').live
  rw [S.get_of_len_eq_zero _ _ hlen] at hlive
  cases hlive

/-- A wheel configured with `max_wheel_duration(Duration::ZERO)`, a timer
due at 5 ms, and calls up to 20 ms: the timer stays parked and counted. -/
theorem zero_wheel_duration_timer_never_fires_run :
    ∃ outs tr, Machine.runOut (step (vecSlab Nat))
        ((withConfig (vecSlab Nat) 0 { TimerWheelConfig.default with maxWheelDuration := 0 } .default
          : TimerWheel (List (Option Nat)) Nat).register (vecSlab Nat) 5000000 7).2
        [.collectExpired 10000000, .nextDeadline, .register 1000 8, .collectExpired 20000000] =
        some (outs, tr) ∧
      ∀ w' ∈ tr, Parked (vecSlab Nat) ⟨0, 0⟩ w' ∧ 0 < w'.len (vecSlab Nat) := by
  obtain ⟨⟨outs, tr⟩, hrun⟩ := Option.isSome_iff_exists.mp
    (Machine.runOut_isSome (step_isSome (vecSlab Nat)) _
      [.collectExpired 10000000, .nextDeadline, .register 1000 8, .collectExpired 20000000])
  exact ⟨outs, tr, hrun, zero_wheel_duration_timer_never_fires (vecSlab Nat) rfl rfl (by decide)
    (by decide) (by decide) (by rw [others_withConfig]; simp) 7 _ (by simp) hrun⟩

/-- The bug at its smallest: a wheel with `max_wheel_duration(Duration::ZERO)`
and default coalescing, a timer registered for 5 ms, and `collect_expired`
at 10 ms. No waker comes back, and the timer is still counted. -/
theorem zero_wheel_duration_timer_not_fired :
    ((withConfig (vecSlab Nat) 0 { TimerWheelConfig.default with maxWheelDuration := 0 } .default
        : TimerWheel (List (Option Nat)) Nat).register (vecSlab Nat) 5000000 7).1 = ⟨0, 0⟩ ∧
      (((withConfig (vecSlab Nat) 0 { TimerWheelConfig.default with maxWheelDuration := 0 } .default
        : TimerWheel (List (Option Nat)) Nat).register (vecSlab Nat) 5000000 7).2.collectExpired
          (vecSlab Nat) 10000000).1 = [] ∧
      (((withConfig (vecSlab Nat) 0 { TimerWheelConfig.default with maxWheelDuration := 0 } .default
        : TimerWheel (List (Option Nat)) Nat).register (vecSlab Nat) 5000000 7).2.collectExpired
          (vecSlab Nat) 10000000).2.len (vecSlab Nat) = 1 := by
  decide +kernel

end TimerWheel

end Asupersync
