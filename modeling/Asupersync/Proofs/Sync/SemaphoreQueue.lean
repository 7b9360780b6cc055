/-
The semaphore's waiter list is a FIFO queue of waiters.

# The queue

`QueueInv S st q` says that the waiter list of `st` is the queue `q`,
front first: the slots of `q` are the linked list from `waiterHead` to
`waiterTail` (`LinkedSlab.IsList`), each slot holds its waiter's id,
count and registration, and the ids increase along `q` and stay below
`nextWaiterId`. Ids are handed out in enqueue order, so increasing ids
say that `q` is in enqueue order.

# The operations

Each list operation of `SemaphoreState` is stated against `q`, from the
list library's `IsList.pushBack`, `IsList.unlink` and `IsList.update`:
`enqueue_waiter` appends, `unlink_waiter` takes the handle's waiter out
where it stands (and does nothing for a handle of no waiter),
`pop_front_waiter` unlinks the front, `remove_waiter_and_take_next_waker`
hands the wake to the next waiter exactly when the front leaves, and a
waker replacement rewrites one entry. The lookups read `q`: the waiter a
handle names, whether it is the front, and the front's registration when
the permits let it run (`frontRunnable`).
-/
import Asupersync.Sync.Semaphore

namespace Asupersync

/-- A queued waiter as the queue sees it: its slot, and what it waits for. -/
structure Queued (ω : Type) where
  slot : Nat
  id : Nat
  count : Nat
  waker : RegisteredWaker ω

namespace Queued

variable {ω : Type}

/-- The handle its future holds. -/
def handle (x : Queued ω) : WaiterHandle := ⟨x.slot, x.id⟩

@[simp] theorem handle_slot (x : Queued ω) : x.handle.slot = x.slot := rfl

@[simp] theorem handle_id (x : Queued ω) : x.handle.id = x.id := rfl

/-- What its slot holds apart from the links. -/
def entry (x : Queued ω) : Nat × Nat × RegisteredWaker ω := (x.id, x.count, x.waker)

/-- Its registration, if `permits` let it run. -/
def runnable (permits : Nat) (x : Queued ω) : Option (RegisteredWaker ω) :=
  if permits ≥ x.count then some x.waker else none

end Queued

/-- What a waiter holds apart from its links. -/
def Waiter.entry {ω : Type} (w : Waiter ω) : Nat × Nat × RegisteredWaker ω := (w.id, w.count, w.waker)

/-- The registration of the front of a queue, if `permits` let it run. -/
def frontRunnable {ω : Type} (permits : Nat) (q : List (Queued ω)) : Option (RegisteredWaker ω) :=
  q.head?.bind (Queued.runnable permits)

namespace SemaphoreState

variable {σ ω : Type} {S : MutSlab σ (Waiter ω)}

/-- The waiter list of `st` is the queue `q`, front first. -/
structure QueueInv (S : MutSlab σ (Waiter ω)) (st : SemaphoreState σ) (q : List (Queued ω)) : Prop where
  list : LinkedSlab.IsList S Waiter.links st.waiters st.waiterHead st.waiterTail (q.map (·.slot))
  entries : ∀ x ∈ q, (S.get st.waiters x.slot).map Waiter.entry = some x.entry
  order : (q.map (·.id)).Pairwise (· < ·)
  fresh : ∀ x ∈ q, x.id < st.nextWaiterId

theorem queueInv_new (permits : Nat) : QueueInv S (new S permits) [] where
  list := LinkedSlab.isList_empty S Waiter.links
  entries := by simp
  order := List.Pairwise.nil
  fresh := by simp

theorem queueInv_close (st : SemaphoreState σ) : QueueInv S (close S st).2 [] where
  list := LinkedSlab.isList_empty S Waiter.links
  entries := by simp
  order := List.Pairwise.nil
  fresh := by simp

-- ================================================================ lookups

section Lookups

variable {st : SemaphoreState σ} {q : List (Queued ω)}

theorem QueueInv.get_slot (h : QueueInv S st q) {x : Queued ω} (hx : x ∈ q) :
    ∃ w, S.get st.waiters x.slot = some w ∧ w.entry = x.entry :=
  Option.map_eq_some_iff.mp (h.entries x hx)

/-- Two waiters of the queue in one slot are one waiter. -/
theorem QueueInv.slot_inj (h : QueueInv S st q) {x y : Queued ω} (hx : x ∈ q) (hy : y ∈ q)
    (hs : x.slot = y.slot) : x = y :=
  List.inj_on_of_nodup_map h.list.nodup hx hy hs

theorem QueueInv.handle_inj (h : QueueInv S st q) {x y : Queued ω} (hx : x ∈ q) (hy : y ∈ q)
    (he : x.handle = y.handle) : x = y :=
  h.slot_inj hx hy (congrArg WaiterHandle.slot he)

/-- A waiter's slot is in no other place of the queue. -/
theorem QueueInv.slot_not_mem {l₁ l₂ : List (Queued ω)} {x : Queued ω} (h : QueueInv S st (l₁ ++ x :: l₂)) :
    x.slot ∉ l₁.map (·.slot) ∧ x.slot ∉ l₂.map (·.slot) := by
  have hnd := h.list.nodup
  rw [List.map_append, List.map_cons] at hnd
  refine ⟨fun hm => (List.nodup_append.mp hnd).2.2 _ hm _ List.mem_cons_self rfl, ?_⟩
  exact (List.nodup_cons.mp (List.nodup_append.mp hnd).2.1).1

/-- The queue lives in the list fields; the others may change. -/
theorem QueueInv.frame (h : QueueInv S st q) {st' : SemaphoreState σ} (hw : st'.waiters = st.waiters)
    (hh : st'.waiterHead = st.waiterHead) (ht : st'.waiterTail = st.waiterTail)
    (hn : st'.nextWaiterId = st.nextWaiterId) : QueueInv S st' q := by
  refine ⟨?_, ?_, h.order, ?_⟩
  · rw [hw, hh, ht]
    exact h.list
  · rw [hw]
    exact h.entries
  · rw [hn]
    exact h.fresh

theorem QueueInv.waiterHead_eq (h : QueueInv S st q) : st.waiterHead = q.head?.map (·.slot) := by
  rw [h.list.head_eq, List.head?_map]

/-- The handle of a queued waiter finds it. -/
theorem QueueInv.waiterByHandle_of_mem (h : QueueInv S st q) {x : Queued ω} (hx : x ∈ q) :
    ∃ w, waiterByHandle S st x.handle = some w ∧ S.get st.waiters x.slot = some w ∧ w.entry = x.entry := by
  obtain ⟨w, hw, he⟩ := h.get_slot hx
  have hid : w.id = x.id := congrArg Prod.fst he
  refine ⟨w, ?_, hw, he⟩
  simp [waiterByHandle, Queued.handle, hw, hid]

/-- A handle finds a waiter only if it is the handle of a queued one. -/
theorem QueueInv.mem_of_waiterByHandle (h : QueueInv S st q) {handle : WaiterHandle} {w : Waiter ω}
    (hw : waiterByHandle S st handle = some w) :
    ∃ x ∈ q, x.handle = handle ∧ S.get st.waiters x.slot = some w ∧ w.entry = x.entry := by
  obtain ⟨w', hg, hw'⟩ := Option.bind_eq_some_iff.mp hw
  split at hw'
  · rename_i hid
    cases hw'
    have hmem : handle.slot ∈ q.map (·.slot) := (h.list.mem_iff _).mp (by rw [hg]; rfl)
    obtain ⟨x, hx, hxs⟩ := List.mem_map.mp hmem
    obtain ⟨w'', hw'', he⟩ := h.get_slot hx
    rw [hxs, hg, Option.some.injEq] at hw''
    subst hw''
    have hxid : x.id = handle.id := (congrArg Prod.fst he).symm.trans hid
    refine ⟨x, hx, ?_, by rw [hxs]; exact hg, he⟩
    simp only [Queued.handle, hxs, hxid]
  · cases hw'

/-- A handle of no queued waiter finds nothing. -/
theorem QueueInv.waiterByHandle_eq_none (h : QueueInv S st q) {handle : WaiterHandle}
    (hh : ∀ x ∈ q, x.handle ≠ handle) : waiterByHandle S st handle = none := by
  cases hw : waiterByHandle S st handle with
  | none => rfl
  | some w =>
      obtain ⟨x, hx, hxh, -⟩ := h.mem_of_waiterByHandle hw
      exact absurd hxh (hh x hx)

theorem QueueInv.waiterWakerIfRunnable_eq (h : QueueInv S st q) {x : Queued ω} (hx : x ∈ q) :
    waiterWakerIfRunnable S st x.slot = x.runnable st.permits := by
  obtain ⟨w, hw, he⟩ := h.get_slot hx
  have hc : w.count = x.count := congrArg (·.2.1) he
  have hr : w.waker = x.waker := congrArg (·.2.2) he
  simp [waiterWakerIfRunnable, hw, Queued.runnable, hc, hr]

/-- The registration the semaphore would wake at the front is the
queue's. -/
theorem QueueInv.frontWaiterWakerIfRunnable_eq (h : QueueInv S st q) :
    frontWaiterWakerIfRunnable S st = frontRunnable st.permits q := by
  unfold frontWaiterWakerIfRunnable
  rw [h.waiterHead_eq]
  cases q with
  | nil => rfl
  | cons x rest =>
      rw [List.head?_cons, Option.map_some, Option.bind_some, h.waiterWakerIfRunnable_eq List.mem_cons_self]
      rfl

/-- A handle is the front's exactly when it names the first waiter. -/
theorem QueueInv.isFrontWaiter_iff (h : QueueInv S st q) {handle : WaiterHandle} :
    isFrontWaiter S st handle = true ↔ ∃ x rest, q = x :: rest ∧ x.handle = handle := by
  constructor
  · intro hf
    simp only [isFrontWaiter, Bool.and_eq_true, beq_iff_eq, Option.isSome_iff_exists] at hf
    obtain ⟨hhead, w, hw⟩ := hf
    obtain ⟨x, hx, hxh, -⟩ := h.mem_of_waiterByHandle hw
    rw [h.waiterHead_eq] at hhead
    cases q with
    | nil => cases hhead
    | cons y rest =>
        -- the front sits in the handle's slot, so it is the handle's waiter
        have hys : y.slot = x.slot := by
          rw [List.head?_cons, Option.map_some, Option.some.injEq] at hhead
          rw [hhead, ← hxh]
          rfl
        have hyx := h.slot_inj List.mem_cons_self hx hys
        exact ⟨y, rest, rfl, hyx ▸ hxh⟩
  · rintro ⟨x, rest, rfl, rfl⟩
    obtain ⟨w, hw, -⟩ := h.waiterByHandle_of_mem List.mem_cons_self
    simp [isFrontWaiter, h.waiterHead_eq, hw]

/-- A waiter's `next` link is the slot of the waiter after it. -/
theorem QueueInv.next_eq {l₁ l₂ : List (Queued ω)} {x : Queued ω} (h : QueueInv S st (l₁ ++ x :: l₂))
    {w : Waiter ω} (hw : S.get st.waiters x.slot = some w) : w.next = l₂.head?.map (·.slot) := by
  have hl := (h.list.links x.slot w hw).2
  rw [List.map_append, List.map_cons, LinkedSlab.nextIn_middle h.slot_not_mem.1, List.head?_map] at hl
  exact hl

end Lookups

-- ============================================================ operations

section Operations

variable {st : SemaphoreState σ} {q : List (Queued ω)}

/-- `enqueue_waiter` appends a waiter with the next id. -/
theorem QueueInv.enqueueWaiter (h : QueueInv S st q) (count : Nat) (waker : RegisteredWaker ω) :
    ∃ slot ws hd, SemaphoreState.enqueueWaiter S st count waker =
        some (⟨slot, st.nextWaiterId⟩,
          { st with waiters := ws, waiterHead := hd, waiterTail := some slot,
                    nextWaiterId := st.nextWaiterId + 1 }) ∧
      QueueInv S
        { st with waiters := ws, waiterHead := hd, waiterTail := some slot,
                  nextWaiterId := st.nextWaiterId + 1 }
        (q ++ [⟨slot, st.nextWaiterId, count, waker⟩]) := by
  obtain ⟨s', head', hpush, hnq, hlist, hget⟩ :=
    h.list.pushBack (b := ⟨st.nextWaiterId, count, waker, st.waiterTail, none⟩) rfl rfl
  refine ⟨(S.insert st.waiters ⟨st.nextWaiterId, count, waker, st.waiterTail, none⟩).1, s', head', ?_, ?_⟩
  · simp only [SemaphoreState.enqueueWaiter, allocateWaiterId, hpush, Option.map_some]
  refine ⟨by simpa using hlist, ?_, ?_, ?_⟩
  · intro x hx
    rcases List.mem_append.mp hx with hx | hx
    · -- an old waiter keeps what it waits for; the old tail gets a `next`
      have hne : x.slot ≠ (S.insert st.waiters ⟨st.nextWaiterId, count, waker, st.waiterTail, none⟩).1 :=
        fun he => hnq (he ▸ List.mem_map_of_mem hx)
      rw [hget, if_neg hne, Option.map_map, ← h.entries x hx]
      congr 1
      funext w
      dsimp only [Function.comp]
      split <;> rfl
    · rw [List.mem_singleton.mp hx, hget, if_pos rfl]
      rfl
  · rw [List.map_append, List.pairwise_append]
    refine ⟨h.order, List.pairwise_singleton _ _, ?_⟩
    intro a ha b hb
    obtain ⟨x, hx, rfl⟩ := List.mem_map.mp ha
    rw [List.map_singleton, List.mem_singleton] at hb
    exact hb ▸ h.fresh x hx
  · intro x hx
    rcases List.mem_append.mp hx with hx | hx
    · exact Nat.lt_succ_of_lt (h.fresh x hx)
    · rw [List.mem_singleton.mp hx]
      exact Nat.lt_succ_self _

/-- `unlink_waiter` takes a queued waiter out where it stands. -/
theorem QueueInv.unlinkWaiter {l₁ l₂ : List (Queued ω)} {x : Queued ω} (h : QueueInv S st (l₁ ++ x :: l₂)) :
    ∃ w ws hd tl, SemaphoreState.unlinkWaiter S st x.handle =
        some (some w, { st with waiters := ws, waiterHead := hd, waiterTail := tl }) ∧
      S.get st.waiters x.slot = some w ∧ w.entry = x.entry ∧
      QueueInv S { st with waiters := ws, waiterHead := hd, waiterTail := tl } (l₁ ++ l₂) := by
  obtain ⟨w, hby, hw, he⟩ := h.waiterByHandle_of_mem (x := x) (by simp)
  obtain ⟨s', head', tail', hun, hlist, hget⟩ := h.list.unlink hw
  refine ⟨w, s', head', tail', ?_, hw, he, ?_⟩
  · simp only [SemaphoreState.unlinkWaiter, hby, Queued.handle_slot, hun, Option.map_some]
  obtain ⟨hx₁, hx₂⟩ := h.slot_not_mem
  have herase : ((l₁ ++ x :: l₂).map (·.slot)).erase x.slot = (l₁ ++ l₂).map (·.slot) := by
    rw [List.map_append, List.map_cons, List.erase_append_right _ hx₁, List.erase_cons_head,
      List.map_append]
  have hsub : (l₁ ++ l₂).Sublist (l₁ ++ x :: l₂) :=
    (List.sublist_cons_self x l₂).append_left l₁
  refine ⟨herase ▸ hlist, ?_, h.order.sublist (hsub.map _), fun y hy => h.fresh y (hsub.subset hy)⟩
  intro y hy
  -- every other waiter is relinked at most, which keeps its entry
  have hne : y.slot ≠ x.slot := by
    intro hs
    rcases List.mem_append.mp hy with hy | hy
    · exact hx₁ (hs ▸ List.mem_map_of_mem hy)
    · exact hx₂ (hs ▸ List.mem_map_of_mem hy)
  rw [hget, if_neg hne, Option.map_map, ← h.entries y (hsub.subset hy)]
  congr 1
  funext v
  exact LinkedSlab.relink_view Waiter.links Waiter.entry (fun _ _ => ⟨rfl, rfl⟩) w y.slot v

/-- `unlink_waiter` of a handle of no queued waiter does nothing. -/
theorem QueueInv.unlinkWaiter_of_not_mem (h : QueueInv S st q) {handle : WaiterHandle}
    (hh : ∀ x ∈ q, x.handle ≠ handle) : SemaphoreState.unlinkWaiter S st handle = some (none, st) := by
  simp [SemaphoreState.unlinkWaiter, h.waiterByHandle_eq_none hh]

theorem QueueInv.popFrontWaiter_nil (h : QueueInv S st []) : popFrontWaiter S st = some (none, st) := by
  simp [popFrontWaiter, h.waiterHead_eq]

theorem QueueInv.popFrontWaiter_cons {x : Queued ω} {rest : List (Queued ω)} (h : QueueInv S st (x :: rest)) :
    popFrontWaiter S st = SemaphoreState.unlinkWaiter S st x.handle := by
  obtain ⟨w, hw, he⟩ := h.get_slot List.mem_cons_self
  have hid : w.id = x.id := congrArg Prod.fst he
  simp [popFrontWaiter, h.waiterHead_eq, hw, hid, Queued.handle]

/-- `remove_waiter_and_take_next_waker`: the waiter leaves, and the wake
goes to the next one exactly when the front leaves and the next one can
run. -/
theorem QueueInv.removeWaiterAndTakeNextWaker {l₁ l₂ : List (Queued ω)} {x : Queued ω}
    (h : QueueInv S st (l₁ ++ x :: l₂)) :
    ∃ w ws hd tl, SemaphoreState.removeWaiterAndTakeNextWaker S st x.handle =
        some ((some w, if l₁ = [] then frontRunnable st.permits l₂ else none),
          { st with waiters := ws, waiterHead := hd, waiterTail := tl }) ∧
      w.entry = x.entry ∧
      QueueInv S { st with waiters := ws, waiterHead := hd, waiterTail := tl } (l₁ ++ l₂) := by
  obtain ⟨w, ws, hd, tl, hun, hw, he, hinv⟩ := h.unlinkWaiter
  refine ⟨w, ws, hd, tl, ?_, he, hinv⟩
  unfold SemaphoreState.removeWaiterAndTakeNextWaker
  cases l₁ with
  | nil =>
      have hfront : isFrontWaiter S st x.handle = true := h.isFrontWaiter_iff.mpr ⟨x, l₂, rfl, rfl⟩
      obtain ⟨w', hby, hw', -⟩ := h.waiterByHandle_of_mem (x := x) List.mem_cons_self
      rw [hw, Option.some.injEq] at hw'
      subst hw'
      -- the next waiter's registration, read through the front's `next`
      have hnext : (w.next).bind (waiterWakerIfRunnable S st) = frontRunnable st.permits l₂ := by
        rw [h.next_eq hw]
        cases l₂ with
        | nil => rfl
        | cons y rest =>
            rw [List.head?_cons, Option.map_some, Option.bind_some,
              h.waiterWakerIfRunnable_eq (by simp)]
            rfl
      rw [if_pos hfront, hby, Option.bind_some, hnext, hun, if_pos rfl]
      rfl
  | cons a l₁ =>
      -- the front is `a`, which is not `x`
      have hnot : isFrontWaiter S st x.handle = false := by
        rw [Bool.eq_false_iff]
        intro hf
        obtain ⟨y, rest, hq, hyx⟩ := h.isFrontWaiter_iff.mp hf
        rw [List.cons_append, List.cons.injEq] at hq
        obtain ⟨rfl, -⟩ := hq
        have hya := h.handle_inj (by simp) (by simp) hyx
        subst hya
        exact h.slot_not_mem.1 (List.mem_map_of_mem List.mem_cons_self)
      rw [if_neg (by rw [hnot]; exact Bool.false_ne_true), hun, if_neg (List.cons_ne_nil a l₁)]
      rfl

/-- `remove_waiter_and_take_next_waker` of a handle of no queued waiter
does nothing. -/
theorem QueueInv.removeWaiterAndTakeNextWaker_of_not_mem (h : QueueInv S st q) {handle : WaiterHandle}
    (hh : ∀ x ∈ q, x.handle ≠ handle) :
    SemaphoreState.removeWaiterAndTakeNextWaker S st handle = some ((none, none), st) := by
  unfold SemaphoreState.removeWaiterAndTakeNextWaker
  rw [h.unlinkWaiter_of_not_mem hh, h.waiterByHandle_eq_none hh]
  split <;> rfl

/-- Replacing a queued waiter's registration rewrites its entry only. -/
theorem QueueInv.replaceWaker {l₁ l₂ : List (Queued ω)} {x : Queued ω} (h : QueueInv S st (l₁ ++ x :: l₂))
    (r : RegisteredWaker ω) :
    QueueInv S { st with waiters := S.update st.waiters x.slot fun w => { w with waker := r } }
      (l₁ ++ { x with waker := r } :: l₂) := by
  obtain ⟨hx₁, hx₂⟩ := h.slot_not_mem
  have hslots : (l₁ ++ { x with waker := r } :: l₂).map (·.slot) = (l₁ ++ x :: l₂).map (·.slot) := by simp
  have hids : (l₁ ++ { x with waker := r } :: l₂).map (·.id) = (l₁ ++ x :: l₂).map (·.id) := by simp
  refine ⟨hslots ▸ h.list.update x.slot fun _ => ⟨rfl, rfl⟩, ?_, hids ▸ h.order, ?_⟩
  · intro y hy
    rw [S.get_update]
    rcases List.mem_append.mp hy with hy | hy
    · have hne : y.slot ≠ x.slot := fun hs => hx₁ (hs ▸ List.mem_map_of_mem hy)
      rw [if_neg hne]
      exact h.entries y (by simp [hy])
    · rcases List.mem_cons.mp hy with rfl | hy
      · obtain ⟨w, hw, he⟩ := h.get_slot (x := x) (by simp)
        have hid : w.id = x.id := congrArg Prod.fst he
        have hc : w.count = x.count := congrArg (·.2.1) he
        rw [if_pos rfl, hw]
        simp [Waiter.entry, Queued.entry, hid, hc]
      · have hne : y.slot ≠ x.slot := fun hs => hx₂ (hs ▸ List.mem_map_of_mem hy)
        rw [if_neg hne]
        exact h.entries y (by simp [hy])
  · intro y hy
    rcases List.mem_append.mp hy with hy | hy
    · exact h.fresh y (by simp [hy])
    · rcases List.mem_cons.mp hy with rfl | hy
      · exact h.fresh x (by simp)
      · exact h.fresh y (by simp [hy])

/-- `close` wakes the registration of every queued waiter and of no other. -/
theorem QueueInv.mem_close (h : QueueInv S st q) (r : RegisteredWaker ω) :
    r ∈ (close S st).1 ↔ ∃ x ∈ q, x.waker = r := by
  simp only [close, List.mem_map, S.mem_values]
  constructor
  · rintro ⟨w, ⟨k, hk⟩, rfl⟩
    have hmem : k ∈ q.map (·.slot) := (h.list.mem_iff k).mp (by rw [hk]; rfl)
    obtain ⟨x, hx, rfl⟩ := List.mem_map.mp hmem
    obtain ⟨w', hw', he⟩ := h.get_slot hx
    rw [hk, Option.some.injEq] at hw'
    subst hw'
    exact ⟨x, hx, (congrArg (·.2.2) he).symm⟩
  · rintro ⟨x, hx, rfl⟩
    obtain ⟨w, hw, he⟩ := h.get_slot hx
    exact ⟨w, ⟨x.slot, hw⟩, congrArg (·.2.2) he⟩

end Operations

end SemaphoreState

end Asupersync
