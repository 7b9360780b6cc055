/-
What each call on the semaphore does to its queue of waiters, to the
future it is made for, to the permits, and to whom it wakes.

# Futures and their waiters

`Owns q f`: the handle a future holds names a waiter of `q` that waits
for the future's count. `Moved` says what a call on one future leaves
behind: the queue `q'` of the new state, empty once the semaphore is
closed; every waiter of `q` that is not the future's own still there,
with its handle and count; the future's new handle, if any, either its
old one or one that names no earlier waiter, and owned.

# The wake

`Woken p q p' q' wakes`: if the front of the queue can run after the
call, it could run before it with the same registration, or the call
wakes that registration. Over a run, a runnable front is thus woken by
the call that made it runnable.

# The poll

`poll_ok` follows `AcquireFuture::poll` branch by branch: after
completion and for a count of zero nothing moves; a cancelled future
leaves the queue through `remove_waiter_and_take_next_waker`; a closed
semaphore has no queue; the fast path (`acquireNow_ok`) takes the permits
from the front or from an empty queue; and the slow path
(`waitNext_ok`) keeps, replaces or enqueues the future's registration.
-/
import Asupersync.Proofs.Sync.SemaphoreQueue

namespace Asupersync

/-- The permits a poll's result hands out. -/
def grantedCount {ε : Type} : Poll (Except ε Nat) → Nat
  | .Ready (.ok c) => c
  | _ => 0

theorem frontRunnable_append_of_ne_nil {ω : Type} (p : Nat) {l₁ : List (Queued ω)} (l₂ : List (Queued ω))
    (h : l₁ ≠ []) : frontRunnable p (l₁ ++ l₂) = frontRunnable p l₁ := by
  cases l₁ with
  | nil => exact absurd rfl h
  | cons x l₁ => rfl

namespace SemaphoreState

variable {σ ω : Type} {S : MutSlab σ (Waiter ω)}

/-- The future's handle names a waiter of `q` that waits for its count. -/
def Owns (q : List (Queued ω)) (f : AcquireFuture) : Prop :=
  ∀ h, f.waiter = some h → ∃ x ∈ q, x.handle = h ∧ x.count = f.count

/-- A call on the future `f`, made with the semaphore `closed` or not and
its queue `q`, left the state `st'` with the queue `q'` and the future as
`f'`. -/
structure Moved (S : MutSlab σ (Waiter ω)) (closed : Bool) (q : List (Queued ω)) (f : AcquireFuture)
    (st' : SemaphoreState σ) (q' : List (Queued ω)) (f' : AcquireFuture) : Prop where
  inv : QueueInv S st' q'
  closed_eq : st'.closed = closed
  empty : st'.closed = true → q' = []
  retains : ∀ x ∈ q, f.waiter ≠ some x.handle → ∃ y ∈ q', y.handle = x.handle ∧ y.count = x.count
  owns : st'.closed = false → Owns q' f'
  handle : ∀ h, f'.waiter = some h → f.waiter = some h ∨ (closed = false ∧ ∀ x ∈ q, x.handle ≠ h)

/-- The front of `q'` under `p'` permits, if it can run, could run before
under `p` with the same registration, or is woken. -/
def Woken (p : Nat) (q : List (Queued ω)) (p' : Nat) (q' : List (Queued ω))
    (wakes : List (RegisteredWaker ω)) : Prop :=
  ∀ r, frontRunnable p' q' = some r → frontRunnable p q = some r ∨ r ∈ wakes

/-- What a poll of `f` from `st` with the queue `q` did: it returned
`res`, left `f'` and `st'`, and woke `wakes`. -/
structure PollOk (S : MutSlab σ (Waiter ω)) (st : SemaphoreState σ) (q : List (Queued ω)) (f : AcquireFuture)
    (res : Poll (Except AcquireError Nat)) (f' : AcquireFuture) (st' : SemaphoreState σ)
    (wakes : List (RegisteredWaker ω)) : Prop where
  moved : ∃ q', Moved S st.closed q f st' q' f' ∧ Woken st.permits q st'.permits q' wakes
  permits : st'.permits + grantedCount res = st.permits
  granted : ∀ c, res = .Ready (.ok c) → 0 < f.count →
    c = f.count ∧ f.count ≤ st.permits ∧ st.closed = false ∧
      ((q = [] ∧ f.waiter = none) ∨ ∃ x rest, q = x :: rest ∧ f.waiter = some x.handle)

-- ================================================================= shapes

section Shapes

variable {st st' : SemaphoreState σ} {q q' : List (Queued ω)} {f f' : AcquireFuture} {c : Bool}

/-- A call that leaves the queue as it was, and the future with its
handle or none. -/
theorem moved_keep (hclosed : st'.closed = c) (hempty : c = true → q = []) (hown : c = false → Owns q f)
    (hst : QueueInv S st' q) (hf' : f'.waiter = none ∨ (f'.waiter = f.waiter ∧ f'.count = f.count)) :
    Moved S c q f st' q f' where
  inv := hst
  closed_eq := hclosed
  empty h := hempty (hclosed ▸ h)
  retains x hx _ := ⟨x, hx, rfl, rfl⟩
  owns := by
    intro hc h hw
    rcases hf' with hn | ⟨hw', hcount⟩
    · rw [hn] at hw
      cases hw
    · rw [hw'] at hw
      obtain ⟨x, hx, hxh, hxc⟩ := hown (hclosed ▸ hc) h hw
      exact ⟨x, hx, hxh, hxc.trans hcount.symm⟩
  handle := by
    intro h hw
    rcases hf' with hn | ⟨hw', -⟩
    · rw [hn] at hw
      cases hw
    · exact .inl (hw' ▸ hw)

/-- A call that takes the future's own waiter out of the queue. -/
theorem moved_remove {l₁ l₂ : List (Queued ω)} {x : Queued ω} (hclosed : st'.closed = c) (hc : c = false)
    (hst : QueueInv S st' (l₁ ++ l₂)) (hx : f.waiter = some x.handle) (hf' : f'.waiter = none) :
    Moved S c (l₁ ++ x :: l₂) f st' (l₁ ++ l₂) f' where
  inv := hst
  closed_eq := hclosed
  empty h := absurd (hclosed.symm.trans h) (by rw [hc]; exact Bool.false_ne_true)
  retains := by
    intro y hy hne
    -- another future's waiter is not the one taken out
    have hyx : y ≠ x := fun e => hne (e ▸ hx)
    refine ⟨y, ?_, rfl, rfl⟩
    rcases List.mem_append.mp hy with hy | hy
    · exact List.mem_append_left _ hy
    · exact List.mem_append_right _ ((List.mem_cons.mp hy).resolve_left hyx)
  owns _ h hw := by
    rw [hf'] at hw
    cases hw
  handle h hw := by
    rw [hf'] at hw
    cases hw

/-- A call that enqueues a new waiter for the future. -/
theorem moved_enqueue (hq : QueueInv S st q) (hc : st.closed = false) {slot : Nat} {r : RegisteredWaker ω}
    (hst : QueueInv S st' (q ++ [⟨slot, st.nextWaiterId, f.count, r⟩])) (hclosed : st'.closed = false) :
    Moved S st.closed q f st' (q ++ [⟨slot, st.nextWaiterId, f.count, r⟩])
      { f with waiter := some ⟨slot, st.nextWaiterId⟩ } where
  inv := hst
  closed_eq := hclosed.trans hc.symm
  empty h := absurd (hclosed.symm.trans h) Bool.false_ne_true
  retains x hx _ := ⟨x, List.mem_append_left _ hx, rfl, rfl⟩
  owns _ h hw := by
    cases hw
    exact ⟨_, List.mem_append_right _ (List.mem_singleton_self _), rfl, rfl⟩
  handle h hw := by
    cases hw
    -- the new id is above every queued one
    refine .inr ⟨hc, fun x hx he => ?_⟩
    have hid : x.id = st.nextWaiterId := congrArg WaiterHandle.id he
    exact Nat.ne_of_lt (hq.fresh x hx) hid

/-- A call that replaces the registration of the future's own waiter. -/
theorem moved_replace {l₁ l₂ : List (Queued ω)} {x : Queued ω} {r : RegisteredWaker ω}
    (hst : QueueInv S st' (l₁ ++ { x with waker := r } :: l₂)) (hclosed : st'.closed = c) (hc : c = false)
    (hx : f.waiter = some x.handle) (hcount : x.count = f.count) :
    Moved S c (l₁ ++ x :: l₂) f st' (l₁ ++ { x with waker := r } :: l₂) f where
  inv := hst
  closed_eq := hclosed
  empty h := absurd (hclosed.symm.trans h) (by rw [hc]; exact Bool.false_ne_true)
  retains := by
    intro y hy _
    rcases List.mem_append.mp hy with hy | hy
    · exact ⟨y, List.mem_append_left _ hy, rfl, rfl⟩
    · rcases List.mem_cons.mp hy with rfl | hy
      · exact ⟨{ y with waker := r }, by simp, rfl, rfl⟩
      · exact ⟨y, by simp [hy], rfl, rfl⟩
  owns _ h hw := by
    rw [hx] at hw
    cases hw
    exact ⟨{ x with waker := r }, by simp, rfl, hcount⟩
  handle h hw := .inl hw

theorem woken_of_eq {p p' : Nat} {wakes : List (RegisteredWaker ω)}
    (h : frontRunnable p' q' = frontRunnable p q) : Woken p q p' q' wakes :=
  fun _ hr => .inl (h ▸ hr)

theorem woken_of_mem {p p' : Nat} {wakes : List (RegisteredWaker ω)}
    (h : ∀ r, frontRunnable p' q' = some r → r ∈ wakes) : Woken p q p' q' wakes :=
  fun r hr => .inr (h r hr)

/-- Taking a waiter out behind the front leaves the front as it was. -/
theorem frontRunnable_remove (p : Nat) {l₁ l₂ : List (Queued ω)} (x : Queued ω) (h : l₁ ≠ []) :
    frontRunnable p (l₁ ++ l₂) = frontRunnable p (l₁ ++ x :: l₂) := by
  rw [frontRunnable_append_of_ne_nil p _ h, frontRunnable_append_of_ne_nil p _ h]

end Shapes

-- ============================================================ operations

section Operations

variable {st st' : SemaphoreState σ} {q : List (Queued ω)} {f f' : AcquireFuture}

/-- `try_acquire`: a count of zero at once, a refusal that changes
nothing, or the permits taken from an open semaphore with no queue. -/
theorem tryAcquire_cases (st : SemaphoreState σ) (count : Nat) :
    (count = 0 ∧ tryAcquire st count = (.ok 0, st)) ∨ (∃ e, tryAcquire st count = (.error e, st)) ∨
      (0 < count ∧ st.closed = false ∧ st.waiterHead = none ∧ count ≤ st.permits ∧
        tryAcquire st count = (.ok count, { st with permits := st.permits - count })) := by
  unfold tryAcquire
  by_cases h0 : count = 0
  · exact .inl ⟨h0, if_pos h0⟩
  rw [if_neg h0]
  by_cases hc : st.closed = true
  · exact .inr (.inl ⟨⟨⟩, if_pos hc⟩)
  rw [if_neg hc]
  by_cases hh : st.waiterHead.isSome = true
  · exact .inr (.inl ⟨⟨⟩, if_pos hh⟩)
  rw [if_neg hh]
  by_cases hp : st.permits ≥ count
  · rw [if_pos hp]
    exact .inr (.inr ⟨Nat.pos_of_ne_zero h0, by simpa using hc, by simpa using hh, hp, rfl⟩)
  · rw [if_neg hp]
    exact .inr (.inl ⟨⟨⟩, rfl⟩)

/-- `add_permits`: nothing for a count of zero or once closed; otherwise
the permits grow, saturating, and the front is woken if it can now run. -/
theorem addPermits_cases (st : SemaphoreState σ) (count : Nat) :
    ((count = 0 ∨ st.closed = true) ∧ addPermits S st count = (none, st)) ∨
      (0 < count ∧ st.closed = false ∧
        addPermits S st count =
          (frontWaiterWakerIfRunnable S { st with permits := min (st.permits + count) usizeMax },
            { st with permits := min (st.permits + count) usizeMax })) := by
  unfold addPermits
  by_cases h0 : count = 0
  · exact .inl ⟨.inl h0, if_pos h0⟩
  rw [if_neg h0]
  by_cases hc : st.closed = true
  · exact .inl ⟨.inr hc, if_pos hc⟩
  rw [if_neg hc]
  exact .inr ⟨Nat.pos_of_ne_zero h0, by simpa using hc, rfl⟩

/-- `remove_waiter_and_take_next_waker` for the waiter of the future `f`:
it leaves the queue (nothing is queued once closed), and the wake goes to
the next waiter exactly when the front leaves. -/
theorem removeWaiter_moved (hq : QueueInv S st q) (hempty : st.closed = true → q = [])
    (hown : st.closed = false → Owns q f) {h₀ : WaiterHandle} (hw : f.waiter = some h₀) (hf' : f'.waiter = none)
    {o : Option (Waiter ω)} {next : Option (RegisteredWaker ω)}
    (h : removeWaiterAndTakeNextWaker S st h₀ = some ((o, next), st')) :
    (∃ q', Moved S st.closed q f st' q' f' ∧ Woken st.permits q st'.permits q' next.toList) ∧
      st'.permits = st.permits := by
  cases hc : st.closed with
  | true =>
      -- a closed semaphore has no queue: nothing is removed
      have hq₀ := hempty hc
      subst hq₀
      rw [hq.removeWaiterAndTakeNextWaker_of_not_mem (by simp)] at h
      cases h
      exact ⟨⟨[], moved_keep hc (fun _ => rfl) (fun h => by cases h) hq (.inl hf'),
        woken_of_eq rfl⟩, rfl⟩
  | false =>
      obtain ⟨x, hx, hxh, -⟩ := hown hc h₀ hw
      obtain ⟨l₁, l₂, rfl⟩ := List.append_of_mem hx
      obtain ⟨w, ws, hd, tl, hrm, -, hinv⟩ := hq.removeWaiterAndTakeNextWaker (x := x)
      rw [← hxh, hrm, Option.some.injEq, Prod.mk.injEq, Prod.mk.injEq] at h
      obtain ⟨⟨-, rfl⟩, rfl⟩ := h
      refine ⟨⟨l₁ ++ l₂, moved_remove (by rw [hc]) rfl hinv (hxh ▸ hw) hf', ?_⟩, rfl⟩
      intro r hr
      by_cases hl : l₁ = []
      · -- the front left: the next waiter gets the wake if it can run
        subst hl
        rw [if_pos rfl]
        exact .inr (by simpa using hr)
      · exact .inl (frontRunnable_remove _ x hl ▸ hr)

/-- `Drop for AcquireFuture`. -/
theorem dropFuture_moved (hq : QueueInv S st q) (hempty : st.closed = true → q = [])
    (hown : st.closed = false → Owns q f) {wake : Option (RegisteredWaker ω)}
    (h : dropFuture S st f = some (wake, st')) :
    (∃ q', Moved S st.closed q f st' q' { f with waiter := none } ∧
      Woken st.permits q st'.permits q' wake.toList) ∧ st'.permits = st.permits := by
  unfold dropFuture at h
  cases hw : f.waiter with
  | none =>
      rw [hw, Option.some.injEq, Prod.mk.injEq] at h
      obtain ⟨rfl, rfl⟩ := h
      exact ⟨⟨q, moved_keep rfl hempty hown hq (.inl rfl), woken_of_eq rfl⟩, rfl⟩
  | some h₀ =>
      rw [hw] at h
      obtain ⟨⟨⟨o, next⟩, st''⟩, hrm, hr⟩ := Option.map_eq_some_iff.mp h
      cases hr
      -- the count of cancellations is all that changes before the removal
      have hq₁ : QueueInv S { st with cancellationCount := st.cancellationCount + 1 } q := hq.frame rfl rfl rfl rfl
      exact removeWaiter_moved hq₁ hempty hown hw rfl hrm

/-- The fast path: the front, or anyone when no one waits, takes its
permits, and the next waiter is woken if the permits left let it run. -/
theorem acquireNow_ok (hq : QueueInv S st q) (hc : st.closed = false)
    (hline : (q = [] ∧ f.waiter = none) ∨ ∃ x rest, q = x :: rest ∧ f.waiter = some x.handle)
    (henough : st.permits ≥ f.count) {res : Poll (Except AcquireError Nat)} {wakes : List (RegisteredWaker ω)}
    (h : acquireNow S st f = some (res, f', st', wakes)) : PollOk S st q f res f' st' wakes := by
  unfold acquireNow at h
  rcases hline with ⟨rfl, hw⟩ | ⟨x, rest, rfl, hw⟩
  · rw [hw] at h
    dsimp only at h
    rw [Option.map_some, Option.some.injEq, Prod.mk.injEq, Prod.mk.injEq, Prod.mk.injEq] at h
    obtain ⟨rfl, rfl, rfl, rfl⟩ := h
    refine ⟨⟨[], moved_keep rfl (fun _ => rfl) (fun _ _ hw' => by simp [hw] at hw') (hq.frame rfl rfl rfl rfl)
      (.inl rfl), woken_of_mem fun r hr => by cases hr⟩, ?_, fun c hres _ => ?_⟩
    · show st.permits - f.count + f.count = st.permits
      omega
    · cases hres
      exact ⟨rfl, henough, hc, .inl ⟨rfl, hw⟩⟩
  · -- the front leaves the queue with its permits
    have hq₁ : QueueInv S { st with permits := st.permits - f.count } ([] ++ x :: rest) := hq.frame rfl rfl rfl rfl
    obtain ⟨w, ws, hd, tl, hun, -, -, hinv⟩ := hq₁.unlinkWaiter
    rw [hw] at h
    dsimp only at h
    rw [hq₁.popFrontWaiter_cons, hun, Option.map_some, Option.some.injEq, Prod.mk.injEq, Prod.mk.injEq,
      Prod.mk.injEq] at h
    obtain ⟨rfl, rfl, rfl, rfl⟩ := h
    have hm : Moved S st.closed ([] ++ x :: rest) f
        { st with permits := st.permits - f.count, waiters := ws, waiterHead := hd, waiterTail := tl }
        ([] ++ rest) { f with waiter := none, completed := true } :=
      moved_remove rfl hc hinv hw rfl
    refine ⟨⟨rest, hm, ?_⟩, ?_, fun c hres _ => ?_⟩
    · refine woken_of_mem fun r hr => ?_
      rw [hinv.frontWaiterWakerIfRunnable_eq]
      simpa using hr
    · show st.permits - f.count + f.count = st.permits
      omega
    · cases hres
      exact ⟨rfl, henough, hc, .inr ⟨x, rest, rfl, hw⟩⟩

/-- The slow path, taken when the future is not next in line or the
permits do not cover it: the registration is kept, replaced or enqueued. -/
theorem waitNext_ok [DecidableEq ω] (hq : QueueInv S st q) (hc : st.closed = false) (hown : Owns q f)
    (hstay : ((q = [] ∧ f.waiter = none) ∨ ∃ x rest, q = x :: rest ∧ f.waiter = some x.handle) →
      st.permits < f.count)
    {incoming : RegisteredWaker ω} {res : Poll (Except AcquireError Nat)} {wakes : List (RegisteredWaker ω)}
    (h : waitNext S st f incoming = some (res, f', st', wakes)) : PollOk S st q f res f' st' wakes := by
  unfold waitNext at h
  cases hw : f.waiter with
  | some h₀ =>
      obtain ⟨x, hx, hxh, hxc⟩ := hown h₀ hw
      obtain ⟨l₁, l₂, rfl⟩ := List.append_of_mem hx
      obtain ⟨w, hby, -, -⟩ := hq.waiterByHandle_of_mem hx
      have hfx : f.waiter = some x.handle := hw.trans (congrArg some hxh.symm)
      simp only [hw, ← hxh, hby, Queued.handle_slot] at h
      by_cases hsame : w.waker.waker = incoming.waker
      · -- the same task: its registration stays
        rw [if_pos hsame, Option.some.injEq] at h
        cases h
        exact ⟨⟨_, moved_keep rfl (fun h => absurd (hc.symm.trans h) Bool.false_ne_true) (fun _ => hown) hq
          (.inr ⟨rfl, rfl⟩), woken_of_eq rfl⟩, rfl, fun _ h => by cases h⟩
      · -- another task: its registration replaces the old one
        rw [if_neg hsame, Option.some.injEq] at h
        cases h
        have hinv := hq.replaceWaker incoming
        refine ⟨⟨_, moved_replace hinv rfl hc hfx hxc, ?_⟩, rfl, fun _ h => by cases h⟩
        cases l₁ with
        | nil =>
            -- the front was not runnable, and is not with the new registration
            have hlt := hstay (.inr ⟨x, l₂, rfl, hfx⟩)
            intro r hr
            simp [frontRunnable, Queued.runnable, hxc] at hr
            omega
        | cons a l₁ => exact woken_of_eq rfl
  | none =>
      obtain ⟨slot, ws, hd, henq, hinv⟩ := hq.enqueueWaiter f.count incoming
      simp only [hw, henq, Option.map_some, Option.some.injEq] at h
      cases h
      refine ⟨⟨_, moved_enqueue hq hc hinv hc, ?_⟩, rfl, fun _ h => by cases h⟩
      cases q with
      | nil =>
          -- alone in the queue, and not runnable
          have hlt := hstay (.inl ⟨rfl, hw⟩)
          intro r hr
          simp [frontRunnable, Queued.runnable] at hr
          omega
      | cons a q => exact woken_of_eq rfl

/-- Whether a future is next in line, on the queue. -/
theorem QueueInv.nextInLine_iff (hq : QueueInv S st q) :
    f.waiter.elim st.waiterHead.isNone (isFrontWaiter S st) = true ↔
      (q = [] ∧ f.waiter = none) ∨ ∃ x rest, q = x :: rest ∧ f.waiter = some x.handle := by
  cases hw : f.waiter with
  | none =>
      rw [Option.elim_none, hq.waiterHead_eq]
      cases q <;> simp
  | some h₀ =>
      rw [Option.elim_some, hq.isFrontWaiter_iff]
      constructor
      · rintro ⟨x, rest, hq', hxh⟩
        exact .inr ⟨x, rest, hq', by rw [hxh]⟩
      · rintro (⟨-, h⟩ | ⟨x, rest, hq', hxh⟩)
        · cases h
        · exact ⟨x, rest, hq', (Option.some.inj hxh).symm⟩

/-- `AcquireFuture::poll`, branch by branch. -/
theorem poll_ok [DecidableEq ω] (hq : QueueInv S st q) (hempty : st.closed = true → q = [])
    (hown : st.closed = false → Owns q f) {cancelled : Bool} {waker : ω} {registration : Nat}
    {res : Poll (Except AcquireError Nat)} {wakes : List (RegisteredWaker ω)}
    (h : poll S st f cancelled waker registration = some (res, f', st', wakes)) :
    PollOk S st q f res f' st' wakes := by
  unfold poll at h
  split_ifs at h with hdone hzero hcancel hclosed
  · -- polled after completion
    cases h
    exact ⟨⟨q, moved_keep rfl hempty hown hq (.inr ⟨rfl, rfl⟩), woken_of_eq rfl⟩, rfl, fun _ h => by cases h⟩
  · -- a count of zero is granted at once
    cases h
    exact ⟨⟨q, moved_keep rfl hempty hown hq (.inr ⟨rfl, rfl⟩), woken_of_eq rfl⟩, rfl,
      fun _ _ hpos => absurd hzero (Nat.pos_iff_ne_zero.mp hpos)⟩
  · -- cancelled at the checkpoint: the future leaves the queue
    cases hw : f.waiter with
    | none =>
        rw [hw, Option.some.injEq] at h
        cases h
        exact ⟨⟨q, moved_keep rfl hempty hown (hq.frame rfl rfl rfl rfl) (.inl rfl), woken_of_eq rfl⟩, rfl,
          fun _ h => by cases h⟩
    | some h₀ =>
        rw [hw] at h
        obtain ⟨⟨⟨o, next⟩, st''⟩, hrm, hr⟩ := Option.map_eq_some_iff.mp h
        cases hr
        have hq₁ : QueueInv S { st with cancellationCount := st.cancellationCount + 1 } q :=
          hq.frame rfl rfl rfl rfl
        have hdone : ({ f with waiter := none, completed := true } : AcquireFuture).waiter = none := rfl
        obtain ⟨hmoved, hpermits⟩ := removeWaiter_moved hq₁ hempty hown hw hdone hrm
        exact ⟨hmoved, by rw [hpermits]; rfl, fun _ h => by cases h⟩
  · -- closed: the queue is empty, so the handle unlinks nothing
    have hq₀ := hempty hclosed
    subst hq₀
    have hkeep : Moved S st.closed [] f st [] { f with waiter := none, completed := true } :=
      moved_keep rfl hempty hown hq (.inl rfl)
    cases hw : f.waiter with
    | none =>
        simp only [hw, Option.some.injEq] at h
        cases h
        exact ⟨⟨[], hkeep, woken_of_eq rfl⟩, rfl, fun _ h => by cases h⟩
    | some h₀ =>
        simp only [hw, hq.unlinkWaiter_of_not_mem (by simp), Option.map_some, Option.some.injEq] at h
        cases h
        exact ⟨⟨[], hkeep, woken_of_eq rfl⟩, rfl, fun _ h => by cases h⟩
  · have hopen : st.closed = false := Bool.not_eq_true _ ▸ hclosed
    dsimp only at h
    split_ifs at h with hnext
    all_goals rw [Bool.and_eq_true, decide_eq_true_eq, hq.nextInLine_iff] at hnext
    · -- next in line, with the permits for it
      exact acquireNow_ok hq hopen hnext.1 hnext.2 h
    · -- otherwise the future waits
      exact waitNext_ok hq hopen (hown hopen) (fun hline => Nat.lt_of_not_le fun hle => hnext ⟨hline, hle⟩) h

end Operations

end SemaphoreState

end Asupersync
