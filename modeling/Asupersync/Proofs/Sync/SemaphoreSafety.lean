/-
The semaphore and its clients over every run of their calls: permits are
conserved, granted in FIFO order, and a waiter that can run is woken.

# The invariant

`Inv S n s`, for a semaphore made by `Semaphore::new(n)`:
- the waiter list is a FIFO queue `q` (`QueueInv`), empty once closed,
  and while open the handle of every live future names its own waiter of
  `q` (`Owns`);
- no two live futures hold one handle, and future and permit handles are
  fresh;
- while open, the permits, the counts of the live permits, the forgotten
  counts and what `add_permits` lost to saturation sum to `n` and what
  `add_permits` was given.

# A call

`StepOk` of a call: the invariant after it, and the wake: if the front
waiter can run after the call, it could before with the same
registration, or the call wakes that registration. `Granted` says what a
successful acquisition took and that nobody was ahead of it. Each call
has one lemma `stepOk_*`, which reads the state's part off the specs of
`SemaphoreOps.lean`.
-/
import Asupersync.Sync.SemaphoreSystem
import Asupersync.Proofs.Sync.SemaphoreOps
import Asupersync.Store.Handles
import Asupersync.Machine.Exec

namespace Asupersync

namespace SemaphoreSystem

open SemaphoreState

variable {σ ω : Type} {S : MutSlab σ (Waiter ω)}

-- ============================================================ invariant

/-- No two live futures hold one waiter handle. -/
def Distinct (futures : List LiveFuture) : Prop :=
  ∀ g ∈ futures, ∀ g' ∈ futures, ∀ h, g.future.waiter = some h → g'.future.waiter = some h → g.id = g'.id

/-- The invariant of every system reachable from `init S n`. -/
structure Inv (S : MutSlab σ (Waiter ω)) (n : Nat) (s : SemaphoreSystem σ) : Prop where
  queue : ∃ q, QueueInv S s.state q ∧ (s.state.closed = true → q = []) ∧
    (s.state.closed = false → ∀ g ∈ s.futures, Owns q g.future)
  distinct : Distinct s.futures
  futureKeys : FreshKeys LiveFuture.id s.futures s.nextHandle
  permitKeys : FreshKeys LivePermit.id s.permits s.nextHandle
  conserved : s.state.closed = false →
    s.state.permits + (s.permits.map (·.count)).sum + s.forgotten + s.saturated = n + s.added

theorem inv_init (n : Nat) : Inv S n (init S n) where
  queue := ⟨[], queueInv_new n, fun _ => rfl, fun _ g hg => by cases hg⟩
  distinct g hg := by cases hg
  futureKeys := FreshKeys.nil 0
  permitKeys := FreshKeys.nil 0
  conserved _ := rfl

/-- What a call establishes: the invariant after it, and the wake. -/
structure StepOk (S : MutSlab σ (Waiter ω)) (n : Nat) (s : SemaphoreSystem σ)
    (out : SemaphoreResult × List (RegisteredWaker ω)) (s' : SemaphoreSystem σ) : Prop where
  inv : Inv S n s'
  woken : ∀ r, frontWaiterWakerIfRunnable S s'.state = some r →
    frontWaiterWakerIfRunnable S s.state = some r ∨ r ∈ out.2

/-- A successful acquisition of `count` by a future holding `waiter`
(`none` for `try_acquire`): the permits it took, the permit it got, and
that no waiter was ahead of it. -/
structure Granted (S : MutSlab σ (Waiter ω)) (s s' : SemaphoreSystem σ) (count : Nat)
    (waiter : Option WaiterHandle) : Prop where
  enough : count ≤ s.state.permits
  taken : s'.state.permits = s.state.permits - count
  minted : s'.permits = s.permits ++ [⟨s.nextHandle, count⟩]
  inLine : s.state.waiterHead = none ∨ ∃ h, waiter = some h ∧ isFrontWaiter S s.state h = true
  first : ∀ g ∈ s.futures, ∀ h', g.future.waiter = some h' → waiter ≠ some h' →
    ∃ h, waiter = some h ∧ h.id < h'.id

-- ================================================================ lookups

section Lookups

variable {s : SemaphoreSystem σ}

theorem future?_eq_some {id : Nat} {f : AcquireFuture} (h : s.future? id = some f) :
    ∃ g ∈ s.futures, g.id = id ∧ g.future = f := by
  obtain ⟨g, hg, rfl⟩ := Option.map_eq_some_iff.mp h
  exact ⟨g, List.mem_of_find?_eq_some hg, by simpa using List.find?_some hg, rfl⟩

theorem permit?_eq_some {id : Nat} {p : LivePermit} (h : s.permit? id = some p) :
    p ∈ s.permits ∧ p.id = id :=
  ⟨List.mem_of_find?_eq_some h, by simpa using List.find?_some h⟩

/-- Consuming a live permit takes exactly its count out of the live ones. -/
theorem Inv.sum_dropPermit {n : Nat} (hi : Inv S n s) {id : Nat} {p : LivePermit} (hp : s.permit? id = some p) :
    ((s.dropPermit id).permits.map (·.count)).sum + p.count = (s.permits.map (·.count)).sum :=
  sum_filter_key_ne LivePermit.id LivePermit.count hi.permitKeys.nodup hp

/-- A new permit adds its count to the live ones. -/
theorem sum_mint (c : Nat) : ((s.mint c).permits.map (·.count)).sum = (s.permits.map (·.count)).sum + c := by
  simp [mint]

/-- The wake, read on the queues. -/
theorem woken_front {st st' : SemaphoreState σ} {q q' : List (Queued ω)} {wakes : List (RegisteredWaker ω)}
    (hq : QueueInv S st q) (hq' : QueueInv S st' q') (hw : Woken st.permits q st'.permits q' wakes) :
    ∀ r, frontWaiterWakerIfRunnable S st' = some r → frontWaiterWakerIfRunnable S st = some r ∨ r ∈ wakes := by
  rw [hq.frontWaiterWakerIfRunnable_eq, hq'.frontWaiterWakerIfRunnable_eq]
  exact hw

end Lookups

-- ================================================================= shapes

section Shapes

variable {n : Nat} {s : SemaphoreSystem σ}

/-- A state with the same list and the same `closed` keeps the queue. -/
theorem Inv.queue_frame (hi : Inv S n s) {st' : SemaphoreState σ} (hw : st'.waiters = s.state.waiters)
    (hh : st'.waiterHead = s.state.waiterHead) (ht : st'.waiterTail = s.state.waiterTail)
    (hn : st'.nextWaiterId = s.state.nextWaiterId) (hc : st'.closed = s.state.closed) :
    ∃ q, QueueInv S st' q ∧ (st'.closed = true → q = []) ∧
      (st'.closed = false → ∀ g ∈ s.futures, Owns q g.future) := by
  obtain ⟨q, hq, hempty, hown⟩ := hi.queue
  exact ⟨q, hq.frame hw hh ht hn, hc ▸ hempty, hc ▸ hown⟩

/-- A call that moves no permit keeps the balance. -/
theorem Inv.conserved_of_permits (hi : Inv S n s) {st' : SemaphoreState σ} (hc : st'.closed = s.state.closed)
    (hp : st'.permits = s.state.permits) :
    st'.closed = false → st'.permits + (s.permits.map (·.count)).sum + s.forgotten + s.saturated = n + s.added := by
  intro hopen
  rw [hp]
  exact hi.conserved (hc ▸ hopen)

/-- A closed semaphore has no queue. -/
theorem queue_closed {st' : SemaphoreState σ} (hq : QueueInv S st' []) (hc : st'.closed = true)
    (futures : List LiveFuture) :
    ∃ q, QueueInv S st' q ∧ (st'.closed = true → q = []) ∧
      (st'.closed = false → ∀ g ∈ futures, Owns q g.future) :=
  ⟨[], hq, fun _ => rfl, fun h => absurd (hc.symm.trans h) (by decide)⟩

/-- A call on the future `g₀` keeps the waiter of every other live future. -/
theorem owns_other {futures : List LiveFuture} (hdist : Distinct futures) {g₀ g : LiveFuture}
    (hg₀ : g₀ ∈ futures) (hg : g ∈ futures) (hne : g.id ≠ g₀.id) {q q' : List (Queued ω)}
    (hown : Owns q g.future)
    (hret : ∀ x ∈ q, g₀.future.waiter ≠ some x.handle → ∃ y ∈ q', y.handle = x.handle ∧ y.count = x.count) :
    Owns q' g.future := by
  intro h hw
  obtain ⟨x, hx, hxh, hxc⟩ := hown h hw
  -- the handle is `g`'s, so not `g₀`'s
  have hx₀ : g₀.future.waiter ≠ some x.handle :=
    fun he => hne (hdist g hg g₀ hg₀ h hw (he.trans (congrArg some hxh)))
  obtain ⟨y, hy, hyh, hyc⟩ := hret x hx hx₀
  exact ⟨y, hy, hyh.trans hxh, hyc.trans hxc⟩

variable {q q' : List (Queued ω)} {id : Nat} {f f' : AcquireFuture} {st' : SemaphoreState σ}

/-- The future a call left with a new handle holds it alone. -/
theorem Inv.not_shared (hi : Inv S n s)
    (hown : s.state.closed = false → ∀ g ∈ s.futures, Owns q g.future) (hf : s.future? id = some f)
    (hm : Moved S s.state.closed q f st' q' f') {h : WaiterHandle} (hw : f'.waiter = some h) {g : LiveFuture}
    (hg : g ∈ s.futures) (hgi : g.id ≠ id) (hgw : g.future.waiter = some h) : False := by
  obtain ⟨g₀, hg₀, hid₀, rfl⟩ := future?_eq_some hf
  rcases hm.handle h hw with hold | ⟨hc, hfresh⟩
  · exact hgi (hi.distinct g hg g₀ hg₀ h hgw hold |>.trans hid₀)
  · obtain ⟨x, hx, hxh, -⟩ := hown hc g hg h hgw
    exact hfresh x hx hxh

theorem id_setFuture (g : LiveFuture) :
    (if g.id = id then { g with future := f' } else g).id = g.id := by
  split <;> rfl

/-- After a call on the future `id` that `Moved` describes, the futures
own their waiters and hold distinct handles. -/
theorem Inv.setFuture (hi : Inv S n s)
    (hown : s.state.closed = false → ∀ g ∈ s.futures, Owns q g.future) (hf : s.future? id = some f)
    (hm : Moved S s.state.closed q f st' q' f') :
    (st'.closed = false → ∀ g ∈ (s.setFuture id f').futures, Owns q' g.future) ∧
      Distinct (s.setFuture id f').futures := by
  obtain ⟨g₀, hg₀, hid₀, hf₀⟩ := future?_eq_some hf
  constructor
  · intro hc g' hg'
    obtain ⟨g, hg, rfl⟩ := List.mem_map.mp hg'
    by_cases hgi : g.id = id
    · rw [if_pos hgi]
      exact hm.owns hc
    · rw [if_neg hgi]
      exact owns_other hi.distinct hg₀ hg (hid₀ ▸ hgi) (hown (hm.closed_eq ▸ hc) g hg) (hf₀ ▸ hm.retains)
  · intro a' ha' b' hb' h hwa hwb
    obtain ⟨a, ha, rfl⟩ := List.mem_map.mp ha'
    obtain ⟨b, hb, rfl⟩ := List.mem_map.mp hb'
    rw [id_setFuture, id_setFuture]
    by_cases hai : a.id = id <;> by_cases hbi : b.id = id
    · exact hai.trans hbi.symm
    · rw [if_pos hai] at hwa
      rw [if_neg hbi] at hwb
      exact (hi.not_shared hown hf hm hwa hb hbi hwb).elim
    · rw [if_neg hai] at hwa
      rw [if_pos hbi] at hwb
      exact (hi.not_shared hown hf hm hwb ha hai hwa).elim
    · rw [if_neg hai] at hwa
      rw [if_neg hbi] at hwb
      exact hi.distinct a ha b hb h hwa hwb

/-- After a call that dropped the future `id`, the others own their
waiters and hold distinct handles. -/
theorem Inv.dropFuture (hi : Inv S n s) (hown : s.state.closed = false → ∀ g ∈ s.futures, Owns q g.future)
    (hf : s.future? id = some f) (hm : Moved S s.state.closed q f st' q' f') :
    (st'.closed = false → ∀ g ∈ (s.dropFuture id).futures, Owns q' g.future) ∧
      Distinct (s.dropFuture id).futures := by
  obtain ⟨g₀, hg₀, hid₀, hf₀⟩ := future?_eq_some hf
  have hmem : ∀ g ∈ (s.dropFuture id).futures, g ∈ s.futures ∧ g.id ≠ id := by
    intro g hg
    obtain ⟨hg, hne⟩ := List.mem_filter.mp hg
    exact ⟨hg, by simpa using hne⟩
  constructor
  · intro hc g hg
    obtain ⟨hg, hgi⟩ := hmem g hg
    exact owns_other hi.distinct hg₀ hg (hid₀ ▸ hgi) (hown (hm.closed_eq ▸ hc) g hg) (hf₀ ▸ hm.retains)
  · intro a ha b hb
    exact hi.distinct a (hmem a ha).1 b (hmem b hb).1

/-- The grant of a future next in line: nobody waits ahead of it. -/
theorem first_of_inLine (hq : QueueInv S st' q) {futures : List LiveFuture}
    (hown : ∀ g ∈ futures, Owns q g.future) {waiter : Option WaiterHandle}
    (hline : (q = [] ∧ waiter = none) ∨ ∃ x rest, q = x :: rest ∧ waiter = some x.handle) :
    ∀ g ∈ futures, ∀ h', g.future.waiter = some h' → waiter ≠ some h' → ∃ h, waiter = some h ∧ h.id < h'.id := by
  intro g hg h' hw hne
  obtain ⟨y, hy, hyh, -⟩ := hown g hg h' hw
  rcases hline with ⟨rfl, -⟩ | ⟨x, rest, rfl, hx⟩
  · cases hy
  · rcases List.mem_cons.mp hy with rfl | hy
    · exact absurd (hx.trans (congrArg some hyh)) hne
    · -- a later waiter has a larger id
      refine ⟨x.handle, hx, ?_⟩
      rw [← hyh]
      have hord := hq.order
      rw [List.map_cons, List.pairwise_cons] at hord
      exact hord.1 y.id (List.mem_map_of_mem hy)

theorem inLine_of (hq : QueueInv S st' q) {waiter : Option WaiterHandle}
    (hline : (q = [] ∧ waiter = none) ∨ ∃ x rest, q = x :: rest ∧ waiter = some x.handle) :
    st'.waiterHead = none ∨ ∃ h, waiter = some h ∧ isFrontWaiter S st' h = true := by
  rcases hline with ⟨rfl, -⟩ | ⟨x, rest, rfl, hx⟩
  · exact .inl (by rw [hq.waiterHead_eq]; rfl)
  · exact .inr ⟨x.handle, hx, hq.isFrontWaiter_iff.mpr ⟨x, rest, rfl, rfl⟩⟩

/-- `add_permits(count)`, from a client or a dropped permit: the
invariant's queue part, the wake, and the balance, which gains `count`
less what saturation loses. -/
theorem addPermits_ok (hi : Inv S n s) (count : Nat) :
    (∃ q, QueueInv S (s.state.addPermits S count).2 q ∧
      ((s.state.addPermits S count).2.closed = true → q = []) ∧
      ((s.state.addPermits S count).2.closed = false → ∀ g ∈ s.futures, Owns q g.future)) ∧
    (s.state.addPermits S count).2.closed = s.state.closed ∧
    (s.state.closed = false →
      (s.state.addPermits S count).2.permits + (if count > 0 then overflow s.state count else 0) =
        s.state.permits + count) ∧
    (∀ r, frontWaiterWakerIfRunnable S (s.state.addPermits S count).2 = some r →
      frontWaiterWakerIfRunnable S s.state = some r ∨ r ∈ (s.state.addPermits S count).1.toList) := by
  rcases addPermits_cases s.state count with ⟨hnone, ha⟩ | ⟨hpos, hc, ha⟩
  · rw [ha]
    refine ⟨hi.queue_frame rfl rfl rfl rfl rfl, rfl, fun hc => ?_, fun r hr => .inl hr⟩
    rcases hnone with h0 | hc'
    · subst h0
      simp
    · exact absurd (hc'.symm.trans hc) (by decide)
  · rw [ha]
    refine ⟨hi.queue_frame rfl rfl rfl rfl rfl, rfl, fun _ => ?_, fun r hr => .inr (by simp [hr])⟩
    simp only [if_pos hpos, overflow, hc, Bool.false_eq_true, if_false]
    omega

theorem stepOk_release (hi : Inv S n s) {id : Nat} {p : LivePermit} (hp : s.permit? id = some p)
    (h : s.release S p = some (out, s')) : StepOk S n s out s' := by
  simp only [release, Option.some.injEq] at h
  obtain ⟨rfl, rfl⟩ := h
  have hid : p.id = id := (permit?_eq_some hp).2
  have hsum := hi.sum_dropPermit hp
  rw [← hid] at hsum
  unfold SemaphoreState.dropPermit
  by_cases hpos : p.count > 0
  · simp only [if_pos hpos]
    obtain ⟨hq, hclosed, hbal, hwoken⟩ := addPermits_ok hi p.count
    refine ⟨⟨hq, hi.distinct, hi.futureKeys, hi.permitKeys.filter _, fun hc => ?_⟩, hwoken⟩
    have hc₀ : s.state.closed = false := hclosed ▸ hc
    have h₁ := hi.conserved hc₀
    have h₂ := hbal hc₀
    simp only [if_pos hpos] at h₂
    simp only [dropPermit, withState, state] at h₁ h₂ hsum ⊢
    omega
  · simp only [if_neg hpos]
    refine ⟨⟨hi.queue_frame rfl rfl rfl rfl rfl, hi.distinct, hi.futureKeys, hi.permitKeys.filter _,
      fun hc => ?_⟩, fun r hr => .inl hr⟩
    have h₁ := hi.conserved hc
    simp only [dropPermit, withState, state] at h₁ hsum ⊢
    omega

end Shapes

-- ================================================================== steps

section Steps

variable [DecidableEq ω] {n : Nat} {s s' : SemaphoreSystem σ} {out : SemaphoreResult × List (RegisteredWaker ω)}

theorem stepOk_tryAcquire (hi : Inv S n s) {count : Nat} (h : step S s (.tryAcquire count) = some (out, s')) :
    StepOk S n s out s' ∧ ∀ id, out.1 = .tryAcquire (.ok id) → 0 < count → Granted S s s' count none := by
  simp only [step] at h
  rcases tryAcquire_cases s.state count with ⟨h0, ht⟩ | ⟨e, ht⟩ | ⟨hpos, hc, hhead, hle, ht⟩
  · -- a count of zero: a permit of zero, and nothing else moves
    simp only [ht, Option.some.injEq] at h
    obtain ⟨rfl, rfl⟩ := h
    refine ⟨⟨⟨hi.queue_frame rfl rfl rfl rfl rfl, hi.distinct, hi.futureKeys.mono (Nat.le_succ _),
      hi.permitKeys.append rfl, fun hc => ?_⟩, fun r hr => .inl hr⟩, fun _ _ hpos => absurd h0 (by omega)⟩
    rw [sum_mint]
    exact hi.conserved hc
  · -- refused: nothing moves
    simp only [ht, Option.some.injEq] at h
    obtain ⟨rfl, rfl⟩ := h
    exact ⟨⟨⟨hi.queue_frame rfl rfl rfl rfl rfl, hi.distinct, hi.futureKeys, hi.permitKeys, hi.conserved⟩,
      fun r hr => .inl hr⟩, fun _ h => by cases h⟩
  · -- granted from an open semaphore with no queue
    simp only [ht, Option.some.injEq] at h
    obtain ⟨rfl, rfl⟩ := h
    obtain ⟨q, hq, -, hown⟩ := hi.queue
    have hq₀ : q = [] := by
      rw [hq.waiterHead_eq] at hhead
      cases q with
      | nil => rfl
      | cons x rest => cases hhead
    subst hq₀
    have hq' : QueueInv S { s.state with permits := s.state.permits - count } [] := hq.frame rfl rfl rfl rfl
    refine ⟨⟨⟨hi.queue_frame rfl rfl rfl rfl rfl, hi.distinct, hi.futureKeys.mono (Nat.le_succ _),
      hi.permitKeys.append rfl, fun _ => ?_⟩, fun r hr => ?_⟩,
      fun _ _ _ => ⟨hle, rfl, rfl, .inl hhead, first_of_inLine hq (hown hc) (.inl ⟨rfl, rfl⟩)⟩⟩
    · have := hi.conserved hc
      rw [sum_mint]
      show s.state.permits - count + ((s.permits.map (·.count)).sum + count) + s.forgotten + s.saturated = n + s.added
      omega
    · -- the queue stays empty
      have hnone := hq'.frontWaiterWakerIfRunnable_eq.symm.trans hr
      cases hnone

theorem stepOk_acquire (hi : Inv S n s) {count : Nat} (h : step S s (.acquire count) = some (out, s')) :
    StepOk S n s out s' := by
  simp only [step, Option.some.injEq] at h
  obtain ⟨rfl, rfl⟩ := h
  obtain ⟨q, hq, hempty, hown⟩ := hi.queue
  -- the new future holds no handle
  have hnew : ∀ g ∈ s.futures ++ [⟨s.nextHandle, ⟨count, none, false⟩⟩],
      g ∈ s.futures ∨ g.future.waiter = none := by
    intro g hg
    rcases List.mem_append.mp hg with hg | hg
    · exact .inl hg
    · rw [List.mem_singleton.mp hg]
      exact .inr rfl
  refine ⟨⟨⟨q, hq, hempty, fun hc g hg => ?_⟩, fun a ha b hb h hwa hwb => ?_,
    hi.futureKeys.append rfl, hi.permitKeys.mono (Nat.le_succ _), hi.conserved⟩, fun r hr => .inl hr⟩
  · rcases hnew g hg with hg | hn
    · exact hown hc g hg
    · intro h hw
      rw [hn] at hw
      cases hw
  · rcases hnew a ha with ha | hn
    · rcases hnew b hb with hb | hn
      · exact hi.distinct a ha b hb h hwa hwb
      · rw [hn] at hwb
        cases hwb
    · rw [hn] at hwa
      cases hwa

theorem stepOk_poll (hi : Inv S n s) {id : Nat} {cancelled : Bool} {waker : ω}
    (h : step S s (.poll id cancelled waker) = some (out, s')) :
    StepOk S n s out s' ∧ ∀ f c, s.future? id = some f → out.1 = .poll (.Ready (.ok c)) → 0 < f.count →
      Granted S s s' f.count f.waiter := by
  simp only [step] at h
  split at h
  · cases h
  rename_i f hf
  obtain ⟨⟨res, f', st', wakes⟩, hpoll, hr⟩ := Option.map_eq_some_iff.mp h
  obtain ⟨q, hq, hempty, hown⟩ := hi.queue
  obtain ⟨g₀, hg₀, -, hf₀⟩ := future?_eq_some hf
  obtain ⟨⟨q', hm, hw⟩, hpermits, hgranted⟩ := poll_ok hq hempty (fun hc => hf₀ ▸ hown hc g₀ hg₀) hpoll
  obtain ⟨hown', hdist'⟩ := hi.setFuture hown hf hm
  -- the queue and the futures after the poll, before a permit is minted
  have hq₁ : ∃ q, QueueInv S st' q ∧ (st'.closed = true → q = []) ∧
      (st'.closed = false → ∀ g ∈ ((s.withState st').setFuture id f').futures, Owns q g.future) :=
    ⟨q', hm.inv, hm.empty, hown'⟩
  have hkeys₁ : FreshKeys LiveFuture.id ((s.withState st').setFuture id f').futures s.nextHandle :=
    hi.futureKeys.map _ fun g => id_setFuture g
  have hwoken := woken_front hq hm.inv hw
  cases res with
  | Pending =>
      cases hr
      exact ⟨⟨⟨hq₁, hdist', hkeys₁, hi.permitKeys, hi.conserved_of_permits hm.closed_eq hpermits⟩,
        hwoken⟩, fun _ _ _ h => by cases h⟩
  | Ready e =>
      cases e with
      | error e =>
          cases hr
          exact ⟨⟨⟨hq₁, hdist', hkeys₁, hi.permitKeys, hi.conserved_of_permits hm.closed_eq hpermits⟩,
            hwoken⟩, fun _ _ _ h => by cases h⟩
      | ok c =>
          cases hr
          refine ⟨⟨⟨hq₁, hdist', hkeys₁.mono (Nat.le_succ _), hi.permitKeys.append rfl, fun hc => ?_⟩, hwoken⟩,
            fun f₀ c₀ hf₀ _ hpos => ?_⟩
          · have := hi.conserved (hm.closed_eq ▸ hc)
            simp only [grantedCount] at hpermits
            rw [sum_mint]
            show st'.permits + ((s.permits.map (·.count)).sum + c) + s.forgotten + s.saturated = n + s.added
            omega
          · rw [hf] at hf₀
            cases hf₀
            obtain ⟨rfl, hle, hc, hline⟩ := hgranted c rfl hpos
            exact ⟨hle, by simp only [grantedCount] at hpermits; show st'.permits = _; omega, rfl,
              inLine_of hq hline, first_of_inLine hq (hown hc) hline⟩

theorem stepOk_futureDrop (hi : Inv S n s) {id : Nat} (h : step S s (.futureDrop id) = some (out, s')) :
    StepOk S n s out s' := by
  simp only [step] at h
  split at h
  · cases h
  rename_i f hf
  obtain ⟨⟨wake, st'⟩, hdrop, hr⟩ := Option.map_eq_some_iff.mp h
  cases hr
  obtain ⟨q, hq, hempty, hown⟩ := hi.queue
  obtain ⟨g₀, hg₀, -, hf₀⟩ := future?_eq_some hf
  obtain ⟨⟨q', hm, hw⟩, hpermits⟩ := dropFuture_moved hq hempty (fun hc => hf₀ ▸ hown hc g₀ hg₀) hdrop
  obtain ⟨hown', hdist'⟩ := hi.dropFuture hown hf hm
  exact ⟨⟨⟨q', hm.inv, hm.empty, hown'⟩, hdist', hi.futureKeys.filter _, hi.permitKeys,
    hi.conserved_of_permits hm.closed_eq hpermits⟩, woken_front hq hm.inv hw⟩

theorem stepOk_addPermits (hi : Inv S n s) {count : Nat} (h : step S s (.addPermits count) = some (out, s')) :
    StepOk S n s out s' := by
  simp only [step, Option.some.injEq] at h
  obtain ⟨rfl, rfl⟩ := h
  obtain ⟨hq, hclosed, hbal, hwoken⟩ := addPermits_ok hi count
  refine ⟨⟨hq, hi.distinct, hi.futureKeys, hi.permitKeys, fun hc => ?_⟩, hwoken⟩
  have hc₀ : s.state.closed = false := hclosed ▸ hc
  have h₁ := hi.conserved hc₀
  have h₂ := hbal hc₀
  simp only [withState, state] at h₁ h₂ ⊢
  omega

theorem stepOk_permitForget (hi : Inv S n s) {id : Nat} (h : step S s (.permitForget id) = some (out, s')) :
    StepOk S n s out s' := by
  simp only [step] at h
  split at h
  · cases h
  rename_i p hp
  simp only [Option.some.injEq] at h
  obtain ⟨rfl, rfl⟩ := h
  have hsum := hi.sum_dropPermit hp
  refine ⟨⟨hi.queue_frame rfl rfl rfl rfl rfl, hi.distinct, hi.futureKeys, hi.permitKeys.filter _,
    fun hc => ?_⟩, fun r hr => .inl hr⟩
  have h₁ := hi.conserved hc
  simp only [dropPermit, state] at h₁ hsum ⊢
  omega

theorem stepOk_close (hi : Inv S n s) (h : step S s .close = some (out, s')) : StepOk S n s out s' := by
  simp only [step, Option.some.injEq] at h
  obtain ⟨rfl, rfl⟩ := h
  refine ⟨⟨queue_closed (queueInv_close s.state) rfl _, hi.distinct, hi.futureKeys, hi.permitKeys,
    fun hc => by cases hc⟩, fun r hr => ?_⟩
  have hnone := (queueInv_close (S := S) s.state).frontWaiterWakerIfRunnable_eq.symm.trans hr
  cases hnone

/-- Every call keeps the invariant and wakes a front it makes runnable. -/
theorem step_stepOk (hi : Inv S n s) {op : SemaphoreOp ω} (h : step S s op = some (out, s')) :
    StepOk S n s out s' := by
  cases op with
  | tryAcquire count => exact (stepOk_tryAcquire hi h).1
  | acquire count => exact stepOk_acquire hi h
  | poll id cancelled waker => exact (stepOk_poll hi h).1
  | futureDrop id => exact stepOk_futureDrop hi h
  | permitDrop id =>
      simp only [step] at h
      split at h
      · cases h
      · exact stepOk_release hi ‹_› h
  | permitCommit id =>
      simp only [step] at h
      split at h
      · cases h
      · exact stepOk_release hi ‹_› h
  | permitForget id => exact stepOk_permitForget hi h
  | addPermits count => exact stepOk_addPermits hi h
  | close => exact stepOk_close hi h

end Steps

-- ==================================================================== runs

/-- Over every run of clients' calls on `Semaphore::new(n)`: while the
semaphore is open, its permits, the counts of the live permits, the
forgotten counts and what `add_permits` lost to saturation sum to `n` and
what `add_permits` was given; a `try_acquire` or a poll that grants a
count above zero found that many permits, took exactly that many and
handed out a permit of that count, with no waiter queued or the acquirer
at the front, and every other waiting future enqueued after it; and if
the front waiter can run after a call, it could before with the same
registration, or the call woke that registration. -/
theorem semaphore_permits_fifo_wakeup [DecidableEq ω] (n : Nat) (ops : List (SemaphoreOp ω))
    {outs : List (SemaphoreResult × List (RegisteredWaker ω))} {tr : List (SemaphoreSystem σ)}
    (h : Machine.runOut (step S) (init S n) ops = some (outs, tr)) :
    (∀ s ∈ tr, s.state.closed = false →
      s.state.permits + (s.permits.map (·.count)).sum + s.forgotten + s.saturated = n + s.added) ∧
    ∀ s ∈ tr, ∀ op out s', step S s op = some (out, s') →
      (∀ k id, op = .tryAcquire k → out.1 = .tryAcquire (.ok id) → 0 < k → Granted S s s' k none) ∧
      (∀ id c w f p, op = .poll id c w → s.future? id = some f → out.1 = .poll (.Ready (.ok p)) →
        0 < f.count → Granted S s s' f.count f.waiter) ∧
      (∀ r, frontWaiterWakerIfRunnable S s'.state = some r →
        frontWaiterWakerIfRunnable S s.state = some r ∨ r ∈ out.2) := by
  have hkeep : Machine.Keeps (step S) (Inv S n) := fun _ _ _ _ hi hs => (step_stepOk hi hs).inv
  have hinv := Machine.runOut_preserved hkeep ops (inv_init n) h
  refine ⟨fun s hs => (hinv s hs).conserved, fun s hs op out s' hstep => ⟨?_, ?_, (step_stepOk (hinv s hs) hstep).woken⟩⟩
  · rintro k id rfl hout hpos
    exact (stepOk_tryAcquire (hinv s hs) hstep).2 id hout hpos
  · rintro id c w f p rfl hf hout hpos
    exact (stepOk_poll (hinv s hs) hstep).2 f p hf hout hpos

/-- A waiter for two permits from a semaphore of one is woken by
`add_permits(1)` and then acquires; the balance holds throughout. -/
theorem semaphore_permits_fifo_wakeup_handoff :
    ∃ tr, Machine.runOut (step (vecMutSlab (Waiter Nat))) (init (vecMutSlab (Waiter Nat)) 1)
        [.acquire 2, .poll 0 false 7, .addPermits 1, .poll 0 false 7] =
      some ([(.handle 0, []), (.poll .Pending, []), (.unit, [⟨0, 7⟩]), (.poll (.Ready (.ok 1)), [])], tr) ∧
      ∀ s ∈ tr, s.state.closed = false →
        s.state.permits + (s.permits.map (·.count)).sum + s.forgotten + s.saturated = 1 + s.added :=
  ⟨_, rfl, (semaphore_permits_fifo_wakeup (S := vecMutSlab (Waiter Nat)) 1
    [.acquire 2, .poll 0 false 7, .addPermits 1, .poll 0 false 7] rfl).1⟩

/-- A count of zero is granted past a queued waiter: after a future for
two permits queues on a semaphore of one, `try_acquire(0)` succeeds. -/
theorem try_acquire_zero_overtakes_queued_waiter :
    ∃ tr s, Machine.runOut (step (vecMutSlab (Waiter Nat))) (init (vecMutSlab (Waiter Nat)) 1) [.acquire 2, .poll 0 false 7] =
        some ([(.handle 0, []), (.poll .Pending, [])], tr) ∧ tr.getLast? = some s ∧
      s.state.waiterHead ≠ none ∧
      (step (vecMutSlab (Waiter Nat)) s (.tryAcquire 0)).map (·.1) = some (.tryAcquire (.ok s.nextHandle), []) :=
  ⟨_, _, rfl, rfl, by decide, rfl⟩

end SemaphoreSystem

end Asupersync
