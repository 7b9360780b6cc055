/-
What each channel operation does to the channel's data: the queue, the
reservation count and the closed flag.

# The waiter bookkeeping is a frame

Pruning the FIFO, reading the next waker, removing a waiter token and
draining the waiters touch only `send_wakers` and `waiter_queue`; the
`_queue` and `_reserved` simp lemmas say so once, and no later proof
unfolds those helpers.

# One spec lemma per operation

`Becomes sh sh' queue reserved dropped` says that `sh'` has the given
queue, reservation count and closed flag, and the sender count and
capacity of `sh`. Each operation gets a lemma per outcome, with the guard
that outcome passed: a commit happens only on an open channel, a
reservation or an immediate send only below capacity, and every error
hands back the value it was given.
-/
import Asupersync.Channel.Mpsc

namespace Asupersync

variable {α : Type}

namespace ChannelInner

variable (i : ChannelInner α)

@[simp] theorem pruneStaleWaiterFront_queue : i.pruneStaleWaiterFront.queue = i.queue := rfl
@[simp] theorem pruneStaleWaiterFront_reserved : i.pruneStaleWaiterFront.reserved = i.reserved := rfl
@[simp] theorem hasWaitingSender_queue : i.hasWaitingSender.2.queue = i.queue := rfl
@[simp] theorem hasWaitingSender_reserved : i.hasWaitingSender.2.reserved = i.reserved := rfl
@[simp] theorem takeNextSenderWaker_queue : i.takeNextSenderWaker.2.queue = i.queue := rfl
@[simp] theorem takeNextSenderWaker_reserved : i.takeNextSenderWaker.2.reserved = i.reserved := rfl
@[simp] theorem drainSenderWakers_queue : i.drainSenderWakers.2.queue = i.queue := rfl
@[simp] theorem drainSenderWakers_reserved : i.drainSenderWakers.2.reserved = i.reserved := rfl

@[simp] theorem hasCapacity_prune (capacity : Nat) :
    i.pruneStaleWaiterFront.hasCapacity capacity = i.hasCapacity capacity := rfl

@[simp] theorem senderWakersForFreedSlots_queue (freed capacity : Nat) :
    (i.senderWakersForFreedSlots freed capacity).2.queue = i.queue := by
  simp only [senderWakersForFreedSlots]
  split <;> rfl

@[simp] theorem senderWakersForFreedSlots_reserved (freed capacity : Nat) :
    (i.senderWakersForFreedSlots freed capacity).2.reserved = i.reserved := by
  simp only [senderWakersForFreedSlots]
  split <;> rfl

@[simp] theorem removeWaiterToken_queue (token : SlabToken) :
    (i.removeWaiterToken token).2.queue = i.queue := by
  unfold removeWaiterToken
  split
  · rfl
  · split <;> rfl

@[simp] theorem removeWaiterToken_reserved (token : SlabToken) :
    (i.removeWaiterToken token).2.reserved = i.reserved := by
  unfold removeWaiterToken
  split
  · rfl
  · split <;> rfl

@[simp] theorem retireWaiter_queue (t : SlabToken) (capacity : Nat) :
    (i.retireWaiter t capacity).queue = i.queue := by
  unfold retireWaiter
  dsimp only
  split <;> split <;> simp
@[simp] theorem retireWaiter_reserved (t : SlabToken) (capacity : Nat) :
    (i.retireWaiter t capacity).reserved = i.reserved := by
  unfold retireWaiter
  dsimp only
  split <;> split <;> simp
/-- Below `usize::MAX` the saturating sum is the sum. -/
theorem hasCapacity_iff {capacity : Nat} (hmax : capacity ≤ usizeMax) :
    i.hasCapacity capacity = true ↔ i.queue.length + i.reserved < capacity := by
  unfold hasCapacity usedSlots
  rw [decide_eq_true_iff]
  omega

end ChannelInner

namespace ChannelShared

variable {sh : ChannelShared α}

/-- `sh'` has the given data and the sender count and capacity of `sh`. -/
structure Becomes (sh sh' : ChannelShared α) (queue : List α) (reserved : Nat)
    (dropped : Bool) : Prop where
  queue : sh'.inner.queue = queue
  reserved : sh'.inner.reserved = reserved
  dropped : sh'.receiverDropped = dropped
  senderCount : sh'.senderCount = sh.senderCount
  capacity : sh'.capacity = sh.capacity

/-- The data of `sh` is unchanged in `sh'`. -/
abbrev Keeps (sh sh' : ChannelShared α) : Prop :=
  Becomes sh sh' sh.inner.queue sh.inner.reserved sh.receiverDropped

theorem keeps_refl (sh : ChannelShared α) : Keeps sh sh := ⟨rfl, rfl, rfl, rfl, rfl⟩

/-- Only the waiter bookkeeping differs. -/
theorem keeps_of_inner {sh' : ChannelShared α} (hq : sh'.inner.queue = sh.inner.queue)
    (hr : sh'.inner.reserved = sh.inner.reserved) (hd : sh'.receiverDropped = sh.receiverDropped)
    (hs : sh'.senderCount = sh.senderCount) (hc : sh'.capacity = sh.capacity) : Keeps sh sh' :=
  ⟨hq, hr, hd, hs, hc⟩

-- ======================================================= the senders

section Senders

variable {sh : ChannelShared α}

theorem tryReserve_ok (h : sh.tryReserve.1 = .ok ()) :
    sh.receiverDropped = false ∧ sh.inner.hasCapacity sh.capacity = true ∧
      Becomes sh sh.tryReserve.2 sh.inner.queue (sh.inner.reserved + 1) false := by
  cases hd : sh.receiverDropped
  · by_cases hw : sh.inner.pruneStaleWaiterFront.waiterQueue = []
    · by_cases hc : sh.inner.hasCapacity sh.capacity = true
      · refine ⟨rfl, hc, ?_⟩
        simp [tryReserve, ChannelInner.hasWaitingSender, hd, hw, hc]
        exact ⟨rfl, rfl, rfl, rfl, rfl⟩
      · simp [tryReserve, ChannelInner.hasWaitingSender, hd, hw, hc] at h
    · simp [tryReserve, ChannelInner.hasWaitingSender, hd, hw] at h
  · simp [tryReserve, hd] at h

theorem tryReserve_error {e : SendError Unit} (h : sh.tryReserve.1 = .error e) :
    Keeps sh sh.tryReserve.2 := by
  cases hd : sh.receiverDropped
  · by_cases hw : sh.inner.pruneStaleWaiterFront.waiterQueue = []
    · by_cases hc : sh.inner.hasCapacity sh.capacity = true
      · simp [tryReserve, ChannelInner.hasWaitingSender, hd, hw, hc] at h
      · simp [tryReserve, ChannelInner.hasWaitingSender, hd, hw, hc]
        exact keeps_of_inner rfl rfl hd.symm rfl rfl
    · simp [tryReserve, ChannelInner.hasWaitingSender, hd, hw]
      exact keeps_of_inner rfl rfl hd.symm rfl rfl
  · simp [tryReserve, hd]
    exact keeps_refl sh

theorem trySend_ok {v : α} (h : (sh.trySend v).1 = .ok ()) :
    sh.receiverDropped = false ∧ sh.inner.hasCapacity sh.capacity = true ∧
      Becomes sh (sh.trySend v).2 (sh.inner.queue ++ [v]) sh.inner.reserved false := by
  cases hd : sh.receiverDropped
  · by_cases hw : sh.inner.pruneStaleWaiterFront.waiterQueue = []
    · by_cases hc : sh.inner.hasCapacity sh.capacity = true
      · refine ⟨rfl, hc, ?_⟩
        simp [trySend, ChannelInner.hasWaitingSender, hd, hw, hc]
        exact ⟨rfl, rfl, rfl, rfl, rfl⟩
      · simp [trySend, ChannelInner.hasWaitingSender, hd, hw, hc] at h
    · simp [trySend, ChannelInner.hasWaitingSender, hd, hw] at h
  · simp [trySend, hd] at h

theorem trySend_error {v : α} {e : SendError α} (h : (sh.trySend v).1 = .error e) :
    e.value = v ∧ Keeps sh (sh.trySend v).2 := by
  cases hd : sh.receiverDropped
  · by_cases hw : sh.inner.pruneStaleWaiterFront.waiterQueue = []
    · by_cases hc : sh.inner.hasCapacity sh.capacity = true
      · simp [trySend, ChannelInner.hasWaitingSender, hd, hw, hc] at h
      · simp [trySend, ChannelInner.hasWaitingSender, hd, hw, hc] at h ⊢
        subst h
        exact ⟨rfl, keeps_of_inner rfl rfl hd.symm rfl rfl⟩
    · simp [trySend, ChannelInner.hasWaitingSender, hd, hw] at h ⊢
      subst h
      exact ⟨rfl, keeps_of_inner rfl rfl hd.symm rfl rfl⟩
  · simp [trySend, hd] at h ⊢
    subst h
    exact ⟨rfl, keeps_refl sh⟩

theorem sendEvictOldestWhere_fresh {v : α} {p : α → Bool}
    (h : (sh.sendEvictOldestWhere v p).1 = .ok none) :
    sh.receiverDropped = false ∧ sh.inner.hasCapacity sh.capacity = true ∧
      Becomes sh (sh.sendEvictOldestWhere v p).2 (sh.inner.queue ++ [v]) sh.inner.reserved false := by
  cases hd : sh.receiverDropped
  · by_cases hc : sh.inner.hasCapacity sh.capacity = true
    · by_cases hw : sh.inner.pruneStaleWaiterFront.waiterQueue = []
      · refine ⟨rfl, hc, ?_⟩
        simp [sendEvictOldestWhere, ChannelInner.hasWaitingSender, hd, hw, hc]
        exact ⟨rfl, rfl, rfl, rfl, rfl⟩
      · simp [sendEvictOldestWhere, ChannelInner.hasWaitingSender, hd, hw, hc] at h
    · unfold sendEvictOldestWhere at h
      simp only [hd, hc, Bool.false_eq_true, ↓reduceIte] at h
      split at h
      · simp at h
      · cases h
  · simp [sendEvictOldestWhere, hd] at h

/-- Without capacity, the oldest matching value is evicted: the queue keeps
its length. -/
theorem sendEvictOldestWhere_evict {v x : α} {p : α → Bool}
    (h : (sh.sendEvictOldestWhere v p).1 = .ok (some x)) :
    sh.receiverDropped = false ∧ ∃ i, ∃ hi : i < sh.inner.queue.length,
      x = sh.inner.queue.get ⟨i, hi⟩ ∧
        Becomes sh (sh.sendEvictOldestWhere v p).2 (sh.inner.queue.eraseIdx i ++ [v])
          sh.inner.reserved false := by
  cases hd : sh.receiverDropped
  · by_cases hc : sh.inner.hasCapacity sh.capacity = true
    · by_cases hw : sh.inner.pruneStaleWaiterFront.waiterQueue = []
      · simp [sendEvictOldestWhere, ChannelInner.hasWaitingSender, hd, hw, hc] at h
      · simp [sendEvictOldestWhere, ChannelInner.hasWaitingSender, hd, hw, hc] at h
    · unfold sendEvictOldestWhere at h ⊢
      simp only [hd, hc, Bool.false_eq_true, ↓reduceIte] at h ⊢
      split at h
      · rename_i index hi
        simp only [Except.ok.injEq, Option.some.injEq] at h
        exact ⟨trivial, index, (List.findIdx?_eq_some_iff_getElem.mp hi).1, h.symm,
          rfl, rfl, rfl, rfl, rfl⟩
      · cases h
  · simp [sendEvictOldestWhere, hd] at h

theorem sendEvictOldestWhere_error {v : α} {p : α → Bool} {e : SendError α}
    (h : (sh.sendEvictOldestWhere v p).1 = .error e) :
    e.value = v ∧ Keeps sh (sh.sendEvictOldestWhere v p).2 := by
  cases hd : sh.receiverDropped
  · by_cases hc : sh.inner.hasCapacity sh.capacity = true
    · by_cases hw : sh.inner.pruneStaleWaiterFront.waiterQueue = []
      · simp [sendEvictOldestWhere, ChannelInner.hasWaitingSender, hd, hw, hc] at h
      · simp [sendEvictOldestWhere, ChannelInner.hasWaitingSender, hd, hw, hc] at h ⊢
        subst h
        exact ⟨rfl, keeps_of_inner rfl rfl hd.symm rfl rfl⟩
    · unfold sendEvictOldestWhere at h ⊢
      simp only [hd, hc, Bool.false_eq_true, ↓reduceIte] at h ⊢
      split at h
      · cases h
      · simp only [Except.error.injEq] at h
        subst h
        exact ⟨rfl, keeps_refl sh⟩
  · simp [sendEvictOldestWhere, hd] at h ⊢
    subst h
    exact ⟨rfl, keeps_refl sh⟩

-- ====================================================== the futures

/-- Retiring a future's waiter moves only the waiter bookkeeping. -/
theorem cleanupWaiter_keeps (token : Option SlabToken) : Keeps sh (sh.cleanupWaiter token) := by
  cases token with
  | none => exact keeps_refl sh
  | some t =>
      simp only [cleanupWaiter]
      split
      · exact keeps_of_inner rfl rfl rfl rfl rfl
      · split
        · split
          · exact keeps_of_inner (by simp) (by simp) rfl rfl rfl
          · exact keeps_of_inner (by simp) (by simp) rfl rfl rfl
        · exact keeps_refl sh

/-- A future acquires a slot only on an open channel with a free slot. -/
theorem reservePoll_ok {token : Option SlabToken} {cancelled : Bool}
    (h : (sh.reservePoll token cancelled).1 = .Ready (.ok ())) :
    sh.receiverDropped = false ∧ sh.inner.hasCapacity sh.capacity = true ∧
      Becomes sh (sh.reservePoll token cancelled).2.2 sh.inner.queue (sh.inner.reserved + 1) false := by
  cases cancelled
  · cases hd : sh.receiverDropped
    · by_cases hfc : (sh.inner.isFirst token && sh.inner.hasCapacity sh.capacity) = true
      · refine ⟨rfl, (Bool.and_eq_true_iff.mp hfc).2, ?_⟩
        cases token <;> simp [reservePoll, hd, hfc] <;> exact ⟨by simp, by simp, rfl, rfl, rfl⟩
      · -- the pending branch: with or without a token it answers `Pending`
        simp [reservePoll, hd, hfc] at h
        cases token <;> simp at h
    · simp [reservePoll, hd] at h
  · simp [reservePoll] at h

/-- A cancelled, disconnected or pending poll moves only the waiter
bookkeeping. -/
theorem reservePoll_keeps {token : Option SlabToken} {cancelled : Bool}
    (h : (sh.reservePoll token cancelled).1 ≠ .Ready (.ok ())) :
    Keeps sh (sh.reservePoll token cancelled).2.2 := by
  cases cancelled
  · cases hd : sh.receiverDropped
    · by_cases hfc : (sh.inner.isFirst token && sh.inner.hasCapacity sh.capacity) = true
      · simp [reservePoll, hd, hfc] at h
        cases token <;> simp at h
      · cases token
        · simp [reservePoll, hd, hfc]
          exact keeps_of_inner rfl rfl hd.symm rfl rfl
        · simp [reservePoll, hd, hfc]
          exact keeps_refl sh
    · simp [reservePoll, hd]
      exact keeps_refl sh
  · simp [reservePoll]
    exact cleanupWaiter_keeps token

theorem reserveDrop_keeps (token : Option SlabToken) : Keeps sh (sh.reserveDrop token) :=
  cleanupWaiter_keeps token

-- ====================================================== the permits

theorem permitTrySend_ok {v : α} (h : (sh.permitTrySend v).1 = .ok ()) :
    sh.receiverDropped = false ∧
      Becomes sh (sh.permitTrySend v).2 (sh.inner.queue ++ [v]) (sh.inner.reserved - 1) false := by
  cases hd : sh.receiverDropped
  · simp [permitTrySend, hd]
    exact ⟨rfl, rfl, rfl, rfl, rfl⟩
  · simp [permitTrySend, hd] at h

/-- A permit's send fails only on a closed channel, and still gives the
slot back. -/
theorem permitTrySend_error {v : α} {e : SendError α} (h : (sh.permitTrySend v).1 = .error e) :
    e.value = v ∧ sh.receiverDropped = true ∧
      Becomes sh (sh.permitTrySend v).2 sh.inner.queue (sh.inner.reserved - 1) true := by
  cases hd : sh.receiverDropped
  · simp [permitTrySend, hd] at h
  · simp [permitTrySend, hd] at h ⊢
    subst h
    exact ⟨rfl, rfl, rfl, rfl, rfl, rfl⟩

/-- `abort` and an unsent permit's `Drop` give the slot back. -/
theorem releasePermit_becomes (sh : ChannelShared α) :
    Becomes sh sh.releasePermit sh.inner.queue (sh.inner.reserved - 1) sh.receiverDropped :=
  ⟨rfl, rfl, rfl, rfl, rfl⟩

end Senders

-- ======================================================= the receiver

section Receiver

variable {sh : ChannelShared α}

/-- `close` seals the channel and keeps every queued value. -/
theorem close_becomes (sh : ChannelShared α) :
    Becomes sh sh.close sh.inner.queue sh.inner.reserved true := by
  unfold close
  cases hd : sh.receiverDropped
  · exact ⟨rfl, rfl, rfl, rfl, rfl⟩
  · exact ⟨rfl, rfl, hd, rfl, rfl⟩

/-- A value received is the front of the queue. -/
theorem tryRecv_ok {v : α} (h : sh.tryRecv.1 = .ok v) :
    sh.inner.queue.take 1 = [v] ∧
      Becomes sh sh.tryRecv.2 (sh.inner.queue.drop 1) sh.inner.reserved sh.receiverDropped := by
  unfold tryRecv at h ⊢
  split at h
  · rename_i value rest hq
    simp only [Except.ok.injEq] at h
    subst h
    simp only [hq]
    exact ⟨rfl, rfl, rfl, rfl, rfl, rfl⟩
  · cases h

/-- A failed receive changes nothing, and reports `Disconnected` only on an
empty, disconnected channel. -/
theorem tryRecv_error {e : RecvError} (h : sh.tryRecv.1 = .error e) :
    sh.tryRecv.2 = sh ∧ sh.inner.queue = [] ∧ (e = .Disconnected → sh.disconnected = true) := by
  unfold tryRecv at h ⊢
  split at h
  · cases h
  · rename_i hq
    simp only [Except.error.injEq] at h
    subst h
    refine ⟨rfl, hq, ?_⟩
    cases sh.disconnected <;> simp

theorem pollRecv_ok {c : Bool} {v : α} (h : (sh.pollRecv c).1 = .Ready (.ok v)) :
    sh.inner.queue.take 1 = [v] ∧
      Becomes sh (sh.pollRecv c).2 (sh.inner.queue.drop 1) sh.inner.reserved sh.receiverDropped := by
  cases c
  · unfold pollRecv at h ⊢
    simp only [Bool.false_eq_true, ↓reduceIte] at h ⊢
    split at h
    · rename_i value rest hq
      simp only [Poll.Ready.injEq, Except.ok.injEq] at h
      subst h
      simp only [hq]
      exact ⟨rfl, rfl, rfl, rfl, rfl, rfl⟩
    · split at h <;> cases h
  · simp [pollRecv] at h

/-- A poll that hands out no value changes nothing, and reports
`Disconnected` only on an empty, disconnected channel. -/
theorem pollRecv_other {c : Bool} (h : ∀ v, (sh.pollRecv c).1 ≠ .Ready (.ok v)) :
    (sh.pollRecv c).2 = sh ∧
      ((sh.pollRecv c).1 = .Ready (.error .Disconnected) →
        sh.inner.queue = [] ∧ sh.disconnected = true) := by
  cases c
  · cases hq : sh.inner.queue with
    | cons value rest => simp [pollRecv, hq] at h
    | nil =>
        cases hdis : sh.disconnected
        · simp [pollRecv, hq, hdis]
        · simp [pollRecv, hq, hdis]
  · simp [pollRecv]

theorem pollRecvMany_ok {limit : Nat} {c : Bool} {vs : List α}
    (h : (sh.pollRecvMany limit c).1 = .Ready (.ok vs)) :
    ∃ n, vs = sh.inner.queue.take n ∧
      Becomes sh (sh.pollRecvMany limit c).2 (sh.inner.queue.drop n) sh.inner.reserved
        sh.receiverDropped := by
  unfold pollRecvMany at h ⊢
  by_cases hl : limit = 0
  · simp only [hl, ↓reduceIte, Poll.Ready.injEq, Except.ok.injEq] at h ⊢
    exact ⟨0, by simp [h], rfl, rfl, rfl, rfl, rfl⟩
  · cases c
    · simp only [hl, Bool.false_eq_true, ↓reduceIte] at h ⊢
      by_cases ht : 0 < min limit sh.inner.queue.length
      · simp only [ht, ↓reduceIte, Poll.Ready.injEq, Except.ok.injEq] at h ⊢
        exact ⟨_, h.symm, by simp, by simp, rfl, rfl, rfl⟩
      · by_cases hdis : sh.disconnected = true
        · simp only [ht, hdis, ↓reduceIte, Poll.Ready.injEq, Except.ok.injEq] at h ⊢
          exact ⟨0, by simp [h], rfl, rfl, rfl, rfl, rfl⟩
        · simp only [ht, hdis, ↓reduceIte] at h
          cases h
    · simp [hl] at h

theorem pollRecvMany_other {limit : Nat} {c : Bool}
    (h : ∀ vs, (sh.pollRecvMany limit c).1 ≠ .Ready (.ok vs)) :
    (sh.pollRecvMany limit c).2 = sh := by
  unfold pollRecvMany at h ⊢
  by_cases hl : limit = 0
  · simp only [hl, ↓reduceIte]
  · cases c
    · simp only [hl, Bool.false_eq_true, ↓reduceIte] at h ⊢
      by_cases ht : 0 < min limit sh.inner.queue.length
      · simp only [ht, ↓reduceIte] at h
        exact (h _ rfl).elim
      · simp only [ht, ↓reduceIte]
        split <;> rfl
    · simp [hl]

end Receiver

-- ========================================================= sender handles

@[simp] theorem senderClone_inner (sh : ChannelShared α) : sh.senderClone.inner = sh.inner := rfl
@[simp] theorem senderClone_receiverDropped (sh : ChannelShared α) :
    sh.senderClone.receiverDropped = sh.receiverDropped := rfl
@[simp] theorem senderClone_capacity (sh : ChannelShared α) :
    sh.senderClone.capacity = sh.capacity := rfl
@[simp] theorem senderClone_senderCount (sh : ChannelShared α) :
    sh.senderClone.senderCount = sh.senderCount + 1 := rfl
@[simp] theorem senderDrop_inner (sh : ChannelShared α) : sh.senderDrop.inner = sh.inner := rfl
@[simp] theorem senderDrop_receiverDropped (sh : ChannelShared α) :
    sh.senderDrop.receiverDropped = sh.receiverDropped := rfl
@[simp] theorem senderDrop_capacity (sh : ChannelShared α) :
    sh.senderDrop.capacity = sh.capacity := rfl
@[simp] theorem senderDrop_senderCount (sh : ChannelShared α) :
    sh.senderDrop.senderCount = sh.senderCount - 1 := rfl

end ChannelShared

end Asupersync
