/-
The two-phase MPSC channel never loses, duplicates, reorders or
over-admits a message, over every run of its clients' calls.

# The invariant

`Inv capacity s` ties the channel's data to the clients' handles and to
the history:

- the queue and the reservations fit the capacity, and `reserved` is the
  number of live `SendPermit`s;
- the sender count is the number of live senders, every future and permit
  borrows a live sender, and permit handles are fresh;
- `Accounted committed delivered queue evicted` (`Queue/Accounts.lean`):
  what the receiver got, then what waits, is what was committed, in
  order, less the evicted values;
- once a receive reported `Disconnected`, the queue is empty and stays so.

# After the close

`AfterClose s s'` says that if the channel was closed at `s`, then at the
later `s'` it still is, nothing more was committed, evicted or granted,
and `delivered ++ queue` is unchanged: every value committed before the
close is delivered, in order. It is transitive, so every pair of states of
a run is related.

# Method

Each call gets one lemma `stepOk_*` that inverts its branch of `step`,
reads the channel's part off the spec lemmas of `MpscSpec.lean`, and
assembles the new state's facts from one of a few shapes (`keeps`,
`acquire`, `commit`, `release`, `receive`): no proof here unfolds a
channel operation.
-/
import Asupersync.Channel.MpscSystem
import Asupersync.Proofs.Channel.MpscSpec
import Asupersync.Queue.Accounts
import Asupersync.Store.Handles
import Asupersync.Machine.Exec

namespace Asupersync

namespace MpscSystem

open ChannelShared

variable {α : Type}

-- ================================================================ invariant

/-- The invariant of every reachable system of a channel of `capacity`. -/
structure Inv (capacity : Nat) (s : MpscSystem α) : Prop where
  capacity_eq : s.shared.capacity = capacity
  bound : s.shared.inner.queue.length + s.shared.inner.reserved ≤ capacity
  reserved : s.shared.inner.reserved = s.permits.length
  senderCount : s.shared.senderCount = s.senders.length
  permitsBorrow : ∀ p ∈ s.permits, p.sender ∈ s.senders
  futuresBorrow : ∀ f ∈ s.reserves, f.sender ∈ s.senders
  permitKeys : FreshKeys PermitHandle.id s.permits s.nextHandle
  accounted : Accounted s.committed s.delivered s.shared.inner.queue s.evicted
  disconnect : s.disconnectSeen = true →
    s.shared.inner.queue = [] ∧ (s.shared.receiverDropped = true ∨ s.senders = [])

theorem inv_init (capacity : Nat) : Inv capacity (init capacity : MpscSystem α) where
  capacity_eq := rfl
  bound := Nat.zero_le _
  reserved := rfl
  senderCount := rfl
  permitsBorrow := by simp [init]
  futuresBorrow := by simp [init]
  permitKeys := FreshKeys.nil 1
  accounted := Accounted.nil
  disconnect := by simp [init]

/-- What a closed channel keeps from `s` to the later `s'`. -/
structure Sealed (s s' : MpscSystem α) : Prop where
  dropped : s'.shared.receiverDropped = true
  committed : s'.committed = s.committed
  evicted : s'.evicted = s.evicted
  granted : s'.granted = s.granted
  pending : s'.delivered ++ s'.shared.inner.queue = s.delivered ++ s.shared.inner.queue

/-- If the channel is closed at `s`, it is sealed from `s` to `s'`. -/
def AfterClose (s s' : MpscSystem α) : Prop :=
  s.shared.receiverDropped = true → Sealed s s'

theorem AfterClose.trans {s₁ s₂ s₃ : MpscSystem α} (h₁ : AfterClose s₁ s₂)
    (h₂ : AfterClose s₂ s₃) : AfterClose s₁ s₃ := by
  intro hd
  have a := h₁ hd
  have b := h₂ a.dropped
  exact ⟨b.dropped, b.committed.trans a.committed, b.evicted.trans a.evicted,
    b.granted.trans a.granted, b.pending.trans a.pending⟩

instance : IsTrans (MpscSystem α) AfterClose := ⟨fun _ _ _ => AfterClose.trans⟩

/-- A step from an open channel is related to every later state. -/
theorem afterClose_of_open {s s' : MpscSystem α} (h : s.shared.receiverDropped = false) :
    AfterClose s s' := by
  intro hd
  rw [h] at hd
  cases hd

/-- What one step establishes. -/
structure StepOk (capacity : Nat) (s s' : MpscSystem α) : Prop where
  inv : Inv capacity s'
  afterClose : AfterClose s s'

-- ================================================================== shapes

section Shapes

variable {capacity : Nat} {s : MpscSystem α} {sh' : ChannelShared α}

/-- Below `usize::MAX`, a capacity test that passed leaves a free slot. -/
theorem Inv.lt_of_hasCapacity (hi : Inv capacity s) (hcap : capacity ≤ usizeMax)
    (hc : s.shared.inner.hasCapacity s.shared.capacity = true) :
    s.shared.inner.queue.length + s.shared.inner.reserved < capacity := by
  rw [hi.capacity_eq] at hc
  exact (ChannelInner.hasCapacity_iff _ hcap).mp hc

/-- A live permit holds a reservation. -/
theorem Inv.reserved_pos (hi : Inv capacity s) {k : Nat} {p : PermitHandle}
    (hp : s.permit? k = some p) : 0 < s.shared.inner.reserved := by
  rw [hi.reserved]
  exact List.length_pos_of_mem (List.mem_of_find?_eq_some hp)

/-- Consuming a live permit drops exactly that one. -/
theorem Inv.length_dropPermit (hi : Inv capacity s) {k : Nat} {p : PermitHandle}
    (hp : s.permit? k = some p) : (s.dropPermit k).permits.length + 1 = s.permits.length :=
  length_filter_key_ne PermitHandle.id hi.permitKeys.nodup hp

/-- The channel's data is unchanged; futures may come and go. -/
theorem stepOk_keeps (hi : Inv capacity s) (hk : Keeps s.shared sh') {rs : List ReserveFuture}
    (hrs : ∀ f ∈ rs, f.sender ∈ s.senders) {n : Nat} (hn : s.nextHandle ≤ n) :
    StepOk capacity s { s with shared := sh', reserves := rs, nextHandle := n } := by
  refine ⟨⟨?_, ?_, ?_, ?_, hi.permitsBorrow, hrs, hi.permitKeys.mono hn, ?_, ?_⟩, ?_⟩
  · exact hk.capacity.trans hi.capacity_eq
  · simpa only [hk.queue, hk.reserved] using hi.bound
  · exact hk.reserved.trans hi.reserved
  · exact hk.senderCount.trans hi.senderCount
  · simpa only [hk.queue] using hi.accounted
  · simpa only [hk.queue, hk.dropped] using hi.disconnect
  · intro hd
    exact ⟨hk.dropped.trans hd, rfl, rfl, rfl, by simp only [hk.queue]⟩

/-- A reservation granted below capacity mints a permit for a live sender. -/
theorem stepOk_acquire (hi : Inv capacity s) (hcap : capacity ≤ usizeMax)
    (hd : s.shared.receiverDropped = false)
    (hc : s.shared.inner.hasCapacity s.shared.capacity = true)
    (hb : Becomes s.shared sh' s.shared.inner.queue (s.shared.inner.reserved + 1) false)
    {rs : List ReserveFuture} (hrs : ∀ f ∈ rs, f.sender ∈ s.senders) {sender : Nat}
    (hmem : sender ∈ s.senders) :
    StepOk capacity s ({ s with shared := sh', reserves := rs }.mint sender) := by
  have hlt := hi.lt_of_hasCapacity hcap hc
  refine ⟨⟨?_, ?_, ?_, ?_, ?_, hrs, ?_, ?_, ?_⟩, ?_⟩
  · exact hb.capacity.trans hi.capacity_eq
  · simp only [mint, hb.queue, hb.reserved]
    omega
  · simp [mint, hb.reserved, hi.reserved]
  · exact hb.senderCount.trans hi.senderCount
  · -- the new permit borrows the sender the call was made through
    intro p hp
    rcases List.mem_append.mp hp with hp | hp
    · exact hi.permitsBorrow p hp
    · rw [List.mem_singleton.mp hp]
      exact hmem
  · exact hi.permitKeys.append rfl
  · simpa only [mint, hb.queue] using hi.accounted
  · simpa only [mint, hb.queue, hb.dropped, hd] using hi.disconnect
  · exact afterClose_of_open hd

/-- With the channel open, a live sender means no receive reported
`Disconnected`. -/
theorem Inv.disconnectSeen_false (hi : Inv capacity s) (hd : s.shared.receiverDropped = false)
    {sender : Nat} (hmem : sender ∈ s.senders) : s.disconnectSeen = false := by
  cases hds : s.disconnectSeen
  · rfl
  · obtain ⟨-, hor⟩ := hi.disconnect hds
    rcases hor with hdrop | hnil
    · rw [hd] at hdrop
      cases hdrop
    · rw [hnil] at hmem
      cases hmem

/-- A value committed below capacity joins the back of the queue. -/
theorem stepOk_commit (hi : Inv capacity s) (hcap : capacity ≤ usizeMax)
    (hd : s.shared.receiverDropped = false)
    (hc : s.shared.inner.hasCapacity s.shared.capacity = true) {v : α}
    (hb : Becomes s.shared sh' (s.shared.inner.queue ++ [v]) s.shared.inner.reserved false)
    {sender : Nat} (hmem : sender ∈ s.senders) :
    StepOk capacity s ({ s with shared := sh' }.commit v) := by
  have hlt := hi.lt_of_hasCapacity hcap hc
  have hds := hi.disconnectSeen_false hd hmem
  refine ⟨⟨?_, ?_, ?_, ?_, hi.permitsBorrow, hi.futuresBorrow, hi.permitKeys, ?_, ?_⟩, ?_⟩
  · exact hb.capacity.trans hi.capacity_eq
  · simp only [commit, hb.queue, hb.reserved, List.length_append, List.length_singleton]
    omega
  · exact hb.reserved.trans hi.reserved
  · exact hb.senderCount.trans hi.senderCount
  · simpa only [commit, hb.queue] using hi.accounted.push v
  · intro h
    rw [hds] at h
    cases h
  · exact afterClose_of_open hd

/-- Without a free slot, the value at index `i` makes room: the queue keeps
its length, and the evicted value is accounted as removed. -/
theorem stepOk_evict (hi : Inv capacity s) (hd : s.shared.receiverDropped = false) {v : α}
    {i : Nat} (hlt : i < s.shared.inner.queue.length)
    (hb : Becomes s.shared sh' (s.shared.inner.queue.eraseIdx i ++ [v]) s.shared.inner.reserved
      false)
    {sender : Nat} (hmem : sender ∈ s.senders) :
    StepOk capacity s { { s with shared := sh' }.commit v with
      evicted := s.evicted ++ [s.shared.inner.queue.get ⟨i, hlt⟩] } := by
  have hds := hi.disconnectSeen_false hd hmem
  have hlen : (s.shared.inner.queue.eraseIdx i ++ [v]).length = s.shared.inner.queue.length := by
    rw [List.length_append, List.length_eraseIdx_of_lt hlt, List.length_singleton]
    omega
  refine ⟨⟨?_, ?_, ?_, ?_, hi.permitsBorrow, hi.futuresBorrow, hi.permitKeys, ?_, ?_⟩, ?_⟩
  · exact hb.capacity.trans hi.capacity_eq
  · simpa only [commit, hb.queue, hb.reserved, hlen] using hi.bound
  · exact hb.reserved.trans hi.reserved
  · exact hb.senderCount.trans hi.senderCount
  · simpa only [commit, hb.queue] using (hi.accounted.eraseIdx hlt).push v
  · intro h
    rw [hds] at h
    cases h
  · exact afterClose_of_open hd

/-- A live permit's value joins the back of the queue in its own slot. -/
theorem stepOk_permitCommit (hi : Inv capacity s) (hd : s.shared.receiverDropped = false)
    {k : Nat} {p : PermitHandle} (hp : s.permit? k = some p) {v : α}
    (hb : Becomes s.shared sh' (s.shared.inner.queue ++ [v]) (s.shared.inner.reserved - 1) false) :
    StepOk capacity s (({ s with shared := sh' }.dropPermit k).commit v) := by
  have hpos := hi.reserved_pos hp
  have hdrop := hi.length_dropPermit hp
  have hmem := hi.permitsBorrow p (List.mem_of_find?_eq_some hp)
  have hds := hi.disconnectSeen_false hd hmem
  refine ⟨⟨?_, ?_, ?_, ?_, ?_, hi.futuresBorrow, ?_, ?_, ?_⟩, ?_⟩
  · exact hb.capacity.trans hi.capacity_eq
  · simp only [commit, dropPermit, hb.queue, hb.reserved, List.length_append,
      List.length_singleton]
    have := hi.bound
    omega
  · simp only [commit, dropPermit, dropPermit] at hdrop ⊢
    rw [hb.reserved, hi.reserved]
    omega
  · exact hb.senderCount.trans hi.senderCount
  · exact fun q hq => hi.permitsBorrow q (List.mem_of_mem_filter hq)
  · exact hi.permitKeys.filter _
  · simpa only [commit, dropPermit, hb.queue] using hi.accounted.push v
  · intro h
    rw [hds] at h
    cases h
  · exact afterClose_of_open hd

/-- A live permit consumed without a value gives its slot back. -/
theorem stepOk_release (hi : Inv capacity s) {k : Nat} {p : PermitHandle}
    (hp : s.permit? k = some p)
    (hb : Becomes s.shared sh' s.shared.inner.queue (s.shared.inner.reserved - 1)
      s.shared.receiverDropped) :
    StepOk capacity s ({ s with shared := sh' }.dropPermit k) := by
  have hdrop := hi.length_dropPermit hp
  refine ⟨⟨?_, ?_, ?_, ?_, ?_, hi.futuresBorrow, ?_, ?_, ?_⟩, ?_⟩
  · exact hb.capacity.trans hi.capacity_eq
  · simp only [dropPermit, hb.queue, hb.reserved]
    have := hi.bound
    omega
  · simp only [dropPermit] at hdrop ⊢
    rw [hb.reserved, hi.reserved]
    omega
  · exact hb.senderCount.trans hi.senderCount
  · exact fun q hq => hi.permitsBorrow q (List.mem_of_mem_filter hq)
  · exact hi.permitKeys.filter _
  · simpa only [dropPermit, hb.queue] using hi.accounted
  · simpa only [dropPermit, hb.queue, hb.dropped] using hi.disconnect
  · intro hd
    exact ⟨hb.dropped.trans hd, rfl, rfl, rfl, by simp only [dropPermit, hb.queue]⟩

/-- The receiver takes the first `n` queued values. -/
theorem stepOk_receive (hi : Inv capacity s) {n : Nat} {vs : List α}
    (hvs : vs = s.shared.inner.queue.take n)
    (hb : Becomes s.shared sh' (s.shared.inner.queue.drop n) s.shared.inner.reserved
      s.shared.receiverDropped) :
    StepOk capacity s ({ s with shared := sh' }.deliver vs) := by
  subst hvs
  refine ⟨⟨?_, ?_, ?_, ?_, hi.permitsBorrow, hi.futuresBorrow, hi.permitKeys, ?_, ?_⟩, ?_⟩
  · exact hb.capacity.trans hi.capacity_eq
  · simp only [deliver, hb.queue, hb.reserved, List.length_drop]
    have := hi.bound
    omega
  · exact hb.reserved.trans hi.reserved
  · exact hb.senderCount.trans hi.senderCount
  · simpa only [deliver, hb.queue] using hi.accounted.take n
  · -- an empty queue stays empty
    intro h
    obtain ⟨hq, hor⟩ := hi.disconnect h
    simp only [deliver, hb.queue, hb.dropped, hq, List.drop_nil]
    exact ⟨trivial, hor⟩
  · intro hd
    refine ⟨hb.dropped.trans hd, rfl, rfl, rfl, ?_⟩
    simp only [deliver, hb.queue, List.append_assoc, List.take_append_drop]

/-- A receive reports `Disconnected` on an empty, disconnected channel. -/
theorem stepOk_disconnect (hi : Inv capacity s) (hq : s.shared.inner.queue = [])
    (hdis : s.shared.disconnected = true) :
    StepOk capacity s { s with disconnectSeen := true } := by
  refine ⟨⟨hi.capacity_eq, hi.bound, hi.reserved, hi.senderCount, hi.permitsBorrow,
    hi.futuresBorrow, hi.permitKeys, hi.accounted, ?_⟩, fun hd => ⟨hd, rfl, rfl, rfl, rfl⟩⟩
  intro _
  refine ⟨hq, ?_⟩
  -- `sender_count == 0` is the last sender gone
  simp only [disconnected, Bool.or_eq_true, beq_iff_eq, hi.senderCount,
    List.length_eq_zero_iff] at hdis
  exact hdis.symm

/-- `close` seals the channel. -/
theorem stepOk_close (hi : Inv capacity s) :
    StepOk capacity s { s with shared := s.shared.close } := by
  have hb := close_becomes s.shared
  refine ⟨⟨?_, ?_, ?_, ?_, hi.permitsBorrow, hi.futuresBorrow, hi.permitKeys, ?_, ?_⟩, ?_⟩
  · exact hb.capacity.trans hi.capacity_eq
  · simpa only [hb.queue, hb.reserved] using hi.bound
  · exact hb.reserved.trans hi.reserved
  · exact hb.senderCount.trans hi.senderCount
  · simpa only [hb.queue] using hi.accounted
  · intro h
    exact ⟨by simpa only [hb.queue] using (hi.disconnect h).1, Or.inl hb.dropped⟩
  · intro _
    exact ⟨hb.dropped, rfl, rfl, rfl, by simp only [hb.queue]⟩

/-- A clone of a live sender is a new live sender. -/
theorem stepOk_senderClone (hi : Inv capacity s) {sender : Nat} (hmem : sender ∈ s.senders) :
    StepOk capacity s
      { s with shared := s.shared.senderClone, senders := s.senders ++ [s.nextHandle],
               nextHandle := s.nextHandle + 1 } := by
  refine ⟨⟨hi.capacity_eq, hi.bound, hi.reserved, ?_, ?_, ?_, hi.permitKeys.mono
    (Nat.le_succ _), hi.accounted, ?_⟩, fun hd => ⟨hd, rfl, rfl, rfl, rfl⟩⟩
  · simp [hi.senderCount]
  · exact fun p hp => List.mem_append_left _ (hi.permitsBorrow p hp)
  · exact fun f hf => List.mem_append_left _ (hi.futuresBorrow f hf)
  · -- a live sender rules out the `senders = []` reason
    intro h
    obtain ⟨hq, hor⟩ := hi.disconnect h
    refine ⟨hq, Or.inl ?_⟩
    rcases hor with hdrop | hnil
    · exact hdrop
    · rw [hnil] at hmem
      cases hmem

/-- A sender no future or permit borrows can be dropped. -/
theorem stepOk_senderDrop (hi : Inv capacity s) {sender : Nat} (hmem : sender ∈ s.senders)
    (hfree : s.borrowed sender = false) :
    StepOk capacity s
      { s with shared := s.shared.senderDrop, senders := s.senders.erase sender } := by
  simp only [borrowed, Bool.or_eq_false_iff, List.any_eq_false, beq_iff_eq] at hfree
  refine ⟨⟨hi.capacity_eq, hi.bound, hi.reserved, ?_, ?_, ?_, hi.permitKeys, hi.accounted, ?_⟩,
    fun hd => ⟨hd, rfl, rfl, rfl, rfl⟩⟩
  · simp [hi.senderCount, List.length_erase_of_mem hmem]
  · exact fun p hp => (List.mem_erase_of_ne (hfree.2 p hp)).mpr (hi.permitsBorrow p hp)
  · exact fun f hf => (List.mem_erase_of_ne (hfree.1 f hf)).mpr (hi.futuresBorrow f hf)
  · intro h
    obtain ⟨hq, hor⟩ := hi.disconnect h
    refine ⟨hq, Or.inl ?_⟩
    rcases hor with hdrop | hnil
    · exact hdrop
    · rw [hnil] at hmem
      cases hmem

end Shapes

-- ==================================================================== steps

section Steps

variable {capacity : Nat} {s s' : MpscSystem α} {o : MpscOutput α}

theorem stepOk_tryReserve (hi : Inv capacity s) (hcap : capacity ≤ usizeMax) {sender : Nat}
    (h : s.step (.tryReserve sender) = some (o, s')) : StepOk capacity s s' := by
  simp only [step] at h
  split at h
  · rename_i hmem
    split at h
    · rename_i hok
      obtain ⟨hd, hc, hb⟩ := tryReserve_ok hok
      cases h
      exact stepOk_acquire hi hcap hd hc hb hi.futuresBorrow (List.contains_iff_mem.mp hmem)
    · rename_i e he
      cases h
      exact stepOk_keeps hi (tryReserve_error he) hi.futuresBorrow le_rfl
  · cases h

theorem stepOk_trySend (hi : Inv capacity s) (hcap : capacity ≤ usizeMax) {sender : Nat} {v : α}
    (h : s.step (.trySend sender v) = some (o, s')) : StepOk capacity s s' := by
  simp only [step] at h
  split at h
  · rename_i hmem
    split at h
    · rename_i hok
      obtain ⟨hd, hc, hb⟩ := trySend_ok hok
      cases h
      exact stepOk_commit hi hcap hd hc hb (List.contains_iff_mem.mp hmem)
    · rename_i e he
      cases h
      exact stepOk_keeps hi (trySend_error he).2 hi.futuresBorrow le_rfl
  · cases h

theorem stepOk_sendEvictOldestWhere (hi : Inv capacity s) (hcap : capacity ≤ usizeMax)
    {sender : Nat} {v : α} {p : α → Bool}
    (h : s.step (.sendEvictOldestWhere sender v p) = some (o, s')) : StepOk capacity s s' := by
  simp only [step] at h
  split at h
  · rename_i hmem
    have hmem' := List.contains_iff_mem.mp hmem
    split at h
    · rename_i evicted hok
      cases evicted with
      | none =>
          obtain ⟨hd, hc, hb⟩ := sendEvictOldestWhere_fresh hok
          cases h
          -- nothing was evicted
          simp only [Option.toList_none, List.append_nil]
          exact stepOk_commit hi hcap hd hc hb hmem'
      | some x =>
          obtain ⟨hd, i, hlt, rfl, hb⟩ := sendEvictOldestWhere_evict hok
          cases h
          exact stepOk_evict hi hd hlt hb hmem'
    · rename_i e he
      cases h
      exact stepOk_keeps hi (sendEvictOldestWhere_error he).2 hi.futuresBorrow le_rfl
  · cases h

theorem stepOk_reserve (hi : Inv capacity s) {sender : Nat}
    (h : s.step (.reserve sender) = some (o, s')) : StepOk capacity s s' := by
  simp only [step] at h
  split at h
  · rename_i hmem
    cases h
    -- the new future borrows the sender the call was made through
    refine stepOk_keeps hi (keeps_refl _) ?_ (Nat.le_succ _)
    intro f hf
    rcases List.mem_append.mp hf with hf | hf
    · exact hi.futuresBorrow f hf
    · rw [List.mem_singleton.mp hf]
      exact List.contains_iff_mem.mp hmem
  · cases h

/-- Dropping a future keeps every other future's borrow. -/
theorem futuresBorrow_dropFuture (hi : Inv capacity s) (future : Nat) :
    ∀ f ∈ (s.dropFuture future).reserves, f.sender ∈ s.senders :=
  fun f hf => hi.futuresBorrow f (List.mem_of_mem_filter hf)

theorem stepOk_reservePoll (hi : Inv capacity s) (hcap : capacity ≤ usizeMax) {future : Nat}
    {cancelled : Bool} (h : s.step (.reservePoll future cancelled) = some (o, s')) :
    StepOk capacity s s' := by
  simp only [step] at h
  split at h
  · cases h
  · rename_i f hf
    have hsender := hi.futuresBorrow f (List.mem_of_find?_eq_some hf)
    split at h
    · rename_i hok
      obtain ⟨hd, hc, hb⟩ := reservePoll_ok hok
      cases h
      exact stepOk_acquire hi hcap hd hc hb (futuresBorrow_dropFuture hi future) hsender
    · rename_i e he
      cases h
      exact stepOk_keeps hi (reservePoll_keeps (by rw [he]; simp))
        (futuresBorrow_dropFuture hi future) le_rfl
    · rename_i hp
      cases h
      -- the pending future keeps its sender and records its token
      refine stepOk_keeps hi (reservePoll_keeps (by rw [hp]; simp)) ?_ le_rfl
      intro g hg
      obtain ⟨g₀, hg₀, rfl⟩ := List.mem_map.mp hg
      split
      · exact hi.futuresBorrow g₀ hg₀
      · exact hi.futuresBorrow g₀ hg₀

theorem stepOk_reserveDrop (hi : Inv capacity s) {future : Nat}
    (h : s.step (.reserveDrop future) = some (o, s')) : StepOk capacity s s' := by
  simp only [step] at h
  split at h
  · cases h
  · rename_i f hf
    cases h
    exact stepOk_keeps hi (reserveDrop_keeps f.waiterToken) (futuresBorrow_dropFuture hi future)
      le_rfl

theorem stepOk_permitSend (hi : Inv capacity s) {permit : Nat} {v : α}
    (h : s.step (.permitSend permit v) = some (o, s')) : StepOk capacity s s' := by
  simp only [step] at h
  split at h
  · cases h
  · rename_i p hp
    split at h
    · rename_i hok
      obtain ⟨hd, hb⟩ := permitTrySend_ok hok
      cases h
      exact stepOk_permitCommit hi hd hp hb
    · rename_i e he
      obtain ⟨-, hd, hb⟩ := permitTrySend_error he
      cases h
      rw [← hd] at hb
      exact stepOk_release hi hp hb

theorem stepOk_permitAbort (hi : Inv capacity s) {permit : Nat}
    (h : s.step (.permitAbort permit) = some (o, s')) : StepOk capacity s s' := by
  simp only [step] at h
  split at h
  · cases h
  · rename_i p hp
    cases h
    exact stepOk_release hi hp (releasePermit_becomes s.shared)

theorem stepOk_permitDrop (hi : Inv capacity s) {permit : Nat}
    (h : s.step (.permitDrop permit) = some (o, s')) : StepOk capacity s s' := by
  simp only [step] at h
  split at h
  · cases h
  · rename_i p hp
    cases h
    exact stepOk_release hi hp (releasePermit_becomes s.shared)

theorem stepOk_tryRecv (hi : Inv capacity s) (h : s.step .tryRecv = some (o, s')) :
    StepOk capacity s s' := by
  simp only [step] at h
  split at h
  · rename_i v hv
    obtain ⟨htake, hb⟩ := tryRecv_ok hv
    cases h
    exact stepOk_receive hi htake.symm hb
  · rename_i hv
    obtain ⟨hsh, hq, hdis⟩ := tryRecv_error hv
    cases h
    rw [hsh]
    exact stepOk_disconnect hi hq (hdis rfl)
  · rename_i e _ hv
    obtain ⟨hsh, -, -⟩ := tryRecv_error hv
    cases h
    rw [hsh]
    exact stepOk_keeps hi (keeps_refl _) hi.futuresBorrow le_rfl

theorem stepOk_pollRecv (hi : Inv capacity s) {cancelled : Bool}
    (h : s.step (.pollRecv cancelled) = some (o, s')) : StepOk capacity s s' := by
  simp only [step] at h
  split at h
  · rename_i v hv
    obtain ⟨htake, hb⟩ := pollRecv_ok hv
    cases h
    exact stepOk_receive hi htake.symm hb
  · rename_i hv
    obtain ⟨hsh, hdis⟩ := pollRecv_other (by rw [hv]; simp)
    obtain ⟨hq, hdis⟩ := hdis hv
    cases h
    rw [hsh]
    exact stepOk_disconnect hi hq hdis
  · rename_i hv _
    obtain ⟨hsh, -⟩ := pollRecv_other hv
    cases h
    rw [hsh]
    exact stepOk_keeps hi (keeps_refl _) hi.futuresBorrow le_rfl

theorem stepOk_pollRecvMany (hi : Inv capacity s) {limit : Nat} {cancelled : Bool}
    (h : s.step (.pollRecvMany limit cancelled) = some (o, s')) : StepOk capacity s s' := by
  simp only [step] at h
  split at h
  · rename_i vs hvs
    obtain ⟨n, hn, hb⟩ := pollRecvMany_ok hvs
    cases h
    exact stepOk_receive hi hn hb
  · rename_i hvs
    have hsh := pollRecvMany_other hvs
    cases h
    rw [hsh]
    exact stepOk_keeps hi (keeps_refl _) hi.futuresBorrow le_rfl

theorem stepOk_senderDrop' (hi : Inv capacity s) {sender : Nat}
    (h : s.step (.senderDrop sender) = some (o, s')) : StepOk capacity s s' := by
  simp only [step] at h
  by_cases hmem : sender ∈ s.senders
  · cases hb : s.borrowed sender
    · simp only [List.contains_iff_mem.mpr hmem, hb, Bool.not_false, Bool.and_self,
        ↓reduceIte, Option.some.injEq, Prod.mk.injEq] at h
      obtain ⟨-, rfl⟩ := h
      exact stepOk_senderDrop hi hmem hb
    · simp [hb] at h
  · simp [hmem] at h

/-- Every call keeps the invariant, and a closed channel stays sealed. -/
theorem step_stepOk (hi : Inv capacity s) (hcap : capacity ≤ usizeMax) {op : MpscOp α}
    (h : s.step op = some (o, s')) : StepOk capacity s s' := by
  cases op with
  | tryReserve sender => exact stepOk_tryReserve hi hcap h
  | trySend sender v => exact stepOk_trySend hi hcap h
  | sendEvictOldestWhere sender v p => exact stepOk_sendEvictOldestWhere hi hcap h
  | reserve sender => exact stepOk_reserve hi h
  | reservePoll future cancelled => exact stepOk_reservePoll hi hcap h
  | reserveDrop future => exact stepOk_reserveDrop hi h
  | permitSend permit v => exact stepOk_permitSend hi h
  | permitAbort permit => exact stepOk_permitAbort hi h
  | permitDrop permit => exact stepOk_permitDrop hi h
  | tryRecv => exact stepOk_tryRecv hi h
  | pollRecv cancelled => exact stepOk_pollRecv hi h
  | pollRecvMany limit cancelled => exact stepOk_pollRecvMany hi h
  | close =>
      simp only [step, Option.some.injEq, Prod.mk.injEq] at h
      obtain ⟨-, rfl⟩ := h
      exact stepOk_close hi
  | senderClone sender =>
      simp only [step] at h
      split at h
      · rename_i hmem
        cases h
        exact stepOk_senderClone hi (List.contains_iff_mem.mp hmem)
      · cases h
  | senderDrop sender => exact stepOk_senderDrop' hi h

end Steps

-- ============================================================ send errors

/-- A failing send hands back the value it was given; no other call
answers with a send error. -/
theorem step_sendError {s s' : MpscSystem α} {op : MpscOp α} {o : MpscOutput α}
    (h : s.step op = some (o, s')) {e : SendError α} (he : o.sendError = some e) :
    op.value = some e.value := by
  cases op with
  | trySend sender v =>
      simp only [step] at h
      split at h
      · split at h
        · rename_i hok
          cases h
          rw [hok] at he
          cases he
        · rename_i e' herr
          cases h
          rw [herr] at he
          cases he
          simp [MpscOp.value, (trySend_error herr).1]
      · cases h
  | sendEvictOldestWhere sender v p =>
      simp only [step] at h
      split at h
      · split at h
        · rename_i x hok
          cases h
          rw [hok] at he
          cases he
        · rename_i e' herr
          cases h
          rw [herr] at he
          cases he
          simp [MpscOp.value, (sendEvictOldestWhere_error herr).1]
      · cases h
  | permitSend permit v =>
      simp only [step] at h
      split at h
      · cases h
      · split at h
        · rename_i hok
          cases h
          rw [hok] at he
          cases he
        · rename_i e' herr
          cases h
          rw [herr] at he
          cases he
          simp [MpscOp.value, (permitTrySend_error herr).1]
  | _ =>
      -- every other call answers with a permit, a future, a receive, a
      -- handle or `()`
      simp only [step] at h
      repeat' split at h
      all_goals
        cases h
        try cases he

-- ================================================================== the run

/-- Over every run of clients' calls on `channel(capacity)`, in every state
the queue and the reservations fit the capacity, `reserved` is the number
of live permits, what the receiver got followed by what waits is the
committed values in commit order less the evicted ones, and once a receive
reported `Disconnected` nothing waits; once the channel is closed it stays
sealed (nothing more is committed, evicted or granted, and what waited is
delivered in order); and every failing send hands back its value. -/
theorem two_phase_channel_safety {capacity : Nat} (hcap : capacity ≤ usizeMax)
    (ops : List (MpscOp α)) {outs : List (MpscOutput α)} {tr : List (MpscSystem α)}
    (h : Machine.runOut step (init capacity) ops = some (outs, tr)) :
    (∀ s ∈ tr, s.shared.inner.queue.length + s.shared.inner.reserved ≤ capacity ∧
        s.shared.inner.reserved = s.permits.length ∧
        Accounted s.committed s.delivered s.shared.inner.queue s.evicted ∧
        (s.disconnectSeen = true → s.shared.inner.queue = [])) ∧
      tr.Pairwise AfterClose ∧
      List.Forall₂ (fun op o => ∀ e, MpscOutput.sendError o = some e → op.value = some e.value)
        ops outs := by
  have hkeep : Machine.Keeps step (Inv capacity (α := α)) :=
    fun _ _ _ _ hi hs => (step_stepOk hi hcap hs).inv
  refine ⟨?_, ?_, ?_⟩
  · intro s hs
    have hi := Machine.runOut_preserved hkeep ops (inv_init capacity) h s hs
    exact ⟨hi.bound, hi.reserved, hi.accounted, fun hd => (hi.disconnect hd).1⟩
  · exact Machine.runOut_pairwise hkeep (fun _ _ _ _ hi hs => (step_stepOk hi hcap hs).afterClose)
      ops (inv_init capacity) h
  · exact Machine.runOut_forall₂ hkeep (fun _ _ _ _ _ hs _ he => step_sendError hs he) ops
      (inv_init capacity) h

/-- A value committed before the close is still received after it; only
then does a receive report `Disconnected`. -/
theorem two_phase_channel_safety_after_close :
    ∃ tr, Machine.runOut step (init 1) [.trySend 0 7, .tryReserve 0, .close, .tryRecv, .tryRecv] =
        some ([.send (.ok ()), .permit (.error (.Full ())), .unit, .recv (.ok 7),
          .recv (.error .Disconnected)], tr) ∧
      tr.Pairwise AfterClose :=
  ⟨_, rfl, (two_phase_channel_safety (show 1 ≤ usizeMax by simp [usizeMax])
    [.trySend 0 7, .tryReserve 0, .close, .tryRecv, .tryRecv] rfl).2.1⟩

end MpscSystem

end Asupersync
