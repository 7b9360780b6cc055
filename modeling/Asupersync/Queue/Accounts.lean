/-
Delivery accounting for a FIFO queue from whose middle items can also be
removed: what the consumer got, followed by what still waits, is what was
put in, in order, less the removed items, each item at most once.

# The predicate

`Accounted put got queue removed` is two facts:

- `got ++ queue <+ put`: delivered and waiting items form a subsequence
  of the items put in, so nothing is reordered or duplicated;
- `put ~ got ++ queue ++ removed`: every item put in is delivered,
  waiting or removed, so nothing is lost.

Together they say that `got ++ queue` is `put` with the removed
occurrences taken out. There is one lemma per queue operation: `push`
(append at the back), `take` (hand a prefix to the consumer), `eraseIdx`
(remove one item from the middle) and `frame` for a step that touches
none of the four lists.

Nothing here names the modelled program.
-/
import Mathlib

open scoped List

variable {α : Type}

/-- The delivery accounts of a queue. -/
def Accounted (put got queue removed : List α) : Prop :=
  got ++ queue <+ put ∧ put ~ got ++ queue ++ removed

namespace Accounted

variable {put got queue removed : List α}

theorem nil : Accounted ([] : List α) [] [] [] := ⟨List.Sublist.slnil, List.Perm.nil⟩

/-- Putting an item in at the back. -/
theorem push (h : Accounted put got queue removed) (v : α) :
    Accounted (put ++ [v]) got (queue ++ [v]) removed := by
  obtain ⟨hsub, hperm⟩ := h
  refine ⟨?_, ?_⟩
  · rw [← List.append_assoc]
    exact hsub.append (List.Sublist.refl [v])
  · -- the new item sits after the queue on the right, before the removed ones
    calc put ++ [v] ~ got ++ queue ++ removed ++ [v] := hperm.append_right [v]
      _ = got ++ queue ++ (removed ++ [v]) := by simp
      _ ~ got ++ queue ++ ([v] ++ removed) := (List.perm_append_comm).append_left _
      _ = got ++ (queue ++ [v]) ++ removed := by simp

/-- Handing the first `n` waiting items to the consumer. -/
theorem take (h : Accounted put got queue removed) (n : Nat) :
    Accounted put (got ++ queue.take n) (queue.drop n) removed := by
  have hsplit : got ++ queue.take n ++ queue.drop n = got ++ queue := by
    rw [List.append_assoc, List.take_append_drop]
  rw [Accounted, hsplit]
  exact h

/-- Removing the waiting item at index `i`. -/
theorem eraseIdx (h : Accounted put got queue removed) {i : Nat} (hi : i < queue.length) :
    Accounted put got (queue.eraseIdx i) (removed ++ [queue.get ⟨i, hi⟩]) := by
  obtain ⟨hsub, hperm⟩ := h
  refine ⟨((List.eraseIdx_sublist queue i).append_left got).trans hsub, ?_⟩
  have hq : queue ~ queue.eraseIdx i ++ [queue.get ⟨i, hi⟩] :=
    (List.getElem_cons_eraseIdx_perm hi).symm.trans (List.perm_append_singleton _ _).symm
  calc put ~ got ++ queue ++ removed := hperm
    _ ~ got ++ (queue.eraseIdx i ++ [queue.get ⟨i, hi⟩]) ++ removed :=
        (hq.append_left got).append_right removed
    _ ~ got ++ queue.eraseIdx i ++ (removed ++ [queue.get ⟨i, hi⟩]) := by
        simp only [List.append_assoc]
        exact (List.perm_append_comm.append_left _).append_left got

/-- A step that changes none of the four lists. -/
theorem frame (h : Accounted put got queue removed) {put' got' queue' removed' : List α}
    (hput : put' = put) (hgot : got' = got) (hqueue : queue' = queue)
    (hremoved : removed' = removed) : Accounted put' got' queue' removed' := by
  subst hput hgot hqueue hremoved
  exact h

end Accounted
