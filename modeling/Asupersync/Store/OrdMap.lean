/-
Ordered finite maps as sorted association lists: a model of
`BTreeMap<K, V>` for code that looks entries up by key, inserts or
overwrites them, and iterates in key order.

# Representation

`entries` is strictly increasing by key, and the structure carries that
fact, so keys are distinct and `entries` is the map's iteration order.
`insert` walks to the key's place and either overwrites the entry there or
splices a new one in. Writing through `get_mut` is `insert` of the updated
value under the same key.

# The lemmas

- `get?_insert`: the map semantics of `insert`.
- `mem_entries_iff`: an entry is in the list exactly when `get?` finds it.
- `countP_values_insert`, `length_insert`: how many values satisfy a test
  after an `insert`, in terms of the value it overwrote, if any. Stated
  with the overwritten value on the left, so no subtraction appears.

Nothing here names the modelled program.
-/
import Mathlib

/-- A finite map, entries strictly sorted by key. -/
structure OrdMap (κ ν : Type) [LinearOrder κ] where
  entries : List (κ × ν)
  sorted : (entries.map Prod.fst).Pairwise (· < ·)

namespace OrdMap

variable {κ ν : Type} [LinearOrder κ]

/-- `BTreeMap::new`. -/
def empty : OrdMap κ ν := ⟨[], List.Pairwise.nil⟩

/-- `BTreeMap::get`. -/
def get? (m : OrdMap κ ν) (k : κ) : Option ν :=
  (m.entries.find? fun e => e.1 = k).map Prod.snd

/-- `BTreeMap::values`, in key order. -/
def values (m : OrdMap κ ν) : List ν := m.entries.map Prod.snd

/-- Overwrite or splice in an entry, keeping the keys sorted. -/
def insertList (k : κ) (v : ν) : List (κ × ν) → List (κ × ν)
  | [] => [(k, v)]
  | e :: es =>
      if k < e.1 then (k, v) :: e :: es
      else if k = e.1 then (k, v) :: es
      else e :: insertList k v es

theorem mem_keys_insertList (k : κ) (v : ν) :
    ∀ (es : List (κ × ν)) (k' : κ), k' ∈ (insertList k v es).map Prod.fst →
      k' = k ∨ k' ∈ es.map Prod.fst
  | [], k', h => by simp_all [insertList]
  | e :: es, k', h => by
      simp only [insertList] at h
      split at h
      · simpa using h
      · split at h
        · simp only [List.map_cons, List.mem_cons] at h ⊢
          rcases h with h | h
          · exact .inl h
          · exact .inr (.inr h)
        · simp only [List.map_cons, List.mem_cons] at h ⊢
          rcases h with h | h
          · exact .inr (.inl h)
          · rcases mem_keys_insertList k v es k' h with h | h
            · exact .inl h
            · exact .inr (.inr h)

theorem insertList_sorted (k : κ) (v : ν) :
    ∀ {es : List (κ × ν)}, (es.map Prod.fst).Pairwise (· < ·) →
      ((insertList k v es).map Prod.fst).Pairwise (· < ·)
  | [], _ => by simp [insertList]
  | e :: es, h => by
      rw [List.map_cons, List.pairwise_cons] at h
      obtain ⟨hlt, hes⟩ := h
      simp only [insertList]
      split
      · rename_i hk
        refine List.pairwise_cons.mpr ⟨?_, List.pairwise_cons.mpr ⟨hlt, hes⟩⟩
        intro k' hk'
        rcases List.mem_cons.mp hk' with rfl | hk'
        · exact hk
        · exact lt_trans hk (hlt k' hk')
      · split
        · rename_i _ hk
          subst hk
          exact List.pairwise_cons.mpr ⟨hlt, hes⟩
        · rename_i hlt' hne
          have hgt : e.1 < k := lt_of_le_of_ne (not_lt.mp hlt') (Ne.symm hne)
          refine List.pairwise_cons.mpr ⟨?_, insertList_sorted k v hes⟩
          intro k' hk'
          rcases mem_keys_insertList k v es k' hk' with rfl | hk'
          · exact hgt
          · exact hlt k' hk'

/-- `BTreeMap::insert`. -/
def insert (m : OrdMap κ ν) (k : κ) (v : ν) : OrdMap κ ν :=
  ⟨insertList k v m.entries, insertList_sorted k v m.sorted⟩

-- ============================================================== lookups

theorem find?_insertList (k : κ) (v : ν) (k' : κ) :
    ∀ es : List (κ × ν), (insertList k v es).find? (fun e => e.1 = k') =
      if k' = k then some (k, v) else es.find? fun e => e.1 = k'
  | [] => by
      by_cases h : k' = k
      · simp [insertList, h]
      · simp [insertList, h, Ne.symm h]
  | e :: es => by
      simp only [insertList]
      split
      · by_cases h : k' = k
        · simp [h]
        · simp [h, Ne.symm h]
      · split
        · rename_i _ hk
          by_cases h : k' = k
          · simp [h]
          · have he : ¬e.1 = k' := fun he => h (he ▸ hk ▸ rfl)
            simp [h, Ne.symm h, he]
        · rename_i _ hne
          by_cases he : e.1 = k'
          · have h : ¬k' = k := fun h => hne (h ▸ he ▸ rfl)
            simp [he, h]
          · simp only [List.find?_cons, he, decide_false]
            exact find?_insertList k v k' es

@[simp] theorem get?_insert (m : OrdMap κ ν) (k k' : κ) (v : ν) :
    (m.insert k v).get? k' = if k' = k then some v else m.get? k' := by
  simp only [get?, insert, find?_insertList]
  split <;> simp

@[simp] theorem get?_empty (k : κ) : (empty : OrdMap κ ν).get? k = none := rfl

/-- Sorted keys are distinct, so the entry list and `get?` agree. -/
theorem mem_entries_iff (m : OrdMap κ ν) (k : κ) (v : ν) :
    (k, v) ∈ m.entries ↔ m.get? k = some v := by
  obtain ⟨es, hs⟩ := m
  simp only [get?]
  induction es with
  | nil => simp
  | cons e es ih =>
      rw [List.map_cons, List.pairwise_cons] at hs
      obtain ⟨hlt, hes⟩ := hs
      by_cases he : e.1 = k
      · -- the head holds the key; the tail holds only larger keys
        have hnot : (k, v) ∉ es := fun hmem =>
          lt_irrefl k (he ▸ hlt k (List.mem_map_of_mem (f := Prod.fst) hmem))
        obtain ⟨k₀, v₀⟩ := e
        simp only at he
        subst he
        simp [hnot, eq_comm]
      · have hne : (k, v) ≠ e := fun h => he (h ▸ rfl)
        simp [List.find?_cons, he, List.mem_cons, hne, ih hes]

-- ============================================================= counting

theorem countP_insertList {p : ν → Bool} (k : κ) (v : ν) :
    ∀ {es : List (κ × ν)}, (es.map Prod.fst).Pairwise (· < ·) →
      ((insertList k v es).map Prod.snd).countP p +
          (((es.find? fun e => e.1 = k).map Prod.snd).toList.countP p) =
        (es.map Prod.snd).countP p + (if p v then 1 else 0)
  | [], _ => by simp [insertList]
  | e :: es, h => by
      rw [List.map_cons, List.pairwise_cons] at h
      obtain ⟨hlt, hes⟩ := h
      simp only [insertList]
      split
      · rename_i hk
        -- a new key below every present one: nothing is overwritten
        have hnone : (e :: es).find? (fun e => e.1 = k) = none := by
          rw [List.find?_eq_none]
          intro x hx hxk
          rcases List.mem_cons.mp hx with rfl | hx
          · exact absurd (of_decide_eq_true hxk) (ne_of_gt hk)
          · have := hlt x.1 (List.mem_map_of_mem hx)
            exact absurd (of_decide_eq_true hxk) (ne_of_gt (lt_trans hk this))
        rw [hnone]
        simp [List.countP_cons]
      · split
        · rename_i _ hk
          simp [List.countP_cons, hk]
          omega
        · rename_i _ hne
          have ih := countP_insertList (p := p) k v hes
          have he : ¬e.1 = k := fun h => hne h.symm
          simp only [List.map_cons, List.countP_cons, List.find?_cons, he, decide_false] at ih ⊢
          omega

theorem countP_values_insert (m : OrdMap κ ν) (p : ν → Bool) (k : κ) (v : ν) :
    (m.insert k v).values.countP p + (m.get? k).toList.countP p =
      m.values.countP p + (if p v then 1 else 0) :=
  countP_insertList k v m.sorted

theorem length_insert (m : OrdMap κ ν) (k : κ) (v : ν) :
    (m.insert k v).entries.length + (m.get? k).toList.length = m.entries.length + 1 := by
  have h := m.countP_values_insert (fun _ => true) k v
  simp only [List.countP_true, values, List.length_map, if_true] at h
  simpa [insert] using h

end OrdMap
