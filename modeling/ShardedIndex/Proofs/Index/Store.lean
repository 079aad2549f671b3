import Mathlib
import ShardedIndex.Index.Store

/-!
# Writes and purges of a store

A write or a purge touches the documents of one index. Every other index, and what an index refuses,
stay as they are.
-/

namespace ShardedIndex.Store

variable {s : Store} {h h' : Handle} {w : Work}

@[simp] lemma size_write : (s.write h w).size = s.size := by
  unfold write
  split_ifs <;> simp [size]

@[simp] lemma size_purge : (s.purge h).size = s.size := by
  unfold purge
  split_ifs <;> simp [size]

@[simp] lemma size_add (x : Index) : (s.add x).2.size = s.size + 1 := by simp [add, size]

lemma get?_eq_none (hle : s.size ≤ h) : s.get? h = none := Array.getElem?_eq_none hle

lemma get?_write :
    (s.write h w).get? h' = if h = h' then (s.get? h').map (·.write w) else s.get? h' := by
  by_cases hlt : h < s.indexes.size
  · by_cases heq : h = h'
    · subst heq
      simp [write, hlt, get?]
    · simp [write, hlt, get?, heq]
  · have hnone : s.get? h = none := get?_eq_none (Nat.le_of_not_lt hlt)
    simp only [write, hlt, dite_false]
    split_ifs with heq
    · subst heq
      simp [hnone]
    · rfl

lemma get?_purge :
    (s.purge h).get? h' = if h = h' then (s.get? h').map Index.purge else s.get? h' := by
  by_cases hlt : h < s.indexes.size
  · by_cases heq : h = h'
    · subst heq
      simp [purge, hlt, get?]
    · simp [purge, hlt, get?, heq]
  · have hnone : s.get? h = none := get?_eq_none (Nat.le_of_not_lt hlt)
    simp only [purge, hlt, dite_false]
    split_ifs with heq
    · subst heq
      simp [hnone]
    · rfl

lemma documents_write (hlt : h < s.size) :
    (s.write h w).documents h' =
      if h = h' then w.applyTo (s.documents h') else s.documents h' := by
  have hget : s.get? h = some s.indexes[h] := Array.getElem?_eq_getElem hlt
  simp only [documents, get?_write]
  split_ifs with heq
  · subst heq
    simp [hget, Index.write]
  · rfl

lemma documents_purge : (s.purge h).documents h' = if h = h' then ∅ else s.documents h' := by
  simp only [documents, get?_purge]
  split_ifs with heq
  · cases s.get? h' <;> rfl
  · rfl

@[simp] lemma refusalOf_write : (s.write h w).refusalOf h' = s.refusalOf h' := by
  simp only [refusalOf, get?_write]
  split_ifs
  · cases s.get? h' <;> rfl
  · rfl

@[simp] lemma refusalOf_purge : (s.purge h).refusalOf h' = s.refusalOf h' := by
  simp only [refusalOf, get?_purge]
  split_ifs
  · cases s.get? h' <;> rfl
  · rfl

/-- The same indexes with the same documents, but none of them refuses a work. -/
def admitting (s : Store) : Store :=
  { s with indexes := s.indexes.map fun x => { x with refusal := .never } }

lemma get?_admitting :
    s.admitting.get? h = (s.get? h).map fun x => { x with refusal := .never } :=
  Array.getElem?_map

@[simp] lemma size_admitting : s.admitting.size = s.size := by simp [admitting, size]

@[simp] lemma documents_admitting : s.admitting.documents = s.documents := by
  funext h
  rw [documents, get?_admitting, documents]
  cases s.get? h <;> rfl

@[simp] lemma refusalOf_admitting : s.admitting.refusalOf h = .never := by
  rw [refusalOf, get?_admitting]
  cases s.get? h <;> rfl

end ShardedIndex.Store
