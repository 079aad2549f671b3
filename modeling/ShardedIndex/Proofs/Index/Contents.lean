import Mathlib
import ShardedIndex.Index.Basic
import ShardedIndex.Proofs.Audit.Replay

/-!
# Contents of works

The documents that a sequence of works leaves on an empty index. Under each id stands what the last
work on it left, so two sequences that agree on every id by itself leave the same documents, however
the ids are interleaved. The replay of a ledger counts these documents.
-/

namespace ShardedIndex

/-! ### One work -/

/-- What a work leaves under the id that it names. -/
def Work.outcome (w : Work) : Option Quote := if w.kind = .delete then none else some w.payload

lemma Work.getElem?_applyTo (w : Work) (docs : Documents) (id : DocumentId) :
    (w.applyTo docs)[id]? = if w.id = id then w.outcome else docs[id]? := by
  cases h : w.kind <;>
    simp [Work.applyTo, Work.outcome, h, Std.ExtTreeMap.getElem?_insert,
      Std.ExtTreeMap.getElem?_erase]

lemma Work.isSome_outcome_iff {w : Work} : w.outcome.isSome = true ↔ w.kind ≠ .delete := by
  by_cases hkind : w.kind = .delete <;> simp [Work.outcome, hkind]

/-- Applying a work a second time changes nothing. -/
lemma Work.applyTo_applyTo (w : Work) (docs : Documents) :
    w.applyTo (w.applyTo docs) = w.applyTo docs := by
  apply Std.ExtTreeMap.ext_getElem?
  intro id
  simp only [Work.getElem?_applyTo]
  split_ifs <;> rfl

/-! ### Ids of documents -/

def idsOf (docs : Documents) : Finset DocumentId := docs.keys.toFinset

lemma card_idsOf (docs : Documents) : (idsOf docs).card = docs.size := by
  rw [idsOf, List.toFinset_card_of_nodup Std.ExtTreeMap.nodup_keys, Std.ExtTreeMap.length_keys]

lemma mem_idsOf {docs : Documents} {id : DocumentId} : id ∈ idsOf docs ↔ docs[id]?.isSome := by
  rw [idsOf, List.mem_toFinset, Std.ExtTreeMap.mem_keys, Std.ExtTreeMap.mem_iff_isSome_getElem?]

/-! ### Sequences of works -/

/-- The documents that works leave on an empty index. -/
def contents (ws : List Work) : Documents := ws.foldl (fun docs w => w.applyTo docs) ∅

@[simp] lemma contents_nil : contents [] = ∅ := rfl

@[simp] lemma contents_concat (ws : List Work) (w : Work) :
    contents (ws ++ [w]) = w.applyTo (contents ws) := by
  simp [contents]

/-- The works on one document, in order. -/
def worksOn (id : DocumentId) (ws : List Work) : List Work := ws.filter (·.id = id)

lemma worksOn_append (id : DocumentId) (xs ys : List Work) :
    worksOn id (xs ++ ys) = worksOn id xs ++ worksOn id ys := List.filter_append ..

lemma worksOn_singleton (id : DocumentId) (w : Work) :
    worksOn id [w] = if w.id = id then [w] else [] := by
  by_cases h : w.id = id <;> simp [worksOn, h]

/-- Only the last work on a document counts. -/
lemma getElem?_contents (ws : List Work) (id : DocumentId) :
    (contents ws)[id]? = (worksOn id ws).getLast?.bind Work.outcome := by
  induction ws using List.reverseRecOn with
  | nil => simp [worksOn]
  | append_singleton ws w ih =>
    rw [contents_concat, Work.getElem?_applyTo, worksOn_append, worksOn_singleton]
    by_cases h : w.id = id
    · simp [h]
    · simp [h, ih]

lemma worksOn_cons (id : DocumentId) (w : Work) (ws : List Work) :
    worksOn id (w :: ws) = worksOn id [w] ++ worksOn id ws := worksOn_append id [w] ws

lemma mem_worksOn {id : DocumentId} {ws : List Work} {w : Work} :
    w ∈ worksOn id ws ↔ w ∈ ws ∧ w.id = id := by
  simp [worksOn]

lemma worksOn_eq_nil_iff {id : DocumentId} {ws : List Work} :
    worksOn id ws = [] ↔ ∀ w ∈ ws, w.id ≠ id := by
  simp [worksOn]

/-- The last of the works on a document leaves it there. -/
def IsPresent (id : DocumentId) (ws : List Work) : Prop :=
  ∃ w, (worksOn id ws).getLast? = some w ∧ w.kind ≠ .delete

lemma isPresent_iff {id : DocumentId} {ws : List Work} :
    IsPresent id ws ↔ (contents ws)[id]?.isSome = true := by
  rw [getElem?_contents]
  cases hlast : (worksOn id ws).getLast? with
  | none => simp [IsPresent, hlast]
  | some w => simp [IsPresent, hlast, Work.isSome_outcome_iff]

/-- Two sequences agree when each document meets the same works in the same order. -/
def SameHistories (xs ys : List Work) : Prop := ∀ id, worksOn id xs = worksOn id ys

lemma SameHistories.contents_eq {xs ys : List Work} (h : SameHistories xs ys) :
    contents xs = contents ys := by
  apply Std.ExtTreeMap.ext_getElem?
  intro id
  rw [getElem?_contents, getElem?_contents, h id]

/-- Sequences that agree on every document hold the same works. -/
lemma SameHistories.perm {xs ys : List Work} (h : SameHistories xs ys) : xs.Perm ys := by
  rw [List.perm_iff_count]
  intro w
  have hcount : ∀ zs : List Work, zs.count w = (worksOn w.id zs).count w := fun zs =>
    (List.count_filter (by simp)).symm
  rw [hcount xs, hcount ys, h w.id]

/-! ### Replay -/

/-- The ids that survive a replay are those of the documents. -/
lemma survivors_map_entry (ws : List Work) :
    survivors (ws.map Work.entry) = idsOf (contents ws) := by
  ext id
  have hlast : lastKind? id (ws.map Work.entry) = (worksOn id ws).getLast?.map Work.kind := by
    simp only [lastKind?, entriesOn, worksOn, List.filter_map, List.getLast?_map, Option.map_map]
    rfl
  rw [mem_survivors, mem_idsOf, getElem?_contents, hlast]
  cases (worksOn id ws).getLast? with
  | none => simp
  | some w => cases hk : w.kind <;> simp [Work.outcome, hk]

lemma replay_entries (ws : List Work) : replay (ws.map Work.entry) = (contents ws).size := by
  rw [replay_eq_card, survivors_map_entry, card_idsOf]

lemma Ledger.replayedSize_eq (l : Ledger) : l.replayedSize = (contents l.works.toList).size :=
  replay_entries l.works.toList

/-- A fresh ledger expects the documents of the works that it records. -/
lemma Ledger.replayedSize_recordAll_empty (ws : List Work) :
    (empty.recordAll ws).replayedSize = (contents ws).size := by
  rw [replayedSize_eq, works_recordAll]
  rfl

end ShardedIndex
