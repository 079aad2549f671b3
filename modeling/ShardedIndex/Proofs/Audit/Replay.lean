import Mathlib
import ShardedIndex.Audit.Ledger

/-!
# Survivors of a replay

A replay counts the ids whose last entry is not a delete. Only the entries of each id by themselves
matter for that, so histories that interleave the same entries differently have one replay, and so
do the ledgers that record them.
-/

namespace ShardedIndex

variable {xs ys : List Entry} {x : Entry} {id : DocumentId}

/-! ### Entries of one id -/

/-- The entries of one id, in order. -/
def entriesOn (id : DocumentId) (xs : List Entry) : List Entry := xs.filter (·.2 = id)

/-- The kind of the last entry of an id, if it has an entry. -/
def lastKind? (id : DocumentId) (xs : List Entry) : Option WorkKind :=
  (entriesOn id xs).getLast?.map Prod.fst

/-- The ids whose last entry is an add or an update. -/
def survivors (xs : List Entry) : Finset DocumentId :=
  {id ∈ (xs.map Prod.snd).toFinset | lastKind? id xs = some .add ∨ lastKind? id xs = some .update}

/-- Two histories have the same entries of every id, however the ids are interleaved. -/
def SameEntries (xs ys : List Entry) : Prop := ∀ id, entriesOn id xs = entriesOn id ys

lemma entriesOn_append (id : DocumentId) (xs ys : List Entry) :
    entriesOn id (xs ++ ys) = entriesOn id xs ++ entriesOn id ys := List.filter_append ..

@[simp] lemma lastKind?_nil (id : DocumentId) : lastKind? id [] = none := rfl

lemma lastKind?_concat (id : DocumentId) (xs : List Entry) (x : Entry) :
    lastKind? id (xs ++ [x]) = if x.2 = id then some x.1 else lastKind? id xs := by
  by_cases h : x.2 = id <;> simp [lastKind?, entriesOn, h]

lemma mem_survivors :
    id ∈ survivors xs ↔ lastKind? id xs = some .add ∨ lastKind? id xs = some .update := by
  rw [survivors, Finset.mem_filter, and_iff_right_iff_imp]
  intro h
  -- An id that has a last entry has an entry.
  have hsome : ∃ y, (entriesOn id xs).getLast? = some y := by
    rcases h with h | h <;> exact (Option.map_eq_some_iff.1 h).imp fun _ hy => hy.1
  obtain ⟨y, hy⟩ := hsome
  obtain ⟨hmem, hid⟩ := List.mem_filter.1 (List.mem_of_getLast? hy)
  rw [List.mem_toFinset, List.mem_map]
  exact ⟨y, hmem, of_decide_eq_true hid⟩

lemma SameEntries.survivors_eq (h : SameEntries xs ys) : survivors xs = survivors ys := by
  ext id
  rw [mem_survivors, mem_survivors, lastKind?, lastKind?, h id]

lemma SameEntries.append_left (h : SameEntries xs ys) (front : List Entry) :
    SameEntries (front ++ xs) (front ++ ys) := by
  intro id
  rw [entriesOn_append, entriesOn_append, h id]

/-! ### Present ids -/

lemma mem_present {ids : Std.HashSet DocumentId} :
    id ∈ present ids x ↔ if x.2 = id then x.1 ≠ .delete else id ∈ ids := by
  obtain ⟨kind, other⟩ := x
  by_cases h : other = id <;> cases kind <;> simp [present, h]

lemma mem_foldl_present : id ∈ xs.foldl present ∅ ↔ id ∈ survivors xs := by
  rw [mem_survivors]
  induction xs using List.reverseRecOn with
  | nil => simp
  | append_singleton xs x ih =>
    rw [List.foldl_append, List.foldl_cons, List.foldl_nil, mem_present, lastKind?_concat]
    split_ifs with h
    · cases x.1 <;> simp
    · exact ih

lemma size_eq_card (ids : Std.HashSet DocumentId) : ids.size = ids.toList.toFinset.card := by
  have hnodup : ids.toList.Nodup := ids.distinct_toList.imp fun h => ne_of_beq_false h
  rw [List.toFinset_card_of_nodup hnodup, Std.HashSet.length_toList]

lemma replay_eq_card (xs : List Entry) : replay xs = (survivors xs).card := by
  rw [replay, size_eq_card]
  congr 1
  ext id
  rw [List.mem_toFinset, Std.HashSet.mem_toList, mem_foldl_present]

/-! ### Ledgers -/

lemma Consistency.agrees_mk_iff {m n : Nat} : (⟨m, n⟩ : Consistency).agrees = true ↔ m = n :=
  decide_eq_true_iff

/-- Record works one after the other. -/
def Ledger.recordAll (l : Ledger) (ws : List Work) : Ledger := ws.foldl Ledger.record l

lemma Ledger.works_recordAll (l : Ledger) (ws : List Work) :
    (l.recordAll ws).works.toList = l.works.toList ++ ws := by
  induction ws generalizing l with
  | nil => simp [recordAll]
  | cons w ws ih =>
    have hstep : l.recordAll (w :: ws) = (l.record w).recordAll ws := rfl
    simp [hstep, ih]

lemma Ledger.replayedSize_recordAll (l : Ledger) (ws : List Work) :
    (l.recordAll ws).replayedSize =
      (survivors (l.works.toList.map Work.entry ++ ws.map Work.entry)).card := by
  rw [replayedSize, replay_eq_card, works_recordAll, List.map_append]

/-- A replay counts the ids whose last entry is an add or an update, and so does a ledger after it
recorded works with these entries. How the entries of different ids are interleaved matters neither
for the replay nor for a ledger, whatever it had recorded before. -/
theorem replay_counts_survivors (xs : List Entry) :
    replay xs = (survivors xs).card ∧
      (∀ ys, SameEntries xs ys → replay xs = replay ys) ∧
      ∀ ws : List Work, ws.map Work.entry = xs →
        (Ledger.empty.recordAll ws).replayedSize = (survivors xs).card ∧
        ∀ (vs : List Work) (l : Ledger), SameEntries xs (vs.map Work.entry) →
          (l.recordAll ws).replayedSize = (l.recordAll vs).replayedSize := by
  refine ⟨replay_eq_card xs, fun ys h => ?_, ?_⟩
  · rw [replay_eq_card, replay_eq_card, h.survivors_eq]
  · rintro ws rfl
    refine ⟨Ledger.replayedSize_recordAll .empty ws, fun vs l h => ?_⟩
    rw [l.replayedSize_recordAll, l.replayedSize_recordAll, (h.append_left _).survivors_eq]

/-- Two documents, of which the first one is deleted in the end and the second one comes back. -/
theorem replay_counts_survivors_interleaved :
    let ws : List Work := [.of .add ⟨1, "a"⟩, .of .delete ⟨2, "b"⟩, .of .delete ⟨1, "a"⟩,
      .of .update ⟨2, "c"⟩]
    let vs : List Work := [.of .delete ⟨2, "b"⟩, .of .update ⟨2, "c"⟩, .of .add ⟨1, "a"⟩,
      .of .delete ⟨1, "d"⟩]
    SameEntries (ws.map Work.entry) (vs.map Work.entry) ∧ survivors (ws.map Work.entry) = {2} ∧
      replay (ws.map Work.entry) = 1 ∧ replay (vs.map Work.entry) = 1 ∧
      (Ledger.empty.recordAll ws).replayedSize = 1 ∧
      (Ledger.empty.recordAll vs).replayedSize = 1 := by
  intro ws vs
  have hsame : SameEntries (ws.map Work.entry) (vs.map Work.entry) := by
    intro id
    by_cases h₁ : id = 1
    · subst h₁
      rfl
    · by_cases h₂ : id = 2
      · subst h₂
        rfl
      · simp [ws, vs, entriesOn, Work.entry, Work.of, Ne.symm h₁, Ne.symm h₂]
  have hsurvivors : survivors (ws.map Work.entry) = {2} := by decide
  obtain ⟨hcount, hreplay, hledger⟩ := replay_counts_survivors (ws.map Work.entry)
  obtain ⟨hrecorded, hrecord⟩ := hledger ws rfl
  rw [hsurvivors, Finset.card_singleton] at hcount hrecorded
  exact ⟨hsame, hsurvivors, hcount, (hreplay _ hsame).symm.trans hcount, hrecorded,
    (hrecord vs .empty hsame).symm.trans hrecorded⟩

end ShardedIndex
