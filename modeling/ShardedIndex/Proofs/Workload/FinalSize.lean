import Mathlib
import ShardedIndex.Proofs.Workload.Provenance

/-!
# The size in the end

The documents of a workload are among those that it adds, and each one that is missing in the end
was deleted by a work of its own. So the quotas bound the number of documents, in whatever order the
works on different documents are recorded, and without deletes they fix it.
-/

namespace ShardedIndex

variable {ws xs ys : List Work} {w : Work} {id : DocumentId}

/-! ### Known ids -/

namespace Ledger

lemma known_record (l : Ledger) (w : Work) :
    (l.record w).known = if w.kind = .add then l.known.insert w.id else l.known := by
  rw [record, known_learn, known_append]

lemma recordAll_concat (l : Ledger) (ws : List Work) (w : Work) :
    l.recordAll (ws ++ [w]) = (l.recordAll ws).record w := by
  simp [recordAll]

/-- The ids known after works are those known before and those that the works add. -/
lemma mem_known_recordAll (l : Ledger) (ws : List Work) :
    id ∈ (l.recordAll ws).known ↔ id ∈ l.known ∨ id ∈ addedIds ws := by
  induction ws using List.reverseRecOn with
  | nil => simp [recordAll, addedIds]
  | append_singleton ws w ih =>
    rw [recordAll_concat, known_record, addedIds_concat]
    split_ifs with hkind
    · rw [Std.HashSet.mem_insert, ih, beq_iff_eq, List.mem_append, List.mem_singleton]
      tauto
    · rw [ih, List.append_nil]

lemma size_known_recordAll (ws : List Work) :
    (empty.recordAll ws).known.size = (addedIds ws).toFinset.card := by
  rw [size_eq_card]
  congr 1
  ext id
  rw [List.mem_toFinset, List.mem_toFinset, Std.HashSet.mem_toList, mem_known_recordAll]
  simp [empty]

end Ledger

/-! ### Documents, adds and deletes -/

/-- The ids that deletes carry, in order. -/
def deletedIds (ws : List Work) : List DocumentId := (ws.filter (·.kind = .delete)).map Work.id

lemma length_deletedIds (ws : List Work) :
    (deletedIds ws).length = ws.countP (·.kind = .delete) := by
  rw [deletedIds, List.length_map, List.countP_eq_length_filter]

/-- There are no documents but those that were added. -/
lemma Grounded.size_contents_le (hws : Grounded ws) :
    (contents ws).size ≤ (addedIds ws).length := by
  have hsub : idsOf (contents ws) ⊆ (addedIds ws).toFinset := by
    intro id hid
    obtain ⟨w, hlast, -⟩ := isPresent_iff.2 (mem_idsOf.1 hid)
    obtain ⟨hw, rfl⟩ := mem_worksOn.1 (List.mem_of_getLast? hlast)
    exact List.mem_toFinset.2 (hws.mem_addedIds_of_mem hw)
  calc (contents ws).size
      = (idsOf (contents ws)).card := (card_idsOf _).symm
    _ ≤ (addedIds ws).toFinset.card := Finset.card_le_card hsub
    _ ≤ (addedIds ws).length := List.toFinset_card_le _

/-- A document that was added is there in the end, or a delete was the last work on it. -/
lemma mem_deletedIds_of_absent (hadded : id ∈ addedIds ws) (habsent : ¬ IsPresent id ws) :
    id ∈ deletedIds ws := by
  obtain ⟨u, hu, -, hid⟩ := mem_addedIds.1 hadded
  have hmem : u ∈ worksOn id ws := mem_worksOn.2 ⟨hu, hid⟩
  obtain ⟨w, hlast⟩ : ∃ w, (worksOn id ws).getLast? = some w :=
    ⟨_, List.getLast?_eq_some_getLast (List.ne_nil_of_mem hmem)⟩
  have hdelete : w.kind = .delete := by
    by_contra hkind
    exact habsent ⟨w, hlast, hkind⟩
  obtain ⟨hw, rfl⟩ := mem_worksOn.1 (List.mem_of_getLast? hlast)
  exact List.mem_map_of_mem (List.mem_filter.2 ⟨hw, decide_eq_true hdelete⟩)

/-- Every document that was added and is missing took a delete. -/
lemma length_addedIds_le (hnodup : (addedIds ws).Nodup) :
    (addedIds ws).length ≤ (contents ws).size + ws.countP (·.kind = .delete) := by
  have hsub : (addedIds ws).toFinset ⊆ idsOf (contents ws) ∪ (deletedIds ws).toFinset := by
    intro id hid
    rw [Finset.mem_union, mem_idsOf, ← isPresent_iff, List.mem_toFinset]
    by_cases hpresent : IsPresent id ws
    · exact .inl hpresent
    · exact .inr (mem_deletedIds_of_absent (List.mem_toFinset.1 hid) hpresent)
  calc (addedIds ws).length
      = (addedIds ws).toFinset.card := (List.toFinset_card_of_nodup hnodup).symm
    _ ≤ (idsOf (contents ws) ∪ (deletedIds ws).toFinset).card := Finset.card_le_card hsub
    _ ≤ (idsOf (contents ws)).card + (deletedIds ws).toFinset.card := Finset.card_union_le _ _
    _ ≤ (contents ws).size + ws.countP (·.kind = .delete) := by
        rw [card_idsOf, ← length_deletedIds]
        exact Nat.add_le_add_left (List.toFinset_card_le _) _

/-- The ids that are added do not depend on the order of the works. -/
lemma SameHistories.toFinset_addedIds (hsame : SameHistories xs ys) :
    (addedIds ys).toFinset = (addedIds xs).toFinset := by
  ext id
  simp only [List.mem_toFinset, mem_addedIds, hsame.perm.mem_iff]

/-! ### Workloads -/

namespace Workload

variable {σ : Type} [RandomSource σ] {l : Workload σ} {source : σ}

/-- All works of an accepted workload are recorded, those on each document in their order and those
on different documents in any. The ledger knows as many ids as the quota of adds. The number of
documents that it expects is at most that quota, and at least what the quota of deletes leaves of
it; so without deletes it is that quota. -/
theorem final_size_bounds {total : UInt64} {pctAdd pctUpdate : UInt32}
    (hok : create total pctAdd pctUpdate source = .ok l)
    (hsame : SameHistories l.rest.1.toList ys) :
    let quotas := Quotas.ofPercentages total pctAdd pctUpdate
    let ledger := Ledger.empty.recordAll ys
    ledger.known.size = quotas.add.toNat ∧
      quotas.add.toNat - quotas.delete.toNat ≤ ledger.replayedSize ∧
      ledger.replayedSize ≤ quotas.add.toNat ∧
      (quotas.delete = 0 → ledger.replayedSize = quotas.add.toNat) := by
  intro quotas ledger
  have hgrounded := (grown_of_create_ok hok total.toNat).grounded
  have hspent := countP_yielded_of_le hok (le_refl total.toNat)
  rw [rest_eq_yielded hok] at hsame
  have hadds : (addedIds (l.yielded total.toNat)).length = quotas.add.toNat :=
    (length_addedIds _).trans (hspent .add)
  have hdeletes : (l.yielded total.toNat).countP (·.kind = .delete) = quotas.delete.toNat :=
    hspent .delete
  have hreplayed : ledger.replayedSize = (contents (l.yielded total.toNat)).size := by
    rw [Ledger.replayedSize_recordAll_empty, hsame.contents_eq]
  have hupper := hgrounded.size_contents_le
  have hlower := length_addedIds_le hgrounded.nodup_addedIds
  rw [hadds] at hupper hlower
  rw [hdeletes] at hlower
  refine ⟨?_, by omega, by omega, fun hzero => ?_⟩
  · rw [Ledger.size_known_recordAll, hsame.toFinset_addedIds,
      List.toFinset_card_of_nodup hgrounded.nodup_addedIds, hadds]
  · rw [hzero, UInt64.toNat_zero] at hlower
    omega

/-- The second document is added last; the first one took the update and the delete before. -/
theorem final_size_bounds_secondLast :
    let l : Workload WordSource := ⟨.script [], ⟨2, 1, 1⟩, #[], 1⟩
    let ys := [.of .add ⟨1, Quote.texts.head⟩, .of .update ⟨1, Quote.texts.head⟩,
      .of .delete ⟨1, Quote.texts.head⟩, .of .add ⟨2, Quote.texts.head⟩]
    let ledger := Ledger.empty.recordAll ys
    create 4 50 25 (.script []) = .ok l ∧ SameHistories l.rest.1.toList ys ∧
      ledger.known.size = 2 ∧ 1 ≤ ledger.replayedSize ∧ ledger.replayedSize ≤ 2 := by
  intro l ys ledger
  have hok : create 4 50 25 (.script []) = .ok l := rfl
  have hworks : l.rest.1.toList = [.of .add ⟨1, Quote.texts.head⟩, .of .add ⟨2, Quote.texts.head⟩,
      .of .update ⟨1, Quote.texts.head⟩, .of .delete ⟨1, Quote.texts.head⟩] := by decide +kernel
  have hsame : SameHistories l.rest.1.toList ys := by
    intro id
    rw [hworks]
    by_cases h₁ : id = 1
    · subst h₁
      rfl
    · by_cases h₂ : id = 2
      · subst h₂
        rfl
      · simp [ys, worksOn, Work.of, Ne.symm h₁, Ne.symm h₂]
  obtain ⟨hknown, hlower, hupper, -⟩ := final_size_bounds hok hsame
  exact ⟨hok, hsame, hknown, hlower, hupper⟩

end Workload

end ShardedIndex
