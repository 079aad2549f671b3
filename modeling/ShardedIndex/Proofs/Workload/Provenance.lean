import Mathlib
import ShardedIndex.Proofs.Workload.Spending

/-!
# Where the ids of a workload come from

An add carries the next number that no add before it carried, and an update or a delete an id that
was added before. So the first work on a document is its add, and it is the only one; since this
speaks of each document by itself, it stays true when works on different documents change places.
-/

namespace ShardedIndex

variable {ws xs ys : List Work} {v w : Work} {id : DocumentId}

/-! ### Grounded sequences -/

/-- The ids that adds carry, in order. -/
def addedIds (ws : List Work) : List DocumentId := (ws.filter (·.kind = .add)).map Work.id

/-- Sequences whose adds are numbered from one and whose other works name ids added before. -/
inductive Grounded : List Work → Prop
  | nil : Grounded []
  | add {ws : List Work} {w : Work} (hws : Grounded ws) (hkind : w.kind = .add)
      (hid : w.id.toNat = (addedIds ws).length + 1) : Grounded (ws ++ [w])
  | target {ws : List Work} {w : Work} (hws : Grounded ws) (hkind : w.kind ≠ .add)
      (hid : w.id ∈ addedIds ws) : Grounded (ws ++ [w])

lemma addedIds_concat (ws : List Work) (w : Work) :
    addedIds (ws ++ [w]) = addedIds ws ++ if w.kind = .add then [w.id] else [] := by
  by_cases hkind : w.kind = .add <;> simp [addedIds, hkind]

lemma length_addedIds (ws : List Work) : (addedIds ws).length = ws.countP (·.kind = .add) := by
  rw [addedIds, List.length_map, List.countP_eq_length_filter]

lemma mem_addedIds : id ∈ addedIds ws ↔ ∃ w ∈ ws, w.kind = .add ∧ w.id = id := by
  simp [addedIds, and_assoc]

namespace Grounded

/-- The adds are numbered from one. -/
lemma toNat_addedIds (hws : Grounded ws) :
    (addedIds ws).map UInt64.toNat = List.range' 1 (addedIds ws).length := by
  induction hws with
  | nil => rfl
  | add _ hkind hid ih =>
    rw [addedIds_concat, if_pos hkind, List.map_append, ih, List.length_append,
      List.length_singleton, List.range'_1_concat, List.map_singleton, hid, Nat.add_comm 1]
  | target _ hkind _ ih => rwa [addedIds_concat, if_neg hkind, List.append_nil]

lemma nodup_addedIds (hws : Grounded ws) : (addedIds ws).Nodup := by
  refine List.Nodup.of_map UInt64.toNat ?_
  rw [hws.toNat_addedIds]
  exact List.nodup_range'

lemma toNat_le_of_mem (hws : Grounded ws) (hmem : id ∈ addedIds ws) :
    id.toNat ≤ (addedIds ws).length := by
  have hnumber := List.mem_map_of_mem (f := UInt64.toNat) hmem
  rw [hws.toNat_addedIds, List.mem_range'_1] at hnumber
  omega

lemma getElem?_concat_cases {i : Nat} (hi : (ws ++ [v])[i]? = some w) :
    ws[i]? = some w ∨ i = ws.length ∧ v = w := by
  rw [List.getElem?_append] at hi
  split_ifs at hi with hlt
  · exact .inl hi
  · obtain ⟨hlast, heq⟩ := List.getElem?_eq_some_iff.1 hi
    rw [List.length_singleton] at hlast
    exact .inr ⟨by omega, by simpa using heq⟩

/-- A work that is no add names the id of an earlier add. -/
lemma exists_add_before (hws : Grounded ws) {i : Nat} (hi : ws[i]? = some w)
    (hkind : w.kind ≠ .add) : ∃ j < i, ∃ v, ws[j]? = some v ∧ v.kind = .add ∧ v.id = w.id := by
  -- What stands before a work stays there when the sequence grows.
  have hgrow {ws : List Work} {i : Nat} (v : Work)
      (h : ∃ j < i, ∃ u, ws[j]? = some u ∧ u.kind = .add ∧ u.id = w.id) :
      ∃ j < i, ∃ u, (ws ++ [v])[j]? = some u ∧ u.kind = .add ∧ u.id = w.id := by
    obtain ⟨j, hj, u, hu, hadd⟩ := h
    have hlt := (List.getElem?_eq_some_iff.1 hu).1
    exact ⟨j, hj, u, by rw [List.getElem?_append_left hlt, hu], hadd⟩
  induction hws generalizing i with
  | nil => cases hi
  | add _ hadd _ ih =>
    rcases getElem?_concat_cases hi with hi | ⟨-, rfl⟩
    · exact hgrow _ (ih hi)
    · exact absurd hadd hkind
  | target _ _ hid ih =>
    rcases getElem?_concat_cases hi with hi | ⟨rfl, rfl⟩
    · exact hgrow _ (ih hi)
    · obtain ⟨u, hu, hadd⟩ := mem_addedIds.1 hid
      obtain ⟨j, hj, rfl⟩ := List.mem_iff_getElem.1 hu
      exact ⟨j, hj, _, by rw [List.getElem?_append_left hj, List.getElem?_eq_getElem hj], hadd⟩

/-- Every id that occurs was added. -/
lemma mem_addedIds_of_mem (hws : Grounded ws) (hw : w ∈ ws) : w.id ∈ addedIds ws := by
  induction hws with
  | nil => cases hw
  | add _ hadd _ ih =>
    rw [addedIds_concat, if_pos hadd]
    rcases List.mem_append.1 hw with hw | hw
    · exact List.mem_append_left _ (ih hw)
    · rw [List.mem_singleton.1 hw]
      exact List.mem_append_right _ List.mem_cons_self
  | target _ hkind hid ih =>
    rw [addedIds_concat, if_neg hkind, List.append_nil]
    rcases List.mem_append.1 hw with hw | hw
    · exact ih hw
    · rwa [List.mem_singleton.1 hw]

/-- There is no work yet on the document that the next number names. -/
lemma worksOn_eq_nil (hws : Grounded ws) (hid : id.toNat = (addedIds ws).length + 1) :
    worksOn id ws = [] := by
  refine worksOn_eq_nil_iff.2 fun w hw hsame => ?_
  have hle := hws.toNat_le_of_mem (hws.mem_addedIds_of_mem hw)
  rw [hsame] at hle
  omega

/-- The first work on a document is its add, and no other work on it is an add. -/
lemma of_worksOn {rest : List Work} (hws : Grounded ws) (h : worksOn id ws = w :: rest) :
    w.kind = .add ∧ ∀ v ∈ rest, v.kind ≠ .add := by
  induction hws generalizing w rest with
  | nil => cases h
  | @add ws v hws hadd hnumber ih =>
    rw [worksOn_append, worksOn_singleton] at h
    split_ifs at h with hid
    · rw [hws.worksOn_eq_nil (hid ▸ hnumber), List.nil_append, List.cons.injEq] at h
      obtain ⟨rfl, rfl⟩ := h
      exact ⟨hadd, by simp⟩
    · exact ih (by simpa using h)
  | @target ws v hws hkind htarget ih =>
    rw [worksOn_append, worksOn_singleton] at h
    split_ifs at h with hid
    · obtain ⟨u, hu, -, hadded⟩ := mem_addedIds.1 htarget
      have hmem : u ∈ worksOn id ws := mem_worksOn.2 ⟨hu, hadded.trans hid⟩
      obtain ⟨x, xs, hbefore⟩ := List.exists_cons_of_ne_nil (List.ne_nil_of_mem hmem)
      obtain ⟨hfirst, hrest⟩ := ih hbefore
      rw [hbefore, List.cons_append, List.cons.injEq] at h
      obtain ⟨rfl, rfl⟩ := h
      simpa [or_imp, forall_and, hfirst, hkind] using hrest
    · exact ih (by simpa using h)

end Grounded

/-! ### Grounded workloads -/

namespace Workload

variable {σ : Type} [RandomSource σ] {l l' : Workload σ} {source : σ} {kind : WorkKind}

/-- The next work is an add of the next number, or it names an id of the pool. -/
lemma emitted_of_next? (hnext : l.next? = some (w, l')) :
    w.payload.id = w.id ∧
      (w.kind = .add ∧ w.id = l.nextId ∧ l'.pool = l.pool.push w.id ∧ l'.nextId = l.nextId + 1 ∨
        w.kind ≠ .add ∧ w.id ∈ l.pool ∧ l'.pool = l.pool ∧ l'.nextId = l.nextId) := by
  obtain ⟨kind, source, hmay, hemit⟩ := next?_eq_some hnext
  cases kind with
  | add =>
    cases hemit
    exact ⟨rfl, .inl ⟨rfl, rfl, rfl, rfl⟩⟩
  | _ =>
    have hpos : 0 < l.pool.size := by
      simp only [mayEmit, WorkKind.needsTarget, Bool.not_true, Bool.false_or, Bool.and_eq_true,
        decide_eq_true_eq] at hmay
      exact hmay.2
    have hpooled : (l.pooledId source).1 ∈ l.pool := by
      rw [pooledId, dif_pos hpos]
      exact Array.getElem_mem _
    cases hemit
    exact ⟨rfl, .inr ⟨WorkKind.noConfusion, hpooled, rfl, rfl⟩⟩

/-- What a workload has come to since `adds` adds were to come: the works so far are grounded and
carry the ids of their quotes, the pool holds the ids of their adds, and the next add gets the
number behind them. -/
structure Grown (adds : Nat) (ws : List Work) (l : Workload σ) : Prop where
  grounded : Grounded ws
  pool_eq : l.pool.toList = addedIds ws
  nextId_eq : l.nextId = UInt64.ofNat (l.pool.size + 1)
  adds_eq : (addedIds ws).length + (l.quotas.get .add).toNat = adds
  payload : ∀ w ∈ ws, w.payload.id = w.id

lemma Grown.next {adds : Nat} (hl : l.Grown adds ws) (hlt : adds < 2 ^ 64)
    (hnext : l.next? = some (w, l')) : l'.Grown adds (ws ++ [w]) := by
  obtain ⟨hpayload, hemitted⟩ := emitted_of_next? hnext
  have hpayloads : ∀ v ∈ ws ++ [w], v.payload.id = v.id := by
    simpa [or_imp, forall_and, hpayload] using hl.payload
  have hspent := get_quotas_of_next? hnext .add
  have hadds := hl.adds_eq
  rcases hemitted with ⟨hkind, hid, hpool, hnextId⟩ | ⟨hkind, hid, hpool, hnextId⟩
  · have hconcat : addedIds (ws ++ [w]) = addedIds ws ++ [w.id] := by
      rw [addedIds_concat, if_pos hkind]
    rw [if_pos hkind] at hspent
    have hnumber : w.id.toNat = (addedIds ws).length + 1 := by
      rw [hid, hl.nextId_eq, ← Array.length_toList, hl.pool_eq]
      exact UInt64.toNat_ofNat_of_lt' (by simp only [UInt64.size]; omega)
    refine ⟨.add hl.grounded hkind hnumber, ?_, ?_, ?_, hpayloads⟩
    · rw [hpool, Array.toList_push, hl.pool_eq, hconcat]
    · rw [hnextId, hpool, hl.nextId_eq, Array.size_push, UInt64.ofNat_add (l.pool.size + 1) 1]
      rfl
    · rw [hconcat, List.length_append, List.length_singleton]
      omega
  · have hconcat : addedIds (ws ++ [w]) = addedIds ws := by
      rw [addedIds_concat, if_neg hkind, List.append_nil]
    rw [if_neg hkind] at hspent
    have hadded : w.id ∈ addedIds ws := by
      rw [← hl.pool_eq]
      exact Array.mem_toList_iff.2 hid
    refine ⟨.target hl.grounded hkind hadded, ?_, ?_, ?_, hpayloads⟩
    · rw [hpool, hl.pool_eq, hconcat]
    · rw [hnextId, hpool, hl.nextId_eq]
    · rw [hconcat]
      omega

/-- All works of an accepted workload are grounded. -/
lemma grown_of_create_ok {total : UInt64} {pctAdd pctUpdate : UInt32}
    (hok : create total pctAdd pctUpdate source = .ok l) (n : Nat) :
    (l.after n).Grown (Quotas.ofPercentages total pctAdd pctUpdate).add.toNat (l.yielded n) := by
  obtain ⟨-, -, -, rfl⟩ := create_eq_ok_iff.1 hok
  refine yielded_induction (P := fun ws l => l.Grown _ ws) ?_
    (fun hl hnext => hl.next (UInt64.toNat_lt _) hnext) n
  exact ⟨.nil, rfl, rfl, Nat.zero_add _, by simp⟩

/-- The ids of an accepted workload, after any number of calls and with any random source. The adds
carry the numbers from one on, in order, up to the quota of adds; an update or a delete carries the
id of an earlier add; the pool lists the ids of the adds, and the next one to be given is the number
behind them; and every quote carries the id of its work. However the works on different documents
change places, the first work on a document is its add, and the only one. -/
theorem ids_grounded {total : UInt64} {pctAdd pctUpdate : UInt32}
    (hok : create total pctAdd pctUpdate source = .ok l) (n : Nat) :
    let works := l.yielded n
    let quota := (Quotas.ofPercentages total pctAdd pctUpdate).add.toNat
    (addedIds works).map UInt64.toNat = List.range' 1 (works.countP (·.kind = .add)) ∧
      (total.toNat ≤ n → works.countP (·.kind = .add) = quota) ∧ (addedIds works).Nodup ∧
      (∀ (i : Nat) (w : Work), works[i]? = some w → w.kind ≠ .add →
        ∃ j < i, ∃ v, works[j]? = some v ∧ v.kind = .add ∧ v.id = w.id) ∧
      (l.after n).pool.toList = addedIds works ∧
      (l.after n).nextId = .ofNat ((l.after n).pool.size + 1) ∧
      (∀ w ∈ works, w.payload.id = w.id) ∧
      ∀ ys, SameHistories works ys → ∀ id w rest, worksOn id ys = w :: rest →
        w.kind = .add ∧ ∀ v ∈ rest, v.kind ≠ .add := by
  intro works quota
  have hgrown := grown_of_create_ok hok n
  have hgrounded := hgrown.grounded
  refine ⟨length_addedIds works ▸ hgrounded.toNat_addedIds, fun hn => ?_,
    hgrounded.nodup_addedIds, fun i w hi hkind => hgrounded.exists_add_before hi hkind,
    hgrown.pool_eq, hgrown.nextId_eq, hgrown.payload, fun ys hsame id w rest h => ?_⟩
  · exact countP_yielded_of_le hok hn .add
  · exact hgrounded.of_worksOn ((hsame id).trans h)

/-- One add, and nothing but deletes after it, all of the same document. -/
theorem ids_grounded_oneAdd :
    let l : Workload WordSource := ⟨.script [], ⟨1, 0, 99⟩, #[], 1⟩
    create 100 1 0 (.script []) = .ok l ∧ (∀ w ∈ l.yielded 100, w.id = 1) ∧
      (l.after 100).pool.toList = [1] := by
  intro l
  have hok : create 100 1 0 (.script []) = .ok l := rfl
  obtain ⟨hnumbers, hspent, -, hbefore, hpool, -⟩ := ids_grounded hok 100
  have hquota : (Quotas.ofPercentages 100 1 0).add.toNat = 1 := rfl
  have hadded : addedIds (l.yielded 100) = [1] := by
    rw [hspent (by decide), hquota] at hnumbers
    exact List.map_injective_iff.2 (fun _ _ => UInt64.toNat_inj.1) hnumbers
  have hone {w : Work} (hw : w ∈ l.yielded 100) (hkind : w.kind = .add) : w.id = 1 := by
    have hmem : w.id ∈ addedIds (l.yielded 100) := mem_addedIds.2 ⟨w, hw, hkind, rfl⟩
    rwa [hadded, List.mem_singleton] at hmem
  refine ⟨hok, fun w hw => ?_, hpool.trans hadded⟩
  by_cases hkind : w.kind = .add
  · exact hone hw hkind
  · obtain ⟨i, hi, rfl⟩ := List.mem_iff_getElem.1 hw
    obtain ⟨j, -, v, hv, hadd, hid⟩ := hbefore i _ (List.getElem?_eq_getElem hi) hkind
    rw [← hid]
    exact hone (List.mem_of_getElem? hv) hadd

end Workload

end ShardedIndex
