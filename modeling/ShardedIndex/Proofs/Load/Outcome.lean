import Mathlib
import ShardedIndex.Proofs.Load.Move

/-!
# Outcomes of a load

A load comes out with the fault of the first writer that is stopped by one, and otherwise with a
result.
-/

namespace ShardedIndex.Load

variable {σ : Type} {b : Binding} {l l' : Load σ} {i j : Nat} {x y : Writer} {fault : Fault}
  {failed : List (Nat × Fault)}

/-! ### Stopped writers -/

lemma stageOf_set (hx : l.writers[i]? = some x) (hset : l'.writers = (l.put i y).writers) :
    l'.stageOf j = if i = j then y.stage else l.stageOf j := by
  rw [stageOf, hset, getElem?_put hx]
  split_ifs
  · rfl
  · rfl

/-- The writers that are stopped are those that failed. -/
def StoppedBy (l : Load σ) (failed : List (Nat × Fault)) : Prop :=
  ∀ i fault, (i, fault) ∈ failed ↔ (l.stageOf i).fault? = some fault

lemma StoppedBy.keep (hl : l.StoppedBy failed) (hx : l.writers[i]? = some x)
    (hset : l'.writers = (l.put i y).writers) (hy : y.stage.fault? = x.stage.fault?) :
    l'.StoppedBy failed := by
  intro j fault
  rw [hl j fault, stageOf_set hx hset]
  split_ifs with hij
  · rw [← hij, stageOf_eq hx, hy]
  · rfl

lemma StoppedBy.stop (hl : l.StoppedBy failed) (hx : l.writers[i]? = some x)
    (hset : l'.writers = (l.put i y).writers) (hs : x.stage.fault? = none)
    (hy : y.stage.fault? = some fault) : l'.StoppedBy (failed ++ [(i, fault)]) := by
  intro j other
  rw [List.mem_append, List.mem_singleton, hl j other, stageOf_set hx hset, Prod.mk.injEq]
  split_ifs with hij
  · rw [← hij, stageOf_eq hx, hs, hy]
    simp [eq_comm]
  · simp [Ne.symm hij]

lemma size_writers_start_pos (audit : AuditedWorkload σ) (s : Store) (writers : Nat) :
    0 < (start audit s writers).writers.size := by
  simp [start]

lemma eq_fresh_of_start {audit : AuditedWorkload σ} {s : Store} {writers : Nat}
    (hx : (start audit s writers).writers[i]? = some x) : x = .fresh := by
  rw [start, Array.getElem?_replicate] at hx
  split_ifs at hx
  exact (Option.some.inj hx).symm

lemma stoppedBy_start (audit : AuditedWorkload σ) (s : Store) (writers : Nat) :
    (start audit s writers).StoppedBy [] := by
  intro i fault
  have hidle : (start audit s writers).stageOf i = .idle := by
    cases hx : (start audit s writers).writers[i]? with
    | none => exact stageOf_eq_idle hx
    | some x => rw [stageOf_eq hx, eq_fresh_of_start hx, Writer.fresh]
  rw [hidle]
  simp [Stage.fault?]

/-! ### Outcomes -/

lemma exists_of_fault? (hf : (l.stageOf i).fault? = some fault) :
    ∃ x, l.writers[i]? = some x ∧ x.stage.fault? = some fault := by
  cases hx : l.writers[i]? with
  | none =>
    rw [stageOf_eq_idle hx] at hf
    cases hf
  | some x =>
    rw [stageOf_eq hx] at hf
    exact ⟨x, rfl, hf⟩

/-- The fault of a load is that of the first writer that is stopped. -/
lemma fault?_eq_some_iff : l.fault? = some fault ↔
    ∃ i, (l.stageOf i).fault? = some fault ∧ ∀ j < i, (l.stageOf j).fault? = none := by
  rw [fault?, List.findSome?_eq_some_iff]
  constructor
  · rintro ⟨before, x, after, hwriters, hx, hbefore⟩
    refine ⟨before.length, ?_, fun j hj => ?_⟩
    · have hget : l.writers[before.length]? = some x := by
        rw [← Array.getElem?_toList, hwriters]
        simp
      rw [stageOf_eq hget, hx]
    · have hget : l.writers[j]? = some before[j] := by
        rw [← Array.getElem?_toList, hwriters, List.getElem?_append_left hj,
          List.getElem?_eq_getElem hj]
      rw [stageOf_eq hget]
      exact hbefore _ (List.getElem_mem hj)
  · rintro ⟨i, hi, hbefore⟩
    obtain ⟨x, hx, hfault⟩ := exists_of_fault? hi
    obtain ⟨hlt, hget⟩ := Array.getElem?_eq_some_iff.1 hx
    have hlt' : i < l.writers.toList.length := by simpa using hlt
    refine ⟨l.writers.toList.take i, x, l.writers.toList.drop (i + 1), ?_, hfault, ?_⟩
    · rw [← hget, ← Array.getElem_toList hlt, ← List.drop_eq_getElem_cons hlt',
        List.take_append_drop]
    · intro y hy
      obtain ⟨j, hj, rfl⟩ := List.mem_take_iff_getElem.1 hy
      have hj' : j < l.writers.size := by
        simp only [Array.length_toList] at hj
        omega
      have hnone := hbefore j (by omega)
      rw [stageOf_eq (Array.getElem?_eq_getElem hj')] at hnone
      simpa using hnone

lemma StoppedBy.fault?_eq_none_iff (hl : l.StoppedBy failed) :
    l.fault? = none ↔ failed = [] := by
  constructor
  · intro hnone
    rw [List.eq_nil_iff_forall_not_mem]
    rintro ⟨i, fault⟩ hmem
    obtain ⟨x, hx, hfault⟩ := exists_of_fault? ((hl i fault).1 hmem)
    have hstage := List.findSome?_eq_none_iff.1 hnone x
      (by simpa using Array.mem_of_getElem? hx)
    rw [hfault] at hstage
    cases hstage
  · rintro rfl
    by_contra hne
    obtain ⟨fault, hfault⟩ := Option.ne_none_iff_exists'.1 hne
    obtain ⟨i, hi, -⟩ := fault?_eq_some_iff.1 hfault
    exact List.not_mem_nil ((hl i fault).2 hi)

lemma outcome_eq_error : l.outcome b = .error fault ↔ l.fault? = some fault := by
  unfold outcome
  cases l.fault? <;> simp

/-- A load fails exactly when some writer failed. -/
lemma StoppedBy.exists_error_iff (hl : l.StoppedBy failed) :
    (∃ fault, l.outcome b = .error fault) ↔ failed ≠ [] := by
  simp only [outcome_eq_error, ne_eq, ← hl.fault?_eq_none_iff, Option.ne_none_iff_exists']

/-- The fault of a load is that of the first writer that failed. -/
lemma StoppedBy.outcome_eq_error_iff (hl : l.StoppedBy failed) :
    l.outcome b = .error fault ↔ ∃ i, (i, fault) ∈ failed ∧ ∀ p ∈ failed, i ≤ p.1 := by
  rw [outcome_eq_error, fault?_eq_some_iff]
  refine exists_congr fun i => and_congr (hl i fault).symm ?_
  constructor
  · rintro hbefore ⟨j, other⟩ hmem
    by_contra hlt
    have hstage := (hl j other).1 hmem
    rw [hbefore j (Nat.lt_of_not_le hlt)] at hstage
    cases hstage
  · intro hfirst j hj
    by_contra hne
    obtain ⟨other, hother⟩ := Option.ne_none_iff_exists'.1 hne
    exact Nat.not_le_of_lt hj (hfirst _ ((hl j other).2 hother))

end ShardedIndex.Load
