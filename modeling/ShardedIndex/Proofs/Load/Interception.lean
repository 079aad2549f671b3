import Mathlib
import ShardedIndex.Proofs.Binding.Redirection
import ShardedIndex.Proofs.Load.Convergence
import ShardedIndex.Proofs.Workload.Provenance

/-!
# Loads with an interceptor

The ledger records each work as it was handed over, and the documents follow what the interceptor
left of it. A load without failures therefore compares the documents of two sequences, and it finds
a difference when the interceptor changes what is present at the end.
-/

namespace ShardedIndex

/-! ### What an interceptor leaves -/

namespace Binding

variable {b : Binding} {w v : Work} {ws xs ys : List Work}

/-- A work whose quote carries its id stays on its document. -/
lemma id_of_intercept (hid : w.payload.id = w.id) (hv : b.intercept w = some v) : v.id = w.id := by
  have hsubject : b.subject w = w.id := by
    by_contra hne
    exact ((Verdict.subject_ne_iff _ w).1 hne).2 hid
  rw [id_of_intercept_eq_subject hv, hsubject]

/-- The works on a document are intercepted apart from the others. -/
lemma worksOn_intercepted (hids : ∀ w ∈ ws, w.payload.id = w.id) (id : DocumentId) :
    worksOn id (b.intercepted ws) = b.intercepted (worksOn id ws) := by
  rw [worksOn, worksOn, intercepted, intercepted, List.filter_filterMap, List.filterMap_filter]
  refine List.filterMap_congr fun w hw => ?_
  cases hv : b.intercept w with
  | none => simp
  | some v => by_cases hid : w.id = id <;> simp [id_of_intercept (hids w hw) hv, hid]

lemma sameHistories_intercepted (hids : ∀ w ∈ ys, w.payload.id = w.id)
    (hsame : SameHistories xs ys) :
    SameHistories (b.intercepted xs) (b.intercepted ys) := by
  intro id
  rw [worksOn_intercepted (fun w hw => hids w (hsame.perm.mem_iff.1 hw)), hsame id,
    worksOn_intercepted hids]

/-- The interceptor lets a work have its effect on what is present: it does not drop the work, and
it makes it a delete if and only if it was one. -/
def KeepsPresence (b : Binding) (w : Work) : Prop :=
  ∃ v, b.intercept w = some v ∧ (v.kind = .delete ↔ w.kind = .delete)

/-- Documents of the same ids are there when every work has its effect on what is present. -/
lemma idsOf_contents_intercepted (hids : ∀ w ∈ ws, w.payload.id = w.id)
    (hkeeps : ∀ w ∈ ws, b.KeepsPresence w) :
    idsOf (contents (b.intercepted ws)) = idsOf (contents ws) := by
  induction ws using List.reverseRecOn with
  | nil => rfl
  | append_singleton ws w ih =>
    simp only [List.mem_append, List.mem_singleton, or_imp, forall_and, forall_eq] at hids hkeeps
    obtain ⟨v, hv, hkind⟩ := hkeeps.2
    have hid : v.id = w.id := id_of_intercept hids.2 hv
    have houtcome : v.outcome.isSome = w.outcome.isSome := by
      by_cases hdelete : w.kind = .delete <;> simp [Work.outcome, hkind, hdelete]
    rw [intercepted_concat, hv, Option.toList_some, contents_concat, contents_concat]
    ext id
    have hbefore := Finset.ext_iff.1 (ih hids.1 hkeeps.1) id
    rw [mem_idsOf, mem_idsOf] at hbefore ⊢
    rw [Work.getElem?_applyTo, Work.getElem?_applyTo, hid]
    split_ifs
    · rw [houtcome]
    · exact hbefore

end Binding

/-! ### Loads -/

namespace Load

variable {σ : Type} [RandomSource σ] {b : Binding} {s : Store} {total : UInt64}
  {pctAdd pctUpdate : UInt32} {source : σ} {audit : AuditedWorkload σ}

/-- The quotes of the works to come carry the ids of their works. -/
lemma payload_id_of_upcoming
    (hok : AuditedWorkload.create total pctAdd pctUpdate source = .ok audit) :
    ∀ w ∈ audit.workload.upcoming, w.payload.id = w.id := by
  intro w hw
  obtain ⟨hworkload, -⟩ := AuditedWorkload.create_ok hok
  rw [Workload.upcoming, Workload.take_eq] at hw
  exact (Workload.grown_of_create_ok hworkload _).payload w hw

lemma length_le_of_effective
    (hok : AuditedWorkload.create total pctAdd pctUpdate source = .ok audit) {writers : Nat}
    {schedule : List Action} (he : (start audit s writers).Effective b schedule) :
    schedule.length ≤ 4 * total.toNat + 1 := by
  obtain ⟨hremaining, -⟩ := Workload.create_ok (AuditedWorkload.create_ok hok).1
  rw [← hremaining, ← effort_start audit s writers]
  exact he.length_le (size_writers_start_pos audit s writers)

lemma exists_step_of_unfinished (hb : b.Fresh s)
    (hok : AuditedWorkload.create total pctAdd pctUpdate source = .ok audit) {writers : Nat}
    {schedule : List Action}
    (hf : ((start audit s writers).run b schedule).isFinished = false) :
    ∃ a, (∀ i fault, a ≠ .fail i fault) ∧
      ((start audit s writers).run b schedule).step b a ≠
        (start audit s writers).run b schedule := by
  obtain ⟨-, hledger⟩ := AuditedWorkload.create_ok hok
  obtain ⟨applied, hl, -⟩ := accounted_confirmations hb audit hledger writers schedule
  exact exists_step_ne hl.writers_pos (fun i x hx => (hl.follows i x hx).taken_le) hf

/-- A finished load without failures has counted all works, and it compares the documents that they
come to with those that they come to as the interceptor left them. -/
lemma outcome_of_isFinished (hb : b.Fresh s)
    (hok : AuditedWorkload.create total pctAdd pctUpdate source = .ok audit) (writers : Nat)
    (schedule : List Action) (hfails : failures b (start audit s writers) schedule = [])
    (hf : ((start audit s writers).run b schedule).isFinished = true) :
    ((start audit s writers).run b schedule).outcome b =
      .ok ⟨total.toNat, ⟨(contents audit.workload.upcoming).size,
        (contents (b.intercepted audit.workload.upcoming)).size⟩⟩ := by
  obtain ⟨hworkload, hledger⟩ := AuditedWorkload.create_ok hok
  obtain ⟨-, hviable⟩ := Workload.create_ok hworkload
  obtain ⟨-, hlength⟩ := Workload.rest_of_create_ok hworkload
  obtain ⟨applied, hl, ht⟩ := accounted_confirmations hb audit hledger writers schedule
  have hfault := (stoppedBy_failures b audit s writers schedule).fault?_eq_none_iff.2 hfails
  have hhanded := handed_of_failures_eq_nil hviable writers schedule hfails
  have hsame := hl.sameHistories_works hhanded hfault hf
  have happlied : SameHistories applied audit.workload.upcoming := by
    intro id
    rw [hl.sameHistories id, pending_eq_nil (hasStopped_of_isFinished hf), List.append_nil,
      hsame id]
  have hkept := b.sameHistories_intercepted (payload_id_of_upcoming hok) happlied
  rw [hl.outcome_eq_ok ht hb.partitioned hkept hsame hfault, hlength]

/-- A load over an accepted workload, with any interceptor, any number of writers and under any
schedule, when no apply fails: it can go on until it has finished, which takes a bounded number of
actions, and it has counted all works then. What it reports as expected is the number of documents
that the works come to, and as observed the number that they come to after the interceptor. The two
agree when the interceptor lets each work have its effect on what is present. -/
theorem outcome_with_interceptor (hb : b.Fresh s)
    (hok : AuditedWorkload.create total pctAdd pctUpdate source = .ok audit) (writers : Nat)
    (schedule : List Action) (hfails : failures b (start audit s writers) schedule = []) :
    let start := start audit s writers
    let l := start.run b schedule
    let works := audit.workload.rest.1.toList
    let report : Consistency := ⟨(contents works).size, (contents (b.intercepted works)).size⟩
    (start.Effective b schedule → schedule.length ≤ 4 * total.toNat + 1) ∧
      (l.isFinished = false → ∃ a, (∀ i fault, a ≠ .fail i fault) ∧ l.step b a ≠ l) ∧
      (l.isFinished = true → l.outcome b = .ok ⟨total.toNat, report⟩) ∧
      ((∀ w ∈ works, b.KeepsPresence w) → report.agrees = true) := by
  intro start l works report
  obtain ⟨hworkload, -⟩ := AuditedWorkload.create_ok hok
  have hworks : works = audit.workload.upcoming := (Workload.rest_of_create_ok hworkload).1
  refine ⟨length_le_of_effective hok, exists_step_of_unfinished hb hok, fun hf => ?_,
    fun hkeeps => ?_⟩
  · rw [outcome_of_isFinished hb hok writers schedule hfails hf, ← hworks]
  · have hids : ∀ w ∈ works, w.payload.id = w.id := hworks ▸ payload_id_of_upcoming hok
    have hsame := congrArg Finset.card (Binding.idsOf_contents_intercepted hids hkeeps)
    rw [card_idsOf, card_idsOf] at hsame
    exact Consistency.agrees_mk_iff.2 hsame.symm

/-- Adds become updates: the ids that are present stay the same. -/
theorem outcome_with_interceptor_addsUpdate :
    let b := Binding.pair (some fun w => if w.kind = .add then .update else .keep)
    let l := (start ⟨sample, .empty⟩ .pair 2).run b interleaved
    b.Fresh .pair ∧ AuditedWorkload.create 4 50 25 (.script []) = .ok ⟨sample, .empty⟩ ∧
      failures b (start ⟨sample, .empty⟩ .pair 2) interleaved = [] ∧
      l.outcome b = .ok ⟨4, ⟨1, 1⟩⟩ := by
  intro b l
  have hok : AuditedWorkload.create 4 50 25 (.script []) = .ok ⟨sample, .empty⟩ := rfl
  have hfails : failures b (start ⟨sample, .empty⟩ .pair 2) interleaved = [] := by decide +kernel
  have hf : l.isFinished = true := by decide +kernel
  obtain ⟨-, -, hend, hagrees⟩ :=
    outcome_with_interceptor (Binding.fresh_pair _) hok 2 interleaved hfails
  have hkeeps : ∀ w : Work, b.KeepsPresence w := by
    intro w
    by_cases hkind : w.kind = .add <;>
      simp [b, Binding.KeepsPresence, Binding.pair, Binding.intercept, hkind, Verdict.revise]
  have hsame := Consistency.agrees_mk_iff.1 (hagrees fun w _ => hkeeps w)
  have hcount : (contents sample.rest.1.toList).size = 1 := by decide +kernel
  refine ⟨Binding.fresh_pair _, hok, hfails, ?_⟩
  rw [hend hf, ← hsame, hcount]
  rfl

/-- A load may report a difference although no apply fails: the interceptor drops the only work, and
the writer confirms it all the same. -/
theorem not_always_agrees :
    ¬ ∀ (b : Binding) (s : Store) (audit : AuditedWorkload WordSource) (schedule : List Action)
      (result : LoadResult), b.Fresh s →
      AuditedWorkload.create 1 100 0 (.script []) = .ok audit →
      failures b (start audit s 1) schedule = [] →
      ((start audit s 1).run b schedule).isFinished = true →
      ((start audit s 1).run b schedule).outcome b = .ok result →
      result.consistency.agrees = true := by
  intro hagrees
  let b := Binding.pair (some fun _ => .skip)
  let workload : Workload WordSource := ⟨.script [], ⟨1, 0, 0⟩, #[], 1⟩
  let schedule : List Action := [.dispatch, .take 0, .apply 0, .confirm 0, .dispatch]
  have hok : AuditedWorkload.create 1 100 0 (.script []) = .ok ⟨workload, .empty⟩ := rfl
  have hfails : failures b (start ⟨workload, .empty⟩ .pair 1) schedule = [] := by decide +kernel
  have hf : ((start ⟨workload, .empty⟩ .pair 1).run b schedule).isFinished = true := by
    decide +kernel
  have houtcome := outcome_of_isFinished (Binding.fresh_pair _) hok 1 schedule hfails hf
  have hsame := hagrees b .pair _ schedule _ (Binding.fresh_pair _) hok hfails hf houtcome
  rw [Consistency.agrees_mk_iff] at hsame
  revert hsame
  decide +kernel

end Load

end ShardedIndex
