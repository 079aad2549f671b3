import Mathlib
import ShardedIndex.Proofs.Load.Tracking

/-!
# Ledger and documents side by side

Whatever the schedule and whichever writers fail, the documents are those of the ledger and of at
most one further work for each writer, the one that it applied and is about to confirm. So the
ledger tells the number of documents as soon as all writers have stopped.
-/

namespace ShardedIndex.Load

variable {σ : Type} {b : Binding} {s : Store} {l : Load σ} {confirmed : List (Nat × Work)}
  {applied : List Work} {i : Nat} {x : Writer}

/-- The works that are applied but not confirmed yet, in the order of the writers. -/
def pending (l : Load σ) : List Work :=
  (List.range l.writers.size).filterMap fun i => (l.stageOf i).pending?

/-- A writer is ahead of the ledger by one work at most, a work of its own. -/
lemma Accounted.filter_pending (ht : Accounted l confirmed applied) (i : Nat) :
    l.pending.filter (l.writerOf · = i) =
      if i < l.writers.size then (l.stageOf i).pending?.toList else [] := by
  refine filter_filterMap_range (fun i w hw => ?_) _ i
  cases hx : l.writers[i]? with
  | none =>
    rw [stageOf_eq_idle hx] at hw
    cases hw
  | some x =>
    rw [stageOf_eq hx] at hw
    exact (ht.follows i x hx).owner_eq (Stage.work?_of_pending? hw)

lemma Accounted.filter_ledger (ht : Accounted l confirmed applied) (i : Nat) :
    l.audit.ledger.works.toList.filter (l.writerOf · = i) =
      (confirmed.filter (·.1 = i)).map Prod.snd := by
  rw [ht.ledger_eq, List.filter_map]
  refine congrArg _ (List.filter_congr fun p hp => ?_)
  simp [ht.owned p hp]

/-- The works that are applied are those of the ledger and those that are pending. -/
lemma Accounted.sameHistories (ht : Accounted l confirmed applied) :
    SameHistories applied (l.audit.ledger.works.toList ++ l.pending) := by
  refine sameHistories_of_writers ht.writers_pos fun i x hx => ?_
  have hlt : i < l.writers.size := (Array.getElem?_eq_some_iff.1 hx).1
  rw [List.filter_append, ht.filter_ledger, ht.filter_pending, if_pos hlt, stageOf_eq hx,
    (ht.follows i x hx).applied_eq, (ht.follows i x hx).confirmed_eq]

lemma Tracked.holds_ledger (ht : Tracked b l confirmed applied) :
    b.Holds l.store (contents (l.audit.ledger.works.toList ++ l.pending)) := by
  rw [← ht.sameHistories.contents_eq]
  exact ht.holds

lemma pending?_of_hasStopped (hstopped : l.hasStopped x = true) : x.stage.pending? = none := by
  cases hs : x.stage with
  | applied w => simp [hasStopped, hs] at hstopped
  | _ => rfl

/-- A writer that has stopped has confirmed what it applied. -/
lemma pending_eq_nil (hstopped : ∀ x ∈ l.writers, l.hasStopped x = true) : l.pending = [] := by
  rw [pending, List.filterMap_eq_nil_iff]
  intro i hi
  obtain ⟨x, hx⟩ : ∃ x, l.writers[i]? = some x :=
    ⟨_, Array.getElem?_eq_getElem (List.mem_range.1 hi)⟩
  rw [stageOf_eq hx]
  exact pending?_of_hasStopped (hstopped x (Array.mem_of_getElem? hx))

lemma hasStopped_of_isFinished (hf : l.isFinished = true) :
    ∀ x ∈ l.writers, l.hasStopped x = true := by
  simp only [isFinished, Bool.and_eq_true, Array.all_eq_true_iff_forall_mem] at hf
  exact hf.2

/-- A writer that has not failed and has nothing left to do has confirmed its whole inbox. -/
lemma Accounted.confirmed_eq_size (ht : Accounted l confirmed applied)
    (hx : l.writers[i]? = some x) (hfault : x.stage.fault? = none)
    (hstopped : l.hasStopped x = true) : x.confirmed = x.inbox.size := by
  have htaken := (ht.follows i x hx).taken_eq
  cases hs : x.stage with
  | idle =>
    simp only [hasStopped, hs, Bool.and_eq_true, decide_eq_true_eq] at hstopped
    rw [hs, Stage.inHand, Nat.add_zero] at htaken
    rw [← htaken, hstopped.2]
  | holding w => simp [hasStopped, hs] at hstopped
  | applied w => simp [hasStopped, hs] at hstopped
  | failed fault => simp [hs, Stage.fault?] at hfault
  | closed fault => simp [hs, Stage.fault?] at hfault

variable [RandomSource σ]

/-- Along any run, with writers that fail at any time or not at all: the works that a writer
confirmed are the first of those handed to it; the documents are those of the ledger and of at most
one pending work for each writer; when all writers have stopped, the ledger tells how many there
are; and the load comes out with the fault of the first of the writers that failed, if one did. A
run that is not at its end can go on without a failure, and only so many actions are possible. -/
theorem documents_follow_ledger (hb : b.Fresh s) (hi : b.interceptor = none)
    (workload : Workload σ) (writers : Nat) (schedule : List Action) :
    let start := start ⟨workload, .empty⟩ s writers
    let l := start.run b schedule
    let confirmed := confirmations b start schedule
    let failed := failures b start schedule
    (l.audit.ledger.works.toList = confirmed.map Prod.snd ∧
      ∀ i x, l.writers[i]? = some x →
        (confirmed.filter (·.1 = i)).map Prod.snd <+: x.inbox.toList) ∧
      (b.Holds l.store (contents (l.audit.ledger.works.toList ++ l.pending)) ∧
        ∀ i, (l.pending.filter (l.writerOf · = i)).length ≤ 1) ∧
      ((∀ x ∈ l.writers, l.hasStopped x = true) →
        b.documentCount l.store = l.audit.ledger.replayedSize) ∧
      ((∃ fault, l.outcome b = .error fault) ↔ failed ≠ []) ∧
      (∀ fault, l.outcome b = .error fault ↔
        ∃ i, (i, fault) ∈ failed ∧ ∀ p ∈ failed, i ≤ p.1) ∧
      (start.Effective b schedule → schedule.length ≤ 4 * workload.quotas.remaining + 1) ∧
      (l.isFinished = false → ∃ a, (∀ i fault, a ≠ .fail i fault) ∧ l.step b a ≠ l) := by
  intro start l confirmed failed
  obtain ⟨applied, ht⟩ :=
    tracked_confirmations hb hi ⟨workload, .empty⟩ rfl writers schedule
  have hfailed : l.StoppedBy failed := stoppedBy_failures b ⟨workload, .empty⟩ s writers schedule
  refine ⟨⟨ht.ledger_eq, fun i x hx => ?_⟩, ⟨ht.holds_ledger, fun i => ?_⟩, fun hstopped => ?_,
    hfailed.exists_error_iff, fun fault => hfailed.outcome_eq_error_iff, fun he => ?_, fun hf => ?_⟩
  · rw [(ht.follows i x hx).confirmed_eq]
    exact List.take_prefix ..
  · rw [ht.filter_pending]
    split_ifs
    · cases (l.stageOf i).pending? <;> simp
    · simp
  · rw [ht.holds_ledger.documentCount hb.partitioned, pending_eq_nil hstopped, List.append_nil,
      Ledger.replayedSize_eq]
  · rw [← effort_start ⟨workload, .empty⟩ s writers]
    exact he.length_le (size_writers_start_pos _ s writers)
  · exact exists_step_ne ht.writers_pos (fun i x hx => (ht.follows i x hx).taken_le) hf

/-- Two adds, an update and a delete over a source that always yields the first choice. -/
def sample : Workload WordSource := ⟨.script [], ⟨2, 1, 1⟩, #[], 1⟩

/-- Writer 1 applies the second add, and writer 0 fails on the first one. -/
def cutShort : List Action :=
  [.dispatch, .dispatch, .take 0, .take 1, .apply 1, .fail 0 (.refusedWork "Work")]

theorem documents_follow_ledger_cutShort :
    let l := (start ⟨sample, .empty⟩ .pair 2).run (.pair none) cutShort
    (Binding.pair none).Fresh .pair ∧ (Binding.pair none).interceptor = none ∧
      l.audit.ledger.works = #[] ∧ (Binding.pair none).documentCount l.store = 1 ∧
      (Binding.pair none).Holds l.store (contents [.of .add ⟨2, Quote.texts[0]⟩]) ∧
      l.outcome (.pair none) = .error (.refusedWork "Work") := by
  intro l
  obtain ⟨-, ⟨hholds, -⟩, -, -, houtcome, -⟩ :=
    documents_follow_ledger (Binding.fresh_pair none) rfl sample 2 cutShort
  have hfailed : failures (.pair none) (start ⟨sample, .empty⟩ .pair 2) cutShort =
      [(0, .refusedWork "Work")] := by decide +kernel
  have hledger : l.audit.ledger.works = #[] := by decide +kernel
  have hpending : l.pending = [.of .add ⟨2, Quote.texts[0]⟩] := by decide +kernel
  rw [hfailed] at houtcome
  refine ⟨Binding.fresh_pair none, rfl, hledger, ?_, ?_, (houtcome _).2 ⟨0, by simp, by simp⟩⟩
  · decide +kernel
  · have hworks : l.audit.ledger.works.toList ++ l.pending = [.of .add ⟨2, Quote.texts[0]⟩] := by
      rw [hledger, hpending]
      rfl
    rw [← hworks]
    exact hholds

end ShardedIndex.Load
