import Mathlib
import ShardedIndex.Proofs.Load.Drift

/-!
# Convergence of a load

When no writer fails, every work is handed to its writer and applied and confirmed there. The works
on a document keep their order then, whatever the schedule, and the load ends like one that applies
the works one after the other.
-/

namespace ShardedIndex.Load

variable {σ : Type} {b : Binding} {s : Store} {l l' : Load σ} {a : Action}
  {i : Nat} {x y : Writer} {works : List Work} {confirmed : List (Nat × Work)}
  {applied : List Work}

/-! ### Outcomes -/

/-- The outcome counts the works, and holds what they come to against what the interceptor left of
them. -/
lemma Accounted.outcome_eq_ok (hl : Accounted l confirmed applied)
    (ht : b.Took l.store applied) (hp : b.Partitioned)
    (happlied : SameHistories (b.intercepted applied) (b.intercepted works))
    (hsame : SameHistories l.audit.ledger.works.toList works) (hfault : l.fault? = none) :
    l.outcome b =
      .ok ⟨works.length, ⟨(contents works).size, (contents (b.intercepted works)).size⟩⟩ := by
  have hcount : l.confirmedCount = works.length := by
    rw [confirmedCount_eq, hl.count_eq, ← hsame.perm.length_eq, hl.ledger_eq, List.length_map]
  rw [outcome, hfault, hcount, Ledger.check, Ledger.replayedSize_eq, hsame.contents_eq,
    ht.holds.documentCount hp, happlied.contents_eq]

/-- Without an interceptor the replay of the ledger counts the documents. -/
lemma Tracked.replayedSize_eq (ht : Tracked b l confirmed applied) (hp : b.Partitioned)
    (happlied : SameHistories applied works)
    (hsame : SameHistories l.audit.ledger.works.toList works) :
    l.audit.ledger.replayedSize = b.documentCount l.store := by
  rw [Ledger.replayedSize_eq, hsame.contents_eq, ht.holds.documentCount hp, happlied.contents_eq]

/-- Without an interceptor the ledger and the documents agree. -/
lemma Tracked.outcome_eq_ok (ht : Tracked b l confirmed applied) (hp : b.Partitioned)
    (happlied : SameHistories applied works)
    (hsame : SameHistories l.audit.ledger.works.toList works) (hfault : l.fault? = none) :
    l.outcome b =
      .ok ⟨works.length, ⟨b.documentCount l.store, b.documentCount l.store⟩⟩ := by
  have hkept := Binding.intercepted_of_none ht.interceptor_eq
  have hcount : b.documentCount l.store = (contents works).size := by
    rw [← ht.replayedSize_eq hp happlied hsame, Ledger.replayedSize_eq, hsame.contents_eq]
  rw [ht.toAccounted.outcome_eq_ok ht.took hp (by rwa [hkept, hkept]) hsame hfault, hkept, hcount]

/-! ### Works handed over -/

variable [RandomSource σ]

/-- The works of a load that were handed over are with their writers, in order, and the others are
still to come. -/
structure Handed (works : List Work) (l : Load σ) : Prop where
  viable : l.audit.workload.Viable
  sent : ∃ sent, sent ++ l.audit.workload.upcoming = works ∧
    ∀ i x, l.writers[i]? = some x → x.inbox.toList = sent.filter (l.writerOf · = i)
  ended : l.dispatching = false → l.audit.workload.upcoming = []

lemma handed_start {audit : AuditedWorkload σ} (hv : audit.workload.Viable) (s : Store)
    (writers : Nat) : Handed audit.workload.upcoming (start audit s writers) := by
  refine ⟨hv, ⟨[], rfl, fun i x hx => ?_⟩, by simp [start]⟩
  obtain rfl := eq_fresh_of_start hx
  rfl

/-- A move of a writer leaves its inbox as it is. -/
lemma Handed.keep (hl : Handed works l) (hx : l.writers[i]? = some x)
    (hset : l'.writers = (l.put i y).writers) (hworkload : l'.audit.workload = l.audit.workload)
    (hd : l'.dispatching = l.dispatching) (hinbox : y.inbox = x.inbox) : Handed works l' := by
  obtain ⟨sent, hsent, hinboxes⟩ := hl.sent
  refine ⟨hworkload ▸ hl.viable, ⟨sent, hworkload ▸ hsent, fun j z hz => ?_⟩, ?_⟩
  · rw [hset, getElem?_put hx] at hz
    rw [writerOf_set hset]
    split_ifs at hz with hij
    · obtain rfl := Option.some.inj hz
      rw [hinbox, hinboxes i x hx, hij]
    · exact hinboxes j z hz
  · rw [hd, hworkload]
    exact hl.ended

/-- The next work goes to its writer. -/
lemma Handed.send {w : Work} {audit : AuditedWorkload σ} (hl : Handed works l)
    (hd : l.dispatching = true) (hnext : l.audit.next? = some (w, audit))
    (hx : l.writers[l.writerOf w]? = some x) : Handed works
      ({ l with audit }.put (l.writerOf w) { x with inbox := x.inbox.push w }) := by
  have hworkload := (AuditedWorkload.next?_eq_some hnext).1
  have hset : ({ l with audit }.put (l.writerOf w) { x with inbox := x.inbox.push w }).writers =
      (l.put (l.writerOf w) { x with inbox := x.inbox.push w }).writers := rfl
  obtain ⟨sent, hsent, hinboxes⟩ := hl.sent
  refine ⟨Workload.viable_of_next? hworkload, ⟨sent ++ [w], ?_, fun j z hz => ?_⟩, ?_⟩
  · rw [← hsent, Workload.upcoming_of_some hworkload, List.append_assoc]
    rfl
  · rw [hset, getElem?_put hx] at hz
    rw [writerOf_set hset]
    split_ifs at hz with hij
    · obtain rfl := Option.some.inj hz
      simp [hinboxes _ x hx, hij]
    · simp [hinboxes j z hz, hij]
  · intro hended
    rw [show l.dispatching = false from hended] at hd
    cases hd

/-- Works are only lost to writers that failed. -/
lemma Move.handed (hm : Move b l a l') (hl : Handed works l) (hstages : l.StoppedBy []) :
    Handed works l' := by
  cases hm with
  | exhaust hd hnext =>
    have hnone := AuditedWorkload.next?_eq_none_iff.1 hnext
    exact ⟨hl.viable, hl.sent, fun _ => Workload.upcoming_of_none hnone⟩
  | @lose w audit x fault hd hnext hx hs =>
    have hfault : (l.stageOf (l.writerOf w)).fault? = some fault := by
      rw [stageOf_eq hx, hs]
      rfl
    exact absurd ((hstages _ _).2 hfault) List.not_mem_nil
  | send hd hnext hx hs => exact hl.send hd hnext hx
  | take hx hs hw => exact hl.keep hx rfl rfl rfl rfl
  | apply hx hs ha => exact hl.keep hx rfl rfl rfl rfl
  | refuse hx hs ha => exact hl.keep hx rfl rfl rfl rfl
  | fail hx hs => exact hl.keep hx rfl rfl rfl rfl
  | confirm hx hs => exact hl.keep hx rfl rfl rfl rfl
  | close hx hs => exact hl.keep hx rfl rfl rfl rfl

lemma handed_of_failures_eq_nil {audit : AuditedWorkload σ} (hv : audit.workload.Viable)
    (writers : Nat) (schedule : List Action)
    (hfails : failures b (start audit s writers) schedule = []) :
    Handed audit.workload.upcoming ((start audit s writers).run b schedule) := by
  have hrun : ((start audit s writers).run b schedule).StoppedBy
        (failures b (start audit s writers) schedule) ∧
      (failures b (start audit s writers) schedule = [] →
        Handed audit.workload.upcoming ((start audit s writers).run b schedule)) :=
    run_induction (P := fun l failed => l.StoppedBy failed ∧
        (failed = [] → Handed audit.workload.upcoming l))
      (fun hm ⟨hstopped, hhanded⟩ => ⟨hm.stoppedBy hstopped, fun hnil => by
        obtain ⟨rfl, -⟩ := List.append_eq_nil_iff.1 hnil
        exact hm.handed (hhanded rfl) hstopped⟩)
      failure?_eq_none (size_writers_start_pos audit s writers)
      ⟨stoppedBy_start audit s writers, fun _ => handed_start hv s writers⟩ schedule
  exact hrun.2 hfails

/-! ### The end -/

/-- At the end of a load without failures each document has met its works in order. -/
lemma Accounted.sameHistories_works (ht : Accounted l confirmed applied) (hl : Handed works l)
    (hfault : l.fault? = none) (hf : l.isFinished = true) :
    SameHistories l.audit.ledger.works.toList works := by
  have hd : l.dispatching = false := by
    simp only [isFinished, Bool.and_eq_true, Bool.not_eq_true'] at hf
    exact hf.1
  obtain ⟨sent, hsent, hinboxes⟩ := hl.sent
  rw [hl.ended hd, List.append_nil] at hsent
  subst hsent
  refine sameHistories_of_writers ht.writers_pos fun i x hx => ?_
  have hmem := Array.mem_of_getElem? hx
  have hstage := List.findSome?_eq_none_iff.1 hfault x (by simpa using hmem)
  have hconfirmed := ht.confirmed_eq_size hx hstage (hasStopped_of_isFinished hf x hmem)
  rw [ht.filter_ledger, (ht.follows i x hx).confirmed_eq, ← hinboxes i x hx, hconfirmed]
  exact List.take_of_length_le (by simp)

/-- What a load has come to that took all works without a failure: its ledger holds them, those on
one document in their order; its shards hold their contents; the replay of the ledger counts the
documents, and the outcome counts the works and finds the two consistent. -/
structure Settled (b : Binding) (works : List Work) (l : Load σ) : Prop where
  perm : l.audit.ledger.works.toList.Perm works
  sameHistories : SameHistories l.audit.ledger.works.toList works
  holds : b.Holds l.store (contents works)
  replayedSize_eq : l.audit.ledger.replayedSize = b.documentCount l.store
  outcome_eq : l.outcome b =
    .ok ⟨works.length, ⟨b.documentCount l.store, b.documentCount l.store⟩⟩

/-- A load without failures has settled by the time it has finished. -/
lemma settled_of_isFinished (hb : b.Fresh s) (hi : b.interceptor = none) {total : UInt64}
    {pctAdd pctUpdate : UInt32} {source : σ} {audit : AuditedWorkload σ}
    (hok : AuditedWorkload.create total pctAdd pctUpdate source = .ok audit) (writers : Nat)
    (schedule : List Action) (hfails : failures b (start audit s writers) schedule = [])
    (hf : ((start audit s writers).run b schedule).isFinished = true) :
    Settled b audit.workload.rest.1.toList ((start audit s writers).run b schedule) := by
  obtain ⟨hworkload, hledger⟩ := AuditedWorkload.create_ok hok
  obtain ⟨-, hviable⟩ := Workload.create_ok hworkload
  obtain ⟨applied, ht⟩ := tracked_confirmations hb hi audit hledger writers schedule
  have hhanded := handed_of_failures_eq_nil hviable writers schedule hfails
  have hfault := (stoppedBy_failures b audit s writers schedule).fault?_eq_none_iff.2 hfails
  have hsame := ht.sameHistories_works hhanded hfault hf
  rw [← (Workload.rest_of_create_ok hworkload).1] at hsame
  have happlied : SameHistories applied audit.workload.rest.1.toList := by
    intro id
    rw [ht.sameHistories id, pending_eq_nil (hasStopped_of_isFinished hf), List.append_nil,
      hsame id]
  exact ⟨hsame.perm, hsame, happlied.contents_eq ▸ ht.holds,
    ht.replayedSize_eq hb.partitioned happlied hsame,
    ht.outcome_eq_ok hb.partitioned happlied hsame hfault⟩

/-- A load over an accepted workload, with any number of writers and under any schedule, converges
when no apply fails: it can go on until it has finished, which takes a bounded number of actions;
then the ledger holds all works of the workload, those on one document in their order; each index
holds what the same works, applied one after the other, leave in an index that refuses nothing, and
so what they leave in the index itself if it refuses none of them in that order; the replay of the
ledger counts the documents; and the outcome counts all works and finds the ledger and the documents
consistent. -/
theorem converges (hb : b.Fresh s) (hi : b.interceptor = none) {total : UInt64}
    {pctAdd pctUpdate : UInt32} {source : σ} {audit : AuditedWorkload σ}
    (hok : AuditedWorkload.create total pctAdd pctUpdate source = .ok audit) (writers : Nat)
    (schedule : List Action) (hfails : failures b (start audit s writers) schedule = []) :
    let start := start audit s writers
    let l := start.run b schedule
    let works := audit.workload.rest.1.toList
    let count := b.documentCount l.store
    works.length = total.toNat ∧
      (start.Effective b schedule → schedule.length ≤ 4 * total.toNat + 1) ∧
      (l.isFinished = false → ∃ a, (∀ i fault, a ≠ .fail i fault) ∧ l.step b a ≠ l) ∧
      (l.isFinished = true →
        l.audit.ledger.works.toList.Perm works ∧
        SameHistories l.audit.ledger.works.toList works ∧
        (∀ h ∈ b.indexes, l.store.documents h = (b.applyAll s.admitting works).documents h) ∧
        (b.Admits s works →
          ∀ h ∈ b.indexes, l.store.documents h = (b.applyAll s works).documents h) ∧
        l.audit.ledger.replayedSize = count ∧
        l.outcome b = .ok ⟨total.toNat, ⟨count, count⟩⟩) := by
  intro start l works count
  obtain ⟨hworkload, hledger⟩ := AuditedWorkload.create_ok hok
  obtain ⟨hremaining, -⟩ := Workload.create_ok hworkload
  obtain ⟨hrest, hupcoming⟩ := Workload.rest_of_create_ok hworkload
  obtain ⟨applied, ht⟩ := tracked_confirmations hb hi audit hledger writers schedule
  have hlength : works.length = total.toNat := (congrArg List.length hrest).trans hupcoming
  refine ⟨hlength, fun he => ?_, exists_step_ne ht.writers_pos
    fun i x hx => (ht.follows i x hx).taken_le, fun hf => ?_⟩
  · rw [← hremaining, ← effort_start audit s writers]
    exact he.length_le (size_writers_start_pos audit s writers)
  · have hl := settled_of_isFinished hb hi hok writers schedule hfails hf
    exact ⟨hl.perm, hl.sameHistories,
      hl.holds.documents_eq_applyAll hb.partitioned hi hb.livesIn.admitting
        hb.holds_empty.admitting ((b.accepts_admitting s).admits hb.partitioned works),
      hl.holds.documents_eq_applyAll hb.partitioned hi hb.livesIn hb.holds_empty,
      hl.replayedSize_eq, hlength ▸ hl.outcome_eq⟩

/-- Both writers work at once, and each document meets its works in order. -/
def interleaved : List Action :=
  [.dispatch, .dispatch, .take 0, .take 1, .apply 1, .dispatch, .apply 0, .confirm 1, .dispatch,
    .confirm 0, .dispatch, .take 0, .apply 0, .confirm 0, .take 0, .apply 0, .confirm 0]

theorem converges_interleaved :
    let l := (start ⟨sample, .empty⟩ .pair 2).run (.pair none) interleaved
    (Binding.pair none).Fresh .pair ∧ (Binding.pair none).interceptor = none ∧
      AuditedWorkload.create 4 50 25 (.script []) = .ok ⟨sample, .empty⟩ ∧
      failures (.pair none) (start ⟨sample, .empty⟩ .pair 2) interleaved = [] ∧
      l.isFinished = true ∧ l.outcome (.pair none) = .ok ⟨4, ⟨1, 1⟩⟩ := by
  intro l
  have hok : AuditedWorkload.create 4 50 25 (.script []) = .ok ⟨sample, .empty⟩ := rfl
  have hfails : failures (.pair none) (start ⟨sample, .empty⟩ .pair 2) interleaved = [] := by
    decide +kernel
  have hf : l.isFinished = true := by decide +kernel
  have hcount : (Binding.pair none).documentCount l.store = 1 := by decide +kernel
  obtain ⟨-, -, -, hend⟩ := converges (Binding.fresh_pair none) rfl hok 2 interleaved hfails
  obtain ⟨-, -, -, -, -, houtcome⟩ := hend hf
  refine ⟨Binding.fresh_pair none, rfl, hok, hfails, hf, ?_⟩
  rw [houtcome, hcount]
  rfl

end ShardedIndex.Load
