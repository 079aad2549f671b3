import Mathlib
import ShardedIndex.Proofs.Load.Interception
import ShardedIndex.Proofs.Load.Sequential
import ShardedIndex.Proofs.Trial.Bind

/-!
# The ending of a trial

A trial either refuses its settings, before anything is applied, or it ends with a consistent
result, whatever the schedule of its writers: its indexes are in memory and refuse nothing, nothing
intercepts its works, and the number of shards that it binds is the one it was set to.
-/

namespace ShardedIndex

/-! ### Settings -/

namespace TrialSettings

variable {c : TrialSettings}

/-- What a variable says: the number below the limit that it holds, or else the default. -/
def setting (env : Environment) (limit : Nat) (name : String) (default : Nat) : Nat :=
  ((env name).bind fun raw => Text.readBelow limit raw.toList).getD default

/-- A number below the limit is read without loss. -/
lemma getD_map_eq_setting {α : Type} {limit : Nat} {ofNat : Nat → α} {toNat : α → Nat}
    (hofNat : ∀ {n}, n < limit → toNat (ofNat n) = n) (env : Environment) (name : String)
    (default : α) :
    toNat ((((env name).bind fun raw => Text.readBelow limit raw.toList).map ofNat).getD default) =
      setting env limit name (toNat default) := by
  rw [setting]
  cases h : (env name).bind fun raw => Text.readBelow limit raw.toList with
  | none => rfl
  | some n =>
    obtain ⟨raw, -, hread⟩ := Option.bind_eq_some_iff.1 h
    exact hofNat (Text.lt_of_readBelow hread)

lemma toNat_word (env : Environment) (name : String) (default : UInt64) :
    (word env name default).toNat = setting env Text.wordLimit name default.toNat :=
  getD_map_eq_setting UInt64.toNat_ofNat_of_lt' env name default

lemma toNat_percent (env : Environment) (name : String) (default : UInt32) :
    (percent env name default).toNat = setting env Text.halfWordLimit name default.toNat :=
  getD_map_eq_setting UInt32.toNat_ofNat_of_lt' env name default

/-- The settings that a trial refuses: without a writer, a shard or a share of adds, with shares of
more than the whole, or with a share of adds that comes to no work. -/
def Rejected (c : TrialSettings) : Prop :=
  c.writers.toNat = 0 ∨ c.shards.toNat = 0 ∨ c.pctAdd.toNat = 0 ∨
    100 < c.pctAdd.toNat + c.pctUpdate.toNat ∨ c.totalWorks.toNat * c.pctAdd.toNat / 100 = 0

instance (c : TrialSettings) : Decidable c.Rejected := inferInstanceAs (Decidable (_ ∨ _))

/-- The percentages are refused with the workload. -/
lemma exists_seeded_iff :
    (∃ audit, AuditedWorkload.seeded c.totalWorks c.pctAdd c.pctUpdate c.seed = .ok audit) ↔
      c.pctAdd.toNat ≠ 0 ∧ c.pctAdd.toNat + c.pctUpdate.toNat ≤ 100 ∧
        c.totalWorks.toNat * c.pctAdd.toNat / 100 ≠ 0 := by
  rw [AuditedWorkload.seeded, AuditedWorkload.create, ← isOk_iff, isOk_map, isOk_iff]
  simp only [Workload.create_eq_ok_iff, exists_and_left, exists_eq, and_true]
  have hshare : c.pctAdd ≠ 0 ↔ c.pctAdd.toNat ≠ 0 := by
    rw [ne_eq, ← UInt32.toNat_inj, UInt32.toNat_zero]
  rw [hshare, and_left_comm]
  refine and_congr_right fun _ => and_congr_right fun hratio => ?_
  have hadds := Quotas.toNat_share c.totalWorks c.pctAdd (by omega)
  rw [Quotas.ofPercentages, ne_eq, ← UInt64.toNat_inj, hadds, UInt64.toNat_zero]

lemma not_rejected_iff : ¬ c.Rejected ↔ c.validate = .ok () ∧
    ∃ audit, AuditedWorkload.seeded c.totalWorks c.pctAdd c.pctUpdate c.seed = .ok audit := by
  rw [Trial.validate_eq_ok_iff, exists_seeded_iff, Rejected]
  simp only [not_or, not_lt, and_assoc]

example : ¬ Rejected {} := by decide

end TrialSettings

/-! ### Runs -/

namespace Trial

variable {c : TrialSettings} {conduct : Conduct} {b : Binding} {store : Store}
  {schedule : List Action} {l : Load WordSource} {o : Outcome}

/-- Carry out a trial, and its load by a schedule. -/
def follow (schedule : List Action) (c : TrialSettings) : Outcome :=
  runBy (fun b l => l.run b schedule) c

/-- The binding that a trial makes, and the load that it starts on it. -/
def Starts (c : TrialSettings) (b : Binding) (l : Load WordSource) : Prop :=
  ∃ store audit, bind c = .ok (b, store) ∧
    AuditedWorkload.seeded c.totalWorks c.pctAdd c.pctUpdate c.seed = .ok audit ∧
    l = Load.start audit store c.writers.toNat

/-- What comes of a trial under a schedule that the load that it starts, if it starts one, follows
to the end. The indexes of a trial are in memory and have no failures of their own, so no writer
fails but on a work that is refused. -/
def Ends (c : TrialSettings) (schedule : List Action) (o : Outcome) : Prop :=
  Load.FailFree schedule ∧ o = follow schedule c ∧
    ∀ b l, Starts c b l → (l.run b schedule).isFinished = true

lemma result_of_bind_error {fault : Fault} (hbind : bind c = .error fault) :
    (runBy conduct c).result = .error fault := by
  simp [runBy, hbind]

lemma result_of_bind_ok (hbind : bind c = .ok (b, store)) :
    (runBy conduct c).result = load conduct c b store := by
  simp only [runBy, hbind]
  cases load conduct c b store <;> rfl

/-- Settings that are refused end a trial with a fault, however its load would be carried out. -/
lemma exists_error_of_rejected (hc : c.Rejected) (conduct : Conduct) :
    ∃ fault, (runBy conduct c).result = .error fault := by
  cases hvalid : c.validate with
  | error fault => exact ⟨fault, result_of_bind_error (by simp [bind, hvalid])⟩
  | ok =>
    obtain ⟨b, store, hbind, -⟩ := exists_bind hvalid
    rw [result_of_bind_ok hbind, load]
    cases hseeded : AuditedWorkload.seeded c.totalWorks c.pctAdd c.pctUpdate c.seed with
    | error fault => exact ⟨fault, rfl⟩
    | ok audit => exact absurd hc (TrialSettings.not_rejected_iff.2 ⟨hvalid, audit, hseeded⟩)

/-- All other settings start a load. -/
lemma exists_starts (hc : ¬ c.Rejected) : ∃ b l, Starts c b l := by
  obtain ⟨hvalid, audit, hseeded⟩ := TrialSettings.not_rejected_iff.1 hc
  obtain ⟨b, store, hbind, -⟩ := exists_bind hvalid
  exact ⟨b, _, store, audit, hbind, hseeded, rfl⟩

lemma Starts.unique {b' : Binding} {l' : Load WordSource} (hstarts : Starts c b l)
    (hstarts' : Starts c b' l') : b' = b ∧ l' = l := by
  obtain ⟨store, audit, hbind, hseeded, rfl⟩ := hstarts
  obtain ⟨store', audit', hbind', hseeded', rfl⟩ := hstarts'
  obtain ⟨rfl, rfl⟩ := Prod.mk.inj (Except.ok.inj (hbind.symm.trans hbind'))
  obtain rfl := Except.ok.inj (hseeded.symm.trans hseeded')
  exact ⟨rfl, rfl⟩

lemma Starts.bind_eq (hstarts : Starts c b l) : bind c = .ok (b, l.store) := by
  obtain ⟨store, audit, hbind, -, rfl⟩ := hstarts
  exact hbind

lemma Starts.bound (hstarts : Starts c b l) : Bound c b l.store := .of_bind hstarts.bind_eq

lemma Starts.length_works (hstarts : Starts c b l) :
    l.audit.workload.rest.1.toList.length = c.totalWorks.toNat := by
  obtain ⟨store, audit, -, hseeded, rfl⟩ := hstarts
  obtain ⟨hrest, hlength⟩ := Workload.rest_of_create_ok (AuditedWorkload.create_ok hseeded).1
  exact (congrArg List.length hrest).trans hlength

lemma Starts.size_writers (hstarts : Starts c b l) : l.writers.size = c.writers.toNat := by
  have hne := (validate_eq_ok_iff.1 (validate_of_bind hstarts.bind_eq)).1
  obtain ⟨store, audit, -, -, rfl⟩ := hstarts
  rw [Load.start, Array.size_replicate]
  omega

/-- What a trial reports is the outcome of the load that it starts. -/
lemma Starts.result_follow (hstarts : Starts c b l) :
    (follow schedule c).result = (l.run b schedule).outcome b := by
  obtain ⟨store, audit, hbind, hseeded, rfl⟩ := hstarts
  rw [follow, result_of_bind_ok hbind, load, hseeded]

/-- A load that a trial starts settles, under any schedule without failures. -/
lemma Starts.settled (hstarts : Starts c b l) (hfree : Load.FailFree schedule)
    (hf : (l.run b schedule).isFinished = true) :
    Load.Settled b l.audit.workload.rest.1.toList (l.run b schedule) := by
  have hbound := hstarts.bound
  obtain ⟨store, audit, -, hseeded, rfl⟩ := hstarts
  have hfails := Load.failures_eq_nil hbound.fresh.partitioned hbound.accepts
    (Load.size_writers_start_pos audit store c.writers.toNat) hfree
  exact Load.settled_of_isFinished hbound.fresh hbound.interceptor_eq hseeded _ schedule hfails hf

/-- The indexes of a trial refuse nothing, so its load leaves what the works one after the other
would. -/
lemma Starts.documents_eq (hstarts : Starts c b l) (hfree : Load.FailFree schedule)
    (hf : (l.run b schedule).isFinished = true) : ∀ h ∈ b.indexes,
      (l.run b schedule).store.documents h =
        (b.applyAll l.store l.audit.workload.rest.1.toList).documents h := by
  have hbound := hstarts.bound
  have hp := hbound.fresh.partitioned
  exact (hstarts.settled hfree hf).holds.documents_eq_applyAll hp hbound.interceptor_eq
    hbound.fresh.livesIn hbound.fresh.holds_empty (hbound.accepts.admits hp _)

/-- Only what is done to the load that a trial starts matters. -/
lemma runBy_congr {conduct' : Conduct}
    (hsame : ∀ b l, Starts c b l → conduct b l = conduct' b l) :
    runBy conduct c = runBy conduct' c := by
  have hload (b : Binding) (store : Store) (hbind : bind c = .ok (b, store)) :
      load conduct c b store = load conduct' c b store := by
    unfold load
    cases hseeded : AuditedWorkload.seeded c.totalWorks c.pctAdd c.pctUpdate c.seed with
    | error fault => rfl
    | ok audit => simp only [hsame b _ ⟨store, audit, hbind, hseeded, rfl⟩]
  unfold runBy
  cases hbind : bind c with
  | error fault => rfl
  | ok bound => simp only [hload bound.1 bound.2 hbind]

/-- One writer after the other is one of the schedules. -/
lemma exists_ends_run (c : TrialSettings) : ∃ schedule, Ends c schedule (run c) := by
  by_cases hstarts : ∃ b l, Starts c b l
  · obtain ⟨b, l, hstarts⟩ := hstarts
    obtain ⟨schedule, hfree, hrun⟩ := Load.leads_runInOrder (b := b) (l := l)
    refine ⟨schedule, hfree, runBy_congr fun b' l' hstarts' => ?_, fun b' l' hstarts' => ?_⟩
    · obtain ⟨rfl, rfl⟩ := hstarts.unique hstarts'
      exact hrun.symm
    · obtain ⟨rfl, rfl⟩ := hstarts.unique hstarts'
      obtain ⟨store, audit, hbind, hseeded, rfl⟩ := hstarts
      have hbound := Bound.of_bind hbind
      rw [hrun]
      exact Load.isFinished_runInOrder hbound.fresh.partitioned hbound.accepts hseeded _
  · have hnone : ∀ b l, ¬ Starts c b l := fun b l h => hstarts ⟨b, l, h⟩
    exact ⟨[], by simp [Load.FailFree], runBy_congr fun b l h => absurd h (hnone b l),
      fun b l h => absurd h (hnone b l)⟩

/-- A trial that starts a load ends with a consistent result. -/
lemma Ends.result_eq (ho : Ends c schedule o) (hstarts : Starts c b l) :
    o.result = .ok ⟨c.totalWorks.toNat, ⟨b.documentCount (l.run b schedule).store,
      b.documentCount (l.run b schedule).store⟩⟩ := by
  obtain ⟨hfree, rfl, hf⟩ := ho
  rw [hstarts.result_follow, (hstarts.settled hfree (hf b l hstarts)).outcome_eq,
    hstarts.length_works]

lemma Ends.exists_error_iff (ho : Ends c schedule o) :
    (∃ fault, o.result = .error fault) ↔ c.Rejected := by
  constructor
  · rintro ⟨fault, herror⟩
    by_contra hc
    obtain ⟨b, l, hstarts⟩ := exists_starts hc
    have hresult := ho.result_eq hstarts
    rw [herror] at hresult
    cases hresult
  · intro hc
    obtain ⟨-, rfl, -⟩ := ho
    exact exists_error_of_rejected hc _

/-! ### Exit codes -/

lemma exitCode_eq_one_iff : exitCode o = 1 ↔ ∃ fault, o.result = .error fault := by
  unfold exitCode
  cases o.result with
  | error fault => simp
  | ok report => by_cases hagrees : report.consistency.agrees = true <;> simp [hagrees]

lemma exitCode_of_consistent {total n : Nat} (hresult : o.result = .ok ⟨total, ⟨n, n⟩⟩) :
    exitCode o = 0 := by
  simp [exitCode, hresult, Consistency.agrees]

lemma lines_of_consistent {total n : Nat} (hresult : o.result = .ok ⟨total, ⟨n, n⟩⟩)
    (timing : List String) : lines o timing =
      ["=== Work Log Load Test ===", s!"  Works applied: {total}"] ++ timing ++
        [s!"  Result: consistent ({n} documents)"] := by
  simp [lines, hresult, Consistency.text, Consistency.agrees]
  simp only [toString, ← String.append_assoc]
  rfl

/-- A trial ends with a fault, and then with exit code 1, exactly when its settings have no writer,
no shard or no share of adds, shares of more than the whole, or a share of adds that comes to no
work. Otherwise it binds exactly its number of shards, each to a new index, by the hash of the id
when there are several and without sharding when there is one, and starts its writers on a workload
of all its works. At the end of that load the ledger holds all of these works, those on one document
in their order, and each index holds what it would hold after the same works one after the other;
what the trial reports is the outcome of that load, all works and as many documents as there are,
which the replay of the ledger counts as well. The report is printed as consistent, and the exit
code is 0. So no trial ends with exit code 2, whatever the environment and the schedule of the
writers are. Every trial comes to an end: its load can go on until it has finished, which takes a
bounded number of actions. -/
theorem ends_consistent (env : Environment) :
    let c := TrialSettings.ofEnvironment env
    let total := TrialSettings.setting env Text.wordLimit "SHARDEX_TOTAL_WORKS" 10000
    let pctAdd := TrialSettings.setting env Text.halfWordLimit "SHARDEX_PCT_ADD" 70
    let pctUpdate := TrialSettings.setting env Text.halfWordLimit "SHARDEX_PCT_UPDATE" 20
    let writers := TrialSettings.setting env Text.wordLimit "SHARDEX_WRITERS" 4
    let shards := TrialSettings.setting env Text.wordLimit "SHARDEX_SHARDS" 4
    let rejected := writers = 0 ∨ shards = 0 ∨ pctAdd = 0 ∨ 100 < pctAdd + pctUpdate ∨
      total * pctAdd / 100 = 0
    (∀ schedule o, Ends c schedule o →
      ((∃ fault, o.result = .error fault) ↔ rejected) ∧ (exitCode o = 1 ↔ rejected) ∧
      (¬ rejected → ∃ b start, Starts c b start ∧ bind c = .ok (b, start.store) ∧
        b.indexes.size = shards ∧ b.indexes.toList.Nodup ∧ start.store.size = shards ∧
        b.strategy = (if shards > 1 then "id-hash" else "none") ∧
        b.routing = (if shards > 1 then .byHash shards else .single) ∧
        start.writers.size = writers ∧
        let l := start.run b schedule
        let works := start.audit.workload.rest.1.toList
        let documents := b.documentCount l.store
        works.length = total ∧ l.isFinished = true ∧
        l.audit.ledger.works.toList.Perm works ∧
        SameHistories l.audit.ledger.works.toList works ∧
        (∀ h ∈ b.indexes, l.store.documents h = (b.applyAll start.store works).documents h) ∧
        l.audit.ledger.replayedSize = documents ∧
        o.result = l.outcome b ∧ o.result = .ok ⟨total, ⟨documents, documents⟩⟩ ∧
        (∀ timing, lines o timing =
          ["=== Work Log Load Test ===", s!"  Works applied: {total}"] ++ timing ++
            [s!"  Result: consistent ({documents} documents)"]) ∧
        exitCode o = 0) ∧
      exitCode o ≠ 2) ∧
    (∃ schedule, Ends c schedule (run c)) ∧
    ∀ b l schedule, Starts c b l →
      (l.Effective b schedule → schedule.length ≤ 4 * total + 1) ∧
      ((l.run b schedule).isFinished = false → ∃ a, (∀ i fault, a ≠ .fail i fault) ∧
        (l.run b schedule).step b a ≠ l.run b schedule) := by
  intro c total pctAdd pctUpdate writers shards rejected
  have htotal : c.totalWorks.toNat = total := TrialSettings.toNat_word ..
  have hshards : c.shards.toNat = shards := TrialSettings.toNat_word ..
  have hwriters : c.writers.toNat = writers := TrialSettings.toNat_word ..
  have hadd : c.pctAdd.toNat = pctAdd := TrialSettings.toNat_percent ..
  have hupdate : c.pctUpdate.toNat = pctUpdate := TrialSettings.toNat_percent ..
  have hrejected : c.Rejected ↔ rejected := by
    rw [TrialSettings.Rejected, htotal, hshards, hwriters, hadd, hupdate]
  refine ⟨fun schedule o ho => ?_, exists_ends_run c, fun b l schedule hstarts => ?_⟩
  · have herror := ho.exists_error_iff.trans hrejected
    have hcode : exitCode o = 1 ↔ rejected := exitCode_eq_one_iff.trans herror
    have hstart (hc : ¬ rejected) := exists_starts (mt hrejected.1 hc)
    refine ⟨herror, hcode, fun hc => ?_, fun htwo => ?_⟩
    · obtain ⟨b, start, hstarts⟩ := hstart hc
      have hbound := hstarts.bound
      have hlength := hstarts.length_works.trans htotal
      have hresult := ho.result_eq hstarts
      rw [htotal] at hresult
      obtain ⟨hfree, rfl, hf⟩ := ho
      have hsettled := hstarts.settled hfree (hf b start hstarts)
      exact ⟨b, start, hstarts, hstarts.bind_eq, hshards ▸ hbound.size_indexes,
        hbound.fresh.partitioned.nodup, hshards ▸ hbound.size_store, hshards ▸ hbound.strategy_eq,
        hshards ▸ hbound.routing_eq, hwriters ▸ hstarts.size_writers, hlength, hf b start hstarts,
        hsettled.perm, hsettled.sameHistories, hstarts.documents_eq hfree (hf b start hstarts),
        hsettled.replayedSize_eq, hstarts.result_follow, hresult, lines_of_consistent hresult,
        exitCode_of_consistent hresult⟩
    · by_cases hc : rejected
      · rw [hcode.2 hc] at htwo
        cases htwo
      · obtain ⟨b, start, hstarts⟩ := hstart hc
        rw [exitCode_of_consistent (ho.result_eq hstarts)] at htwo
        cases htwo
  · obtain ⟨store, audit, hbind, hseeded, rfl⟩ := hstarts
    rw [← htotal]
    exact ⟨Load.length_le_of_effective hseeded,
      Load.exists_step_of_unfinished (Bound.of_bind hbind).fresh hseeded⟩

/-- Three shards; the number of writers is no number, so it stays at the default. -/
theorem ends_consistent_threeShards :
    let env : Environment := fun name =>
      if name = "SHARDEX_SHARDS" then some "3"
      else if name = "SHARDEX_WRITERS" then some "two" else none
    let o := run (.ofEnvironment env)
    exitCode o = 0 ∧ ∃ schedule b start, Ends (.ofEnvironment env) schedule o ∧
      Starts (.ofEnvironment env) b start ∧ b.indexes.size = 3 ∧ start.writers.size = 4 ∧
      b.strategy = "id-hash" ∧
      (start.run b schedule).audit.ledger.works.toList.Perm start.audit.workload.rest.1.toList ∧
      o.result = .ok ⟨10000, ⟨b.documentCount (start.run b schedule).store,
        b.documentCount (start.run b schedule).store⟩⟩ := by
  intro env o
  obtain ⟨hends, ⟨schedule, hrun⟩, -⟩ := ends_consistent env
  obtain ⟨-, -, hgood, -⟩ := hends schedule o hrun
  obtain ⟨b, start, hstarts, -, hsize, -, -, hstrategy, -, hwriters, -, -, hperm, -, -, -, -,
    hresult, -, hcode⟩ := hgood (by decide)
  exact ⟨hcode, schedule, b, start, hrun, hstarts, hsize, hwriters, hstrategy, hperm, hresult⟩

end Trial

end ShardedIndex
