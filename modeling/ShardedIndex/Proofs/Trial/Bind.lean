import Mathlib
import ShardedIndex.Proofs.Binding.Memory
import ShardedIndex.Proofs.Properties.Views
import ShardedIndex.Trial.Run

/-!
# The binding of a trial

A trial writes its number of shards into the properties of the index, where it is read back twice:
when the properties are expanded for each shard, and when the strategy is configured. Both times it
is the number that was written, so the trial binds that many indexes.
-/

namespace ShardedIndex.Trial

variable {shards : UInt64} {c : TrialSettings} {k : String}

lemma toNat_ne_zero (hpos : shards ≠ 0) : shards.toNat ≠ 0 := fun hzero =>
  hpos (UInt64.toNat_inj.1 hzero)

/-! ### Properties -/

lemma get?_properties (shards : UInt64) (k : String) :
    (properties shards).get? (Key.join entity k) =
      if k = Key.directoryProvider then some IndexFactory.memoryProvider
      else if k = Key.nestedShardCount then some (Text.decimal shards.toNat) else none := by
  simp [properties, Properties.ofList, Key.join_right_inj, eq_comm]

lemma scope_eq_shared {value : String}
    (hget : (properties shards).get? (Key.join entity k) = some value) :
    Properties.scope k = .shared := by
  rw [get?_properties] at hget
  split_ifs at hget with hprovider hcount
  · rw [hprovider]
    decide
  · rw [hcount]
    decide

lemma get?_shared_properties (shards : UInt64) (k : String) :
    ((properties shards).shared entity).get? k =
      (properties shards).get? (Key.join entity k) := by
  rw [Properties.get?_shared]
  split_ifs with hscope
  · rfl
  · cases hget : (properties shards).get? (Key.join entity k) with
    | none => rfl
    | some value => exact absurd (scope_eq_shared hget) hscope

lemma get?_nestedShardCount (shards : UInt64) :
    ((properties shards).shared entity).get? Key.nestedShardCount =
      some (Text.decimal shards.toNat) := by
  rw [get?_shared_properties, get?_properties, if_neg (by decide), if_pos rfl]

lemma overrides_properties (shards : UInt64) : (properties shards).overrides entity = [] := by
  rw [List.eq_nil_iff_forall_not_mem]
  rintro ⟨shard, k, value⟩ hmem
  obtain ⟨key, hscope, hget⟩ := Properties.mem_overrides.1 hmem
  rw [scope_eq_shared hget] at hscope
  cases hscope

/-- The number of shards reads back. -/
lemma shardCount_properties (hpos : shards ≠ 0) :
    (properties shards).shardCount entity = .ok shards.toNat := by
  have hcount := Properties.getCount_eq_ok_some (get?_nestedShardCount shards) shards.toNat_lt
  obtain ⟨n, hn⟩ := Nat.exists_eq_succ_of_ne_zero (toNat_ne_zero hpos)
  rw [Properties.shardCount, hcount, hn]
  rfl

/-- The layout of a trial: every shard has the shared properties. -/
def layout (shards : UInt64) : Layout :=
  ⟨Catalog.defaultName shards.toNat,
    List.replicate shards.toNat ((properties shards).shared entity)⟩

lemma ofProperties_eq (hpos : shards ≠ 0) :
    Layout.ofProperties entity (properties shards) = .ok (layout shards) := by
  have hshards : (properties shards).perShard entity =
      .ok (List.replicate shards.toNat ((properties shards).shared entity)) := by
    have hlt : ¬ shards.toNat ≤ 0 := fun hle => toNat_ne_zero hpos (Nat.le_zero.1 hle)
    simp [Properties.perShard, shardCount_properties hpos, overrides_properties, hlt,
      Properties.overridden, List.eq_replicate_iff]
  have hstrategy : ((properties shards).shared entity).get? Key.strategy = none := by
    rw [get?_shared_properties, get?_properties, if_neg (by decide), if_neg (by decide)]
  have hnamed : (List.replicate shards.toNat ((properties shards).shared entity)).head?.bind
      (·.get? Key.strategy) = none := by
    rw [List.head?_replicate]
    split_ifs <;> simp [hstrategy]
  simp only [Layout.ofProperties, hshards, hnamed, Option.getD_none, List.length_replicate, layout]

/-! ### Strategy -/

lemma shardCount_layout (shards : UInt64) : (layout shards).shardCount = shards.toNat := by
  simp [layout, Layout.shardCount]

/-- The strategy is configured with the number of shards. -/
lemma getCount_strategyProperties (hpos : shards ≠ 0) :
    (layout shards).strategyProperties.getCount Key.shardCount = .ok (some shards.toNat) := by
  refine Properties.getCount_eq_ok_some ?_ shards.toNat_lt
  have hshared : (layout shards).strategyProperties =
      ((properties shards).shared entity).lift Key.strategy := by
    simp [layout, Layout.strategyProperties, List.head?_replicate, toNat_ne_zero hpos]
  rw [hshared, Properties.get?_lift, if_pos (by decide), ← Key.nestedShardCount,
    get?_nestedShardCount, Option.some_or]

/-- The routing for a number of shards. -/
def routing (shards : Nat) : Routing := if 1 < shards then .byHash shards else .single

/-- The strategy that the number of shards decides on accepts it. -/
lemma exists_configure (hpos : shards ≠ 0) : ∃ strategy,
    Catalog.standard.resolve (layout shards).strategy = .ok strategy ∧
      strategy.configure (layout shards).strategyProperties (layout shards).shardCount
        strategy.fresh = (.ok (), routing shards.toNat) := by
  have hne := toNat_ne_zero hpos
  rw [Catalog.resolve_standard, shardCount_layout]
  by_cases hmany : 1 < shards.toNat
  · refine ⟨.idHash, by simp [layout, Catalog.defaultName, hmany], ?_⟩
    simp [Strategy.idHash, hne, getCount_strategyProperties hpos, routing, hmany]
  · have hone : shards.toNat = 1 := by omega
    refine ⟨.unsharded, ?_, by simp [Strategy.unsharded, routing, hone]⟩
    simp [layout, Catalog.defaultName, hmany, Catalog.idHashName_ne_unshardedName.symm]

/-! ### Bind -/

lemma validate_eq_ok_iff : c.validate = .ok () ↔ c.writers.toNat ≠ 0 ∧ c.shards.toNat ≠ 0 := by
  unfold TrialSettings.validate
  split_ifs with hwriters hshards
  · simp [hwriters]
  · simp [hshards]
  · rw [← UInt64.toNat_inj] at hwriters hshards
    exact iff_of_true rfl ⟨hwriters, hshards⟩

/-- What a trial binds: exactly its number of shards, each of them to a new index in memory, by the
hash of the id when there are several and without sharding when there is one. -/
structure Bound (c : TrialSettings) (b : Binding) (store : Store) : Prop where
  fresh : b.Fresh store
  accepts : b.Accepts store
  interceptor_eq : b.interceptor = none
  size_indexes : b.indexes.size = c.shards.toNat
  size_store : store.size = c.shards.toNat
  strategy_eq : b.strategy = Catalog.defaultName c.shards.toNat
  routing_eq : b.routing = routing c.shards.toNat

lemma exists_bind (hvalid : c.validate = .ok ()) :
    ∃ b store, bind c = .ok (b, store) ∧ Bound c b store := by
  have hne : c.shards.toNat ≠ 0 := (validate_eq_ok_iff.1 hvalid).2
  have hpos : c.shards ≠ 0 := fun hzero => hne (by rw [hzero, UInt64.toNat_zero])
  obtain ⟨strategy, hs, hc⟩ := exists_configure hpos
  have hcount := shardCount_layout c.shards
  have hmemory : ∀ p ∈ (layout c.shards).shards, p.InMemory := by
    intro p hp
    rw [(List.mem_replicate.1 hp).2]
    right
    rw [get?_shared_properties, get?_properties, if_pos rfl]
  obtain ⟨handles, r, hbind, hhandles, hsize⟩ :=
    Layout.bind_new entity none (hcount ▸ Nat.pos_of_ne_zero hne) hs hc hmemory
  obtain ⟨hfresh, haccepts⟩ := Layout.fresh_and_accepts_of_bind hbind
  refine ⟨_, _, ?_, hfresh, haccepts, rfl, hhandles.trans hcount, hsize.trans hcount, rfl, rfl⟩
  simp only [bind, hvalid, ofProperties_eq hpos, hbind]

lemma validate_of_bind {b : Binding} {store : Store} (hbind : bind c = .ok (b, store)) :
    c.validate = .ok () := by
  cases hvalid : c.validate with
  | error fault => simp [bind, hvalid] at hbind
  | ok => rfl

lemma Bound.of_bind {b : Binding} {store : Store} (hbind : bind c = .ok (b, store)) :
    Bound c b store := by
  obtain ⟨b', store', hbind', hbound⟩ := exists_bind (validate_of_bind hbind)
  obtain ⟨rfl, rfl⟩ := Prod.mk.inj (Except.ok.inj (hbind.symm.trans hbind'))
  exact hbound

end ShardedIndex.Trial
