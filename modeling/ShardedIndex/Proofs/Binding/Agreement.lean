import Mathlib
import ShardedIndex.Proofs.Binding.Memory
import ShardedIndex.Proofs.Properties.Shards

/-!
# Agreement on the number of shards

The number of shards is read twice: from the flat properties of an index when they are expanded, and
from the lifted properties of the first shard when the strategy is configured. The second reading
finds what the first one found, unless the first shard overrides the count.
-/

namespace ShardedIndex

open Properties

variable {p : Properties} {index : String} {shards : List Properties}

/-! ### The second reading -/

/-- The strategy is configured with the count of the index. -/
lemma Properties.getCount_lift_head (hok : p.perShard index = .ok shards)
    (hset : (p.get? (Key.join index Key.nestedShardCount)).isSome)
    (hfree : ∀ key, IsOverride key 0 Key.nestedShardCount → p.get? (Key.join index key) = none) :
    ((shards.headD .empty).lift Key.strategy).getCount Key.shardCount =
      .ok (some shards.length) := by
  obtain ⟨raw, hraw⟩ := Option.isSome_iff_exists.1 hset
  have hlength := hasShards_length hok
  have hfirst : (shards.headD .empty).get? Key.nestedShardCount = some raw := by
    rw [List.headD_eq_head?_getD, List.head?_eq_getElem?, List.getElem?_eq_getElem hlength.pos,
      Option.getD_some, get?_of_forall_override hok hlength.pos isShared_nestedShardCount hfree,
      hraw]
  rw [getCount_eq_ok_some_iff]
  refine ⟨raw, ?_, ?_⟩
  · rw [get?_lift, if_pos (by decide), ← Key.nestedShardCount, hfirst, Option.some_or]
  · exact hlength.isCount hraw

lemma Properties.HasShards.isSome_count {count : Nat} (hcount : p.HasShards index count)
    (hne : count ≠ 1) : (p.get? (Key.join index Key.nestedShardCount)).isSome := by
  cases hcount with
  | single => exact absurd rfl hne
  | counted hget => rw [hget, Option.isSome_some]

/-! ### Layouts of flat properties -/

namespace Layout

variable {l : Layout}

/-- The layout of an index whose properties expand. -/
def ofShards (shards : List Properties) : Layout :=
  ⟨(shards.head?.bind (·.get? Key.strategy)).getD (Catalog.defaultName shards.length), shards⟩

lemma ofProperties_eq_ofShards (hok : p.perShard index = .ok shards) :
    ofProperties index p = .ok (ofShards shards) := by
  rw [ofProperties, hok, ofShards]

/-- Several shards have a count, so the strategy is one that does without it or there is a count. -/
lemma strategy_ofShards (hok : p.perShard index = .ok shards)
    (hstrategy : ∀ first ∈ shards.head?, first.get? Key.strategy = none ∨
      first.get? Key.strategy = some Catalog.idHashName ∧
        (p.get? (Key.join index Key.nestedShardCount)).isSome) :
    (ofShards shards).strategy = Catalog.unshardedName ∧ shards.length = 1 ∨
      (ofShards shards).strategy = Catalog.idHashName ∧
        (p.get? (Key.join index Key.nestedShardCount)).isSome := by
  have hlength := hasShards_length hok
  obtain ⟨first, rest, rfl⟩ := List.exists_cons_of_length_pos hlength.pos
  rcases hstrategy first rfl with hnone | ⟨hsome, hset⟩
  · have hdefault : (ofShards (first :: rest)).strategy =
        Catalog.defaultName (first :: rest).length := by
      simp [ofShards, hnone]
    rw [hdefault, Catalog.defaultName]
    split_ifs with hmany
    · exact .inr ⟨rfl, hlength.isSome_count hmany.ne'⟩
    · exact .inl ⟨rfl, by have := hlength.pos; omega⟩
  · exact .inr ⟨by simp [ofShards, hsome], hset⟩

/-- The two readings of the number of shards agree. An index in memory whose properties expand into
some number of shards is bound, as many indexes as that, whatever else its properties say. It has to
name sharding by the hash of the id with a count, or nothing, and the first shard must not override
the count. -/
theorem bind_ofProperties (entity : String) (interceptor : Option Interceptor)
    (hok : p.perShard index = .ok shards) (hmemory : ∀ q ∈ shards, q.InMemory)
    (hstrategy : ∀ first ∈ shards.head?, first.get? Key.strategy = none ∨
      first.get? Key.strategy = some Catalog.idHashName ∧
        (p.get? (Key.join index Key.nestedShardCount)).isSome)
    (hfree : ∀ key, IsOverride key 0 Key.nestedShardCount → p.get? (Key.join index key) = none) :
    ∃ l b r, ofProperties index p = .ok l ∧
      l.bind entity interceptor .memory .empty = (.ok b, r) ∧
      b.indexes.size = shards.length ∧ b.indexes.toList.Nodup ∧
      b.routing.shardCount = shards.length ∧ r.store.size = shards.length ∧
      ((p.get? (Key.join index Key.nestedShardCount)).isSome →
        l.strategyProperties.getCount Key.shardCount = .ok (some shards.length)) := by
  have hpos : 0 < (ofShards shards).shardCount := (hasShards_length hok).pos
  have hcases := strategy_ofShards hok hstrategy
  have hne := Catalog.idHashName_ne_unshardedName
  have hknown : (ofShards shards).Known := hcases.imp And.left And.left
  have haccepted : (ofShards shards).Accepted := by
    -- Without sharding there is one shard; by hash, the count is read a second time.
    rcases hcases with ⟨hname, hone⟩ | ⟨hname, hset⟩
    · exact ⟨fun _ => hone, fun hhash => absurd (hhash.symm.trans hname) hne⟩
    · exact ⟨fun hnone => absurd (hname.symm.trans hnone) hne,
        fun _ => .inr (getCount_lift_head hok hset hfree)⟩
  obtain ⟨strategy, hs⟩ := known_iff.1 hknown
  obtain ⟨⟨⟩, hok'⟩ := isOk_iff.1 ((isOk_configure_iff hpos hs).2 haccepted)
  have hc : strategy.configure (ofShards shards).strategyProperties (ofShards shards).shardCount
      strategy.fresh = (.ok (), _) := Prod.ext hok' rfl
  obtain ⟨handles, r, hbind, -, hstore⟩ := bind_new entity interceptor hpos hs hc hmemory
  obtain ⟨hsize, hcount, hnodup, -⟩ := indexes_of_bind .empty hbind
  exact ⟨_, _, r, ofProperties_eq_ofShards hok, hbind, hsize, hnodup, hcount, hstore,
    fun hset => getCount_lift_head hok hset hfree⟩

/-- Two shards, a count that no strategy reads and a count for the second shard alone. -/
def crowded : Properties :=
  .ofList [(Key.join "quotes" Key.strategy, Catalog.idHashName),
    (Key.join "quotes" Key.nestedShardCount, "2"), (Key.join "quotes" Key.shardCount, "7"),
    (Key.join "quotes" (Key.join "1" Key.nestedShardCount), "9")]

lemma get?_crowded (k : String) : crowded.get? (Key.join "quotes" k) =
    if k = Key.join "1" Key.nestedShardCount then some "9"
    else if k = Key.shardCount then some "7"
    else if k = Key.nestedShardCount then some "2"
    else if k = Key.strategy then some Catalog.idHashName else none := by
  simp [crowded, ofList, Key.join_right_inj, eq_comm]

/-- There is one override, and it is not for the first shard. -/
lemma override_crowded {key name : String} {shard : Nat} (hkey : IsOverride key shard name)
    (hset : (crowded.get? (Key.join "quotes" key)).isSome) :
    shard = 1 ∧ name = Key.nestedShardCount := by
  have hshared {key : String} (hscope : scope key = .shared) : ¬ IsOverride key shard name :=
    scope_eq_shared_iff.1 hscope shard name
  rw [get?_crowded] at hset
  split_ifs at hset with hown hcount hnested hstrategy
  · rw [hown, isOverride_join_iff (by decide) (by decide)] at hkey
    exact ⟨hkey.1, hkey.2.2⟩
  · exact absurd (hcount ▸ hkey) (hshared (by decide))
  · exact absurd (hnested ▸ hkey) (isShared_nestedShardCount shard name)
  · exact absurd (hstrategy ▸ hkey) (hshared (by decide))
  · cases hset

lemma exists_perShard_crowded :
    ∃ shards, crowded.perShard "quotes" = .ok shards ∧ shards.length = 2 := by
  have hget : crowded.get? (Key.join "quotes" Key.nestedShardCount) = some "2" := by
    rw [get?_crowded, if_neg (by decide), if_neg (by decide), if_pos rfl]
  have htwo : IsCount "2" 2 := Text.readBelow_eq_some_iff.1 (by decide)
  have hfits : crowded.Fits "quotes" 2 := fun key shard name hkey hset => by
    rw [(override_crowded hkey hset).1]
    exact Nat.one_lt_two
  obtain ⟨shards, hok⟩ := exists_perShard_iff.2 ⟨2, .counted hget htwo Nat.two_pos, hfits⟩
  exact ⟨shards, hok, ((hasShards_length hok).isCount hget).1.unique htwo.1⟩

lemma get?_shard_crowded {i : Nat} {name : String} (hok : crowded.perShard "quotes" = .ok shards)
    (hi : i < shards.length) (hscope : scope name = .shared) (hne : name ≠ Key.nestedShardCount) :
    shards[i].get? name = crowded.get? (Key.join "quotes" name) := by
  refine get?_of_forall_override hok hi (scope_eq_shared_iff.1 hscope) fun key hkey => ?_
  exact Option.not_isSome_iff_eq_none.1 fun hset => hne (override_crowded hkey hset).2

theorem bind_ofProperties_crowded : ∃ shards, crowded.perShard "quotes" = .ok shards ∧
    (∀ q ∈ shards, q.InMemory) ∧ ∃ l b r, ofProperties "quotes" crowded = .ok l ∧
      l.bind "Quote" none .memory .empty = (.ok b, r) ∧ b.indexes.size = 2 ∧
      b.routing.shardCount = 2 := by
  obtain ⟨shards, hok, hlength⟩ := exists_perShard_crowded
  have hfree (key : String) (hkey : IsOverride key 0 Key.nestedShardCount) :
      crowded.get? (Key.join "quotes" key) = none :=
    Option.not_isSome_iff_eq_none.1 fun hset => absurd (override_crowded hkey hset).1 (by decide)
  have hmemory : ∀ q ∈ shards, q.InMemory := by
    intro q hq
    obtain ⟨i, hi, rfl⟩ := List.mem_iff_getElem.1 hq
    left
    rw [get?_shard_crowded hok hi (by decide) (by decide), get?_crowded]
    decide
  have hstrategy : ∀ first ∈ shards.head?, first.get? Key.strategy = none ∨
      first.get? Key.strategy = some Catalog.idHashName ∧
        (crowded.get? (Key.join "quotes" Key.nestedShardCount)).isSome := by
    intro first hfirst
    rw [Option.mem_def, List.head?_eq_getElem?, List.getElem?_eq_some_iff] at hfirst
    obtain ⟨hi, rfl⟩ := hfirst
    rw [get?_shard_crowded hok hi (by decide) (by decide), get?_crowded, get?_crowded]
    decide
  obtain ⟨l, b, r, hl, hbind, hsize, -, hcount, -⟩ :=
    bind_ofProperties "Quote" none hok hmemory hstrategy hfree
  rw [hlength] at hsize hcount
  exact ⟨shards, hok, hmemory, l, b, r, hl, hbind, hsize, hcount⟩

end Layout

end ShardedIndex
