import Mathlib
import ShardedIndex.Proofs.Binding.Bound
import ShardedIndex.Proofs.Index.Allotment

/-!
# The outcome of a bind

When a bind over indexes in memory succeeds, and what it leaves in the registry. A bind that fails
keeps the indexes that it created before; they are those of the missing slots in front of the first
slot that cannot get one.
-/

namespace ShardedIndex

/-! ### Indexes in memory -/

/-- The properties select the storage in memory, by its name or by saying nothing. -/
def Properties.InMemory (p : Properties) : Prop :=
  p.get? Key.directoryProvider = none ∨
    p.get? Key.directoryProvider = some IndexFactory.memoryProvider

lemma IndexFactory.isOk_memory {name : String} {p : Properties} :
    (IndexFactory.memory name p).isOk = true ↔ p.InMemory := by
  unfold memory refusing Properties.InMemory
  cases p.get? Key.directoryProvider with
  | none => simp
  | some provider =>
    by_cases h : provider = memoryProvider <;> simp [h]

/-! ### Built-in strategies by name -/

lemma Catalog.idHashName_ne_unshardedName : idHashName ≠ unshardedName := by decide

lemma Catalog.resolve_standard (name : String) :
    standard.resolve name =
      if name = idHashName then .ok .idHash
      else if name = unshardedName then .ok .unsharded
      else .error (.unknownStrategy name) := by
  unfold standard resolve register
  rw [Std.ExtTreeMap.getElem?_insert, Std.ExtTreeMap.getElem?_insert]
  by_cases hhash : name = idHashName
  · simp [hhash]
  · by_cases hnone : name = unshardedName
    · simp [hnone, idHashName_ne_unshardedName, idHashName_ne_unshardedName.symm]
    · simp [hhash, hnone, Ne.symm hhash, Ne.symm hnone, empty]

lemma Strategy.isOk_configure_unsharded {p : Properties} {n : Nat} (current : Routing) :
    (Strategy.unsharded.configure p n current).1.isOk = true ↔ n = 1 := by
  by_cases h : n = 1 <;> simp [unsharded, h]

lemma Strategy.isOk_configure_idHash {p : Properties} {n : Nat} (hn : 0 < n) (current : Routing) :
    (Strategy.idHash.configure p n current).1.isOk = true ↔
      p.getCount Key.shardCount = .ok none ∨ p.getCount Key.shardCount = .ok (some n) := by
  simp only [idHash, Nat.ne_of_gt hn, if_false]
  rcases p.getCount Key.shardCount with fault | _ | count
  · simp
  · simp
  · by_cases h : count = n <;> simp [h]

/-! ### Layouts -/

/-- The slot of a shard: the only shard of an entity type has no identifier, one of many has its
number. -/
def Slot.ofShard (entity : String) (shards shard : Nat) : Slot :=
  ⟨entity, if shards = 1 then none else some (Text.decimal shard)⟩

namespace Layout

variable {l : Layout} {entity : String} {i : Nat} {r : Registry}

/-- The strategy is one of the built-in ones. -/
def Known (l : Layout) : Prop :=
  l.strategy = Catalog.unshardedName ∨ l.strategy = Catalog.idHashName

/-- The strategy accepts the number of shards: without sharding there is one, and a shard count
that is configured is the number of shards. -/
def Accepted (l : Layout) : Prop :=
  (l.strategy = Catalog.unshardedName → l.shardCount = 1) ∧
    (l.strategy = Catalog.idHashName →
      ((l.shards.headD .empty).lift Key.strategy).getCount Key.shardCount = .ok none ∨
      ((l.shards.headD .empty).lift Key.strategy).getCount Key.shardCount = .ok (some l.shardCount))

/-- A shard has an index or can get one in memory. -/
def Available (l : Layout) (entity : String) (r : Registry) (i : Nat) : Prop :=
  (r.lookup? (Slot.ofShard entity l.shardCount i)).isSome ∨ ∃ p ∈ l.shards[i]?, p.InMemory

lemma slot_eq_ofShard (hi : i < l.shardCount) :
    l.slot entity i = Slot.ofShard entity l.shardCount i := by
  by_cases hone : l.shardCount = 1
  · simp [slot, Slot.ofShard, hone]
  · have hmany : l.shardCount > 1 := by omega
    simp [slot, Slot.ofShard, hone, hmany]

lemma getElem?_slots {entry : Slot × Properties} : (l.slots entity)[i]? = some entry ↔
    ∃ p, l.shards[i]? = some p ∧ entry = (Slot.ofShard entity l.shardCount i, p) := by
  rw [slots, List.getElem?_mapIdx, Option.map_eq_some_iff]
  refine exists_congr fun p => and_congr_right fun hp => ?_
  rw [slot_eq_ofShard (List.getElem?_eq_some_iff.1 hp).1, eq_comm]

lemma nodup_slots (l : Layout) (entity : String) : ((l.slots entity).map Prod.fst).Nodup := by
  refine List.nodup_iff_injective_getElem.2 fun i j heq => Fin.ext ?_
  have hi : i.1 < l.shardCount := by simpa using i.2
  have hj : j.1 < l.shardCount := by simpa using j.2
  exact slot_injective hi hj (by simpa [slots] using heq)

lemma obtains_slots_iff {entry : Slot × Properties} (hentry : (l.slots entity)[i]? = some entry) :
    r.obtains .memory entry = true ↔ l.Available entity r i := by
  obtain ⟨p, hp, rfl⟩ := getElem?_slots.1 hentry
  simp [Registry.obtains, Available, IndexFactory.isOk_memory, hp]

lemma all_obtains_iff : (l.slots entity).all (r.obtains .memory) = true ↔
    ∀ i < l.shardCount, l.Available entity r i := by
  rw [List.all_eq_true]
  constructor
  · intro hall i hi
    have hlt : i < (l.slots entity).length := by simpa using hi
    exact (obtains_slots_iff (List.getElem?_eq_getElem hlt)).1 (hall _ (List.getElem_mem hlt))
  · intro hall entry hentry
    obtain ⟨i, hlt, rfl⟩ := List.mem_iff_getElem.1 hentry
    exact (obtains_slots_iff (List.getElem?_eq_getElem hlt)).2 (hall i (by simpa using hlt))

/-- The slots that are due are the missing ones with no shard in the way. -/
lemma mem_due_slots_iff {slot : Slot} :
    slot ∈ (r.due .memory (l.slots entity)).map Prod.fst ↔ r.lookup? slot = none ∧
      ∃ i < l.shardCount, slot = Slot.ofShard entity l.shardCount i ∧
        ∀ j ≤ i, l.Available entity r j := by
  constructor
  · intro hmem
    obtain ⟨entry, hdue, rfl⟩ := List.mem_map.1 hmem
    obtain ⟨hnone, i, hi, hobtains⟩ := Registry.mem_due_iff.1 hdue
    have hlt : i < (l.slots entity).length := (List.getElem?_eq_some_iff.1 hi).1
    obtain ⟨p, -, rfl⟩ := getElem?_slots.1 hi
    refine ⟨hnone, i, by simpa using hlt, rfl, fun j hj => ?_⟩
    have hget := List.getElem?_eq_getElem (hj.trans_lt hlt)
    exact (obtains_slots_iff hget).1 (hobtains j hj _ hget)
  · rintro ⟨hnone, i, hi, rfl, havailable⟩
    have hget : (l.slots entity)[i]? = some (Slot.ofShard entity l.shardCount i, l.shards[i]) :=
      getElem?_slots.2 ⟨_, List.getElem?_eq_getElem hi, rfl⟩
    refine List.mem_map.2 ⟨_, Registry.mem_due_iff.2 ⟨hnone, i, hget, ?_⟩, rfl⟩
    exact fun j hj other hother => (obtains_slots_iff hother).2 (havailable j hj)

/-! ### Binds -/

variable {interceptor : Option Interceptor} {strategy : Strategy}

lemma known_iff : l.Known ↔ ∃ strategy, Catalog.standard.resolve l.strategy = .ok strategy := by
  rw [Known, Catalog.resolve_standard]
  by_cases hhash : l.strategy = Catalog.idHashName
  · simp [hhash]
  · by_cases hnone : l.strategy = Catalog.unshardedName <;>
      simp [hhash, hnone, Catalog.idHashName_ne_unshardedName.symm]

lemma isOk_configure_iff (hpos : 0 < l.shardCount)
    (hs : Catalog.standard.resolve l.strategy = .ok strategy) :
    (strategy.configure l.strategyProperties l.shardCount strategy.fresh).1.isOk = true ↔
      l.Accepted := by
  rw [Catalog.resolve_standard] at hs
  have hne := Catalog.idHashName_ne_unshardedName
  split_ifs at hs with hhash hnone
  · cases hs
    simp [Strategy.isOk_configure_idHash hpos, Accepted, hhash, hne, strategyProperties]
  · cases hs
    simp [Strategy.isOk_configure_unsharded, Accepted, hnone, hne.symm]

/-- Without a shard or without a strategy nothing is done. -/
lemma bind_of_not_known (h : ¬ (0 < l.shardCount ∧ l.Known)) :
    ∃ fault, l.bind entity interceptor .memory r = (.error fault, r) := by
  cases hshards : l.shards with
  | nil => exact ⟨.entityWithNoShard entity, by simp [Layout.bind, hshards]⟩
  | cons p rest =>
    have hunknown : ¬ ∃ strategy, Catalog.standard.resolve l.strategy = .ok strategy := by
      rw [← known_iff]
      exact fun hknown => h ⟨by simp [shardCount, hshards], hknown⟩
    cases hs : Catalog.standard.resolve l.strategy with
    | error fault => exact ⟨fault, by simp [Layout.bind, hshards, Services.memory, hs]⟩
    | ok strategy => exact absurd ⟨strategy, hs⟩ hunknown

/-- With a shard and a strategy the registry is what obtaining the slots makes of it, and the bind
succeeds when that does and the strategy accepts. -/
lemma bind_of_resolve (services : Services) (hpos : 0 < l.shardCount)
    (hs : services.catalog.resolve l.strategy = .ok strategy) :
    (l.bind entity interceptor services r).2 =
        (Registry.obtainAll services.factory (l.slots entity) r).2 ∧
      (l.bind entity interceptor services r).1.isOk =
        ((Registry.obtainAll services.factory (l.slots entity) r).1.isOk &&
          (strategy.configure l.strategyProperties l.shardCount strategy.fresh).1.isOk) := by
  have hne : l.shards.isEmpty = false := by
    simpa [shardCount, List.length_pos_iff] using hpos
  rcases ho : Registry.obtainAll services.factory (l.slots entity) r with ⟨fault | handles, r'⟩
  · simp [Layout.bind, hne, hs, ho]
  · have hlength : handles.length = l.shardCount := by
      rw [← (Registry.lookup?_obtainAll ho).length_eq, length_slots]
    rw [← hlength]
    rcases hc : strategy.configure l.strategyProperties handles.length strategy.fresh with
      ⟨_ | _, routing⟩ <;> simp [Layout.bind, hne, hs, ho, hc]

lemma builtIn_of_resolve (hs : Catalog.standard.resolve l.strategy = .ok strategy) :
    strategy.BuiltIn := by
  rw [Catalog.resolve_standard] at hs
  split_ifs at hs <;> cases hs
  · exact .idHash
  · exact .unsharded

/-- What a bind that succeeds binds: for each shard the index of its slot. -/
lemma indexes_of_bind {r' : Registry} {b : Binding} {factory : IndexFactory} (hr : r.Reachable)
    (hok : l.bind entity interceptor ⟨factory, .standard⟩ r = (.ok b, r')) :
    b.indexes.size = l.shardCount ∧ b.routing.shardCount = l.shardCount ∧
      b.indexes.toList.Nodup ∧ ∀ i < l.shardCount, ∃ h, b.indexes[i]? = some h ∧
        r'.lookup? (Slot.ofShard entity l.shardCount i) = some h := by
  obtain ⟨strategy, handles, hs, ho, hc, hindexes, -⟩ := Layout.bind_ok hok
  have hlength : handles.length = l.shardCount := by
    rw [← (Registry.lookup?_obtainAll ho).length_eq, length_slots]
  have hcount := ((builtIn_of_resolve hs).of_configure hc).2.1
  refine ⟨by simp [hindexes, hlength], hcount.trans hlength, ?_, fun i hi => ?_⟩
  · rw [hindexes]
    exact nodup_handles (hr.obtainAll ho).sound ho
  · have hlt : i < handles.length := hlength ▸ hi
    refine ⟨handles[i], by simp [hindexes, hlt], ?_⟩
    rw [← slot_eq_ofShard hi]
    exact (lookup?_slot ho hlt).2

lemma isOk_bind_iff : (l.bind entity interceptor .memory r).1.isOk = true ↔
    0 < l.shardCount ∧ l.Known ∧ (∀ i < l.shardCount, l.Available entity r i) ∧ l.Accepted := by
  by_cases h : 0 < l.shardCount ∧ l.Known
  · obtain ⟨strategy, hs⟩ := known_iff.1 h.2
    rw [(bind_of_resolve .memory h.1 hs).2, Bool.and_eq_true,
      isOk_configure_iff h.1 hs]
    have hall : (Registry.obtainAll .memory (l.slots entity) r).1.isOk = true ↔
        ∀ i < l.shardCount, l.Available entity r i := by
      rw [Registry.isOk_obtainAll (l.nodup_slots entity), all_obtains_iff]
    exact ⟨fun ⟨ho, hc⟩ => ⟨h.1, h.2, hall.1 ho, hc⟩, fun ⟨_, _, ho, hc⟩ => ⟨hall.2 ho, hc⟩⟩
  · obtain ⟨fault, herror⟩ := bind_of_not_known h
    rw [herror]
    exact ⟨nofun, fun ⟨hpos, hknown, _⟩ => absurd ⟨hpos, hknown⟩ h⟩

/-- The entries that a bind adds, whether it succeeds or not. -/
lemma filled_bind (l : Layout) (entity : String) (interceptor : Option Interceptor)
    (r : Registry) : ∃ new, r.Filled (l.bind entity interceptor .memory r).2 new ∧
      ∀ slot, slot ∈ new.map Prod.fst ↔ r.lookup? slot = none ∧ 0 < l.shardCount ∧ l.Known ∧
        ∃ i < l.shardCount, slot = Slot.ofShard entity l.shardCount i ∧
          ∀ j ≤ i, l.Available entity r j := by
  by_cases h : 0 < l.shardCount ∧ l.Known
  · obtain ⟨strategy, hs⟩ := known_iff.1 h.2
    rw [(bind_of_resolve .memory h.1 hs).1]
    refine ⟨_, Registry.filled_obtainAll (l.nodup_slots entity), fun slot => ?_⟩
    simp only [h.1, h.2, true_and]
    exact mem_due_slots_iff
  · obtain ⟨fault, herror⟩ := bind_of_not_known h
    rw [herror]
    refine ⟨[], Registry.filled_nil r, fun slot => ?_⟩
    exact ⟨nofun, fun ⟨_, hpos, hknown, _⟩ => absurd ⟨hpos, hknown⟩ h⟩

/-- The outcome of a bind over indexes in memory, in a registry with any past. It succeeds exactly
when there is a shard, the strategy exists, every shard is available and the strategy accepts. Then
it binds an index of its own to each shard, the one of the slot of the shard. In any case the
entries stay, and there is a new one for exactly the missing slots of a known strategy with no shard
up to them in the way: a factory is called with success once for each new entry, for nothing else,
and each index that it makes is new. -/
theorem bind_outcome {result : Except Fault Binding} {r' : Registry} (hr : r.Reachable)
    (hbind : l.bind entity interceptor .memory r = (result, r')) :
    ((∃ b, result = .ok b) ↔ 0 < l.shardCount ∧ l.Known ∧
        (∀ i < l.shardCount, l.Available entity r i) ∧ l.Accepted) ∧
      (∀ b, result = .ok b → b.indexes.size = l.shardCount ∧ b.routing.shardCount = l.shardCount ∧
        b.indexes.toList.Nodup ∧ ∀ i < l.shardCount, ∃ h, b.indexes[i]? = some h ∧
          r'.lookup? (Slot.ofShard entity l.shardCount i) = some h) ∧
      r'.Extends r ∧
      (∀ slot, r.lookup? slot = none → ((r'.lookup? slot).isSome ↔ 0 < l.shardCount ∧ l.Known ∧
        ∃ i < l.shardCount, slot = Slot.ofShard entity l.shardCount i ∧
          ∀ j ≤ i, l.Available entity r j)) ∧
      ∃ calls, r'.created = r.created + calls ∧ r'.size = r.size + calls ∧
        r'.store.size = r.store.size + calls := by
  have hsuccess : (l.bind entity interceptor .memory r).1.isOk = true ↔ _ := isOk_bind_iff
  obtain ⟨new, hfilled, hnew⟩ := l.filled_bind entity interceptor r
  rw [hbind] at hsuccess hfilled
  refine ⟨?_, ?_, extends_bind hbind, fun slot hnone => ?_, _, hfilled.created_eq,
    hfilled.size_eq, hfilled.size_store⟩
  · rw [← hsuccess, isOk_iff]
  · rintro b rfl
    exact indexes_of_bind hr hbind
  · rw [hfilled.isSome_lookup?, hnew]
    simp [hnone]

/-- Four shards, of which the last one is to be stored elsewhere. -/
def lastElsewhere : Layout :=
  ⟨Catalog.idHashName, [.empty, .empty, .empty, Properties.empty.set Key.directoryProvider "disk"]⟩

lemma ofShard_lastElsewhere (i : Nat) :
    Slot.ofShard "Quote" lastElsewhere.shardCount i = ⟨"Quote", some i.repr⟩ := rfl

lemma available_lastElsewhere_iff {i : Nat} (hi : i < 4) :
    lastElsewhere.Available "Quote" .pair i ↔ i ≠ 3 := by
  have hempty : Properties.empty.InMemory := .inl rfl
  have hdisk : ¬ (Properties.empty.set Key.directoryProvider "disk").InMemory := by
    simp [Properties.InMemory, IndexFactory.memoryProvider]
  rw [Available, ofShard_lastElsewhere]
  interval_cases i
  · simp [lastElsewhere, hempty]
  · simp [lastElsewhere, hempty]
  · simp [lastElsewhere, hempty]
  · have hmissing : Registry.pair.lookup? ⟨"Quote", some (Nat.repr 3)⟩ = none := by
      rw [Registry.lookup?_pair]
      decide
    simp [hmissing, lastElsewhere, hdisk]

/-- A bind that fails at the last shard has found two indexes and created one. -/
theorem bind_outcome_lastElsewhere :
    let outcome := lastElsewhere.bind "Quote" none .memory .pair
    Registry.pair.Reachable ∧ (¬ ∃ b, outcome.1 = .ok b) ∧
      outcome.2.lookup? ⟨"Quote", some "0"⟩ = some 0 ∧
      (outcome.2.lookup? ⟨"Quote", some "2"⟩).isSome ∧
      outcome.2.lookup? ⟨"Quote", some "3"⟩ = none := by
  intro outcome
  have hr : Registry.pair.Reachable := Registry.Reachable.empty.bind (bind_pair none)
  have hbind : lastElsewhere.bind "Quote" none .memory .pair = (outcome.1, outcome.2) := rfl
  obtain ⟨hsuccess, -, hextends, hnew, -⟩ := bind_outcome hr hbind
  have hblocked : ¬ lastElsewhere.Available "Quote" .pair 3 := fun h =>
    (available_lastElsewhere_iff (by decide)).1 h rfl
  refine ⟨hr, fun hok => hblocked ((hsuccess.1 hok).2.2.1 3 (by decide)), hextends _ _ ?_,
    (hnew _ ?_).2 ?_, ?_⟩
  · rw [Registry.lookup?_pair]
    decide
  · rw [Registry.lookup?_pair]
    decide
  · refine ⟨by decide, .inr rfl, 2, by decide, rfl, fun j hj => ?_⟩
    exact (available_lastElsewhere_iff (by omega)).2 (by omega)
  · rw [← Option.not_isSome_iff_eq_none, hnew _ (by rw [Registry.lookup?_pair]; decide)]
    rintro ⟨-, -, i, -, hslot, havailable⟩
    rw [ofShard_lastElsewhere, Slot.mk.injEq, Option.some.injEq] at hslot
    have hi : i = 3 := (Nat.repr_inj.1 (show Nat.repr 3 = i.repr from hslot.2)).symm
    exact hblocked (havailable 3 hi.ge)

end Layout

end ShardedIndex
