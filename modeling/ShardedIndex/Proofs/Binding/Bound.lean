import Mathlib
import ShardedIndex.Binding.Basic
import ShardedIndex.Proofs.Index.Registry

/-!
# Bound by a built-in strategy

A binding that a built-in strategy made sends every document to exactly one shard, the one of its
hash, and a broadcast to every shard; its shards are indexes of their own.
-/

namespace ShardedIndex

/-! ### Slots of a layout -/

namespace Layout

variable {l : Layout} {entity : String} {i j : Nat}

@[simp] lemma length_slots : (l.slots entity).length = l.shardCount := by
  simp [slots, shardCount]

/-- Shards of one layout have slots of their own. -/
lemma slot_injective (hi : i < l.shardCount) (hj : j < l.shardCount)
    (heq : l.slot entity i = l.slot entity j) : i = j := by
  by_cases hone : l.shardCount > 1
  · simp only [slot, hone, if_true, Slot.mk.injEq, Option.some.injEq, true_and] at heq
    exact Nat.repr_inj.1 heq
  · omega

end Layout

/-! ### Built-in strategies -/

inductive Strategy.BuiltIn : Strategy → Prop
  | unsharded : BuiltIn .unsharded
  | idHash : BuiltIn .idHash

/-- A built-in strategy that accepts its indexes routes by the hash of the id, also without
sharding, since there is only one index then. How it routed before does not matter. -/
lemma Strategy.BuiltIn.of_configure {strategy : Strategy} {p : Properties} {n : Nat}
    {current routing : Routing} (hs : strategy.BuiltIn)
    (hc : strategy.configure p n current = (.ok (), routing)) :
    0 < n ∧ routing.shardCount = n ∧
      (∀ id, routing.choose (.document id) = [Routing.ordinal id n]) ∧
      routing.choose .all = List.range n := by
  cases hs with
  | unsharded =>
    simp only [Strategy.unsharded] at hc
    split_ifs at hc with hn
    · cases hc
    · cases hc
      obtain rfl := not_not.1 hn
      exact ⟨Nat.one_pos, rfl, fun id => rfl, rfl⟩
  | idHash =>
    have hrouting : n ≠ 0 ∧ routing = .byHash n := by
      simp only [Strategy.idHash] at hc
      split_ifs at hc with hn
      · cases hc
      · refine ⟨hn, ?_⟩
        split at hc
        · cases hc
        · cases hc
          rfl
        · split_ifs at hc <;> cases hc
          rfl
    obtain ⟨hn, rfl⟩ := hrouting
    exact ⟨Nat.pos_of_ne_zero hn, rfl, fun id => rfl, rfl⟩

/-! ### Bindings -/

lemma IndexFactory.eq_create_of_memory {name : String} {p : Properties} {x : Index}
    (hx : memory name p = .ok x) : x = .create name p .never := by
  unfold memory refusing at hx
  split at hx
  · cases hx
    rfl
  · split_ifs at hx
    cases hx
    rfl

namespace Binding

/-- A binding whose shards part the documents by the hash of the id. -/
structure Partitioned (b : Binding) : Prop where
  pos : 0 < b.indexes.size
  document : ∀ id, b.routing.choose (.document id) = [Routing.ordinal id b.indexes.size]
  all : b.routing.choose .all = List.range b.indexes.size
  nodup : b.indexes.toList.Nodup

/-- Every index of the binding is an index of the store. -/
def LivesIn (b : Binding) (s : Store) : Prop := ∀ h ∈ b.indexes, h < s.size

lemma LivesIn.admitting {b : Binding} {s : Store} (hl : b.LivesIn s) : b.LivesIn s.admitting :=
  fun h hh => Store.size_admitting.symm ▸ hl h hh

/-- No index of the binding ever refuses a work, whatever documents it holds. -/
def Accepts (b : Binding) (s : Store) : Prop :=
  ∀ h ∈ b.indexes, ∀ docs w, s.refusalOf h docs w = none

lemma Accepts.refusal?_eq_none {b : Binding} {s : Store} {h : Handle} (ha : b.Accepts s)
    (hh : h ∈ b.indexes) (w : Work) : s.refusal? h w = none :=
  ha h hh _ w

lemma accepts_admitting (b : Binding) (s : Store) : b.Accepts s.admitting := by
  intro h _ docs w
  rw [Store.refusalOf_admitting]
  rfl

/-- Indexes in memory never refuse a work. -/
lemma accepts_of_memory {b : Binding} {s : Store} (hmemory : ∀ h ∈ b.indexes, ∃ name p x,
    IndexFactory.memory name p = .ok x ∧ s.get? h = some x) : b.Accepts s := by
  intro h hh docs w
  obtain ⟨name, p, x, hx, hget⟩ := hmemory h hh
  rw [Store.refusalOf, hget, IndexFactory.eq_create_of_memory hx]
  rfl

end Binding

/-- The steps of a binding that succeeds. -/
lemma Layout.bind_ok {l : Layout} {entity : String} {interceptor : Option Interceptor}
    {services : Services} {r r' : Registry} {b : Binding}
    (hok : l.bind entity interceptor services r = (.ok b, r')) :
    ∃ strategy handles, services.catalog.resolve l.strategy = .ok strategy ∧
      Registry.obtainAll services.factory (l.slots entity) r = (.ok handles, r') ∧
      strategy.configure l.strategyProperties handles.length strategy.fresh =
        (.ok (), b.routing) ∧
      b.indexes = handles.toArray ∧ b.interceptor = interceptor ∧ b.entity = entity := by
  unfold Layout.bind at hok
  split_ifs at hok
  · cases hok
  · cases hs : services.catalog.resolve l.strategy with
    | error fault => simp [hs] at hok
    | ok strategy =>
      rcases ho : Registry.obtainAll services.factory (l.slots entity) r with ⟨_ | handles, r₁⟩
      · simp [hs, ho] at hok
      · rcases hc : strategy.configure l.strategyProperties handles.length strategy.fresh with
          ⟨_ | _, routing⟩
        · simp [hs, ho, hc] at hok
        · simp only [hs, ho, hc, Prod.mk.injEq, Except.ok.injEq] at hok
          obtain ⟨rfl, rfl⟩ := hok
          exact ⟨strategy, handles, rfl, rfl, hc, rfl, rfl, rfl⟩

section

variable {l : Layout} {entity : String} {interceptor : Option Interceptor} {services : Services}
  {r r' : Registry} {b : Binding} {handles : List Handle} {factory : IndexFactory}
  {result : Except Fault Binding}

/-- Whatever comes of a bind, it does nothing to the registry but to obtain slots. -/
lemma Layout.registry_of_bind (hbind : l.bind entity interceptor services r = (result, r')) :
    r' = r ∨ ∃ outcome,
      Registry.obtainAll services.factory (l.slots entity) r = (outcome, r') := by
  unfold Layout.bind at hbind
  split_ifs at hbind
  · cases hbind
    exact .inl rfl
  · cases hs : services.catalog.resolve l.strategy with
    | error fault =>
      simp only [hs, Prod.mk.injEq] at hbind
      exact .inl hbind.2.symm
    | ok strategy =>
      right
      rcases ho : Registry.obtainAll services.factory (l.slots entity) r with ⟨fault | handles, r₁⟩
      · simp only [hs, ho, Prod.mk.injEq] at hbind
        exact ⟨_, by rw [hbind.2]⟩
      · simp only [hs, ho] at hbind
        split at hbind <;> cases hbind <;> exact ⟨_, rfl⟩

lemma Layout.extends_bind (hbind : l.bind entity interceptor services r = (result, r')) :
    r'.Extends r := by
  obtain rfl | ⟨outcome, ho⟩ := Layout.registry_of_bind hbind
  · exact fun _ _ hl => hl
  · exact Registry.extends_obtainAll ho

lemma Registry.Reachable.bind (hr : r.Reachable)
    (hbind : l.bind entity interceptor services r = (result, r')) : r'.Reachable := by
  obtain rfl | ⟨outcome, ho⟩ := Layout.registry_of_bind hbind
  · exact hr
  · exact hr.obtainAll ho

lemma Layout.lookup?_slot (hok : Registry.obtainAll factory (l.slots entity) r = (.ok handles, r'))
    {i : Nat} (hi : i < handles.length) :
    i < l.shardCount ∧ r'.lookup? (l.slot entity i) = some handles[i] := by
  have hall := List.forall₂_iff_get.1 (Registry.lookup?_obtainAll hok)
  have hi' : i < (l.slots entity).length := hall.1 ▸ hi
  have hget : (l.slots entity)[i].1 = l.slot entity i := by
    simp [Layout.slots]
  refine ⟨by simpa using hi', ?_⟩
  rw [← hget]
  exact hall.2 i hi' hi

lemma Layout.nodup_handles (hr : r'.Sound)
    (hok : Registry.obtainAll factory (l.slots entity) r = (.ok handles, r')) : handles.Nodup := by
  refine List.nodup_iff_injective_getElem.2 fun i j heq => Fin.ext ?_
  obtain ⟨hi, hslot⟩ := Layout.lookup?_slot hok i.2
  obtain ⟨hj, hslot'⟩ := Layout.lookup?_slot hok j.2
  have heq' : handles[i.1] = handles[j.1] := heq
  rw [← heq'] at hslot'
  exact Layout.slot_injective hi hj (hr.injective hslot hslot')

lemma Layout.handles_lt (hr : r'.Sound)
    (hok : Registry.obtainAll factory (l.slots entity) r = (.ok handles, r')) :
    ∀ h ∈ handles, h < r'.store.size := by
  intro h hh
  obtain ⟨i, hi, rfl⟩ := List.mem_iff_getElem.1 hh
  exact hr.inStore (Layout.lookup?_slot hok hi).2

/-- The indexes of a binding are indexes of the store, whatever the strategy. -/
lemma Layout.livesIn_of_bind (hr : r.Reachable)
    (hok : l.bind entity interceptor services r = (.ok b, r')) : b.LivesIn r'.store := by
  obtain ⟨-, handles, -, ho, -, hindexes, -⟩ := Layout.bind_ok hok
  intro h hh
  rw [hindexes] at hh
  exact Layout.handles_lt (hr.obtainAll ho).sound ho h (by simpa using hh)

/-- What a built-in strategy binds parts the documents. -/
lemma Layout.partitioned_of_bind {strategy : Strategy} (hr : r.Reachable)
    (hs : services.catalog.resolve l.strategy = .ok strategy) (hb : strategy.BuiltIn)
    (hok : l.bind entity interceptor services r = (.ok b, r')) : b.Partitioned := by
  obtain ⟨strategy', handles, hs', ho, hc, hindexes, -⟩ := Layout.bind_ok hok
  obtain rfl : strategy = strategy' := Except.ok.inj (hs.symm.trans hs')
  obtain ⟨hpos, -, hdocument, hall⟩ := hb.of_configure hc
  have hsize : b.indexes.size = handles.length := by simp [hindexes]
  constructor
  · rwa [hsize]
  · intro id
    rw [hsize, hdocument id]
  · rw [hsize, hall]
  · rw [hindexes]
    exact Layout.nodup_handles (hr.obtainAll ho).sound ho

end

/-- A binding that some strategy made in a registry with any past, and a store that may have changed
since then. -/
inductive Binding.Bound : Binding → Store → Prop
  | bind {l : Layout} {entity : String} {interceptor : Option Interceptor} {services : Services}
      {r r' : Registry} {b : Binding} {s : Store} (hr : r.Reachable)
      (hok : l.bind entity interceptor services r = (.ok b, r'))
      (hs : r'.store.size ≤ s.size) : Bound b s

lemma Binding.Bound.livesIn {b : Binding} {s : Store} (hb : b.Bound s) : b.LivesIn s := by
  obtain ⟨hr, hok, hs⟩ := hb
  exact fun h hh => (Layout.livesIn_of_bind hr hok h hh).trans_le hs

/-- A binding that a built-in strategy made in a registry with any past, and a store that may have
changed since then. -/
inductive Binding.BuiltIn : Binding → Store → Prop
  | bind {l : Layout} {entity : String} {interceptor : Option Interceptor} {services : Services}
      {strategy : Strategy} {r r' : Registry} {b : Binding} {s : Store} (hr : r.Reachable)
      (hs : services.catalog.resolve l.strategy = .ok strategy) (hb : strategy.BuiltIn)
      (hok : l.bind entity interceptor services r = (.ok b, r'))
      (hsize : r'.store.size ≤ s.size) : BuiltIn b s

lemma Binding.BuiltIn.partitioned {b : Binding} {s : Store} (hb : b.BuiltIn s) : b.Partitioned := by
  obtain ⟨hr, hs, hb, hok, -⟩ := hb
  exact Layout.partitioned_of_bind hr hs hb hok

lemma Binding.BuiltIn.livesIn {b : Binding} {s : Store} (hb : b.BuiltIn s) : b.LivesIn s := by
  obtain ⟨hr, -, -, hok, hsize⟩ := hb
  exact fun h hh => (Layout.livesIn_of_bind hr hok h hh).trans_le hsize

/-- A binding that a built-in strategy just made over indexes without documents, in a registry with
any past. -/
inductive Binding.Fresh : Binding → Store → Prop
  | bind {l : Layout} {entity : String} {interceptor : Option Interceptor} {services : Services}
      {strategy : Strategy} {r r' : Registry} {b : Binding} (hr : r.Reachable)
      (hs : services.catalog.resolve l.strategy = .ok strategy) (hb : strategy.BuiltIn)
      (hok : l.bind entity interceptor services r = (.ok b, r'))
      (hempty : ∀ h ∈ b.indexes, r'.store.documents h = ∅) : Fresh b r'.store

namespace Binding.Fresh

variable {b : Binding} {s : Store}

lemma partitioned (hb : b.Fresh s) : b.Partitioned := by
  obtain ⟨hr, hs, hb, hok, -⟩ := hb
  exact Layout.partitioned_of_bind hr hs hb hok

lemma livesIn (hb : b.Fresh s) : b.LivesIn s := by
  obtain ⟨hr, -, -, hok, -⟩ := hb
  exact Layout.livesIn_of_bind hr hok

lemma documents_eq_empty (hb : b.Fresh s) : ∀ h ∈ b.indexes, s.documents h = ∅ := by
  obtain ⟨-, -, -, -, hempty⟩ := hb
  exact hempty

end Binding.Fresh

/-! ### Two shards in memory -/

/-- A binding by the hash of the id over the first two indexes of a store. -/
def Binding.pair (interceptor : Option Interceptor) : Binding :=
  ⟨"Quote", Catalog.idHashName, .byHash 2, #[0, 1], interceptor⟩

/-- Two indexes in memory without documents. -/
def Store.pair : Store :=
  ⟨#[.create "Quote.0" .empty .never, .create "Quote.1" .empty .never], #[]⟩

lemma Catalog.resolve_idHash : standard.resolve idHashName = .ok .idHash := by
  simp [standard, resolve, register]

def Registry.pair : Registry :=
  ⟨((∅ : Std.HashMap Slot Handle).insert ⟨"Quote", some "0"⟩ 0).insert ⟨"Quote", some "1"⟩ 1, .pair,
    2⟩

lemma Registry.lookup?_pair (slot : Slot) : Registry.pair.lookup? slot =
    if ⟨"Quote", some "1"⟩ = slot then some 1
    else if ⟨"Quote", some "0"⟩ = slot then some 0 else none := by
  simp only [pair, lookup?, Std.HashMap.getElem?_insert, beq_iff_eq, Std.HashMap.getElem?_empty]

/-- The slots of two shards. -/
def Slot.two : List (Slot × Properties) :=
  [(⟨"Quote", some "0"⟩, .empty), (⟨"Quote", some "1"⟩, .empty)]

lemma Registry.obtainAll_pair : obtainAll .memory Slot.two .empty = (.ok [0, 1], .pair) := by
  simp [Slot.two, obtainAll, obtain, create, make, Registry.insert, lookup?, Registry.empty,
    IndexFactory.memory, IndexFactory.refusing, Store.add, Store.empty, Registry.pair, Store.pair]
  exact ⟨rfl, rfl⟩

lemma Layout.slots_two (name : String) :
    Layout.slots ⟨name, [.empty, .empty]⟩ "Quote" = Slot.two := by
  simp [slots, slot, shardCount, Text.decimal, Slot.two]
  decide

/-- Any strategy that accepts two indexes binds them. -/
lemma Layout.bind_two {catalog : Catalog} {name : String} {strategy : Strategy} {routing : Routing}
    {r r' : Registry} (interceptor : Option Interceptor) (hs : catalog.resolve name = .ok strategy)
    (hc : strategy.configure (Properties.empty.lift Key.strategy) 2 strategy.fresh =
      (.ok (), routing))
    (ho : Registry.obtainAll .memory Slot.two r = (.ok [0, 1], r')) :
    Layout.bind ⟨name, [.empty, .empty]⟩ "Quote" interceptor ⟨.memory, catalog⟩ r =
      (.ok ⟨"Quote", name, routing, #[0, 1], interceptor⟩, r') := by
  simp [Layout.bind, slots_two, hs, ho, strategyProperties, hc]

lemma Layout.bind_idHash {r r' : Registry} (interceptor : Option Interceptor)
    (ho : Registry.obtainAll .memory Slot.two r = (.ok [0, 1], r')) :
    Layout.bind ⟨Catalog.idHashName, [.empty, .empty]⟩ "Quote" interceptor .memory r =
      (.ok (.pair interceptor), r') := by
  have hcount : (Properties.empty.lift Key.strategy).getCount Key.shardCount = .ok none := rfl
  exact Layout.bind_two interceptor Catalog.resolve_idHash (by simp [Strategy.idHash, hcount]) ho

lemma Layout.bind_pair (interceptor : Option Interceptor) :
    Layout.bind ⟨Catalog.idHashName, [.empty, .empty]⟩ "Quote" interceptor .memory .empty =
      (.ok (.pair interceptor), .pair) :=
  Layout.bind_idHash interceptor Registry.obtainAll_pair

lemma Binding.fresh_pair (interceptor : Option Interceptor) :
    (Binding.pair interceptor).Fresh .pair := by
  refine .bind .empty Catalog.resolve_idHash .idHash (Layout.bind_pair interceptor) ?_
  intro h hh
  have hcases : h = 0 ∨ h = 1 := by simpa [Binding.pair] using hh
  rcases hcases with rfl | rfl <;> rfl

lemma Binding.accepts_pair (interceptor : Option Interceptor) :
    (Binding.pair interceptor).Accepts .pair := by
  refine accepts_of_memory fun h hh => ?_
  have hcases : h = 0 ∨ h = 1 := by simpa [Binding.pair] using hh
  rcases hcases with rfl | rfl
  · exact ⟨"Quote.0", .empty, _, rfl, rfl⟩
  · exact ⟨"Quote.1", .empty, _, rfl, rfl⟩

end ShardedIndex
