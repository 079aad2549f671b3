import Mathlib
import ShardedIndex.Proofs.Binding.Outcome

/-!
# Bindings over new indexes in memory

In a registry without entries a bind creates an index for each shard. Indexes in memory are created
without documents, and they refuse nothing.
-/

namespace ShardedIndex

/-! ### New indexes -/

/-- No index of the store has documents, and none refuses a work. -/
def Store.Pristine (s : Store) : Prop :=
  ∀ h x, s.get? h = some x → x.documents = ∅ ∧ x.refusal = .never

namespace Store.Pristine

variable {s : Store}

lemma documents_eq_empty (hs : s.Pristine) (h : Handle) : s.documents h = ∅ := by
  cases hx : s.get? h with
  | none => simp [documents, hx]
  | some x => simp [documents, hx, (hs h x hx).1]

lemma refusalOf_eq_never (hs : s.Pristine) (h : Handle) : s.refusalOf h = .never := by
  cases hx : s.get? h with
  | none => simp [refusalOf, hx]
  | some x => simp [refusalOf, hx, (hs h x hx).2]

lemma create {r r' : Registry} {slot : Slot} {p : Properties} {result : Except Fault Handle}
    (hr : r.store.Pristine) (hc : r.create .memory slot p = (result, r')) : r'.store.Pristine := by
  cases Registry.Created.of_create hc with
  | found => exact hr
  | refused => exact hr
  | entered hnone hmade =>
    intro h y hy
    simp only [Registry.enter, Store.add, Store.get?, Array.getElem?_push] at hy
    split_ifs at hy with hlast
    · obtain rfl := Option.some.inj hy
      rw [IndexFactory.eq_create_of_memory hmade]
      exact ⟨rfl, rfl⟩
    · exact hr h y hy

end Store.Pristine

lemma Registry.due_eq_self {r : Registry} {factory : IndexFactory}
    {slots : List (Slot × Properties)} (hall : slots.all (r.obtains factory) = true)
    (hnone : ∀ entry ∈ slots, r.lookup? entry.1 = none) : r.due factory slots = slots := by
  rw [due, List.takeWhile_eq_self_iff.2 (List.all_eq_true.1 hall), List.filter_eq_self]
  intro entry hentry
  rw [hnone entry hentry, Option.isNone_none]

/-! ### Binds -/

namespace Layout

variable {l : Layout} {entity : String} {interceptor : Option Interceptor} {strategy : Strategy}
  {routing : Routing} {b : Binding} {r : Registry}

lemma fresh_and_accepts_of_bind (hok : l.bind entity interceptor .memory .empty = (.ok b, r)) :
    b.Fresh r.store ∧ b.Accepts r.store := by
  obtain ⟨strategy, handles, hs, ho, -⟩ := bind_ok hok
  have hempty : Registry.empty.store.Pristine := by
    intro h x hx
    simp [Registry.empty, Store.empty, Store.get?] at hx
  have hpristine : r.store.Pristine :=
    Registry.obtainAll_induction (P := fun r => r.store.Pristine) (fun hc hr => hr.create hc) hempty
      ho
  exact ⟨.bind .empty hs (builtIn_of_resolve hs) hok fun h _ => hpristine.documents_eq_empty h,
    fun h _ docs w => congrFun₂ (hpristine.refusalOf_eq_never h) docs w⟩

/-- A layout whose strategy accepts it binds a new index for each shard. -/
lemma bind_new (entity : String) (interceptor : Option Interceptor) (hpos : 0 < l.shardCount)
    (hs : Catalog.standard.resolve l.strategy = .ok strategy)
    (hc : strategy.configure l.strategyProperties l.shardCount strategy.fresh = (.ok (), routing))
    (hmemory : ∀ p ∈ l.shards, p.InMemory) :
    ∃ handles r, l.bind entity interceptor .memory .empty =
        (.ok ⟨entity, l.strategy, routing, handles, interceptor⟩, r) ∧
      handles.size = l.shardCount ∧ r.store.size = l.shardCount := by
  have hall : (l.slots entity).all (Registry.empty.obtains .memory) = true := by
    rw [all_obtains_iff]
    intro i hi
    exact .inr ⟨_, List.getElem?_eq_getElem hi, hmemory _ (List.getElem_mem hi)⟩
  have hnone : ∀ entry ∈ l.slots entity, Registry.empty.lookup? entry.1 = none := by
    intro entry _
    simp [Registry.empty, Registry.lookup?]
  have hok : (Registry.obtainAll .memory (l.slots entity) .empty).1.isOk = true :=
    (Registry.isOk_obtainAll (l.nodup_slots entity)).trans hall
  have hfilled : Registry.empty.Filled (Registry.obtainAll .memory (l.slots entity) .empty).2
      (Registry.empty.due .memory (l.slots entity)) :=
    Registry.filled_obtainAll (l.nodup_slots entity)
  rw [isOk_iff] at hok
  rw [Registry.due_eq_self hall hnone] at hfilled
  obtain ⟨handles, hhandles⟩ := hok
  rcases ho : Registry.obtainAll .memory (l.slots entity) .empty with ⟨result, r⟩
  rw [ho] at hhandles hfilled
  obtain rfl : result = .ok handles := hhandles
  have hlength : handles.length = l.shardCount := by
    rw [← (Registry.lookup?_obtainAll ho).length_eq, length_slots]
  have hne : l.shards.isEmpty = false := by
    simpa [shardCount, List.length_pos_iff] using hpos
  refine ⟨handles.toArray, r, ?_, by simpa using hlength, ?_⟩
  · rw [← hlength] at hc
    simp [Layout.bind, hne, Services.memory, hs, ho, hc]
  · rw [hfilled.size_store, length_slots]
    simp [Registry.empty, Store.empty, Store.size]

end Layout

end ShardedIndex
