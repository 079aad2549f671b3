import Mathlib
import ShardedIndex.Index.Registry
import ShardedIndex.Proofs.Index.Store

/-!
# Reachable registries

What every registry is like that grows from the empty one, whichever slots are asked for, by whom
and with which factory, and whatever is done to the documents in between: a slot has an index of its
own, and an entry stays for ever.
-/

namespace ShardedIndex.Registry

variable {r r' : Registry} {factory : IndexFactory} {slot slot' : Slot} {p : Properties}
  {h : Handle} {result : Except Fault Handle} {slots : List (Slot × Properties)} {hs : List Handle}

/-! ### One creation -/

/-- The registry after an index was made and added for a slot. -/
def enter (r : Registry) (slot : Slot) (x : Index) : Registry :=
  ⟨r.slots.insert slot r.store.size, (r.store.add x).2, r.created + 1⟩

lemma lookup?_enter {x : Index} :
    (r.enter slot x).lookup? slot' =
      if slot = slot' then some r.store.size else r.lookup? slot' := by
  simp [enter, lookup?, Std.HashMap.getElem?_insert]

@[simp] lemma created_enter {x : Index} : (r.enter slot x).created = r.created + 1 := rfl

@[simp] lemma size_store_enter {x : Index} : (r.enter slot x).store.size = r.store.size + 1 :=
  Store.size_add x

lemma size_enter {x : Index} (hnone : r.lookup? slot = none) :
    (r.enter slot x).size = r.size + 1 := by
  have hnew : slot ∉ r.slots := by
    rw [Std.HashMap.mem_iff_isSome_getElem?]
    exact Option.not_isSome_iff_eq_none.2 hnone
  rw [size, enter, Std.HashMap.size_insert, if_neg hnew, size]

/-- All that a creation can do. -/
inductive Created (r : Registry) (factory : IndexFactory) (slot : Slot) (p : Properties) :
    Except Fault Handle → Registry → Prop
  /-- The slot has an index. -/
  | found {h : Handle} (hfound : r.lookup? slot = some h) : Created r factory slot p (.ok h) r
  /-- The factory fails. -/
  | refused {fault : Fault} (hnone : r.lookup? slot = none)
      (hfault : factory slot.indexName p = .error fault) :
      Created r factory slot p (.error fault) r
  /-- The factory makes an index. -/
  | entered {x : Index} (hnone : r.lookup? slot = none)
      (hmade : factory slot.indexName p = .ok x) :
      Created r factory slot p (.ok r.store.size) (r.enter slot x)

lemma Created.of_create (hc : r.create factory slot p = (result, r')) :
    Created r factory slot p result r' := by
  unfold create at hc
  cases hl : r.lookup? slot with
  | some h =>
    rw [hl] at hc
    cases hc
    exact .found hl
  | none =>
    cases hf : factory slot.indexName p with
    | error fault =>
      simp only [hl, make, hf] at hc
      cases hc
      exact .refused hl hf
    | ok x =>
      simp only [hl, make, hf] at hc
      cases hc
      exact .entered hl hf

/-- The look-up in front of a creation is not needed for its result. -/
lemma obtain_eq_create (r : Registry) (factory : IndexFactory) (slot : Slot) (p : Properties) :
    r.obtain factory slot p = r.create factory slot p := by
  unfold obtain create
  cases r.lookup? slot <;> rfl

/-! ### Reachability -/

/-- The registries that grow from the empty one. A creation may be the second step of any caller,
with any factory, and indexes may be written to and purged at any time. -/
inductive Reachable : Registry → Prop
  | empty : Reachable .empty
  | create {r r' : Registry} {factory : IndexFactory} {slot : Slot} {p : Properties}
      {result : Except Fault Handle} (hr : Reachable r)
      (hc : r.create factory slot p = (result, r')) : Reachable r'
  | write {r : Registry} (h : Handle) (w : Work) (hr : Reachable r) :
      Reachable { r with store := r.store.write h w }
  | purge {r : Registry} (h : Handle) (hr : Reachable r) :
      Reachable { r with store := r.store.purge h }

/-- Every entry is an index of the store, and no two slots share one. -/
structure Sound (r : Registry) : Prop where
  inStore : ∀ {slot h}, r.lookup? slot = some h → h < r.store.size
  injective : ∀ {slot slot' h}, r.lookup? slot = some h → r.lookup? slot' = some h → slot = slot'

lemma Sound.create (hr : r.Sound) (hc : r.create factory slot p = (result, r')) : r'.Sound := by
  cases Created.of_create hc with
  | found => exact hr
  | refused => exact hr
  | entered hnone hmade =>
    constructor
    · intro s h hs
      rw [lookup?_enter] at hs
      rw [size_store_enter]
      split_ifs at hs with heq
      · cases hs
        exact Nat.lt_succ_self _
      · exact Nat.lt_succ_of_lt (hr.inStore hs)
    · intro s s' h hs hs'
      rw [lookup?_enter] at hs hs'
      -- The new handle is the size of the store, so no older entry has it.
      split_ifs at hs hs' with heq heq' heq'
      · exact heq.symm.trans heq'
      · cases hs
        exact absurd (hr.inStore hs') (Nat.lt_irrefl _)
      · cases hs'
        exact absurd (hr.inStore hs) (Nat.lt_irrefl _)
      · exact hr.injective hs hs'

lemma sound_of_no_slots (store : Store) (created : Nat) : Sound ⟨∅, store, created⟩ :=
  ⟨by simp [lookup?], by simp [lookup?]⟩

/-- It does not matter what happens to the indexes as long as none is taken away. -/
lemma Sound.with_store {store : Store} (hr : r.Sound) (hle : r.store.size ≤ store.size) :
    Sound { r with store } :=
  ⟨fun hs => (hr.inStore hs).trans_le hle, hr.injective⟩

lemma Reachable.sound (hr : r.Reachable) : r.Sound := by
  induction hr with
  | empty => exact sound_of_no_slots .empty 0
  | create _ hc ih => exact ih.create hc
  | write h w _ ih => exact ih.with_store (by simp)
  | purge h _ ih => exact ih.with_store (by simp)

/-! ### Entries stay -/

/-- Every entry of `r` is an entry of `r'`. -/
def Extends (r' r : Registry) : Prop :=
  ∀ slot h, r.lookup? slot = some h → r'.lookup? slot = some h

lemma extends_create (hc : r.create factory slot p = (result, r')) : r'.Extends r := by
  intro s h hs
  cases Created.of_create hc with
  | found => exact hs
  | refused => exact hs
  | entered hnone hmade =>
    rw [lookup?_enter, if_neg]
    · exact hs
    · rintro rfl
      rw [hnone] at hs
      cases hs

lemma lookup?_create (hc : r.create factory slot p = (.ok h, r')) : r'.lookup? slot = some h := by
  cases Created.of_create hc with
  | found hfound => exact hfound
  | entered hnone hmade => rw [lookup?_enter, if_pos rfl]

/-! ### Calls of factories -/

/-- Every index that a factory made has an entry, and there is no other entry. -/
def Counted (r : Registry) : Prop := r.size = r.created

lemma counted_of_no_slots (store : Store) : Counted ⟨∅, store, 0⟩ := Std.HashMap.size_empty

lemma Counted.create (hr : r.Counted) (hc : r.create factory slot p = (result, r')) :
    r'.Counted := by
  cases Created.of_create hc with
  | found => exact hr
  | refused => exact hr
  | entered hnone hmade => rw [Counted, size_enter hnone, created_enter, hr]

/-! ### Many creations -/

lemma obtainAll_cons (factory : IndexFactory) (entry : Slot × Properties)
    (rest : List (Slot × Properties)) (r : Registry) :
    obtainAll factory (entry :: rest) r =
      match r.create factory entry.1 entry.2 with
      | (.error fault, r₁) => (.error fault, r₁)
      | (.ok h, r₁)        =>
        ((obtainAll factory rest r₁).1.map (h :: ·), (obtainAll factory rest r₁).2) := by
  rw [obtainAll, obtain_eq_create]
  rcases r.create factory entry.1 entry.2 with ⟨_ | h, r₁⟩
  · rfl
  · dsimp only
    rcases obtainAll factory rest r₁ with ⟨_ | hs, r₂⟩ <;> rfl

lemma obtainAll_cons_ok {entry : Slot × Properties} {rest : List (Slot × Properties)}
    (hok : obtainAll factory (entry :: rest) r = (.ok hs, r')) :
    ∃ h r₁ hs₁, r.create factory entry.1 entry.2 = (.ok h, r₁) ∧
      obtainAll factory rest r₁ = (.ok hs₁, r') ∧ hs = h :: hs₁ := by
  rw [obtainAll_cons] at hok
  rcases hcreate : r.create factory entry.1 entry.2 with ⟨_ | h, r₁⟩
  · simp [hcreate] at hok
  · rcases hrest : obtainAll factory rest r₁ with ⟨_ | hs₁, r₂⟩
    · simp [hcreate, hrest, Except.map] at hok
    · simp only [hcreate, hrest, Except.map, Prod.mk.injEq, Except.ok.injEq] at hok
      obtain ⟨rfl, rfl⟩ := hok
      exact ⟨h, r₁, hs₁, rfl, hrest, rfl⟩

/-- What every creation keeps, many creations keep, also when they end with a fault. -/
lemma obtainAll_induction {P : Registry → Prop} {outcome : Except Fault (List Handle)}
    (hcreate : ∀ {r r' slot p result}, r.create factory slot p = (result, r') → P r → P r')
    (hr : P r) (ho : obtainAll factory slots r = (outcome, r')) : P r' := by
  induction slots generalizing r outcome with
  | nil =>
    cases ho
    exact hr
  | cons entry rest ih =>
    rw [obtainAll_cons] at ho
    rcases hc : r.create factory entry.1 entry.2 with ⟨_ | h, r₁⟩
    · rw [hc] at ho
      cases ho
      exact hcreate hc hr
    · rw [hc] at ho
      cases ho
      exact ih (hcreate hc hr) rfl

lemma extends_obtainAll {outcome : Except Fault (List Handle)}
    (ho : obtainAll factory slots r = (outcome, r')) : r'.Extends r :=
  obtainAll_induction (P := fun r' => r'.Extends r)
    (fun hc hs slot h hl => extends_create hc slot h (hs slot h hl)) (fun _ _ hl => hl) ho

lemma Reachable.obtainAll {outcome : Except Fault (List Handle)} (hr : r.Reachable)
    (ho : Registry.obtainAll factory slots r = (outcome, r')) : r'.Reachable :=
  obtainAll_induction (fun hc hs => hs.create hc) hr ho

/-- Every slot that was asked for has its index in the end. -/
lemma lookup?_obtainAll (hok : obtainAll factory slots r = (.ok hs, r')) :
    List.Forall₂ (fun entry h => r'.lookup? entry.1 = some h) slots hs := by
  induction slots generalizing r hs with
  | nil =>
    cases hok
    exact .nil
  | cons entry rest ih =>
    obtain ⟨h, r₁, hs₁, hcreate, hrest, rfl⟩ := obtainAll_cons_ok hok
    exact .cons (extends_obtainAll hrest _ _ (lookup?_create hcreate)) (ih hrest)

end ShardedIndex.Registry
