import Mathlib
import ShardedIndex.Proofs.Index.Registry

/-!
# What obtaining many slots leaves behind

Slots are obtained one after the other up to the first that has no index and for which the factory
fails. The slots in front of it keep the indexes they got, so what a failure leaves behind depends
on where it happens and on nothing else.
-/

namespace ShardedIndex

/-! ### Results -/

section

variable {α β : Type} {result : Except Fault α}

@[simp] lemma isOk_ok (a : α) : (.ok a : Except Fault α).isOk = true := rfl

@[simp] lemma isOk_error (fault : Fault) : (.error fault : Except Fault α).isOk = false := rfl

@[simp] lemma isOk_map (f : α → β) : (result.map f).isOk = result.isOk := by cases result <;> rfl

lemma isOk_iff : result.isOk = true ↔ ∃ a, result = .ok a := by cases result <;> simp

end

namespace Registry

variable {r r' : Registry} {factory : IndexFactory} {slot : Slot} {x : Index} {h : Handle}
  {entry : Slot × Properties} {slots rest new : List (Slot × Properties)}

/-! ### New entries -/

/-- A registry has got indexes for new slots and is as it was apart from that. -/
structure Filled (r r' : Registry) (new : List (Slot × Properties)) : Prop where
  isSome_lookup? : ∀ slot, (r'.lookup? slot).isSome ↔
    (r.lookup? slot).isSome ∨ slot ∈ new.map Prod.fst
  size_eq : r'.size = r.size + new.length
  created_eq : r'.created = r.created + new.length
  size_store : r'.store.size = r.store.size + new.length

lemma filled_nil (r : Registry) : r.Filled r [] := ⟨by simp, rfl, rfl, rfl⟩

lemma Filled.cons (hnone : r.lookup? entry.1 = none) (hf : (r.enter entry.1 x).Filled r' new) :
    r.Filled r' (entry :: new) := by
  refine ⟨fun slot => ?_, ?_, ?_, ?_⟩
  · rw [hf.isSome_lookup?, lookup?_enter, List.map_cons, List.mem_cons]
    by_cases heq : entry.1 = slot
    · simp [heq]
    · simp [heq, Ne.symm heq]
  · rw [hf.size_eq, size_enter hnone, List.length_cons]
    omega
  · rw [hf.created_eq, created_enter, List.length_cons]
    omega
  · rw [hf.size_store, size_store_enter, List.length_cons]
    omega

/-! ### Slots that can be had -/

/-- Whether a slot has an index or the factory makes one for it. -/
def obtains (r : Registry) (factory : IndexFactory) (entry : Slot × Properties) : Bool :=
  (r.lookup? entry.1).isSome || (factory entry.1.indexName entry.2).isOk

/-- The slots that get a new index: those without one in front of the first that cannot get one. -/
def due (r : Registry) (factory : IndexFactory) (slots : List (Slot × Properties)) :
    List (Slot × Properties) :=
  (slots.takeWhile (r.obtains factory)).filter fun entry => (r.lookup? entry.1).isNone

@[simp] lemma due_nil : r.due factory [] = [] := rfl

lemma due_cons (r : Registry) (factory : IndexFactory) (entry : Slot × Properties)
    (rest : List (Slot × Properties)) :
    r.due factory (entry :: rest) =
      if r.obtains factory entry then
        if (r.lookup? entry.1).isNone then entry :: r.due factory rest else r.due factory rest
      else [] := by
  rw [due, List.takeWhile_cons]
  split_ifs with hobtains hnone <;> simp [due, *]

/-- A slot is due when it has no index and no slot up to it stands in the way. -/
lemma mem_due_iff : entry ∈ r.due factory slots ↔ r.lookup? entry.1 = none ∧
    ∃ i : Nat, slots[i]? = some entry ∧
      ∀ j ≤ i, ∀ other, slots[j]? = some other → r.obtains factory other = true := by
  rw [due, List.mem_filter, List.takeWhile_eq_take_findIdx_not, List.mem_take_iff_getElem,
    Option.isNone_iff_eq_none, and_comm]
  refine and_congr_right fun _ => ⟨?_, ?_⟩
  · rintro ⟨i, hi, rfl⟩
    obtain ⟨hfront, hlt⟩ := lt_min_iff.1 hi
    refine ⟨i, List.getElem?_eq_getElem hlt, fun j hj other hother => ?_⟩
    obtain ⟨_, rfl⟩ := List.getElem?_eq_some_iff.1 hother
    simpa using List.not_of_lt_findIdx (hj.trans_lt hfront)
  · rintro ⟨i, hi, hobtains⟩
    obtain ⟨hlt, rfl⟩ := List.getElem?_eq_some_iff.1 hi
    refine ⟨i, lt_min_iff.2 ⟨List.lt_findIdx_of_not hlt fun j hj => ?_, hlt⟩, rfl⟩
    simp [hobtains j hj _ (List.getElem?_eq_getElem (hj.trans_lt hlt))]

/-- Only the slots in question matter. -/
lemma obtains_congr (hsame : r'.lookup? entry.1 = r.lookup? entry.1) :
    r'.obtains factory entry = r.obtains factory entry := by
  rw [obtains, hsame, obtains]

lemma due_congr (hsame : ∀ entry ∈ slots, r'.lookup? entry.1 = r.lookup? entry.1) :
    r'.due factory slots = r.due factory slots := by
  induction slots with
  | nil => rfl
  | cons entry rest ih =>
    have hentry := hsame entry List.mem_cons_self
    rw [due_cons, due_cons, obtains_congr hentry, hentry,
      ih fun other hother => hsame other (List.mem_cons_of_mem _ hother)]

/-- An index for one slot is none for another slot. -/
lemma lookup?_enter_of_nodup (hnodup : ((entry :: rest).map Prod.fst).Nodup) :
    ∀ other ∈ rest, (r.enter entry.1 x).lookup? other.1 = r.lookup? other.1 := by
  intro other hother
  rw [lookup?_enter, if_neg]
  intro heq
  exact (List.nodup_cons.1 hnodup).1 (heq ▸ List.mem_map_of_mem hother)

/-! ### Many slots -/

/-- All slots get their indexes exactly when each of them can be had. -/
lemma isOk_obtainAll (hnodup : (slots.map Prod.fst).Nodup) :
    (obtainAll factory slots r).1.isOk = slots.all (r.obtains factory) := by
  induction slots generalizing r with
  | nil => rfl
  | cons entry rest ih =>
    have hrest := (List.nodup_cons.1 hnodup).2
    rw [obtainAll_cons, List.all_cons]
    rcases hc : r.create factory entry.1 entry.2 with ⟨result, r₁⟩
    cases Created.of_create hc with
    | found hfound => simp [obtains, hfound, ih hrest]
    | refused hnone hfault => simp [obtains, hnone, hfault]
    | @entered x hnone hmade =>
      have hall : rest.all ((r.enter entry.1 x).obtains factory) =
          rest.all (r.obtains factory) := by
        rw [Bool.eq_iff_iff, List.all_eq_true, List.all_eq_true]
        exact forall₂_congr fun other hother =>
          by rw [obtains_congr (lookup?_enter_of_nodup hnodup other hother)]
      simp only [isOk_map, ih hrest, hall]
      simp [obtains, hnone, hmade]

/-- The slots that are due get an index, whether all slots can be had or not. -/
lemma filled_obtainAll (hnodup : (slots.map Prod.fst).Nodup) :
    r.Filled (obtainAll factory slots r).2 (r.due factory slots) := by
  induction slots generalizing r with
  | nil => exact filled_nil r
  | cons entry rest ih =>
    have hrest := (List.nodup_cons.1 hnodup).2
    rw [obtainAll_cons, due_cons]
    rcases hc : r.create factory entry.1 entry.2 with ⟨result, r₁⟩
    cases Created.of_create hc with
    | found hfound => simpa [obtains, hfound] using ih hrest
    | refused hnone hfault =>
      simpa [obtains, hnone, hfault] using filled_nil r
    | @entered x hnone hmade =>
      have hf : (r.enter entry.1 x).Filled _ _ := ih hrest
      rw [due_congr (lookup?_enter_of_nodup hnodup)] at hf
      simpa [obtains, hnone, hmade] using hf.cons hnone

end Registry

end ShardedIndex
