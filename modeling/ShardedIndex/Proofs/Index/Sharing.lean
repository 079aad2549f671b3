import Mathlib
import ShardedIndex.Index.Sharing
import ShardedIndex.Proofs.Index.Registry
import ShardedIndex.Proofs.Machine

/-!
# One index for every slot

However the calls on a shared registry are interleaved, a slot gets one index for ever: calls that
ask for the same slot are answered with the same index, also when several of them found nothing at
first, and calls that ask for different slots are answered with different indexes.
-/

namespace ShardedIndex.SharedRegistry

variable {s s' : SharedRegistry} {a : Action} {i j : Nat} {query : Query}
  {call call' : Call} {result : Except Fault Handle} {h : Handle}

/-! ### Moves -/

lemma getElem?_put (hi : s.calls[i]? = some call) :
    (s.put i call').calls[j]? = if i = j then some call' else s.calls[j]? :=
  Machine.getElem?_setIfInBounds hi

/-- All that a step can do. -/
inductive Move (s : SharedRegistry) : Action → SharedRegistry → Prop
  /-- The step is not possible. -/
  | idle {a : Action} : Move s a s
  | hit {i : Nat} {query : Query} {h : Handle} (hi : s.calls[i]? = some ⟨query, .asking⟩)
      (hfound : s.registry.lookup? query.slot = some h) :
      Move s (.look i) (s.put i ⟨query, .answered (.ok h)⟩)
  | miss {i : Nat} {query : Query} (hi : s.calls[i]? = some ⟨query, .asking⟩)
      (hnone : s.registry.lookup? query.slot = none) :
      Move s (.look i) (s.put i ⟨query, .missed⟩)
  | create {i : Nat} {query : Query} {result : Except Fault Handle} {r : Registry}
      (hi : s.calls[i]? = some ⟨query, .missed⟩)
      (hc : s.registry.create query.factory query.slot query.properties = (result, r)) :
      Move s (.create i) ({ s with registry := r }.put i ⟨query, .answered result⟩)
  | disturb {store : Store} (hle : s.registry.store.size ≤ store.size) :
      Move s (.disturb store) { s with registry := { s.registry with store } }

lemma move_step (s : SharedRegistry) (a : Action) : Move s a (s.step a) := by
  cases a with
  | look i =>
    simp only [step, look]
    split
    · next query hi =>
      cases hl : s.registry.lookup? query.slot with
      | some h => exact .hit hi hl
      | none => exact .miss hi hl
    · exact .idle
  | create i =>
    simp only [step, SharedRegistry.create]
    split
    · next query hi => exact .create hi rfl
    · exact .idle
  | disturb store =>
    simp only [step, SharedRegistry.disturb]
    split_ifs with hle
    · exact .disturb hle
    · exact .idle

/-- What every step keeps, a run keeps. -/
lemma run_induction {P : SharedRegistry → Prop}
    (hmove : ∀ {s a s'}, Move s a s' → P s → P s') (hs : P s) (schedule : List Action) :
    P (s.run schedule) :=
  Machine.run_induction (fun s a => hmove (move_step s a)) hs schedule

/-- A call that no other step comes between does the same as `Registry.obtain`. -/
lemma run_look_create (hi : s.calls[i]? = some ⟨query, .asking⟩) :
    s.run [.look i, .create i] =
      { s with registry := (s.registry.obtain query.factory query.slot query.properties).2 }.put i
        ⟨query, .answered (s.registry.obtain query.factory query.slot query.properties).1⟩ := by
  change (s.look i).create i = _
  cases hl : s.registry.lookup? query.slot with
  | some h =>
    have hlook : s.look i = s.put i ⟨query, .answered (.ok h)⟩ := by simp [look, hi, hl]
    have hput : (s.look i).calls[i]? = some ⟨query, .answered (.ok h)⟩ := by
      rw [hlook, getElem?_put hi, if_pos rfl]
    simp only [SharedRegistry.create, hput, Registry.obtain, hl]
    exact hlook
  | none =>
    have hlook : s.look i = s.put i ⟨query, .missed⟩ := by simp [look, hi, hl]
    have hput : (s.look i).calls[i]? = some ⟨query, .missed⟩ := by
      rw [hlook, getElem?_put hi, if_pos rfl]
    simp only [SharedRegistry.create, hput, Registry.obtain, hl]
    simp [hlook, put]

/-! ### What stays -/

/-- A call with this query was answered. -/
def Answered (s : SharedRegistry) (i : Nat) (query : Query) (result : Except Fault Handle) : Prop :=
  s.calls[i]? = some ⟨query, .answered result⟩

lemma Move.queries_eq (hm : Move s a s') : s'.calls.map Call.query = s.calls.map Call.query := by
  cases hm with
  | idle => rfl
  | hit hi => exact Machine.map_setIfInBounds hi rfl
  | miss hi => exact Machine.map_setIfInBounds hi rfl
  | create hi => exact Machine.map_setIfInBounds hi rfl
  | disturb => rfl

lemma Move.extends (hm : Move s a s') : s'.registry.Extends s.registry := by
  cases hm with
  | create hi hc => exact Registry.extends_create hc
  | _ => exact fun _ _ hs => hs

/-- A call that is answered takes no further step. -/
lemma Move.answered (hm : Move s a s') (hj : s.Answered j query result) :
    s'.Answered j query result := by
  have hput : ∀ {i : Nat} {q : Query} {p : Progress} {call : Call}, s.calls[i]? = some ⟨q, p⟩ →
      p ≠ .answered result → (s.put i call).Answered j query result := by
    intro i q p call hi hp
    rw [Answered, getElem?_put hi, if_neg]
    · exact hj
    · rintro rfl
      cases hi.symm.trans hj
      exact hp rfl
  cases hm with
  | idle => exact hj
  | hit hi => exact hput hi nofun
  | miss hi => exact hput hi nofun
  | create hi => exact hput hi nofun
  | disturb => exact hj

/-- A step that answers a call with a fault leaves the registry as it was. -/
lemma Move.registry_eq_of_fault {fault : Fault} (hm : Move s a s')
    (hbefore : ¬ s.Answered j query (.error fault)) (hafter : s'.Answered j query (.error fault)) :
    s'.registry = s.registry := by
  cases hm with
  | idle | hit | miss => rfl
  | disturb => exact absurd hafter hbefore
  | @create i q result r hi hc =>
    have hput : (s.put i ⟨q, .answered result⟩).calls[j]? = _ := hafter
    rw [getElem?_put hi] at hput
    split_ifs at hput with hij
    · cases hput
      cases Registry.Created.of_create hc
      rfl
    · exact absurd hput hbefore

/-! ### Answers -/

/-- The registry is sound, and whoever was answered with an index has the index of the slot. -/
structure Settled (s : SharedRegistry) : Prop where
  sound : s.registry.Sound
  answered : ∀ {i query h}, s.Answered i query (.ok h) → s.registry.lookup? query.slot = some h

lemma settled_start (store : Store) (queries : Array Query) : (start store queries).Settled := by
  refine ⟨Registry.sound_of_no_slots store 0, fun {i query h} hi => ?_⟩
  rw [Answered, start, Array.getElem?_map] at hi
  obtain ⟨_, -, heq⟩ := Option.map_eq_some_iff.1 hi
  cases heq

lemma Move.settled (hm : Move s a s') (hs : s.Settled) : s'.Settled := by
  refine ⟨?_, fun {j query h} hj => ?_⟩
  · cases hm with
    | create hi hc => exact hs.sound.create hc
    | disturb hle => exact hs.sound.with_store hle
    | _ => exact hs.sound
  · -- An older answer is an entry that stays; a new one is the entry that was found or made.
    by_cases hold : s.Answered j query (.ok h)
    · exact hm.extends _ _ (hs.answered hold)
    · cases hm with
      | idle | disturb => exact absurd hj hold
      | hit hi hfound =>
        rw [Answered, getElem?_put hi] at hj
        split_ifs at hj
        · cases hj
          exact hfound
        · exact absurd hj hold
      | miss hi =>
        rw [Answered, getElem?_put hi] at hj
        split_ifs at hj
        · cases hj
        · exact absurd hj hold
      | @create i q result r hi hc =>
        have hput : (s.put i ⟨q, .answered result⟩).calls[j]? = _ := hj
        rw [getElem?_put hi] at hput
        split_ifs at hput
        · cases hput
          exact Registry.lookup?_create hc
        · exact absurd hput hold

/-- Two answers are the same index exactly when they are for the same slot. -/
lemma Settled.answer_eq_iff {query' : Query} {h' : Handle} (hs : s.Settled)
    (hi : s.Answered i query (.ok h)) (hj : s.Answered j query' (.ok h')) :
    h = h' ↔ query.slot = query'.slot := by
  have hentry := hs.answered hi
  have hentry' := hs.answered hj
  constructor
  · rintro rfl
    exact hs.sound.injective hentry hentry'
  · intro hslot
    rw [hslot, hentry'] at hentry
    exact (Option.some.inj hentry).symm

/-! ### Creations -/

/-- The calls of factories and the entries keep in step. -/
lemma Move.counted (hm : Move s a s') (hs : s.registry.Counted) : s'.registry.Counted := by
  cases hm with
  | create hi hc => exact hs.create hc
  | _ => exact hs

/-- How many indexes a step of a call makes. -/
def gain (s : SharedRegistry) : Action → Nat
  | .disturb _ => 0
  | a          => (s.step a).registry.store.size - s.registry.store.size

/-- How many indexes the calls make along a schedule. -/
def made (s : SharedRegistry) : List Action → Nat
  | []        => 0
  | a :: rest => s.gain a + (s.step a).made rest

lemma size_step (s : SharedRegistry) (a : Action) :
    (s.step a).registry.size = s.registry.size + s.gain a := by
  cases a with
  | disturb store =>
    simp only [gain, step, SharedRegistry.disturb]
    split_ifs <;> rfl
  | look i =>
    have hm := move_step s (.look i)
    simp only [gain]
    generalize s.step (.look i) = s' at hm
    cases hm <;> simp [put]
  | create i =>
    have hm := move_step s (.create i)
    simp only [gain]
    generalize s.step (.create i) = s' at hm
    cases hm with
    | idle => simp
    | create hi hc =>
      cases Registry.Created.of_create hc with
      | found | refused => simp [put]
      | entered hnone hmade => simp [put, Registry.size_enter hnone]

/-- The registry grows by what the calls make. -/
lemma size_run (s : SharedRegistry) (schedule : List Action) :
    (s.run schedule).registry.size = s.registry.size + s.made schedule := by
  induction schedule generalizing s with
  | nil => rfl
  | cons a rest ih =>
    calc (s.run (a :: rest)).registry.size
        = (s.step a).registry.size + (s.step a).made rest := ih (s.step a)
      _ = s.registry.size + s.made (a :: rest) := by rw [size_step, made, Nat.add_assoc]

/-! ### Runs -/

/-- However the steps of any calls on a registry are interleaved, and whatever happens to the
indexes in between: a call that gets an index gets the one of its slot, two calls get the same index
exactly when they ask for the same slot, entries and answers stay for ever, a step that answers
with a fault changes nothing in the registry, and there are as many entries as there were successful
calls of a factory, each of which made an index of its own. -/
theorem one_index_per_slot (store : Store) (queries : Array Query)
    (schedule later : List Action) :
    let s := (start store queries).run schedule
    let t := s.run later
    t.calls.map Call.query = queries ∧
      (∀ i query h, t.Answered i query (.ok h) → t.registry.lookup? query.slot = some h) ∧
      (∀ i j query query' h h', t.Answered i query (.ok h) → t.Answered j query' (.ok h') →
        (h = h' ↔ query.slot = query'.slot)) ∧
      t.registry.Extends s.registry ∧
      (∀ i query result, s.Answered i query result → t.Answered i query result) ∧
      (∀ a i query fault, ¬ t.Answered i query (.error fault) →
        (t.step a).Answered i query (.error fault) → (t.step a).registry = t.registry) ∧
      t.registry.size = t.registry.created ∧
      t.registry.size = (start store queries).made (schedule ++ later) := by
  intro s t
  have ht : t = (start store queries).run (schedule ++ later) := (List.foldl_append ..).symm
  have hsettled : t.Settled :=
    ht ▸ run_induction (fun hm hs => hm.settled hs) (settled_start store queries) _
  refine ⟨?_, fun i query h hi => hsettled.answered hi,
    fun i j query query' h h' hi hj => hsettled.answer_eq_iff hi hj, ?_,
    fun i query result hi => ?_, fun a i query fault hbefore hafter => ?_, ?_, ?_⟩
  · rw [ht]
    refine run_induction (P := fun s => s.calls.map Call.query = queries)
      (fun hm hs => hm.queries_eq.trans hs) ?_ _
    simp [start, Function.comp_def]
  · exact run_induction (P := fun t => t.registry.Extends s.registry)
      (fun hm hs slot h hl => hm.extends slot h (hs slot h hl)) (fun _ _ hl => hl) later
  · exact run_induction (P := fun t => t.Answered i query result) (fun hm hs => hm.answered hs) hi
      later
  · exact (move_step t a).registry_eq_of_fault hbefore hafter
  · rw [ht]
    exact run_induction (P := fun s => s.registry.Counted) (fun hm hs => hm.counted hs)
      (Registry.counted_of_no_slots store) _
  · rw [ht, size_run]
    exact Nat.zero_add _

/-- Two calls for a shard, one for an entity type of the same name, and one that must fail. -/
def rivals : Array Query :=
  #[⟨⟨"Quote", some "0"⟩, .empty, .memory⟩, ⟨⟨"Quote", some "0"⟩, .empty, .memory⟩,
    ⟨⟨"Quote.0", none⟩, .empty, .memory⟩,
    ⟨⟨"Quote", some "1"⟩, .empty, fun _ _ => .error .noManager⟩]

theorem one_index_per_slot_rivals :
    let s := (start .empty rivals).run [.look 0, .look 1, .look 2, .create 1, .look 3, .create 3]
    let t := s.run [.create 0, .create 2]
    rivals[0].slot.indexName = rivals[2].slot.indexName ∧
      t.Answered 0 rivals[0] (.ok 0) ∧ t.Answered 1 rivals[1] (.ok 0) ∧
      t.Answered 2 rivals[2] (.ok 1) ∧ t.Answered 3 rivals[3] (.error .noManager) ∧
      t.registry.lookup? ⟨"Quote", some "0"⟩ = some 0 ∧
      t.registry.lookup? ⟨"Quote.0", none⟩ = some 1 ∧ t.registry.size = t.registry.created := by
  intro s t
  have hcalls : t.calls = #[⟨rivals[0], .answered (.ok 0)⟩, ⟨rivals[1], .answered (.ok 0)⟩,
      ⟨rivals[2], .answered (.ok 1)⟩, ⟨rivals[3], .answered (.error .noManager)⟩] := by
    simp [t, s, run, step, start, rivals, look, create, Registry.lookup?, put, Registry.create,
      Registry.make, Registry.insert, IndexFactory.memory, IndexFactory.refusing, Store.add,
      Store.empty]
  obtain ⟨-, hlookup, -, -, -, -, hcreated, -⟩ := one_index_per_slot .empty rivals
    [.look 0, .look 1, .look 2, .create 1, .look 3, .create 3] [.create 0, .create 2]
  have hshard : t.Answered 0 rivals[0] (.ok 0) := by simp [Answered, hcalls]
  have hentity : t.Answered 2 rivals[2] (.ok 1) := by simp [Answered, hcalls]
  exact ⟨by decide, hshard, by simp [Answered, hcalls], hentity, by simp [Answered, hcalls],
    hlookup 0 _ _ hshard, hlookup 2 _ _ hentity, hcreated⟩

end ShardedIndex.SharedRegistry
