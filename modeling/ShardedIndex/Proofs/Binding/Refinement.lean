import Mathlib
import ShardedIndex.Proofs.Binding.Holding

/-!
# Shards as a single map

A binding over any number of shards does what a single map does. Requests run on the shards and on
the map side by side; after any number of them the shards hold the documents of the map, and what
the next apply answers depends on the verdict of the interceptor alone.
-/

namespace ShardedIndex

/-! ### Requests -/

inductive Request
  | apply (w : Work)
  | purge
  deriving DecidableEq, Repr

/-- The verdict on a work. Without an interceptor every work stays as it is. -/
def Interceptor.verdict (interceptor : Option Interceptor) (w : Work) : Verdict :=
  match interceptor with
  | none             => .keep
  | some interceptor => interceptor w

/-- What a request makes of a single map of documents. -/
def Request.revise (interceptor : Option Interceptor) (docs : Documents) : Request → Documents
  | .apply w =>
    match Interceptor.verdict interceptor w, w.kind with
    | .skip, _                      => docs
    | .keep, .add | .keep, .update  => docs.insert w.id w.payload
    | .keep, .delete                => docs.erase w.id
    | .update, _                    => docs.insert w.payload.id w.payload
    | .remove, _                    => docs.erase w.payload.id
  | .purge => ∅

namespace Binding

variable {b : Binding} {s : Store} {docs : Documents}

def perform (b : Binding) (s : Store) : Request → Store
  | .apply w => (b.apply w s).2
  | .purge   => b.purge s

def performAll (b : Binding) (s : Store) (requests : List Request) : Store :=
  requests.foldl b.perform s

lemma intercept_eq_revise (b : Binding) (w : Work) :
    b.intercept w = (Interceptor.verdict b.interceptor w).revise w := by
  unfold intercept Interceptor.verdict
  cases b.interceptor <;> rfl

/-- The map after a work is the map after what the interceptor leaves of it. -/
lemma revise_apply (b : Binding) (docs : Documents) (w : Work) :
    Request.revise b.interceptor docs (.apply w) =
      match b.intercept w with
      | none   => docs
      | some v => v.applyTo docs := by
  rw [intercept_eq_revise, Request.revise]
  cases Interceptor.verdict b.interceptor w with
  | keep => cases hk : w.kind <;> simp [Verdict.revise, Work.applyTo, hk]
  | skip | update | remove => rfl

lemma intercept_eq_none_iff (b : Binding) (w : Work) :
    b.intercept w = none ↔ Interceptor.verdict b.interceptor w = .skip := by
  rw [intercept_eq_revise]
  cases Interceptor.verdict b.interceptor w <;> simp [Verdict.revise]

/-! ### Shards and map side by side -/

/-- What holds of shards that never refuse a work and of the map that they stand for. -/
structure Refines (b : Binding) (s : Store) (docs : Documents) : Prop where
  livesIn : b.LivesIn s
  accepts : b.Accepts s
  holds : b.Holds s docs

lemma Refines.perform (hr : b.Refines s docs) (hp : b.Partitioned) (request : Request) :
    b.Refines (b.perform s request) (request.revise b.interceptor docs) := by
  cases request with
  | purge =>
    exact ⟨fun h hh => by simpa [Binding.perform] using hr.livesIn h hh,
      fun h hh => by simpa [Binding.perform] using hr.accepts h hh, hp.holds_purge⟩
  | apply w =>
    refine ⟨hp.livesIn_apply hr.livesIn, hp.accepts_apply hr.accepts w, ?_⟩
    rw [revise_apply]
    simp only [Binding.perform]
    rcases ha : b.apply w s with ⟨result, s'⟩
    cases hp.applied ha with
    | skipped hnone =>
      rw [hnone]
      exact hr.holds
    | refused hv hh hf =>
      rw [hr.accepts.refusal?_eq_none (Array.mem_of_getElem? hh)] at hf
      cases hf
    | written hv hh hf =>
      rw [hv]
      exact hr.holds.write hp hr.livesIn hh

lemma Refines.performAll (hr : b.Refines s docs) (hp : b.Partitioned) (requests : List Request) :
    b.Refines (b.performAll s requests) (requests.foldl (Request.revise b.interceptor) docs) :=
  List.foldl_rel (r := b.Refines) hr fun request _ _ _ hr => hr.perform hp request

/-- The answer to an apply tells whether the work was dropped, and never is a fault. -/
lemma Refines.apply_fst (hr : b.Refines s docs) (hp : b.Partitioned) (w : Work) :
    (b.apply w s).1 = .ok (if Interceptor.verdict b.interceptor w = .skip then 0 else 1) := by
  rcases ha : b.apply w s with ⟨result, s'⟩
  cases hp.applied ha with
  | skipped hnone => rw [if_pos ((b.intercept_eq_none_iff w).1 hnone)]
  | refused hv hh hf =>
    rw [hr.accepts.refusal?_eq_none (Array.mem_of_getElem? hh)] at hf
    cases hf
  | written hv hh hf =>
    rw [if_neg]
    intro hskip
    rw [(b.intercept_eq_none_iff w).2 hskip] at hv
    cases hv

/-- A binding over indexes in memory refines a single map: after any requests the shards together
hold its documents, each one in the shard of its hash only, and count them; and the next apply
reaches one shard, or none exactly when the interceptor drops the work. -/
theorem shards_refine_map (hb : b.Fresh s) (ha : b.Accepts s) (requests : List Request) :
    let t := b.performAll s requests
    let docs := requests.foldl (Request.revise b.interceptor) ∅
    b.union t = docs ∧
      (∀ shard h (id : DocumentId), b.indexes[shard]? = some h → (t.documents h)[id]? =
        if Routing.ordinal (Text.decimal id.toNat) b.indexes.size = shard then docs[id]?
        else none) ∧
      b.documentCount t = docs.size ∧
      ∀ w, (b.apply w t).1 =
        .ok (if Interceptor.verdict b.interceptor w = .skip then 0 else 1) := by
  intro t docs
  have hp := hb.partitioned
  have hr : b.Refines t docs := Refines.performAll ⟨hb.livesIn, ha, hb.holds_empty⟩ hp requests
  refine ⟨hr.holds.union_eq hp, fun shard h id hh => ?_, hr.holds.documentCount hp,
    hr.apply_fst hp⟩
  rw [← documents_eq hh]
  exact hr.holds shard id

/-- Drop the deletes, and store what is for document seven under the id of its quote. -/
def rekeying : Interceptor := fun w =>
  if w.kind = .delete then .skip else if w.id = 7 then .update else .keep

theorem shards_refine_map_pair :
    let b := pair (some rekeying)
    let t := b.performAll .pair [.apply (.of .add ⟨3, "a"⟩), .purge, .apply ⟨.add, 7, ⟨1, "b"⟩⟩,
      .apply (.of .update ⟨2, "c"⟩), .apply (.of .delete ⟨2, "c"⟩)]
    b.Fresh .pair ∧ b.Accepts .pair ∧
      b.union t = (((∅ : Documents).insert 1 ⟨1, "b"⟩).insert 2 ⟨2, "c"⟩) ∧
      b.documentCount t = 2 ∧ (b.apply (.of .delete ⟨1, "b"⟩) t).1 = .ok 0 := by
  intro b t
  obtain ⟨hunion, -, hcount, hanswer⟩ := shards_refine_map (fresh_pair (some rekeying))
    (accepts_pair (some rekeying)) [.apply (.of .add ⟨3, "a"⟩), .purge,
      .apply ⟨.add, 7, ⟨1, "b"⟩⟩, .apply (.of .update ⟨2, "c"⟩), .apply (.of .delete ⟨2, "c"⟩)]
  refine ⟨fresh_pair _, accepts_pair _, hunion, hcount.trans ?_, hanswer _⟩
  rfl

end Binding

end ShardedIndex
