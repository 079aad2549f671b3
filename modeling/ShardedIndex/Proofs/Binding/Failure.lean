import Mathlib
import ShardedIndex.Proofs.Binding.Bound
import ShardedIndex.Proofs.Index.Contents
import ShardedIndex.Routing.Strategy

/-!
# Failed applies

A routing may list any shards for a work, also some that do not exist, and one of them several
times. The work goes to the places of the list one after the other, and nothing is taken back when
one of them fails: the indexes of the shards at the places in front of it keep the work.
-/

namespace ShardedIndex.Binding

variable {b : Binding} {s s' : Store} {w v : Work} {fault : Fault} {h : Handle}
  {shard : Nat} {shards : List Nat}

/-! ### One shard -/

/-- Why a work cannot go to a shard, if it cannot. -/
def obstacle? (b : Binding) (s : Store) (v : Work) (shard : Nat) : Option Fault :=
  match b.indexes[shard]? with
  | none   => some (.shardOutOfRange b.strategy shard b.indexes.size)
  | some h => s.refusal? h v

/-- Write a work to the index of a shard, if there is such a shard. -/
def writeShard (b : Binding) (v : Work) (s : Store) (shard : Nat) : Store :=
  match b.indexes[shard]? with
  | none   => s
  | some h => s.write h v

lemma deliver_cons (b : Binding) (s : Store) (v : Work) (shard : Nat) (rest : List (Nat × Work)) :
    b.deliver ((shard, v) :: rest) s =
      match b.obstacle? s v shard with
      | some fault => (.error fault, s)
      | none       => b.deliver rest (b.writeShard v s shard) := by
  cases hshard : b.indexes[shard]? with
  | none => simp [deliver, obstacle?, hshard]
  | some h => cases hf : s.refusal? h v <;> simp [deliver, obstacle?, writeShard, hshard, hf]

@[simp] lemma size_writeShard : (b.writeShard v s shard).size = s.size := by
  cases hshard : b.indexes[shard]? <;> simp [writeShard, hshard]

lemma LivesIn.writeShard (hl : b.LivesIn s) : b.LivesIn (b.writeShard v s shard) :=
  fun h hh => by simpa using hl h hh

lemma LivesIn.documents_writeShard (hl : b.LivesIn s) :
    (b.writeShard v s shard).documents h =
      if b.indexes[shard]? = some h then v.applyTo (s.documents h) else s.documents h := by
  cases hshard : b.indexes[shard]? with
  | none => simp [Binding.writeShard, hshard]
  | some h' =>
    have hlt : h' < s.size := hl h' (Array.mem_of_getElem? hshard)
    simp [Binding.writeShard, hshard, Store.documents_write hlt]

/-! ### Many shards -/

/-- Write a work to the indexes of shards, one after the other. -/
def writeShards (b : Binding) (v : Work) (s : Store) (shards : List Nat) : Store :=
  shards.foldl (b.writeShard v) s

/-- Writing to shards applies the work to each of their indexes. A shard that is listed more than
once does not matter. -/
lemma LivesIn.documents_writeShards (hl : b.LivesIn s) (shards : List Nat) :
    (b.writeShards v s shards).documents h =
      if ∃ shard ∈ shards, b.indexes[shard]? = some h then v.applyTo (s.documents h)
      else s.documents h := by
  induction shards generalizing s with
  | nil => simp [writeShards]
  | cons shard shards ih =>
    rw [writeShards, List.foldl_cons, ← writeShards, ih hl.writeShard, hl.documents_writeShard]
    by_cases hshard : b.indexes[shard]? = some h
    · simp [hshard, Work.applyTo_applyTo]
    · simp [hshard]

/-- A delivery that fails has written to the shards at the places in front of the one that failed,
where each of them took the work. -/
lemma deliver_error (hd : b.deliver (shards.map (·, v)) s = (.error fault, s')) :
    ∃ before shard after, shards = before ++ shard :: after ∧
      (∀ done i rest, before = done ++ i :: rest →
        b.obstacle? (b.writeShards v s done) v i = none) ∧
      b.obstacle? (b.writeShards v s before) v shard = some fault ∧
      s' = b.writeShards v s before := by
  induction shards generalizing s with
  | nil => simp [deliver] at hd
  | cons shard shards ih =>
    rw [List.map_cons, deliver_cons] at hd
    cases hobstacle : b.obstacle? s v shard with
    | some fault' =>
      simp only [hobstacle, Prod.mk.injEq, Except.error.injEq] at hd
      obtain ⟨rfl, rfl⟩ := hd
      exact ⟨[], shard, shards, rfl, by simp, hobstacle, rfl⟩
    | none =>
      rw [hobstacle] at hd
      obtain ⟨before, i, after, rfl, hbefore, hi, rfl⟩ := ih hd
      refine ⟨shard :: before, i, after, rfl, ?_, hi, rfl⟩
      intro done j rest hplace
      cases done with
      | nil =>
        obtain rfl := (List.cons.inj hplace).1
        exact hobstacle
      | cons first done =>
        obtain ⟨rfl, hdone⟩ := List.cons.inj hplace
        exact hbefore done j rest hdone

/-- An apply fails at the first place in the list of the routing whose shard does not exist or
refuses the work, each place being asked after the places in front of it have got the work: a shard
that is listed twice may take the work at its first place and refuse it at its second. The indexes
of the shards at the places in front have applied the work and nothing else has happened, so the
documents are untouched exactly when the work changes none of those indexes. -/
theorem documents_of_apply_error (hb : b.Bound s) (ha : b.apply w s = (.error fault, s')) :
    ∃ v before shard after, b.intercept w = some v ∧
      b.routing.choose (.document v.key) = before ++ shard :: after ∧
      (∀ done i rest, before = done ++ i :: rest →
        b.obstacle? (b.writeShards v s done) v i = none) ∧
      b.obstacle? (b.writeShards v s before) v shard = some fault ∧
      (∀ h, s'.documents h =
        if ∃ i ∈ before, b.indexes[i]? = some h then v.applyTo (s.documents h)
        else s.documents h) ∧
      ((∀ h ∈ b.indexes, s'.documents h = s.documents h) ↔
        ∀ i ∈ before, ∀ h, b.indexes[i]? = some h → v.applyTo (s.documents h) = s.documents h) := by
  have hl := hb.livesIn
  cases hv : b.intercept w with
  | none => simp [apply, route, hv, deliver] at ha
  | some v =>
    have hd : b.deliver ((b.routing.choose (.document v.key)).map (·, v)) s =
        (.error fault, s') := by
      simp only [apply, route, hv] at ha
      split at ha
      · next hd =>
        cases ha
        exact hd
      · cases ha
    obtain ⟨before, shard, after, hshards, hbefore, hshard, rfl⟩ := deliver_error hd
    refine ⟨v, before, shard, after, rfl, hshards, hbefore, hshard,
      fun h => hl.documents_writeShards before, ?_, ?_⟩
    · intro huntouched i hi h hh
      rw [← huntouched h (Array.mem_of_getElem? hh), hl.documents_writeShards,
        if_pos ⟨i, hi, hh⟩, Work.applyTo_applyTo]
    · intro hunchanged h hh
      rw [hl.documents_writeShards]
      split_ifs with hwritten
      · obtain ⟨i, hi, hh⟩ := hwritten
        exact hunchanged i hi h hh
      · rfl

/-- A shard for one document that is listed twice takes the work and then refuses it. -/
example :
    let s := (Store.empty.add (.create "Quote" .empty fun docs _ =>
      if docs.isEmpty then none else some .noManager)).2
    let w := Work.of .add ⟨1, "a"⟩
    (⟨"Quote", "twice", ⟨1, fun _ => [0, 0]⟩, #[0], none⟩ : Binding).apply w s =
      (.error .noManager, s.write 0 w) := rfl

/-! ### Halfway -/

/-- Two shards, and a work that goes to the first one and then to a third. -/
def halfway : Binding :=
  ⟨"Quote", "split", ⟨2, fun
    | .document _ => [0, 2]
    | .all        => List.range 3⟩, #[0, 1], none⟩

lemma bound_halfway : halfway.Bound .pair := by
  have hs : (Catalog.standard.register "split" .halfway).resolve "split" =
      .ok .halfway := by
    simp [Catalog.resolve, Catalog.register]
  exact .bind .empty (Layout.bind_two none hs rfl Registry.obtainAll_pair) (le_refl _)

lemma apply_halfway : halfway.apply (.of .add ⟨1, "a"⟩) .pair =
    (.error (.shardOutOfRange "split" 2 2), Store.pair.write 0 (.of .add ⟨1, "a"⟩)) := rfl

theorem documents_of_apply_error_halfway :
    halfway.Bound .pair ∧ ∃ s', halfway.apply (.of .add ⟨1, "a"⟩) .pair =
        (.error (.shardOutOfRange "split" 2 2), s') ∧
      s'.documents 0 = (∅ : Documents).insert 1 ⟨1, "a"⟩ ∧ s'.documents 1 = ∅ := by
  refine ⟨bound_halfway, _, apply_halfway, ?_⟩
  obtain ⟨v, before, shard, after, hv, hshards, -, hshard, hdocuments, -⟩ :=
    documents_of_apply_error bound_halfway apply_halfway
  obtain rfl : Work.of .add ⟨1, "a"⟩ = v := Option.some.inj hv
  have hlisted : [0, 2] = before ++ shard :: after := hshards
  have hbefore : before = [0] := by
    match before with
    | []          =>
      obtain rfl : 0 = shard := (List.cons.inj hlisted).1
      cases hshard
    | [i]         => rw [(List.cons.inj hlisted).1]
    | _ :: _ :: _ => simp at hlisted
  rw [hdocuments, hdocuments, hbefore]
  exact ⟨rfl, rfl⟩

/-- An apply may fail and still leave a document behind. -/
theorem not_untouched_of_apply_error :
    ¬ ∀ (b : Binding) (s s' : Store) (w : Work) (fault : Fault), b.Bound s →
      b.apply w s = (.error fault, s') → ∀ h ∈ b.indexes, s'.documents h = s.documents h := by
  intro huntouched
  have hsame : (Store.pair.write 0 (.of .add ⟨1, "a"⟩)).documents 0 = Store.pair.documents 0 :=
    huntouched halfway .pair _ _ _ bound_halfway apply_halfway 0 (by simp [halfway])
  have hsize := congrArg Std.ExtTreeMap.size hsame
  revert hsize
  decide

end ShardedIndex.Binding
