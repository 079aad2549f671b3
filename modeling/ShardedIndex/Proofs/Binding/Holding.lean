import Mathlib
import ShardedIndex.Proofs.Binding.Bound
import ShardedIndex.Proofs.Index.Contents
import ShardedIndex.Proofs.Machine

/-!
# Documents over shards

The shards of a partitioned binding hold the documents of one map, each of them in the shard of its
hash and nowhere else. A work on the map is a work on one shard, and the counts of the shards add up
to the size of the map.
-/

namespace ShardedIndex.Binding

variable {b : Binding} {s s' : Store} {docs docs' : Documents} {w v : Work} {h : Handle}
  {result : Except Fault Nat}

/-! ### Homes -/

/-- The shard of a document. -/
def home (b : Binding) (id : DocumentId) : Nat :=
  Routing.ordinal (Text.decimal id.toNat) b.indexes.size

lemma Partitioned.home_lt (hp : b.Partitioned) (id : DocumentId) : b.home id < b.indexes.size :=
  Routing.ordinal_lt _ hp.pos

lemma Partitioned.getElem?_home (hp : b.Partitioned) (id : DocumentId) :
    ∃ h, b.indexes[b.home id]? = some h :=
  ⟨_, Array.getElem?_eq_getElem (hp.home_lt id)⟩

lemma Partitioned.route_eq (hp : b.Partitioned) (hv : b.intercept w = some v) :
    b.route w = [(b.home v.id, v)] := by
  simp [route, hv, hp.document, home, Work.key]

lemma LivesIn.lt_size (hl : b.LivesIn s) {shard : Nat} (hh : b.indexes[shard]? = some h) :
    h < s.size :=
  hl h (Array.mem_of_getElem? hh)

/-! ### One apply -/

lemma intercept_of_none (hi : b.interceptor = none) (w : Work) : b.intercept w = some w := by
  simp [intercept, hi]

/-- The works that the interceptor leaves, as it leaves them. -/
def intercepted (b : Binding) (ws : List Work) : List Work := ws.filterMap b.intercept

lemma intercepted_concat (b : Binding) (ws : List Work) (w : Work) :
    b.intercepted (ws ++ [w]) = b.intercepted ws ++ (b.intercept w).toList := by
  cases h : b.intercept w <;> simp [intercepted, h]

lemma intercepted_of_none (hi : b.interceptor = none) (ws : List Work) :
    b.intercepted ws = ws := by
  have hsome : b.intercept = some := funext (intercept_of_none hi)
  rw [intercepted, hsome, List.filterMap_some]

/-- All that applying a work to a partitioned binding can do. -/
inductive Applied (b : Binding) (w : Work) (s : Store) : Except Fault Nat → Store → Prop
  /-- The interceptor drops the work. -/
  | skipped (hnone : b.intercept w = none) : Applied b w s (.ok 0) s
  /-- The index of its document refuses the work. -/
  | refused {v : Work} {h : Handle} {fault : Fault} (hv : b.intercept w = some v)
      (hh : b.indexes[b.home v.id]? = some h) (hf : s.refusal? h v = some fault) :
      Applied b w s (.error fault) s
  /-- The index of its document applies the work. -/
  | written {v : Work} {h : Handle} (hv : b.intercept w = some v)
      (hh : b.indexes[b.home v.id]? = some h) (hf : s.refusal? h v = none) :
      Applied b w s (.ok 1) (s.write h v)

lemma Partitioned.applied (hp : b.Partitioned) (ha : b.apply w s = (result, s')) :
    b.Applied w s result s' := by
  cases hv : b.intercept w with
  | none =>
    have hroute : b.route w = [] := by simp [route, hv]
    simp only [apply, hroute, deliver, List.length_nil, Prod.mk.injEq] at ha
    obtain ⟨rfl, rfl⟩ := ha
    exact .skipped hv
  | some v =>
    obtain ⟨h, hh⟩ := hp.getElem?_home v.id
    cases hf : s.refusal? h v with
    | none =>
      simp only [apply, hp.route_eq hv, deliver, hh, hf, List.length_singleton,
        Prod.mk.injEq] at ha
      obtain ⟨rfl, rfl⟩ := ha
      exact .written hv hh hf
    | some fault =>
      simp only [apply, hp.route_eq hv, deliver, hh, hf, Prod.mk.injEq] at ha
      obtain ⟨rfl, rfl⟩ := ha
      exact .refused hv hh hf

lemma Partitioned.livesIn_apply (hp : b.Partitioned) (hl : b.LivesIn s) :
    b.LivesIn (b.apply w s).2 := by
  rcases ha : b.apply w s with ⟨result, s'⟩
  cases hp.applied ha with
  | skipped => exact hl
  | refused => exact hl
  | written => exact fun h hh => by simpa using hl h hh

lemma Partitioned.accepts_apply (hp : b.Partitioned) (ha : b.Accepts s) (w : Work) :
    b.Accepts (b.apply w s).2 := by
  rcases happly : b.apply w s with ⟨result, s'⟩
  cases hp.applied happly with
  | skipped => exact ha
  | refused => exact ha
  | written => exact fun h hh => by simpa using ha h hh

/-- Applying a work to indexes that refuse nothing succeeds, and they go on to refuse nothing. -/
lemma Accepts.apply_ok (ha : b.Accepts s) (hp : b.Partitioned) (w : Work) :
    ∃ n t, b.apply w s = (.ok n, t) ∧ b.Accepts t := by
  have haccepts := hp.accepts_apply ha w
  rcases happly : b.apply w s with ⟨result, t⟩
  rw [happly] at haccepts
  cases hp.applied happly with
  | skipped => exact ⟨_, _, rfl, haccepts⟩
  | @refused v h fault _ hh hf =>
    rw [ha.refusal?_eq_none (Array.mem_of_getElem? hh)] at hf
    cases hf
  | written => exact ⟨_, _, rfl, haccepts⟩

/-! ### Documents of the shards -/

/-- The documents of a shard; none when there is no such shard. -/
def documents (b : Binding) (s : Store) (shard : Nat) : Documents :=
  ((b.indexes[shard]?).map s.documents).getD ∅

lemma documents_eq {shard : Nat} (hh : b.indexes[shard]? = some h) :
    b.documents s shard = s.documents h := by
  simp [documents, hh]

lemma Partitioned.documents_write (hp : b.Partitioned) (hl : b.LivesIn s) {i : Nat}
    (hi : b.indexes[i]? = some h) (shard : Nat) :
    b.documents (s.write h w) shard =
      if i = shard then w.applyTo (b.documents s shard) else b.documents s shard := by
  cases hshard : b.indexes[shard]? with
  | none =>
    have hne : i ≠ shard := by
      rintro rfl
      rw [hi] at hshard
      cases hshard
    simp [documents, hshard, hne]
  | some h' =>
    -- The indexes are distinct, so an index is written to exactly when its shard is.
    have hiff : h = h' ↔ i = shard := by
      constructor
      · rintro rfl
        have hlt : i < b.indexes.toList.length := by
          simpa using (Array.getElem?_eq_some_iff.1 hi).1
        exact (List.getElem?_inj hlt hp.nodup).1 (by simpa using hi.trans hshard.symm)
      · rintro rfl
        exact Option.some_inj.1 (hi.symm.trans hshard)
    rw [documents_eq hshard, documents_eq hshard, Store.documents_write (hl.lt_size hi)]
    simp only [hiff]

/-! ### One map over the shards -/

/-- The shards hold the documents of a map, each one in its home. -/
def Holds (b : Binding) (s : Store) (docs : Documents) : Prop :=
  ∀ shard id, (b.documents s shard)[id]? = if b.home id = shard then docs[id]? else none

lemma Holds.documents_congr (hd : b.Holds s docs) (hd' : b.Holds s' docs) (shard : Nat) :
    b.documents s shard = b.documents s' shard := by
  apply Std.ExtTreeMap.ext_getElem?
  intro id
  rw [hd, hd']

lemma holds_empty (hempty : ∀ h ∈ b.indexes, s.documents h = ∅) : b.Holds s ∅ := by
  intro shard id
  have hdocs : b.documents s shard = ∅ := by
    cases hh : b.indexes[shard]? with
    | none => simp [documents, hh]
    | some h => rw [documents_eq hh, hempty h (Array.mem_of_getElem? hh)]
  simp [hdocs]

lemma Fresh.holds_empty (hb : b.Fresh s) : b.Holds s ∅ := Binding.holds_empty hb.documents_eq_empty

/-- Only the documents of the indexes matter, not what they refuse. -/
lemma Holds.admitting (hd : b.Holds s docs) : b.Holds s.admitting docs := by
  intro shard id
  simpa [documents] using hd shard id

/-- Writing a work at the home of its document is applying it to the map. -/
lemma Holds.write (hd : b.Holds s docs) (hp : b.Partitioned) (hl : b.LivesIn s)
    (hh : b.indexes[b.home w.id]? = some h) : b.Holds (s.write h w) (w.applyTo docs) := by
  intro shard id
  rw [hp.documents_write hl hh, Work.getElem?_applyTo]
  by_cases hid : w.id = id
  · subst hid
    rw [if_pos rfl]
    split_ifs with hw
    · rw [Work.getElem?_applyTo, if_pos rfl]
    · rw [hd, if_neg hw]
  · rw [if_neg hid, ← hd shard id]
    split_ifs
    · rw [Work.getElem?_applyTo, if_neg hid]
    · rfl

/-! ### Sequences of works -/

def applyAll (b : Binding) (s : Store) (ws : List Work) : Store :=
  ws.foldl (fun s w => (b.apply w s).2) s

lemma applyAll_concat (b : Binding) (s : Store) (ws : List Work) (w : Work) :
    b.applyAll s (ws ++ [w]) = (b.apply w (b.applyAll s ws)).2 := by
  simp [applyAll]

lemma Partitioned.livesIn_applyAll (hp : b.Partitioned) (hl : b.LivesIn s) (ws : List Work) :
    b.LivesIn (b.applyAll s ws) :=
  Machine.run_induction (P := b.LivesIn) (fun _ _ hl => hp.livesIn_apply hl) hl ws

lemma Partitioned.accepts_applyAll (hp : b.Partitioned) (ha : b.Accepts s) (ws : List Work) :
    b.Accepts (b.applyAll s ws) :=
  Machine.run_induction (P := b.Accepts) (fun _ w ha => hp.accepts_apply ha w) ha ws

/-- No work of a sequence is refused when they are applied one after the other. -/
def Admits (b : Binding) (s : Store) (ws : List Work) : Prop :=
  ∀ front w, front ++ [w] <+: ws → ∃ n, (b.apply w (b.applyAll s front)).1 = .ok n

lemma Accepts.admits (ha : b.Accepts s) (hp : b.Partitioned) (ws : List Work) :
    b.Admits s ws := by
  intro front w _
  obtain ⟨n, t, happly, -⟩ := (hp.accepts_applyAll ha front).apply_ok hp w
  exact ⟨n, congrArg Prod.fst happly⟩

/-- Empty indexes come to hold the contents of the works that they admit, if there is no
interceptor. -/
lemma Partitioned.holds_applyAll (hp : b.Partitioned) (hi : b.interceptor = none)
    (hl : b.LivesIn s) (hempty : b.Holds s ∅) {ws : List Work} (hadmits : b.Admits s ws) :
    b.Holds (b.applyAll s ws) (contents ws) := by
  induction ws using List.reverseRecOn with
  | nil => exact hempty
  | append_singleton ws w ih =>
    have hholds := ih fun front v hv => hadmits front v (hv.trans (List.prefix_append ws [w]))
    obtain ⟨n, hok⟩ := hadmits ws w (List.prefix_refl _)
    have hv := intercept_of_none hi w
    rw [applyAll_concat, contents_concat]
    rcases ha : b.apply w (b.applyAll s ws) with ⟨result, s'⟩
    rw [ha] at hok
    cases hp.applied ha with
    | skipped hnone => simp [hv] at hnone
    | refused => cases hok
    | written hv' hh hf =>
      obtain rfl := Option.some.inj (hv.symm.trans hv')
      exact hholds.write hp (hp.livesIn_applyAll hl ws) hh

/-- Shards that hold the contents of works hold what empty ones would after the same works one after
the other, if these admit them. -/
lemma Holds.documents_eq_applyAll {ws : List Work} (hd : b.Holds s' (contents ws))
    (hp : b.Partitioned) (hi : b.interceptor = none) (hl : b.LivesIn s) (hempty : b.Holds s ∅)
    (hadmits : b.Admits s ws) :
    ∀ h ∈ b.indexes, s'.documents h = (b.applyAll s ws).documents h := by
  intro h hh
  have hsequential := hp.holds_applyAll hi hl hempty hadmits
  obtain ⟨shard, hlt, rfl⟩ := Array.mem_iff_getElem.1 hh
  have hshard := Array.getElem?_eq_getElem hlt
  rw [← documents_eq hshard, ← documents_eq hshard]
  exact hd.documents_congr hsequential shard

/-! ### Purges -/

def purgeShard (b : Binding) (s : Store) (shard : Nat) : Store :=
  match b.indexes[shard]? with
  | some h => s.purge h
  | none   => s

lemma purge_eq (b : Binding) (s : Store) :
    b.purge s = (b.routing.choose .all).foldl b.purgeShard s := rfl

lemma documents_purgeShard (shard : Nat) :
    (b.purgeShard s shard).documents h =
      if b.indexes[shard]? = some h then ∅ else s.documents h := by
  cases hshard : b.indexes[shard]? with
  | none => simp [purgeShard, hshard]
  | some h' => simp [purgeShard, hshard, Store.documents_purge]

/-- A broadcast drops the documents of the indexes that it reaches, and no others. -/
lemma documents_purge :
    (b.purge s).documents h =
      if ∃ shard ∈ b.routing.choose .all, b.indexes[shard]? = some h then ∅
      else s.documents h := by
  rw [purge_eq]
  induction b.routing.choose .all generalizing s with
  | nil => simp
  | cons shard shards ih =>
    rw [List.foldl_cons, ih, documents_purgeShard]
    by_cases hshard : b.indexes[shard]? = some h
    · simp [hshard]
    · simp [hshard]

/-- What dropping the documents of one index keeps, a broadcast keeps. -/
lemma purge_induction {P : Store → Prop} (hpurge : ∀ s h, P s → P (s.purge h)) (hs : P s)
    (b : Binding) : P (b.purge s) := by
  rw [purge_eq]
  refine Machine.run_induction (fun s shard hs => ?_) hs _
  unfold purgeShard
  split
  · exact hpurge s _ hs
  · exact hs

@[simp] lemma size_purge : (b.purge s).size = s.size :=
  purge_induction (P := fun t => t.size = s.size) (fun _ _ ht => Store.size_purge.trans ht) rfl b

@[simp] lemma refusalOf_purge : (b.purge s).refusalOf h = s.refusalOf h :=
  purge_induction (P := fun t => t.refusalOf h = s.refusalOf h)
    (fun _ _ ht => Store.refusalOf_purge.trans ht) rfl b

/-- A broadcast over all shards leaves no document. -/
lemma Partitioned.holds_purge (hp : b.Partitioned) : b.Holds (b.purge s) ∅ := by
  refine holds_empty fun h hh => ?_
  obtain ⟨i, hi, rfl⟩ := Array.mem_iff_getElem.1 hh
  rw [documents_purge, if_pos]
  exact ⟨i, hp.all ▸ List.mem_range.2 hi, Array.getElem?_eq_getElem hi⟩

/-! ### Counts -/

lemma documentCount_eq (b : Binding) (s : Store) :
    b.documentCount s = ∑ shard ∈ Finset.range b.indexes.size, (b.documents s shard).size := by
  have hcounts : b.counts s =
      (List.range b.indexes.size).map fun shard => (b.documents s shard).size := by
    apply List.ext_getElem
    · simp [counts]
    · intro shard h₁ h₂
      have hlt : shard < b.indexes.size := by simpa using h₂
      simp [counts, Store.count, documents_eq (Array.getElem?_eq_getElem hlt)]
  rw [documentCount, ← List.sum_eq_foldl, hcounts]
  rfl

/-- The documents of a shard are those of the map whose home it is. -/
lemma Holds.idsOf_documents (hd : b.Holds s docs) (shard : Nat) :
    idsOf (b.documents s shard) = {id ∈ idsOf docs | b.home id = shard} := by
  ext id
  rw [Finset.mem_filter, mem_idsOf, mem_idsOf, hd]
  split_ifs with hid <;> simp [hid]

lemma Holds.documentCount (hd : b.Holds s docs) (hp : b.Partitioned) :
    b.documentCount s = docs.size := by
  calc b.documentCount s
      = ∑ shard ∈ Finset.range b.indexes.size, (idsOf (b.documents s shard)).card := by
        simp only [documentCount_eq, card_idsOf]
    _ = ∑ shard ∈ Finset.range b.indexes.size, {id ∈ idsOf docs | b.home id = shard}.card := by
        simp only [hd.idsOf_documents]
    _ = (idsOf docs).card :=
        (Finset.card_eq_sum_card_fiberwise fun id _ =>
          Finset.mem_coe.2 (Finset.mem_range.2 (hp.home_lt id))).symm
    _ = docs.size := card_idsOf docs

/-! ### Union -/

/-- The documents of all shards together. -/
def union (b : Binding) (s : Store) : Documents :=
  (List.range b.indexes.size).foldl (fun docs shard => docs ∪ b.documents s shard) ∅

/-- The union of the shards is the map that they hold. -/
lemma Holds.union_eq (hd : b.Holds s docs) (hp : b.Partitioned) : b.union s = docs := by
  apply Std.ExtTreeMap.ext_getElem?
  intro id
  -- Of the first `n` shards, only the home of a document can hold it.
  have hfirst : ∀ n, ((List.range n).foldl (fun docs shard => docs ∪ b.documents s shard) ∅ :
      Documents)[id]? = if b.home id < n then docs[id]? else none := by
    intro n
    induction n with
    | zero => simp
    | succ n ih =>
      rw [List.range_succ, List.foldl_append, List.foldl_cons, List.foldl_nil,
        Std.ExtTreeMap.getElem?_union, hd, ih]
      rcases Nat.lt_trichotomy (b.home id) n with hlt | heq | hgt
      · simp [hlt, hlt.ne, Nat.lt_succ_of_lt hlt]
      · simp [heq]
      · simp [hgt.ne', hgt.not_gt, Nat.not_lt_of_le (Nat.succ_le_of_lt hgt)]
  rw [union, hfirst, if_pos (hp.home_lt id)]

end ShardedIndex.Binding
