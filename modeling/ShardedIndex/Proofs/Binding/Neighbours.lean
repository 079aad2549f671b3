import Mathlib
import ShardedIndex.Proofs.Binding.Outcome
import ShardedIndex.Proofs.Binding.Refinement
import ShardedIndex.Proofs.Machine

/-!
# Neighbours in one registry

Many entity types may be bound through one registry, some of them more than once, and the bindings
used in any order. Bindings of different entity types never meet in an index, also when the names of
their indexes are equal texts. Bindings of one entity type with equally many shards are over the
same indexes in the same order.
-/

namespace ShardedIndex

/-! ### Sessions -/

/-- A registry and the bindings that were made through it, in order. -/
structure Session where
  registry : Registry
  bindings : Array Binding

namespace Session

inductive Event
  /-- An entity type is bound to a layout by a built-in strategy, which may fail. -/
  | bind (l : Layout) (entity : String) (interceptor : Option Interceptor) (factory : IndexFactory)
  /-- A request on one of the bindings. -/
  | request (binding : Nat) (request : Request)

def start (r : Registry) : Session := ⟨r, #[]⟩

def step (x : Session) : Event → Session
  | .bind l entity interceptor factory =>
    match l.bind entity interceptor ⟨factory, .standard⟩ x.registry with
    | (.ok b, registry)    => ⟨registry, x.bindings.push b⟩
    | (.error _, registry) => { x with registry }
  | .request i request                 =>
    match x.bindings[i]? with
    | some b =>
      { x with registry := { x.registry with store := b.perform x.registry.store request } }
    | none   => x

def run (x : Session) (events : List Event) : Session := events.foldl step x

end Session

/-! ### One request -/

namespace Binding

variable {b c : Binding} {s t : Store} {h : Handle}

/-- A request does nothing to the indexes of others. -/
lemma Partitioned.documents_perform (hp : b.Partitioned) (hl : b.LivesIn s) (hh : h ∉ b.indexes)
    (request : Request) : (b.perform s request).documents h = s.documents h := by
  cases request with
  | apply w =>
    rw [perform]
    rcases ha : b.apply w s with ⟨result, s'⟩
    cases hp.applied ha with
    | skipped => rfl
    | refused => rfl
    | written hv hhome =>
      rw [Store.documents_write (hl.lt_size hhome), if_neg]
      rintro rfl
      exact hh (Array.mem_of_getElem? hhome)
  | purge =>
    rw [perform, documents_purge, if_neg]
    rintro ⟨shard, -, hshard⟩
    exact hh (Array.mem_of_getElem? hshard)

lemma documents_congr (hsame : ∀ h ∈ c.indexes, t.documents h = s.documents h) (shard : Nat) :
    c.documents t shard = c.documents s shard := by
  cases hshard : c.indexes[shard]? with
  | none => simp [documents, hshard]
  | some h => rw [documents_eq hshard, documents_eq hshard, hsame h (Array.mem_of_getElem? hshard)]

lemma documentCount_congr (hsame : ∀ shard, c.documents t shard = c.documents s shard) :
    c.documentCount t = c.documentCount s := by
  simp only [documentCount_eq, hsame]

/-- A work that is applied and not dropped is applied in the home of its document. -/
lemma Partitioned.documents_apply {w v : Work} {n : Nat} (hp : b.Partitioned) (hl : b.LivesIn s)
    (hv : b.intercept w = some v) (hok : (b.apply w s).1 = .ok n) (shard : Nat) :
    b.documents (b.apply w s).2 shard =
      if b.home v.id = shard then v.applyTo (b.documents s shard) else b.documents s shard := by
  rcases ha : b.apply w s with ⟨result, s'⟩
  rw [ha] at hok
  cases hp.applied ha with
  | skipped hnone =>
    rw [hv] at hnone
    cases hnone
  | refused => cases hok
  | written hv' hhome =>
    cases hv.symm.trans hv'
    exact hp.documents_write hl hhome shard

lemma Partitioned.documents_purge_eq_empty (hp : b.Partitioned) (s : Store) (shard : Nat) :
    b.documents (b.purge s) shard = ∅ := by
  apply Std.ExtTreeMap.ext_getElem?
  intro id
  rw [hp.holds_purge]
  simp

end Binding

/-- Requests on bindings are works and purges on indexes. -/
lemma Registry.Reachable.perform {r : Registry} {b : Binding} (hr : r.Reachable)
    (hp : b.Partitioned) (request : Request) :
    Registry.Reachable { r with store := b.perform r.store request } := by
  cases request with
  | apply w =>
    rw [Binding.perform]
    rcases ha : b.apply w r.store with ⟨result, s'⟩
    cases hp.applied ha with
    | skipped => exact hr
    | refused => exact hr
    | written => exact hr.write _ _
  | purge =>
    exact Binding.purge_induction (P := fun store => Registry.Reachable { r with store })
      (fun _ h hr => hr.purge h) hr b

/-! ### Registered bindings -/

namespace Binding

variable {b c : Binding} {r r' : Registry}

/-- The indexes of a binding are those that the registry has for its shards. -/
structure Registered (b : Binding) (r : Registry) : Prop where
  partitioned : b.Partitioned
  lookup? : ∀ {i h}, b.indexes[i]? = some h →
    r.lookup? (Slot.ofShard b.entity b.indexes.size i) = some h

lemma Registered.of_extends (hb : b.Registered r) (hr : r'.Extends r) : b.Registered r' :=
  ⟨hb.partitioned, fun hi => hr _ _ (hb.lookup? hi)⟩

lemma Registered.livesIn (hb : b.Registered r) (hr : r.Sound) : b.LivesIn r.store := by
  intro h hh
  obtain ⟨i, hi⟩ := Array.getElem?_of_mem hh
  exact hr.inStore (hb.lookup? hi)

/-- Entity types share no index, since a slot has one entity type. -/
lemma Registered.not_mem (hb : b.Registered r) (hc : c.Registered r) (hr : r.Sound)
    (hne : b.entity ≠ c.entity) : ∀ h ∈ c.indexes, h ∉ b.indexes := by
  intro h hhc hhb
  obtain ⟨i, hi⟩ := Array.getElem?_of_mem hhb
  obtain ⟨j, hj⟩ := Array.getElem?_of_mem hhc
  have hslot := hr.injective (hb.lookup? hi) (hc.lookup? hj)
  exact hne (congrArg Slot.entity hslot)

/-- Equally many shards of one entity type have the same slots. -/
lemma Registered.indexes_eq (hb : b.Registered r) (hc : c.Registered r)
    (hentity : b.entity = c.entity) (hsize : b.indexes.size = c.indexes.size) :
    c.indexes = b.indexes := by
  refine Array.ext hsize.symm fun i hic hib => Option.some_inj.1 ?_
  have hentry := hb.lookup? (Array.getElem?_eq_getElem hib)
  rw [hentity, hsize] at hentry
  exact (hc.lookup? (Array.getElem?_eq_getElem hic)).symm.trans hentry

end Binding

lemma Layout.registered_of_bind {l : Layout} {entity : String} {interceptor : Option Interceptor}
    {factory : IndexFactory} {r r' : Registry} {b : Binding} (hr : r.Reachable)
    (hok : l.bind entity interceptor ⟨factory, .standard⟩ r = (.ok b, r')) : b.Registered r' := by
  obtain ⟨strategy, -, hs, -, -, -, -, hentity⟩ := Layout.bind_ok hok
  obtain ⟨hsize, -, -, hindexes⟩ := Layout.indexes_of_bind hr hok
  refine ⟨Layout.partitioned_of_bind hr hs (Layout.builtIn_of_resolve hs) hok, fun {i h} hi => ?_⟩
  have hlt : i < l.shardCount := hsize ▸ (Array.getElem?_eq_some_iff.1 hi).1
  obtain ⟨h', hi', hentry⟩ := hindexes i hlt
  cases hi.symm.trans hi'
  rw [hentity, hsize]
  exact hentry

/-! ### Runs -/

namespace Session

variable {x : Session} {r : Registry} {events : List Event} {b c : Binding}

/-- Every binding is over the indexes of its shards. -/
structure Settled (x : Session) : Prop where
  reachable : x.registry.Reachable
  registered : ∀ b ∈ x.bindings, b.Registered x.registry

lemma settled_start (hr : r.Reachable) : (start r).Settled := ⟨hr, by simp [start]⟩

lemma Settled.step (hx : x.Settled) (e : Event) : (x.step e).Settled := by
  cases e with
  | bind l entity interceptor factory =>
    rcases hbind : l.bind entity interceptor ⟨factory, .standard⟩ x.registry with ⟨_ | b, r'⟩
    · have hstep : x.step (.bind l entity interceptor factory) = { x with registry := r' } := by
        simp [Session.step, hbind]
      rw [hstep]
      exact ⟨hx.reachable.bind hbind,
        fun b hb => (hx.registered b hb).of_extends (Layout.extends_bind hbind)⟩
    · have hstep : x.step (.bind l entity interceptor factory) = ⟨r', x.bindings.push b⟩ := by
        simp [Session.step, hbind]
      rw [hstep]
      refine ⟨hx.reachable.bind hbind, fun c hc => ?_⟩
      rcases Array.mem_push.1 hc with hold | rfl
      · exact (hx.registered c hold).of_extends (Layout.extends_bind hbind)
      · exact Layout.registered_of_bind hx.reachable hbind
  | request i request =>
    cases hi : x.bindings[i]? with
    | none => simpa [Session.step, hi] using hx
    | some b =>
      have hb := hx.registered b (Array.mem_of_getElem? hi)
      have hstep : x.step (.request i request) = { x with registry :=
          { x.registry with store := b.perform x.registry.store request } } := by
        simp [Session.step, hi]
      rw [hstep]
      -- A request leaves the slots alone.
      exact ⟨hx.reachable.perform hb.partitioned request,
        fun c hc => (hx.registered c hc).of_extends fun _ _ hl => hl⟩

lemma Settled.run (hx : x.Settled) (events : List Event) : (x.run events).Settled :=
  Machine.run_induction (fun _ e hx => hx.step e) hx events

/-- Whatever was bound through a registry with any past, and whatever was done with the bindings in
between: a request on a binding changes no document and no count of a binding of another entity
type. Two bindings of one entity type with equally many shards have the same indexes in the same
order, so what is applied or purged through one of them is applied or purged for the other. -/
theorem neighbours_undisturbed (hr : r.Reachable) (events : List Event)
    (hb : b ∈ ((start r).run events).bindings) (hc : c ∈ ((start r).run events).bindings) :
    let s := ((start r).run events).registry.store
    (b.entity ≠ c.entity → ∀ request,
        (∀ shard, c.documents (b.perform s request) shard = c.documents s shard) ∧
          c.documentCount (b.perform s request) = c.documentCount s) ∧
      (b.entity = c.entity → b.indexes.size = c.indexes.size → c.indexes = b.indexes ∧
        (∀ w v n shard, b.intercept w = some v → (b.apply w s).1 = .ok n →
          c.documents (b.apply w s).2 shard =
            if c.home v.id = shard then v.applyTo (c.documents s shard)
            else c.documents s shard) ∧
        ∀ shard, c.documents (b.purge s) shard = ∅) := by
  intro s
  have hx : ((start r).run events).Settled := (settled_start hr).run events
  have hsound := hx.reachable.sound
  have hb := hx.registered b hb
  have hc := hx.registered c hc
  have hl : b.LivesIn s := hb.livesIn hsound
  constructor
  · intro hne request
    have hsame : ∀ shard, c.documents (b.perform s request) shard = c.documents s shard :=
      Binding.documents_congr fun h hh =>
        hb.partitioned.documents_perform hl (hb.not_mem hc hsound hne h hh) request
    exact ⟨hsame, Binding.documentCount_congr hsame⟩
  · intro hentity hsize
    have hindexes := hb.indexes_eq hc hentity hsize
    have hdocuments : ∀ t shard, c.documents t shard = b.documents t shard := fun t shard => by
      rw [Binding.documents, hindexes, Binding.documents]
    refine ⟨hindexes, fun w v n shard hv hok => ?_, fun shard => ?_⟩
    · rw [hdocuments, hdocuments, Binding.home, hindexes]
      exact hb.partitioned.documents_apply hl hv hok shard
    · rw [hdocuments]
      exact hb.partitioned.documents_purge_eq_empty s shard

/-- An entity type whose only index is called the same as the first index of another one. -/
def namesake : Binding := ⟨"Quote.0", Catalog.unshardedName, .single, #[2], none⟩

/-- Two shards of one entity type and the namesake of the first one. -/
def shared : Registry :=
  Registry.pair.enter ⟨"Quote.0", none⟩ (.create "Quote.0" .empty .never)

lemma lookup?_shared (slot : Slot) : shared.lookup? slot =
    if ⟨"Quote.0", none⟩ = slot then some 2 else Registry.pair.lookup? slot :=
  Registry.lookup?_enter

lemma bind_namesake : Layout.bind ⟨Catalog.unshardedName, [.empty]⟩ "Quote.0" none .memory .pair =
    (.ok namesake, shared) := by
  have hmissing : Registry.pair.lookup? ⟨"Quote.0", none⟩ = none := by
    rw [Registry.lookup?_pair]
    decide
  simp [Layout.bind, Services.memory, Catalog.resolve_standard,
    Catalog.idHashName_ne_unshardedName.symm, Layout.slots, Layout.slot, Layout.shardCount,
    Registry.obtainAll, Registry.obtain, hmissing, Registry.create, Registry.make,
    Registry.insert, IndexFactory.memory, IndexFactory.refusing, Slot.indexName, Strategy.unsharded,
    namesake, shared, Registry.enter, Store.add, Store.size]
  rfl

lemma bind_again (interceptor : Option Interceptor) :
    Layout.bind ⟨Catalog.idHashName, [.empty, .empty]⟩ "Quote" interceptor .memory shared =
      (.ok (.pair interceptor), shared) := by
  refine Layout.bind_idHash interceptor ?_
  simp [Slot.two, Registry.obtainAll, Registry.obtain, lookup?_shared, Registry.lookup?_pair]

def namesakes : List Event :=
  [.bind ⟨Catalog.idHashName, [.empty, .empty]⟩ "Quote" none .memory,
    .bind ⟨Catalog.unshardedName, [.empty]⟩ "Quote.0" none .memory,
    .bind ⟨Catalog.idHashName, [.empty, .empty]⟩ "Quote" (some Binding.rekeying) .memory,
    .request 1 (.apply (.of .add ⟨5, "a"⟩))]

lemma run_namesakes : (start .empty).run namesakes =
    ⟨{ shared with store := shared.store.write 2 (.of .add ⟨5, "a"⟩) },
      #[.pair none, namesake, .pair (some Binding.rekeying)]⟩ := by
  have hpair := Layout.bind_pair none
  have hnamesake := bind_namesake
  have hagain := bind_again (some Binding.rekeying)
  rw [Services.memory] at hpair hnamesake hagain
  simp only [run, namesakes, start, List.foldl_cons, List.foldl_nil, step, hpair, hnamesake, hagain]
  rfl

/-- Two indexes of one name, and two bindings over the same indexes. -/
theorem neighbours_undisturbed_namesakes :
    let x := (start .empty).run namesakes
    let s := x.registry.store
    let b := Binding.pair none
    let c := Binding.pair (some Binding.rekeying)
    x.bindings = #[b, namesake, c] ∧ s.nameOf 0 = s.nameOf 2 ∧
      namesake.documentCount (b.perform s (.apply (.of .add ⟨5, "b"⟩))) = 1 ∧
      namesake.documentCount (b.perform s .purge) = 1 ∧
      (c.documents (b.apply (.of .add ⟨3, "b"⟩) s).2 (c.home 3))[(3 : DocumentId)]? =
        some ⟨3, "b"⟩ := by
  intro x s b c
  have hx : x = _ := run_namesakes
  have hb : b ∈ x.bindings := by simp [hx, b]
  have hn : namesake ∈ x.bindings := by simp [hx]
  have hc : c ∈ x.bindings := by simp [hx, c]
  have hs : s = shared.store.write 2 (.of .add ⟨5, "a"⟩) := by simp [s, hx]
  obtain ⟨hothers, -⟩ := neighbours_undisturbed .empty namesakes hb hn
  obtain ⟨-, hsame⟩ := neighbours_undisturbed .empty namesakes hb hc
  have hcount : namesake.documentCount s = 1 := by
    rw [hs]
    rfl
  have hothers := hothers (by decide)
  have hok : (b.apply (.of .add ⟨3, "b"⟩) s).1 = .ok 1 := by
    rw [hs]
    rfl
  refine ⟨by simp [hx, b, c], ?_, (hothers _).2.trans hcount, (hothers _).2.trans hcount, ?_⟩
  · rw [hs]
    rfl
  · rw [(hsame rfl rfl).2.1 _ _ _ _ rfl hok, Work.id_of, if_pos rfl]
    simp [Work.applyTo, Work.of]

end Session

end ShardedIndex
