import Mathlib
import ShardedIndex.Proofs.Binding.Holding
import ShardedIndex.Proofs.Load.Trace

/-!
# Tracking a load

What the writers have done to the ledger and to the documents. All works on one document are with
one writer, and a writer works off its inbox in order, so each writer accounts for a part of the
ledger and of the works applied so far that is a first part of its inbox, and nobody else touches
it. Between applying a work and confirming it a writer is one work ahead of the ledger.
-/

namespace ShardedIndex

/-! ### Owners -/

/-- Restricted to one owner, what is listed for each owner is what is listed for that one. -/
lemma filter_filterMap_range {α : Type} {owner : α → Nat} {f : Nat → Option α}
    (howner : ∀ i a, f i = some a → owner a = i) (n i : Nat) :
    ((List.range n).filterMap f).filter (owner · = i) =
      if i < n then (f i).toList else [] := by
  induction n with
  | zero => rfl
  | succ n ih =>
    have hlast : ([n].filterMap f).filter (owner · = i) = if n = i then (f n).toList else [] := by
      cases hf : f n with
      | none => simp [hf]
      | some a =>
        have hn : owner a = n := howner n a hf
        rw [List.filterMap_cons_some hf, List.filterMap_nil, List.filter_singleton, hn]
        simp [Bool.cond_decide]
    rw [List.range_succ, List.filterMap_append, List.filter_append, ih, hlast]
    rcases Nat.lt_trichotomy i n with hlt | rfl | hgt
    · simp [hlt, hlt.ne', Nat.lt_succ_of_lt hlt]
    · simp
    · simp [hgt.ne, hgt.not_gt, Nat.not_lt_of_le (Nat.succ_le_of_lt hgt)]

/-- Sequences agree when they agree for each writer. -/
lemma Load.sameHistories_of_writers {σ : Type} {l : Load σ} (hpos : 0 < l.writers.size)
    {xs ys : List Work} (h : ∀ i x, l.writers[i]? = some x →
      xs.filter (l.writerOf · = i) = ys.filter (l.writerOf · = i)) : SameHistories xs ys := by
  intro id
  let i := Routing.ordinal (Text.decimal id.toNat) l.writers.size
  -- All works on the document are with one writer.
  have hworks : ∀ zs : List Work, worksOn id zs = worksOn id (zs.filter (l.writerOf · = i)) := by
    intro zs
    rw [worksOn, worksOn, List.filter_filter]
    refine List.filter_congr fun w _ => ?_
    by_cases hid : w.id = id
    · simp [hid, writerOf, Work.key, i]
    · simp [hid]
  rw [hworks xs, hworks ys, h i _ (Array.getElem?_eq_getElem (Routing.ordinal_lt _ hpos))]

/-! ### One writer -/

/-- How many works a writer is busy with: it has taken them but not confirmed them. -/
def Stage.inHand : Stage → Nat
  | idle => 0
  | _    => 1

/-- What the writer `i` accounts for in the confirmations and in the works applied so far, by the
works that it was handed. -/
structure Writer.Follows (owner : Work → Nat) (confirmed : List (Nat × Work)) (applied : List Work)
    (i : Nat) (x : Writer) : Prop where
  taken_eq : x.taken = x.confirmed + x.stage.inHand
  taken_le : x.taken ≤ x.inbox.size
  inHand : ∀ w, x.stage.work? = some w → x.inbox[x.confirmed]? = some w
  owned : ∀ w ∈ x.inbox.toList, owner w = i
  confirmed_eq : (confirmed.filter (·.1 = i)).map Prod.snd = x.inbox.toList.take x.confirmed
  applied_eq : applied.filter (owner · = i) =
    x.inbox.toList.take x.confirmed ++ x.stage.pending?.toList

namespace Writer.Follows

variable {owner : Work → Nat} {confirmed : List (Nat × Work)} {applied : List Work} {i j : Nat}
  {x : Writer} {w : Work} {fault : Fault}

lemma confirmed_le (hx : x.Follows owner confirmed applied i) : x.confirmed ≤ x.inbox.size := by
  have htaken := hx.taken_eq
  have hle := hx.taken_le
  omega

/-- A writer is only busy with works of its own. -/
lemma owner_eq (hx : x.Follows owner confirmed applied i) (hw : x.stage.work? = some w) :
    owner w = i :=
  hx.owned w (by simpa using Array.mem_of_getElem? (hx.inHand w hw))

/-- A writer follows more works that it is handed. -/
lemma send (hx : x.Follows owner confirmed applied i) (hw : owner w = i) :
    Writer.Follows owner confirmed applied i { x with inbox := x.inbox.push w } := by
  have htake : (x.inbox.push w).toList.take x.confirmed = x.inbox.toList.take x.confirmed := by
    rw [Array.toList_push, List.take_append_of_le_length]
    simpa using hx.confirmed_le
  refine ⟨hx.taken_eq, ?_, ?_, ?_, ?_, ?_⟩
  · simpa using Nat.le_succ_of_le hx.taken_le
  · intro v hv
    obtain ⟨hlt, hget⟩ := Array.getElem?_eq_some_iff.1 (hx.inHand v hv)
    rw [Array.getElem?_push_lt hlt, hget]
  · simpa [or_imp, forall_and, hw] using hx.owned
  · rw [htake]
    exact hx.confirmed_eq
  · rw [htake]
    exact hx.applied_eq

lemma take (hx : x.Follows owner confirmed applied i) (hs : x.stage = .idle)
    (hw : x.inbox[x.taken]? = some w) : Writer.Follows owner confirmed applied i
      { x with taken := x.taken + 1, stage := .holding w } := by
  have htaken : x.taken = x.confirmed := by simpa [hs, Stage.inHand] using hx.taken_eq
  refine ⟨by simp [htaken, Stage.inHand], (Array.getElem?_eq_some_iff.1 hw).1, ?_, hx.owned,
    hx.confirmed_eq, ?_⟩
  · intro v hv
    rw [← htaken, hw]
    exact hv
  · simpa [hs, Stage.pending?] using hx.applied_eq

/-- The works of an apply are the next ones of the writer. -/
lemma apply (hx : x.Follows owner confirmed applied i) (hs : x.stage = .holding w)
    (hw : owner w = i) :
    Writer.Follows owner confirmed (applied ++ [w]) i { x with stage := .applied w } := by
  refine ⟨by simpa [hs, Stage.inHand] using hx.taken_eq, hx.taken_le, ?_, hx.owned,
    hx.confirmed_eq, ?_⟩
  · simpa [hs, Stage.work?] using hx.inHand
  · have happlied := hx.applied_eq
    simp only [hs, Stage.pending?, Option.toList_none, List.append_nil] at happlied
    simp [happlied, hw, Stage.pending?]

/-- The work of a failed apply is left out. -/
lemma stop (hx : x.Follows owner confirmed applied i) (hs : x.stage = .holding w) :
    Writer.Follows owner confirmed applied i { x with stage := .failed fault } := by
  refine ⟨by simpa [hs, Stage.inHand] using hx.taken_eq, hx.taken_le, by simp [Stage.work?],
    hx.owned, hx.confirmed_eq, ?_⟩
  simpa [hs, Stage.pending?] using hx.applied_eq

lemma close (hx : x.Follows owner confirmed applied i) (hs : x.stage = .failed fault) :
    Writer.Follows owner confirmed applied i { x with stage := .closed fault } := by
  refine ⟨by simpa [hs, Stage.inHand] using hx.taken_eq, hx.taken_le, by simp [Stage.work?],
    hx.owned, hx.confirmed_eq, ?_⟩
  simpa [hs, Stage.pending?] using hx.applied_eq

lemma confirm (hx : x.Follows owner confirmed applied i) (hs : x.stage = .applied w) :
    Writer.Follows owner (confirmed ++ [(i, w)]) applied i
      { x with stage := .idle, confirmed := x.confirmed + 1 } := by
  have hget : x.inbox.toList[x.confirmed]? = some w := by
    simpa using hx.inHand w (by rw [hs]; rfl)
  have htake : x.inbox.toList.take (x.confirmed + 1) = x.inbox.toList.take x.confirmed ++ [w] := by
    rw [List.take_add_one, hget, Option.toList_some]
  refine ⟨by simpa [hs, Stage.inHand] using hx.taken_eq, hx.taken_le, by simp [Stage.work?],
    hx.owned, ?_, ?_⟩
  · rw [htake, ← hx.confirmed_eq]
    simp
  · rw [htake]
    simpa [hs, Stage.pending?] using hx.applied_eq

/-- What one writer applies does not concern another one. -/
lemma frame_applied (hx : x.Follows owner confirmed applied i) (hw : owner w ≠ i) :
    x.Follows owner confirmed (applied ++ [w]) i :=
  { hx with applied_eq := by simpa [hw] using hx.applied_eq }

/-- What one writer confirms does not concern another one. -/
lemma frame_confirmed (hx : x.Follows owner confirmed applied i) (hj : j ≠ i) :
    x.Follows owner (confirmed ++ [(j, w)]) applied i :=
  { hx with confirmed_eq := by simpa [hj] using hx.confirmed_eq }

end Writer.Follows

/-! ### All writers -/

/-- What a store has come to since its indexes were empty: the works so far were applied to the
binding, as the interceptor left them. -/
structure Binding.Took (b : Binding) (t : Store) (applied : List Work) : Prop where
  livesIn : b.LivesIn t
  holds : b.Holds t (contents (b.intercepted applied))

namespace Load

variable {σ : Type} {b : Binding} {s : Store} {l l' : Load σ} {a : Action} {i : Nat}
  {x y : Writer} {confirmed confirmed' : List (Nat × Work)} {applied applied' : List Work}

/-- What the writers of a load have come to since it started: the confirmations, with the writer of
each, and the works applied so far, in the order of their applies. -/
structure Accounted (l : Load σ) (confirmed : List (Nat × Work)) (applied : List Work) : Prop where
  writers_pos : 0 < l.writers.size
  follows : ∀ i x, l.writers[i]? = some x → Writer.Follows l.writerOf confirmed applied i x
  owned : ∀ p ∈ confirmed, l.writerOf p.2 = p.1
  ledger_eq : l.audit.ledger.works.toList = confirmed.map Prod.snd
  count_eq : l.total Writer.confirmed = confirmed.length

/-- What a load without an interceptor has come to since it started with empty indexes. -/
structure Tracked (b : Binding) (l : Load σ) (confirmed : List (Nat × Work))
    (applied : List Work) : Prop extends Accounted l confirmed applied where
  took : b.Took l.store applied
  interceptor_eq : b.interceptor = none

lemma Tracked.holds (ht : Tracked b l confirmed applied) : b.Holds l.store (contents applied) :=
  Binding.intercepted_of_none ht.interceptor_eq applied ▸ ht.took.holds

lemma accounted_start {audit : AuditedWorkload σ} (hledger : audit.ledger = .empty) (s : Store)
    (writers : Nat) : Accounted (start audit s writers) [] [] := by
  constructor
  · exact size_writers_start_pos audit s writers
  · intro i x hx
    obtain rfl := eq_fresh_of_start hx
    constructor <;> simp [Writer.fresh, Stage.inHand, Stage.work?, Stage.pending?]
  · simp
  · simp [start, hledger, Ledger.empty]
  · exact total_start Writer.confirmed rfl audit s writers

lemma writerOf_set (hset : l'.writers = (l.put i y).writers) : l'.writerOf = l.writerOf := by
  funext w
  rw [writerOf, writerOf, hset, size_writers_put]

/-- A writer moves; the others stay where they are. -/
lemma Accounted.follows_set (hl : Accounted l confirmed applied) (hx : l.writers[i]? = some x)
    (hset : l'.writers = (l.put i y).writers)
    (hy : Writer.Follows l.writerOf confirmed applied i x →
      Writer.Follows l.writerOf confirmed' applied' i y)
    (hframe : ∀ j z, j ≠ i → Writer.Follows l.writerOf confirmed applied j z →
      Writer.Follows l.writerOf confirmed' applied' j z) :
    ∀ j z, l'.writers[j]? = some z → Writer.Follows l'.writerOf confirmed' applied' j z := by
  intro j z hz
  rw [hset, getElem?_put hx] at hz
  rw [writerOf_set hset]
  split_ifs at hz with hij
  · subst hij
    obtain rfl : y = z := Option.some.inj hz
    exact hy (hl.follows _ x hx)
  · exact hframe j z (Ne.symm hij) (hl.follows j z hz)

lemma size_set_pos (hl : Accounted l confirmed applied)
    (hset : l'.writers = (l.put i y).writers) : 0 < l'.writers.size := by
  rw [hset, size_writers_put]
  exact hl.writers_pos

/-- A move that is neither an apply nor a confirmation. -/
lemma Accounted.keep (hl : Accounted l confirmed applied) (hx : l.writers[i]? = some x)
    (hset : l'.writers = (l.put i y).writers) (hledger : l'.audit.ledger = l.audit.ledger)
    (hconfirmed : y.confirmed = x.confirmed)
    (hy : Writer.Follows l.writerOf confirmed applied i x →
      Writer.Follows l.writerOf confirmed applied i y) :
    Accounted l' confirmed applied where
  writers_pos := size_set_pos hl hset
  follows := hl.follows_set hx hset hy fun _ _ _ hz => hz
  owned := writerOf_set hset ▸ hl.owned
  ledger_eq := hledger ▸ hl.ledger_eq
  count_eq := by
    have htotal := total_set Writer.confirmed hx hset
    have hcount := hl.count_eq
    omega

variable {w : Work} {n : Nat} {store : Store}

lemma Accounted.apply (hl : Accounted l confirmed applied) (hx : l.writers[i]? = some x)
    (hs : x.stage = .holding w) (store : Store) :
    Accounted ({ l with store }.put i { x with stage := .applied w }) confirmed
      (applied ++ [w]) := by
  have hset : ({ l with store }.put i { x with stage := .applied w }).writers =
      (l.put i { x with stage := .applied w }).writers := rfl
  have howner : l.writerOf w = i := (hl.follows i x hx).owner_eq (by rw [hs]; rfl)
  constructor
  · exact size_set_pos hl hset
  · exact hl.follows_set hx hset (fun hy => hy.apply hs howner) fun j z hj hz =>
      hz.frame_applied (howner ▸ hj.symm)
  · rw [writerOf_set hset]
    exact hl.owned
  · exact hl.ledger_eq
  · have htotal := total_set Writer.confirmed hx hset
    rw [hl.count_eq] at htotal
    exact Nat.add_right_cancel htotal

/-- The ledger follows the confirmations. -/
lemma Accounted.confirm (hl : Accounted l confirmed applied) (hx : l.writers[i]? = some x)
    (hs : x.stage = .applied w) :
    Accounted ({ l with audit := l.audit.confirm w }.put i
      { x with stage := .idle, confirmed := x.confirmed + 1 }) (confirmed ++ [(i, w)]) applied := by
  have hset : ({ l with audit := l.audit.confirm w }.put i
      { x with stage := .idle, confirmed := x.confirmed + 1 }).writers =
      (l.put i { x with stage := .idle, confirmed := x.confirmed + 1 }).writers := rfl
  have howner : l.writerOf w = i := (hl.follows i x hx).owner_eq (by rw [hs]; rfl)
  constructor
  · exact size_set_pos hl hset
  · exact hl.follows_set hx hset (fun hy => hy.confirm hs) fun j z hj hz =>
      hz.frame_confirmed hj.symm
  · rw [writerOf_set hset]
    intro p hmem
    rcases List.mem_append.1 hmem with hmem | hmem
    · exact hl.owned p hmem
    · obtain rfl := List.mem_singleton.1 hmem
      exact howner
  · simp [put, AuditedWorkload.confirm, hl.ledger_eq]
  · have htotal := total_set Writer.confirmed hx hset
    rw [hl.count_eq] at htotal
    rw [List.length_append, List.length_singleton]
    simp only at htotal
    omega

end Load

/-! ### The store -/

namespace Binding.Took

variable {b : Binding} {s t t' : Store} {applied : List Work} {w : Work} {n : Nat}

lemma start (hb : b.Fresh s) : b.Took s [] := ⟨hb.livesIn, hb.holds_empty⟩

/-- The documents follow the works that are applied. -/
lemma apply (ht : b.Took t applied) (hp : b.Partitioned) (ha : b.apply w t = (.ok n, t')) :
    b.Took t' (applied ++ [w]) := by
  cases hp.applied ha with
  | skipped hnone =>
    have hsame : b.intercepted (applied ++ [w]) = b.intercepted applied := by
      simp [intercepted_concat, hnone]
    exact ⟨ht.livesIn, hsame ▸ ht.holds⟩
  | @written v h hv hh hf =>
    have hmore : b.intercepted (applied ++ [w]) = b.intercepted applied ++ [v] := by
      simp [intercepted_concat, hv]
    constructor
    · exact fun h hh => by simpa using ht.livesIn h hh
    · rw [hmore, contents_concat]
      exact ht.holds.write hp ht.livesIn hh

end Binding.Took

/-! ### Runs -/

namespace Load

variable {σ : Type} [RandomSource σ] {b : Binding} {s : Store} {l l' : Load σ} {a : Action}
  {confirmed : List (Nat × Work)} {applied : List Work}

lemma Move.accounted (hm : Move b l a l') (hp : b.Partitioned)
    (hl : Accounted l confirmed applied) (ht : b.Took l.store applied) :
    ∃ applied', Accounted l' (confirmed ++ (l.confirmation? a).toList) applied' ∧
      b.Took l'.store applied' := by
  cases hm with
  | exhaust hd hnext =>
    simp only [confirmation?, Option.toList_none, List.append_nil]
    exact ⟨applied, { hl with }, ht⟩
  | lose hd hnext hx hs =>
    have hledger := (AuditedWorkload.next?_eq_some hnext).2
    simp only [confirmation?, Option.toList_none, List.append_nil]
    exact ⟨applied, { hl with ledger_eq := hledger ▸ hl.ledger_eq }, ht⟩
  | send hd hnext hx hs =>
    have hledger := (AuditedWorkload.next?_eq_some hnext).2
    simp only [confirmation?, Option.toList_none, List.append_nil]
    exact ⟨applied, hl.keep hx rfl hledger rfl fun hy => hy.send rfl, ht⟩
  | take hx hs hw =>
    simp only [confirmation?, Option.toList_none, List.append_nil]
    exact ⟨applied, hl.keep hx rfl rfl rfl fun hy => hy.take hs hw, ht⟩
  | apply hx hs ha =>
    simp only [confirmation?, Option.toList_none, List.append_nil]
    exact ⟨_, hl.apply hx hs _, ht.apply hp ha⟩
  | refuse hx hs ha =>
    simp only [confirmation?, Option.toList_none, List.append_nil]
    cases hp.applied ha with
    | refused hv hh hf => exact ⟨applied, hl.keep hx rfl rfl rfl fun hy => hy.stop hs, ht⟩
  | fail hx hs =>
    simp only [confirmation?, Option.toList_none, List.append_nil]
    exact ⟨applied, hl.keep hx rfl rfl rfl fun hy => hy.stop hs, ht⟩
  | confirm hx hs =>
    simp only [confirmation?, stageOf_eq hx, hs, Stage.pending?, Option.map_some,
      Option.toList_some]
    exact ⟨applied, hl.confirm hx hs, ht⟩
  | close hx hs =>
    simp only [confirmation?, Option.toList_none, List.append_nil]
    exact ⟨applied, hl.keep hx rfl rfl rfl fun hy => hy.close hs, ht⟩

/-- A run is accounted for by its confirmations, whatever the interceptor. -/
lemma accounted_confirmations (hb : b.Fresh s) (audit : AuditedWorkload σ)
    (hledger : audit.ledger = .empty) (writers : Nat) (schedule : List Action) :
    ∃ applied, Accounted ((start audit s writers).run b schedule)
        (confirmations b (start audit s writers) schedule) applied ∧
      b.Took ((start audit s writers).run b schedule).store applied :=
  run_induction (P := fun l confirmed => ∃ applied, Accounted l confirmed applied ∧
      b.Took l.store applied)
    (fun hm ⟨_, hl, ht⟩ => hm.accounted hb.partitioned hl ht) confirmation?_eq_none
    (size_writers_start_pos audit s writers)
    ⟨[], accounted_start hledger s writers, .start hb⟩ schedule

/-- A run without an interceptor is tracked by its confirmations. -/
lemma tracked_confirmations (hb : b.Fresh s) (hi : b.interceptor = none)
    (audit : AuditedWorkload σ) (hledger : audit.ledger = .empty) (writers : Nat)
    (schedule : List Action) :
    ∃ applied, Tracked b ((start audit s writers).run b schedule)
      (confirmations b (start audit s writers) schedule) applied := by
  obtain ⟨applied, hl, ht⟩ := accounted_confirmations hb audit hledger writers schedule
  exact ⟨applied, { hl with took := ht, interceptor_eq := hi }⟩

end Load

end ShardedIndex
