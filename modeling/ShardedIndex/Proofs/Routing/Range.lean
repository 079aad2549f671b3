import Mathlib
import ShardedIndex.Proofs.Binding.Bound
import ShardedIndex.Proofs.Machine

/-!
# Shards in range

A built-in strategy may be configured again and again, with success or not. It always routes as its
last successful configuration says: every document to one shard below the number of index managers,
and a broadcast to each of these shards once.
-/

namespace ShardedIndex

variable {s : Strategy} {r r' : Routing} {p : Properties} {n : Nat} {fault : Fault}

/-! ### Routings -/

/-- A document has one shard below `n`, and a broadcast reaches every shard below `n` once. -/
structure Routing.InRange (r : Routing) (n : Nat) : Prop where
  shardCount : r.shardCount = n
  document : ∀ id, ∃ i < n, r.choose (.document id) = [i]
  all : ∀ i, (r.choose .all).count i = if i < n then 1 else 0

/-- A broadcast reaches the shard of every document. -/
lemma Routing.InRange.mem_all (hr : r.InRange n) {id : String} {i : Nat}
    (hi : i ∈ r.choose (.document id)) : i ∈ r.choose .all := by
  obtain ⟨j, hj, hdocument⟩ := hr.document id
  rw [hdocument, List.mem_singleton] at hi
  subst hi
  rw [← List.count_pos_iff, hr.all, if_pos hj]
  exact Nat.one_pos

namespace Strategy

lemma BuiltIn.inRange (hs : s.BuiltIn) (hc : s.configure p n r = (.ok (), r')) :
    r'.InRange n := by
  obtain ⟨hpos, hcount, hdocument, hall⟩ := hs.of_configure hc
  refine ⟨hcount, fun id => ⟨_, Routing.ordinal_lt id hpos, hdocument id⟩, fun i => ?_⟩
  rw [hall, List.nodup_range.count]
  simp only [List.mem_range]

/-! ### Configurations -/

lemma unsharded_of_error (hc : unsharded.configure p n r = (.error fault, r')) : r' = r := by
  simp only [unsharded] at hc
  split_ifs at hc <;> cases hc
  rfl

lemma idHash_of_error (hc : idHash.configure p n r = (.error fault, r')) : r' = r := by
  simp only [idHash] at hc
  split_ifs at hc with hn
  · cases hc
    rfl
  · split at hc
    · cases hc
      rfl
    · cases hc
    · split_ifs at hc <;> cases hc
      rfl

/-- A built-in strategy checks everything before it changes its routing, so a configuration that
fails changes nothing. -/
lemma BuiltIn.routing_eq_of_error (hs : s.BuiltIn)
    (hc : s.configure p n r = (.error fault, r')) : r' = r := by
  cases hs with
  | unsharded => exact unsharded_of_error hc
  | idHash => exact idHash_of_error hc

/-- How a strategy routes, and how many index managers its last successful configuration had, if
there was one. -/
structure Usage where
  routing : Routing
  managers? : Option Nat

/-- Configure once more. -/
def Usage.configure (s : Strategy) (u : Usage) (call : Properties × Nat) : Usage :=
  match s.configure call.1 call.2 u.routing with
  | (.ok _, routing)    => ⟨routing, some call.2⟩
  | (.error _, routing) => ⟨routing, u.managers?⟩

/-- A strategy that was configured with properties and numbers of index managers, in order. -/
def usage (s : Strategy) (calls : List (Properties × Nat)) : Usage :=
  calls.foldl (Usage.configure s) ⟨s.fresh, none⟩

/-- The routing is that of the last successful configuration, or the one to start with. -/
structure Usage.Sound (s : Strategy) (u : Usage) : Prop where
  fresh : u.managers? = none → u.routing = s.fresh
  inRange : ∀ n, u.managers? = some n → u.routing.InRange n

lemma Usage.Sound.configure {u : Usage} (hu : u.Sound s) (hs : s.BuiltIn)
    (call : Properties × Nat) : (u.configure s call).Sound s := by
  unfold Usage.configure
  split
  · next routing hok =>
    refine ⟨fun hnone => absurd hnone (Option.some_ne_none _), fun n hn => ?_⟩
    cases hn
    exact hs.inRange hok
  · next fault routing herror =>
    obtain rfl := hs.routing_eq_of_error herror
    exact hu

lemma Usage.sound_fresh (s : Strategy) : Usage.Sound s ⟨s.fresh, none⟩ := ⟨fun _ => rfl, nofun⟩

lemma sound_usage (hs : s.BuiltIn) (calls : List (Properties × Nat)) : (s.usage calls).Sound s :=
  Machine.run_induction (P := Usage.Sound s) (fun _ call hu => hu.configure hs call)
    (Usage.sound_fresh s) calls

/-- After any configurations of a built-in strategy, with any properties and numbers of index
managers: one more that fails leaves the routing as it is, without a success the routing is that of
a fresh strategy, and otherwise the number of managers of the last success is the number of shards,
every id has exactly one shard, which is in range, and a broadcast names every shard in range once
and no other, so that it reaches the shard of every id. -/
theorem routes_in_range (hs : s.BuiltIn) (calls : List (Properties × Nat)) :
    let current := (s.usage calls).routing
    (∀ p n fault, (s.configure p n current).1 = .error fault →
        (s.configure p n current).2 = current ∧
          s.usage (calls ++ [(p, n)]) = s.usage calls) ∧
      ((s.usage calls).managers? = none → current = s.fresh) ∧
      ∀ n, (s.usage calls).managers? = some n →
        current.shardCount = n ∧
        (∀ id, ∃ i < n, current.choose (.document id) = [i]) ∧
        (∀ i, (current.choose .all).count i = if i < n then 1 else 0) ∧
        ∀ id, ∀ i ∈ current.choose (.document id), i ∈ current.choose .all := by
  intro current
  have hsound := sound_usage hs calls
  refine ⟨fun p n fault herror => ?_, hsound.fresh, fun n hn => ?_⟩
  · rcases hc : s.configure p n current with ⟨result, r'⟩
    obtain rfl : result = .error fault := (congrArg Prod.fst hc).symm.trans herror
    have hkeep := hs.routing_eq_of_error hc
    refine ⟨hkeep, ?_⟩
    rw [usage, List.foldl_append]
    change (s.usage calls).configure s (p, n) = s.usage calls
    simp only [Usage.configure]
    rw [hc, hkeep]
  · have hrange := hsound.inRange n hn
    exact ⟨hrange.shardCount, hrange.document, hrange.all, fun id i hi => hrange.mem_all hi⟩

/-- Three shards, then two as declared; more than declared and none at all are refused. -/
def rebound : List (Properties × Nat) :=
  [(.empty, 3), (Properties.empty.set Key.shardCount " +02", 2),
    (Properties.empty.set Key.shardCount "2", 5), (.empty, 0)]

theorem routes_in_range_rebound :
    let current := (idHash.usage rebound).routing
    idHash.BuiltIn ∧ (idHash.usage rebound).managers? = some 2 ∧ current.shardCount = 2 ∧
      (∃ i < 2, current.choose (.document "") = [i]) ∧ (current.choose .all).count 1 = 1 ∧
      (current.choose .all).count 2 = 0 := by
  intro current
  have hmanagers : (idHash.usage rebound).managers? = some 2 := by decide
  obtain ⟨-, -, hrange⟩ := routes_in_range .idHash rebound
  obtain ⟨hcount, hdocument, hall, -⟩ := hrange 2 hmanagers
  exact ⟨.idHash, hmanagers, hcount, hdocument "", hall 1, hall 2⟩

end Strategy

end ShardedIndex
