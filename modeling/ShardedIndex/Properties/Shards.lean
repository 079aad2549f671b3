import ShardedIndex.Properties.Basic

/-!
# Properties of shards

An index is configured by flat properties: `index.key` holds for each of its shards and
`index.i.key` for shard `i` alone. `perShard` expands them into the properties of each shard.

Memory has no bound here: there is room for the properties of as many shards as a count can name,
also where a machine would run out of it.
-/

namespace ShardedIndex.Properties

open Text

/-- Whom an entry of an index concerns. -/
inductive Scope
  /-- Every shard. -/
  | shared
  /-- One shard, which reads the entry under `key`. -/
  | override (shard : Nat) (key : String)
  deriving DecidableEq, Repr

/-- The scope of a key, given without the name of its index. Only a word of 64 bits in front of the
first dot and some text after it make an override. -/
def scope (key : String) : Scope :=
  match Key.splitFirst? key with
  | none              => .shared
  | some (head, tail) =>
    if tail = "" then .shared
    else
      match readBelow wordLimit head.toList with
      | some shard => .override shard tail
      | none       => .shared

/-- The entries of an index in key order, without the name of the index. -/
def entriesBelow (p : Properties) (index : String) : List (String × String) :=
  p.toList.filterMap fun (key, value) => (Key.below? index key).map (·, value)

/-- The properties that every shard of an index has. -/
def shared (p : Properties) (index : String) : Properties :=
  ofList ((p.entriesBelow index).filter fun (key, _) => scope key = .shared)

/-- An override: its shard, its key and its text. -/
abbrev Override := Nat × String × String

/-- The overrides of an index, in the order of their full keys. -/
def overrides (p : Properties) (index : String) : List Override :=
  (p.entriesBelow index).filterMap fun (key, value) =>
    match scope key with
    | .shared             => none
    | .override shard key => some (shard, key, value)

/-- The shared properties with the overrides of one shard on top. -/
def overridden (shared : Properties) (overrides : List Override) (shard : Nat) : Properties :=
  shared.setAll (overrides.filterMap fun (i, key, value) =>
    if i = shard then some (key, value) else none)

/-- How many shards an index has: the count configured for it, or one. -/
def shardCount (p : Properties) (index : String) : Except Fault Nat :=
  match (p.shared index).getCount Key.nestedShardCount with
  | .error fault     => .error fault
  | .ok (some 0)     => .error (.zeroShards index Key.nestedShardCount)
  | .ok (some count) => .ok count
  | .ok none         => .ok 1

/-- The properties of each shard of an index, in shard order. Every override has to be for a shard
that the index has. -/
def perShard (p : Properties) (index : String) : Except Fault (List Properties) :=
  match p.shardCount index with
  | .error fault => .error fault
  | .ok count    =>
    let overrides := p.overrides index
    let highest := (overrides.map (·.1)).foldl max 0
    if count ≤ highest then .error (.strayOverride index highest count)
    else
      let shared := p.shared index
      .ok ((List.range count).map (overridden shared overrides))

end ShardedIndex.Properties
