import ShardedIndex.Properties.Basic

/-!
# Sharding strategies

A `Routing` chooses the shards that a work goes to. A `Strategy` is a way to get one: it starts with
a fresh routing and is configured with properties and with the number of index managers that are
bound, which may replace the routing that it has. Routings and strategies are open to new ones;
`unsharded` and `idHash` are built in. The second takes the shard of a document from a 64-bit FNV-1a
hash over the UTF-8 bytes of its id.
-/

namespace ShardedIndex

/-! ### Hash -/

namespace Routing

/-- The value that a hash starts from. -/
def offsetBasis : UInt64 := 14695981039346656037

/-- The odd number that each step multiplies by. -/
def hashPrime : UInt64 := 1099511628211

/-- Take one byte into a hash, modulo 2^64. -/
def hashStep (hash : UInt64) (byte : UInt8) : UInt64 := (hash ^^^ byte.toUInt64) * hashPrime

def hashBytes (bytes : List UInt8) : UInt64 := bytes.foldl hashStep offsetBasis

def utf8Bytes (text : String) : List UInt8 := text.toUTF8.data.toList

def hashOf (id : String) : UInt64 := hashBytes (utf8Bytes id)

/-- The shard of a document id among `shards` shards; the first one when there is no choice. -/
def ordinal (id : String) (shards : Nat) : Nat :=
  if shards ≤ 1 then 0 else (hashOf id).toNat % shards

theorem ordinal_lt (id : String) {shards : Nat} (h : 0 < shards) : ordinal id shards < shards := by
  unfold ordinal
  split
  · exact h
  · exact Nat.mod_lt _ h

end Routing

/-! ### Routings -/

/-- What shards are chosen for. -/
inductive Target
  /-- The document with this id. -/
  | document (id : String)
  /-- Every document. -/
  | all
  deriving DecidableEq, Repr

/-- A choice of shards for every target. -/
structure Routing where
  shardCount : Nat
  choose : Target → List Nat

/-- A way to choose shards. A configuration with properties and a number of index managers takes the
routing so far and leaves the one from then on, also when it fails. -/
structure Strategy where
  fresh : Routing
  configure : Properties → Nat → Routing → Except Fault Unit × Routing

namespace Routing

/-- Every work goes to the only shard. -/
def single : Routing := ⟨1, fun _ => [0]⟩

/-- A document goes to the shard of its hash. -/
def byHash (shards : Nat) : Routing where
  shardCount := shards
  choose
    | .document id => [ordinal id shards]
    | .all         => List.range shards

end Routing

namespace Strategy

/-- No sharding: exactly one index manager, which gets every work. -/
def unsharded : Strategy where
  fresh := .single
  configure _ managers current :=
    if managers ≠ 1 then (.error (.singleManagerExpected managers), current)
    else (.ok (), .single)

/-- Static sharding by the hash of the id. A shard count that is configured has to be the number of
index managers. -/
def idHash : Strategy where
  fresh := .byHash 0
  configure p managers current :=
    if managers = 0 then (.error .noManager, current)
    else
      match p.getCount Key.shardCount with
      | .error fault     => (.error fault, current)
      | .ok none         => (.ok (), .byHash managers)
      | .ok (some count) =>
        if count ≠ managers then
          (.error (.shardCountMismatch Key.shardCount count managers), current)
        else (.ok (), .byHash managers)

/-! ### Drills -/

/-- A strategy that takes a binding where the built-in ones never lead. Its configuration never
fails: the number of index managers fixes the shards of a document and of a broadcast. -/
def drill (document all : Nat → List Nat) : Strategy :=
  let routing (managers : Nat) : Routing :=
    ⟨managers, fun
      | .document _ => document managers
      | .all        => all managers⟩
  ⟨routing 0, fun _ managers _ => (.ok (), routing managers)⟩

/-- A work goes to every shard. -/
def broadcast : Strategy := drill List.range List.range

/-- A work goes to a shard that does not exist. -/
def beyond : Strategy := drill (fun n => [n]) (fun n => List.range (n + 1))

/-- A work goes to the first shard and then to one that does not exist. -/
def halfway : Strategy := drill (fun n => [0, n]) (fun n => List.range (n + 1))

/-- A work goes to no shard. -/
def nowhere : Strategy := drill (fun _ => []) (fun _ => [])

end Strategy

end ShardedIndex
