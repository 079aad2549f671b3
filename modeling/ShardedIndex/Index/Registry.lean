import Std.Data.HashMap
import ShardedIndex.Index.Store

/-!
# Registry

The index of each slot, a slot being an entity type with an optional shard identifier. Asking for a
slot takes two steps, a look-up and, when that finds nothing, a creation that looks again first;
other callers may come in between. An entry is never replaced or removed. Every call of a factory
that makes an index is counted, whatever becomes of the index.
-/

namespace ShardedIndex

/-- A place for an index: an entity type, and a shard of it unless it has only one. -/
structure Slot where
  entity : String
  shard : Option String
  deriving DecidableEq, Hashable, Repr

/-- The name for the index of a slot. It is a label only: two slots may have one name. -/
def Slot.indexName (slot : Slot) : String :=
  match slot.shard with
  | some shard => Key.join slot.entity shard
  | none       => slot.entity

structure Registry where
  slots : Std.HashMap Slot Handle
  store : Store
  /-- How many times a factory was called with success. -/
  created : Nat

namespace Registry

def empty : Registry := ⟨∅, .empty, 0⟩

/-- The first step: the index of a slot, if it has one. -/
def lookup? (r : Registry) (slot : Slot) : Option Handle := r.slots[slot]?

/-- Call a factory, and count the call if it makes an index. -/
def make (r : Registry) (factory : IndexFactory) (name : String) (p : Properties) :
    Except Fault Index × Registry :=
  match factory name p with
  | .error fault => (.error fault, r)
  | .ok x        => (.ok x, { r with created := r.created + 1 })

/-- Put a new index into the store, and into the slot. -/
def insert (r : Registry) (slot : Slot) (x : Index) : Handle × Registry :=
  let (h, store) := r.store.add x
  (h, { r with slots := r.slots.insert slot h, store })

/-- The second step: the index that the slot got in the meantime, or a new one. When the factory
fails, nothing changes. -/
def create (r : Registry) (factory : IndexFactory) (slot : Slot) (p : Properties) :
    Except Fault Handle × Registry :=
  match r.lookup? slot with
  | some h => (.ok h, r)
  | none   =>
    match r.make factory slot.indexName p with
    | (.error fault, r) => (.error fault, r)
    | (.ok x, r)        =>
      let (h, r) := r.insert slot x
      (.ok h, r)

/-- The index of a slot, created when it has none. -/
def obtain (r : Registry) (factory : IndexFactory) (slot : Slot) (p : Properties) :
    Except Fault Handle × Registry :=
  match r.lookup? slot with
  | some h => (.ok h, r)
  | none   => r.create factory slot p

/-- The indexes of slots, one after the other up to the first fault. -/
def obtainAll (factory : IndexFactory) :
    List (Slot × Properties) → Registry → Except Fault (List Handle) × Registry
  | [], r                => (.ok [], r)
  | (slot, p) :: rest, r =>
    match r.obtain factory slot p with
    | (.error fault, r) => (.error fault, r)
    | (.ok h, r)        =>
      match obtainAll factory rest r with
      | (.error fault, r) => (.error fault, r)
      | (.ok hs, r)       => (.ok (h :: hs), r)

/-- How many slots have an index. -/
def size (r : Registry) : Nat := r.slots.size

def isEmpty (r : Registry) : Bool := r.slots.isEmpty

/-- The names of the indexes in order, one for each slot. -/
def names (r : Registry) : List String := (r.slots.values.map r.store.nameOf).mergeSort

end Registry

end ShardedIndex
