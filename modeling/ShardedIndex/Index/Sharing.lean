import ShardedIndex.Index.Registry

/-!
# Shared registries

Any number of calls ask one registry for slots at the same time. A call is taken apart into the two
steps of `Registry.obtain`, neither of which another call can interrupt: the look-up, and the
creation after a look-up that found nothing. A schedule is a list of steps in any order; a step that
is not possible changes nothing.
-/

namespace ShardedIndex

/-! ### Calls -/

/-- What a call asks for: the index of a slot, and the means to create it. -/
structure Query where
  slot : Slot
  properties : Properties
  factory : IndexFactory

inductive Progress
  /-- The look-up is still to come. -/
  | asking
  /-- The look-up found nothing. -/
  | missed
  | answered (result : Except Fault Handle)

structure Call where
  query : Query
  progress : Progress

/-- A registry and the calls on it. -/
structure SharedRegistry where
  registry : Registry
  calls : Array Call

/-! ### Steps -/

namespace SharedRegistry

inductive Action
  | look (call : Nat)
  | create (call : Nat)
  /-- Others work on the indexes, or make indexes that the registry does not know. No index is ever
  taken away. -/
  | disturb (store : Store)

/-- A registry without entries, on which no call has taken a step. The indexes that there are belong
to others. -/
def start (store : Store) (queries : Array Query) : SharedRegistry :=
  ⟨⟨∅, store, 0⟩, queries.map (⟨·, .asking⟩)⟩

/-- Put a call in the place of another one. -/
def put (s : SharedRegistry) (i : Nat) (call : Call) : SharedRegistry :=
  { s with calls := s.calls.setIfInBounds i call }

def look (s : SharedRegistry) (i : Nat) : SharedRegistry :=
  match s.calls[i]? with
  | some ⟨query, .asking⟩ =>
    match s.registry.lookup? query.slot with
    | some h => s.put i ⟨query, .answered (.ok h)⟩
    | none   => s.put i ⟨query, .missed⟩
  | _                     => s

def create (s : SharedRegistry) (i : Nat) : SharedRegistry :=
  match s.calls[i]? with
  | some ⟨query, .missed⟩ =>
    let (result, registry) := s.registry.create query.factory query.slot query.properties
    { s with registry }.put i ⟨query, .answered result⟩
  | _                     => s

def disturb (s : SharedRegistry) (store : Store) : SharedRegistry :=
  if s.registry.store.size ≤ store.size then { s with registry := { s.registry with store } } else s

def step (s : SharedRegistry) : Action → SharedRegistry
  | .look i        => s.look i
  | .create i      => s.create i
  | .disturb store => s.disturb store

def run (s : SharedRegistry) (schedule : List Action) : SharedRegistry := schedule.foldl step s

end SharedRegistry

end ShardedIndex
