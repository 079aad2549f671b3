import ShardedIndex.Index.Registry
import ShardedIndex.Properties.Shards
import ShardedIndex.Routing.Catalog

/-!
# Bindings

A layout fixes the shards of an entity type before any document is indexed: the strategy by name and
the properties of each shard. A binding ties the entity type to the shards: it sends each work to
the indexes that the routing chooses, after an interceptor, if there is one, has had its say.
-/

namespace ShardedIndex

/-! ### Layouts -/

/-- A strategy and the properties of each shard, in shard order. -/
structure Layout where
  strategy : String
  shards : List Properties
  deriving DecidableEq

namespace Layout

/-- The layout of an index in flat properties. The first shard names the strategy; without a name
the number of shards decides. -/
def ofProperties (index : String) (p : Properties) : Except Fault Layout :=
  match p.perShard index with
  | .error fault => .error fault
  | .ok shards   =>
    let named := shards.head?.bind (·.get? Key.strategy)
    .ok ⟨named.getD (Catalog.defaultName shards.length), shards⟩

def shardCount (l : Layout) : Nat := l.shards.length

/-- The slot of a shard: shards are numbered, unless there is only one. -/
def slot (l : Layout) (entity : String) (shard : Nat) : Slot :=
  ⟨entity, if l.shardCount > 1 then some (Text.decimal shard) else none⟩

/-- The slots of an entity type with the properties of their indexes, in shard order. -/
def slots (l : Layout) (entity : String) : List (Slot × Properties) :=
  l.shards.mapIdx fun shard p => (l.slot entity shard, p)

/-- The properties that the strategy is configured with. -/
def strategyProperties (l : Layout) : Properties :=
  (l.shards.headD .empty).lift Key.strategy

end Layout

/-! ### Interceptors -/

/-- What an interceptor makes of a work. -/
inductive Verdict
  | keep
  | skip
  /-- The work becomes an update with its payload. -/
  | update
  /-- The work becomes a delete with its payload. -/
  | remove
  deriving DecidableEq, Repr

/-- The work that a verdict leaves. A work that becomes another one takes the id of its payload. -/
def Verdict.revise : Verdict → Work → Option Work
  | keep, w   => some w
  | skip, _   => none
  | update, w => some (.of .update w.payload)
  | remove, w => some (.of .delete w.payload)

/-- A hook that may drop or change works before they are routed. -/
abbrev Interceptor := Work → Verdict

/-! ### Bindings -/

structure Services where
  factory : IndexFactory
  catalog : Catalog

/-- Indexes in memory and the built-in strategies. -/
def Services.memory : Services := ⟨.memory, .standard⟩

def Services.summary (s : Services) : String :=
  s!"BuildContext \x7b strategies: {s.catalog.summary}, .. \x7d"

/-- An entity type with its routing and the indexes of its shards. -/
structure Binding where
  entity : String
  strategy : String
  routing : Routing
  indexes : Array Handle
  interceptor : Option Interceptor

/-- Bind an entity type: there has to be a shard, the strategy has to exist, every shard gets its
index, and the strategy has to accept the indexes. Indexes that were created stay when a later step
fails. -/
def Layout.bind (l : Layout) (entity : String) (interceptor : Option Interceptor)
    (services : Services) (r : Registry) : Except Fault Binding × Registry :=
  if l.shards.isEmpty then (.error (.entityWithNoShard entity), r)
  else
    match services.catalog.resolve l.strategy with
    | .error fault => (.error fault, r)
    | .ok strategy =>
      match Registry.obtainAll services.factory (l.slots entity) r with
      | (.error fault, r) => (.error fault, r)
      | (.ok handles, r)  =>
        match strategy.configure l.strategyProperties handles.length strategy.fresh with
        | (.error fault, _) => (.error fault, r)
        | (.ok (), routing) => (.ok ⟨entity, l.strategy, routing, handles.toArray, interceptor⟩, r)

namespace Binding

/-- The work that the interceptor leaves. -/
def intercept (b : Binding) (w : Work) : Option Work :=
  match b.interceptor with
  | none             => some w
  | some interceptor => (interceptor w).revise w

/-- The shards that a work goes to, in order, with the work as it goes there. -/
def route (b : Binding) (w : Work) : List (Nat × Work) :=
  match b.intercept w with
  | none   => []
  | some w => (b.routing.choose (.document w.key)).map (·, w)

/-- Send routed works to the indexes of their shards, one after the other up to the first fault. -/
def deliver (b : Binding) : List (Nat × Work) → Store → Except Fault Unit × Store
  | [], s                 => (.ok (), s)
  | (shard, w) :: rest, s =>
    match b.indexes[shard]? with
    | none   => (.error (.shardOutOfRange b.strategy shard b.indexes.size), s)
    | some h =>
      match s.refusal? h w with
      | some fault => (.error fault, s)
      | none       => b.deliver rest (s.write h w)

/-- Route a work and apply it; the result is the number of shards that got it. -/
def apply (b : Binding) (w : Work) (s : Store) : Except Fault Nat × Store :=
  let routed := b.route w
  match b.deliver routed s with
  | (.error fault, s) => (.error fault, s)
  | (.ok (), s)       => (.ok routed.length, s)

/-- Drop the documents of every shard that a broadcast reaches. -/
def purge (b : Binding) (s : Store) : Store :=
  (b.routing.choose .all).foldl (fun s shard =>
    match b.indexes[shard]? with
    | some h => s.purge h
    | none   => s) s

def counts (b : Binding) (s : Store) : List Nat := b.indexes.toList.map s.count

def documentCount (b : Binding) (s : Store) : Nat := (b.counts s).foldl (· + ·) 0

def summary (b : Binding) (s : Store) : String :=
  let indexes := ", ".intercalate (b.indexes.toList.map fun h => s!"<{s.nameOf h}>")
  s!"EntityIndexBinding \x7b entity_type: EntityType({Text.quoted b.entity}), " ++
    s!"strategy: StrategyRef({Text.quoted b.strategy}), index_managers: [{indexes}], " ++
    s!"intercepted: {b.interceptor.isSome} \x7d"

end Binding

end ShardedIndex
