import ShardedIndex.Routing.Strategy
import ShardedIndex.Text.Quoted

/-!
# Catalog of strategies

Configuration refers to a strategy by name. A catalog turns the name into the strategy registered
under it.
-/

namespace ShardedIndex

structure Catalog where
  strategies : Std.ExtTreeMap String Strategy

namespace Catalog

def unshardedName : String := "none"

/-- The name of the strategy that shards by the hash of the id. -/
def idHashName : String := "id-hash"

def empty : Catalog := ⟨∅⟩

/-- Put a strategy under a name, in place of any that was there. -/
def register (c : Catalog) (name : String) (s : Strategy) : Catalog :=
  ⟨c.strategies.insert name s⟩

def standard : Catalog := (empty.register unshardedName .unsharded).register idHashName .idHash

def contains (c : Catalog) (name : String) : Bool := c.strategies.contains name

/-- The strategy of a name; an unknown name is a fault. -/
def resolve (c : Catalog) (name : String) : Except Fault Strategy :=
  match c.strategies[name]? with
  | some s => .ok s
  | none   => .error (.unknownStrategy name)

def names (c : Catalog) : List String := c.strategies.keys

/-- The strategy chosen when a configuration names none. -/
def defaultName (shards : Nat) : String := if shards > 1 then idHashName else unshardedName

def summary (c : Catalog) : String :=
  let names := ", ".intercalate (c.names.map Text.quoted)
  s!"StrategyCatalog \x7b strategies: [{names}] \x7d"

end Catalog

end ShardedIndex
