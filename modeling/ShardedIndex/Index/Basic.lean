import Std.Data.ExtTreeMap
import ShardedIndex.Properties.Basic
import ShardedIndex.Work.Basic

/-!
# Indexes

An index holds the documents of one shard and applies works to them. It keeps the latest quote of
each id and nothing else. It may refuse works, which then leave it as it is.
-/

namespace ShardedIndex

/-! ### Documents -/

/-- The latest quote of each id. -/
abbrev Documents := Std.ExtTreeMap DocumentId Quote

/-- The documents after a work: an add or update stores its payload, a delete removes the document
if there is one. -/
def Work.applyTo (w : Work) (docs : Documents) : Documents :=
  match w.kind with
  | .add    => docs.insert w.id w.payload
  | .update => docs.insert w.id w.payload
  | .delete => docs.erase w.id

/-! ### Indexes -/

/-- Which works an index refuses, and why. It may depend on the documents that the index holds. -/
abbrev Refusal := Documents → Work → Option Fault

/-- Nothing is refused. -/
def Refusal.never : Refusal := fun _ _ => none

/-- Refuse the works on some ids, as a drill of what happens then. -/
def Refusal.ofIds (ids : List DocumentId) : Refusal := fun _ w =>
  if w.id ∈ ids then some (.refusedWork w.summary) else none

/-- The documents of one shard. -/
structure Index where
  name : String
  properties : Properties
  refusal : Refusal
  documents : Documents

namespace Index

def create (name : String) (p : Properties) (refusal : Refusal) : Index := ⟨name, p, refusal, ∅⟩

/-- Apply a work that is not refused. -/
def write (x : Index) (w : Work) : Index := { x with documents := w.applyTo x.documents }

def purge (x : Index) : Index := { x with documents := ∅ }

def size (x : Index) : Nat := x.documents.size

def get? (x : Index) (id : DocumentId) : Option Quote := x.documents[id]?

end Index

/-! ### Factories -/

/-- A way to create an index with a name and properties. -/
abbrev IndexFactory := String → Properties → Except Fault Index

namespace IndexFactory

/-- The only kind of storage there is. -/
def memoryProvider : String := "ram"

/-- Indexes in memory that refuse some works. Properties that select another storage are a fault. -/
def refusing (refusal : Refusal) : IndexFactory := fun name p =>
  match p.get? Key.directoryProvider with
  | none          => .ok (.create name p refusal)
  | some provider =>
    if provider = memoryProvider then .ok (.create name p refusal)
    else .error (.unsupportedProvider name Key.directoryProvider provider)

def memory : IndexFactory := refusing .never

end IndexFactory

end ShardedIndex
