import ShardedIndex.Index.Basic

/-!
# Store

All the indexes there are. A handle stands for one of them for ever, so that two parts of a program
that hold the same handle work on the same documents. The journal lists what was done to the
indexes.
-/

namespace ShardedIndex

/-- An index of the store, numbered in order of creation. -/
abbrev Handle := Nat

/-- An entry of the journal. -/
inductive Deed
  | performed (index : String) (work : Work)
  | purged (index : String)
  deriving DecidableEq, Repr

structure Store where
  indexes : Array Index
  journal : Array Deed

namespace Store

def empty : Store := ⟨#[], #[]⟩

/-- How many indexes were ever created. -/
def size (s : Store) : Nat := s.indexes.size

/-- Add an index; its handle is the next number. -/
def add (s : Store) (x : Index) : Handle × Store :=
  (s.indexes.size, { s with indexes := s.indexes.push x })

def get? (s : Store) (h : Handle) : Option Index := s.indexes[h]?

/-- Let an index apply a work that it does not refuse. -/
def write (s : Store) (h : Handle) (w : Work) : Store :=
  if lt : h < s.indexes.size then
    ⟨s.indexes.set h (s.indexes[h].write w), s.journal.push (.performed s.indexes[h].name w)⟩
  else s

def purge (s : Store) (h : Handle) : Store :=
  if lt : h < s.indexes.size then
    ⟨s.indexes.set h s.indexes[h].purge, s.journal.push (.purged s.indexes[h].name)⟩
  else s

/-- The documents of an index; none without an index. -/
def documents (s : Store) (h : Handle) : Documents := ((s.get? h).map (·.documents)).getD ∅

/-- What an index refuses; nothing without an index. -/
def refusalOf (s : Store) (h : Handle) : Refusal := ((s.get? h).map (·.refusal)).getD .never

/-- Why an index refuses a work, if it does. -/
def refusal? (s : Store) (h : Handle) (w : Work) : Option Fault := s.refusalOf h (s.documents h) w

def count (s : Store) (h : Handle) : Nat := (s.documents h).size

def nameOf (s : Store) (h : Handle) : String := ((s.get? h).map (·.name)).getD ""

end Store

end ShardedIndex
